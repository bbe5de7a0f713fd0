import Tftp.Proofs.Receiving

/-!
# The contents of a received file

What a whole call that receives a file leaves in the file: the payloads that one pass over the
outcomes of the waits accepts, one after the other.

Results:
* `at_taken_of_runs`: what a receiver took is what the pass over the outcomes accepts.
* **`receiveFile_contents`**: the file, the count of bytes and the outcome, after every run of
  `receiveFile` in which nothing failed to be stored.

The specification accepts a block if its number is the next one, and stores the blocks in that order
(§4.6). Seen from the end of a run this says that the file is a function of what arrived, and of
nothing that the receiver did in between: retries, repeated acknowledgements and deadlines leave no
trace in it.

Out of scope: runs in which something could not be stored (`Tftp.Proofs.Receiving.Unstored`), and an
existing file, which is emptied before a transfer begins.
-/

namespace Tftp.Receiver

/-- The payload that is on its way to the file. -/
def storing? (r : Receiver) : Option Bytes :=
  match r.phase with
  | .writing _ p | .flushing _ p => some p
  | _ => none

variable {B maxRetries : Nat} {traffic : Traffic} {k : Intake} {f f' : OutputFile}
  {r t : Receiver} {es : List Event}

/-! ## States -/

/-- Unless a payload is on its way to the file, all that was taken is stored and counted. -/
theorem At.settled (h : At B k f r) (idle : r.storing? = none) (intact : k.refused = false) :
    Settled k f r.accepted r.transferred := by
  have hphase := h.phase
  unfold storing? at idle
  unfold PhaseAt at hphase
  split at hphase
  · exact hphase.1
  · exact hphase.1
  · exact hphase.1
  · rename_i hp
    rw [hp] at idle
    cases idle
  · rename_i hp
    rw [hp] at idle
    cases idle
  · rw [intact] at hphase
    exact nomatch hphase.2
  · exact hphase.1
  · exact hphase.1
  · rw [intact] at hphase
    rcases hphase with ⟨hs, -⟩ | ⟨-, href⟩
    · exact hs
    · cases href

theorem At.storing (h : At B k f r) {p : Bytes} (busy : r.storing? = some p) :
    Storing k f r.accepted r.transferred p := by
  unfold storing? at busy
  split at busy
  · rename_i hp
    cases busy
    exact (h.phaseAt hp).1
  · rename_i hp
    cases busy
    exact (h.phaseAt hp).1
  · cases busy

/-! ## Runs -/

/-- What a receiver took is what the pass over the outcomes accepts. -/
theorem at_taken_of_runs (run : Runs ask? (Receiver.new B maxRetries traffic).receiveFile es t)
    (file : Along Writes .empty es f) :
    At B (intake B es) f t ∧ (intake B es).taken = acceptedPayloads B 0 (outcomes es) := by
  refine run.induction_along (P := fun es t f =>
    At B (intake B es) f t ∧ (intake B es).taken = acceptedPayloads B 0 (outcomes es)) file
    ⟨at_receiveFile B maxRetries traffic, rfl⟩ ?_
  rintro es u f call resume answer f' ⟨h, htaken⟩ asks writes
  rw [intake_snoc, outcomes_append, outcomes_singleton]
  refine ⟨h.next asks writes, ?_⟩
  by_cases hwait : Event.outcome? ⟨call, answer⟩ = none
  · have hsilent : ∀ room datagram,
        Event.mk call answer ≠ ⟨.receiveDatagram room, .ok datagram⟩ := by
      rintro room datagram he
      rw [he] at hwait
      cases hwait
    rw [Intake.next_taken hsilent, hwait, htaken]
    exact (congrArg _ (List.append_nil _)).symm
  · have hfull := h.full (outcome?_ne_ok_of_asks asks)
    rw [h.acknowledged_of_waits asks hwait, htaken] at hfull
    cases call with
    | receiveDatagram room =>
      rw [Intake.next_receive, htaken]
      show _ = acceptedPayloads B 0 (outcomes es ++ [answer])
      rw [acceptedPayloads_append hfull, acceptedPayloads_singleton, Nat.zero_add]
    | _ => exact absurd rfl hwait

/-- A receiver returns normally with the acknowledgement of a last payload, and only then. -/
theorem outcome?_eq_ok_iff_of_runs
    (run : Runs ask? (Receiver.new B maxRetries traffic).receiveFile es t)
    (file : Along Writes .empty es f) :
    t.outcome? = some (.ok ()) ↔
      (∃ earlier p, acceptedPayloads B 0 (outcomes es) = earlier ++ [p] ∧ p.length < B) ∧
        es.getLast? = some ⟨.sendDatagram (Packet.ack
          (wireNumber (acceptedPayloads B 0 (outcomes es)).length)).encode, .ok ()⟩ := by
  obtain ⟨h, htaken⟩ := at_taken_of_runs run file
  rw [← htaken]
  induction es using List.reverseRecOn with
  | nil =>
    cases run
    exact ⟨nofun, fun hlast => nomatch hlast.2⟩
  | append_singleton es e _ =>
    obtain ⟨u, resume, before, asks, rfl⟩ := runs_snoc_iff.mp run
    obtain ⟨g, beside, writes⟩ := along_snoc_iff.mp file
    obtain ⟨hu, -⟩ := at_taken_of_runs before beside
    rw [List.getLast?_concat, Option.some_inj]
    constructor
    · intro hok
      obtain ⟨-, hack, earlier, p, hlast, -, hshort⟩ := h.ended hok
      -- The receiver was under way before, so its last payload was not acknowledged yet.
      have hne : ((intake B es).next B e).acknowledged ≠ (intake B es).acknowledged := by
        intro heq
        rw [← intake_snoc, hack, hlast] at heq
        have hfull := hu.full (outcome?_ne_ok_of_asks asks)
        rw [← heq, full_snoc] at hfull
        exact Nat.not_lt_of_le hfull.2 hshort
      have he := Intake.next_acknowledged hne
      refine ⟨⟨earlier, p, hlast, hshort⟩, ?_⟩
      rw [intake_snoc, Intake.next_taken (by rw [he]; nofun)]
      exact he
    · rintro ⟨⟨earlier, p, hlast, hshort⟩, he⟩
      by_contra hok
      have hfull := h.full hok
      have hsame : (intake B (es ++ [e])).taken = (intake B es).taken := by
        rw [intake_snoc, Intake.next_taken (by rw [he]; nofun)]
      rw [hsame] at he hlast
      rw [intake_snoc, he, Intake.next_sent, if_pos rfl] at hfull
      change Full B (intake B es).taken at hfull
      rw [hlast, full_snoc] at hfull
      exact Nat.not_lt_of_le hfull.2 hshort

/-- **The contents of a received file.** After any run of `receiveFile` on an empty file, whatever
the waits brought, in which nothing failed to be stored:

* the file holds exactly the accepted payloads, and their length is what is counted;
* while the last of them is on its way, the file holds at least those before it, which are counted;
* outcomes of waits that are not accepted leave the file as it is;
* the call has returned normally if and only if a payload shorter than `B` was accepted, and its
  acknowledgement was sent. -/
theorem receiveFile_contents
    (run : Runs ask? (Receiver.new B maxRetries traffic).receiveFile es t)
    (file : Along Writes .empty es f) (intact : ∀ e ∈ es, ¬ e.IsWriteFailure) :
    (t.storing? = none → f.stored = (acceptedPayloads B 0 (outcomes es)).flatten ∧
        t.transferred = f.stored.length) ∧
      (∀ p, t.storing? = some p → ∃ earlier, acceptedPayloads B 0 (outcomes es) = earlier ++ [p] ∧
        earlier.flatten <+: f.stored ∧
        f.stored <+: (acceptedPayloads B 0 (outcomes es)).flatten ∧
        t.transferred = earlier.flatten.length) ∧
      (∀ gs u g, t.storing? = none → Runs ask? t gs u → Along Writes f gs g →
        (∀ answer ∈ outcomes gs,
          accepts? B (acceptedPayloads B 0 (outcomes es)).length answer = none) →
        g.stored = f.stored) ∧
      (t.outcome? = some (.ok ()) ↔
        (∃ earlier p, acceptedPayloads B 0 (outcomes es) = earlier ++ [p] ∧ p.length < B) ∧
          es.getLast? = some ⟨.sendDatagram (Packet.ack
            (wireNumber (acceptedPayloads B 0 (outcomes es)).length)).encode, .ok ()⟩) := by
  obtain ⟨h, htaken⟩ := at_taken_of_runs run file
  have hintact : (intake B es).refused = false := intake_refused intact
  refine ⟨fun hidle => ?_, fun p hbusy => ?_, fun gs u g hidle further beside rejected => ?_,
    outcome?_eq_ok_iff_of_runs run file⟩
  · have hs := h.settled hidle hintact
    rw [hs.counted.bytes, hs.file, ← htaken]
    exact ⟨rfl, rfl⟩
  · have hs := h.storing hbusy
    rw [← htaken]
    exact ⟨_, hs.taken, hs.earlier, hs.within, hs.counted.bytes⟩
  · obtain ⟨h', htaken'⟩ := at_taken_of_runs (run.append further) (file.append beside)
    have hwithin := h'.stored_prefix
    rw [← Nat.zero_add (acceptedPayloads B 0 (outcomes es)).length] at rejected
    rw [htaken', outcomes_append, acceptedPayloads_append_of_rejected rejected, ← htaken] at hwithin
    have hgrown := stored_prefix_of_along beside
    rw [(h.settled hidle hintact).file] at hgrown ⊢
    exact hwithin.eq_of_length (Nat.le_antisymm hwithin.length_le hgrown.length_le)

/-- A trace of the two blocks of a file of three bytes; the first one comes twice. -/
def twoBlockTrace : List Event :=
  [⟨.pollCancelled, false⟩,
    ⟨.receiveDatagram 6, .ok ⟨.unspecified, [0, 3, 0, 1, 7, 8]⟩⟩,
    ⟨.writeBytes [7, 8], .ok ()⟩, ⟨.flush, .ok ()⟩, ⟨.sendDatagram [0, 4, 0, 1], .ok ()⟩,
    ⟨.pollCancelled, false⟩,
    ⟨.receiveDatagram 6, .ok ⟨.unspecified, [0, 3, 0, 1, 7, 8]⟩⟩,
    ⟨.sendDatagram [0, 4, 0, 1], .ok ()⟩, ⟨.pollCancelled, false⟩,
    ⟨.receiveDatagram 6, .ok ⟨.unspecified, [0, 3, 0, 2, 9]⟩⟩,
    ⟨.writeBytes [9], .ok ()⟩, ⟨.flush, .ok ()⟩, ⟨.sendDatagram [0, 4, 0, 2], .ok ()⟩]

theorem runs_twoBlockTrace :
    ∃ t, Runs ask? (Receiver.new 2 3 .zero).receiveFile twoBlockTrace t ∧ t.storing? = none := by
  refine ⟨_, .cons _ rfl (.cons _ rfl (.cons _ rfl (.cons _ rfl (.cons _ rfl (.cons _ rfl
    (.cons _ rfl (.cons _ rfl (.cons _ rfl (.cons _ rfl (.cons _ rfl (.cons _ rfl
      (.cons _ rfl (.nil _))))))))))))), ?_⟩
  rfl

theorem along_twoBlockTrace : Along Writes .empty twoBlockTrace ⟨[7, 8, 9], []⟩ := by
  refine .cons rfl (.cons rfl (.cons ⟨[], [7, 8], rfl, rfl⟩ (.cons rfl (.cons rfl (.cons rfl
    (.cons rfl (.cons rfl (.cons rfl (.cons rfl (.cons ⟨[9], [], rfl, rfl⟩ (.cons rfl
      (.cons rfl (.nil _)))))))))))))

theorem intact_twoBlockTrace : ∀ e ∈ twoBlockTrace, ¬ e.IsWriteFailure := by
  simp [twoBlockTrace, Event.IsWriteFailure]

/-- The trace of two blocks leaves all three bytes in the file, and the call returns normally. -/
theorem twoBlockTrace_contents :
    Along Writes .empty twoBlockTrace ⟨[7, 8, 9], []⟩ ∧
      (∀ e ∈ twoBlockTrace, ¬ e.IsWriteFailure) ∧
      acceptedPayloads 2 0 (outcomes twoBlockTrace) = [[7, 8], [9]] ∧
      ∃ t, Runs ask? (Receiver.new 2 3 .zero).receiveFile twoBlockTrace t ∧ t.transferred = 3 ∧
        t.outcome? = some (.ok ()) := by
  obtain ⟨t, run, hidle⟩ := runs_twoBlockTrace
  obtain ⟨hstored, -, -, hok⟩ :=
    receiveFile_contents run along_twoBlockTrace intact_twoBlockTrace
  have haccepted : acceptedPayloads 2 0 (outcomes twoBlockTrace) = [[7, 8], [9]] := by decide
  rw [haccepted] at hok
  exact ⟨along_twoBlockTrace, intact_twoBlockTrace, haccepted, t, run, (hstored hidle).2,
    hok.mpr ⟨⟨[[7, 8]], [9], rfl, by decide⟩, rfl⟩⟩

end Tftp.Receiver
