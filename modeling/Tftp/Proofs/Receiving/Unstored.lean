import Mathlib.Logic.Function.Basic
import Tftp.Proofs.Receiving.Contents
import Tftp.Proofs.Transfer.Notifying

/-!
# A block that cannot be stored

The payload of a block may not fit on the disk: handing it to the file fails, or only the flush
after that. A receiver then tells its peer that the disk is full, and ends. This module relates what
it has sent, what it has counted and what is on the disk at that point.

* `acked` are the acknowledgements of the first blocks, in order, with any number of copies of each.
* `Acked` ties what a trace handed out to the blocks it acknowledged.
* `Unstored` is what is left of a call that could not store a block.

Results:
* `acked_of_runs`: while nothing fails to be stored or sent, a receiver acknowledges its blocks in
  order, and hands out nothing else.
* `At.unstored`: a write or a flush that fails leaves a part of the payload on the disk.
* **`receiveFile_unstored`**: a block that cannot be stored is reported, never acknowledged, and not
  counted.

A failed write is told to the peer as a full disk and is a failure to access the file locally
(specification §10.3), whatever the reason was. `ReportsDiskFull` says of the datagram that it is an
error packet with code 3, and the failure has the kind `fileAccess`, unless the report could not be
sent: then the socket is what the call fails for, which the specification does not provide for.

Out of scope: removing what was stored of the block. A partial file stays, and there is no resuming
(§1).
-/

namespace Tftp.Receiver

variable {B maxRetries m : Nat} {traffic : Traffic} {copies : Nat → Nat} {k : Intake}
  {f f' : OutputFile} {r t u : Receiver} {es before after : List Event} {e : Event}
  {reason : SystemError}

/-! ## Acknowledgements in order -/

/-- The acknowledgement of block `n + 1`, `copies n` times, for each of the first `m` blocks. -/
def acked (copies : Nat → Nat) (m : Nat) : List Bytes :=
  (List.range m).flatMap fun n => List.replicate (copies n) (Packet.ack (wireNumber (n + 1))).encode

/-- A trace handed out acknowledgements of the first `m` blocks and nothing else, and all of them
were sent. -/
structure Acked (copies : Nat → Nat) (m : Nat) (es : List Event) : Prop where
  handed : handed es = acked copies m
  each : ∀ n < m, 0 < copies n
  sent : ∀ bytes reason, ⟨.sendDatagram bytes, .error reason⟩ ∉ es

theorem acked_succ : acked copies (m + 1) =
    acked copies m ++ List.replicate (copies m) (Packet.ack (wireNumber (m + 1))).encode := by
  unfold acked
  rw [List.range_succ, List.flatMap_append, List.flatMap_singleton]

theorem acked_congr {copies' : Nat → Nat} (h : ∀ n < m, copies n = copies' n) :
    acked copies m = acked copies' m := by
  induction m with
  | zero => rfl
  | succ m ih =>
    rw [acked_succ, acked_succ, ih fun n hn => h n (Nat.lt_succ_of_lt hn),
      h m (Nat.lt_succ_self m)]

theorem acked_update (c : Nat) : acked (Function.update copies m c) (m + 1) =
    acked copies m ++ List.replicate c (Packet.ack (wireNumber (m + 1))).encode := by
  rw [acked_succ, Function.update_self]
  congr 1
  exact acked_congr fun n hn => Function.update_of_ne (Nat.ne_of_lt hn) _ _

theorem acked_nil : Acked copies 0 [] :=
  ⟨rfl, fun n hn => absurd hn (Nat.not_lt_zero n), fun _ _ => List.not_mem_nil⟩

/-- An event that hands out nothing acknowledges nothing. -/
theorem Acked.silent (h : Acked copies m es) (silent : e.handed? = none) :
    Acked copies m (es ++ [e]) := by
  refine ⟨?_, h.each, fun bytes reason hmem => ?_⟩
  · rw [handed_append, handed_singleton, silent, h.handed]
    exact List.append_nil _
  · rcases List.mem_append.mp hmem with hmem | hmem
    · exact h.sent bytes reason hmem
    · obtain rfl := List.mem_singleton.mp hmem
      cases silent

/-- The acknowledgement of a block is sent after `c` copies of it. -/
theorem acked_acknowledge {c : Nat} (before : handed es = acked copies m ++
      List.replicate c (Packet.ack (wireNumber (m + 1))).encode)
    (each : ∀ n < m, 0 < copies n)
    (sent : ∀ bytes reason, ⟨.sendDatagram bytes, .error reason⟩ ∉ es) :
    ∃ copies', Acked copies' (m + 1)
      (es ++ [⟨.sendDatagram (Packet.ack (wireNumber (m + 1))).encode, .ok ()⟩]) := by
  refine ⟨Function.update copies m (c + 1), ?_, fun n hn => ?_, fun bytes reason hmem => ?_⟩
  · rw [handed_append, handed_singleton, before, acked_update, List.append_assoc,
      List.replicate_succ']
    rfl
  · rcases Nat.lt_succ_iff_lt_or_eq.mp hn with hlt | rfl
    · rw [Function.update_of_ne (Nat.ne_of_lt hlt)]
      exact each n hlt
    · rw [Function.update_self]
      exact Nat.succ_pos c
  · rcases List.mem_append.mp hmem with hmem | hmem
    · exact sent bytes reason hmem
    · cases List.mem_singleton.mp hmem

/-- The first acknowledgement of the next block. -/
theorem Acked.first (h : Acked copies m es) : ∃ copies', Acked copies' (m + 1)
    (es ++ [⟨.sendDatagram (Packet.ack (wireNumber (m + 1))).encode, .ok ()⟩]) :=
  acked_acknowledge (c := 0) (h.handed.trans (List.append_nil _).symm) h.each h.sent

/-- One more acknowledgement of the last block. -/
theorem Acked.again (h : Acked copies (m + 1) es) : ∃ copies', Acked copies' (m + 1)
    (es ++ [⟨.sendDatagram (Packet.ack (wireNumber (m + 1))).encode, .ok ()⟩]) :=
  acked_acknowledge (h.handed.trans acked_succ) (fun n hn => h.each n (Nat.lt_succ_of_lt hn)) h.sent

/-- **One more call keeps the acknowledgements in order**, as long as nothing fails to be stored and
the receiver stays under way. -/
theorem Acked.next (h : Acked copies k.acknowledged.length es) (at_ : At B k f r) {call : Call}
    {resume : call.Answer → Receiver} {answer : call.Answer}
    (asks : r.ask? = some ⟨call, resume⟩) (intact : k.refused = false)
    (under : (resume answer).outcome? = none) :
    ∃ copies', Acked copies' (k.next B ⟨call, answer⟩).acknowledged.length
      (es ++ [⟨call, answer⟩]) := by
  cases asks_of_ask? asks with
  | polling | awaiting => exact ⟨copies, h.silent rfl⟩
  | writing | flushing => cases answer <;> exact ⟨copies, h.silent rfl⟩
  | refusing hp =>
    have hrefused := (at_.phaseAt hp).2
    rw [intact] at hrefused
    cases hrefused
  | repeating hp =>
    obtain ⟨-, hack, rfl, hne⟩ := at_.phaseAt hp
    obtain ⟨m, hm⟩ := Nat.exists_eq_succ_of_ne_zero (mt List.length_eq_zero_iff.mp hne)
    cases answer with
    | error reason => cases under
    | ok =>
      rw [hack, hm] at h
      rw [Intake.next_sent, if_pos rfl, hm]
      exact h.again
  | acknowledging hp =>
    obtain ⟨-, rfl, p, htaken, -⟩ := at_.phaseAt hp
    have hlength : k.taken.length = k.acknowledged.length + 1 := by
      rw [htaken, List.length_append, List.length_singleton]
    cases answer with
    | error reason => cases under
    | ok =>
      rw [Intake.next_sent, if_pos rfl, hlength]
      exact h.first

/-- A payload that could not be stored stays refused. -/
theorem Intake.refused_of_next {e : Event} (h : (k.next B e).refused = false) :
    k.refused = false := by
  unfold Intake.next at h
  split at h
  · exact h
  · split at h <;> exact h
  · cases h
  · cases h
  · exact h

/-- While nothing has failed to be stored and the receiver is under way, it has acknowledged its
blocks in order. -/
theorem acked_of_runs (run : Runs ask? (Receiver.new B maxRetries traffic).receiveFile es t)
    (file : Along Writes .empty es f) (under : t.outcome? = none)
    (intact : (intake B es).refused = false) :
    ∃ copies, Acked copies (intake B es).acknowledged.length es := by
  have both : At B (intake B es) f t ∧ (t.outcome? = none → (intake B es).refused = false →
      ∃ copies, Acked copies (intake B es).acknowledged.length es) := by
    refine run.induction_along (P := fun es t f =>
      At B (intake B es) f t ∧ (t.outcome? = none → (intake B es).refused = false →
        ∃ copies, Acked copies (intake B es).acknowledged.length es)) file
      ⟨at_receiveFile B maxRetries traffic, fun _ _ => ⟨fun _ => 0, acked_nil⟩⟩ ?_
    rintro es u f call resume answer f' ⟨at_, hacked⟩ asks writes
    rw [intake_snoc]
    refine ⟨at_.next asks writes, fun hunder hintact => ?_⟩
    have hbefore := Intake.refused_of_next hintact
    obtain ⟨copies, h⟩ := hacked (outcome?_eq_none_of_asks asks) hbefore
    exact h.next at_ asks hbefore hunder
  exact both.2 under intact

/-! ## A payload that cannot be stored -/

/-- A write or a flush that fails leaves a part of its payload on the disk, behind the payloads that
were acknowledged, and nothing else. -/
theorem At.unstored (h : At B k f r) {call : Call} {resume : call.Answer → Receiver}
    {answer : call.Answer} (asks : r.ask? = some ⟨call, resume⟩)
    (fails : Event.FailsToStore reason ⟨call, answer⟩) (writes : Writes f ⟨call, answer⟩ f') :
    ∃ p, Storing k f r.accepted r.transferred p ∧ k.refused = false ∧
      resume answer = { r with phase := .refusing reason } ∧
      k.acknowledged.flatten <+: f'.stored ∧ f'.stored ++ f'.pending <+: k.taken.flatten := by
  cases asks_of_ask? asks with
  | polling | awaiting | repeating | refusing | acknowledging => cases fails
  | @writing block p hp =>
    obtain ⟨storing, rfl, -, intact⟩ := h.phaseAt hp
    have hflat : k.acknowledged.flatten ++ p = k.taken.flatten := by
      rw [storing.taken, List.flatten_append, List.flatten_singleton]
    cases fails
    obtain ⟨out, rest, hpart, rfl⟩ := writes
    refine ⟨p, storing, intact, rfl, List.prefix_append _ _, ?_⟩
    rw [← hflat, List.append_assoc, List.prefix_append_right_inj]
    exact hpart
  | @flushing block p hp =>
    obtain ⟨storing, hall, -, intact⟩ := h.phaseAt hp
    cases fails
    obtain ⟨out, rest, hpart, rfl⟩ := writes
    refine ⟨p, storing, intact, rfl, storing.earlier.trans (List.prefix_append _ _), ?_⟩
    rw [← hall, List.append_assoc, List.prefix_append_right_inj]
    exact hpart

/-- While the peer is told, nothing is received, counted or stored. -/
theorem refusing_keeps (refusing : r.phase = .refusing reason) (run : Runs ask? r es t)
    (file : Along Writes f es f') :
    outcomes es = [] ∧ t.transferred = r.transferred ∧ f' = f ∧
      (t.outcome? = none → t.phase = .refusing reason) := by
  cases run with
  | nil =>
    cases file
    exact ⟨rfl, rfl, rfl, fun _ => refusing⟩
  | cons answer asks rest =>
    cases file with
    | cons first beyond =>
      cases asks_of_ask? asks with
      | refusing =>
        obtain rfl := first
        cases answer with
        | ok =>
          obtain ⟨rfl, rfl⟩ := rest.eq_of_ended rfl
          cases beyond
          exact ⟨rfl, rfl, rfl, nofun⟩
        | error reason =>
          obtain ⟨rfl, rfl⟩ := rest.eq_of_ended rfl
          cases beyond
          exact ⟨rfl, rfl, rfl, nofun⟩
      | polling hp | awaiting hp | repeating hp | writing hp | flushing hp | acknowledging hp =>
        rw [refusing] at hp
        cases hp

/-- **What is left of a call** that could not store the block with payload `p`, after the blocks
with the payloads `earlier`. It made the calls `before`, then `e` failed, and the calls `after`
followed. -/
structure Unstored (B : Nat) (reason : SystemError) (earlier : List Bytes) (p : Bytes)
    (before : List Event) (e : Event) (after : List Event) (f : OutputFile) (t : Receiver) :
    Prop where
  /-- The payloads that came in their turn are those of the earlier blocks and `p`. -/
  accepted : acceptedPayloads B 0 (outcomes (before ++ e :: after)) = earlier ++ [p]
  /-- Each earlier block was acknowledged, and nothing else was sent before. -/
  acked : ∃ copies, Acked copies earlier.length before
  /-- All that is left to do is to tell the peer. -/
  told : Notifies refusal (.writeFailed reason) after t.outcome?
  /-- If that was not done yet, it is the next call. -/
  next : t.outcome? = none → ∃ resume, t.ask? = some ⟨.sendDatagram refusal.encode, resume⟩
  /-- The payloads of the earlier blocks are counted, and nothing else. -/
  counted : t.transferred = earlier.flatten.length
  /-- They are on the disk. -/
  stored : earlier.flatten <+: f.stored
  /-- Behind them is nothing but a part of `p`, whatever may still be written of what is pending. -/
  within : f.stored ++ f.pending <+: earlier.flatten ++ p

/-- A block whose payload could not be written or flushed. -/
theorem unstored_of_runs
    (run : Runs ask? (Receiver.new B maxRetries traffic).receiveFile (before ++ e :: after) t)
    (file : Along Writes .empty (before ++ e :: after) f) (fails : e.FailsToStore reason) :
    ∃ earlier p, Unstored B reason earlier p before e after f t := by
  obtain ⟨call, answer⟩ := e
  obtain ⟨u, hbefore, hrest⟩ := run.split
  obtain ⟨g, hfile, hbeside⟩ := file.split
  obtain ⟨hat, htaken⟩ := at_taken_of_runs hbefore hfile
  cases hrest with
  | cons answer asks hafter =>
    cases hbeside with
    | cons first hbeyond =>
      obtain ⟨p, storing, hintact, hresume, hearlier, hwithin⟩ := hat.unstored asks fails first
      rw [hresume] at hafter
      obtain ⟨hsilent, htransferred, rfl, hrefusing⟩ := refusing_keeps rfl hafter hbeyond
      have hnone : Event.outcome? ⟨call, answer⟩ = none := by cases fails <;> rfl
      have houtcomes : outcomes (before ++ ⟨call, answer⟩ :: after) = outcomes before := by
        rw [outcomes_append, outcomes_cons, hnone, hsilent]
        exact List.append_nil _
      have hflat : (intake B before).taken.flatten =
          (intake B before).acknowledged.flatten ++ p := by
        rw [storing.taken, List.flatten_append, List.flatten_singleton]
      refine ⟨(intake B before).acknowledged, p, ?_, ?_, ?_, fun hunder => ?_, ?_, hearlier, ?_⟩
      · rw [houtcomes, ← htaken, storing.taken]
      · exact acked_of_runs hbefore hfile (outcome?_eq_none_of_asks asks) hintact
      · exact notifies_of_refusing rfl hafter
      · exact ⟨_, (Asks.refusing (hrefusing hunder)).ask?⟩
      · exact htransferred.trans storing.counted.bytes
      · rw [← hflat]
        exact hwithin

/-- **A block that cannot be stored.** In every run of `receiveFile` on an empty file, whatever the
disk holds and whatever the waits brought, in which a payload could not be written or flushed:

* the blocks before it were acknowledged, their payloads are counted and on the disk, and behind
  them is nothing but a part of the payload;
* the block itself is not acknowledged, then or later: an error packet with code 3 tells the peer
  that the disk is full, and that is the last call;
* unless that report cannot be sent, the call fails for what kept the payload from the disk, which
  is a failure to access the file. -/
theorem receiveFile_unstored
    (run : Runs ask? (Receiver.new B maxRetries traffic).receiveFile (before ++ e :: after) t)
    (file : Along Writes .empty (before ++ e :: after) f) (fails : e.FailsToStore reason) :
    ∃ earlier p, Unstored B reason earlier p before e after f t ∧
      ∃ copies, (∀ n < earlier.length, 0 < copies n) ∧
        (t.outcome? = none → handed (before ++ e :: after) = acked copies earlier.length) ∧
        (t.outcome? ≠ none →
          handed (before ++ e :: after) = acked copies earlier.length ++ [refusal.encode] ∧
            ReportsDiskFull refusal.encode) ∧
        (t.outcome? ≠ none → (∀ bytes trouble, ⟨.sendDatagram bytes, .error trouble⟩ ∉ after) →
          t.outcome? = some (.error (.writeFailed reason)) ∧
            (Failure.writeFailed reason).kind = .fileAccess) := by
  obtain ⟨earlier, p, h⟩ := unstored_of_runs run file fails
  obtain ⟨copies, hacked⟩ := h.acked
  have hnone : e.handed? = none := by cases fails <;> rfl
  have hhanded : handed (before ++ e :: after) = acked copies earlier.length ++ handed after := by
    rw [handed_append, handed_cons, hnone, hacked.handed]
    rfl
  have htold := h.told
  refine ⟨earlier, p, h, copies, hacked.each, fun hunder => ?_, fun hended => ?_,
    fun hended hsent => ?_⟩
  · rw [hunder] at htold
    cases htold
    exact hhanded.trans (List.append_nil _)
  · refine ⟨?_, reportsDiskFull_refusal⟩
    rw [hhanded]
    generalize t.outcome? = outcome at htold hended
    cases htold with
    | waiting => exact absurd rfl hended
    | told | untold => rfl
  · refine ⟨?_, rfl⟩
    generalize t.outcome? = outcome at htold hended
    cases htold with
    | waiting => exact absurd rfl hended
    | told => rfl
    | untold trouble => exact absurd (List.mem_singleton_self _) (hsent _ trouble)

/-- The calls of a receiver that has stored a block of two bytes and is about to flush the next. -/
def halfStoredTrace : List Event :=
  [⟨.pollCancelled, false⟩, ⟨.receiveDatagram 6, .ok ⟨.unspecified, [0, 3, 0, 1, 7, 8]⟩⟩,
    ⟨.writeBytes [7, 8], .ok ()⟩, ⟨.flush, .ok ()⟩, ⟨.sendDatagram [0, 4, 0, 1], .ok ()⟩,
    ⟨.pollCancelled, false⟩, ⟨.receiveDatagram 6, .ok ⟨.unspecified, [0, 3, 0, 2, 9, 10]⟩⟩,
    ⟨.writeBytes [9, 10], .ok ()⟩]

/-- The flush stores one byte of two and fails: the first block is counted, and the report is the
last datagram. -/
theorem halfStoredTrace_unstored :
    ∃ t, Runs ask? (Receiver.new 2 6 .zero).receiveFile
        (halfStoredTrace ++
          ⟨.flush, .error .noSpace⟩ :: [⟨.sendDatagram refusal.encode, .ok ()⟩]) t ∧
      Along Writes .empty
        (halfStoredTrace ++ ⟨.flush, .error .noSpace⟩ :: [⟨.sendDatagram refusal.encode, .ok ()⟩])
        ⟨[7, 8, 9], []⟩ ∧
      Event.FailsToStore .noSpace ⟨.flush, .error .noSpace⟩ ∧
      t.transferred = 2 ∧ t.outcome? = some (.error (.writeFailed .noSpace)) := by
  have run : Runs ask? (Receiver.new 2 6 .zero).receiveFile
      (halfStoredTrace ++
        ⟨.flush, .error .noSpace⟩ :: [⟨.sendDatagram refusal.encode, .ok ()⟩]) _ :=
    .cons _ rfl (.cons _ rfl (.cons _ rfl (.cons _ rfl (.cons _ rfl (.cons _ rfl (.cons _ rfl
      (.cons _ rfl (.cons _ rfl (.cons _ rfl (.nil _))))))))))
  have file : Along Writes .empty
      (halfStoredTrace ++ ⟨.flush, .error .noSpace⟩ :: [⟨.sendDatagram refusal.encode, .ok ()⟩])
      ⟨[7, 8, 9], []⟩ := by
    refine .cons rfl (.cons rfl (.cons ⟨[], [7, 8], rfl, rfl⟩ (.cons rfl (.cons rfl (.cons rfl
      (.cons rfl (.cons ⟨[], [9, 10], rfl, rfl⟩ (.cons ⟨[9], [], ?_, rfl⟩ (.cons rfl
        (.nil _))))))))))
    exact List.prefix_append [9] [10]
  obtain ⟨earlier, p, h, -, -, -, -, hfails⟩ := receiveFile_unstored run file .flushing
  have haccepted : [[7, 8]] ++ [[9, 10]] = earlier ++ [p] := h.accepted
  obtain ⟨hearlier, -⟩ := List.append_inj' haccepted rfl
  refine ⟨_, run, file, .flushing, ?_, (hfails nofun ?_).1⟩
  · rw [h.counted, ← hearlier]
    rfl
  · intro bytes trouble hmem
    cases List.mem_singleton.mp hmem

end Tftp.Receiver
