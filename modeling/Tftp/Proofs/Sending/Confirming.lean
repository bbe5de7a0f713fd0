import Tftp.Proofs.Asks
import Tftp.Proofs.Trace

/-!
# The first answer of the peer

Before it sends anything of the file, a sender waits once for an answer of its peer. It goes on if
the answer is acknowledgement 0, and also if it is a request, a data packet or an option
acknowledgement. Everything else keeps it from going on; an acknowledgement of another block is
rejected with an error packet.

* `Packet.Confirms` are the answers that let a sender go on.
* `Confirming` lists how a wait for the first answer may go.

Results:
* `confirming_of_runs`: these are all the ways.
* `Confirming.outcome?_eq_ok_iff`: a sender goes on exactly after an answer that confirms.

This is `confirm` of the specification (§4.4): an acknowledgement of another block than 0 is
answered with an error packet, "invalid oack response", and ends the transfer (§7; §8, Scenario C).
What the specification leaves open is what to do with packets of other kinds, and here they are
taken as they come. That the sender's first answer is to be acknowledgement 0 is therefore true of
what rejects it, and not of all that lets it go on.

Out of scope: waiting for the answer again. There is one wait, and a first answer that is lost or
malformed ends the transfer.
-/

namespace Tftp

/-- An answer that lets a sender go on. -/
def Packet.Confirms : Packet → Prop
  | ack block => block = 0
  | error _ _ => False
  | request .. | data .. | optionAck _ => True

/-- What a wait brought lets a sender go on. -/
def Arrival.Confirms (a : Arrival) : Prop := ∃ source p, a = .packet source p ∧ p.Confirms

namespace Sender

/-- `s.Confirming es t`: the wait of `s` for the first answer leads to `t` by the events `es`. -/
inductive Confirming (s : Sender) : List Event → Sender → Prop where
  | waiting : Confirming s [] s.confirm
  | answered (answer : Except SystemError Datagram) :
      Confirming s [⟨.receiveDatagram datagramRoom, answer⟩] (s.confirm.afterFirstAnswer answer)
  | rejected {answer : Except SystemError Datagram} {block : UInt16}
      (wrong : (s.confirm.afterFirstAnswer answer).phase = .rejecting block)
      (sent : Except SystemError Unit) :
      Confirming s
        [⟨.receiveDatagram datagramRoom, answer⟩, ⟨.sendDatagram rejection.encode, sent⟩]
        ((s.confirm.afterFirstAnswer answer).afterRejection block sent)

variable {s t : Sender} {es : List Event}

/-- After the first answer a sender has ended, unless it has to reject the answer. -/
theorem rejecting_of_asks {answer : Except SystemError Datagram} {ask : Ask Sender}
    (asks : (s.afterFirstAnswer answer).ask? = some ask) :
    ∃ block, (s.afterFirstAnswer answer).phase = .rejecting block := by
  unfold afterFirstAnswer at asks ⊢
  dsimp only at asks ⊢
  split at asks
  · split at asks
    · cases asks
    · rename_i block _ hblock
      exact ⟨block, by rw [if_neg hblock]⟩
  · cases asks
  · cases asks
  · cases asks
  · cases asks
  · cases asks

/-- A sender that has to reject the first answer is otherwise as it was. -/
theorem afterFirstAnswer_of_rejecting {answer : Except SystemError Datagram} {block : UInt16}
    (wrong : (s.afterFirstAnswer answer).phase = .rejecting block) :
    s.afterFirstAnswer answer =
      { s with traffic := s.traffic.countAnswer answer, phase := .rejecting block } := by
  unfold afterFirstAnswer at wrong ⊢
  dsimp only at wrong ⊢
  split at wrong
  · split at wrong
    · cases wrong
    · rename_i hblock
      cases wrong
      rw [if_neg hblock]
  · cases wrong
  · cases wrong
  · cases wrong
  · cases wrong
  · cases wrong

theorem ask?_afterRejection (block : UInt16) (sent : Except SystemError Unit) :
    (s.afterRejection block sent).ask? = none := by
  cases sent <;> rfl

/-- **A wait for the first answer goes in one of these ways**: nothing came yet, an answer came, or
an answer came and was rejected. -/
theorem confirming_of_runs (run : Runs ask? s.confirm es t) : s.Confirming es t := by
  cases run with
  | nil => exact .waiting
  | cons answer asks rest =>
    cases asks
    cases rest with
    | nil => exact .answered answer
    | cons sent asks' rest' =>
      obtain ⟨block, hphase⟩ := rejecting_of_asks asks'
      cases asks_of_ask? asks' with
      | rejecting hp =>
        obtain ⟨rfl, rfl⟩ := rest'.eq_of_ended (ask?_afterRejection _ sent)
        exact .rejected hp sent
      | confirming hp | reading hp | polling hp | sending hp | awaiting hp =>
        rw [hphase] at hp
        cases hp

/-! ## What the answer decides -/

theorem outcome?_afterFirstAnswer_eq_ok_iff {answer : Except SystemError Datagram} :
    (s.afterFirstAnswer answer).outcome? = some (.ok ()) ↔
      (Arrival.ofAnswer datagramRoom answer).Confirms := by
  unfold afterFirstAnswer Arrival.Confirms
  dsimp only
  split
  · rename_i source block harrival
    by_cases hzero : block = 0 <;> simp [harrival, hzero, outcome?, Packet.Confirms]
  · rename_i source code text harrival
    simp [harrival, outcome?, abort, Packet.Confirms]
  · rename_i source p hack herror harrival
    have hconfirms : p.Confirms := by
      cases p with
      | ack block => exact (hack block rfl).elim
      | error code text => exact (herror code text rfl).elim
      | request | data | optionAck => trivial
    simp [harrival, outcome?, hconfirms]
  · rename_i fault harrival
    simp [harrival, outcome?, abort]
  · rename_i harrival
    simp [harrival, outcome?, abort]
  · rename_i failure harrival
    simp [harrival, outcome?, stop]

/-- A sender goes on exactly after an answer that confirms. -/
theorem Confirming.outcome?_eq_ok_iff (h : s.Confirming es t) :
    t.outcome? = some (.ok ()) ↔
      ∃ answer, es = [⟨.receiveDatagram datagramRoom, answer⟩] ∧
        (Arrival.ofAnswer datagramRoom answer).Confirms := by
  cases h with
  | waiting => simp [outcome?, confirm]
  | answered answer =>
    rw [outcome?_afterFirstAnswer_eq_ok_iff]
    simp
  | rejected wrong sent => cases sent <;> simp [outcome?, afterRejection, abort, stop]

/-- Nothing but a rejection is handed out before a sender goes on. -/
theorem Confirming.handed (h : s.Confirming es t) :
    handed es = [] ∨ handed es = [rejection.encode] ∧ t.outcome? ≠ some (.ok ()) := by
  cases h with
  | waiting => exact Or.inl rfl
  | answered answer => exact Or.inl rfl
  | rejected wrong sent =>
    refine Or.inr ⟨rfl, ?_⟩
    cases sent <;> simp [outcome?, afterRejection, abort, stop]

theorem afterFirstAnswer_keeps (s : Sender) (answer : Except SystemError Datagram) :
    (s.afterFirstAnswer answer).blockSize = s.blockSize ∧
      (s.afterFirstAnswer answer).maxRetries = s.maxRetries ∧
      (s.afterFirstAnswer answer).transferred = s.transferred := by
  unfold afterFirstAnswer
  dsimp only
  split
  · split <;> exact ⟨rfl, rfl, rfl⟩
  · exact ⟨rfl, rfl, rfl⟩
  · exact ⟨rfl, rfl, rfl⟩
  · exact ⟨rfl, rfl, rfl⟩
  · exact ⟨rfl, rfl, rfl⟩
  · exact ⟨rfl, rfl, rfl⟩

/-- The wait for the first answer changes neither the block size nor the number of attempts nor the
count of bytes. -/
theorem Confirming.keeps (h : s.Confirming es t) :
    t.blockSize = s.blockSize ∧ t.maxRetries = s.maxRetries ∧ t.transferred = s.transferred := by
  cases h with
  | waiting => exact ⟨rfl, rfl, rfl⟩
  | answered answer => exact afterFirstAnswer_keeps s.confirm answer
  | @rejected answer _ wrong sent =>
    have hkeeps := afterFirstAnswer_keeps s.confirm answer
    cases sent <;> exact hkeeps

end Sender

end Tftp
