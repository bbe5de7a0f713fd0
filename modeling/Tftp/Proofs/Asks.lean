import Tftp.Sender
import Tftp.Receiver

/-!
# What a sender and a receiver ask

Every phase makes its own call and has its own answer to it. `Sender.Asks` and `Receiver.Asks` list
the phases, the calls and what follows, so that a proof about a step is a case analysis on one fact.

Results:
* `Sender.asks_of_ask?` and `Receiver.asks_of_ask?`: these are all the calls there are.
* `Sender.Asks.ask?` and `Receiver.Asks.ask?`: each phase makes its call.

The calls are those of the loops in the specification (§4.5 and §4.6) and of the first answer
(§4.4), one for each phase. A change to a loop changes a constructor here and the cases of that
constructor in the proofs, and nothing else.

Out of scope: what the answers mean. That is in the machines themselves (`Sender.afterAnswer`,
`Receiver.afterAnswer` and so on), and the accounts of it are in the modules that need one.
-/

namespace Tftp

namespace Sender

/-- `s.Asks call resume`: in its phase, `s` makes `call` and goes on with `resume`. -/
inductive Asks (s : Sender) : (call : Call) → (call.Answer → Sender) → Prop where
  | confirming (phase : s.phase = .confirming) :
      Asks s (.receiveDatagram datagramRoom) s.afterFirstAnswer
  | rejecting {block : UInt16} (phase : s.phase = .rejecting block) :
      Asks s (.sendDatagram rejection.encode) (s.afterRejection block)
  | reading {block : UInt16} (phase : s.phase = .reading block) :
      Asks s (.readBytes s.blockSize) (s.afterRead block)
  | polling {attempt : Attempt} (phase : s.phase = .polling attempt) :
      Asks s .pollCancelled (s.afterPoll attempt)
  | sending {attempt : Attempt} (phase : s.phase = .sending attempt) :
      Asks s (.sendDatagram (Packet.data attempt.block attempt.payload).encode)
        (s.afterSend attempt)
  | awaiting {attempt : Attempt} (phase : s.phase = .awaiting attempt) :
      Asks s (.receiveDatagram datagramRoom) (s.afterAnswer attempt)

theorem asks_of_ask? {s : Sender} {call : Call} {resume : call.Answer → Sender}
    (h : s.ask? = some ⟨call, resume⟩) : s.Asks call resume := by
  unfold ask? at h
  cases hp : s.phase with
  | confirming =>
    rw [hp] at h
    cases h
    exact .confirming hp
  | rejecting block =>
    rw [hp] at h
    cases h
    exact .rejecting hp
  | reading block =>
    rw [hp] at h
    cases h
    exact .reading hp
  | polling attempt =>
    rw [hp] at h
    cases h
    exact .polling hp
  | sending attempt =>
    rw [hp] at h
    cases h
    exact .sending hp
  | awaiting attempt =>
    rw [hp] at h
    cases h
    exact .awaiting hp
  | ended outcome =>
    rw [hp] at h
    cases h

theorem Asks.ask? {s : Sender} {call : Call} {resume : call.Answer → Sender}
    (h : s.Asks call resume) : s.ask? = some ⟨call, resume⟩ := by
  unfold Sender.ask?
  cases h with
  | confirming phase | rejecting phase | reading phase | polling phase | sending phase
  | awaiting phase => rw [phase]

end Sender

namespace Receiver

/-- `r.Asks call resume`: in its phase, `r` makes `call` and goes on with `resume`. -/
inductive Asks (r : Receiver) : (call : Call) → (call.Answer → Receiver) → Prop where
  | polling {misses : Nat} (phase : r.phase = .polling misses) :
      Asks r .pollCancelled (r.afterPoll misses)
  | awaiting {misses : Nat} (phase : r.phase = .awaiting misses) :
      Asks r (.receiveDatagram (headerLength + r.blockSize)) (r.afterAnswer misses)
  | repeating {block : UInt16} {misses : Nat} (phase : r.phase = .repeating block misses) :
      Asks r (.sendDatagram (Packet.ack block).encode) (r.afterRepetition misses)
  | writing {block : UInt16} {payload : Bytes} (phase : r.phase = .writing block payload) :
      Asks r (.writeBytes payload) (r.afterWrite block payload)
  | flushing {block : UInt16} {payload : Bytes} (phase : r.phase = .flushing block payload) :
      Asks r .flush (r.afterFlush block payload)
  | refusing {reason : SystemError} (phase : r.phase = .refusing reason) :
      Asks r (.sendDatagram refusal.encode) (r.afterRefusal reason)
  | acknowledging {block : UInt16} {isLast : Bool} (phase : r.phase = .acknowledging block isLast) :
      Asks r (.sendDatagram (Packet.ack block).encode) (r.afterAcknowledgement isLast)

theorem asks_of_ask? {r : Receiver} {call : Call} {resume : call.Answer → Receiver}
    (h : r.ask? = some ⟨call, resume⟩) : r.Asks call resume := by
  unfold ask? at h
  cases hp : r.phase with
  | polling misses =>
    rw [hp] at h
    cases h
    exact .polling hp
  | awaiting misses =>
    rw [hp] at h
    cases h
    exact .awaiting hp
  | repeating block misses =>
    rw [hp] at h
    cases h
    exact .repeating hp
  | writing block payload =>
    rw [hp] at h
    cases h
    exact .writing hp
  | flushing block payload =>
    rw [hp] at h
    cases h
    exact .flushing hp
  | refusing reason =>
    rw [hp] at h
    cases h
    exact .refusing hp
  | acknowledging block isLast =>
    rw [hp] at h
    cases h
    exact .acknowledging hp
  | ended outcome =>
    rw [hp] at h
    cases h

theorem Asks.ask? {r : Receiver} {call : Call} {resume : call.Answer → Receiver}
    (h : r.Asks call resume) : r.ask? = some ⟨call, resume⟩ := by
  unfold Receiver.ask?
  cases h with
  | polling phase | awaiting phase | repeating phase | writing phase | flushing phase
  | refusing phase | acknowledging phase => rw [phase]

end Receiver

end Tftp
