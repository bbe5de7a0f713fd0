import Tftp.Arrival

/-!
# Sending a file

A sender has one block in flight. It repeats the block until the block's acknowledgement comes or
the attempts are used up, then goes on with the next block; the first block shorter than the block
size is the last one (specification §4.4 and §4.5).

A `Sender` is a machine: `Sender.ask?` gives the call that its phase makes and the state that each
answer leads to. `Sender.confirm` starts the wait for the peer's first answer, `Sender.sendFile` the
transfer itself, and both end with an outcome.

* A block that was not acknowledged counts as a miss. An attempt is repeated at most until
  `maxRetries` misses of one block; every block has one attempt even if `maxRetries` is 0.
* Cancellation is looked at before every attempt (§10.5).
* An error packet ends the transfer at once.
* A failed socket call ends the transfer but leaves its stage as it was; every other failure leaves
  the sender aborted, as the states of §4.5 have it.

A file of `L` bytes is sent in `L / B` whole blocks and one that is shorter, which is empty if
nothing is left; where §8 counts whole blocks it rounds up, its scenarios do not. The first answer
has to be acknowledgement 0 (§4.4), but only another acknowledgement is rejected: a request, data or
an acknowledgement of options also lets the sender go on. An error packet that rejects the first
answer may fail to be sent, and then that failure is the outcome.

Out of scope: what precedes the first answer, which is `Endpoint.acceptRequest`, and the file, whose
position is that of its reads.
-/

namespace Tftp

namespace Sender

/-- How far a sender is. -/
inductive Stage where
  | reading
  | sending
  | advancing
  | aborted
  | done
  deriving DecidableEq, Repr

/-- The block in flight. -/
structure Attempt where
  block : UInt16
  payload : Bytes
  /-- How many attempts with this block have missed. -/
  misses : Nat
  deriving DecidableEq, Repr

/-- What a sender does next. -/
inductive Phase where
  /-- Waits for the peer's first answer. -/
  | confirming
  /-- Tells the peer that its first answer was wrong. -/
  | rejecting (block : UInt16)
  /-- Reads the payload of a block. -/
  | reading (block : UInt16)
  /-- Looks whether the transfer was cancelled. -/
  | polling (attempt : Attempt)
  /-- Sends the block. -/
  | sending (attempt : Attempt)
  /-- Waits for the acknowledgement. -/
  | awaiting (attempt : Attempt)
  /-- Has nothing to do any more. -/
  | ended (outcome : Except Failure Unit)

end Sender

/-- A sender on a connected socket and a file open for reading. -/
structure Sender where
  blockSize : Nat
  maxRetries : Nat
  traffic : Traffic
  /-- The number of bytes acknowledged so far. -/
  transferred : Nat
  /-- The number of attempts that missed, modulo 2³². -/
  misses : UInt32
  stage : Sender.Stage
  phase : Sender.Phase

namespace Sender

/-- A sender that has not begun. -/
def new (blockSize maxRetries : Nat) (traffic : Traffic) : Sender :=
  ⟨blockSize, maxRetries, traffic, 0, 0, .reading, .ended (.ok ())⟩

/-- Begins to wait for the peer's first answer. -/
def confirm (s : Sender) : Sender := { s with phase := .confirming }

/-- Begins to send the file from its present position, as block 1 and so on. -/
def sendFile (s : Sender) : Sender := { s with stage := .reading, phase := .reading 1 }

/-! ## Endings -/

/-- Ends with a failure and leaves the stage as it is. -/
def stop (s : Sender) (failure : Failure) : Sender := { s with phase := .ended (.error failure) }

/-- Ends with a failure and is aborted. -/
def abort (s : Sender) (failure : Failure) : Sender :=
  { s with stage := .aborted, phase := .ended (.error failure) }

/-! ## Answers -/

/-- Goes on after the peer's first answer: only a wrong acknowledgement, an error, a malformed
answer or none keeps the transfer from going on. -/
def afterFirstAnswer (s : Sender) (answer : Except SystemError Datagram) : Sender :=
  let s := { s with traffic := s.traffic.countAnswer answer }
  match Arrival.ofAnswer datagramRoom answer with
  | .packet _ (.ack block) =>
    if block = 0 then { s with phase := .ended (.ok ()) } else { s with phase := .rejecting block }
  | .packet _ (.error code text) => s.abort (.peerError code text)
  | .packet _ _ => { s with phase := .ended (.ok ()) }
  | .malformed fault => s.abort (.malformedAnswer fault)
  | .nothing => s.abort .noAnswer
  | .failed failure => s.stop failure

/-- Gives up after the wrong first answer was rejected. -/
def afterRejection (s : Sender) (block : UInt16) (answer : Except SystemError Unit) : Sender :=
  let s := { s with traffic := s.traffic.countSent }
  match answer with
  | .ok () => s.abort (.wrongAnswer block)
  | .error reason => s.stop (.socketFailed .send reason)

/-- Prepares the block that was read. -/
def afterRead (s : Sender) (block : UInt16) : Except SystemError Bytes → Sender
  | .ok payload => { s with phase := .polling ⟨block, payload, 0⟩ }
  | .error reason => s.abort (.readFailed reason)

/-- Goes on to send unless the transfer was cancelled. -/
def afterPoll (s : Sender) (attempt : Attempt) (cancelled : Bool) : Sender :=
  if cancelled then s.abort .cancelled
  else { s with stage := .sending, phase := .sending attempt }

/-- Goes on to wait once the block is sent. -/
def afterSend (s : Sender) (attempt : Attempt) (answer : Except SystemError Unit) : Sender :=
  let s := { s with traffic := s.traffic.countSent }
  match answer with
  | .ok () => { s with phase := .awaiting attempt }
  | .error reason => s.stop (.socketFailed .send reason)

/-- Counts a miss, and tries again or gives up. -/
def miss (s : Sender) (attempt : Attempt) : Sender :=
  let s := { s with misses := s.misses + 1 }
  if s.maxRetries ≤ attempt.misses + 1 then s.abort (.retriesExhausted s.maxRetries)
  else { s with phase := .polling { attempt with misses := attempt.misses + 1 } }

/-- Goes on to the next block, or is done if this was the last one. -/
def advance (s : Sender) (attempt : Attempt) : Sender :=
  let s := { s with transferred := s.transferred + attempt.payload.length }
  if attempt.payload.length < s.blockSize then { s with stage := .done, phase := .ended (.ok ()) }
  else { s with stage := .reading, phase := .reading (nextBlock attempt.block) }

/-- Goes on after a wait for the acknowledgement. -/
def afterAnswer (s : Sender) (attempt : Attempt) (answer : Except SystemError Datagram) : Sender :=
  let s := { s with traffic := s.traffic.countAnswer answer }
  match Arrival.ofAnswer datagramRoom answer with
  | .packet _ (.ack block) => if block = attempt.block then s.advance attempt else s.miss attempt
  | .packet _ (.error code text) => s.abort (.peerError code text)
  | .failed failure => s.stop failure
  | _ => s.miss attempt

/-! ## The machine -/

/-- The error packet that answers a wrong first answer. -/
def rejection : Packet := .error .illegalOperation (Bytes.ascii "invalid oack response")

/-- The call that a sender makes next; `none` once it has ended. -/
def ask? (s : Sender) : Option (Ask Sender) :=
  match s.phase with
  | .confirming => some ⟨.receiveDatagram datagramRoom, s.afterFirstAnswer⟩
  | .rejecting block => some ⟨.sendDatagram rejection.encode, s.afterRejection block⟩
  | .reading block => some ⟨.readBytes s.blockSize, s.afterRead block⟩
  | .polling attempt => some ⟨.pollCancelled, s.afterPoll attempt⟩
  | .sending attempt =>
    some ⟨.sendDatagram (Packet.data attempt.block attempt.payload).encode, s.afterSend attempt⟩
  | .awaiting attempt => some ⟨.receiveDatagram datagramRoom, s.afterAnswer attempt⟩
  | .ended _ => none

/-- How the sender ended; `none` while it is under way. -/
def outcome? (s : Sender) : Option (Except Failure Unit) :=
  match s.phase with
  | .ended outcome => some outcome
  | _ => none

/-- A sender has ended exactly when it makes no call. -/
theorem ask?_eq_none_iff {s : Sender} : s.ask? = none ↔ s.outcome?.isSome := by
  unfold ask? outcome?
  cases s.phase <;> simp

/-- A sender that makes a call has not ended. -/
theorem outcome?_eq_none_of_asks {s : Sender} {ask : Ask Sender} (asks : s.ask? = some ask) :
    s.outcome? = none := by
  cases hended : s.outcome? with
  | none => rfl
  | some outcome =>
    have hnone : s.ask? = none := ask?_eq_none_iff.mpr (by rw [hended]; rfl)
    rw [asks] at hnone
    cases hnone

end Sender

end Tftp
