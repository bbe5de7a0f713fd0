import Tftp.Arrival

/-!
# Receiving a file

A receiver accepts only the successor of the block it accepted last, stores and flushes its payload,
and then acknowledges it; the first block shorter than the block size is the last one (specification
§4.6 and §10.8).

A `Receiver` is a machine: `Receiver.ask?` gives the call that its phase makes and the state that
each answer leads to. `Receiver.receiveFile` begins the transfer, which ends with an outcome.

* A wait that did not bring the expected block counts as a miss. At most `maxRetries` waits in a row
  may miss.
* The block accepted last, if it comes again, is acknowledged again: the peer has missed the first
  acknowledgement.
* Cancellation is looked at before every wait (§10.5).
* An error packet ends the transfer at once.
* If a block cannot be stored, the peer is told that the disk is full (§10.3).
* A failed socket call ends the transfer but leaves its stage as it was; every other failure leaves
  the receiver aborted.

A wait has room for one block. An error packet that is longer than a block is malformed for a
receiver, so it counts as a miss and does not end the transfer, although §8 wants that of any
(Scenario D). The receiver ends with the acknowledgement of the last block and does not stay to hear
it repeated: if that one is lost, the sender is not answered any more, and what §10.8 promises does
not hold there. If the peer cannot be told that the disk is full, the socket is what the receiver
fails for.

Out of scope: the greeting that begins a transfer (`Endpoint.acceptRequest`), and what the disk does
with bytes that are not flushed yet.
-/

namespace Tftp

namespace Receiver

/-- How far a receiver is. -/
inductive Stage where
  | receiving
  | writing
  | acknowledging
  | aborted
  | done
  deriving DecidableEq, Repr

/-- What a receiver does next. -/
inductive Phase where
  /-- Looks whether the transfer was cancelled, after a number of waits in a row that missed. -/
  | polling (misses : Nat)
  /-- Waits for a block. -/
  | awaiting (misses : Nat)
  /-- Acknowledges the block accepted last once more. -/
  | repeating (block : UInt16) (misses : Nat)
  /-- Hands the payload of a block to the file. -/
  | writing (block : UInt16) (payload : Bytes)
  /-- Makes the payload of a block durable. -/
  | flushing (block : UInt16) (payload : Bytes)
  /-- Tells the peer that a block cannot be stored. -/
  | refusing (reason : SystemError)
  /-- Acknowledges the block just accepted. -/
  | acknowledging (block : UInt16) (isLast : Bool)
  /-- Has nothing to do any more. -/
  | ended (outcome : Except Failure Unit)

end Receiver

/-- A receiver on a connected socket and a file open for writing. -/
structure Receiver where
  blockSize : Nat
  maxRetries : Nat
  traffic : Traffic
  /-- The number of bytes stored so far. -/
  transferred : Nat
  /-- The number of waits that missed, modulo 2³². -/
  misses : UInt32
  stage : Receiver.Stage
  /-- The block accepted last; `none` before the first one. -/
  accepted : Option UInt16
  phase : Receiver.Phase

namespace Receiver

/-- A receiver that has not begun. -/
def new (blockSize maxRetries : Nat) (traffic : Traffic) : Receiver :=
  ⟨blockSize, maxRetries, traffic, 0, 0, .receiving, none, .ended (.ok ())⟩

/-- Begins to receive. A receiver that has accepted blocks before goes on after them. -/
def receiveFile (r : Receiver) : Receiver := { r with phase := .polling 0 }

/-- The number of the block that is accepted next. -/
def expected (r : Receiver) : UInt16 := nextBlock (r.accepted.getD 0)

/-! ## Endings -/

/-- Ends with a failure and leaves the stage as it is. -/
def stop (r : Receiver) (failure : Failure) : Receiver :=
  { r with phase := .ended (.error failure) }

/-- Ends with a failure and is aborted. -/
def abort (r : Receiver) (failure : Failure) : Receiver :=
  { r with stage := .aborted, phase := .ended (.error failure) }

/-! ## Answers -/

/-- Goes on to wait unless the transfer was cancelled. -/
def afterPoll (r : Receiver) (misses : Nat) (cancelled : Bool) : Receiver :=
  if cancelled then r.abort .cancelled
  else { r with stage := .receiving, phase := .awaiting misses }

/-- Counts a miss, and waits again or gives up. -/
def miss (r : Receiver) (misses : Nat) : Receiver :=
  let r := { r with misses := r.misses + 1 }
  if r.maxRetries ≤ misses + 1 then r.abort (.retriesExhausted r.maxRetries)
  else { r with phase := .polling (misses + 1) }

/-- Accepts a block whose payload is stored. -/
def accept (r : Receiver) (block : UInt16) (payload : Bytes) : Receiver :=
  { r with
    accepted := some block
    transferred := r.transferred + payload.length
    stage := .acknowledging
    phase := .acknowledging block (decide (payload.length < r.blockSize)) }

/-- Stores a block; there is nothing to store of an empty one. -/
def store (r : Receiver) (block : UInt16) (payload : Bytes) : Receiver :=
  if payload = [] then r.accept block payload
  else { r with stage := .writing, phase := .writing block payload }

/-- Goes on after a wait for a block. -/
def afterAnswer (r : Receiver) (misses : Nat) (answer : Except SystemError Datagram) : Receiver :=
  let r := { r with traffic := r.traffic.countAnswer answer }
  match Arrival.ofAnswer (headerLength + r.blockSize) answer with
  | .packet _ (.data block payload) =>
    if block = r.expected then r.store block payload
    else if r.accepted = some block then { r with phase := .repeating block misses }
    else r.miss misses
  | .packet _ (.error code text) => r.abort (.peerError code text)
  | .failed failure => r.stop failure
  | _ => r.miss misses

/-- Goes on after the last acknowledgement was repeated. -/
def afterRepetition (r : Receiver) (misses : Nat) (answer : Except SystemError Unit) : Receiver :=
  let r := { r with traffic := r.traffic.countSent }
  match answer with
  | .ok () => r.miss misses
  | .error reason => r.stop (.socketFailed .send reason)

/-- Goes on after the payload was handed to the file. -/
def afterWrite (r : Receiver) (block : UInt16) (payload : Bytes) :
    Except SystemError Unit → Receiver
  | .ok () => { r with phase := .flushing block payload }
  | .error reason => { r with phase := .refusing reason }

/-- Goes on after the payload was made durable. -/
def afterFlush (r : Receiver) (block : UInt16) (payload : Bytes) :
    Except SystemError Unit → Receiver
  | .ok () => r.accept block payload
  | .error reason => { r with phase := .refusing reason }

/-- Gives up after the peer was told that a block cannot be stored. -/
def afterRefusal (r : Receiver) (reason : SystemError) (answer : Except SystemError Unit) :
    Receiver :=
  let r := { r with traffic := r.traffic.countSent }
  match answer with
  | .ok () => r.abort (.writeFailed reason)
  | .error reason => r.stop (.socketFailed .send reason)

/-- Goes on to the next block, or is done if this was the last one. -/
def afterAcknowledgement (r : Receiver) (isLast : Bool) (answer : Except SystemError Unit) :
    Receiver :=
  let r := { r with traffic := r.traffic.countSent }
  match answer with
  | .error reason => r.stop (.socketFailed .send reason)
  | .ok () =>
    if isLast then { r with stage := .done, phase := .ended (.ok ()) }
    else { r with phase := .polling 0 }

/-! ## The machine -/

/-- The error packet for a block that cannot be stored. -/
def refusal : Packet := .error .diskFull (Bytes.ascii "Disk full or allocation exceeded")

/-- The call that a receiver makes next; `none` once it has ended. -/
def ask? (r : Receiver) : Option (Ask Receiver) :=
  match r.phase with
  | .polling misses => some ⟨.pollCancelled, r.afterPoll misses⟩
  | .awaiting misses => some ⟨.receiveDatagram (headerLength + r.blockSize), r.afterAnswer misses⟩
  | .repeating block misses =>
    some ⟨.sendDatagram (Packet.ack block).encode, r.afterRepetition misses⟩
  | .writing block payload => some ⟨.writeBytes payload, r.afterWrite block payload⟩
  | .flushing block payload => some ⟨.flush, r.afterFlush block payload⟩
  | .refusing reason => some ⟨.sendDatagram refusal.encode, r.afterRefusal reason⟩
  | .acknowledging block isLast =>
    some ⟨.sendDatagram (Packet.ack block).encode, r.afterAcknowledgement isLast⟩
  | .ended _ => none

/-- How the receiver ended; `none` while it is under way. -/
def outcome? (r : Receiver) : Option (Except Failure Unit) :=
  match r.phase with
  | .ended outcome => some outcome
  | _ => none

/-- A receiver has ended exactly when it makes no call. -/
theorem ask?_eq_none_iff {r : Receiver} : r.ask? = none ↔ r.outcome?.isSome := by
  unfold ask? outcome?
  cases r.phase <;> simp

/-- A receiver that makes a call has not ended. -/
theorem outcome?_eq_none_of_asks {r : Receiver} {ask : Ask Receiver} (asks : r.ask? = some ask) :
    r.outcome? = none := by
  cases hended : r.outcome? with
  | none => rfl
  | some outcome =>
    have hnone : r.ask? = none := ask?_eq_none_iff.mpr (by rw [hended]; rfl)
    rw [asks] at hnone
    cases hnone

end Receiver

end Tftp
