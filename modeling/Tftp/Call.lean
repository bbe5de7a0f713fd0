import Tftp.Address
import Tftp.Log

/-!
# Calls to the surrounding system

A transfer touches the world only through the calls listed here: one file, one datagram socket, a
cancellation flag, two clocks and two text streams (specification §5 and §6). Each `Call` has its
own type of `Answer`. Everything a transfer does is strictly sequential (§5), so a run is a list of
answered calls.

* `Ask` is a call together with what follows for each answer.
* `Event` is a call that was answered; a run is a list of them.
* `Runs` relates two states of any machine that asks: the second is reached from the first by making
  calls and getting the answers of the listed events.

Results:
* `Runs.append` and `Runs.split`: runs are composed and cut at any event.

Nothing is assumed of the answers. A wait may bring any datagram at any time, a file may give
anything, and any call that can fail may fail for any reason, so what is proved of all runs holds
whatever the peer, the disk and the network do. Where a result needs more, a file that is read as it
is, say, it names that as a condition on the trace.

Out of scope: time, memory and other processes. A deadline is a number handed to the socket, and a
call that never comes back is a run that goes on no further.
-/

namespace Tftp

/-! ## Calls and answers -/

/-- A span of time as whole seconds and the microseconds left over. -/
structure TimeSpan where
  seconds : Int
  microseconds : Int
  deriving DecidableEq, Repr

namespace TimeSpan

/-- A number of milliseconds; what is left over has the sign of the whole. -/
def ofMilliseconds (ms : Int) : TimeSpan := ⟨ms.tdiv 1000, ms.tmod 1000 * 1000⟩

/-- The whole milliseconds in a span. -/
def toMilliseconds (t : TimeSpan) : Int := t.seconds * 1000 + t.microseconds.tdiv 1000

end TimeSpan

/-- A datagram that arrived, and where it came from. -/
structure Datagram where
  source : Address
  bytes : Bytes
  deriving DecidableEq, Repr

/-- A call to the surrounding system. -/
inductive Call where
  /-- Opens the file for reading. -/
  | openForReading (path : Bytes)
  /-- Empties or creates the file and opens it for writing. -/
  | openForWriting (path : Bytes)
  /-- Asks for the length of the open file. -/
  | fileSize
  /-- Reads the next `count` bytes; fewer only at the end of the file. -/
  | readBytes (count : Nat)
  /-- Hands bytes to the open file. -/
  | writeBytes (bytes : Bytes)
  /-- Makes everything handed to the open file durable. -/
  | flush
  /-- Creates the socket. -/
  | createSocket
  /-- Binds the socket, and tells the address it has then; port 0 asks for any free port. -/
  | bindSocket (address : Address)
  /-- Chooses the only peer of the socket. -/
  | connectSocket (peer : Address)
  /-- Bounds every later wait for a datagram. -/
  | setReadDeadline (deadline : TimeSpan)
  /-- Bounds every later wait for room to send. -/
  | setWriteDeadline (deadline : TimeSpan)
  /-- Sends a datagram to the peer. -/
  | sendDatagram (bytes : Bytes)
  /-- Waits for a datagram. The caller has room for `room` bytes, but learns the true length. -/
  | receiveDatagram (room : Nat)
  /-- Closes the socket. -/
  | closeSocket
  /-- Asks whether the transfer was cancelled. -/
  | pollCancelled
  /-- Reads a clock that counts milliseconds and is never set. -/
  | readClock
  /-- Reads the time in microseconds since the epoch. -/
  | readWallClock
  /-- Prints a text. -/
  | print (stream : Stream) (text : Bytes)
  /-- Asks whether two files exist and hold the same bytes. -/
  | compareFiles (first second : Bytes)
  deriving DecidableEq, Repr

/-- What a call is answered with. -/
@[reducible] def Call.Answer : Call → Type
  | .openForReading _ | .openForWriting _ => Except SystemError Unit
  | .fileSize => Except SystemError UInt64
  | .readBytes _ => Except SystemError Bytes
  | .writeBytes _ | .flush => Except SystemError Unit
  | .createSocket => Except SystemError Unit
  | .bindSocket _ => Except SystemError Address
  | .connectSocket _ => Except SystemError Unit
  | .setReadDeadline _ | .setWriteDeadline _ => Except SystemError Unit
  | .sendDatagram _ => Except SystemError Unit
  | .receiveDatagram _ => Except SystemError Datagram
  | .closeSocket => Unit
  | .pollCancelled => Bool
  | .readClock | .readWallClock => Int
  | .print _ _ => Unit
  | .compareFiles _ _ => Bool

/-! ## Runs -/

/-- A call and the state that each answer leads to. -/
structure Ask (σ : Type) where
  call : Call
  resume : call.Answer → σ

/-- A call that was answered. -/
structure Event where
  call : Call
  answer : call.Answer

/-- `Runs ask? s es t`: from `s`, calls and answers as in `es` lead to `t`, where `ask? s` is the
call that a state makes next, if it makes one. -/
inductive Runs {σ : Type} (ask? : σ → Option (Ask σ)) : σ → List Event → σ → Prop where
  | nil (s : σ) : Runs ask? s [] s
  | cons {s t : σ} {call : Call} {resume : call.Answer → σ} {es : List Event}
      (answer : call.Answer) (asks : ask? s = some ⟨call, resume⟩)
      (rest : Runs ask? (resume answer) es t) : Runs ask? s (⟨call, answer⟩ :: es) t

namespace Runs

variable {σ : Type} {ask? : σ → Option (Ask σ)} {s t u : σ} {es fs : List Event}

theorem append (h : Runs ask? s es t) (h' : Runs ask? t fs u) : Runs ask? s (es ++ fs) u := by
  induction h with
  | nil => exact h'
  | cons a asks _ ih => exact .cons a asks (ih h')

theorem split (h : Runs ask? s (es ++ fs) u) : ∃ t, Runs ask? s es t ∧ Runs ask? t fs u := by
  induction es generalizing s with
  | nil => exact ⟨s, .nil s, h⟩
  | cons e es ih =>
    cases h with
    | cons a asks rest =>
      obtain ⟨t, h₁, h₂⟩ := ih rest
      exact ⟨t, .cons a asks h₁, h₂⟩

end Runs

end Tftp
