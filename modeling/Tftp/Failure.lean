import Tftp.Packet.Decode
import Tftp.SystemError

/-!
# Failures

`Failure` lists every cause that can end a transfer, `Failure.kind` sorts the causes into the kinds
that a caller is told (`ErrorKind`), and `Failure.message` words them (specification §7 and §10.3).
A cause holds all that its message names, and the kind follows from the cause, so that no result can
say one thing and mean another.

* The message of an error packet names its code and its text, that of the last miss the number of
  attempts.
* A cause that comes from the operating system ends with the reason it gave; the failed step of a
  socket is told by `SocketStep`.
* A message ends at its first zero byte. Such a byte can come from a filename or from the wording of
  a malformed datagram; a text that was read from a packet has none.

The kinds are wider than their names. `timedOut` is also a first answer that never came, after a
single wait, and `illegalResponse` also a first answer that cannot be read; §7 and §10.3 speak of a
block whose attempts are used up, and of an acknowledgement that is not 0.

Out of scope: which cause ends which run. That is `Tftp.Proofs.Transfer.Outcome`.
-/

namespace Tftp

/-! ## Kinds -/

/-- The kind of a result: `none` for success, otherwise the sort of failure. -/
inductive ErrorKind where
  | none
  | invalidOption
  | fileAccess
  | peerError
  | timedOut
  | illegalResponse
  | socket
  | cancelled
  deriving DecidableEq, Repr

namespace ErrorKind

/-- The name of a kind. -/
def name : ErrorKind → Bytes
  | none => Bytes.ascii "none"
  | invalidOption => Bytes.ascii "invalid option"
  | fileAccess => Bytes.ascii "file access"
  | peerError => Bytes.ascii "peer error"
  | timedOut => Bytes.ascii "timed out"
  | illegalResponse => Bytes.ascii "illegal response"
  | socket => Bytes.ascii "socket"
  | cancelled => Bytes.ascii "cancelled"

/-- The kinds in the order of their numeric tags, from 0 on. -/
def all : List ErrorKind :=
  [none, invalidOption, fileAccess, peerError, timedOut, illegalResponse, socket, cancelled]

/-- The name that belongs to a numeric tag; tags of no kind are unknown. -/
def nameOfTag (tag : Int) : Bytes :=
  if 0 ≤ tag then (all[tag.toNat]?).elim (Bytes.ascii "unknown") name else Bytes.ascii "unknown"

end ErrorKind

/-! ## Causes -/

/-- The calls on a socket that can fail. -/
inductive SocketStep where
  | create
  | bind
  | connect
  | readDeadline
  | writeDeadline
  | send
  | receive
  deriving DecidableEq, Repr

/-- What the report of a failed socket call starts with. -/
def SocketStep.heading : SocketStep → Bytes
  | create => Bytes.ascii "UDP::UDP(): Error creating socket"
  | bind => Bytes.ascii "UDP::UDP(): Error binding socket"
  | connect => Bytes.ascii "UDP::connect(): Error connecting socket"
  | readDeadline => Bytes.ascii "UDP::set_timeout(): Error setting read timeout"
  | writeDeadline => Bytes.ascii "UDP::set_timeout(): Error setting write timeout"
  | send => Bytes.ascii "UDP::send_packet(): Error sending packet"
  | receive => Bytes.ascii "UDP::recv_packet(): Error receiving packet"

/-- Why a transfer, or a step on the way to one, failed. -/
inductive Failure where
  | invalidBlockSize (value : UInt64)
  | invalidTimeout (value : UInt64)
  | noRetries
  | invalidDeadline (milliseconds : Int)
  | cannotOpen (file : Bytes) (reason : SystemError)
  | cannotMeasure (file : Bytes) (reason : SystemError)
  | cannotCreate (file : Bytes) (reason : SystemError)
  | readFailed (reason : SystemError)
  | writeFailed (reason : SystemError)
  | peerError (code : ErrorCode) (text : Bytes)
  | noAnswer
  | retriesExhausted (tries : Nat)
  | malformedAnswer (fault : Malformed)
  | wrongAnswer (block : UInt16)
  | invalidAddress (text : Bytes)
  | socketFailed (step : SocketStep) (reason : SystemError)
  | notConnected
  | cancelled
  deriving DecidableEq, Repr

namespace Failure

/-- The kind a cause belongs to. -/
def kind : Failure → ErrorKind
  | invalidBlockSize _ | invalidTimeout _ | noRetries | invalidDeadline _ => .invalidOption
  | cannotOpen .. | cannotMeasure .. | cannotCreate .. | readFailed _ | writeFailed _ => .fileAccess
  | peerError .. => .peerError
  | noAnswer | retriesExhausted _ => .timedOut
  | malformedAnswer _ | wrongAnswer _ => .illegalResponse
  | invalidAddress _ | socketFailed .. | notConnected => .socket
  | cancelled => .cancelled

open Bytes in
/-- The full wording of a cause. -/
def wording : Failure → Bytes
  | invalidBlockSize value => ascii "Invalid blksize value " ++ decimal value.toNat
  | invalidTimeout value => ascii "Invalid timeout value " ++ decimal value.toNat
  | noRetries => ascii "Invalid retry count 0"
  | invalidDeadline ms => ascii "Invalid timeout " ++ signedDecimal ms ++ ascii " ms"
  | cannotOpen file reason => ascii "Error opening file " ++ file ++ ascii ": " ++ reason.text
  | cannotMeasure file reason => ascii "Error reading size of " ++ file ++ ascii ": " ++ reason.text
  | cannotCreate file reason => ascii "Error creating file " ++ file ++ ascii ": " ++ reason.text
  | readFailed reason => ascii "Error reading file: " ++ reason.text
  | writeFailed reason => ascii "Error writing file: " ++ reason.text
  | peerError code text =>
    ascii "Received error code " ++ decimal code.value.toNat ++ ascii ": " ++ text
  | noAnswer => ascii "No response to transfer acceptance"
  | retriesExhausted tries => ascii "Transfer timed out after " ++ decimal tries ++ ascii " tries"
  | malformedAnswer fault => ascii "Malformed initial response: " ++ fault.message
  | wrongAnswer block => ascii "Invalid oack response, ack for block " ++ decimal block.toNat
  | invalidAddress text => ascii "Error converting ip address " ++ text
  | socketFailed step reason => step.heading ++ ascii ": " ++ reason.text
  | notConnected => ascii "UDP::send_packet(): Not connected"
  | cancelled => ascii "Transfer cancelled"

/-- The message of a cause: its wording as far as the first zero byte. -/
def message (failure : Failure) : Bytes := failure.wording.untilZero

end Failure

end Tftp
