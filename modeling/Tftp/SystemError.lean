import Tftp.Bytes

/-!
# Errors of the operating system

`SystemError` names the reasons the operating system gives for a failed call, `SystemError.ofNumber`
finds one by its number, and `SystemError.text` words it. The wording ends the message of a failure
that a call has caused (specification §10.3). Numbers and wordings are those of Linux in its default
language; a reason that is not listed is told by its number.

A wait for a datagram that fails need not mean that the socket is out of order.
`SystemError.isNoDatagram` are the reasons after which a transfer goes on as if the wait had brought
nothing: the deadline has passed, which is the only timer that the protocol has (§5), a signal has
interrupted the wait, or an earlier datagram was refused by the host of the peer, where the file may
be served only later. After any other reason the transfer fails.

Out of scope: which calls fail for which reasons. Every call that can fail may be answered with
every reason, so what is proved of all runs also holds on systems that give reasons nobody expects.
-/

namespace Tftp

/-- Why the operating system refused a call. -/
inductive SystemError where
  | noSuchFile
  | permissionDenied
  | inputOutput
  | noSpace
  | isDirectory
  | tooManyFiles
  | addressInUse
  | addressUnavailable
  | networkUnreachable
  | connectionRefused
  | wouldBlock
  | interrupted
  | notPermitted
  | invalidArgument
  | messageTooLong
  | noBufferSpace
  | networkDown
  | notConnected
  | readOnly
  | outOfMemory
  | hostUnreachable
  | outOfDomain
  | fileTooLarge
  | badDescriptor
  | unlisted (number : Nat)
  deriving DecidableEq, Repr

namespace SystemError

open Bytes in
/-- The wording of a reason. -/
def text : SystemError → Bytes
  | noSuchFile => ascii "No such file or directory"
  | permissionDenied => ascii "Permission denied"
  | inputOutput => ascii "Input/output error"
  | noSpace => ascii "No space left on device"
  | isDirectory => ascii "Is a directory"
  | tooManyFiles => ascii "Too many open files"
  | addressInUse => ascii "Address already in use"
  | addressUnavailable => ascii "Cannot assign requested address"
  | networkUnreachable => ascii "Network is unreachable"
  | connectionRefused => ascii "Connection refused"
  | wouldBlock => ascii "Resource temporarily unavailable"
  | interrupted => ascii "Interrupted system call"
  | notPermitted => ascii "Operation not permitted"
  | invalidArgument => ascii "Invalid argument"
  | messageTooLong => ascii "Message too long"
  | noBufferSpace => ascii "No buffer space available"
  | networkDown => ascii "Network is down"
  | notConnected => ascii "Transport endpoint is not connected"
  | readOnly => ascii "Read-only file system"
  | outOfMemory => ascii "Cannot allocate memory"
  | hostUnreachable => ascii "No route to host"
  | outOfDomain => ascii "Numerical argument out of domain"
  | fileTooLarge => ascii "File too large"
  | badDescriptor => ascii "Bad file descriptor"
  | unlisted number => ascii "Unknown error " ++ decimal number

/-- The reasons that have a wording of their own, with their numbers on Linux. -/
def numbered : List (Nat × SystemError) :=
  [(1, notPermitted), (2, noSuchFile), (4, interrupted), (5, inputOutput), (9, badDescriptor),
    (11, wouldBlock), (12, outOfMemory), (13, permissionDenied), (21, isDirectory),
    (22, invalidArgument), (24, tooManyFiles), (27, fileTooLarge), (28, noSpace), (30, readOnly),
    (33, outOfDomain), (90, messageTooLong), (98, addressInUse), (99, addressUnavailable),
    (100, networkDown), (101, networkUnreachable), (105, noBufferSpace), (107, notConnected),
    (111, connectionRefused), (113, hostUnreachable)]

/-- The reason with a given number. -/
def ofNumber (number : Nat) : SystemError := (numbered.lookup number).getD (unlisted number)

/-- Whether a failed receive only means that no datagram came: the deadline passed, a signal
interrupted the wait, or an earlier datagram was refused by the peer's host. -/
def isNoDatagram : SystemError → Bool
  | wouldBlock | interrupted | connectionRefused => true
  | _ => false

end SystemError

end Tftp
