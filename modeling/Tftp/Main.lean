import Std.Async.Timer
import Std.Async.UDP
import Std.Time
import Tftp.CommandLine.Tool
import Tftp.Comparison

/-!
# The command line tool

Runs `CommandLine.run` on real files, a real socket and real clocks. Nothing is decided here: each
call is passed on to the operating system, and its outcome is the answer.

* `Surroundings` is what is open meanwhile: the file, the socket, and a wait that outlasted its
  deadline and is still under way.
* A deadline is kept by a timer next to the wait. A datagram that comes to a wait which was given up
  is the answer to the next one, so none is lost.
* Failures are sorted by the number that the operating system gives (`SystemError.ofNumber`).

Out of scope of every theorem: this module. What a system does with its calls is taken as it comes,
and the proofs speak of all answers. Nothing else in the library depends on it.
-/

namespace Tftp.Main

open Std.Async Std.Net

/-- What is open while the tool runs. -/
structure Surroundings where
  path : String
  file : Option IO.FS.Handle
  socket : Option UDP.Socket
  /-- A wait for a datagram that outlasted its deadline and is still under way. -/
  pending : Option (AsyncTask (ByteArray × Option SocketAddress))
  peer : Address
  deadline : TimeSpan

/-- The code of a failure of the operating system. -/
def code : IO.Error → Nat
  | .alreadyExists _ n _ | .otherError n _ | .resourceBusy n _ | .resourceVanished n _
  | .unsupportedOperation n _ | .hardwareFault n _ | .unsatisfiedConstraints n _
  | .illegalOperation n _ | .protocolError n _ | .timeExpired n _ | .interrupted _ n _
  | .noFileOrDirectory _ n _ | .invalidArgument _ n _ | .permissionDenied _ n _
  | .resourceExhausted _ n _ | .inappropriateType _ n _ | .noSuchThing _ n _ => n.toNat
  | .unexpectedEof | .userError _ => 0

/-- The reason of a failure; a code may be negated, modulo 2³². -/
def reason (e : IO.Error) : SystemError :=
  let n := code e
  .ofNumber (if n < Nat.pow 2 31 then n else Nat.pow 2 32 - n)

/-- The outcome of an action of the operating system. -/
def outcome {α : Type} (action : IO α) : IO (Except SystemError α) := do
  try
    return .ok (← action)
  catch e =>
    return .error (reason e)

/-- The characters of a path. -/
def pathOf (path : Bytes) : String :=
  (String.fromUTF8? ⟨path.toArray⟩).getD (String.ofList (path.map fun c => Char.ofNat c.toNat))

def toSystem (a : Address) : SocketAddress :=
  .v4 ⟨⟨#v[a.host.a, a.host.b, a.host.c, a.host.d]⟩, a.port⟩

def ofSystem : SocketAddress → Address
  | .v4 a => ⟨⟨a.addr.octets[0], a.addr.octets[1], a.addr.octets[2], a.addr.octets[3]⟩, a.port⟩
  | .v6 _ => .unspecified

/-- An action on something that has to be open. -/
def onOpen {α β : Type} (resource : Option α) (action : α → IO β) : IO (Except SystemError β) :=
  match resource with
  | some a => outcome (action a)
  | none => return .error .badDescriptor

/-- Waits for a datagram until the deadline. A wait that no datagram ended is taken up again by the
next one. -/
def await (s : Surroundings) (socket : UDP.Socket) :
    IO (Except SystemError Datagram × Surroundings) := do
  let wait ← match s.pending with
    | some wait => pure wait
    | none => (socket.recv (UInt64.ofNat datagramRoom)).toIO
  let timer ← (sleep (.ofInt (max 1 s.deadline.toMilliseconds))).toIO
  discard (IO.waitAny [wait.map fun _ => (), timer])
  if ← IO.hasFinished wait then
    let received ← outcome wait.block
    let datagram := received.map fun (bytes, source) =>
      Datagram.mk ((source.map ofSystem).getD s.peer) bytes.toList
    return (datagram, { s with pending := none })
  else
    return (.error .wouldBlock, { s with pending := some wait })

/-- The contents of a file, if it can be read. -/
def contents (path : Bytes) : IO (Option Bytes) := do
  match ← outcome (IO.FS.readBinFile (pathOf path)) with
  | .ok bytes => return some bytes.toList
  | .error _ => return none

/-- Passes a call on to the operating system. -/
def answer (s : Surroundings) : (c : Call) → IO (c.Answer × Surroundings)
  | .openForReading path => do
    match ← outcome (IO.FS.Handle.mk (pathOf path) .read) with
    | .ok file => return (.ok (), { s with path := pathOf path, file := some file })
    | .error e => return (.error e, s)
  | .openForWriting path => do
    match ← outcome (IO.FS.Handle.mk (pathOf path) .write) with
    | .ok file => return (.ok (), { s with path := pathOf path, file := some file })
    | .error e => return (.error e, s)
  | .fileSize => do
    let bytes ← outcome (IO.FS.readBinFile s.path)
    return (bytes.map fun b => UInt64.ofNat b.size, s)
  | .readBytes count => do
    let bytes ← onOpen s.file fun file => file.read (USize.ofNat count)
    return (bytes.map ByteArray.toList, s)
  | .writeBytes bytes => return (← onOpen s.file fun file => file.write ⟨bytes.toArray⟩, s)
  | .flush => return (← onOpen s.file IO.FS.Handle.flush, s)
  | .createSocket => do
    match ← outcome UDP.Socket.mk with
    | .ok socket => return (.ok (), { s with socket := some socket, pending := none })
    | .error e => return (.error e, s)
  | .bindSocket address => do
    let bound ← onOpen s.socket fun socket => do
      socket.bind (toSystem address)
      return ofSystem (← socket.getSockName)
    return (bound, s)
  | .connectSocket peer => do
    let connected ← onOpen s.socket fun socket => socket.connect (toSystem peer)
    return (connected, { s with peer })
  | .setReadDeadline deadline => return (.ok (), { s with deadline })
  | .setWriteDeadline _ => return (.ok (), s)
  | .sendDatagram bytes =>
    return (← onOpen s.socket fun socket => (socket.send ⟨bytes.toArray⟩).block, s)
  | .receiveDatagram _ =>
    match s.socket with
    | some socket => await s socket
    | none => return (.error .badDescriptor, s)
  | .closeSocket => return ((), { s with socket := none, pending := none })
  | .pollCancelled => return (false, s)
  | .readClock => return ((← IO.monoMsNow : Nat), s)
  | .readWallClock => do
    let now ← Std.Time.Timestamp.now
    return (now.toNanosecondsSinceUnixEpoch.toInt / 1000, s)
  | .print stream text => do
    let out ← match stream with
      | .output => IO.getStdout
      | .error => IO.getStderr
    out.write ⟨text.toArray⟩
    out.flush
    return ((), s)
  | .compareFiles first second =>
    return (sameContent (← contents first) (← contents second), s)

/-- Runs a program to its end. -/
partial def perform {α : Type} [Inhabited α] (p : Program α) (s : Surroundings) : IO α := do
  match p.view with
  | .inl result => return result
  | .inr ask =>
    let (a, s) ← answer s ask.call
    perform (ask.resume a) s

end Tftp.Main

def main (arguments : List String) : IO UInt32 := do
  let status ← Tftp.Main.perform
    (Tftp.CommandLine.run (Tftp.Bytes.ascii "tftp-transfer")
      (arguments.map fun argument => argument.toUTF8.toList))
    ⟨"", none, none, none, .unspecified, ⟨0, 0⟩⟩
  return UInt32.ofNat status
