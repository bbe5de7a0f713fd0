import Tftp.Comparison
import Tftp.Simulation.Disk
import Tftp.World

/-!
# A testbed in memory

A `Testbed` is a world for rehearsing transfers: a disk with one file, a socket whose incoming
datagrams and failures follow a script, clocks that stand still except while a transfer waits, and
the printed text. It records every call that it answers. With it a transfer can be made to meet any
peer, as the scripted peers of the specification do (§10.9), without a network.

* Each wait for a datagram takes incidents from the script until one of them ends the wait. When the
  script is used up, every wait ends at its deadline.
* An incident may be a datagram, the acknowledgement of the data sent last, a failure, a
  cancellation, or time that passes.
* A datagram may be sent unless the system refuses that attempt or the datagram is too long.
* A pause in the script suspends the program, so that its starter can act in the meantime.

A long series of incidents is a `Cue`, which makes them up one after the other when their turn
comes: a file of many blocks needs no long script.

Out of scope: the order in which a real network delivers, which is in `Tftp.Proofs.Network`. The
testbed answers one program, and its script is fixed before the run.
-/

namespace Tftp.Simulation

/-! ## Scripts -/

/-- What happens during a wait for a datagram. -/
inductive Incident where
  /-- A datagram arrives. -/
  | arrival (datagram : Datagram)
  /-- The acknowledgement of the data packet sent last arrives. -/
  | acknowledgement (source : Address)
  /-- The deadline passes. -/
  | deadline
  /-- The wait fails at once. -/
  | failure (reason : SystemError)
  /-- The transfer is cancelled, and the wait goes on. -/
  | cancel
  /-- Time passes, and the wait goes on. -/
  | delay (milliseconds : Int)
  /-- The program is suspended, and the wait goes on later. -/
  | pause
  deriving DecidableEq, Repr

/-- An incident that is made up when its turn comes: the `index`-th of its series. -/
structure Cue where
  series : Nat → Incident
  index : Nat

/-- An incident that happens a number of times. -/
def Cue.repeat (times : Nat) (series : Nat → Incident) : List Cue :=
  (List.range times).map fun index => ⟨series, index⟩

/-! ## Testbeds -/

/-- The socket calls that always fail, and why. -/
structure SocketFaults where
  onCreate : Option SystemError
  onBind : Option SystemError
  onConnect : Option SystemError
  onReadDeadline : Option SystemError
  onWriteDeadline : Option SystemError
  /-- The attempts to send that fail, by their number from 0 on. -/
  onSend : List (Nat × SystemError)
  deriving DecidableEq, Repr

/-- No faults. -/
def SocketFaults.none : SocketFaults := ⟨.none, .none, .none, .none, .none, []⟩

/-- An answered call, and how much the disk held when a datagram was sent while a file was open for
writing. -/
structure Entry where
  event : Event
  stored : Option Nat

/-- A surrounding system in memory. -/
structure Testbed where
  disk : Disk
  faults : SocketFaults
  script : List Cue
  /-- Whether the transfer was cancelled. -/
  cancelled : Bool
  /-- Whether the script can cancel the transfer. -/
  cancellable : Bool
  /-- The contents of the file that others are compared with. -/
  reference : Option Bytes
  /-- The milliseconds that have passed. -/
  clock : Int
  /-- The time in microseconds since the epoch when the clock was at zero. -/
  epoch : Int
  /-- The deadline of a wait. -/
  deadline : TimeSpan
  /-- The number of sockets created so far. -/
  sockets : Nat
  /-- The number of attempts to send so far. -/
  attempts : Nat
  /-- The datagram sent last; empty if none was sent. -/
  lastSent : Bytes
  /-- The answered calls, the latest first. -/
  record : List Entry

namespace Testbed

/-- The first of the ports that are free for any socket. -/
def firstFreePort : Nat := 49152

/-- The length of the longest datagram that can be sent. -/
def maxSendLength : Nat := 65507

/-- A system at its start, with a disk and a script and without faults. -/
def new (disk : Disk) (script : List Cue) : Testbed where
  disk
  faults := .none
  script
  cancelled := false
  cancellable := false
  reference := none
  clock := 0
  epoch := 0
  deadline := ⟨0, 0⟩
  sockets := 0
  attempts := 0
  lastSent := []
  record := []

/-- The answer to a call that fails if there is a reason. -/
def okUnless (reason : Option SystemError) (a : α) : Except SystemError α :=
  match reason with
  | some reason => .error reason
  | none => .ok a

/-- The acknowledgement that follows a datagram: it repeats the block number, with zero bytes where
the datagram has none. -/
def acknowledgementOf (sent : Bytes) : Bytes := [0, 4, sent.getD 2 0, sent.getD 3 0]

/-- The wait ends at its deadline. -/
def passDeadline (s : Testbed) (rest : List Cue) : Except SystemError Datagram × Testbed :=
  (.error .wouldBlock, { s with script := rest, clock := s.clock + s.deadline.toMilliseconds })

/-- Waits for a datagram, with the given script; none if the wait is suspended. -/
def await (s : Testbed) : List Cue → Option (Except SystemError Datagram) × Testbed
  | [] =>
    let (answer, s) := s.passDeadline []
    (some answer, s)
  | cue :: rest =>
    match cue.series cue.index with
    | .arrival datagram => (some (.ok datagram), { s with script := rest })
    | .acknowledgement source =>
      (some (.ok ⟨source, acknowledgementOf s.lastSent⟩), { s with script := rest })
    | .deadline =>
      let (answer, s) := s.passDeadline rest
      (some answer, s)
    | .failure reason => (some (.error reason), { s with script := rest })
    | .cancel => { s with cancelled := s.cancelled || s.cancellable }.await rest
    | .delay ms => { s with clock := s.clock + ms }.await rest
    | .pause => (none, { s with script := rest })

/-- Why an attempt to send fails. -/
def sendFault? (s : Testbed) (bytes : Bytes) : Option SystemError :=
  match s.faults.onSend.lookup s.attempts with
  | some reason => some reason
  | none => if maxSendLength < bytes.length then some .messageTooLong else none

/-- Sends a datagram. -/
def send (s : Testbed) (bytes : Bytes) : Except SystemError Unit × Testbed :=
  match s.sendFault? bytes with
  | some reason => (.error reason, { s with attempts := s.attempts + 1 })
  | none => (.ok (), { s with attempts := s.attempts + 1, lastSent := bytes })

/-- Answers a call; none if the caller is suspended. -/
def answer (s : Testbed) : (c : Call) → Option c.Answer × Testbed
  | .openForReading _ =>
    let (a, disk) := s.disk.openForReading
    (some a, { s with disk })
  | .openForWriting _ =>
    let (a, disk) := s.disk.openForWriting
    (some a, { s with disk })
  | .fileSize => (some s.disk.size, s)
  | .readBytes count =>
    let (a, disk) := s.disk.read count
    (some a, { s with disk })
  | .writeBytes bytes =>
    let (a, disk) := s.disk.write bytes
    (some a, { s with disk })
  | .flush =>
    let (a, disk) := s.disk.flush
    (some a, { s with disk })
  | .createSocket =>
    match s.faults.onCreate with
    | some reason => (some (.error reason), s)
    | none => (some (.ok ()), { s with sockets := s.sockets + 1 })
  | .bindSocket address =>
    let port := if address.port = 0 then UInt16.ofNat (firstFreePort + (s.sockets - 1))
      else address.port
    (some (okUnless s.faults.onBind { address with port }), s)
  | .connectSocket _ => (some (okUnless s.faults.onConnect ()), s)
  | .setReadDeadline deadline =>
    match s.faults.onReadDeadline with
    | some reason => (some (.error reason), s)
    | none => (some (.ok ()), { s with deadline })
  | .setWriteDeadline _ => (some (okUnless s.faults.onWriteDeadline ()), s)
  | .sendDatagram bytes =>
    let (a, s) := s.send bytes
    (some a, s)
  | .receiveDatagram _ => s.await s.script
  | .closeSocket => (some (), s)
  | .pollCancelled => (some s.cancelled, s)
  | .readClock => (some s.clock, s)
  | .readWallClock => (some (s.epoch + s.clock * 1000), s)
  | .print _ _ => (some (), s)
  | .compareFiles _ _ => (some (sameContent s.disk.content s.reference), s)

/-- How much is stored, if the call sends a datagram while a file is open for writing. -/
def storedAt (s : Testbed) : Call → Option Nat
  | .sendDatagram _ => if s.disk.writing then some s.disk.length else none
  | _ => none

/-- Answers a call and records it. -/
def serve (s : Testbed) (c : Call) : Option c.Answer × Testbed :=
  match s.answer c with
  | (none, s) => (none, s)
  | (some a, s) => (some a, { s with record := ⟨⟨c, a⟩, s.storedAt c⟩ :: s.record })

/-- Testbeds as a world. -/
def world : World Testbed := ⟨serve⟩

/-! ## What a run leaves behind -/

/-- The text printed to a stream. -/
def printed (s : Testbed) (stream : Stream) : Bytes :=
  (s.record.reverse.map fun entry => match entry.event.call with
    | .print on text => if on = stream then text else []
    | _ => []).flatten

/-- The datagrams that were sent, in order. -/
def sent (s : Testbed) : List Bytes :=
  s.record.reverse.filterMap fun entry => match entry.event with
    | ⟨.sendDatagram bytes, .ok ()⟩ => some bytes
    | _ => none

end Testbed

end Tftp.Simulation
