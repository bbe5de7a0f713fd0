import Tftp.SystemError

/-!
# A disk in memory

A `Disk` holds one file, which may be missing, and can be told to fail: to refuse opening or
measuring the file, to be unreadable from some position on, and to have room for only so many bytes.
What is written is pending until it is flushed, and only what was flushed is stored.

* `DiskFaults` are the faults. Each comes with the reason that the calls give.
* A read that reaches behind the unreadable position fails as a whole, even if some of its bytes
  could be read.
* A flush that has not enough room stores as much as there is room for and loses the rest.

The stored bytes are kept in pieces, the newest first, so that storing takes no longer in a large
file than in a small one. `Disk.content` is the file as a whole.

Failing reads and writes are rehearsed on this disk (specification §10.9). The proofs are not about
it: `Tftp.Proofs.File` says what they ask of a file, which allows more than a disk of this kind
does.

Out of scope: more than one file at a time, and files that others change meanwhile.
-/

namespace Tftp.Simulation

/-- The faults of a disk. -/
structure DiskFaults where
  /-- Why the file cannot be opened. -/
  onOpen : Option SystemError
  /-- Why the file cannot be measured. -/
  onSize : Option SystemError
  /-- The length that is told in place of the true one. -/
  toldSize : Option UInt64
  /-- The position from which on reading fails, and why; without effect beyond the end. -/
  badFrom : Option (Nat × SystemError)
  /-- The number of bytes there is room for, and why no more can be stored. -/
  room : Option (Nat × SystemError)
  deriving DecidableEq, Repr

/-- No faults. -/
def DiskFaults.none : DiskFaults := ⟨.none, .none, .none, .none, .none⟩

/-- A disk with one file. -/
structure Disk where
  faults : DiskFaults
  /-- The pieces of the file, the newest first; `none` if the file does not exist. -/
  pieces : Option (List Bytes)
  /-- The length of the file. -/
  length : Nat
  /-- The position of the next byte to read. -/
  position : Nat
  /-- The bytes from that position on. -/
  unread : Bytes
  /-- The bytes that were written and not yet flushed. -/
  pending : Bytes
  /-- Whether the file was opened for writing. -/
  writing : Bool
  deriving DecidableEq, Repr

namespace Disk

/-- A disk that holds a file, or none. -/
def holding (content : Option Bytes) (faults : DiskFaults) : Disk :=
  ⟨faults, content.map ([·]), (content.getD []).length, 0, [], [], false⟩

/-- The file as a whole; `none` if it does not exist. -/
def content (d : Disk) : Option Bytes := d.pieces.map fun pieces => pieces.reverse.flatten

/-- Opens the file for reading. -/
def openForReading (d : Disk) : Except SystemError Unit × Disk :=
  match d.faults.onOpen, d.content with
  | some reason, _ => (.error reason, d)
  | none, none => (.error .noSuchFile, d)
  | none, some bytes => (.ok (), { d with position := 0, unread := bytes })

/-- Empties or creates the file and opens it for writing. -/
def openForWriting (d : Disk) : Except SystemError Unit × Disk :=
  match d.faults.onOpen with
  | some reason => (.error reason, d)
  | none => (.ok (), { d with pieces := some [], length := 0, pending := [], writing := true })

/-- The length of the file. -/
def size (d : Disk) : Except SystemError UInt64 :=
  match d.faults.onSize with
  | some reason => .error reason
  | none => .ok (d.faults.toldSize.getD (UInt64.ofNat d.length))

/-- Why the next `count` bytes, or the end of the file among them, cannot be read. -/
def readFault? (d : Disk) (count : Nat) : Option SystemError :=
  match d.faults.badFrom with
  | none => none
  | some (bad, reason) => if bad ≤ d.length ∧ bad < d.position + count then some reason else none

/-- Reads the next `count` bytes, or fewer at the end of the file. -/
def read (d : Disk) (count : Nat) : Except SystemError Bytes × Disk :=
  match d.readFault? count with
  | some reason => (.error reason, d)
  | none =>
    let bytes := d.unread.take count
    (.ok bytes, { d with position := d.position + bytes.length, unread := d.unread.drop count })

/-- Hands bytes to the file. -/
def write (d : Disk) (bytes : Bytes) : Except SystemError Unit × Disk :=
  (.ok (), { d with pending := d.pending ++ bytes })

/-- How much of the pending bytes there is room for. -/
def storable (d : Disk) : Bytes :=
  match d.faults.room with
  | none => d.pending
  | some (room, _) => d.pending.take (room - d.length)

/-- Why not all of the pending bytes can be stored. -/
def flushFault? (d : Disk) : Option SystemError :=
  match d.faults.room with
  | none => none
  | some (room, reason) => if room < d.length + d.pending.length then some reason else none

/-- Stores the pending bytes as far as there is room for them; the others are lost. -/
def flush (d : Disk) : Except SystemError Unit × Disk :=
  let bytes := d.storable
  let d' := { d with
    pieces := some (bytes :: d.pieces.getD [])
    length := d.length + bytes.length
    pending := [] }
  match d.flushFault? with
  | none => (.ok (), d')
  | some reason => (.error reason, d')

end Disk

end Tftp.Simulation
