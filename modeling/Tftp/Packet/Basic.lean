import Tftp.Bytes

/-!
# Packets

The five kinds of packet of the trivial file transfer protocol (RFC 1350) with its option extension
(RFC 2347, RFC 2348 and RFC 2349): requests, data, acknowledgements, errors, and acknowledgements of
options (specification §3). A packet is a value of one type, which everyone who uses it takes apart
by its constructors, and its bytes are a matter of `Tftp.Packet.Encode` and `Tftp.Packet.Decode`
only (§9).

* `OptionEntry` is one requested or acknowledged option, a kind and a 64-bit value. Three kinds have
  a name in packets. `OptionKind.other` is a kind that somebody asked for by a number and that has
  none.
* `ErrorCode` is any 16-bit code; the nine that the protocol defines have names.
* `nextBlock` numbers the blocks of a file; after 65535 comes 0 (§3, `next_block` in §10.6).

A `Packet` may hold what no datagram can: a text with a zero byte, an option without a name, an
undefined error code. The specification promises that every packet can be read back (§8), but these
cannot; `Tftp.Proofs.RoundTrip` says which can.

Out of scope: what a request asks for beyond its fields. Requests are answered by somebody else
before a transfer begins (§1); here they are only read and written.
-/

namespace Tftp

/-! ## Options -/

/-- What an option sets. `other` stands for every kind that this program gives no meaning to. -/
inductive OptionKind where
  | blockSize
  | transferSize
  | timeout
  | other (tag : Int)
  deriving DecidableEq, Repr

namespace OptionKind

/-- The kind with a given numeric tag. -/
def ofTag (tag : Int) : OptionKind :=
  if tag = 0 then blockSize else if tag = 1 then transferSize else if tag = 2 then timeout
  else other tag

/-- The name of a kind in a packet. -/
def name : OptionKind → Bytes
  | blockSize => Bytes.ascii "blksize"
  | transferSize => Bytes.ascii "tsize"
  | timeout => Bytes.ascii "timeout"
  | other _ => Bytes.ascii "unknown"

/-- The kind with a given lower-case name. -/
def ofName? (text : Bytes) : Option OptionKind :=
  [blockSize, transferSize, timeout].find? fun kind => kind.name == text

/-- The kinds that a packet can name. -/
def IsKnown : OptionKind → Prop
  | other _ => False
  | _ => True

instance : DecidablePred IsKnown := fun kind => by
  cases kind <;> unfold IsKnown <;> infer_instance

end OptionKind

/-- One option of a request or of its acknowledgement. -/
structure OptionEntry where
  kind : OptionKind
  value : UInt64
  deriving DecidableEq, Repr

/-! ## Error codes -/

/-- The code of an error packet. -/
structure ErrorCode where
  value : UInt16
  deriving DecidableEq, Repr

namespace ErrorCode

def undefined : ErrorCode := ⟨0⟩
def fileNotFound : ErrorCode := ⟨1⟩
def accessViolation : ErrorCode := ⟨2⟩
def diskFull : ErrorCode := ⟨3⟩
def illegalOperation : ErrorCode := ⟨4⟩
def unknownTransfer : ErrorCode := ⟨5⟩
def fileExists : ErrorCode := ⟨6⟩
def noSuchUser : ErrorCode := ⟨7⟩
def optionsRejected : ErrorCode := ⟨8⟩

/-- The code a received number stands for: numbers beyond the defined ones count as undefined. -/
def ofWire (value : UInt16) : ErrorCode := if value ≤ 8 then ⟨value⟩ else undefined

end ErrorCode

/-! ## Packets -/

/-- Whether the peer asks to read a file or to write one. -/
inductive Access where
  | read
  | write
  deriving DecidableEq, Repr

/-- A packet. -/
inductive Packet where
  | request (access : Access) (filename mode : Bytes) (options : List OptionEntry)
  | data (block : UInt16) (payload : Bytes)
  | ack (block : UInt16)
  | error (code : ErrorCode) (message : Bytes)
  | optionAck (options : List OptionEntry)
  deriving DecidableEq, Repr

/-- The transfer mode of a request that names no other. -/
def defaultMode : Bytes := Bytes.ascii "octet"

/-- The number of the block after `block`. -/
def nextBlock (block : UInt16) : UInt16 := block + 1

end Tftp
