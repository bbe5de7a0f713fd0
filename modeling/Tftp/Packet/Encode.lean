import Tftp.Packet.Basic

/-!
# Packets as bytes

Every packet starts with its opcode; numbers are big-endian and texts end with a zero byte
(`encode`, specification §4.1 and §10.6).

| packet       | after the opcode                               |
|--------------|------------------------------------------------|
| `request`    | filename, mode, then pairs of name and value   |
| `data`       | block number, payload                          |
| `ack`        | block number                                   |
| `error`      | code, message                                  |
| `optionAck`  | pairs of name and value                        |

Option values are written in decimal, without leading zeros. Options are written in the order of the
list and as often as they are in it; nothing is looked for or left out.

Encoding does not fail and checks nothing. A text is written as it is, even if it holds the zero
byte that will end it too early for a reader, and an option that has no name is written as
`unknown`.

Out of scope: whether a datagram has room for the bytes. A packet may be too long to be sent, and
then the system refuses it when it is handed over; `Tftp.Proofs.Transfer.Fitting` shows that a
transfer makes no such packet.
-/

namespace Tftp

/-- The first two bytes of a packet. -/
inductive Opcode where
  | readRequest
  | writeRequest
  | data
  | ack
  | error
  | optionAck
  deriving DecidableEq, Repr

namespace Opcode

/-- The number of an opcode. -/
def value : Opcode → UInt16
  | readRequest => 1
  | writeRequest => 2
  | data => 3
  | ack => 4
  | error => 5
  | optionAck => 6

/-- The opcode with a given number. -/
def ofValue? (value : UInt16) : Option Opcode :=
  [readRequest, writeRequest, data, ack, error, optionAck].find? fun opcode =>
    opcode.value == value

/-- The opcode of a request. -/
def ofAccess : Access → Opcode
  | .read => readRequest
  | .write => writeRequest

/-- The two bytes of an opcode. -/
def encode (opcode : Opcode) : Bytes := Bytes.ofWord opcode.value

end Opcode

/-- An option as its name and its value in decimal, both terminated. -/
def OptionEntry.encode (option : OptionEntry) : Bytes :=
  Bytes.terminated option.kind.name ++ Bytes.terminated (Bytes.decimal option.value.toNat)

/-- Options one after the other. -/
def encodeOptions (options : List OptionEntry) : Bytes := options.flatMap OptionEntry.encode

/-- The bytes of a packet. -/
def Packet.encode : Packet → Bytes
  | .request access filename mode options =>
    (Opcode.ofAccess access).encode ++ Bytes.terminated filename ++ Bytes.terminated mode
      ++ encodeOptions options
  | .data block payload => Opcode.data.encode ++ Bytes.ofWord block ++ payload
  | .ack block => Opcode.ack.encode ++ Bytes.ofWord block
  | .error code message =>
    Opcode.error.encode ++ Bytes.ofWord code.value ++ Bytes.terminated message
  | .optionAck options => Opcode.optionAck.encode ++ encodeOptions options

end Tftp
