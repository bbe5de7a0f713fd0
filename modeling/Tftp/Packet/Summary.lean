import Tftp.Packet.Basic

/-!
# One-line summaries of packets

`Packet.summary` describes a packet for a log, behind a heading: its kind and its fields, without
the payload of data (`get_debug_str`, specification §10.2). A payload is told by its length, an
error by its code in decimal and its text, and options by name and value in their order.

The heading ends at its first zero byte, the fields do not: a filename or an error text is part of
the summary as a whole.

Out of scope: reading a summary. Two packets may have the same one, since nothing keeps a filename
from looking like a mode or an option.
-/

namespace Tftp

open Bytes

/-- Options as ` name=value`, one after the other. -/
def summarizeOptions (options : List OptionEntry) : Bytes :=
  options.flatMap fun option =>
    ascii " " ++ option.kind.name ++ ascii "=" ++ decimal option.value.toNat

/-- The kind and the fields of a packet. -/
def Packet.fields : Packet → Bytes
  | .request access filename mode options =>
    (match access with
      | .read => ascii " RRQ "
      | .write => ascii " WRQ ")
      ++ filename ++ ascii " " ++ mode ++ summarizeOptions options
  | .data block payload =>
    ascii " DAT blk=" ++ decimal block.toNat ++ ascii " len=" ++ decimal payload.length
  | .ack block => ascii " ACK blk=" ++ decimal block.toNat
  | .error code message =>
    ascii " ERR code=" ++ decimal code.value.toNat ++ ascii " msg=" ++ message
  | .optionAck options => ascii " OACK" ++ summarizeOptions options

/-- A packet on one line, behind a heading that ends at its first zero byte. -/
def Packet.summary (heading : Bytes) (packet : Packet) : Bytes :=
  heading.untilZero ++ packet.fields

end Tftp
