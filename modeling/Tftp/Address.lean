import Tftp.Failure

/-!
# Internet addresses

An address is an IPv4 host and a port. A transfer has two of them, the one its socket is bound to
and that of its only peer (specification §6), and is given both when it begins (§1).

* `Host.parse?` reads the dotted form strictly: exactly four decimal parts of 0 to 255, without
  leading zeros, and nothing else.
* `Address.make` takes a dotted host, as far as its first zero byte, and a port as a whole number,
  of which it keeps the low sixteen bits: 70000 is port 4464. Nobody looks at the number before; see
  `Tftp.Proofs.CommandLine.Numbers` for what becomes of it.
* `Address.text` is the form in which messages name an address.

Out of scope: names of hosts and longer addresses, for which there is no form here, and whether
somebody can be reached at an address.
-/

namespace Tftp

/-- The four bytes of an IPv4 host. -/
structure Host where
  a : UInt8
  b : UInt8
  c : UInt8
  d : UInt8
  deriving DecidableEq, Repr

namespace Host

/-- The host `0.0.0.0`, which stands for any. -/
def any : Host := ⟨0, 0, 0, 0⟩

/-- A host in dotted form. -/
def text (host : Host) : Bytes :=
  let part (byte : UInt8) := Bytes.decimal byte.toNat
  let dot := Bytes.ascii "."
  part host.a ++ dot ++ part host.b ++ dot ++ part host.c ++ dot ++ part host.d

/-- The pieces of a text between its dots. -/
def splitAtDots (text : Bytes) : List Bytes :=
  text.foldr (fun byte pieces =>
    if byte = 46 then [] :: pieces
    else
      match pieces with
      | [] => [[byte]]
      | piece :: pieces => (byte :: piece) :: pieces) [[]]

/-- Reads one part of a dotted form. -/
def parsePart? (piece : Bytes) : Option UInt8 := do
  let digits ← piece.mapM Bytes.digit?
  let value := digits.foldl (fun value digit => 10 * value + digit) 0
  if digits = [] ∨ (digits.head? = some 0 ∧ digits.length ≠ 1) ∨ 255 < value then none
  else some (UInt8.ofNat value)

/-- Reads a dotted form. -/
def parse? (text : Bytes) : Option Host :=
  match splitAtDots text with
  | [a, b, c, d] => do return ⟨← parsePart? a, ← parsePart? b, ← parsePart? c, ← parsePart? d⟩
  | _ => none

end Host

/-- A host and a port. -/
structure Address where
  host : Host
  port : UInt16
  deriving DecidableEq, Repr

namespace Address

/-- The address `0.0.0.0:0` of nobody. -/
def unspecified : Address := ⟨Host.any, 0⟩

/-- An address as host, colon and port. -/
def text (address : Address) : Bytes :=
  address.host.text ++ Bytes.ascii ":" ++ Bytes.decimal address.port.toNat

/-- The address of a dotted host, which ends at its first zero byte, and a port, of which the low
sixteen bits count. -/
def make (host : Bytes) (port : Int) : Except Failure Address :=
  match Host.parse? host.untilZero with
  | none => .error (.invalidAddress host.untilZero)
  | some h => .ok ⟨h, UInt16.ofNat (port % 65536).toNat⟩

end Address

end Tftp
