import Tftp.Bytes

/-!
# Numbers on the command line

A number is read leniently: blanks and a sign may precede its digits, whatever follows them is
ignored, and without digits the number is 0. So every text is some number, and nothing tells whether
it was meant as one.

* `Numeral` is the sign and the digits at the start of a text, as a number without a bound.
* `signed32` keeps the low 32 bits of a number that is first brought into the range of 64 bits; it
  reads the port, the number of attempts and the deadline (specification §10.4).
* `unsigned64` stops at the largest number of 64 bits; a minus sign negates modulo 2⁶⁴. It reads the
  values of requested options, which `negotiate` may then refuse.

What `signed32` makes of a number beyond 64 bits is what systems of 64 bits do, which take the
largest number that they have before they cut it; the documentation of such readers leaves it open.

Out of scope: numbers in other bases. What a decimal in the range of 32 bits is read as, is in
`Tftp.Proofs.CommandLine.Decimal`.
-/

namespace Tftp.CommandLine

/-- Whether a byte is a blank: a space, a tab or one of the four line separators. -/
def isBlank (c : UInt8) : Bool := c == 32 || (9 ≤ c && c ≤ 13)

/-- The sign and the digits at the start of a text. -/
structure Numeral where
  negative : Bool
  magnitude : Nat
  deriving DecidableEq, Repr

/-- The number that digits denote. -/
def valueOfDigits (digits : List Nat) : Nat :=
  digits.foldl (fun value digit => 10 * value + digit) 0

/-- The digits at the start of a text. -/
def leadingDigits : Bytes → List Nat
  | [] => []
  | c :: rest =>
    match Bytes.digit? c with
    | some digit => digit :: leadingDigits rest
    | none => []

/-- Reads the numeral at the start of a text. -/
def Numeral.read (text : Bytes) : Numeral :=
  match text.dropWhile isBlank with
  | 45 :: rest => ⟨true, valueOfDigits (leadingDigits rest)⟩
  | 43 :: rest => ⟨false, valueOfDigits (leadingDigits rest)⟩
  | rest => ⟨false, valueOfDigits (leadingDigits rest)⟩

/-- A number of 32 bits with a sign. -/
def signed32 (text : Bytes) : Int :=
  let n := Numeral.read text
  let bounded : Int := if n.negative then -(min n.magnitude (Nat.pow 2 63) : Nat)
    else (min n.magnitude (Nat.pow 2 63 - 1) : Nat)
  bounded.bmod (Nat.pow 2 32)

/-- A number of 64 bits without a sign. -/
def unsigned64 (text : Bytes) : UInt64 :=
  let n := Numeral.read text
  if Nat.pow 2 64 ≤ n.magnitude then 18446744073709551615
  else if n.negative then 0 - UInt64.ofNat n.magnitude
  else UInt64.ofNat n.magnitude

end Tftp.CommandLine
