import Tftp.Bytes

/-!
# Elapsed seconds

A duration in milliseconds is reported in seconds with six decimal places, in the line that a
transfer logs when it succeeds (specification §10.2). The duration goes through floating-point
numbers of two sizes on its way, and the printed digits show it. What these do is done here with
whole numbers, exactly: the number of milliseconds is rounded to 24 significant bits, the quotient
by 1000 to 53, and the decimal to six places. Each time a number half-way between two others goes to
the even one.

* `roundDiv` is the rounded quotient of two whole numbers.
* `roundToBits` rounds a number to its leading binary digits.
* `millionths` is the number of seconds in millionths, `text` its decimal.

Out of scope: durations of more than 63 bits, which no clock tells, and the time of day, for which
see `Tftp.Log`. The digits are part of a message and of nothing else: no outcome of a transfer
depends on them.
-/

namespace Tftp.Seconds

/-- The whole number nearest to `n / d`; a half goes to the even neighbour. -/
def roundDiv (n d : Nat) : Nat :=
  if 2 * (n % d) < d then n / d
  else if d < 2 * (n % d) then n / d + 1
  else n / d + n / d % 2

/-- `n` rounded to its leading `bits` binary digits. -/
def roundToBits (bits n : Nat) : Nat :=
  let dropped := n.log2 + 1 - bits
  roundDiv n (Nat.pow 2 dropped) * Nat.pow 2 dropped

/-- `milliseconds / 1000`, rounded to 53 significant bits and then to whole millionths. -/
def millionths (milliseconds : Nat) : Nat :=
  -- the exponent of the quotient's leading bit, plus 10
  let lead := (milliseconds * 1024 / 1000).log2
  if lead ≤ 62 then
    let mantissa := roundDiv (milliseconds * Nat.pow 2 (62 - lead)) 1000
    roundDiv (mantissa * 1000000) (Nat.pow 2 (62 - lead))
  else
    roundDiv milliseconds (1000 * Nat.pow 2 (lead - 62)) * Nat.pow 2 (lead - 62) * 1000000

/-- A duration in milliseconds as seconds with six decimal places. -/
def text (milliseconds : Int) : Bytes :=
  let n := millionths (roundToBits 24 milliseconds.natAbs)
  let sign := if milliseconds < 0 then Bytes.ascii "-" else []
  sign ++ Bytes.decimal (n / 1000000) ++ Bytes.ascii "." ++ Bytes.paddedDecimal 6 (n % 1000000)

end Tftp.Seconds
