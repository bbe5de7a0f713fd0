import Tftp.CommandLine.Number
import Tftp.Proofs.Packet.Numeral

/-!
# Decimal numbers on the command line

The command line is read leniently, so that every text gives some number. This module says what a
text gives that is a number in decimal.

* `IsDecimal` says which texts are numbers in decimal, and of which number.
* `InRange32` are the numbers of 32 bits with a sign.

Results:
* `isDecimal_signedDecimal`: every number has a decimal text.
* **`signed32_of_isDecimal`**: a number of 32 bits is read as what its text denotes.

Three numbers of the tool are read so (specification §10.4): the port, the number of attempts and
the deadline. What becomes of them is in `Tftp.Proofs.CommandLine.Numbers`.

Out of scope: texts that are no decimals, and decimals beyond 32 bits, which are read as something
else without a complaint.
-/

namespace Tftp

open Bytes

namespace CommandLine

/-- The text is a number in decimal, which may have a sign before its digits. -/
inductive IsDecimal : Bytes → Int → Prop where
  | bare {digits : Bytes} (nonempty : digits ≠ []) (all : ∀ c ∈ digits, IsDigit c) :
      IsDecimal digits (numeral digits)
  | plus {digits : Bytes} (nonempty : digits ≠ []) (all : ∀ c ∈ digits, IsDigit c) :
      IsDecimal (43 :: digits) (numeral digits)
  | minus {digits : Bytes} (nonempty : digits ≠ []) (all : ∀ c ∈ digits, IsDigit c) :
      IsDecimal (45 :: digits) (-numeral digits)

/-- The number has 32 bits, one of which is for the sign. -/
def InRange32 (n : Int) : Prop := -2147483648 ≤ n ∧ n < 2147483648

instance (n : Int) : Decidable (InRange32 n) := inferInstanceAs (Decidable (_ ∧ _))

/-- Every number has a decimal text. -/
theorem isDecimal_signedDecimal (n : Int) : IsDecimal (signedDecimal n) n := by
  have hall : ∀ c ∈ decimal n.natAbs, IsDigit c := fun _ => isDigit_of_mem_decimal
  have hnumeral := numeral_decimal n.natAbs
  unfold signedDecimal
  split
  · have hminus := IsDecimal.minus (decimal_ne_nil n.natAbs) hall
    rw [hnumeral] at hminus
    have habs : -(n.natAbs : Int) = n := by omega
    rw [habs] at hminus
    exact hminus
  · have hbare := IsDecimal.bare (decimal_ne_nil n.natAbs) hall
    rw [hnumeral] at hbare
    have habs : (n.natAbs : Int) = n := by omega
    rw [habs] at hbare
    exact hbare

/-! ## Reading -/

/-- The number that a sign and digits stand for. -/
def Numeral.value (n : Numeral) : Int := if n.negative then -n.magnitude else n.magnitude

theorem leadingDigits_of_digits {digits : Bytes} (all : ∀ c ∈ digits, IsDigit c) :
    leadingDigits digits = digits.map fun c => c.toNat - 48 := by
  induction digits with
  | nil => rfl
  | cons c digits ih =>
    obtain ⟨hc, hdigits⟩ := List.forall_mem_cons.mp all
    have hdigit : digit? c = some (c.toNat - 48) := digit?_eq_some_iff.mpr ⟨hc, rfl⟩
    simp [leadingDigits, hdigit, ih hdigits]

/-- Digits are read as the number that they denote. -/
theorem valueOfDigits_leadingDigits {digits : Bytes} (all : ∀ c ∈ digits, IsDigit c) :
    valueOfDigits (leadingDigits digits) = numeral digits := by
  rw [leadingDigits_of_digits all, valueOfDigits, List.foldl_map]
  rfl

theorem not_isBlank_of_isDigit {c : UInt8} (h : IsDigit c) : isBlank c = false := by
  have hlow : 48 ≤ c.toNat := UInt8.le_iff_toNat_le.mp h.1
  have hspace : c ≠ 32 := by
    rintro rfl
    exact absurd hlow (by decide)
  have hfar : ¬ c ≤ 13 := by
    intro hle
    have hnear : c.toNat ≤ 13 := UInt8.le_iff_toNat_le.mp hle
    omega
  simp [isBlank, hspace, hfar]

theorem read_minus (digits : Bytes) (all : ∀ c ∈ digits, IsDigit c) :
    Numeral.read (45 :: digits) = ⟨true, numeral digits⟩ := by
  rw [← valueOfDigits_leadingDigits all]
  rfl

theorem read_plus (digits : Bytes) (all : ∀ c ∈ digits, IsDigit c) :
    Numeral.read (43 :: digits) = ⟨false, numeral digits⟩ := by
  rw [← valueOfDigits_leadingDigits all]
  rfl

theorem read_bare {digits : Bytes} (nonempty : digits ≠ []) (all : ∀ c ∈ digits, IsDigit c) :
    Numeral.read digits = ⟨false, numeral digits⟩ := by
  rw [← valueOfDigits_leadingDigits all]
  cases digits with
  | nil => exact absurd rfl nonempty
  | cons c digits =>
    have hc := all c List.mem_cons_self
    have hkeep : (c :: digits).dropWhile isBlank = c :: digits :=
      List.dropWhile_cons_of_neg (by simp [not_isBlank_of_isDigit hc])
    unfold Numeral.read
    rw [hkeep]
    split
    · rename_i heq
      cases heq
      exact absurd hc.1 (by decide)
    · rename_i heq
      cases heq
      exact absurd hc.1 (by decide)
    · rfl

/-- The bounds of 64 and of 32 bits do nothing to a number of 32 bits. -/
theorem signed32_of_read {text : Bytes} {n : Numeral} (read : Numeral.read text = n)
    (fits : InRange32 n.value) : signed32 text = n.value := by
  obtain ⟨negative, m⟩ := n
  obtain ⟨hlow, hhigh⟩ := fits
  have hm : m ≤ 2147483648 := by
    cases negative <;> simp [Numeral.value] at hlow hhigh <;> omega
  have hnegative : min m (Nat.pow 2 63) = m := Nat.min_eq_left (Nat.le_trans hm (by decide))
  have hpositive : min m (Nat.pow 2 63 - 1) = m := Nat.min_eq_left (Nat.le_trans hm (by decide))
  unfold signed32
  rw [read]
  dsimp only
  rw [hnegative, hpositive]
  change (Numeral.value ⟨negative, m⟩).bmod (Nat.pow 2 32) = _
  exact Int.bmod_eq_of_le (by simpa using hlow) (by simpa using hhigh)

/-- **A number of 32 bits is read as what its decimal text denotes.** -/
theorem signed32_of_isDecimal {text : Bytes} {n : Int} (h : IsDecimal text n)
    (fits : InRange32 n) : signed32 text = n := by
  cases h with
  | bare nonempty all => exact signed32_of_read (read_bare nonempty all) fits
  | plus nonempty all => exact signed32_of_read (read_plus _ all) fits
  | minus nonempty all => exact signed32_of_read (read_minus _ all) fits

end CommandLine

end Tftp
