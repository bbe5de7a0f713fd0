import Mathlib.Algebra.Group.Nat.Defs
import Tftp.Packet.Decode

/-!
# Option values

An option value is written as one to twenty decimal digits that denote a 64-bit number. The number
that digits denote is taken without a bound, so that a text which is too large for the range is
told from one that fits.

* `Bytes.numeral` is the number that decimal digits denote.
* `Bytes.IsValue` says which texts are option values, and of which number.

Results:
* `appendDigit?_eq_none_iff`: one more digit is refused exactly if the number would not fit.
* `toNat_append_digit`: if it fits, it is computed without wrapping around.
* **`readValue_eq_ok_iff`**: what is read is an option value, and every option value is read.
* `length_decimal_le`: how many digits a number has in decimal.
* `zero_notMem_decimal`: a number in decimal has no zero byte.
* `numeral_decimal`: a number in decimal denotes that number.
* `isValue_decimal`: so it is the option value of that number, if it has 64 bits.

The specification has option values in decimal ASCII (§10.6). The same digits are in messages and
log lines, so that the lemmas on decimals serve there as well.

Out of scope: numbers of the command line, which are read in another way
(`Tftp.Proofs.CommandLine.Decimal`).
-/

namespace Tftp

namespace Bytes

/-- The bytes of the digits `0` … `9`. -/
def IsDigit (c : UInt8) : Prop := 48 ≤ c ∧ c ≤ 57

/-- The number denoted by the digits of `n` and the digits `text` behind them. -/
def numeralFrom (n : Nat) (text : Bytes) : Nat :=
  text.foldl (fun n c => 10 * n + (c.toNat - 48)) n

/-- The number that decimal digits denote. -/
def numeral (text : Bytes) : Nat := numeralFrom 0 text

/-- `text` is an option value and denotes `v`. -/
structure IsValue (text : Bytes) (v : UInt64) : Prop where
  nonempty : text ≠ []
  short : text.length ≤ 20
  digits : ∀ c ∈ text, IsDigit c
  denotes : numeral text = v.toNat

theorem numeralFrom_cons (n : Nat) (c : UInt8) (text : Bytes) :
    numeralFrom n (c :: text) = numeralFrom (10 * n + (c.toNat - 48)) text := by
  unfold numeralFrom
  rw [List.foldl_cons]

theorem digit?_eq_some_iff {c : UInt8} {d : Nat} :
    digit? c = some d ↔ IsDigit c ∧ d = c.toNat - 48 := by
  unfold digit? IsDigit
  split
  · rename_i hc
    simp [hc, eq_comm]
  · rename_i hc
    simp [hc]

theorem digit?_eq_none_iff {c : UInt8} : digit? c = none ↔ ¬ IsDigit c := by
  unfold digit? IsDigit
  split <;> simp_all

/-- More digits denote at least the number of the first ones. -/
theorem le_numeralFrom (n : Nat) (text : Bytes) : n ≤ numeralFrom n text := by
  induction text generalizing n with
  | nil => exact Nat.le_refl n
  | cons c text ih =>
    have hrest := ih (10 * n + (c.toNat - 48))
    rw [numeralFrom_cons]
    omega

end Bytes

open Bytes

/-! ## Reading -/

/-- The value of a digit is a 64-bit number. -/
theorem toNat_ofNat_digit (c : UInt8) : (UInt64.ofNat (c.toNat - 48)).toNat = c.toNat - 48 := by
  have hlt := c.toNat_lt
  rw [UInt64.toNat_ofNat']
  omega

/-- The bound tells, without leaving the 64-bit range, whether one more digit would leave it. -/
theorem bound_lt_iff {value digit : UInt64} :
    value > (maxOptionValue - digit) / 10 ↔ 2 ^ 64 ≤ 10 * value.toNat + digit.toNat := by
  have hvalue := value.toNat_lt
  have hdigit := digit.toNat_lt
  have hbound : ((maxOptionValue - digit) / 10).toNat = (2 ^ 64 - 1 - digit.toNat) / 10 := by
    have hle : digit ≤ maxOptionValue := by
      rw [UInt64.le_iff_toNat_le]
      show digit.toNat ≤ 18446744073709551615
      omega
    rw [UInt64.toNat_div, UInt64.toNat_sub_of_le _ _ hle]
    rfl
  rw [gt_iff_lt, UInt64.lt_iff_toNat_lt, hbound]
  omega

/-- Where the number with one more digit fits, neither the product nor the sum wraps around. -/
theorem toNat_append_digit {value digit : UInt64}
    (fits : 10 * value.toNat + digit.toNat < 2 ^ 64) :
    (value * 10).toNat = 10 * value.toNat ∧
      (value * 10 + digit).toNat = 10 * value.toNat + digit.toNat := by
  have hproduct : (value * 10).toNat = 10 * value.toNat := by
    rw [UInt64.toNat_mul]
    show value.toNat * 10 % 2 ^ 64 = _
    omega
  refine ⟨hproduct, ?_⟩
  rw [UInt64.toNat_add, hproduct]
  exact Nat.mod_eq_of_lt fits

/-- One more digit is refused exactly if the number would leave the 64-bit range. -/
theorem appendDigit?_eq_none_iff {value digit : UInt64} :
    appendDigit? value digit = none ↔ 2 ^ 64 ≤ 10 * value.toNat + digit.toNat := by
  rw [← bound_lt_iff]
  simp [appendDigit?]

/-- One more digit is computed by a product and a sum, if the number fits. -/
theorem appendDigit?_of_fits {value digit : UInt64}
    (fits : 10 * value.toNat + digit.toNat < 2 ^ 64) :
    appendDigit? value digit = some (value * 10 + digit) :=
  if_neg (mt bound_lt_iff.mp (Nat.not_le_of_lt fits))

section Digit

variable {text : Bytes} {value : UInt64} {c : UInt8}

/-- Where the number with the digit of a byte fits, neither the product nor the sum wraps around. -/
theorem toNat_append_byte (fits : 10 * value.toNat + (c.toNat - 48) < 2 ^ 64) :
    (value * 10).toNat = 10 * value.toNat ∧
      (value * 10 + UInt64.ofNat (c.toNat - 48)).toNat = 10 * value.toNat + (c.toNat - 48) := by
  rw [← toNat_ofNat_digit] at fits
  obtain ⟨hproduct, hsum⟩ := toNat_append_digit fits
  rw [toNat_ofNat_digit] at hsum
  exact ⟨hproduct, hsum⟩

theorem readDigit_of_not_isDigit (h : ¬ IsDigit c) :
    readDigit text value c = .error (.invalidValue text) := by
  rw [readDigit, digit?_eq_none_iff.mpr h]

theorem readDigit_of_over (h : IsDigit c)
    (beyond : 2 ^ 64 ≤ 10 * value.toNat + (c.toNat - 48)) :
    readDigit text value c = .error (.valueOutOfRange text) := by
  rw [← toNat_ofNat_digit] at beyond
  rw [readDigit, digit?_eq_some_iff.mpr ⟨h, rfl⟩]
  dsimp only
  rw [appendDigit?_eq_none_iff.mpr beyond, Option.elim_none]

theorem readDigit_of_fits (h : IsDigit c)
    (fits : 10 * value.toNat + (c.toNat - 48) < 2 ^ 64) :
    readDigit text value c = .ok (value * 10 + UInt64.ofNat (c.toNat - 48)) := by
  rw [← toNat_ofNat_digit] at fits
  rw [readDigit, digit?_eq_some_iff.mpr ⟨h, rfl⟩]
  dsimp only
  rw [appendDigit?_of_fits fits, Option.elim_some]

/-- One more digit is read if it is a digit and the number it makes up fits. -/
theorem readDigit_eq_ok_iff {next : UInt64} :
    readDigit text value c = .ok next ↔
      IsDigit c ∧ 10 * value.toNat + (c.toNat - 48) = next.toNat := by
  by_cases hc : IsDigit c
  · by_cases hover : 2 ^ 64 ≤ 10 * value.toNat + (c.toNat - 48)
    · rw [readDigit_of_over hc hover]
      have hnext := next.toNat_lt
      constructor
      · intro h
        cases h
      · rintro ⟨-, heq⟩
        omega
    · have hfits := Nat.lt_of_not_le hover
      rw [readDigit_of_fits hc hfits, Except.ok.injEq, ← UInt64.toNat_inj,
        (toNat_append_byte hfits).2]
      simp [hc]
  · simp [readDigit_of_not_isDigit hc, hc]

end Digit

/-- Digits are read behind a number if they are digits and the number they make up fits. -/
theorem readDigits_eq_ok_iff {text rest : Bytes} {value v : UInt64} :
    readDigits text value rest = .ok v ↔
      (∀ c ∈ rest, IsDigit c) ∧ numeralFrom value.toNat rest = v.toNat := by
  induction rest generalizing value with
  | nil => simp [readDigits, numeralFrom, UInt64.toNat_inj]
  | cons c rest ih =>
    rw [readDigits, List.forall_mem_cons, numeralFrom_cons]
    cases hread : readDigit text value c with
    | ok next =>
      obtain ⟨hc, hnext⟩ := readDigit_eq_ok_iff.mp hread
      rw [hnext]
      simp [bind, Except.bind, ih, hc]
    | error fault =>
      -- The digits read so far denote too much, and more digits denote no less.
      have hover : ¬ (IsDigit c ∧
          numeralFrom (10 * value.toNat + (c.toNat - 48)) rest = v.toNat) := by
        rintro ⟨hc, heq⟩
        have hle := le_numeralFrom (10 * value.toNat + (c.toNat - 48)) rest
        have hv := v.toNat_lt
        have hfits : readDigit text value c
            = .ok (UInt64.ofNat (10 * value.toNat + (c.toNat - 48))) := by
          rw [readDigit_eq_ok_iff, UInt64.toNat_ofNat']
          exact ⟨hc, by omega⟩
        rw [hread] at hfits
        cases hfits
      constructor
      · intro h
        cases h
      · rintro ⟨⟨hc, -⟩, heq⟩
        exact absurd ⟨hc, heq⟩ hover

/-- **An option value is read exactly if it is one to twenty digits that denote a 64-bit
number**, and then that number is read. -/
theorem readValue_eq_ok_iff {text : Bytes} {v : UInt64} :
    readValue text = .ok v ↔ text.IsValue v := by
  unfold readValue
  by_cases hlength : text = [] ∨ maxValueLength < text.length
  · rw [if_pos hlength]
    constructor
    · intro h
      cases h
    · intro h
      rcases hlength with hempty | hlong
      · exact absurd hempty h.nonempty
      · exact absurd h.short (Nat.not_le_of_lt hlong)
  · rw [if_neg hlength, readDigits_eq_ok_iff]
    have hshort : text ≠ [] ∧ text.length ≤ 20 := by
      simpa [maxValueLength] using hlength
    constructor
    · rintro ⟨hdigits, hvalue⟩
      exact ⟨hshort.1, hshort.2, hdigits, hvalue⟩
    · intro h
      exact ⟨h.digits, h.denotes⟩

/-! ## Writing -/

/-- A digit takes one byte, and denotes what it denotes as a character. -/
theorem toNat_ofChar_digit {c : Char} (h : c.isDigit = true) :
    (UInt8.ofNat c.toNat).toNat = c.toNat ∧ 48 ≤ c.toNat ∧ c.toNat ≤ 57 := by
  have hbounds : 48 ≤ c.toNat ∧ c.toNat ≤ 57 := by
    rw [Char.isDigit, Bool.and_eq_true, decide_eq_true_eq, decide_eq_true_eq] at h
    exact h
  refine ⟨?_, hbounds⟩
  rw [UInt8.toNat_ofNat']
  omega

theorem numeralFrom_ofChars {cs : List Char} (digits : ∀ c ∈ cs, c.isDigit = true) (n : Nat) :
    numeralFrom n (ofChars cs) = Nat.ofDigitChars 10 cs n := by
  induction cs generalizing n with
  | nil => rfl
  | cons c cs ih =>
    rw [List.forall_mem_cons] at digits
    obtain ⟨hc, hcs⟩ := digits
    rw [Nat.ofDigitChars_cons, ← ih hcs]
    show numeralFrom (10 * n + ((UInt8.ofNat c.toNat).toNat - 48)) (ofChars cs) = _
    rw [(toNat_ofChar_digit hc).1]
    rfl

/-- A number below a power of ten has that many digits in decimal, or fewer. -/
theorem length_decimal_le {n digits : Nat} (pos : 0 < digits) (h : n < 10 ^ digits) :
    (decimal n).length ≤ digits := by
  rw [decimal, ofChars, List.length_map, Nat.length_toDigits_le_iff (by decide) pos]
  exact h

/-- A number in decimal consists of digits. -/
theorem isDigit_of_mem_decimal {n : Nat} {b : UInt8} (h : b ∈ decimal n) : IsDigit b := by
  obtain ⟨c, hc, rfl⟩ := List.mem_map.mp h
  have hdigit : c.isDigit = true := Nat.isDigit_of_mem_toDigits (by decide) (by decide) hc
  obtain ⟨hbyte, hlow, hhigh⟩ := toNat_ofChar_digit hdigit
  rw [IsDigit, UInt8.le_iff_toNat_le, UInt8.le_iff_toNat_le, hbyte]
  exact ⟨hlow, hhigh⟩

theorem not_isDigit_zero : ¬ IsDigit 0 := fun h => absurd h.1 (by decide)

theorem zero_notMem_decimal (n : Nat) : 0 ∉ decimal n :=
  fun hzero => not_isDigit_zero (isDigit_of_mem_decimal hzero)

theorem decimal_ne_nil (n : Nat) : decimal n ≠ [] :=
  fun h => Nat.toDigits_ne_nil (List.map_eq_nil_iff.mp h)

/-- A number in decimal denotes that number. -/
theorem numeral_decimal (n : Nat) : numeral (decimal n) = n := by
  have hdigits : ∀ c ∈ Nat.toDigits 10 n, c.isDigit = true := fun c hc =>
    Nat.isDigit_of_mem_toDigits (by decide) (by decide) hc
  rw [numeral, decimal, numeralFrom_ofChars hdigits, Nat.ofDigitChars_ten_toDigits]

/-- A number in decimal is the option value of that number. -/
theorem isValue_decimal (v : UInt64) : (decimal v.toNat).IsValue v where
  nonempty := decimal_ne_nil v.toNat
  short := length_decimal_le (by decide) (Nat.lt_trans v.toNat_lt (by decide))
  digits _ := isDigit_of_mem_decimal
  denotes := numeral_decimal v.toNat

end Tftp
