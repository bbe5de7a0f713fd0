import Mathlib.Data.List.Induction
import Tftp.Proofs.RoundTrip

/-!
# The arithmetic of option values

An option value is read digit by digit into a number of 64 bits, which wraps around where a number
leaves that range. Before each digit the reader looks whether there is room for it, so that the
arithmetic is exact: no product and no sum wraps around, whatever text is read.

* `Appends` says what one more byte makes of a number.
* `Visits` are the states that reading a text passes through: the number so far, and the bytes that
  are left.
* `Accurate` says that a state is that of arithmetic without a bound.
* `Bytes.Faulty` says which texts are no option values, and as what they are refused.

Results:
* `appends_readDigit`: one more byte is refused, or the number with it is computed exactly.
* `accurate_of_visits`: so every state on the way is exact.
* `readValue_eq_error_iff`: a text is refused exactly if it is faulty.
* **`readValue_exact`**: all of this, for every text, and numbers in decimal are read back.

Option values are decimal numbers (specification §10.6) that come from a peer, and any text may
come. A reader that multiplied first and looked afterwards could take 18446744073709551616 for 0.
`appendDigit?` looks first, and here is what that look is worth: the states on the way are exact,
and the verdict is that of numbers without a bound.

Out of scope: which numbers an option may have. 64 bits are all that is asked of a value here; the
range of each option is a matter of negotiation.
-/

namespace Tftp

open Bytes

/-! ## One byte -/

/-- What one more byte `c` makes of `value` while `text` is read. -/
inductive Appends (text : Bytes) (value : UInt64) (c : UInt8) : Except Malformed UInt64 → Prop where
  /-- It is no digit. -/
  | strange (other : ¬ IsDigit c) : Appends text value c (.error (.invalidValue text))
  /-- There is no room for it, and nothing is multiplied or added. -/
  | refused (digit : IsDigit c) (beyond : 2 ^ 64 ≤ 10 * value.toNat + (c.toNat - 48)) :
      Appends text value c (.error (.valueOutOfRange text))
  /-- The product and the sum are those of numbers without a bound. -/
  | exact (digit : IsDigit c) (product : (value * 10).toNat = 10 * value.toNat)
      (sum : (value * 10 + UInt64.ofNat (c.toNat - 48)).toNat =
        10 * value.toNat + (c.toNat - 48)) :
      Appends text value c (.ok (value * 10 + UInt64.ofNat (c.toNat - 48)))

/-- **One more byte** is refused, or the number with it is computed exactly, whatever the number. -/
theorem appends_readDigit (text : Bytes) (value : UInt64) (c : UInt8) :
    Appends text value c (readDigit text value c) := by
  by_cases hc : IsDigit c
  · by_cases hover : 2 ^ 64 ≤ 10 * value.toNat + (c.toNat - 48)
    · rw [readDigit_of_over hc hover]
      exact .refused hc hover
    · have hfits := Nat.lt_of_not_le hover
      obtain ⟨hproduct, hsum⟩ := toNat_append_byte hfits
      rw [readDigit_of_fits hc hfits]
      exact .exact hc hproduct hsum
  · rw [readDigit_of_not_isDigit hc]
    exact .strange hc

/-! ## The way through a text -/

/-- The states that reading `text` passes through: the number made up so far, and what is left. -/
inductive Visits (text : Bytes) : UInt64 → Bytes → Prop where
  | start (nonempty : text ≠ []) (short : text.length ≤ 20) : Visits text 0 text
  | next {value next : UInt64} {c : UInt8} {rest : Bytes} (before : Visits text value (c :: rest))
      (read : readDigit text value c = .ok next) : Visits text next rest

/-- The state of reading `text` is that of arithmetic without a bound. -/
structure Accurate (text : Bytes) (value : UInt64) (rest : Bytes) : Prop where
  /-- Reading goes on from this state. -/
  remains : readValue text = readDigits text value rest
  /-- The number is the one that the bytes read so far denote. -/
  denotes : ∃ digits, text = digits ++ rest ∧ (∀ c ∈ digits, IsDigit c) ∧
    numeral digits = value.toNat
  /-- The next byte is refused, or the number with it is computed exactly. -/
  appends : ∀ c ∈ rest.head?, Appends text value c (readDigit text value c)

theorem numeral_snoc (text : Bytes) (c : UInt8) :
    numeral (text ++ [c]) = 10 * numeral text + (c.toNat - 48) := by
  unfold numeral numeralFrom
  rw [List.foldl_append]
  rfl

section Way

variable {text digits rest : Bytes} {value : UInt64} {fault : Malformed}

theorem Visits.short (h : Visits text value rest) : text.length ≤ 20 := by
  induction h with
  | start _ short => exact short
  | next _ _ ih => exact ih

theorem Visits.remains (h : Visits text value rest) :
    readValue text = readDigits text value rest := by
  induction h with
  | start nonempty short => exact if_neg (not_or.mpr ⟨nonempty, Nat.not_lt.mpr short⟩)
  | next before read ih =>
    rw [ih, readDigits, read]
    rfl

/-- The number so far is the one that the bytes read so far denote. -/
theorem Visits.denotes (h : Visits text value rest) :
    ∃ digits, text = digits ++ rest ∧ (∀ c ∈ digits, IsDigit c) ∧ numeral digits = value.toNat := by
  induction h with
  | start => exact ⟨[], rfl, nofun, rfl⟩
  | next before read ih =>
    rename_i c rest
    obtain ⟨digits, htext, hdigits, hvalue⟩ := ih
    obtain ⟨hc, hnext⟩ := readDigit_eq_ok_iff.mp read
    refine ⟨digits ++ [c], ?_, ?_, ?_⟩
    · rw [htext, List.append_assoc, List.singleton_append]
    · exact List.forall_mem_append.mpr ⟨hdigits, List.forall_mem_singleton.mpr hc⟩
    · rw [numeral_snoc, hvalue, hnext]

/-- **Every state on the way through a text is exact.** -/
theorem accurate_of_visits (h : Visits text value rest) : Accurate text value rest :=
  ⟨h.remains, h.denotes, fun c _ => appends_readDigit text value c⟩

/-- A number below 2⁶⁴ is one of 64 bits. -/
theorem exists_toNat_eq {n : Nat} (h : n < 2 ^ 64) : ∃ v : UInt64, n = v.toNat :=
  ⟨UInt64.ofNat n, (UInt64.toNat_ofNat_of_lt' h).symm⟩

/-- Reading comes behind the digits at the start of a text, as long as their number fits. -/
theorem visits_of_digits (split : text = digits ++ rest) (nonempty : text ≠ [])
    (short : text.length ≤ 20) (all : ∀ c ∈ digits, IsDigit c)
    (denotes : numeral digits = value.toNat) : Visits text value rest := by
  induction digits using List.reverseRecOn generalizing rest value with
  | nil =>
    obtain rfl : text = rest := split
    obtain rfl : 0 = value := UInt64.toNat_inj.mp denotes
    exact .start nonempty short
  | append_singleton digits c ih =>
    rw [List.forall_mem_append, List.forall_mem_singleton] at all
    rw [List.append_assoc, List.singleton_append] at split
    rw [numeral_snoc] at denotes
    have hvalue := value.toNat_lt
    obtain ⟨before, hbefore⟩ := exists_toNat_eq (n := numeral digits) (by omega)
    rw [hbefore] at denotes
    exact (ih split all.1 hbefore).next (readDigit_eq_ok_iff.mpr ⟨all.2, denotes⟩)

/-- If the digits at the start of a text denote too much, reading comes to the first one for which
there is no room. -/
theorem exists_visits_of_over (split : text = digits ++ rest) (nonempty : text ≠ [])
    (short : text.length ≤ 20) (all : ∀ c ∈ digits, IsDigit c) (beyond : 2 ^ 64 ≤ numeral digits) :
    ∃ value c tail, Visits text value (c :: tail) ∧ IsDigit c ∧
      2 ^ 64 ≤ 10 * value.toNat + (c.toNat - 48) := by
  induction digits using List.reverseRecOn generalizing rest with
  | nil => exact absurd beyond (by decide)
  | append_singleton digits c ih =>
    rw [List.forall_mem_append, List.forall_mem_singleton] at all
    rw [List.append_assoc, List.singleton_append] at split
    by_cases hfits : numeral digits < 2 ^ 64
    · obtain ⟨value, hvalue⟩ := exists_toNat_eq hfits
      refine ⟨value, c, rest, visits_of_digits split nonempty short all.1 hvalue, all.2, ?_⟩
      rw [← hvalue, ← numeral_snoc]
      exact beyond
    · exact ih split all.1 (Nat.le_of_not_lt hfits)

end Way

/-! ## Faults -/

/-- The text is no option value, and refused with this fault. -/
inductive Bytes.Faulty (text : Bytes) : Malformed → Prop where
  /-- There are no bytes or too many, whatever they are. -/
  | length (wrong : text = [] ∨ 20 < text.length) : Faulty text (.invalidValue text)
  /-- Behind digits whose number fits there is another byte. -/
  | strange {digits rest : Bytes} {c : UInt8} (short : text.length ≤ 20)
      (split : text = digits ++ c :: rest) (all : ∀ c ∈ digits, IsDigit c)
      (fits : numeral digits < 2 ^ 64) (other : ¬ IsDigit c) : Faulty text (.invalidValue text)
  /-- Digits at the start denote a number of more than 64 bits, whatever follows them. -/
  | tooLarge {digits rest : Bytes} (short : text.length ≤ 20) (split : text = digits ++ rest)
      (all : ∀ c ∈ digits, IsDigit c) (beyond : 2 ^ 64 ≤ numeral digits) :
      Faulty text (.valueOutOfRange text)

section Faults

variable {text rest : Bytes} {value : UInt64} {fault : Malformed}

/-- Reading fails at the first byte that is refused. -/
theorem Visits.faulty (h : Visits text value rest)
    (failed : readDigits text value rest = .error fault) : text.Faulty fault := by
  induction rest generalizing value with
  | nil => cases failed
  | cons c rest ih =>
    rw [readDigits] at failed
    obtain ⟨digits, htext, hdigits, hvalue⟩ := h.denotes
    have happends := appends_readDigit text value c
    cases hread : readDigit text value c with
    | ok next =>
      rw [hread] at failed
      exact ih (h.next hread) failed
    | error =>
      rw [hread] at failed happends
      cases failed
      cases happends with
      | strange other => exact .strange h.short htext hdigits (hvalue ▸ value.toNat_lt) other
      | refused digit beyond =>
        have hsplit : text = (digits ++ [c]) ++ rest := by
          rw [htext, List.append_assoc, List.singleton_append]
        have hall : ∀ b ∈ digits ++ [c], IsDigit b :=
          List.forall_mem_append.mpr ⟨hdigits, List.forall_mem_singleton.mpr digit⟩
        refine .tooLarge h.short hsplit hall ?_
        rw [numeral_snoc, hvalue]
        exact beyond

/-- **A text is refused exactly if it is faulty**, and as what it is. -/
theorem readValue_eq_error_iff : readValue text = .error fault ↔ text.Faulty fault := by
  constructor
  · intro h
    by_cases hlength : text = [] ∨ 20 < text.length
    · have hinvalid : readValue text = .error (.invalidValue text) := if_pos hlength
      rw [hinvalid] at h
      cases h
      exact .length hlength
    · obtain ⟨hnonempty, hshort⟩ := not_or.mp hlength
      have hstart := Visits.start hnonempty (Nat.le_of_not_lt hshort)
      rw [hstart.remains] at h
      exact hstart.faulty h
  · intro h
    cases h with
    | length wrong => exact if_pos wrong
    | strange short split all fits other =>
      have hnonempty : text ≠ [] := by simp [split]
      obtain ⟨value, hvalue⟩ := exists_toNat_eq fits
      rw [(visits_of_digits split hnonempty short all hvalue).remains, readDigits,
        readDigit_of_not_isDigit other]
      rfl
    | tooLarge short split all beyond =>
      have hnonempty : text ≠ [] := by
        rintro rfl
        obtain ⟨rfl, -⟩ := List.append_eq_nil_iff.mp split.symm
        exact absurd beyond (by decide)
      obtain ⟨value, c, tail, hvisits, hc, hover⟩ :=
        exists_visits_of_over split hnonempty short all beyond
      rw [hvisits.remains, readDigits, readDigit_of_over hc hover]
      rfl

end Faults

/-! ## Written values -/

/-- The value of an option is found where it was written, in decimal. -/
theorem decodePair_encode (option : OptionEntry) (rest : Bytes) :
    decodePair (option.encode ++ rest) =
      .ok (lower option.kind.name, decimal option.value.toNat, rest) :=
  decodePair_pair rest (zero_notMem_name option.kind) (zero_notMem_decimal option.value.toNat)

theorem readValue_decimal (v : UInt64) : readValue (decimal v.toNat) = .ok v :=
  readValue_eq_ok_iff.mpr (isValue_decimal v)

/-- **The arithmetic of option values is exact.** For every text:

* it is read as a number exactly if it is one to twenty digits that denote this number, without a
  bound, and otherwise it is malformed;
* it is too large exactly if digits at its start denote a number of more than 64 bits, and invalid
  if it is too short or too long, or if another byte comes before that;
* in every state that reading it passes through, the number is the one that the bytes so far denote,
  and the next byte is refused, or neither the product by ten nor the sum with the digit wraps
  around.

Every value that is written for an option is found by the reader of pairs, and read back. -/
theorem readValue_exact (text : Bytes) :
    (∀ v, readValue text = .ok v ↔ text.IsValue v) ∧
      ((¬ ∃ v, text.IsValue v) → ∃ fault, readValue text = .error fault) ∧
      (∀ fault, readValue text = .error fault ↔ text.Faulty fault) ∧
      (∀ value rest, Visits text value rest → Accurate text value rest) ∧
      ∀ (option : OptionEntry) (rest : Bytes),
        decodePair (option.encode ++ rest) =
            .ok (lower option.kind.name, decimal option.value.toNat, rest) ∧
          readValue (decimal option.value.toNat) = .ok option.value := by
  refine ⟨fun v => readValue_eq_ok_iff, fun hno => ?_, fun fault => readValue_eq_error_iff,
    fun value rest => accurate_of_visits,
    fun option rest => ⟨decodePair_encode option rest, readValue_decimal option.value⟩⟩
  cases hread : readValue text with
  | ok v => exact absurd ⟨v, readValue_eq_ok_iff.mp hread⟩ hno
  | error fault => exact ⟨fault, rfl⟩

/-- The largest number is read. The one after it is refused at its last digit, up to which the
number was exact. -/
theorem readValue_exact_limit :
    let largest := ascii "18446744073709551615"
    let refused := ascii "18446744073709551616"
    readValue largest = .ok 18446744073709551615 ∧
      readValue refused = .error (.valueOutOfRange refused) ∧
      Accurate refused 1844674407370955161 [54] := by
  intro largest refused
  have hlargest : largest = decimal 18446744073709551615 := by decide
  have hrefused : refused = decimal 18446744073709551616 := by decide
  have hsplit : refused = decimal 1844674407370955161 ++ [54] := by decide
  have hall : ∀ c ∈ refused, IsDigit c := by
    rw [hrefused]
    exact fun _ => isDigit_of_mem_decimal
  have hnumber : numeral refused = 2 ^ 64 := by
    rw [hrefused]
    exact numeral_decimal (2 ^ 64)
  have hfaulty : refused.Faulty (.valueOutOfRange refused) :=
    .tooLarge (by decide) (List.append_nil refused).symm hall (Nat.le_of_eq hnumber.symm)
  have hvisits : Visits refused 1844674407370955161 [54] :=
    visits_of_digits hsplit (by decide) (by decide) (fun _ => isDigit_of_mem_decimal)
      (numeral_decimal 1844674407370955161)
  obtain ⟨hread, -⟩ := readValue_exact largest
  obtain ⟨-, -, herror, hstates, -⟩ := readValue_exact refused
  refine ⟨(hread _).mpr ?_, (herror _).mpr hfaulty, hstates _ _ hvisits⟩
  rw [hlargest]
  exact isValue_decimal 18446744073709551615

-- Leading zeros count: twenty digits are read, and one more is too many.
example : readValue (ascii "00000000000000000512") = .ok 512 := by decide

example : ¬ ∃ v, readValue (ascii "000000000000000000512") = .ok v := by
  rintro ⟨v, h⟩
  cases h

-- A byte that is no digit is the fault only if there was room for the digits before it.
example : readValue (ascii "9999999999999999999x") =
    .error (.invalidValue (ascii "9999999999999999999x")) := by decide

end Tftp
