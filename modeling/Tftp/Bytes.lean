/-!
# Byte strings

Datagrams, file contents and every text of the protocol are lists of bytes: texts come from a peer
or a command line and need not be valid in any character encoding. A list has a length of its own,
so a zero byte is a byte like any other here, and only those who stop at one are cut short by it.

The protocol writes two things that are not bytes, texts that a zero byte ends and big-endian
numbers of sixteen bits (specification §3 and §4.1). Numbers in decimal are in option values,
messages and log lines.

* `Bytes.ascii`, `Bytes.decimal` and `Bytes.signedDecimal` write literals and numbers.
* `Bytes.takeText` reads a text that a zero byte ends, `Bytes.terminated` writes one.
* `Bytes.untilZero` is what is left of a text where texts end at their first zero byte: in printed
  messages, addresses and paths.
* `Bytes.lower` puts the letters `A` … `Z` in lower case, and no other byte.
* `Bytes.ofWord` and `Bytes.toWord` are the two big-endian bytes of a 16-bit number.

Results:
* `takeText_eq_some_iff`: what is read, its zero byte and the rest are the whole input.
* `toWord_ofWord` / `ofWord_toWord`: the two bytes and the number determine each other.

Out of scope: how long a byte string may be. Datagrams are bounded where they are received
(`Arrival.ofAnswer`), and blocks where they are read.
-/

namespace Tftp

/-- A byte string. -/
abbrev Bytes := List UInt8

namespace Bytes

/-! ## Writing -/

/-- The bytes of characters below 256, one each. -/
def ofChars (cs : List Char) : Bytes := cs.map fun c => UInt8.ofNat c.toNat

/-- The bytes of a literal. -/
def ascii (s : String) : Bytes := ofChars s.toList

/-- A number in decimal, without leading zeros. -/
def decimal (n : Nat) : Bytes := ofChars (Nat.toDigits 10 n)

/-- A number in decimal, after a minus sign if it is negative. -/
def signedDecimal (n : Int) : Bytes :=
  if n < 0 then ascii "-" ++ decimal n.natAbs else decimal n.natAbs

/-- A number in decimal, filled up with zeros on the left to `width` digits. -/
def paddedDecimal (width n : Nat) : Bytes :=
  List.replicate (width - (decimal n).length) 48 ++ decimal n

/-- A text and the zero byte that ends it. -/
def terminated (text : Bytes) : Bytes := text ++ [0]

/-! ## Reading -/

/-- The text up to the first zero byte and what follows that byte; `none` if there is no zero
byte. -/
def takeText (b : Bytes) : Option (Bytes × Bytes) :=
  match b.dropWhile (· != 0) with
  | [] => none
  | _ :: rest => some (b.takeWhile (· != 0), rest)

/-- A text as far as its first zero byte. Printed messages, addresses and paths end there. -/
def untilZero (b : Bytes) : Bytes := b.takeWhile (· != 0)

/-- A letter `A` … `Z` in lower case, every other byte as it is. -/
def lowerByte (c : UInt8) : UInt8 := if 65 ≤ c ∧ c ≤ 90 then c + 32 else c

/-- A text with its letters `A` … `Z` in lower case. -/
def lower (b : Bytes) : Bytes := b.map lowerByte

/-- The value of a decimal digit. -/
def digit? (c : UInt8) : Option Nat := if 48 ≤ c ∧ c ≤ 57 then some (c.toNat - 48) else none

/-! ## Sixteen-bit numbers -/

/-- The two bytes of a number, the high one first. -/
def ofWord (w : UInt16) : Bytes := [UInt8.ofNat (w.toNat / 256), UInt8.ofNat (w.toNat % 256)]

/-- The number of two bytes, the high one first. -/
def toWord (high low : UInt8) : UInt16 := UInt16.ofNat (high.toNat * 256 + low.toNat)

/-! ## Laws -/

theorem takeText_eq_some_iff {b text rest : Bytes} :
    takeText b = some (text, rest) ↔ b = terminated text ++ rest ∧ 0 ∉ text := by
  induction b generalizing text with
  | nil => simp [takeText, terminated]
  | cons c b ih =>
    by_cases hc : c = 0
    · subst hc
      cases text with
      | nil => simp [takeText, terminated]
      | cons d text => simp [takeText, terminated]; rintro rfl; simp
    · have step : takeText (c :: b) = (takeText b).map fun p => (c :: p.1, p.2) := by
        simp only [takeText, List.dropWhile_cons, List.takeWhile_cons, bne_iff_ne, ne_eq, hc,
          not_false_eq_true, if_true]
        cases b.dropWhile (· != 0) <;> rfl
      cases text with
      | nil => simp [step, terminated, hc]
      | cons d text =>
        have := @ih text
        simp only [terminated] at this
        simp only [step, Option.map_eq_some_iff, Prod.exists, Prod.mk.injEq, List.cons.injEq,
          terminated, List.cons_append, List.mem_cons, not_or]
        constructor
        · rintro ⟨t, r, h, ⟨rfl, rfl⟩, rfl⟩
          obtain ⟨hb, hz⟩ := this.1 h
          exact ⟨⟨rfl, hb⟩, fun h => hc h.symm, hz⟩
        · rintro ⟨⟨rfl, hb⟩, _, hz⟩
          exact ⟨text, rest, this.2 ⟨hb, hz⟩, ⟨rfl, rfl⟩, rfl⟩

/-- The two bytes of a number give it back. -/
theorem toWord_ofWord (w : UInt16) :
    toWord (UInt8.ofNat (w.toNat / 256)) (UInt8.ofNat (w.toNat % 256)) = w := by
  have hw := w.toNat_lt
  apply UInt16.toNat_inj.1
  simp only [toWord, UInt8.toNat_ofNat', UInt16.toNat_ofNat']
  omega

/-- Any two bytes are the bytes of their number. -/
theorem ofWord_toWord (high low : UInt8) : ofWord (toWord high low) = [high, low] := by
  have hh := high.toNat_lt
  have hl := low.toNat_lt
  simp only [ofWord, toWord, UInt16.toNat_ofNat', List.cons.injEq, and_true]
  constructor <;> apply UInt8.toNat_inj.1 <;> simp only [UInt8.toNat_ofNat'] <;> omega

end Bytes

end Tftp
