import Tftp.Proofs.RoundTrip

/-!
# The canonical form of a datagram

A packet can be written in more than one way: option names in any letter case, values with leading
zeros, pairs that set no option, error codes that are not defined, bytes after the text of an error.
Encoding writes it in one of them, the canonical form, so decoding and encoding again puts a
datagram into canonical form.

* `Bytes.IsShortest` are the numerals without superfluous zeros.
* `CanonicalPairs` and `Canonical` are the byte strings in canonical form, described without an
  encoder.
* `canonicalForm` decodes a datagram and encodes it again.

Results:
* `Bytes.decimal_eq_of_isShortest`: a numeral without superfluous zeros is the decimal of its
  number.
* `encode_of_canonical` and `canonical_encode`: the canonical byte strings are what is encoded.
* `length_encode_le`: the canonical form is no longer than any other.
* `canonicalForm_idempotent`: a canonical form is its own canonical form.
* **`decode_normalForm`**: encoding what was decoded is the canonical form, of the same packet.

The specification wants the codec to be inverse to itself on packets (§4.1, §8). On datagrams it
cannot be, since names may have any case and unknown options are skipped (§10.6). What remains true
is that a datagram and its canonical form are the same packet, and that the form is stable.

Out of scope: datagrams that are no packets. They have no canonical form, and `canonicalForm` tells
their fault.
-/

namespace Tftp

open Bytes

/-! ## Numerals -/

namespace Bytes

/-- A numeral has no superfluous zeros: if it starts with a zero, it is that digit alone. -/
def IsShortest (text : Bytes) : Prop := ∀ rest, text = 48 :: rest → rest = []

/-- A digit is written as the byte that it is read from. -/
theorem decimal_digit {c : UInt8} (h : IsDigit c) : decimal (c.toNat - 48) = [c] := by
  have hlow : 48 ≤ c.toNat := UInt8.le_iff_toNat_le.mp h.1
  have hhigh : c.toNat ≤ 57 := UInt8.le_iff_toNat_le.mp h.2
  have hdigits : ∀ d : Fin 10, ofChars [Nat.digitChar d] = [UInt8.ofNat (48 + d)] := by decide
  have hdigit := hdigits ⟨c.toNat - 48, by omega⟩
  rw [decimal, Nat.toDigits_of_lt_base (by omega), hdigit, Nat.add_sub_cancel' hlow,
    UInt8.ofNat_toNat]

theorem decimal_append_digit {n : Nat} (hn : 0 < n) {c : UInt8} (h : IsDigit c) :
    decimal (10 * n + (c.toNat - 48)) = decimal n ++ [c] := by
  have hhigh : c.toNat ≤ 57 := UInt8.le_iff_toNat_le.mp h.2
  rw [← decimal_digit h, decimal, ← Nat.toDigits_append_toDigits (by decide) hn (by omega),
    ofChars, List.map_append]
  rfl

/-- Digits behind a number other than 0 are written as they are. -/
theorem decimal_numeralFrom {n : Nat} (hn : 0 < n) {text : Bytes} (digits : ∀ c ∈ text, IsDigit c) :
    decimal (numeralFrom n text) = decimal n ++ text := by
  induction text generalizing n with
  | nil => exact (List.append_nil _).symm
  | cons c text ih =>
    rw [List.forall_mem_cons] at digits
    rw [numeralFrom_cons, ih (by omega) digits.2, decimal_append_digit hn digits.1,
      List.append_assoc, List.singleton_append]

/-- A numeral without superfluous zeros is the decimal of its number. -/
theorem decimal_eq_of_isShortest {text : Bytes} (nonempty : text ≠ [])
    (digits : ∀ c ∈ text, IsDigit c) (shortest : text.IsShortest) :
    decimal (numeral text) = text := by
  obtain ⟨c, rest, rfl⟩ := List.exists_cons_of_ne_nil nonempty
  rw [List.forall_mem_cons] at digits
  obtain ⟨hc, hrest⟩ := digits
  rw [numeral, numeralFrom_cons, Nat.mul_zero, Nat.zero_add]
  by_cases hzero : c = 48
  · subst hzero
    rw [shortest rest rfl]
    exact decimal_digit hc
  · have hpos : 0 < c.toNat - 48 := by
      have hlow : 48 ≤ c.toNat := UInt8.le_iff_toNat_le.mp hc.1
      have hne : c.toNat ≠ 48 := fun h => hzero (UInt8.toNat_inj.mp h)
      omega
    rw [decimal_numeralFrom hpos hrest, decimal_digit hc, List.singleton_append]

/-- The decimal of a number is no longer than any numeral of it. -/
theorem length_decimal_numeral_le {text : Bytes} (nonempty : text ≠ [])
    (digits : ∀ c ∈ text, IsDigit c) : (decimal (numeral text)).length ≤ text.length := by
  induction text with
  | nil => exact absurd rfl nonempty
  | cons c rest ih =>
    by_cases hzero : c = 48 ∧ rest ≠ []
    · -- A leading zero changes nothing but the length.
      obtain ⟨rfl, hne⟩ := hzero
      rw [List.forall_mem_cons] at digits
      exact Nat.le_succ_of_le (ih hne digits.2)
    · have hshortest : IsShortest (c :: rest) := by
        rintro more heq
        obtain ⟨rfl, rfl⟩ := List.cons.inj heq
        by_cases hmore : rest = []
        · exact hmore
        · exact absurd ⟨rfl, hmore⟩ hzero
      exact Nat.le_of_eq (congrArg _ (decimal_eq_of_isShortest nonempty digits hshortest))

/-- The decimal of a number has no superfluous zeros: without a leading zero there would be a
shorter numeral. -/
theorem isShortest_decimal (v : UInt64) : (decimal v.toNat).IsShortest := by
  intro rest heq
  have hvalue := isValue_decimal v
  rw [heq] at hvalue
  by_cases hrest : rest = []
  · exact hrest
  · have hdigits : ∀ c ∈ rest, IsDigit c := fun c hc =>
      hvalue.digits c (List.mem_cons_of_mem _ hc)
    have hnumber : numeral rest = v.toNat := hvalue.denotes
    have hle := length_decimal_numeral_le hrest hdigits
    rw [hnumber, heq] at hle
    exact absurd hle (Nat.not_succ_le_self _)

end Bytes

/-! ## The canonical form -/

/-- Pairs in canonical form: every name is that of an option, in lower case, and no value has
superfluous zeros. -/
inductive CanonicalPairs : Bytes → Prop where
  | nil : CanonicalPairs []
  | option {name value rest : Bytes}
      (lower_case : name ∈ [ascii "blksize", ascii "tsize", ascii "timeout"])
      (value_plain : 0 ∉ value) (shortest : value.IsShortest) (others : CanonicalPairs rest) :
      CanonicalPairs (terminated name ++ terminated value ++ rest)

/-- A datagram in canonical form. -/
inductive Canonical : Bytes → Prop where
  | readRequest {filename mode pairs : Bytes} (filename_plain : 0 ∉ filename)
      (mode_plain : 0 ∉ mode) (options : CanonicalPairs pairs) :
      Canonical ([0, 1] ++ (terminated filename ++ terminated mode ++ pairs))
  | writeRequest {filename mode pairs : Bytes} (filename_plain : 0 ∉ filename)
      (mode_plain : 0 ∉ mode) (options : CanonicalPairs pairs) :
      Canonical ([0, 2] ++ (terminated filename ++ terminated mode ++ pairs))
  | data (high low : UInt8) (payload : Bytes) : Canonical ([0, 3, high, low] ++ payload)
  | ack (high low : UInt8) : Canonical [0, 4, high, low]
  | error {high low : UInt8} {text : Bytes} (defined : toWord high low ≤ 8)
      (text_plain : 0 ∉ text) : Canonical ([0, 5, high, low] ++ terminated text)
  | optionAck {pairs : Bytes} (options : CanonicalPairs pairs) : Canonical ([0, 6] ++ pairs)

/-- The canonical form of a datagram: what it carries, encoded. -/
def canonicalForm (b : Bytes) : Except Malformed Bytes := Packet.encode <$> Packet.decode b

/-! ## Options -/

/-- The lower-case names are the ones that options are written with. -/
theorem ofName?_of_lower_case {name : Bytes}
    (h : name ∈ [ascii "blksize", ascii "tsize", ascii "timeout"]) :
    ∃ kind, OptionKind.ofName? (lower name) = some kind ∧ kind.name = name := by
  simp only [List.mem_cons, List.not_mem_nil, or_false] at h
  rcases h with rfl | rfl | rfl
  · exact ⟨.blockSize, by decide, rfl⟩
  · exact ⟨.transferSize, by decide, rfl⟩
  · exact ⟨.timeout, by decide, rfl⟩

theorem lower_case_name {kind : OptionKind} (h : kind.IsKnown) :
    kind.name ∈ [ascii "blksize", ascii "tsize", ascii "timeout"] := by
  cases kind with
  | other tag => exact h.elim
  | blockSize | transferSize | timeout => simp [OptionKind.name]

theorem encodeOptions_cons (option : OptionEntry) (options : List OptionEntry) :
    encodeOptions (option :: options) =
      terminated option.kind.name ++ terminated (decimal option.value.toNat) ++
        encodeOptions options := by
  rw [encodeOptions, List.flatMap_cons]
  rfl

/-- Canonical pairs are what their options are written as. -/
theorem encodeOptions_of_canonical {b : Bytes} (h : CanonicalPairs b) {options : List OptionEntry}
    (hdecode : decodeOptions b = .ok options) : encodeOptions options = b := by
  induction h generalizing options with
  | nil =>
    rw [decodeOptions_nil] at hdecode
    cases hdecode
    rfl
  | @option name value rest hname hvalue hshortest _ ih =>
    have hplain : 0 ∉ name := by
      revert hname
      simp only [List.mem_cons, List.not_mem_nil, or_false]
      rintro (rfl | rfl | rfl) <;> decide
    obtain ⟨kind, hkind, rfl⟩ := ofName?_of_lower_case hname
    rw [decodeOptions_of_pair (decodePair_pair rest hplain hvalue), hkind] at hdecode
    simp only [bind_eq_ok_iff] at hdecode
    obtain ⟨number, hnumber, others, hothers, hoptions⟩ := hdecode
    cases hoptions
    have hvalid := readValue_eq_ok_iff.mp hnumber
    have hdecimal := decimal_eq_of_isShortest hvalid.nonempty hvalid.digits hshortest
    rw [hvalid.denotes] at hdecimal
    rw [encodeOptions_cons, ih hothers, hdecimal]

/-- Options are written as canonical pairs. -/
theorem canonicalPairs_encodeOptions {options : List OptionEntry}
    (known : ∀ option ∈ options, option.kind.IsKnown) : CanonicalPairs (encodeOptions options) := by
  induction options with
  | nil => exact .nil
  | cons option options ih =>
    rw [List.forall_mem_cons] at known
    obtain ⟨hknown, hrest⟩ := known
    rw [encodeOptions_cons]
    exact .option (lower_case_name hknown) (isValue_decimal option.value).zero_notMem
      (isShortest_decimal option.value) (ih hrest)

/-- Options are written no longer than they were read: unknown pairs and leading zeros are left
out, and letter case takes no room. -/
theorem length_encodeOptions_le {b : Bytes} {options : List OptionEntry} (h : Pairs b options) :
    (encodeOptions options).length ≤ b.length := by
  induction h with
  | nil => exact Nat.le_refl 0
  | unknown _ _ _ _ ih =>
    rw [List.length_append]
    omega
  | @option name value rest options kind number _ _ hnames hvalue _ ih =>
    have hname : name.length = kind.name.length := hnames.2.length_eq
    have hnumber : (decimal number.toNat).length ≤ value.length := by
      rw [← hvalue.denotes]
      exact length_decimal_numeral_le hvalue.nonempty hvalue.digits
    rw [encodeOptions_cons]
    simp only [terminated, List.length_append, List.length_singleton]
    omega

/-! ## Packets -/

/-- A request whose texts are whole goes as its options go. -/
theorem decodeRequest_texts {access : Access} {filename mode : Bytes} (pairs : Bytes)
    (filename_plain : 0 ∉ filename) (mode_plain : 0 ∉ mode) :
    decodeRequest access (terminated filename ++ terminated mode ++ pairs) = do
      let options ← decodeOptions pairs
      return .request access filename mode options := by
  have hfilename : decodeText (terminated filename ++ terminated mode ++ pairs)
      = .ok (filename, terminated mode ++ pairs) :=
    decodeText_eq_ok_iff.mpr ⟨List.append_assoc _ _ _, filename_plain⟩
  have hmode : decodeText (terminated mode ++ pairs) = .ok (mode, pairs) :=
    decodeText_eq_ok_iff.mpr ⟨rfl, mode_plain⟩
  have hne := terminated_append_ne_nil mode pairs
  simp only [decodeRequest, hfilename, hmode, hne, bind, Except.bind, if_false]

/-- A datagram in canonical form is what its packet is encoded as. -/
theorem encode_of_canonical {b : Bytes} {p : Packet} (h : Canonical b)
    (hdecode : Packet.decode b = .ok p) : p.encode = b := by
  cases h with
  | readRequest hfilename hmode hpairs | writeRequest hfilename hmode hpairs =>
    have hrequest := hdecode.symm.trans (decodeRequest_texts _ hfilename hmode)
    obtain ⟨options, hoptions, hp⟩ := bind_eq_ok_iff.mp hrequest.symm
    cases hp
    rw [← encodeOptions_of_canonical hpairs hoptions]
    rfl
  | data high low payload =>
    cases hdecode
    show [0, 3] ++ ofWord (toWord high low) ++ payload = _
    rw [ofWord_toWord]
    rfl
  | ack high low =>
    cases hdecode
    show [0, 4] ++ ofWord (toWord high low) = _
    rw [ofWord_toWord]
    rfl
  | @error high low text hdefined htext =>
    have hwritten := Written.error high low [] htext
    rw [List.append_nil, ← Packet.decode_eq_ok_iff, hdecode, if_pos hdefined] at hwritten
    cases hwritten
    show [0, 5] ++ ofWord (toWord high low) ++ terminated text = _
    rw [ofWord_toWord]
    rfl
  | @optionAck pairs hpairs =>
    obtain ⟨options, hoptions, hp⟩ := bind_eq_ok_iff.mp (show
      (decodeOptions pairs >>= fun options => pure (Packet.optionAck options)) = .ok p from hdecode)
    cases hp
    rw [← encodeOptions_of_canonical hpairs hoptions]
    rfl

/-- A packet that a datagram can carry is encoded in canonical form. -/
theorem canonical_encode {p : Packet} (h : p.Plain) : Canonical p.encode := by
  cases p with
  | request access filename mode options =>
    obtain ⟨hfilename, hmode, hknown⟩ := h
    have hpairs := canonicalPairs_encodeOptions hknown
    cases access with
    | read => exact .readRequest hfilename hmode hpairs
    | write => exact .writeRequest hfilename hmode hpairs
  | data block payload => exact .data _ _ payload
  | ack block => exact .ack _ _
  | error code message =>
    have hdefined : toWord (UInt8.ofNat (code.value.toNat / 256))
        (UInt8.ofNat (code.value.toNat % 256)) ≤ 8 := by
      rw [toWord_ofWord]
      exact h.1
    exact .error hdefined h.2
  | optionAck options => exact .optionAck (canonicalPairs_encodeOptions h)

/-- The canonical form is no longer than any other form of the packet. -/
theorem length_encode_le {b : Bytes} {p : Packet} (h : Written b p) :
    p.encode.length ≤ b.length := by
  have hword : ∀ w, (ofWord w).length = 2 := fun _ => rfl
  cases h with
  | readRequest _ _ hpairs | writeRequest _ _ hpairs | optionAck hpairs =>
    have hoptions := length_encodeOptions_le hpairs
    simp only [Packet.encode, Opcode.encode, List.length_append, hword, List.length_cons,
      List.length_nil]
    omega
  | data | ack | error =>
    simp only [Packet.encode, Opcode.encode, List.length_append, hword, List.length_cons,
      List.length_nil]
    omega

/-- What was decoded reads back as it is, encoded. -/
theorem decode_encode_of_decode {b : Bytes} {p : Packet} (h : Packet.decode b = .ok p) :
    Packet.decode p.encode = .ok p :=
  Packet.decode_eq_ok_iff.mpr (written_encode (plain_of_written (written_of_decode h)))

/-- A canonical form is its own canonical form. -/
theorem canonicalForm_idempotent (b : Bytes) :
    (canonicalForm b >>= canonicalForm) = canonicalForm b := by
  cases hdecode : Packet.decode b with
  | error fault => rw [canonicalForm, hdecode]; rfl
  | ok p =>
    have hform : canonicalForm b = .ok p.encode := by rw [canonicalForm, hdecode]; rfl
    rw [hform]
    show canonicalForm p.encode = _
    rw [canonicalForm, decode_encode_of_decode hdecode]
    rfl

/-- **Encoding what was decoded gives the canonical form of the datagram**: it is the same packet,
it is no longer, it is the datagram itself exactly if that is canonical, and it does not change
when it is decoded and encoded once more. -/
theorem decode_normalForm {b : Bytes} {p : Packet} (h : Packet.decode b = .ok p) :
    Packet.decode p.encode = .ok p ∧ p.encode.length ≤ b.length ∧ (p.encode = b ↔ Canonical b) ∧
      (canonicalForm b >>= canonicalForm) = canonicalForm b := by
  have hwritten := written_of_decode h
  refine ⟨decode_encode_of_decode h, length_encode_le hwritten, ?_, canonicalForm_idempotent b⟩
  constructor
  · intro heq
    have hcanonical := canonical_encode (plain_of_written hwritten)
    rwa [heq] at hcanonical
  · intro hcanonical
    exact encode_of_canonical hcanonical h

/-- A request that is not in canonical form: the name of its option is in upper case, and the value
has a leading zero. -/
theorem decode_normalForm_upperCase :
    let b := [0, 1] ++ terminated (ascii "f") ++ terminated (ascii "octet") ++
      (terminated (ascii "BLKSIZE") ++ terminated (ascii "0512") ++ [])
    let p := Packet.request .read (ascii "f") (ascii "octet") [⟨.blockSize, 512⟩]
    Packet.decode b = .ok p ∧ ¬ Canonical b ∧
      (canonicalForm b >>= canonicalForm) = .ok p.encode := by
  intro b p
  have hpairs : Pairs (terminated (ascii "BLKSIZE") ++ terminated (ascii "0512") ++ [])
      [⟨.blockSize, 512⟩] :=
    .option (by decide) (by decide) ⟨trivial, by decide⟩ (readValue_eq_ok_iff.mp rfl) .nil
  have hdecode : Packet.decode b = .ok p :=
    Packet.decode_eq_ok_iff.mpr (.readRequest (by decide) (by decide) hpairs)
  obtain ⟨-, -, hcanonical, hagain⟩ := decode_normalForm hdecode
  refine ⟨hdecode, ?_, ?_⟩
  · rw [← hcanonical]
    decide
  · rw [hagain, canonicalForm, hdecode]
    rfl

end Tftp
