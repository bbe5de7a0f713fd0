import Mathlib.Data.List.Forall2
import Tftp.Proofs.Packet.Numeral

/-!
# The grammar of packets

Which byte strings are packets, and which packet each one is, stated without a reader:

| bytes                                    | packet      |
|------------------------------------------|-------------|
| `00 01`, filename, mode, pairs           | `request`   |
| `00 02`, filename, mode, pairs           | `request`   |
| `00 03`, two bytes, any bytes            | `data`      |
| `00 04`, two bytes                       | `ack`       |
| `00 05`, two bytes, text, any bytes      | `error`     |
| `00 06`, pairs                           | `optionAck` |

Every text ends with its zero byte and contains no other. A pair is a name and a value; where the
name is that of an option, in letters of any case, the value is an option value.

Results:
* `lower_eq_iff`: two names are the same in lower case if they are the same up to the case of
  letters.
* `decodeOptions_eq_ok_iff`: pairs are read to the options that they set.
* `Packet.decode_eq_ok_iff`: what decodes is what the grammar allows, and decodes to what the
  grammar says.
* **`decode_grammar`**: the same together with the refusal of every other byte string.

This is the codec of the specification (§4.1, §10.6) from the side of what it accepts. The cases of
§10.6 are its rules: names in any case, unknown names skipped whatever their value, values in
decimal, a terminated error text, unknown error codes read as undefined, acknowledgements of exactly
four bytes.

Letter case is that of the letters `A` … `Z` and no others. It is defined byte by byte
(`EqUpToCase`), and the reader, which puts a name in lower case before it looks it up, is shown to
agree (`lower_eq_iff`).

Out of scope: the fault that is reported of a datagram which is no packet. That there is one is part
of the result; which one is in `Tftp.Packet.Decode`.
-/

namespace Tftp

open Bytes

/-! ## Letters of any case -/

/-- The byte is one of the letters `A` … `Z`. -/
def IsCapital (c : UInt8) : Prop := 'A'.toNat ≤ c.toNat ∧ c.toNat ≤ 'Z'.toNat

instance (c : UInt8) : Decidable (IsCapital c) := inferInstanceAs (Decidable (_ ∧ _))

/-- Two bytes are equal up to the case of a letter: one is a capital letter, and the other the same
letter in lower case, which has its place 32 behind it. -/
def EqUpToCase (c d : UInt8) : Prop :=
  c = d ∨ (IsCapital c ∧ d.toNat = c.toNat + 32) ∨ (IsCapital d ∧ c.toNat = d.toNat + 32)

instance : DecidableRel EqUpToCase := fun _ _ => inferInstanceAs (Decidable (_ ∨ _ ∨ _))

theorem toNat_lowerByte (c : UInt8) :
    (lowerByte c).toNat = if 65 ≤ c.toNat ∧ c.toNat ≤ 90 then c.toNat + 32 else c.toNat := by
  have hcapital : (65 ≤ c ∧ c ≤ 90) ↔ 65 ≤ c.toNat ∧ c.toNat ≤ 90 := by
    rw [UInt8.le_iff_toNat_le, UInt8.le_iff_toNat_le]
    rfl
  unfold lowerByte
  simp only [hcapital]
  split
  · rw [UInt8.toNat_add]
    show (c.toNat + 32) % 256 = _
    omega
  · rfl

theorem lowerByte_eq_iff {c d : UInt8} : lowerByte c = lowerByte d ↔ EqUpToCase c d := by
  have hcapital (c : UInt8) : IsCapital c ↔ 65 ≤ c.toNat ∧ c.toNat ≤ 90 := Iff.rfl
  rw [← UInt8.toNat_inj, toNat_lowerByte, toNat_lowerByte, EqUpToCase, ← UInt8.toNat_inj, hcapital,
    hcapital]
  split <;> split <;> omega

/-- Texts have the same lower-case form exactly if their bytes are equal up to case, one by one. -/
theorem lower_eq_iff {a b : Bytes} : lower a = lower b ↔ List.Forall₂ EqUpToCase a b := by
  rw [← List.forall₂_eq_eq_eq, lower, lower, List.forall₂_map_left_iff, List.forall₂_map_right_iff]
  simp only [lowerByte_eq_iff]

/-! ## The grammar -/

/-- `name` is the name of the option `kind`, in letters of any case. -/
def Names (name : Bytes) (kind : OptionKind) : Prop :=
  kind.IsKnown ∧ List.Forall₂ EqUpToCase name kind.name

/-- `Pairs b options`: `b` is a sequence of pairs, and those that name an option set `options`, in
this order. -/
inductive Pairs : Bytes → List OptionEntry → Prop where
  | nil : Pairs [] []
  | unknown {name value rest : Bytes} {options : List OptionEntry} (name_plain : 0 ∉ name)
      (value_plain : 0 ∉ value) (strange : ∀ kind, ¬ Names name kind)
      (others : Pairs rest options) :
      Pairs (terminated name ++ terminated value ++ rest) options
  | option {name value rest : Bytes} {options : List OptionEntry} {kind : OptionKind}
      {number : UInt64} (name_plain : 0 ∉ name) (value_plain : 0 ∉ value) (names : Names name kind)
      (number_value : value.IsValue number) (others : Pairs rest options) :
      Pairs (terminated name ++ terminated value ++ rest) (⟨kind, number⟩ :: options)

/-- `Written b p`: the byte string `b` is the packet `p`. -/
inductive Written : Bytes → Packet → Prop where
  | readRequest {filename mode pairs : Bytes} {options : List OptionEntry}
      (filename_plain : 0 ∉ filename) (mode_plain : 0 ∉ mode) (sets : Pairs pairs options) :
      Written ([0, 1] ++ terminated filename ++ terminated mode ++ pairs)
        (.request .read filename mode options)
  | writeRequest {filename mode pairs : Bytes} {options : List OptionEntry}
      (filename_plain : 0 ∉ filename) (mode_plain : 0 ∉ mode) (sets : Pairs pairs options) :
      Written ([0, 2] ++ terminated filename ++ terminated mode ++ pairs)
        (.request .write filename mode options)
  | data (high low : UInt8) (payload : Bytes) :
      Written ([0, 3, high, low] ++ payload) (.data (toWord high low) payload)
  | ack (high low : UInt8) : Written [0, 4, high, low] (.ack (toWord high low))
  | error (high low : UInt8) {text : Bytes} (trailing : Bytes) (text_plain : 0 ∉ text) :
      Written ([0, 5, high, low] ++ terminated text ++ trailing)
        (.error ⟨if toWord high low ≤ 8 then toWord high low else 0⟩ text)
  | optionAck {pairs : Bytes} {options : List OptionEntry} (sets : Pairs pairs options) :
      Written ([0, 6] ++ pairs) (.optionAck options)

/-! ## Names -/

theorem OptionKind.ofName?_eq_some_iff {text : Bytes} {kind : OptionKind} :
    ofName? text = some kind ↔ kind.IsKnown ∧ text = kind.name := by
  constructor
  · intro h
    have hname := List.find?_some h
    have hmem := List.mem_of_find?_eq_some h
    rw [beq_iff_eq] at hname
    refine ⟨?_, hname.symm⟩
    simp only [List.mem_cons, List.not_mem_nil, or_false] at hmem
    rcases hmem with rfl | rfl | rfl <;> trivial
  · rintro ⟨hknown, rfl⟩
    cases kind with
    | other tag => exact hknown.elim
    | blockSize | transferSize | timeout => rfl

theorem OptionKind.lower_name (kind : OptionKind) : lower kind.name = kind.name := by
  cases kind <;> rfl

theorem names_iff {name : Bytes} {kind : OptionKind} :
    Names name kind ↔ OptionKind.ofName? (lower name) = some kind := by
  rw [OptionKind.ofName?_eq_some_iff, Names, ← lower_eq_iff, OptionKind.lower_name]

theorem strange_iff {name : Bytes} :
    (∀ kind, ¬ Names name kind) ↔ OptionKind.ofName? (lower name) = none := by
  simp only [names_iff, Option.eq_none_iff_forall_ne_some, ne_eq]

/-! ## Pairs -/

/-- Without a zero byte there is no text. -/
theorem decodeText_of_zero_notMem {b : Bytes} (h : 0 ∉ b) :
    decodeText b = .error .unterminatedText := by
  cases hread : decodeText b with
  | ok read =>
    obtain ⟨text, rest⟩ := read
    obtain ⟨rfl, -⟩ := decodeText_eq_ok_iff.mp hread
    simp [terminated] at h
  | error fault =>
    unfold decodeText at hread
    split at hread
    · exact hread.symm
    · cases hread

theorem bind_eq_ok_iff {ε α β : Type} {x : Except ε α} {f : α → Except ε β} {b : β} :
    (x >>= f) = .ok b ↔ ∃ a, x = .ok a ∧ f a = .ok b := by
  cases x <;> simp [bind, Except.bind]

theorem decodeOptions_nil : decodeOptions [] = .ok [] := by
  rw [decodeOptions, if_pos rfl]

/-- Reading pairs goes on behind the first one. -/
theorem decodeOptions_of_pair {b name text rest : Bytes}
    (h : decodePair b = .ok (name, text, rest)) :
    decodeOptions b =
      match OptionKind.ofName? name with
      | none => decodeOptions rest
      | some kind => do
        let value ← readValue text
        let options ← decodeOptions rest
        return ⟨kind, value⟩ :: options := by
  have hne : b ≠ [] := by
    have hlength := length_of_decodePair h
    rintro rfl
    simp at hlength
  rw [decodeOptions, if_neg hne]
  split
  · rename_i heq
    rw [h] at heq
    cases heq
  · rename_i heq
    rw [h] at heq
    cases heq
    rfl

theorem pairs_of_decodeOptions {b : Bytes} {options : List OptionEntry}
    (h : decodeOptions b = .ok options) : Pairs b options := by
  induction b using decodeOptions.induct generalizing options with
  | case1 =>
    rw [decodeOptions_nil] at h
    cases h
    exact .nil
  | case2 b hne fault hpair =>
    rw [decodeOptions, if_neg hne] at h
    split at h
    · cases h
    · rename_i heq
      rw [hpair] at heq
      cases heq
  | case3 b hne name text rest hpair hkind ih =>
    rw [decodeOptions_of_pair hpair, hkind] at h
    obtain ⟨written, rfl, hname, hvalue, rfl⟩ := decodePair_eq_ok_iff.mp hpair
    exact .unknown hname hvalue (strange_iff.mpr hkind) (ih h)
  | case4 b hne name text rest hpair kind hkind ih =>
    rw [decodeOptions_of_pair hpair, hkind] at h
    simp only [bind_eq_ok_iff] at h
    obtain ⟨number, hnumber, others, hothers, hoptions⟩ := h
    cases hoptions
    obtain ⟨written, rfl, hname, hvalue, rfl⟩ := decodePair_eq_ok_iff.mp hpair
    exact .option hname hvalue (names_iff.mpr hkind) (readValue_eq_ok_iff.mp hnumber) (ih hothers)

theorem decodePair_pair {name value : Bytes} (rest : Bytes) (name_plain : 0 ∉ name)
    (value_plain : 0 ∉ value) :
    decodePair (terminated name ++ terminated value ++ rest) = .ok (lower name, value, rest) :=
  decodePair_eq_ok_iff.mpr ⟨name, rfl, name_plain, value_plain, rfl⟩

theorem decodeOptions_of_pairs {b : Bytes} {options : List OptionEntry} (h : Pairs b options) :
    decodeOptions b = .ok options := by
  induction h with
  | nil => exact decodeOptions_nil
  | unknown hname hvalue hstrange _ ih =>
    rw [decodeOptions_of_pair (decodePair_pair _ hname hvalue), strange_iff.mp hstrange]
    exact ih
  | option hname hvalue hnames hnumber _ ih =>
    rw [decodeOptions_of_pair (decodePair_pair _ hname hvalue), names_iff.mp hnames]
    simp only [readValue_eq_ok_iff.mpr hnumber, ih]
    rfl

/-- Pairs are read to the options that they set. -/
theorem decodeOptions_eq_ok_iff {b : Bytes} {options : List OptionEntry} :
    decodeOptions b = .ok options ↔ Pairs b options :=
  ⟨pairs_of_decodeOptions, decodeOptions_of_pairs⟩

/-! ## Packets -/

theorem terminated_append_ne_nil (text rest : Bytes) : terminated text ++ rest ≠ [] := by
  simp [terminated]

/-- The body of a request is two texts and pairs. -/
theorem decodeRequest_eq_ok_iff {access : Access} {body : Bytes} {p : Packet} :
    decodeRequest access body = .ok p ↔ ∃ filename mode pairs options,
      0 ∉ filename ∧ 0 ∉ mode ∧ Pairs pairs options ∧
        body = terminated filename ++ terminated mode ++ pairs ∧
        p = .request access filename mode options := by
  unfold decodeRequest
  constructor
  · intro h
    obtain ⟨⟨filename, afterName⟩, hfilename, hafter⟩ := bind_eq_ok_iff.mp h
    by_cases hend : afterName = []
    · simp [hend, bind, Except.bind, throw, throwThe, MonadExceptOf.throw] at hafter
    · simp only [hend, if_false] at hafter
      obtain ⟨⟨mode, pairs⟩, hmode, hrest⟩ := bind_eq_ok_iff.mp hafter
      obtain ⟨options, hoptions, hp⟩ := bind_eq_ok_iff.mp hrest
      cases hp
      obtain ⟨rfl, hplain⟩ := decodeText_eq_ok_iff.mp hfilename
      obtain ⟨rfl, hplain'⟩ := decodeText_eq_ok_iff.mp hmode
      exact ⟨filename, mode, pairs, options, hplain, hplain', decodeOptions_eq_ok_iff.mp hoptions,
        (List.append_assoc _ _ _).symm, rfl⟩
  · rintro ⟨filename, mode, pairs, options, hfilename, hmode, hpairs, rfl, rfl⟩
    have hbody : decodeText (terminated filename ++ terminated mode ++ pairs)
        = .ok (filename, terminated mode ++ pairs) :=
      decodeText_eq_ok_iff.mpr ⟨List.append_assoc _ _ _, hfilename⟩
    have hrest : decodeText (terminated mode ++ pairs) = .ok (mode, pairs) :=
      decodeText_eq_ok_iff.mpr ⟨rfl, hmode⟩
    simp only [hbody, hrest, decodeOptions_eq_ok_iff.mpr hpairs, terminated_append_ne_nil, bind,
      Except.bind, pure, Except.pure, if_false]

theorem Opcode.ofValue?_eq_some_iff {value : UInt16} {opcode : Opcode} :
    ofValue? value = some opcode ↔ opcode.value = value := by
  constructor
  · intro h
    have hvalue := List.find?_some h
    rwa [beq_iff_eq] at hvalue
  · rintro rfl
    cases opcode <;> rfl

/-- Two bytes are the opcode that they are written for. -/
theorem Opcode.encode_of_ofValue? {high low : UInt8} {opcode : Opcode}
    (h : ofValue? (toWord high low) = some opcode) : [high, low] = opcode.encode := by
  rw [encode, ofValue?_eq_some_iff.mp h, ofWord_toWord]

theorem ErrorCode.ofWire_eq (value : UInt16) : ofWire value = ⟨if value ≤ 8 then value else 0⟩ := by
  unfold ofWire
  split <;> rfl

theorem written_of_decode {b : Bytes} {p : Packet} (h : Packet.decode b = .ok p) : Written b p := by
  unfold Packet.decode at h
  split at h
  · rename_i o₁ o₂ body
    dsimp only at h
    split at h
    · cases h
    · rename_i hopcode
      cases Opcode.encode_of_ofValue? hopcode
      obtain ⟨filename, mode, pairs, options, hfilename, hmode, hpairs, rfl, rfl⟩ :=
        decodeRequest_eq_ok_iff.mp h
      exact .readRequest hfilename hmode hpairs
    · rename_i hopcode
      cases Opcode.encode_of_ofValue? hopcode
      obtain ⟨filename, mode, pairs, options, hfilename, hmode, hpairs, rfl, rfl⟩ :=
        decodeRequest_eq_ok_iff.mp h
      exact .writeRequest hfilename hmode hpairs
    · rename_i hopcode
      cases Opcode.encode_of_ofValue? hopcode
      cases h
      exact .data _ _ _
    · cases h
    · rename_i hopcode
      cases Opcode.encode_of_ofValue? hopcode
      cases h
      exact .ack _ _
    · cases h
    · rename_i hopcode
      cases Opcode.encode_of_ofValue? hopcode
      obtain ⟨⟨text, trailing⟩, htext, hp⟩ := bind_eq_ok_iff.mp h
      cases hp
      obtain ⟨hrest, hplain⟩ := decodeText_eq_ok_iff.mp htext
      rw [hrest, ErrorCode.ofWire_eq]
      exact .error _ _ trailing hplain
    · cases h
    · rename_i hopcode
      cases Opcode.encode_of_ofValue? hopcode
      obtain ⟨options, hoptions, hp⟩ := bind_eq_ok_iff.mp h
      cases hp
      exact .optionAck (decodeOptions_eq_ok_iff.mp hoptions)
  · cases h

theorem decode_of_written {b : Bytes} {p : Packet} (h : Written b p) : Packet.decode b = .ok p := by
  cases h with
  | readRequest hfilename hmode hpairs =>
    exact decodeRequest_eq_ok_iff.mpr ⟨_, _, _, _, hfilename, hmode, hpairs, rfl, rfl⟩
  | writeRequest hfilename hmode hpairs =>
    exact decodeRequest_eq_ok_iff.mpr ⟨_, _, _, _, hfilename, hmode, hpairs, rfl, rfl⟩
  | data high low payload => rfl
  | ack high low => rfl
  | @error high low text trailing hplain =>
    have htext : decodeText (terminated text ++ trailing) = .ok (text, trailing) :=
      decodeText_eq_ok_iff.mpr ⟨rfl, hplain⟩
    obtain ⟨c, rest, hcons⟩ := List.exists_cons_of_ne_nil (terminated_append_ne_nil text trailing)
    rw [List.append_assoc, hcons]
    show (decodeText (c :: rest) >>= fun read =>
      pure (Packet.error (.ofWire (toWord high low)) read.1)) = _
    rw [← hcons, htext, ErrorCode.ofWire_eq]
    rfl
  | @optionAck pairs options hpairs =>
    show (do return Packet.optionAck (← decodeOptions pairs)) = _
    rw [decodeOptions_eq_ok_iff.mpr hpairs]
    rfl

/-- What decodes is what the grammar allows, and decodes to what the grammar says. -/
theorem Packet.decode_eq_ok_iff {b : Bytes} {p : Packet} : decode b = .ok p ↔ Written b p :=
  ⟨written_of_decode, decode_of_written⟩

/-- **Decoding accepts exactly the grammar of packets**: a byte string decodes to a packet exactly
if it is that packet, and is malformed exactly if it is no packet. -/
theorem decode_grammar (b : Bytes) :
    (∀ p, Packet.decode b = .ok p ↔ Written b p) ∧
      ((∃ fault, Packet.decode b = .error fault) ↔ ∀ p, ¬ Written b p) := by
  refine ⟨fun p => Packet.decode_eq_ok_iff, ?_⟩
  simp only [← Packet.decode_eq_ok_iff]
  cases Packet.decode b <;> simp

/-- An acknowledgement of options that names one in capital and small letters, with a leading zero
in its value, after a pair that names none. -/
theorem decode_grammar_mixedCase :
    let b := [0, 6] ++ (terminated (ascii "blksizes") ++ terminated (ascii "x") ++
      (terminated (ascii "BlkSize") ++ terminated (ascii "0512") ++ []))
    Written b (.optionAck [⟨.blockSize, 512⟩]) ∧
      Packet.decode b = .ok (.optionAck [⟨.blockSize, 512⟩]) := by
  intro b
  have hstrange : ∀ kind, ¬ Names (ascii "blksizes") kind := strange_iff.mpr rfl
  have hnames : Names (ascii "BlkSize") .blockSize := ⟨trivial, by decide⟩
  have hwritten : Written b (.optionAck [⟨.blockSize, 512⟩]) :=
    .optionAck (.unknown (by decide) (by decide) hstrange
      (.option (by decide) (by decide) hnames (readValue_eq_ok_iff.mp rfl) .nil))
  obtain ⟨hdecodes, -⟩ := decode_grammar b
  exact ⟨hwritten, (hdecodes _).mpr hwritten⟩

end Tftp
