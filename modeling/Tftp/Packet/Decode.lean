import Tftp.Packet.Encode

/-!
# Packets from bytes

`Packet.decode` reads a datagram, or says in which way it is malformed (`decode`, specification §4.1
and §10.6). Faults are looked for from left to right, and the first one is reported; `Malformed` has
a constructor for each, and `Malformed.message` its wording.

* Options whose name is unknown are skipped, whatever their value; letter case does not matter.
* An option value has one to twenty digits and 64 bits. Its length is looked at first, and then each
  digit together with the room for it, so that the fault of a bad value is the leftmost one.
* An error code beyond the defined ones is read as undefined, and bytes after the message of an
  error packet are ignored. An acknowledgement has exactly four bytes.

Results:
* `decodeText_eq_ok_iff` and `decodePair_eq_ok_iff`: a text is what its zero byte ends, and a pair
  is two of them.
* `length_of_decodePair`: a pair takes at least two bytes, so reading options ends.

The readers take the datagram apart from its front, so none of them can look beyond its end. That
the same is true of a reader which keeps a position in the datagram is shown in
`Tftp.Proofs.Packet.Position`, what is read in `Tftp.Proofs.Packet.Grammar`.

Out of scope: what a packet means. A data packet may be longer than a block and an option out of
range; whoever waits for the packet looks at that.
-/

namespace Tftp

/-! ## Malformed datagrams -/

/-- In which way a datagram is malformed. -/
inductive Malformed where
  | tooSmall
  | unknownOpcode (value : UInt16)
  | unterminatedText
  | missingMode
  | truncatedData
  | wrongAckSize
  | truncatedError
  | missingValue (name : Bytes)
  | invalidValue (text : Bytes)
  | valueOutOfRange (text : Bytes)
  | tooLarge (length : Nat)
  deriving DecidableEq, Repr

open Bytes in
/-- The wording of a fault. -/
def Malformed.message : Malformed → Bytes
  | tooSmall => ascii "packet too small"
  | unknownOpcode value => ascii "unknown opcode " ++ decimal value.toNat
  | unterminatedText => ascii "missing string terminator"
  | missingMode => ascii "request has no mode"
  | truncatedData => ascii "data packet too small"
  | wrongAckSize => ascii "ack packet size mismatch"
  | truncatedError => ascii "error packet too small"
  | missingValue name => ascii "option '" ++ name ++ ascii "' has no value"
  | invalidValue text => ascii "invalid option value '" ++ text ++ ascii "'"
  | valueOutOfRange text => ascii "option value out of range '" ++ text ++ ascii "'"
  | tooLarge length => ascii "packet too large (" ++ decimal length ++ ascii " bytes)"

/-! ## Option values -/

/-- The largest number of characters of an option value. -/
def maxValueLength : Nat := 20

/-- The largest option value. -/
def maxOptionValue : UInt64 := 18446744073709551615

/-- `value` with one more decimal digit, unless that leaves the 64-bit range. -/
def appendDigit? (value digit : UInt64) : Option UInt64 :=
  if value > (maxOptionValue - digit) / 10 then none else some (value * 10 + digit)

/-- Reads one more digit of an option value behind those that make up `value`; `text` is the whole
value, for the report of a fault. -/
def readDigit (text : Bytes) (value : UInt64) (c : UInt8) : Except Malformed UInt64 :=
  match Bytes.digit? c with
  | none => .error (.invalidValue text)
  | some d => (appendDigit? value (UInt64.ofNat d)).elim (.error (.valueOutOfRange text)) .ok

/-- Reads the rest of the digits of an option value, from left to right. -/
def readDigits (text : Bytes) (value : UInt64) : Bytes → Except Malformed UInt64
  | [] => .ok value
  | c :: rest => do
    let value ← readDigit text value c
    readDigits text value rest

/-- Reads an option value: one to twenty decimal digits that denote a 64-bit number. -/
def readValue (text : Bytes) : Except Malformed UInt64 :=
  if text = [] ∨ maxValueLength < text.length then .error (.invalidValue text)
  else readDigits text 0 text

/-! ## Texts and options -/

/-- Reads one terminated text. -/
def decodeText (b : Bytes) : Except Malformed (Bytes × Bytes) :=
  match Bytes.takeText b with
  | none => .error .unterminatedText
  | some p => .ok p

/-- Reads one pair of name and value; the name is given in lower case. -/
def decodePair (b : Bytes) : Except Malformed (Bytes × Bytes × Bytes) := do
  let (name, rest) ← decodeText b
  if rest = [] then
    throw (.missingValue (Bytes.lower name))
  let (value, rest) ← decodeText rest
  return (Bytes.lower name, value, rest)

/-- A text and its zero byte are what is read. -/
theorem decodeText_eq_ok_iff {b text rest : Bytes} :
    decodeText b = .ok (text, rest) ↔ b = Bytes.terminated text ++ rest ∧ 0 ∉ text := by
  rw [← Bytes.takeText_eq_some_iff, decodeText]
  cases Bytes.takeText b <;> simp

/-- The two texts of a pair, the first one in any letter case, are what is read. -/
theorem decodePair_eq_ok_iff {b name value rest : Bytes} :
    decodePair b = .ok (name, value, rest) ↔
      ∃ written, Bytes.lower written = name ∧ 0 ∉ written ∧ 0 ∉ value ∧
        b = Bytes.terminated written ++ Bytes.terminated value ++ rest := by
  constructor
  · intro h
    match hw : decodeText b with
    | .error e => simp [decodePair, hw, bind, Except.bind] at h
    | .ok (written, afterName) =>
      by_cases he : afterName = []
      · simp [decodePair, hw, he, bind, Except.bind, throw, throwThe, MonadExceptOf.throw] at h
      · match hv : decodeText afterName with
        | .error e => simp [decodePair, hw, hv, he, bind, Except.bind] at h
        | .ok (v, r) =>
          simp only [decodePair, hw, hv, he, bind, Except.bind, pure, Except.pure, if_false,
            Except.ok.injEq, Prod.mk.injEq] at h
          obtain ⟨rfl, rfl, rfl⟩ := h
          obtain ⟨rfl, hz⟩ := decodeText_eq_ok_iff.1 hw
          obtain ⟨rfl, hz'⟩ := decodeText_eq_ok_iff.1 hv
          exact ⟨written, rfl, hz, hz', by simp⟩
  · rintro ⟨written, rfl, hz, hz', rfl⟩
    have hw : decodeText (Bytes.terminated written ++ Bytes.terminated value ++ rest)
        = .ok (written, Bytes.terminated value ++ rest) :=
      decodeText_eq_ok_iff.2 ⟨List.append_assoc _ _ rest, hz⟩
    have hv : decodeText (Bytes.terminated value ++ rest) = .ok (value, rest) :=
      decodeText_eq_ok_iff.2 ⟨rfl, hz'⟩
    have he : Bytes.terminated value ++ rest ≠ [] := by simp [Bytes.terminated]
    simp only [decodePair, hw, hv, he, bind, Except.bind, pure, Except.pure, if_false]

/-- A pair takes at least two bytes. -/
theorem length_of_decodePair {b name value rest : Bytes}
    (h : decodePair b = .ok (name, value, rest)) : rest.length + 2 ≤ b.length := by
  obtain ⟨w, _, _, _, rfl⟩ := decodePair_eq_ok_iff.1 h
  simp [Bytes.terminated]
  omega

/-- Reads pairs of name and value up to the end of the datagram. -/
def decodeOptions (b : Bytes) : Except Malformed (List OptionEntry) :=
  if b = [] then .ok []
  else
    match _h : decodePair b with
    | .error e => .error e
    | .ok (name, text, rest) =>
      match OptionKind.ofName? name with
      | none => decodeOptions rest
      | some kind => do
        let value ← readValue text
        let options ← decodeOptions rest
        return ⟨kind, value⟩ :: options
termination_by b.length
decreasing_by
  all_goals
    have := length_of_decodePair (by assumption)
    omega

/-! ## Packets -/

/-- Reads the body of a request. -/
def decodeRequest (access : Access) (body : Bytes) : Except Malformed Packet := do
  let (filename, rest) ← decodeText body
  if rest = [] then
    throw .missingMode
  let (mode, rest) ← decodeText rest
  let options ← decodeOptions rest
  return .request access filename mode options

/-- Reads a datagram. -/
def Packet.decode : Bytes → Except Malformed Packet
  | o₁ :: o₂ :: body =>
    let opcode := Bytes.toWord o₁ o₂
    match Opcode.ofValue? opcode, body with
    | none, _ => .error (.unknownOpcode opcode)
    | some .readRequest, _ => decodeRequest .read body
    | some .writeRequest, _ => decodeRequest .write body
    | some .data, b₁ :: b₂ :: payload => .ok (.data (Bytes.toWord b₁ b₂) payload)
    | some .data, _ => .error .truncatedData
    | some .ack, [b₁, b₂] => .ok (.ack (Bytes.toWord b₁ b₂))
    | some .ack, _ => .error .wrongAckSize
    | some .error, c₁ :: c₂ :: c₃ :: rest => do
      let (message, _) ← decodeText (c₃ :: rest)
      return .error (.ofWire (Bytes.toWord c₁ c₂)) message
    | some .error, _ => .error .truncatedError
    | some .optionAck, _ => return .optionAck (← decodeOptions body)
  | _ => .error .tooSmall

end Tftp
