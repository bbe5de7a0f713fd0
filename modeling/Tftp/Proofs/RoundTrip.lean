import Tftp.Proofs.Packet.Grammar

/-!
# Round trips

Decoding what was encoded. A packet that reads back as it is holds only what a datagram can carry:
texts without zero bytes, options that have a name, and a defined error code. The grammar decides
both directions: it has the bytes of every such packet, and no other packet has bytes in it.

Results:
* `decode_encode_data` and `decode_encode_ack`: the packets that carry a file read back as they are.
* `plain_of_written`: a datagram carries no other packets.
* `written_encode`: the bytes of a packet that a datagram can carry are that packet.
* `opcode_of_decode_encode`: a packet reads back as one of its kind, if at all.
* **`decode_encode_eq_ok_iff`**: exactly the packets that a datagram can carry read back as they
  are.

The specification promises `decode(encode(p)) == p` for every packet that can be constructed (§8). A
packet whose text holds a zero byte can be constructed and is cut there, an option of a kind without
a name is written as one that is skipped, and an undefined error code is read as 0. `Packet.Plain`
leaves these out, and no others.

Out of scope: datagrams, of which many are the same packet (`Tftp.Proofs.Packet.Canonical`).
-/

namespace Tftp

open Bytes

namespace Packet

/-- A data packet reads back as it is. -/
theorem decode_encode_data (block : UInt16) (payload : Bytes) :
    decode (data block payload).encode = .ok (data block payload) := by
  show Except.ok (data (Bytes.toWord _ _) payload) = _
  rw [Bytes.toWord_ofWord]

/-- An acknowledgement reads back as it is. -/
theorem decode_encode_ack (block : UInt16) : decode (ack block).encode = .ok (ack block) := by
  show Except.ok (ack (Bytes.toWord _ _)) = _
  rw [Bytes.toWord_ofWord]

/-- The packets that a datagram can carry: no text has a zero byte, every option is of a known kind,
and the error code is one of the defined ones. -/
def Plain : Packet → Prop
  | request _ filename mode options =>
    0 ∉ filename ∧ 0 ∉ mode ∧ ∀ option ∈ options, option.kind.IsKnown
  | data _ _ => True
  | ack _ => True
  | error code message => code.value ≤ 8 ∧ 0 ∉ message
  | optionAck options => ∀ option ∈ options, option.kind.IsKnown

end Packet

/-! ## Every datagram carries such a packet -/

theorem known_of_pairs {b : Bytes} {options : List OptionEntry} (h : Pairs b options) :
    ∀ option ∈ options, option.kind.IsKnown := by
  induction h with
  | nil => simp
  | unknown _ _ _ _ ih => exact ih
  | option _ _ hnames _ _ ih =>
    rw [List.forall_mem_cons]
    exact ⟨hnames.1, ih⟩

/-- A datagram carries no other packets. -/
theorem plain_of_written {b : Bytes} {p : Packet} (h : Written b p) : p.Plain := by
  cases h with
  | readRequest hfilename hmode hpairs => exact ⟨hfilename, hmode, known_of_pairs hpairs⟩
  | writeRequest hfilename hmode hpairs => exact ⟨hfilename, hmode, known_of_pairs hpairs⟩
  | data high low payload => trivial
  | ack high low => trivial
  | error high low trailing htext =>
    refine ⟨?_, htext⟩
    show (if toWord high low ≤ 8 then toWord high low else 0) ≤ 8
    split
    · assumption
    · decide
  | optionAck hpairs => exact known_of_pairs hpairs

/-! ## Every such packet is carried by its bytes -/

theorem names_name {kind : OptionKind} (h : kind.IsKnown) : Names kind.name kind :=
  ⟨h, lower_eq_iff.mp rfl⟩

theorem zero_notMem_name (kind : OptionKind) : 0 ∉ kind.name := by
  cases kind with
  | other tag =>
    show 0 ∉ ascii "unknown"
    decide
  | blockSize | transferSize | timeout => decide

theorem Bytes.IsValue.zero_notMem {text : Bytes} {v : UInt64} (h : text.IsValue v) : 0 ∉ text :=
  fun hzero => not_isDigit_zero (h.digits 0 hzero)

/-- Options of known kinds are set by the pairs they are written as. -/
theorem pairs_encodeOptions {options : List OptionEntry}
    (known : ∀ option ∈ options, option.kind.IsKnown) : Pairs (encodeOptions options) options := by
  induction options with
  | nil => exact .nil
  | cons option options ih =>
    rw [List.forall_mem_cons] at known
    obtain ⟨hknown, hrest⟩ := known
    have hvalue := isValue_decimal option.value
    exact .option (zero_notMem_name _) hvalue.zero_notMem (names_name hknown) hvalue (ih hrest)

/-- The bytes of a packet that a datagram can carry are that packet. -/
theorem written_encode {p : Packet} (h : p.Plain) : Written p.encode p := by
  cases p with
  | request access filename mode options =>
    obtain ⟨hfilename, hmode, hknown⟩ := h
    cases access with
    | read => exact .readRequest hfilename hmode (pairs_encodeOptions hknown)
    | write => exact .writeRequest hfilename hmode (pairs_encodeOptions hknown)
  | data block payload =>
    have hblock := Written.data (UInt8.ofNat (block.toNat / 256)) (UInt8.ofNat (block.toNat % 256))
      payload
    rw [toWord_ofWord] at hblock
    exact hblock
  | ack block =>
    have hblock := Written.ack (UInt8.ofNat (block.toNat / 256)) (UInt8.ofNat (block.toNat % 256))
    rw [toWord_ofWord] at hblock
    exact hblock
  | error code message =>
    obtain ⟨hcode, hmessage⟩ := h
    have herror := Written.error (UInt8.ofNat (code.value.toNat / 256))
      (UInt8.ofNat (code.value.toNat % 256)) [] hmessage
    rw [toWord_ofWord, if_pos hcode, List.append_nil] at herror
    exact herror
  | optionAck options => exact .optionAck (pairs_encodeOptions h)

/-- **Exactly the packets that a datagram can carry read back as they are**, whatever their block
numbers, payloads, option values and the number and order of their options. -/
theorem decode_encode_eq_ok_iff (p : Packet) : Packet.decode p.encode = .ok p ↔ p.Plain := by
  rw [Packet.decode_eq_ok_iff]
  constructor
  · intro h
    exact plain_of_written h
  · intro h
    exact written_encode h

/-! ## Kinds of packets -/

/-- The opcode of a packet. -/
def Packet.opcode : Packet → Opcode
  | request access _ _ _ => .ofAccess access
  | data _ _ => .data
  | ack _ => .ack
  | error _ _ => .error
  | optionAck _ => .optionAck

theorem Opcode.encode_injective {o o' : Opcode} (h : o.encode = o'.encode) : o = o' := by
  cases o <;> cases o' <;> revert h <;> decide

theorem take_of_written {b : Bytes} {p : Packet} (h : Written b p) :
    b.take 2 = p.opcode.encode := by
  cases h <;> simp [Packet.opcode, Opcode.ofAccess] <;> decide

theorem take_encode (p : Packet) : p.encode.take 2 = p.opcode.encode := by
  cases p with
  | request access => cases access <;> rfl
  | data | ack | error | optionAck => rfl

/-- A packet reads back as one of its kind, if at all. -/
theorem opcode_of_decode_encode {p q : Packet} (h : Packet.decode q.encode = .ok p) :
    p.opcode = q.opcode := by
  refine Opcode.encode_injective ?_
  rw [← take_encode q]
  exact (take_of_written (Packet.decode_eq_ok_iff.mp h)).symm

/-- The datagram is a data packet. -/
def CarriesData (bytes : Bytes) : Prop :=
  ∃ block payload, Packet.decode bytes = .ok (.data block payload)

/-- The datagram is an option acknowledgement. -/
def CarriesOptions (bytes : Bytes) : Prop :=
  ∃ options, Packet.decode bytes = .ok (.optionAck options)

theorem opcode_of_carriesData {p : Packet} (h : CarriesData p.encode) : p.opcode = .data := by
  obtain ⟨block, payload, hdecode⟩ := h
  exact (opcode_of_decode_encode hdecode).symm

theorem opcode_of_carriesOptions {p : Packet} (h : CarriesOptions p.encode) :
    p.opcode = .optionAck := by
  obtain ⟨options, hdecode⟩ := h
  exact (opcode_of_decode_encode hdecode).symm

theorem carriesData_encode (block : UInt16) (payload : Bytes) :
    CarriesData (Packet.data block payload).encode :=
  ⟨block, payload, Packet.decode_encode_data block payload⟩

end Tftp
