import Tftp.Proofs.Packet.Canonical

/-!
# Truncated packets

What a reader makes of a datagram that holds only the beginning of a packet. A text whose zero byte
is missing is never read, so a request or an option acknowledgement can only lose whole options: a
value cannot be cut to a smaller number. Of the other packets only data can be cut and still be
read.

* `Bytes.Truncates` relates the beginning of a byte string to the whole.
* `Packet.ReadsTruncated` says what the beginning of a packet reads as.

Results:
* `truncates_append`: a byte string in two parts is cut within the first one or within the second.
* `decodeOptions_of_truncates` and `decodeRequest_of_truncates`: what is read of truncated options
  and requests.
* **`decode_truncated`**: what is read of any truncated packet, which is never the packet itself.

Truncated buffers are to be refused (specification §4.1, §10.9). Some beginnings of a packet are
packets all the same: data without the end of its payload, and options up to the end of a pair. This
says which they are. That data may be cut and still be read is the reason why a wait refuses what is
longer than its room by length (`Tftp.Arrival`), and does not read the part that it has.

Out of scope: datagrams that were changed otherwise. A socket delivers a datagram whole or, if the
room is too small, its beginning.
-/

namespace Tftp

open Bytes

/-! ## Beginnings -/

/-- `s` is a beginning of `b`, and something of `b` is missing in it. -/
def Bytes.Truncates (s b : Bytes) : Prop := s <+: b ∧ s ≠ b

instance (s b : Bytes) : Decidable (s.Truncates b) := inferInstanceAs (Decidable (_ ∧ _))

variable {s a b : Bytes}

/-- A byte string in two parts is cut within the first one, or within the second one. -/
theorem truncates_append (h : s.Truncates (a ++ b)) :
    s.Truncates a ∨ ∃ rest, s = a ++ rest ∧ rest.Truncates b := by
  obtain ⟨hcut, hne⟩ := h
  by_cases hwhole : a <+: s
  · obtain ⟨rest, rfl⟩ := hwhole
    refine Or.inr ⟨rest, rfl, (List.prefix_append_right_inj a).mp hcut, ?_⟩
    rintro rfl
    exact hne rfl
  · have hinside := (List.prefix_or_prefix_of_prefix hcut (List.prefix_append a b)).resolve_right
      hwhole
    refine Or.inl ⟨hinside, ?_⟩
    rintro rfl
    exact hwhole (List.prefix_refl s)

theorem Bytes.Truncates.length_lt (h : s.Truncates b) : s.length < b.length := by
  refine Nat.lt_of_le_of_ne h.1.length_le fun hlength => h.2 ?_
  exact h.1.eq_of_length hlength

/-! ## Texts and options -/

/-- A text that ends before its zero byte is not read. -/
theorem decodeText_of_truncates {text : Bytes} (plain : 0 ∉ text)
    (h : s.Truncates (terminated text)) : decodeText s = .error .unterminatedText := by
  have hinside : s <+: text := (List.prefix_concat_iff.mp h.1).resolve_left h.2
  exact decodeText_of_zero_notMem fun hzero => plain (hinside.subset hzero)

/-- A pair of which something is missing is not read. -/
theorem decodePair_of_truncates {name value : Bytes} (name_plain : 0 ∉ name)
    (value_plain : 0 ∉ value) (h : s.Truncates (terminated name ++ terminated value)) :
    ∃ fault, decodePair s = .error fault := by
  unfold decodePair
  rcases truncates_append h with hname | ⟨rest, rfl, hvalue⟩
  · rw [decodeText_of_truncates name_plain hname]
    exact ⟨_, rfl⟩
  · rw [decodeText_eq_ok_iff.mpr ⟨rfl, name_plain⟩]
    by_cases hempty : rest = []
    · simp [hempty, bind, Except.bind, throw, throwThe, MonadExceptOf.throw]
    · simp [hempty, bind, Except.bind, decodeText_of_truncates value_plain hvalue]

/-- **What is read of truncated options** are the first ones of them, if they are whole. -/
theorem decodeOptions_of_truncates {options read : List OptionEntry}
    (h : s.Truncates (encodeOptions options)) (hread : decodeOptions s = .ok read) :
    ∃ k < options.length, s = encodeOptions (options.take k) := by
  induction options generalizing s read with
  | nil => exact absurd (List.prefix_nil.mp h.1) h.2
  | cons option options ih =>
    rw [encodeOptions_cons] at h
    by_cases hempty : s = []
    · exact ⟨0, Nat.succ_pos _, hempty⟩
    have hname := zero_notMem_name option.kind
    have hvalue := zero_notMem_decimal option.value.toNat
    rcases truncates_append h with hpair | ⟨rest, rfl, hrest⟩
    · obtain ⟨fault, hfault⟩ := decodePair_of_truncates hname hvalue hpair
      rw [decodeOptions, if_neg hempty] at hread
      split at hread
      · cases hread
      · rename_i hok
        rw [hfault] at hok
        cases hok
    · -- The first pair is whole, so reading goes on behind it, whatever it sets.
      obtain ⟨others, hothers⟩ : ∃ others, decodeOptions rest = .ok others := by
        rw [decodeOptions_of_pair (decodePair_pair rest hname hvalue)] at hread
        split at hread
        · exact ⟨read, hread⟩
        · simp only [bind_eq_ok_iff] at hread
          obtain ⟨-, -, others, hothers, -⟩ := hread
          exact ⟨others, hothers⟩
      obtain ⟨k, hk, rfl⟩ := ih hrest hothers
      refine ⟨k + 1, Nat.succ_lt_succ hk, ?_⟩
      rw [List.take_succ_cons, encodeOptions_cons]

/-- What is read of a truncated request has all of its texts. -/
theorem decodeRequest_of_truncates {access : Access} {filename mode : Bytes}
    {options : List OptionEntry} {p : Packet} (filename_plain : 0 ∉ filename)
    (mode_plain : 0 ∉ mode)
    (h : s.Truncates (terminated filename ++ terminated mode ++ encodeOptions options))
    (hread : decodeRequest access s = .ok p) :
    ∃ k < options.length,
      s = terminated filename ++ terminated mode ++ encodeOptions (options.take k) := by
  rcases truncates_append h with htexts | ⟨rest, rfl, hrest⟩
  · unfold decodeRequest at hread
    rcases truncates_append htexts with hfilename | ⟨rest, rfl, hmode⟩
    · rw [decodeText_of_truncates filename_plain hfilename] at hread
      cases hread
    · rw [decodeText_eq_ok_iff.mpr ⟨rfl, filename_plain⟩] at hread
      by_cases hempty : rest = []
      · simp [hempty, bind, Except.bind, throw, throwThe, MonadExceptOf.throw] at hread
      · simp [hempty, bind, Except.bind, decodeText_of_truncates mode_plain hmode] at hread
  · rw [decodeRequest_texts rest filename_plain mode_plain] at hread
    obtain ⟨read, hoptions, -⟩ := bind_eq_ok_iff.mp hread
    obtain ⟨k, hk, rfl⟩ := decodeOptions_of_truncates hrest hoptions
    exact ⟨k, hk, rfl⟩

/-! ## Packets -/

/-- `p.ReadsTruncated s`: what a truncated packet `p`, of which only `s` is there, reads as.

* An acknowledgement and an error are malformed.
* Data that has its header is read with what is there of the payload, and is malformed otherwise.
* A request is read exactly if it ends behind its mode or behind an option, and an option
  acknowledgement exactly if it ends behind its opcode or behind an option; it is read with the
  options that are there. -/
def Packet.ReadsTruncated (p : Packet) (s : Bytes) : Prop :=
  match p with
  | ack _ | error _ _ => ∃ fault, decode s = .error fault
  | data block payload =>
    if s.length < 4 then ∃ fault, decode s = .error fault
    else decode s = .ok (data block (payload.take (s.length - 4)))
  | request access filename mode options =>
    ∀ q, decode s = .ok q ↔ ∃ k < options.length,
      s = (Opcode.ofAccess access).encode ++ terminated filename ++ terminated mode
          ++ encodeOptions (options.take k) ∧
        q = request access filename mode (options.take k)
  | optionAck options =>
    ∀ q, decode s = .ok q ↔ ∃ k < options.length,
      s = Opcode.optionAck.encode ++ encodeOptions (options.take k) ∧
        q = optionAck (options.take k)

theorem decode_of_truncates_opcode {opcode : Opcode} (h : s.Truncates opcode.encode) :
    Packet.decode s = .error .tooSmall := by
  have hlength : s.length < 2 := h.length_lt
  match s, hlength with
  | [], _ => rfl
  | [_], _ => rfl

theorem decode_opcode_request (access : Access) (body : Bytes) :
    Packet.decode ((Opcode.ofAccess access).encode ++ body) = decodeRequest access body := by
  cases access <;> rfl

theorem decode_opcode_optionAck (body : Bytes) :
    Packet.decode (Opcode.optionAck.encode ++ body) = do
      return .optionAck (← decodeOptions body) := rfl

/-- A packet with a number behind its opcode is malformed if that is not whole. -/
theorem decode_of_truncates_word {opcode : Opcode} {word : UInt16}
    (hopcode : opcode = .data ∨ opcode = .ack ∨ opcode = .error)
    (h : s.Truncates (opcode.encode ++ ofWord word)) :
    ∃ fault, Packet.decode s = .error fault := by
  rcases truncates_append h with hopen | ⟨rest, rfl, hrest⟩
  · exact ⟨_, decode_of_truncates_opcode hopen⟩
  · have hlength : rest.length < 2 := hrest.length_lt
    match rest, hlength with
    | [], _ => rcases hopcode with rfl | rfl | rfl <;> exact ⟨_, rfl⟩
    | [_], _ => rcases hopcode with rfl | rfl | rfl <;> exact ⟨_, rfl⟩

theorem readsTruncated_ack {block : UInt16} (h : s.Truncates (Packet.ack block).encode) :
    (Packet.ack block).ReadsTruncated s :=
  decode_of_truncates_word (.inr (.inl rfl)) h

theorem readsTruncated_error {code : ErrorCode} {message : Bytes} (plain : 0 ∉ message)
    (h : s.Truncates (Packet.error code message).encode) :
    (Packet.error code message).ReadsTruncated s := by
  rcases truncates_append h with hhead | ⟨rest, rfl, hmessage⟩
  · exact decode_of_truncates_word (.inr (.inr rfl)) hhead
  · cases rest with
    | nil => exact ⟨_, rfl⟩
    | cons c rest =>
      refine ⟨.unterminatedText, ?_⟩
      show (decodeText (c :: rest) >>= _) = _
      rw [decodeText_of_truncates plain hmessage]
      rfl

theorem readsTruncated_data {block : UInt16} {payload : Bytes}
    (h : s.Truncates (Packet.data block payload).encode) :
    (Packet.data block payload).ReadsTruncated s := by
  simp only [Packet.ReadsTruncated]
  rcases truncates_append h with hhead | ⟨rest, rfl, hrest⟩
  · have hlength : s.length < 4 := hhead.length_lt
    rw [if_pos hlength]
    exact decode_of_truncates_word (.inl rfl) hhead
  · have hlength : (Opcode.data.encode ++ ofWord block ++ rest).length = rest.length + 4 := by
      simp [Opcode.encode, ofWord]
    rw [hlength, if_neg (by omega), Nat.add_sub_cancel, ← List.prefix_iff_eq_take.mp hrest.1]
    exact Packet.decode_encode_data block rest

theorem readsTruncated_request {access : Access} {filename mode : Bytes}
    {options : List OptionEntry} (plain : (Packet.request access filename mode options).Plain)
    (h : s.Truncates (Packet.request access filename mode options).encode) :
    (Packet.request access filename mode options).ReadsTruncated s := by
  obtain ⟨hfilename, hmode, hknown⟩ := plain
  have hwhole : ∀ k, Packet.decode ((Opcode.ofAccess access).encode ++ terminated filename
      ++ terminated mode ++ encodeOptions (options.take k))
        = .ok (.request access filename mode (options.take k)) := fun k =>
    (decode_encode_eq_ok_iff (.request access filename mode (options.take k))).mpr
      ⟨hfilename, hmode, fun option hmem => hknown option (List.mem_of_mem_take hmem)⟩
  intro q
  constructor
  · intro hread
    simp only [Packet.encode, List.append_assoc] at h
    rcases truncates_append h with hopen | ⟨body, rfl, hbody⟩
    · rw [decode_of_truncates_opcode hopen] at hread
      cases hread
    · have hrequest := hread
      rw [decode_opcode_request] at hrequest
      rw [← List.append_assoc] at hbody
      obtain ⟨k, hk, rfl⟩ := decodeRequest_of_truncates hfilename hmode hbody hrequest
      have hs : (Opcode.ofAccess access).encode ++ (terminated filename ++ terminated mode
          ++ encodeOptions (options.take k)) = (Opcode.ofAccess access).encode
            ++ terminated filename ++ terminated mode ++ encodeOptions (options.take k) := by simp
      rw [hs, hwhole k] at hread
      exact ⟨k, hk, hs, (Except.ok.inj hread).symm⟩
  · rintro ⟨k, -, rfl, rfl⟩
    exact hwhole k

theorem readsTruncated_optionAck {options : List OptionEntry}
    (plain : (Packet.optionAck options).Plain)
    (h : s.Truncates (Packet.optionAck options).encode) :
    (Packet.optionAck options).ReadsTruncated s := by
  have hwhole : ∀ k, Packet.decode (Opcode.optionAck.encode ++ encodeOptions (options.take k))
      = .ok (.optionAck (options.take k)) := fun k =>
    (decode_encode_eq_ok_iff (.optionAck (options.take k))).mpr
      fun option hmem => plain option (List.mem_of_mem_take hmem)
  intro q
  constructor
  · intro hread
    rcases truncates_append h with hopen | ⟨body, rfl, hbody⟩
    · rw [decode_of_truncates_opcode hopen] at hread
      cases hread
    · have hoptions := hread
      rw [decode_opcode_optionAck] at hoptions
      obtain ⟨read, hoptions, -⟩ := bind_eq_ok_iff.mp hoptions
      obtain ⟨k, hk, rfl⟩ := decodeOptions_of_truncates hbody hoptions
      rw [hwhole k] at hread
      exact ⟨k, hk, rfl, (Except.ok.inj hread).symm⟩
  · rintro ⟨k, -, rfl, rfl⟩
    exact hwhole k

/-- What a truncated packet reads as is not that packet. -/
theorem Packet.ReadsTruncated.ne {p : Packet} (h : p.ReadsTruncated s)
    (cut : s.Truncates p.encode) : decode s ≠ .ok p := by
  have hlost : ∀ {options : List OptionEntry} {k : Nat}, k < options.length →
      options ≠ options.take k := by
    intro options k hk heq
    have hlength := congrArg List.length heq
    rw [List.length_take] at hlength
    omega
  intro hread
  cases p with
  | ack | error =>
    obtain ⟨fault, hfault⟩ := h
    rw [hread] at hfault
    cases hfault
  | data block payload =>
    have hlength := cut.length_lt
    simp only [encode, Opcode.encode, ofWord, List.length_append, List.length_cons,
      List.length_nil] at hlength
    simp only [ReadsTruncated] at h
    split at h
    · obtain ⟨fault, hfault⟩ := h
      rw [hread] at hfault
      cases hfault
    · rw [hread] at h
      have hpayload := congrArg List.length (Packet.data.inj (Except.ok.inj h)).2
      rw [List.length_take] at hpayload
      omega
  | request access filename mode options =>
    obtain ⟨k, hk, -, heq⟩ := (h _).mp hread
    exact hlost hk (Packet.request.inj heq).2.2.2
  | optionAck options =>
    obtain ⟨k, hk, -, heq⟩ := (h _).mp hread
    exact hlost hk (Packet.optionAck.inj heq)

/-- **Truncated packets never decode wrongly.** Of a packet that a datagram can carry, with options
in any number, cut anywhere: an acknowledgement and an error are malformed, data that has its header
is read with what is there of the payload, and a request and an option acknowledgement are read
exactly if they are cut behind a whole option or in front of all of them. What is read is never the
packet itself. -/
theorem decode_truncated {p : Packet} (plain : p.Plain) {s : Bytes} (cut : s.Truncates p.encode) :
    p.ReadsTruncated s ∧ Packet.decode s ≠ .ok p := by
  have hreads : p.ReadsTruncated s := by
    cases p with
    | request access filename mode options => exact readsTruncated_request plain cut
    | data block payload => exact readsTruncated_data cut
    | ack block => exact readsTruncated_ack cut
    | error code message => exact readsTruncated_error plain.2 cut
    | optionAck options => exact readsTruncated_optionAck plain cut
  exact ⟨hreads, hreads.ne cut⟩

/-- The request for the file `f` with a block size of 1024 and a timeout of 30 seconds, of which
only the first option is there, asks for the block size alone; cut within the number 1024 it asks
for nothing. -/
theorem decode_truncated_request :
    let p := Packet.request .read (ascii "f") (ascii "octet") [⟨.blockSize, 1024⟩, ⟨.timeout, 30⟩]
    p.Plain ∧ Truncates (p.encode.take 23) p.encode ∧ Truncates (p.encode.take 20) p.encode ∧
      Packet.decode (p.encode.take 23)
        = .ok (.request .read (ascii "f") (ascii "octet") [⟨.blockSize, 1024⟩]) ∧
      ∀ q, Packet.decode (p.encode.take 20) ≠ .ok q := by
  intro p
  have hplain : p.Plain := by
    refine ⟨by decide, by decide, ?_⟩
    simp [OptionKind.IsKnown]
  have hbehind : Truncates (p.encode.take 23) p.encode := by decide
  have hwithin : Truncates (p.encode.take 20) p.encode := by decide
  refine ⟨hplain, hbehind, hwithin, ?_, ?_⟩
  · exact ((decode_truncated hplain hbehind).1 _).mpr ⟨1, by decide, by decide, rfl⟩
  · intro q hread
    obtain ⟨k, hk, hs, -⟩ := ((decode_truncated hplain hwithin).1 q).mp hread
    match k, hk with
    | 0, _ => exact absurd hs (by decide)
    | 1, _ => exact absurd hs (by decide)

end Tftp
