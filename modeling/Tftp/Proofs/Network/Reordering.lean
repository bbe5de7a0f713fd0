import Tftp.Proofs.Network.Agreement
import Mathlib.Data.Set.Insert

/-!
# A network that keeps everything

A network that may deliver any datagram that either side has ever sent, to any side, any number of
times and in any order.

Here a block must not have the number of an earlier one, nor that of the handshake. A file of at
most 65535 blocks has distinct numbers for them, none of which is 0.

Results:
* `eq_of_wireNumber_eq`: below 65536 the number on the wire tells the block.
* `reordering_faithful`: the network keeps what is asked of it.
* **`reordering_safe`**: a transfer of at most 65535 blocks over it is safe at any moment.

This is the transport that the specification speaks of, unordered and lossy (§1), made as bad as it
can be without inventing datagrams. The bound on the length of the file is not for convenience.
Block numbers have 16 bits (§3), so a block of a longer file may be taken for one that was sent
65536 blocks before, and nothing in the protocol can tell.

Out of scope: longer files, which are safe only over networks that keep some order
(`Tftp.Proofs.Network.Fifo`).
-/

namespace Tftp

/-! ## The network -/

/-- The network whose state is the set of all datagrams ever sent. -/
def reordering : Network where
  State := Set Bytes
  send _ n bytes := insert bytes n
  Delivers _ n bytes n' := bytes ∈ n ∧ n' = n
  Moves _ _ := False

/-- What was sent in the handshake. -/
def greeting : Set Bytes := {(Packet.ack 0).encode}

/-- What was ever sent: data up to the block that the sender is at, acknowledgements up to the last
one of the receiver, and reports that a block cannot be stored. -/
def Posted (F : Bytes) (B : Nat) (c : Counts) (n : Set Bytes) : Prop :=
  ∀ b ∈ n, (∃ m ≤ c.confirmed, m < blockCount F B ∧ b = (chunkPacket F B m).encode) ∨
    (∃ m ≤ c.acknowledged, b = (Packet.ack (wireNumber m)).encode) ∨ b = Receiver.refusal.encode

variable {F : Bytes} {B : Nat} {c c' : Counts} {n : Set Bytes} {b : Bytes}

/-- Below 65536 the number on the wire tells the block. -/
theorem eq_of_wireNumber_eq {l m : Nat} (hl : l < 65536) (hm : m < 65536)
    (h : wireNumber l = wireNumber m) : l = m := by
  rw [wireNumber_eq_iff, Nat.mod_eq_of_lt hl, Nat.mod_eq_of_lt hm] at h
  exact h

theorem posted_greeting (F : Bytes) (B : Nat) : Posted F B ⟨0, 0, 0⟩ greeting := by
  rintro b rfl
  exact Or.inr (Or.inl ⟨0, Nat.le_refl 0, rfl⟩)

theorem Posted.mono (h : Posted F B c n) (hconfirmed : c.confirmed ≤ c'.confirmed)
    (hacknowledged : c.acknowledged ≤ c'.acknowledged) : Posted F B c' n := by
  intro b hb
  rcases h b hb with ⟨m, hm, hrest⟩ | ⟨m, hm, hrest⟩ | hrefusal
  · exact Or.inl ⟨m, hm.trans hconfirmed, hrest⟩
  · exact Or.inr (Or.inl ⟨m, hm.trans hacknowledged, hrest⟩)
  · exact Or.inr (Or.inr hrefusal)

theorem Posted.insert (h : Posted F B c n) (hb : Posted F B c {b}) :
    Posted F B c (insert b n) := by
  rintro d (rfl | hd)
  · exact hb d rfl
  · exact h d hd

/-- An acknowledgement names a block that was acknowledged. -/
theorem Posted.of_ack (h : Posted F B c n) {block : UInt16} (hb : b ∈ n)
    (decodes : Packet.decode b = .ok (.ack block)) :
    ∃ m ≤ c.acknowledged, block = wireNumber m := by
  rcases h b hb with ⟨m, -, -, rfl⟩ | ⟨m, hm, rfl⟩ | rfl
  · rw [chunkPacket, Packet.decode_encode_data] at decodes
    cases decodes
  · rw [Packet.decode_encode_ack] at decodes
    cases decodes
    exact ⟨m, hm, rfl⟩
  · rw [Receiver.decode_refusal] at decodes
    cases decodes

/-- Data is that of a block of the file that was sent. -/
theorem Posted.of_data (h : Posted F B c n) {block : UInt16} {payload : Bytes} (hb : b ∈ n)
    (decodes : Packet.decode b = .ok (.data block payload)) :
    ∃ m ≤ c.confirmed, m < blockCount F B ∧ block = wireNumber (m + 1) ∧ payload = chunk F B m := by
  rcases h b hb with ⟨m, hm, hlt, rfl⟩ | ⟨m, -, rfl⟩ | rfl
  · rw [chunkPacket, Packet.decode_encode_data] at decodes
    cases decodes
    exact ⟨m, hm, hlt, rfl, rfl⟩
  · rw [Packet.decode_encode_ack] at decodes
    cases decodes
  · rw [Receiver.decode_refusal] at decodes
    cases decodes

/-- **A network that keeps everything does what is asked of it** with files of at most 65535
blocks. -/
theorem reordering_faithful (hcount : blockCount F B ≤ 65535) :
    reordering.Faithful F B (Posted F B) where
  sent_chunk {c _} _ h due := by
    refine h.insert ?_
    rintro d rfl
    exact Or.inl ⟨c.confirmed, Nat.le_refl _, due, rfl⟩
  sent_ack {c _} step h := by
    have hposted : Posted F B { c with acknowledged := c.taken } _ :=
      h.mono (Nat.le_refl _) step.acknowledged_le
    refine hposted.insert ?_
    rintro d rfl
    exact Or.inr (Or.inl ⟨c.taken, Nat.le_refl _, rfl⟩)
  sent_refusal _ h := by
    refine h.insert ?_
    rintro d rfl
    exact Or.inr (Or.inr rfl)
  moved _ moves := moves.elim
  arrived h arrives := by
    obtain ⟨-, rfl⟩ := arrives
    exact h
  confirms {c n b n'} step h arrives due decodes := by
    obtain ⟨hb, rfl⟩ := arrives
    obtain ⟨m, hm, hblock⟩ := h.of_ack hb decodes
    have hle : m ≤ blockCount F B := hm.trans (step.acknowledged_le.trans step.taken_le)
    have hsame : c.confirmed + 1 = m := eq_of_wireNumber_eq (by omega) (by omega) hblock
    rw [← hsame] at hm
    exact ⟨hm, h.mono (Nat.le_succ _) (Nat.le_refl _)⟩
  takes {c n b n' payload} step h arrives hack decodes := by
    obtain ⟨hb, rfl⟩ := arrives
    obtain ⟨m, hm, hlt, hblock, rfl⟩ := h.of_data hb decodes
    -- A receiver that has taken all of 65535 blocks waits for number 0, which no data has.
    have hsame : c.taken = m := by
      have hle := step.taken_le
      rw [wireNumber_eq_iff] at hblock
      omega
    rw [hsame]
    exact ⟨rfl, hlt, hm, h⟩

/-! ## Transfers -/

/-- **A transfer of at most 65535 blocks is safe at any moment**, whatever datagrams come again, in
whatever order, and whichever calls fail. -/
theorem reordering_safe {senderRetries receiverRetries : Nat}
    {senderTraffic receiverTraffic : Traffic} {s : System reordering} (hB : 0 < B)
    (hcount : blockCount F B ≤ 65535)
    (steps : Steps reordering (.start F B senderRetries receiverRetries senderTraffic
      receiverTraffic greeting) s) : s.Safe F B := by
  obtain ⟨p, k, h⟩ := agreement_of_steps (reordering_faithful hcount) hB (posted_greeting F B) steps
  exact h.safe hB

/-- A file of one byte is stored when its sender returns, with the acknowledgement of the handshake
delivered once more. -/
theorem reordering_safe_oneBlock :
    0 < 2 ∧ blockCount [7] 2 ≤ 65535 ∧
      ∃ s, Steps reordering (.start [7] 2 3 3 .zero .zero greeting) s ∧
        s.sender.outcome? = some (.ok ()) ∧ s.file.stored = [7] := by
  have stale : reordering.Delivers .sender (reordering.send .sender greeting [0, 3, 0, 1, 7])
      [0, 4, 0, 0] (reordering.send .sender greeting [0, 3, 0, 1, 7]) :=
    ⟨Or.inr rfl, rfl⟩
  obtain ⟨s, steps, hok⟩ := steps_oneBlock stale ⟨Or.inl rfl, rfl⟩ ⟨Or.inl rfl, rfl⟩
  have hcount : blockCount [7] 2 ≤ 65535 := by decide
  have hsafe : s.Safe [7] 2 := reordering_safe (by decide) hcount steps
  exact ⟨by decide, hcount, s, steps, hok, (hsafe.sent hok).2.2.2⟩

end Tftp
