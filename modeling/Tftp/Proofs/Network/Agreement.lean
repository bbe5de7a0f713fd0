import Tftp.Proofs.Network
import Tftp.Proofs.RoundTrip

/-!
# What two sides agree on

Both sides of a system keep their own invariants. This module ties the two together, for any network
that keeps certain promises about the datagrams in it.

* `Counts` is how far the two sides are with a file, and `InStep` how far they may be apart.
* `Faithful` lists what is asked of a network: a condition on the counts and the state of the
  network that every datagram sent keeps, and which tells what may arrive.
* `Agreement` is the joint invariant.

Results:
* `Agreement.step`: each move of the system keeps the joint invariant.
* `agreement_of_steps`: it holds in every state that a transfer can reach.
* **`Agreement.safe`**: it makes the transfer safe.

The two invariants are `Sender.At` and `Receiver.At`, which hold whatever the network does. What
they leave open is only whether the blocks that arrive are the blocks that were sent: a number on
the wire stands for many blocks (specification §3), and it is for the network to see to it that no
old one is taken for a new one. The two networks that follow do so in two ways, one by order and one
by the length of the file.

Out of scope: the end of a transfer. An agreement holds at every moment, whether the sides ever come
to an end or not.
-/

namespace Tftp

/-! ## Counts -/

/-- How far the two sides are with a file, in chunks. -/
structure Counts where
  /-- What the sender knows to be acknowledged. -/
  confirmed : Nat
  /-- What the receiver has acknowledged. -/
  acknowledged : Nat
  /-- What the receiver has taken. -/
  taken : Nat

/-- How far the sides may be apart with a file of `count` blocks. -/
structure Counts.InStep (count : Nat) (c : Counts) : Prop where
  confirmed_le : c.confirmed ≤ c.acknowledged
  acknowledged_le : c.acknowledged ≤ c.taken
  taken_le_succ : c.taken ≤ c.confirmed + 1
  taken_le : c.taken ≤ count

/-- The counts of a sender and a receiver. -/
def countsOf (p : Sender.Progress) (k : Receiver.Intake) : Counts :=
  ⟨p.acknowledged, k.acknowledged.length, k.taken.length⟩

/-! ## Networks -/

/-- **What is asked of a network** that carries a file `F` in blocks of `B` bytes: condition `C`
holds at all times, and only the acknowledgement of a block that was acknowledged and the data of a
block that was sent can be taken for those that are due. -/
structure Network.Faithful (net : Network) (F : Bytes) (B : Nat)
    (C : Counts → net.State → Prop) : Prop where
  sent_chunk : ∀ {c n}, c.InStep (blockCount F B) → C c n → c.confirmed < blockCount F B →
    C c (net.send .sender n (chunkPacket F B c.confirmed).encode)
  sent_ack : ∀ {c n}, c.InStep (blockCount F B) → C c n →
    C { c with acknowledged := c.taken }
      (net.send .receiver n (Packet.ack (wireNumber c.taken)).encode)
  sent_refusal : ∀ {c n}, c.InStep (blockCount F B) → C c n →
    C c (net.send .receiver n Receiver.refusal.encode)
  moved : ∀ {c n n'}, C c n → net.Moves n n' → C c n'
  arrived : ∀ {c side n bytes n'}, C c n → net.Delivers side n bytes n' → C c n'
  confirms : ∀ {c n bytes n'}, c.InStep (blockCount F B) → C c n →
    net.Delivers .sender n bytes n' → c.confirmed < blockCount F B →
    Packet.decode bytes = .ok (.ack (wireNumber (c.confirmed + 1))) →
    c.confirmed < c.acknowledged ∧ C { c with confirmed := c.confirmed + 1 } n'
  takes : ∀ {c n bytes n' payload}, c.InStep (blockCount F B) → C c n →
    net.Delivers .receiver n bytes n' → c.acknowledged = c.taken →
    Packet.decode bytes = .ok (.data (wireNumber (c.taken + 1)) payload) →
    payload = chunk F B c.taken ∧ c.taken < blockCount F B ∧ c.taken ≤ c.confirmed ∧
      C { c with taken := c.taken + 1 } n'

/-! ## The joint invariant -/

/-- **The joint invariant** of a sender with progress `p` and a receiver with intake `k`. -/
structure Agreement {net : Network} (F : Bytes) (B : Nat) (C : Counts → net.State → Prop)
    (s : System net) (p : Sender.Progress) (k : Receiver.Intake) : Prop where
  sender : Sender.At F B 0 p s.source s.sender
  receiver : Receiver.At B k s.file s.receiver
  taken : k.taken = chunks F B k.taken.length
  inStep : (countsOf p k).InStep (blockCount F B)
  network : C (countsOf p k) s.network

variable {net : Network} {F : Bytes} {B : Nat} {C : Counts → net.State → Prop}
  {s s' : System net} {p : Sender.Progress} {k : Receiver.Intake}

/-- An event of the sender keeps the counts in step and the network faithful. -/
theorem Agreement.sender_event (h : Agreement F B C s p k) (faithful : net.Faithful F B C)
    {e : Event} {network : net.State} (due : p.acknowledged < blockCount F B)
    (handed : ∀ bytes, e.handed? = some bytes → bytes = (chunkPacket F B p.acknowledged).encode)
    (answers : net.Answers .sender s.network e network) :
    (countsOf (p.next F B e) k).InStep (blockCount F B) ∧
      C (countsOf (p.next F B e) k) network := by
  have hstep := h.inStep
  rcases p.next_acknowledged F B e with hsame | ⟨hnext, hack⟩
  -- Without the acknowledgement that is due, only the network may have changed.
  · have hcounts : countsOf (p.next F B e) k = countsOf p k := by rw [countsOf, hsame, countsOf]
    rw [hcounts]
    refine ⟨hstep, ?_⟩
    rcases answers.cases with ⟨bytes, rfl, rfl⟩ | ⟨room, datagram, rfl, arrives⟩ | ⟨rfl, -, -⟩
    · rw [handed bytes rfl]
      exact faithful.sent_chunk hstep h.network due
    · exact faithful.arrived h.network arrives
    · exact h.network
  · have hcounts : countsOf (p.next F B e) k
        = { countsOf p k with confirmed := (countsOf p k).confirmed + 1 } := by
      rw [countsOf, hnext, countsOf]
    obtain ⟨room, source, bytes, rfl, -, hdecode⟩ := Event.acknowledged?_eq_some_iff.mp hack
    obtain ⟨hlt, hcarried⟩ := faithful.confirms hstep h.network answers due hdecode
    rw [hcounts]
    refine ⟨⟨hlt, hstep.acknowledged_le, ?_, hstep.taken_le⟩, hcarried⟩
    exact hstep.taken_le_succ.trans (Nat.le_succ _)

/-- An event of the receiver keeps the counts in step, the network faithful, and what was taken
right. -/
theorem Agreement.receiver_event (h : Agreement F B C s p k) (faithful : net.Faithful F B C)
    {e : Event} {network : net.State} (waits : e.outcome? ≠ none → k.acknowledged = k.taken)
    (handed : ∀ bytes, e.handed? = some bytes →
      bytes = (Packet.ack (wireNumber k.taken.length)).encode ∨ bytes = Receiver.refusal.encode)
    (answers : net.Answers .receiver s.network e network) :
    (k.next B e).taken = chunks F B (k.next B e).taken.length ∧
      (countsOf p (k.next B e)).InStep (blockCount F B) ∧
      C (countsOf p (k.next B e)) network := by
  have hstep := h.inStep
  rcases answers.cases with
    ⟨bytes, rfl, rfl⟩ | ⟨room, datagram, rfl, arrives⟩ | ⟨rfl, unsent, unwaited⟩
  · rcases handed bytes rfl with rfl | rfl
    · rw [Receiver.Intake.next_sent, if_pos rfl]
      refine ⟨h.taken, ⟨?_, Nat.le_refl _, hstep.taken_le_succ, hstep.taken_le⟩,
        faithful.sent_ack hstep h.network⟩
      exact hstep.confirmed_le.trans hstep.acknowledged_le
    · rw [Receiver.Intake.next_sent, if_neg (Receiver.refusal_ne_ack _)]
      exact ⟨h.taken, hstep, faithful.sent_refusal hstep h.network⟩
  · have hack : k.acknowledged = k.taken := waits nofun
    rw [Receiver.Intake.next_receive]
    cases hpayload : Receiver.accepts? B k.taken.length (.ok datagram) with
    | none =>
      rw [Option.toList_none, List.append_nil]
      exact ⟨h.taken, hstep, faithful.arrived h.network arrives⟩
    | some payload =>
      obtain ⟨source, harrival⟩ := Receiver.accepts?_eq_some_iff.mp hpayload
      obtain ⟨bytes, hdatagram, -, hdecode⟩ := Arrival.ofAnswer_eq_packet_iff.mp harrival
      cases hdatagram
      obtain ⟨hchunk, hlt, hle, hcarried⟩ :=
        faithful.takes hstep h.network arrives (congrArg List.length hack) hdecode
      have hlength : (k.taken ++ [payload]).length = k.taken.length + 1 := by
        rw [List.length_append, List.length_singleton]
      rw [Option.toList_some, countsOf]
      dsimp only
      rw [hlength]
      refine ⟨?_, ⟨hstep.confirmed_le, ?_, Nat.succ_le_succ hle, hlt⟩, hcarried⟩
      · rw [chunks_succ, ← h.taken, hchunk]
        rfl
      · exact hstep.acknowledged_le.trans (Nat.le_succ _)
  · have htaken : (k.next B e).taken = k.taken := Receiver.Intake.next_taken unwaited
    have hacknowledged : (k.next B e).acknowledged = k.acknowledged := by
      by_contra hne
      exact unsent _ (Receiver.Intake.next_acknowledged hne)
    rw [countsOf, htaken, hacknowledged]
    exact ⟨h.taken, hstep, h.network⟩

/-- **Each move of a system keeps the joint invariant.** -/
theorem Agreement.step (h : Agreement F B C s p k) (faithful : net.Faithful F B C) (hB : 0 < B)
    (move : Step net s s') : ∃ p' k', Agreement F B C s' p' k' := by
  cases move with
  | sender asks reads answers =>
    obtain ⟨hstep, hcarried⟩ := h.sender_event faithful (h.sender.due_of_asks asks)
      (fun _ hbytes => (h.sender.handed asks hbytes).1) answers
    exact ⟨_, k, h.sender.next hB asks reads, h.receiver, h.taken, hstep, hcarried⟩
  | receiver asks writes answers =>
    obtain ⟨htaken, hstep, hcarried⟩ := h.receiver_event faithful
      (h.receiver.acknowledged_of_waits asks)
      (fun _ hbytes => (h.receiver.handed asks hbytes).imp_right And.left) answers
    exact ⟨p, _, h.sender, h.receiver.next asks writes, htaken, hstep, hcarried⟩
  | network moves =>
    exact ⟨p, k, h.sender, h.receiver, h.taken, h.inStep, faithful.moved h.network moves⟩

/-- **The joint invariant holds in every state that a transfer can reach.** -/
theorem agreement_of_steps {senderRetries receiverRetries : Nat}
    {senderTraffic receiverTraffic : Traffic} {n : net.State} (faithful : net.Faithful F B C)
    (hB : 0 < B) (start : C ⟨0, 0, 0⟩ n)
    (steps : Steps net
      (.start F B senderRetries receiverRetries senderTraffic receiverTraffic n) s) :
    ∃ p k, Agreement F B C s p k := by
  induction steps with
  | refl =>
    refine ⟨⟨0, false⟩, ⟨[], [], false⟩, Sender.at_sendFile (.new B senderRetries senderTraffic),
      Receiver.at_receiveFile B receiverRetries receiverTraffic, rfl, ?_, start⟩
    exact ⟨Nat.le_refl _, Nat.le_refl _, Nat.zero_le _, Nat.zero_le _⟩
  | tail _ move ih =>
    obtain ⟨p, k, h⟩ := ih
    exact h.step faithful hB move

/-! ## What it says -/

/-- At most the file is stored. -/
theorem Agreement.stored_prefix (h : Agreement F B C s p k) : s.file.stored <+: F := by
  refine h.receiver.stored_prefix.trans ?_
  rw [h.taken, flatten_chunks]
  exact List.take_prefix _ _

/-- The receiver has stored and counted the whole file when it returns normally. -/
theorem Agreement.received (h : Agreement F B C s p k) (hB : 0 < B)
    (ok : s.receiver.outcome? = some (.ok ())) :
    s.file.stored = F ∧ s.receiver.transferred = F.length ∧
      s.receiver.accepted = some (wireNumber (blockCount F B)) := by
  obtain ⟨hs, -, earlier, payload, htaken, -, hshort⟩ := h.receiver.ended ok
  have hlength : k.taken.length = earlier.length + 1 := by
    rw [htaken, List.length_append, List.length_singleton]
  have hle : earlier.length < blockCount F B := by
    rw [← Nat.succ_le_iff, Nat.succ_eq_add_one, ← hlength]
    exact h.inStep.taken_le
  have hpayload : payload = chunk F B earlier.length := by
    have hsplit := h.taken
    rw [hlength, chunks_succ, htaken] at hsplit
    exact List.singleton_inj.mp (List.append_inj_right' hsplit rfl)
  have hcount : k.taken.length = blockCount F B := by
    rw [hlength]
    rw [hpayload] at hshort
    exact (length_chunk_lt_iff hB hle).mp hshort
  have hall : k.taken.flatten = F := by rw [h.taken, hcount, flatten_chunks_blockCount hB]
  refine ⟨by rw [hs.file, hall], by rw [hs.counted.bytes, hall], ?_⟩
  have hne : blockCount F B ≠ 0 := Nat.succ_ne_zero _
  rw [hs.counted.number, hcount, Receiver.lastNumber, if_neg hne]

/-- The receiver has returned normally when the sender does. -/
theorem Agreement.sent (h : Agreement F B C s p k) (hB : 0 < B)
    (ok : s.sender.outcome? = some (.ok ())) : s.receiver.outcome? = some (.ok ()) := by
  have hconfirmed : p.acknowledged ≤ k.acknowledged.length := h.inStep.confirmed_le
  have hacknowledged : k.acknowledged.length ≤ k.taken.length := h.inStep.acknowledged_le
  rw [h.sender.outcome?_eq_ok_iff.mp ok] at hconfirmed
  have hcount : k.taken.length = F.length / B + 1 :=
    Nat.le_antisymm h.inStep.taken_le (hconfirmed.trans hacknowledged)
  have hsame : k.acknowledged = k.taken :=
    h.receiver.acknowledged_prefix.eq_of_length_le (hcount.trans_le hconfirmed)
  have htaken := h.taken
  rw [hcount, chunks_succ] at htaken
  by_contra hunder
  have hfull := h.receiver.full hunder
  rw [hsame, htaken, Receiver.full_snoc] at hfull
  exact Nat.not_lt_of_le hfull.2 ((length_chunk_lt_iff hB (Nat.lt_succ_self _)).mpr rfl)

/-- The sender counts at most what the receiver counts, and that is stored. -/
theorem Agreement.transferred_le (h : Agreement F B C s p k) :
    s.sender.transferred ≤ s.receiver.transferred ∧
      s.receiver.transferred ≤ s.file.stored.length := by
  refine ⟨?_, h.receiver.transferred_le⟩
  have hconfirmed : p.acknowledged ≤ k.acknowledged.length := h.inStep.confirmed_le
  have hconfirmed_taken : chunks F B p.acknowledged <+: k.taken := by
    rw [h.taken]
    exact chunks_prefix (hconfirmed.trans h.inStep.acknowledged_le)
  have hprefix : chunks F B p.acknowledged <+: k.acknowledged :=
    List.prefix_of_prefix_length_le hconfirmed_taken h.receiver.acknowledged_prefix
      (by rw [length_chunks]; exact hconfirmed)
  rw [h.sender.transferred, Nat.zero_add]
  exact hprefix.flatten.length_le.trans h.receiver.acknowledged_le

/-- **Where the sides agree, the transfer is safe.** -/
theorem Agreement.safe (h : Agreement F B C s p k) (hB : 0 < B) : s.Safe F B := by
  refine ⟨h.stored_prefix, fun ok => (h.received hB ok).1, fun ok => ?_, h.transferred_le.1,
    h.transferred_le.2⟩
  have hok : s.receiver.outcome? = some (.ok ()) := h.sent hB ok
  obtain ⟨hstored, hcounted, haccepted⟩ := h.received hB hok
  exact ⟨hok, haccepted, hcounted, hstored⟩

end Tftp
