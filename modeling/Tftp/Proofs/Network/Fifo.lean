import Tftp.Proofs.Network.Agreement

/-!
# Queues that lose and repeat

A network of two queues, one to each side. It hands datagrams over in the order in which they were
sent, but it may lose any of them, or put a second copy right behind the first, at any time.

Block numbers may wrap any number of times here: of the data in the queue to the receiver, what the
receiver took last comes before what it takes next, and nothing else is there. The acknowledgements
to the sender are ordered in the same way.

Results:
* `Zoned.altered`: losses and copies do not change what comes before what.
* `fifo_faithful`: the queues keep what is asked of a network.
* **`fifo_safe`**: a transfer over them is safe at any moment.

The specification promises that a receiver never accepts a block out of order and that a sender
never goes past a block which is not acknowledged (§5), over a transport of which it assumes
nothing. With numbers that wrap (§3, §8) this cannot hold of any transport whatever; queues that
lose and repeat are the largest kind of network for which it does so at any length of file.

Out of scope: datagrams that overtake each other, for which see `Tftp.Proofs.Network.Reordering`,
and damaged ones, which a socket does not deliver.
-/

namespace Tftp

/-! ## The network -/

/-- `Altered q q'`: a datagram of queue `q` is lost, or copied in place, which leaves `q'`. -/
inductive Altered : List Bytes → List Bytes → Prop where
  | lost (d : Bytes) (q : List Bytes) : Altered (d :: q) q
  | copied (d : Bytes) (q : List Bytes) : Altered (d :: q) (d :: d :: q)
  | behind (d : Bytes) {q q' : List Bytes} (rest : Altered q q') : Altered (d :: q) (d :: q')

/-- The datagrams on their way to each side. -/
structure Queues where
  toSender : List Bytes
  toReceiver : List Bytes

/-- The network of two queues. -/
def fifo : Network where
  State := Queues
  send
    | .sender, n, bytes => { n with toReceiver := n.toReceiver ++ [bytes] }
    | .receiver, n, bytes => { n with toSender := n.toSender ++ [bytes] }
  Delivers
    | .sender, n, bytes, n' => n = { n' with toSender := bytes :: n'.toSender }
    | .receiver, n, bytes, n' => n = { n' with toReceiver := bytes :: n'.toReceiver }
  Moves n n' :=
    Altered n.toSender n'.toSender ∧ n'.toReceiver = n.toReceiver ∨
      Altered n.toReceiver n'.toReceiver ∧ n'.toSender = n.toSender

/-- The queues after a handshake that left `count` acknowledgements of block 0 behind. -/
def handshake (count : Nat) : Queues := ⟨List.replicate count (Packet.ack 0).encode, []⟩

/-! ## Zones -/

/-- `Zoned old new q`: the datagrams of `q` are first old ones and then new ones. -/
inductive Zoned (old new : Bytes → Prop) : List Bytes → Prop where
  | fresh {q : List Bytes} (all : ∀ b ∈ q, new b) : Zoned old new q
  | stale {b : Bytes} {q : List Bytes} (first : old b) (rest : Zoned old new q) :
      Zoned old new (b :: q)

section Zoned

variable {old new old' new' : Bytes → Prop} {q q' : List Bytes} {b : Bytes}

theorem zoned_of_old (all : ∀ b ∈ q, old b) : Zoned old new q := by
  induction q with
  | nil => exact .fresh fun _ hb => absurd hb List.not_mem_nil
  | cons b q ih =>
    exact .stale (all b List.mem_cons_self) (ih fun c hc => all c (List.mem_cons_of_mem b hc))

theorem Zoned.mono (h : Zoned old new q) (hold : ∀ b, old b → old' b) (hnew : ∀ b, new b → new' b) :
    Zoned old' new' q := by
  induction h with
  | fresh all => exact .fresh fun b hb => hnew b (all b hb)
  | stale first _ ih => exact .stale (hold _ first) ih

theorem Zoned.snoc_new (h : Zoned old new q) (hb : new b) : Zoned old new (q ++ [b]) := by
  induction h with
  | fresh all => exact .fresh (List.forall_mem_append.mpr ⟨all, List.forall_mem_singleton.mpr hb⟩)
  | stale first _ ih => exact .stale first ih

/-- As long as nothing can be new, an old datagram may follow. -/
theorem Zoned.snoc_old (h : Zoned old new q) (closed : ∀ b, ¬ new b) (hb : old b) :
    Zoned old new (q ++ [b]) := by
  induction h with
  | fresh all =>
    rw [List.eq_nil_iff_forall_not_mem.mpr fun c hc => closed c (all c hc)]
    exact zoned_of_old (List.forall_mem_singleton.mpr hb)
  | stale first _ ih => exact .stale first ih

theorem Zoned.tail (h : Zoned old new (b :: q)) : Zoned old new q := by
  cases h with
  | fresh all => exact .fresh fun c hc => all c (List.mem_cons_of_mem b hc)
  | stale _ rest => exact rest

/-- Behind a new datagram, all are new. -/
theorem Zoned.head (h : Zoned old new (b :: q)) : old b ∨ new b ∧ ∀ c ∈ q, new c := by
  cases h with
  | fresh all => exact Or.inr (List.forall_mem_cons.mp all)
  | stale first _ => exact Or.inl first

theorem Altered.subset (h : Altered q q') : q' ⊆ q := by
  induction h with
  | lost d q => exact List.subset_cons_self d q
  | copied d q => exact List.cons_subset.mpr ⟨List.mem_cons_self, List.Subset.refl _⟩
  | behind d _ ih => exact List.cons_subset_cons d ih

/-- Losses and copies do not change what comes before what. -/
theorem Zoned.altered (h : Zoned old new q) (altered : Altered q q') : Zoned old new q' := by
  induction altered with
  | lost => exact h.tail
  | copied d q =>
    cases h with
    | fresh all => exact .fresh (List.forall_mem_cons.mpr ⟨all d List.mem_cons_self, all⟩)
    | stale first rest => exact .stale first (.stale first rest)
  | behind d rest ih =>
    cases h with
    | fresh all => exact .fresh fun b hb => all b ((Altered.behind d rest).subset hb)
    | stale first later => exact .stale first (ih later)

end Zoned

/-! ## What is in the queues -/

/-- The data of the block that the receiver took last. -/
def RepeatedChunk (F : Bytes) (B : Nat) (c : Counts) (b : Bytes) : Prop :=
  ∃ n, n + 1 = c.taken ∧ b = (chunkPacket F B n).encode

/-- The data of the block that the receiver takes next, once it is under way. -/
def DueChunk (F : Bytes) (B : Nat) (c : Counts) (b : Bytes) : Prop :=
  c.taken ≤ c.confirmed ∧ c.taken < blockCount F B ∧ b = (chunkPacket F B c.taken).encode

/-- A reply to the sender that names block `n`, or reports that a block cannot be stored. -/
def Reply (n : Nat) (b : Bytes) : Prop :=
  b = (Packet.ack (wireNumber n)).encode ∨ b = Receiver.refusal.encode

/-- A reply with the acknowledgement that the sender waits for, once it is under way. -/
def DueReply (c : Counts) (b : Bytes) : Prop :=
  c.confirmed < c.acknowledged ∧ Reply (c.confirmed + 1) b

/-- What each queue holds first and what it holds then. -/
structure Queued (F : Bytes) (B : Nat) (c : Counts) (n : Queues) : Prop where
  toReceiver : Zoned (RepeatedChunk F B c) (DueChunk F B c) n.toReceiver
  toSender : Zoned (Reply c.confirmed) (DueReply c) n.toSender

variable {F : Bytes} {B : Nat} {c : Counts} {n n' : Queues} {b : Bytes}

theorem queued_handshake (F : Bytes) (B count : Nat) : Queued F B ⟨0, 0, 0⟩ (handshake count) := by
  refine ⟨zoned_of_old fun b hb => absurd hb List.not_mem_nil, zoned_of_old fun b hb => ?_⟩
  exact Or.inl (List.eq_of_mem_replicate hb)

/-- The sender repeats the block that the receiver took last, or sends the next one. -/
theorem Queued.sent_chunk (h : Queued F B c n) (step : c.InStep (blockCount F B))
    (due : c.confirmed < blockCount F B) :
    Queued F B c (fifo.send .sender n (chunkPacket F B c.confirmed).encode) := by
  have hle := step.confirmed_le.trans step.acknowledged_le
  refine ⟨?_, h.toSender⟩
  by_cases hnext : c.taken ≤ c.confirmed
  -- The receiver waits for this block, or it has taken it and its acknowledgement is on the way.
  · have htaken : c.taken = c.confirmed := Nat.le_antisymm hnext hle
    exact h.toReceiver.snoc_new ⟨hnext, htaken ▸ due, by rw [htaken]⟩
  · have htaken : c.confirmed + 1 = c.taken :=
      Nat.le_antisymm (Nat.lt_of_not_le hnext) step.taken_le_succ
    exact h.toReceiver.snoc_old (fun b hb => hnext hb.1) ⟨c.confirmed, htaken, rfl⟩

/-- A reply that names the block acknowledged last comes behind all others. -/
theorem Queued.sent_reply (h : Queued F B c n) (step : c.InStep (blockCount F B))
    (reply : Reply c.acknowledged b) : Queued F B c (fifo.send .receiver n b) := by
  refine ⟨h.toReceiver, ?_⟩
  by_cases hnext : c.confirmed < c.acknowledged
  · have hack : c.acknowledged = c.confirmed + 1 :=
      Nat.le_antisymm (step.acknowledged_le.trans step.taken_le_succ) hnext
    exact h.toSender.snoc_new ⟨hnext, hack ▸ reply⟩
  · have hack : c.acknowledged = c.confirmed :=
      Nat.le_antisymm (Nat.le_of_not_lt hnext) step.confirmed_le
    exact h.toSender.snoc_old (fun b hb => hnext hb.1) (hack ▸ reply)

/-- What was taken may be acknowledged. -/
theorem Queued.acknowledge (h : Queued F B c n) (step : c.InStep (blockCount F B)) :
    Queued F B { c with acknowledged := c.taken } n :=
  ⟨h.toReceiver, h.toSender.mono (fun _ hb => hb)
    fun _ hb => ⟨hb.1.trans_le step.acknowledged_le, hb.2⟩⟩

theorem Queued.moved (h : Queued F B c n) (moves : fifo.Moves n n') : Queued F B c n' := by
  rcases moves with ⟨altered, hsame⟩ | ⟨altered, hsame⟩
  · exact ⟨hsame ▸ h.toReceiver, h.toSender.altered altered⟩
  · exact ⟨h.toReceiver.altered altered, hsame ▸ h.toSender⟩

theorem Queued.arrived (h : Queued F B c n) {side : Side} (arrives : fifo.Delivers side n b n') :
    Queued F B c n' := by
  cases side with
  | sender =>
    obtain rfl : n = _ := arrives
    exact ⟨h.toReceiver, h.toSender.tail⟩
  | receiver =>
    obtain rfl : n = _ := arrives
    exact ⟨h.toReceiver.tail, h.toSender⟩

/-- A reply that acknowledges block `m` names it. -/
theorem Reply.eq_wireNumber {m : Nat} {block : UInt16} (h : Reply m b)
    (decodes : Packet.decode b = .ok (.ack block)) : block = wireNumber m := by
  rcases h with rfl | rfl
  · rw [Packet.decode_encode_ack] at decodes
    cases decodes
    rfl
  · rw [Receiver.decode_refusal] at decodes
    cases decodes

/-- The acknowledgement that is due comes after the stale ones. -/
theorem Queued.confirms (h : Queued F B c n) (arrives : fifo.Delivers .sender n b n')
    (decodes : Packet.decode b = .ok (.ack (wireNumber (c.confirmed + 1)))) :
    c.confirmed < c.acknowledged ∧ Queued F B { c with confirmed := c.confirmed + 1 } n' := by
  obtain rfl : n = _ := arrives
  rcases h.toSender.head with hold | ⟨hnew, hrest⟩
  · exact absurd (hold.eq_wireNumber decodes).symm (wireNumber_ne_succ _)
  · refine ⟨hnew.1, ?_, zoned_of_old fun b hb => (hrest b hb).2⟩
    exact h.toReceiver.mono (fun _ hb => hb) fun _ hb => ⟨hb.1.trans (Nat.le_succ _), hb.2⟩

/-- The data that is due comes after the copies of the block taken last. -/
theorem Queued.takes (h : Queued F B c n) (arrives : fifo.Delivers .receiver n b n')
    {payload : Bytes}
    (decodes : Packet.decode b = .ok (.data (wireNumber (c.taken + 1)) payload)) :
    payload = chunk F B c.taken ∧ c.taken < blockCount F B ∧ c.taken ≤ c.confirmed ∧
      Queued F B { c with taken := c.taken + 1 } n' := by
  obtain rfl : n = _ := arrives
  -- What now stands behind the head repeats the block that has just been taken.
  rcases h.toReceiver.head with ⟨m, hm, rfl⟩ | ⟨⟨hle, hlt, rfl⟩, hrest⟩
  · rw [chunkPacket, Packet.decode_encode_data] at decodes
    injection decodes with hdata
    injection hdata with hblock
    rw [hm] at hblock
    exact absurd hblock (wireNumber_ne_succ _)
  · rw [chunkPacket, Packet.decode_encode_data] at decodes
    cases decodes
    refine ⟨rfl, hlt, hle, zoned_of_old fun b hb => ?_, h.toSender⟩
    exact ⟨c.taken, rfl, (hrest b hb).2.2⟩

/-- **The queues keep what is asked of a network.** -/
theorem fifo_faithful (F : Bytes) (B : Nat) : fifo.Faithful F B (Queued F B) where
  sent_chunk step h due := h.sent_chunk step due
  sent_ack {c _} step h := by
    have hstep : Counts.InStep (blockCount F B) { c with acknowledged := c.taken } :=
      ⟨step.confirmed_le.trans step.acknowledged_le, Nat.le_refl _, step.taken_le_succ,
        step.taken_le⟩
    exact (h.acknowledge step).sent_reply hstep (Or.inl rfl)
  sent_refusal step h := h.sent_reply step (Or.inr rfl)
  moved h moves := h.moved moves
  arrived h arrives := h.arrived arrives
  confirms _ h arrives _ decodes := h.confirms arrives decodes
  takes _ h arrives _ decodes := h.takes arrives decodes

/-! ## Transfers -/

/-- **A transfer over two queues is safe at any moment**, whatever is lost or repeated, whichever
calls fail, and however often the block numbers wrap. -/
theorem fifo_safe {senderRetries receiverRetries : Nat} {senderTraffic receiverTraffic : Traffic}
    {count : Nat} {s : System fifo} (hB : 0 < B)
    (steps : Steps fifo (.start F B senderRetries receiverRetries senderTraffic receiverTraffic
      (handshake count)) s) : s.Safe F B := by
  obtain ⟨p, k, h⟩ := agreement_of_steps (fifo_faithful F B) hB (queued_handshake F B count) steps
  exact h.safe hB

/-- A file of one byte is stored when its sender returns, with an acknowledgement of block 0 still
in the queue at first. -/
theorem fifo_safe_oneBlock :
    0 < 2 ∧ ∃ s, Steps fifo (.start [7] 2 3 3 .zero .zero (handshake 1)) s ∧
      s.sender.outcome? = some (.ok ()) ∧ s.file.stored = [7] := by
  have stale : fifo.Delivers .sender (fifo.send .sender (handshake 1) [0, 3, 0, 1, 7]) [0, 4, 0, 0]
      ⟨[], [[0, 3, 0, 1, 7]]⟩ := rfl
  have arrives : fifo.Delivers .receiver ⟨[], [[0, 3, 0, 1, 7], [0, 3, 0, 1, 7]]⟩ [0, 3, 0, 1, 7]
      ⟨[], [[0, 3, 0, 1, 7]]⟩ := rfl
  have returns : fifo.Delivers .sender ⟨[[0, 4, 0, 1]], [[0, 3, 0, 1, 7]]⟩ [0, 4, 0, 1]
      ⟨[], [[0, 3, 0, 1, 7]]⟩ := rfl
  obtain ⟨s, steps, hok⟩ := steps_oneBlock stale arrives returns
  have hsafe : s.Safe [7] 2 := fifo_safe (by decide) steps
  exact ⟨by decide, s, steps, hok, (hsafe.sent hok).2.2.2⟩

end Tftp
