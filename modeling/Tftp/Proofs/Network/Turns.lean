import Tftp.Proofs.Network.Lossy
import Tftp.Proofs.Receiving.Ledger

/-!
# The turns of a sender and a receiver

What each side of a prompt transfer does next, as long as it meets nothing but the blocks and
acknowledgements of the file.

* `Sends` is a sender at some block. `Waits`, `Stores` and `Repeats` are a receiver that waits for a
  block, has just taken one, or has met the last one again. The first three count the calls that the
  side makes before it waits or answers.

Results:
* `Sends.leads`, `Sends.confirmed` and `Sends.lapses`: what a sender does on its own, when the
  acknowledgement arrives, and when its deadline passes.
* `Waits.leads`, `Waits.takes`, `Waits.repeats` and `Waits.lapses`: the same for a receiver that
  waits.
* `Stores.leads`, `Stores.acknowledges` and `Repeats.leads`: how a receiver comes to its answer.

The turns are the loops of the specification (§4.5 and §4.6) as far as they go well. Each lemma is
about one side alone and its next call; what the network has to do with it comes in where the sides
are put together, in `Tftp.Proofs.Network.Recovery`.

Out of scope: turns that end in a failure, other than that of a sender which has no attempt left.
-/

namespace Tftp

variable {F : Bytes} {B m k n a j c : Nat} {s t : System (lossy k)}

/-! ## Datagrams -/

/-- An acknowledgement fits where a sender waits. -/
theorem arrival_ack (source : Address) (block : UInt16) :
    Arrival.ofAnswer datagramRoom (.ok ⟨source, (Packet.ack block).encode⟩)
      = .packet source (.ack block) := by
  refine Arrival.ofAnswer_eq_packet_iff.mpr ⟨_, rfl, ?_, Packet.decode_encode_ack block⟩
  show 4 ≤ datagramRoom
  decide

/-- A block fits where a receiver waits for blocks of its size. -/
theorem arrival_chunk {size : Nat} (hsize : size = B) (source : Address) (F : Bytes) (n : Nat) :
    Arrival.ofAnswer (headerLength + size) (.ok ⟨source, (chunkPacket F B n).encode⟩)
      = .packet source (.data (wireNumber (n + 1)) (chunk F B n)) := by
  have hdecode := Packet.decode_encode_data (wireNumber (n + 1)) (chunk F B n)
  refine Arrival.ofAnswer_eq_packet_iff.mpr ⟨_, rfl, ?_, hdecode⟩
  have hlength : (chunk F B n).length ≤ B := List.length_take_le B _
  rw [chunkPacket, length_of_decode_data hdecode, headerLength]
  omega

/-! ## The sender -/

/-- The phases of a sender at block `n + 1` after `a` attempts that missed, by the number of calls
before it waits. -/
inductive SendPhase (F : Bytes) (B n a : Nat) (s : System (lossy k)) : Nat → Prop where
  | reading (fresh : a = 0) (phase : s.sender.phase = .reading (wireNumber (n + 1)))
      (rest : s.source = F.drop (n * B)) : SendPhase F B n a s 3
  | polling (phase : s.sender.phase = .polling ⟨wireNumber (n + 1), chunk F B n, a⟩)
      (rest : s.source = F.drop ((n + 1) * B)) : SendPhase F B n a s 2
  | sending (phase : s.sender.phase = .sending ⟨wireNumber (n + 1), chunk F B n, a⟩)
      (rest : s.source = F.drop ((n + 1) * B)) : SendPhase F B n a s 1
  | awaiting (phase : s.sender.phase = .awaiting ⟨wireNumber (n + 1), chunk F B n, a⟩)
      (rest : s.source = F.drop ((n + 1) * B)) : SendPhase F B n a s 0

/-- The sender is at block `n + 1`, `a` attempts at it have missed, and it makes `c` calls before it
waits. -/
structure Sends (F : Bytes) (B m n a c : Nat) (s : System (lossy k)) : Prop where
  blockSize : s.sender.blockSize = B
  maxRetries : s.sender.maxRetries = m
  due : n < blockCount F B
  phase : SendPhase F B n a s c

/-- The sender makes one more call before it waits, and the last of them sends the block. -/
theorem Sends.leads (h : Sends F B m n a (c + 1) s) :
    Leads (SenderMoves (lossy k)) s fun t => Sends F B m n a c t ∧
      t.channel = if c = 0 then s.channel.post (chunkPacket F B n).encode else s.channel := by
  obtain ⟨hsize, hmax, hdue, hphase⟩ := h
  cases hphase with
  | reading fresh phase rest =>
    refine leads_sender (.reading phase) ⟨.ok _, _, _, trivial, ⟨rfl, rfl⟩, rfl⟩ ?_
    rintro (_ | payload) source network well reads answers
    · exact well.elim
    obtain ⟨rfl, rfl⟩ := reads
    obtain rfl := answers
    refine ⟨⟨hsize, hmax, hdue, .polling ?_ ?_⟩, rfl⟩
    · show Sender.Phase.polling _ = _
      rw [rest, hsize, fresh]
      rfl
    · show s.source.drop _ = _
      rw [rest, hsize, drop_succ_mul]
  | polling phase rest =>
    refine leads_sender (.polling phase) ⟨false, _, _, rfl, rfl, rfl⟩ ?_
    rintro cancelled source network rfl rfl rfl
    exact ⟨⟨hsize, hmax, hdue, .sending rfl rest⟩, rfl⟩
  | sending phase rest =>
    refine leads_sender (.sending phase) ⟨.ok (), _, _, trivial, rfl, rfl⟩ ?_
    rintro (_ | _) source network well rfl answers
    · exact well.elim
    obtain rfl := answers
    exact ⟨⟨hsize, hmax, hdue, .awaiting rfl rest⟩, rfl⟩

theorem Sends.awaiting (h : Sends F B m n a 0 s) :
    s.sender.phase = .awaiting ⟨wireNumber (n + 1), chunk F B n, a⟩ ∧
      s.source = F.drop ((n + 1) * B) := by
  cases h.phase with
  | awaiting phase rest => exact ⟨phase, rest⟩

theorem Sends.underway (h : Sends F B m n a 0 s) : s.sender.outcome? = none := by
  rw [Sender.outcome?, h.awaiting.1]

theorem Sends.congr (h : Sends F B m n a c s) (hsender : t.sender = s.sender)
    (hsource : t.source = s.source) : Sends F B m n a c t := by
  obtain ⟨hsize, hmax, hdue, hphase⟩ := h
  rw [← hsender] at hsize hmax
  refine ⟨hsize, hmax, hdue, ?_⟩
  cases hphase with
  | reading fresh phase rest => exact .reading fresh (hsender ▸ phase) (hsource ▸ rest)
  | polling phase rest => exact .polling (hsender ▸ phase) (hsource ▸ rest)
  | sending phase rest => exact .sending (hsender ▸ phase) (hsource ▸ rest)
  | awaiting phase rest => exact .awaiting (hsender ▸ phase) (hsource ▸ rest)

/-- The acknowledgement lets the sender go on to the next block, if there is one. -/
theorem Sends.confirmed (hB : 0 < B) (h : Sends F B m n a 0 s)
    (arrives : s.channel.toQueues = ⟨[(Packet.ack (wireNumber (n + 1))).encode], []⟩) :
    Leads (SenderMoves (lossy k)) s fun t => t.channel = ⟨⟨[], []⟩, s.channel.replies⟩ ∧
      (n + 1 < blockCount F B → Sends F B m (n + 1) 0 3 t) ∧
      (n + 1 = blockCount F B → t.sender.outcome? = some (.ok ())) := by
  obtain ⟨phase, rest⟩ := h.awaiting
  have hlast : (chunk F B n).length < s.sender.blockSize ↔ n + 1 = blockCount F B := by
    rw [h.blockSize]
    exact length_chunk_lt_iff hB h.due
  refine leads_toSender phase arrives fun source network hnetwork => ?_
  unfold Sender.afterAnswer Sender.advance
  simp only [arrival_ack, if_true]
  by_cases hshort : (chunk F B n).length < s.sender.blockSize
  · rw [if_pos hshort]
    exact ⟨hnetwork, fun hlt => absurd (hlast.mp hshort) hlt.ne, fun _ => rfl⟩
  · rw [if_neg hshort]
    refine ⟨hnetwork, fun hlt => ?_, fun hend => absurd (hlast.mpr hend) hshort⟩
    exact ⟨h.blockSize, h.maxRetries, hlt, .reading rfl (by rw [nextBlock_wireNumber]) rest⟩

/-- When its deadline passes, the sender repeats the block or gives up. -/
theorem Sends.lapses (h : Sends F B m n a 0 s) :
    Leads (SenderLapses (lossy k)) s fun t =>
      t.receiver = s.receiver ∧ t.channel = s.channel ∧
        (a + 1 < m → Sends F B m n (a + 1) 2 t) ∧
        (m ≤ a + 1 → t.sender.outcome? = some (.error (.retriesExhausted m))) := by
  obtain ⟨phase, rest⟩ := h.awaiting
  obtain ⟨hsize, rfl, hdue, -⟩ := h
  have asks := (Sender.Asks.awaiting phase).ask?
  refine ⟨⟨_, .intro asks⟩, ?_⟩
  rintro _ ⟨waits⟩
  rw [asks] at waits
  cases waits
  have hmiss (attempt : Sender.Attempt) :
      s.sender.afterAnswer attempt (.error .wouldBlock) = s.sender.miss attempt := rfl
  rw [hmiss, Sender.miss]
  by_cases hle : s.sender.maxRetries ≤ a + 1
  · rw [if_pos hle]
    exact ⟨rfl, rfl, fun hlt => absurd hle (Nat.not_le_of_lt hlt), fun _ => rfl⟩
  · rw [if_neg hle]
    refine ⟨rfl, rfl, fun _ => ?_, fun hend => absurd hend hle⟩
    exact ⟨hsize, rfl, hdue, .polling rfl rest⟩

/-! ## The receiver -/

/-- The phases of a receiver after `j` waits that missed, by the number of calls before it waits. -/
inductive WaitPhase (j : Nat) (s : System (lossy k)) : Nat → Prop where
  | polling (phase : s.receiver.phase = .polling j) : WaitPhase j s 1
  | awaiting (phase : s.receiver.phase = .awaiting j) : WaitPhase j s 0

/-- The receiver has taken `n` blocks, `j` waits in a row have missed, and it makes `c` calls before
it waits. -/
structure Waits (B m n j c : Nat) (s : System (lossy k)) : Prop where
  blockSize : s.receiver.blockSize = B
  maxRetries : s.receiver.maxRetries = m
  accepted : s.receiver.accepted = Receiver.lastNumber n
  phase : WaitPhase j s c

/-- The phases of a receiver that stores block `n + 1`, by the number of calls before it
acknowledges the block. -/
inductive StorePhase (F : Bytes) (B n : Nat) (s : System (lossy k)) : Nat → Prop where
  | writing (phase : s.receiver.phase = .writing (wireNumber (n + 1)) (chunk F B n)) :
      StorePhase F B n s 2
  | flushing (phase : s.receiver.phase = .flushing (wireNumber (n + 1)) (chunk F B n)) :
      StorePhase F B n s 1
  | acknowledging (accepted : s.receiver.accepted = Receiver.lastNumber (n + 1))
      (phase : s.receiver.phase =
        .acknowledging (wireNumber (n + 1)) (decide ((chunk F B n).length < B))) :
      StorePhase F B n s 0

/-- The receiver has taken block `n + 1` and makes `c` calls before it acknowledges the block. -/
structure Stores (F : Bytes) (B m n c : Nat) (s : System (lossy k)) : Prop where
  blockSize : s.receiver.blockSize = B
  maxRetries : s.receiver.maxRetries = m
  phase : StorePhase F B n s c

/-- The receiver, which has taken block `n + 1` already, is about to acknowledge it again. -/
structure Repeats (B m n j : Nat) (s : System (lossy k)) : Prop where
  blockSize : s.receiver.blockSize = B
  maxRetries : s.receiver.maxRetries = m
  accepted : s.receiver.accepted = Receiver.lastNumber (n + 1)
  phase : s.receiver.phase = .repeating (wireNumber (n + 1)) j

theorem Waits.awaiting (h : Waits B m n j 0 s) : s.receiver.phase = .awaiting j := by
  cases h.phase with
  | awaiting phase => exact phase

theorem Waits.congr (h : Waits B m n j c s) (hreceiver : t.receiver = s.receiver) :
    Waits B m n j c t := by
  obtain ⟨hsize, hmax, haccepted, hphase⟩ := h
  rw [← hreceiver] at hsize hmax haccepted
  refine ⟨hsize, hmax, haccepted, ?_⟩
  cases hphase with
  | polling phase => exact .polling (hreceiver ▸ phase)
  | awaiting phase => exact .awaiting (hreceiver ▸ phase)

/-- The receiver makes one more call before it waits. -/
theorem Waits.leads (h : Waits B m n j (c + 1) s) :
    Leads (ReceiverMoves (lossy k)) s fun t => Waits B m n j c t ∧ t.channel = s.channel := by
  obtain ⟨hsize, hmax, haccepted, hphase⟩ := h
  cases hphase with
  | polling phase =>
    refine leads_receiver (.polling phase) ⟨false, _, _, rfl, rfl, rfl⟩ ?_
    rintro cancelled file network rfl rfl rfl
    exact ⟨⟨hsize, hmax, haccepted, .awaiting rfl⟩, rfl⟩

/-- The block that is due is stored, unless it is empty. -/
theorem Waits.takes (h : Waits B m n j 0 s)
    (arrives : s.channel.toQueues = ⟨[], [(chunkPacket F B n).encode]⟩) :
    Leads (ReceiverMoves (lossy k)) s fun t => t.channel = ⟨⟨[], []⟩, s.channel.replies⟩ ∧
      ∃ c ≤ 2, Stores F B m n c t := by
  refine leads_toReceiver h.awaiting arrives fun source network hnetwork => ⟨hnetwork, ?_⟩
  have hexpected := Receiver.expected_of_lastNumber h.accepted
  obtain ⟨rfl, hmax, haccepted, -⟩ := h
  have hdue (traffic : Traffic) :
      Receiver.expected { s.receiver with traffic } = wireNumber (n + 1) := hexpected
  unfold Receiver.afterAnswer
  simp only [arrival_chunk rfl, hdue, if_true, Receiver.store]
  by_cases hempty : chunk F s.receiver.blockSize n = []
  · rw [if_pos hempty]
    exact ⟨0, by omega, rfl, hmax, .acknowledging rfl rfl⟩
  · rw [if_neg hempty]
    exact ⟨2, Nat.le_refl 2, rfl, hmax, .writing rfl⟩

/-- The block taken last is acknowledged again. -/
theorem Waits.repeats (h : Waits B m (n + 1) j 0 s)
    (arrives : s.channel.toQueues = ⟨[], [(chunkPacket F B n).encode]⟩) :
    Leads (ReceiverMoves (lossy k)) s fun t => t.channel = ⟨⟨[], []⟩, s.channel.replies⟩ ∧
      Repeats B m n j t := by
  refine leads_toReceiver h.awaiting arrives fun source network hnetwork => ⟨hnetwork, ?_⟩
  have hexpected := Receiver.expected_of_lastNumber h.accepted
  obtain ⟨rfl, hmax, haccepted, -⟩ := h
  have hother (traffic : Traffic) :
      wireNumber (n + 1) ≠ Receiver.expected { s.receiver with traffic } := by
    intro hsame
    exact wireNumber_ne_succ (n + 1) (hsame.trans hexpected)
  unfold Receiver.afterAnswer
  simp only [arrival_chunk rfl, hother, if_false]
  have hlast : s.receiver.accepted = some (wireNumber (n + 1)) := by
    rw [haccepted, Receiver.lastNumber, if_neg (Nat.succ_ne_zero n)]
  rw [if_pos hlast]
  exact ⟨rfl, hmax, haccepted, rfl⟩

/-- When its deadline passes, the receiver goes on to wait unless it has waited too often. -/
theorem Waits.lapses (h : Waits B m n j 0 s) (hj : j + 1 < m)
    (lapses : ReceiverLapses (lossy k) s t) :
    t.sender = s.sender ∧ t.source = s.source ∧ t.channel = s.channel ∧
      Waits B m n (j + 1) 1 t := by
  have asks := (Receiver.Asks.awaiting h.awaiting).ask?
  obtain ⟨hsize, rfl, haccepted, -⟩ := h
  cases lapses with
  | intro waits =>
    rw [asks] at waits
    cases waits
    have hmiss (misses : Nat) :
        s.receiver.afterAnswer misses (.error .wouldBlock) = s.receiver.miss misses := rfl
    rw [hmiss, Receiver.miss, if_neg (Nat.not_le_of_lt hj)]
    exact ⟨rfl, rfl, rfl, hsize, rfl, haccepted, .polling rfl⟩

/-- The receiver makes one more call before it acknowledges the block. -/
theorem Stores.leads (h : Stores F B m n (c + 1) s) :
    Leads (ReceiverMoves (lossy k)) s fun t => Stores F B m n c t ∧ t.channel = s.channel := by
  obtain ⟨rfl, hmax, hphase⟩ := h
  cases hphase with
  | writing phase =>
    have hwrites : Writes s.file ⟨.writeBytes (chunk F s.receiver.blockSize n), .ok ()⟩
        ⟨s.file.stored ++ (s.file.pending ++ chunk F s.receiver.blockSize n), []⟩ :=
      ⟨_, [], (List.append_nil _).symm, rfl⟩
    refine leads_receiver (.writing phase) ⟨.ok (), _, _, trivial, hwrites, rfl⟩ ?_
    rintro (_ | _) file network well - rfl
    · exact well.elim
    exact ⟨⟨rfl, hmax, .flushing rfl⟩, rfl⟩
  | flushing phase =>
    refine leads_receiver (.flushing phase) ⟨.ok (), _, _, trivial, rfl, rfl⟩ ?_
    rintro (_ | _) file network well - rfl
    · exact well.elim
    exact ⟨⟨rfl, hmax, .acknowledging rfl rfl⟩, rfl⟩

/-- The block is acknowledged, and the receiver goes on to wait unless it was the last one. -/
theorem Stores.acknowledges (hB : 0 < B) (due : n < blockCount F B) (h : Stores F B m n 0 s) :
    Leads (ReceiverMoves (lossy k)) s fun t =>
      t.channel = s.channel.reply k (Packet.ack (wireNumber (n + 1))).encode ∧
        (n + 1 < blockCount F B → Waits B m (n + 1) 0 1 t) ∧
        (n + 1 = blockCount F B → t.receiver.outcome? = some (.ok ())) := by
  have hlast := length_chunk_lt_iff hB due
  obtain ⟨hsize, hmax, hphase⟩ := h
  cases hphase with
  | acknowledging haccepted phase =>
    refine leads_receiver (.acknowledging phase) ⟨.ok (), _, _, trivial, rfl, rfl⟩ ?_
    rintro (_ | _) file network well rfl answers
    · exact well.elim
    refine ⟨answers, ?_⟩
    unfold Receiver.afterAcknowledgement
    by_cases hshort : (chunk F B n).length < B
    · simp only [hshort, decide_true, if_true]
      exact ⟨fun hlt => absurd (hlast.mp hshort) hlt.ne, fun _ => rfl⟩
    · simp only [hshort, decide_false]
      refine ⟨fun _ => ?_, fun hend => absurd (hlast.mpr hend) hshort⟩
      exact ⟨hsize, hmax, haccepted, .polling rfl⟩

/-- The block taken last is acknowledged again, and the wait counts as one that missed. -/
theorem Repeats.leads (h : Repeats B m n j s) (hj : j + 1 < m) :
    Leads (ReceiverMoves (lossy k)) s fun t =>
      t.channel = s.channel.reply k (Packet.ack (wireNumber (n + 1))).encode ∧
        Waits B m (n + 1) (j + 1) 1 t := by
  obtain ⟨hsize, rfl, haccepted, phase⟩ := h
  refine leads_receiver (.repeating phase) ⟨.ok (), _, _, trivial, rfl, rfl⟩ ?_
  rintro (_ | _) file network well rfl answers
  · exact well.elim
  refine ⟨answers, ?_⟩
  unfold Receiver.afterRepetition Receiver.miss
  simp only [if_neg (Nat.not_le_of_lt hj)]
  exact ⟨hsize, rfl, haccepted, .polling rfl⟩

end Tftp
