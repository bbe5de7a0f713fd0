import Tftp.Proofs.Network.Turns

/-!
# A lost acknowledgement

A transfer over a network that delivers everything in order but for the first acknowledgement of
block `k`.

The sender repeats the block once its deadline passes, the receiver acknowledges it again, and both
go on. Both count a miss at that block; if the deadlines of both pass, the receiver counts two. The
last block is different, since the receiver stops after it and does not hear the repetitions.

* `Situation` lists how the sides and the network may stand to each other, with a number that falls
  as long as the sender stays at its block.

Results:
* `Situation.progress`: every step goes on to the next block or lowers the number.
* **`lostAck_recovered`**: the transfer comes to its end as `Recovered` says.
* `lostAck_exhausts`: the last acknowledgement is lost, and the sender gives up.

The specification says that a repeated acknowledgement keeps a lost one from stalling the transfer
(§10.8). It does so for every block but the last. The receiver is done once it has acknowledged the
last block, as §4.6 has it, and the sender, which may repeat that block up to its bound, is not
answered any more: it times out, although the file has arrived.

Out of scope: what the peer of such a sender could do. A receiver that waited once more after the
last block would hear it repeated, and §4.6 does not ask for that.
-/

namespace Tftp

variable {F : Bytes} {B m k n a j c : Nat} {s t : System (lossy k)}

/-! ## Situations -/

/-- What is on its way after the receiver has acknowledged `n` blocks. -/
structure Carries (toSender toReceiver : List Bytes) (n : Nat) (s : System (lossy k)) : Prop where
  queues : s.channel.toQueues = ⟨toSender, toReceiver⟩
  replied : Replied k n s.channel.replies

/-- How the receiver, which has taken `l` blocks and missed `j` times, is ahead of the sender, which
has missed `a` times at block `n + 1`: not at all, or by the block whose acknowledgement was lost.
The last number is for the steps to come once the block arrives. -/
inductive Lag (count m k n : Nat) : (l a j b : Nat) → Prop where
  | even (j : Nat) : Lag count m k n n 0 j (4 * m + 14)
  | ahead {a j : Nat} (lost : n + 1 = k) (more : k < count) (patient : j + 1 < m) :
      Lag count m k n (n + 1) a j 3

/-- How a transfer has ended. The receiver returns normally, and so does the sender, unless the lost
acknowledgement is that of the last block: the receiver does not wait for that block again. -/
structure Concluded (F : Bytes) (B m : Nat) (s : System (lossy k)) : Prop where
  /-- What was lost is the first acknowledgement of block `k`. -/
  lost : firstReplies k <+: s.channel.replies
  received : s.receiver.outcome? = some (.ok ())
  sent : k < blockCount F B → s.sender.outcome? = some (.ok ())
  abandoned : k = blockCount F B → s.sender.outcome? = some (.error (.retriesExhausted m))

/-- **The situations of a transfer** whose sender is at block `n + 1`. The last number is larger
than in every situation that may follow with the same block. -/
inductive Situation (F : Bytes) (B m : Nat) (s : System (lossy k)) (n : Nat) : Nat → Prop where
  /-- The sender is about to send the block. -/
  | offering {l a j b c d : Nat} (sender : Sends F B m n a (c + 1) s) (receiver : Waits B m l j d s)
      (lag : Lag (blockCount F B) m k n l a j b) (carries : Carries [] [] l s) :
      Situation F B m s n (b + 2 + c + d)
  /-- The block is on its way. -/
  | carrying {l a j b d : Nat} (sender : Sends F B m n a 0 s) (receiver : Waits B m l j d s)
      (lag : Lag (blockCount F B) m k n l a j b)
      (carries : Carries [] [(chunkPacket F B n).encode] l s) :
      Situation F B m s n (b + d)
  /-- The receiver has taken the block and has not acknowledged it yet. -/
  | storing {c : Nat} (sender : Sends F B m n 0 0 s) (receiver : Stores F B m n c s) (few : c ≤ 2)
      (carries : Carries [] [] n s) : Situation F B m s n (4 * m + 11 + c)
  /-- The acknowledgement was lost, and both sides wait. -/
  | stalled {d : Nat} (sender : Sends F B m n 0 0 s) (receiver : Waits B m (n + 1) 0 d s)
      (lost : n + 1 = k) (more : k < blockCount F B) (carries : Carries [] [] (n + 1) s) :
      Situation F B m s n (9 + d)
  /-- The block has come again. -/
  | repeating {a j : Nat} (sender : Sends F B m n a 0 s) (receiver : Repeats B m n j s)
      (lost : n + 1 = k) (more : k < blockCount F B) (patient : j + 1 < m)
      (carries : Carries [] [] (n + 1) s) : Situation F B m s n 2
  /-- The acknowledgement is on its way. -/
  | replying {a j d : Nat} (sender : Sends F B m n a 0 s) (receiver : Waits B m (n + 1) j d s)
      (more : n + 1 < blockCount F B)
      (carries : Carries [(Packet.ack (wireNumber (n + 1))).encode] [] (n + 1) s) :
      Situation F B m s n d
  /-- The last acknowledgement is on its way. -/
  | closing {a : Nat} (sender : Sends F B m n a 0 s)
      (receiver : s.receiver.outcome? = some (.ok ())) (last : n + 1 = blockCount F B)
      (kept : k ≤ n) (carries : Carries [(Packet.ack (wireNumber (n + 1))).encode] [] (n + 1) s) :
      Situation F B m s n 1
  /-- The last acknowledgement was lost, and the receiver is gone. -/
  | abandoned {a c : Nat} {queue : List Bytes} (sender : Sends F B m n a c s) (again : a < m)
      (receiver : s.receiver.outcome? = some (.ok ())) (last : n + 1 = blockCount F B)
      (lost : n + 1 = k) (carries : Carries [] queue (n + 1) s) :
      Situation F B m s n (4 * (m - a) + c)
  | finished (concluded : Concluded F B m s) : Situation F B m s n 0

/-- A situation that follows one of block `n + 1` with number `e`. -/
def Advances (F : Bytes) (B m n e : Nat) (s : System (lossy k)) : Prop :=
  ∃ n' e', Situation F B m s n' e' ∧ (n < n' ∨ n' = n ∧ e' < e)

theorem Situation.advances {e e' : Nat} (h : Situation F B m s n e') (less : e' < e) :
    Advances F B m n e s := ⟨n, e', h, Or.inr ⟨rfl, less⟩⟩

variable {l b d : Nat} {tie : Bool} {toSender toReceiver : List Bytes} {bytes : Bytes}

namespace Carries

theorem congr (h : Carries toSender toReceiver n s) (hchannel : t.channel = s.channel) :
    Carries toSender toReceiver n t := by
  obtain ⟨hqueues, hreplied⟩ := h
  rw [← hchannel] at hqueues hreplied
  exact ⟨hqueues, hreplied⟩

theorem post (h : Carries toSender toReceiver n s) (hchannel : t.channel = s.channel.post bytes) :
    Carries toSender (toReceiver ++ [bytes]) n t := by
  obtain ⟨hqueues, hreplied⟩ := h
  refine ⟨?_, hchannel ▸ hreplied⟩
  rw [hchannel]
  show Queues.mk s.channel.toSender (s.channel.toReceiver ++ [bytes]) = _
  rw [hqueues]

theorem taken (h : Carries toSender toReceiver n s)
    (hchannel : t.channel = ⟨⟨[], []⟩, s.channel.replies⟩) : Carries [] [] n t := by
  refine ⟨?_, ?_⟩
  · rw [hchannel]
  · rw [hchannel]
    exact h.replied

/-- The first acknowledgement of block `k` is lost. -/
theorem lost (h : Carries toSender toReceiver n s) (hk : n + 1 = k)
    (hchannel : t.channel = s.channel.reply k (Packet.ack (wireNumber (n + 1))).encode) :
    Carries toSender toReceiver (n + 1) t := by
  obtain ⟨hqueues, hreplied⟩ := h
  rw [Channel.reply_lost (hreplied.lost_iff.mpr hk), hqueues] at hchannel
  refine ⟨?_, ?_⟩
  · rw [hchannel]
  · rw [hchannel]
    exact hreplied.next

/-- The first acknowledgement of any other block is kept. -/
theorem kept (h : Carries [] [] n s) (hk : n + 1 ≠ k)
    (hchannel : t.channel = s.channel.reply k (Packet.ack (wireNumber (n + 1))).encode) :
    Carries [(Packet.ack (wireNumber (n + 1))).encode] [] (n + 1) t := by
  obtain ⟨hqueues, hreplied⟩ := h
  rw [Channel.reply_kept (mt hreplied.lost_iff.mp hk), hqueues] at hchannel
  refine ⟨?_, ?_⟩
  · rw [hchannel]
    rfl
  · rw [hchannel]
    exact hreplied.next

/-- Nothing is lost a second time. -/
theorem again (h : Carries [] [] n s) (hk : k ≤ n)
    (hchannel : t.channel = s.channel.reply k bytes) : Carries [bytes] [] n t := by
  obtain ⟨hqueues, hreplied⟩ := h
  have hkept : n + 1 ≠ k := (Nat.lt_succ_of_le hk).ne'
  rw [Channel.reply_kept (mt hreplied.lost_iff.mp hkept), hqueues] at hchannel
  refine ⟨?_, ?_⟩
  · rw [hchannel]
    rfl
  · rw [hchannel]
    exact hreplied.again hk bytes

end Carries

/-! ## Steps -/

theorem Waits.moves (h : Waits B m l j d s) (empty : s.channel.toReceiver = [])
    (moves : ReceiverMoves (lossy k) s t) :
    ∃ d', d = d' + 1 ∧ Waits B m l j d' t ∧ t.channel = s.channel := by
  cases d with
  | zero => exact absurd moves (no_receiverMoves h.awaiting empty)
  | succ d => exact ⟨d, rfl, h.leads.2 t moves⟩

theorem offering_leads (sender : Sends F B m n a (c + 1) s) (receiver : Waits B m l j d s)
    (lag : Lag (blockCount F B) m k n l a j b) (carries : Carries [] [] l s) :
    Leads (Prompt (lossy k) tie) s (Advances F B m n (b + 2 + c + d)) := by
  have hempty : s.channel.toReceiver = [] := congrArg Queues.toReceiver carries.queues
  refine leads_prompt (Or.inl sender.leads.1) (fun t moves => ?_) fun t moves => ?_
  · obtain ⟨hsends, hchannel⟩ := sender.leads.2 t moves
    have hwaits := receiver.congr moves.receiver_eq
    cases c with
    | zero =>
      have hcarried : Carries [] [(chunkPacket F B n).encode] l t := carries.post hchannel
      exact (Situation.carrying hsends hwaits lag hcarried).advances (by omega)
    | succ c =>
      exact (Situation.offering hsends hwaits lag (carries.congr hchannel)).advances (by omega)
  · obtain ⟨d, rfl, hwaits, hchannel⟩ := receiver.moves hempty moves
    obtain ⟨hsender, hsource⟩ := moves.sender_eq
    have hsends := sender.congr hsender hsource
    exact (Situation.offering hsends hwaits lag (carries.congr hchannel)).advances (by omega)

/-- As long as the sender waits in vain, only the receiver moves. -/
theorem Sends.leads_receiver (sender : Sends F B m n a 0 s) (empty : s.channel.toSender = [])
    {next goal : System (lossy k) → Prop} (receiver : Leads (ReceiverMoves (lossy k)) s next)
    (all : ∀ t, Sends F B m n a 0 t → next t → goal t) : Leads (Prompt (lossy k) tie) s goal := by
  refine leads_prompt (Or.inr receiver.1) (fun t moves => ?_) fun t moves => ?_
  · exact absurd moves (no_senderMoves sender.awaiting.1 empty)
  · obtain ⟨hsender, hsource⟩ := moves.sender_eq
    exact all t (sender.congr hsender hsource) (receiver.2 t moves)

theorem carrying_leads (sender : Sends F B m n a 0 s) (receiver : Waits B m l j d s)
    (lag : Lag (blockCount F B) m k n l a j b)
    (carries : Carries [] [(chunkPacket F B n).encode] l s) :
    Leads (Prompt (lossy k) tie) s (Advances F B m n (b + d)) := by
  have hempty : s.channel.toSender = [] := congrArg Queues.toSender carries.queues
  cases d with
  | succ d =>
    refine sender.leads_receiver hempty receiver.leads fun t hsends ⟨hwaits, hchannel⟩ => ?_
    exact (Situation.carrying hsends hwaits lag (carries.congr hchannel)).advances (by omega)
  | zero =>
    cases lag with
    | even =>
      refine sender.leads_receiver hempty (receiver.takes carries.queues) ?_
      rintro t hsends ⟨hchannel, c, hc, hstores⟩
      have hcarries := carries.taken hchannel
      exact (Situation.storing hsends hstores hc hcarries).advances (by omega)
    | ahead hlost hmore hpatient =>
      refine sender.leads_receiver hempty (receiver.repeats carries.queues) ?_
      rintro t hsends ⟨hchannel, hrepeats⟩
      have hcarries := carries.taken hchannel
      exact (Situation.repeating hsends hrepeats hlost hmore hpatient hcarries).advances (by omega)

theorem storing_leads (hB : 0 < B) (hm : 0 < m) (hk : k ≤ blockCount F B)
    (sender : Sends F B m n 0 0 s) (receiver : Stores F B m n c s) (few : c ≤ 2)
    (carries : Carries [] [] n s) :
    Leads (Prompt (lossy k) tie) s (Advances F B m n (4 * m + 11 + c)) := by
  have hempty : s.channel.toSender = [] := congrArg Queues.toSender carries.queues
  cases c with
  | succ c =>
    refine sender.leads_receiver hempty receiver.leads fun t hsends ⟨hstores, hchannel⟩ => ?_
    have hcarries := carries.congr hchannel
    exact (Situation.storing hsends hstores (by omega) hcarries).advances (by omega)
  | zero =>
    refine sender.leads_receiver hempty (receiver.acknowledges hB sender.due) ?_
    rintro t hsends ⟨hchannel, hmore, hlast⟩
    rcases Nat.lt_or_eq_of_le (Nat.succ_le_of_lt sender.due) with hlt | hend
    · by_cases hlost : n + 1 = k
      · have hcarries := carries.lost hlost hchannel
        exact (Situation.stalled hsends (hmore hlt) hlost (hlost ▸ hlt) hcarries).advances
          (by omega)
      · have hcarries := carries.kept hlost hchannel
        exact (Situation.replying hsends (hmore hlt) hlt hcarries).advances (by omega)
    -- The receiver stops after the last block, whether its acknowledgement is lost or not.
    · by_cases hlost : n + 1 = k
      · have hcarries := carries.lost hlost hchannel
        exact (Situation.abandoned hsends hm (hlast hend) hend hlost hcarries).advances (by omega)
      · have hcarries := carries.kept hlost hchannel
        exact (Situation.closing hsends (hlast hend) hend (by omega) hcarries).advances (by omega)

theorem stalled_leads (hm : 3 ≤ m ∨ 2 ≤ m ∧ tie = false) (sender : Sends F B m n 0 0 s)
    (receiver : Waits B m (n + 1) 0 d s) (lost : n + 1 = k) (more : k < blockCount F B)
    (carries : Carries [] [] (n + 1) s) :
    Leads (Prompt (lossy k) tie) s (Advances F B m n (9 + d)) := by
  have htoSender : s.channel.toSender = [] := congrArg Queues.toSender carries.queues
  have htoReceiver : s.channel.toReceiver = [] := congrArg Queues.toReceiver carries.queues
  cases d with
  | succ d =>
    refine sender.leads_receiver htoSender receiver.leads fun t hsends ⟨hwaits, hchannel⟩ => ?_
    exact (Situation.stalled hsends hwaits lost more (carries.congr hchannel)).advances (by omega)
  | zero =>
    have hstill : Still (lossy k) s :=
      ⟨fun t => no_senderMoves sender.awaiting.1 htoSender,
        fun t => no_receiverMoves receiver.awaiting htoReceiver⟩
    refine leads_still hstill sender.underway ?_ fun ties t u lapses follows => ?_
    · refine ⟨sender.lapses.1, fun t lapses => ?_⟩
      obtain ⟨hreceiver, hchannel, hagain, -⟩ := sender.lapses.2 t lapses
      have hlag : Lag (blockCount F B) m k n (n + 1) 1 0 3 := .ahead lost more (by omega)
      exact (Situation.offering (hagain (by omega)) (receiver.congr hreceiver) hlag
        (carries.congr hchannel)).advances (by omega)
    -- With a tie, the receiver has missed once when the block comes again, which is a second miss.
    · have hthree : 3 ≤ m := hm.resolve_right fun hand => by rw [ties] at hand; exact nomatch hand.2
      obtain ⟨hreceiver, hchannel, hagain, -⟩ := sender.lapses.2 t lapses
      obtain ⟨hsender, hsource, hsame, hwaits⟩ :=
        (receiver.congr hreceiver).lapses (by omega) follows
      have hsends := (hagain (by omega)).congr hsender hsource
      have hlag : Lag (blockCount F B) m k n (n + 1) 1 1 3 := .ahead lost more (by omega)
      exact (Situation.offering hsends hwaits hlag
        ((carries.congr hchannel).congr hsame)).advances (by omega)

theorem repeating_leads (sender : Sends F B m n a 0 s) (receiver : Repeats B m n j s)
    (lost : n + 1 = k) (more : k < blockCount F B) (patient : j + 1 < m)
    (carries : Carries [] [] (n + 1) s) :
    Leads (Prompt (lossy k) tie) s (Advances F B m n 2) := by
  have hempty : s.channel.toSender = [] := congrArg Queues.toSender carries.queues
  refine sender.leads_receiver hempty (receiver.leads patient) ?_
  rintro t hsends ⟨hchannel, hwaits⟩
  have hcarries := carries.again lost.ge hchannel
  exact (Situation.replying hsends hwaits (lost ▸ more) hcarries).advances (by omega)

theorem replying_leads (hB : 0 < B) (sender : Sends F B m n a 0 s)
    (receiver : Waits B m (n + 1) j d s) (more : n + 1 < blockCount F B)
    (carries : Carries [(Packet.ack (wireNumber (n + 1))).encode] [] (n + 1) s) :
    Leads (Prompt (lossy k) tie) s (Advances F B m n d) := by
  have hempty : s.channel.toReceiver = [] := congrArg Queues.toReceiver carries.queues
  have hleads := sender.confirmed hB carries.queues
  refine leads_prompt (Or.inl hleads.1) (fun t moves => ?_) fun t moves => ?_
  · obtain ⟨hchannel, hmore, -⟩ := hleads.2 t moves
    have hwaits := receiver.congr moves.receiver_eq
    exact ⟨n + 1, _, .offering (hmore more) hwaits (.even j) (carries.taken hchannel),
      Or.inl (Nat.lt_succ_self n)⟩
  · obtain ⟨d, rfl, hwaits, hchannel⟩ := receiver.moves hempty moves
    obtain ⟨hsender, hsource⟩ := moves.sender_eq
    exact (Situation.replying (sender.congr hsender hsource) hwaits more
      (carries.congr hchannel)).advances (by omega)

theorem closing_leads (hB : 0 < B) (sender : Sends F B m n a 0 s)
    (receiver : s.receiver.outcome? = some (.ok ())) (last : n + 1 = blockCount F B)
    (kept : k ≤ n) (carries : Carries [(Packet.ack (wireNumber (n + 1))).encode] [] (n + 1) s) :
    Leads (Prompt (lossy k) tie) s (Advances F B m n 1) := by
  have hleads := sender.confirmed hB carries.queues
  refine leads_prompt (Or.inl hleads.1) (fun t moves => ?_) fun t moves => ?_
  · obtain ⟨hchannel, -, hend⟩ := hleads.2 t moves
    have hreplied := (carries.taken hchannel).replied
    have hconcluded : Concluded F B m t := by
      refine ⟨hreplied.firstReplies (Nat.le_succ_of_le kept), moves.receiver_eq ▸ receiver,
        fun _ => hend last, fun hlost => ?_⟩
      omega
    exact (Situation.finished hconcluded).advances Nat.one_pos
  · exact absurd moves.underway (by rw [receiver]; nofun)

theorem abandoned_leads {queue : List Bytes} (sender : Sends F B m n a c s) (again : a < m)
    (receiver : s.receiver.outcome? = some (.ok ())) (last : n + 1 = blockCount F B)
    (lost : n + 1 = k) (carries : Carries [] queue (n + 1) s) :
    Leads (Prompt (lossy k) tie) s (Advances F B m n (4 * (m - a) + c)) := by
  have hempty : s.channel.toSender = [] := congrArg Queues.toSender carries.queues
  have hgone (t : System (lossy k)) : ¬ ReceiverMoves (lossy k) s t :=
    fun moves => absurd moves.underway (by rw [receiver]; nofun)
  cases c with
  | succ c =>
    refine leads_prompt (Or.inl sender.leads.1) (fun t moves => ?_)
      fun t moves => absurd moves (hgone t)
    obtain ⟨hsends, hchannel⟩ := sender.leads.2 t moves
    have hreceiver : t.receiver.outcome? = some (.ok ()) := moves.receiver_eq ▸ receiver
    cases c with
    | zero =>
      have hcarries := carries.post hchannel
      exact (Situation.abandoned hsends again hreceiver last lost hcarries).advances (by omega)
    | succ c =>
      have hcarries := carries.congr hchannel
      exact (Situation.abandoned hsends again hreceiver last lost hcarries).advances (by omega)
  | zero =>
    have hstill : Still (lossy k) s := ⟨fun t => no_senderMoves sender.awaiting.1 hempty, hgone⟩
    refine leads_still hstill sender.underway ⟨sender.lapses.1, fun t lapses => ?_⟩ ?_
    · obtain ⟨hreceiver, hchannel, hagain, hgivesUp⟩ := sender.lapses.2 t lapses
      rw [← hreceiver] at receiver
      have hcarries := carries.congr hchannel
      rcases Nat.lt_or_ge (a + 1) m with hlt | hge
      · exact (Situation.abandoned (hagain hlt) hlt receiver last lost hcarries).advances
          (by omega)
      · have hconcluded : Concluded F B m t :=
          ⟨hcarries.replied.firstReplies lost.ge, receiver, fun hkept => by omega,
            fun _ => hgivesUp hge⟩
        exact (Situation.finished hconcluded).advances (by omega)
    · intro ties t u lapses follows
      have hreceiver := (sender.lapses.2 t lapses).1
      exact absurd follows.underway (by rw [hreceiver, receiver]; nofun)

/-- **Every step of a transfer that has not come to an end makes progress.** -/
theorem Situation.progress (hB : 0 < B) (hm : 3 ≤ m ∨ 2 ≤ m ∧ tie = false)
    (hk : k ≤ blockCount F B) {e : Nat} (h : Situation F B m s n e) :
    Concluded F B m s ∨
      n < blockCount F B ∧ Leads (Prompt (lossy k) tie) s (Advances F B m n e) := by
  cases h with
  | offering sender receiver lag carries =>
    exact Or.inr ⟨sender.due, offering_leads sender receiver lag carries⟩
  | carrying sender receiver lag carries =>
    exact Or.inr ⟨sender.due, carrying_leads sender receiver lag carries⟩
  | storing sender receiver few carries =>
    exact Or.inr ⟨sender.due, storing_leads hB (by omega) hk sender receiver few carries⟩
  | stalled sender receiver lost more carries =>
    exact Or.inr ⟨sender.due, stalled_leads hm sender receiver lost more carries⟩
  | repeating sender receiver lost more patient carries =>
    exact Or.inr ⟨sender.due, repeating_leads sender receiver lost more patient carries⟩
  | replying sender receiver more carries =>
    exact Or.inr ⟨sender.due, replying_leads hB sender receiver more carries⟩
  | closing sender receiver last kept carries =>
    exact Or.inr ⟨sender.due, closing_leads hB sender receiver last kept carries⟩
  | abandoned sender again receiver last lost carries =>
    exact Or.inr ⟨sender.due, abandoned_leads sender again receiver last lost carries⟩
  | finished concluded => exact Or.inl concluded

/-! ## Transfers -/

/-- **What a transfer of `F` comes to** when the first acknowledgement of block `k` is lost: it has
ended, and every side that returns normally has counted the whole file, which is stored. -/
structure Recovered (F : Bytes) (B m : Nat) (s : System (lossy k)) : Prop
    extends Concluded F B m s where
  stored : s.file.stored = F
  counted : s.receiver.transferred = F.length
  confirmed : k < blockCount F B → s.sender.transferred = F.length

theorem situation_start (F : Bytes) (B m k : Nat) (senderTraffic receiverTraffic : Traffic) :
    Situation F B m (.start F B m m senderTraffic receiverTraffic .idle : System (lossy k)) 0
      (4 * m + 14 + 2 + 2 + 1) := by
  have hsends : Sends F B m 0 0 3
      (.start F B m m senderTraffic receiverTraffic .idle : System (lossy k)) :=
    ⟨rfl, rfl, Nat.succ_pos _, .reading rfl rfl (by rw [Nat.zero_mul]; rfl)⟩
  have hreplied : Replied k 0 [] := by
    cases k with
    | zero => exact Or.inr ⟨Nat.le_refl 0, List.prefix_refl []⟩
    | succ k => exact Or.inl ⟨Nat.succ_pos k, rfl⟩
  exact .offering hsends ⟨rfl, rfl, rfl, .polling rfl⟩ (.even 0) ⟨rfl, hreplied⟩

/-- A transfer that has come to its end has done so with the whole file. -/
theorem Concluded.recovered {senderTraffic receiverTraffic : Traffic} (hB : 0 < B)
    (h : Concluded F B m s)
    (steps : Steps (lossy k) (.start F B m m senderTraffic receiverTraffic .idle) s) :
    Recovered F B m s := by
  obtain ⟨p, i, agreement⟩ :=
    agreement_of_steps (lossy_faithful F B k) hB (queued_idle F B) steps
  obtain ⟨hstored, hcounted, -⟩ := agreement.received hB h.received
  refine ⟨h, hstored, hcounted, fun hlt => ?_⟩
  have hlast := agreement.sender.outcome?_eq_ok_iff.mp (h.sent hlt)
  rw [agreement.sender.transferred, hlast, flatten_chunks_blockCount hB, Nat.zero_add]

/-- **A single lost acknowledgement does not stall a transfer**, whichever block it is for; none is
lost if `k` is 0. Each side comes to its end, however the two take turns, if a side may miss three
times, or twice where the receiver's deadline does not pass before the block comes again. -/
theorem lostAck_recovered {senderTraffic receiverTraffic : Traffic} (hB : 0 < B)
    (hk : k ≤ blockCount F B) (hm : 3 ≤ m ∨ 2 ≤ m ∧ tie = false) :
    Inevitable (Prompt (lossy k) tie) (Recovered F B m)
      (.start F B m m senderTraffic receiverTraffic .idle) := by
  let invariant (s : System (lossy k)) (n e : Nat) : Prop :=
    Steps (lossy k) (.start F B m m senderTraffic receiverTraffic .idle) s ∧
      Situation F B m s n e
  refine inevitable_of_rank invariant (blockCount F B) ?_
    ⟨.refl, situation_start F B m k senderTraffic receiverTraffic⟩
  rintro s n e ⟨steps, situation⟩
  rcases situation.progress hB hm hk with concluded | ⟨hn, goes, hnext⟩
  · exact Or.inl (concluded.recovered hB steps)
  · refine Or.inr ⟨hn, goes, fun t moves => ?_⟩
    obtain ⟨n', e', hsituation, hless⟩ := hnext t moves
    exact ⟨n', e', ⟨steps.trans moves.steps, hsituation⟩, hless⟩

/-- A file of two blocks goes over, with the first acknowledgement lost and a tie. -/
theorem lostAck_recovered_twoBlocks :
    0 < 2 ∧ 1 ≤ blockCount [7, 8, 9] 2 ∧ 3 ≤ 3 ∧
      Inevitable (Prompt (lossy 1) true) (Recovered [7, 8, 9] 2 3)
        (.start [7, 8, 9] 2 3 3 .zero .zero .idle) :=
  ⟨by decide, by decide, by decide, lostAck_recovered (by decide) (by decide) (by decide)⟩

/-- Without those conditions a side may give up after two misses: the sender when the
acknowledgement of the last block is lost, and the receiver with a tie, as it misses when its
deadline passes and again when the block comes back. -/
theorem lostAck_exhausts :
    (∃ s, Relation.ReflTransGen (Prompt (lossy 1) false)
        (.start [7] 2 2 2 .zero .zero .idle) s ∧
      s.receiver.outcome? = some (.ok ()) ∧
      s.sender.outcome? = some (.error (.retriesExhausted 2))) ∧
    ∃ s, Relation.ReflTransGen (Prompt (lossy 1) true)
        (.start [7, 8, 9] 2 2 2 .zero .zero .idle) s ∧
      s.receiver.outcome? = some (.error (.retriesExhausted 2)) := by
  have polling (rest : Bytes) : Reads rest ⟨.pollCancelled, false⟩ rest := rfl
  have sending (rest bytes : Bytes) : Reads rest ⟨.sendDatagram bytes, .ok ()⟩ rest := rfl
  have polling' (file : OutputFile) : Writes file ⟨.pollCancelled, false⟩ file := rfl
  have waiting' (file : OutputFile) (bytes : Bytes) :
      Writes file ⟨.receiveDatagram 6, .ok ⟨.unspecified, bytes⟩⟩ file := rfl
  have arrives (bytes : Bytes) (replies : List Bytes) : (lossy 1).Delivers .receiver
      (⟨⟨[], [bytes]⟩, replies⟩ : Channel) bytes (⟨⟨[], []⟩, replies⟩ : Channel) := ⟨rfl, rfl⟩
  have writing (bytes : Bytes) : Writes .empty ⟨.writeBytes bytes, .ok ()⟩ ⟨[], bytes⟩ :=
    ⟨[], bytes, rfl, rfl⟩
  have flushing (bytes : Bytes) : Writes ⟨[], bytes⟩ ⟨.flush, .ok ()⟩ ⟨bytes, []⟩ := rfl
  have acknowledging (file : OutputFile) :
      Writes file ⟨.sendDatagram [0, 4, 0, 1], .ok ()⟩ file := rfl
  constructor
  · have reading : Reads [7] ⟨.readBytes 2, .ok [7]⟩ [] := ⟨rfl, rfl⟩
    refine ⟨_, .head (.sender (.intro rfl reading rfl trivial)) <|
      .head (.sender (.intro rfl (polling _) rfl rfl)) <|
      .head (.sender (.intro rfl (sending _ _) rfl trivial)) <|
      .head (.receiver (.intro rfl (polling' _) rfl rfl)) <|
      .head (.receiver (.intro rfl (waiting' _ _) (arrives _ _) trivial)) <|
      .head (.receiver (.intro rfl (writing _) rfl trivial)) <|
      .head (.receiver (.intro rfl (flushing _) rfl trivial)) <|
      .head (.receiver (.intro rfl (acknowledging _) rfl trivial)) <|
      .head (.senderLapses ⟨fun _ => no_senderMoves rfl rfl, fun _ h => nomatch h.underway⟩
        (.intro rfl)) <|
      .head (.sender (.intro rfl (polling _) rfl rfl)) <|
      .head (.sender (.intro rfl (sending _ _) rfl trivial)) <|
      .head (.senderLapses ⟨fun _ => no_senderMoves rfl rfl, fun _ h => nomatch h.underway⟩
        (.intro rfl)) .refl, rfl, rfl⟩
  · have reading : Reads [7, 8, 9] ⟨.readBytes 2, .ok [7, 8]⟩ [9] := ⟨rfl, rfl⟩
    refine ⟨_, .head (.sender (.intro rfl reading rfl trivial)) <|
      .head (.sender (.intro rfl (polling _) rfl rfl)) <|
      .head (.sender (.intro rfl (sending _ _) rfl trivial)) <|
      .head (.receiver (.intro rfl (polling' _) rfl rfl)) <|
      .head (.receiver (.intro rfl (waiting' _ _) (arrives _ _) trivial)) <|
      .head (.receiver (.intro rfl (writing _) rfl trivial)) <|
      .head (.receiver (.intro rfl (flushing _) rfl trivial)) <|
      .head (.receiver (.intro rfl (acknowledging _) rfl trivial)) <|
      .head (.receiver (.intro rfl (polling' _) rfl rfl)) <|
      .head (.bothLapse rfl
        ⟨fun _ => no_senderMoves rfl rfl, fun _ => no_receiverMoves rfl rfl⟩
        (.intro rfl) (.intro rfl)) <|
      .head (.sender (.intro rfl (polling _) rfl rfl)) <|
      .head (.sender (.intro rfl (sending _ _) rfl trivial)) <|
      .head (.receiver (.intro rfl (polling' _) rfl rfl)) <|
      .head (.receiver (.intro rfl (waiting' _ _) (arrives _ _) trivial)) <|
      .head (.receiver (.intro rfl (acknowledging _) rfl trivial)) .refl, rfl⟩

end Tftp
