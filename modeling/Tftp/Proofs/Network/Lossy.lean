import Tftp.Proofs.Network.Fifo
import Tftp.Proofs.Network.Prompt

/-!
# A network that loses one acknowledgement

A network of two queues that delivers everything in order, but for one datagram of the receiver.

The receiver sends nothing twice before a datagram is lost. The first acknowledgement of block `k`
is therefore its `k`-th datagram.

Results:
* `lossy_faithful`: the network keeps what is asked of it, so that every transfer over it is safe.
* `Replied.lost_iff`: what is lost is the first acknowledgement of block `k`, and nothing else.

A lost acknowledgement is the case that the specification has the receiver repeat its
acknowledgement for (§10.8). What both sides make of it is in `Tftp.Proofs.Network.Recovery`.

Out of scope: networks that lose more than one datagram, or data. That they are safe is a part of
`Tftp.Proofs.Network.Fifo`.
-/

namespace Tftp

/-! ## The network -/

/-- The datagrams on their way to each side, and those that the receiver has sent so far. -/
structure Channel extends Queues where
  replies : List Bytes

namespace Channel

/-- Nothing has been sent. -/
def idle : Channel := ⟨⟨[], []⟩, []⟩

/-- The sender sends a datagram. -/
def post (n : Channel) (bytes : Bytes) : Channel :=
  { n with toReceiver := n.toReceiver ++ [bytes] }

/-- The receiver sends a datagram, and the `k`-th one is lost. -/
def reply (k : Nat) (n : Channel) (bytes : Bytes) : Channel :=
  if n.replies.length + 1 = k then { n with replies := n.replies ++ [bytes] }
  else { n with toSender := n.toSender ++ [bytes], replies := n.replies ++ [bytes] }

theorem reply_lost {k : Nat} {n : Channel} (lost : n.replies.length + 1 = k) (bytes : Bytes) :
    n.reply k bytes = ⟨n.toQueues, n.replies ++ [bytes]⟩ := if_pos lost

theorem reply_kept {k : Nat} {n : Channel} (kept : n.replies.length + 1 ≠ k) (bytes : Bytes) :
    n.reply k bytes = ⟨⟨n.toSender ++ [bytes], n.toReceiver⟩, n.replies ++ [bytes]⟩ := if_neg kept

end Channel

/-- The network that loses the `k`-th datagram of the receiver. -/
def lossy (k : Nat) : Network where
  State := Channel
  send
    | .sender, n, bytes => n.post bytes
    | .receiver, n, bytes => n.reply k bytes
  Delivers side n bytes n' :=
    fifo.Delivers side n.toQueues bytes n'.toQueues ∧ n'.replies = n.replies
  Moves _ _ := False

variable {F : Bytes} {B k n : Nat} {replies : List Bytes}

/-- A reply that is lost changes nothing, and any other comes behind those before. -/
theorem queued_reply {c : Counts} {n : Channel} {bytes : Bytes} (lost : Queued F B c n.toQueues)
    (kept : Queued F B c (fifo.send .receiver n.toQueues bytes)) :
    Queued F B c (n.reply k bytes).toQueues := by
  unfold Channel.reply
  split
  · exact lost
  · exact kept

/-- **The network keeps what is asked of it**, as queues do. -/
theorem lossy_faithful (F : Bytes) (B k : Nat) :
    (lossy k).Faithful F B fun c n => Queued F B c n.toQueues where
  sent_chunk step h due := h.sent_chunk step due
  sent_ack step h := queued_reply (h.acknowledge step) ((fifo_faithful F B).sent_ack step h)
  sent_refusal step h := queued_reply h (h.sent_reply step (Or.inr rfl))
  moved _ moves := moves.elim
  arrived h arrives := h.arrived arrives.1
  confirms _ h arrives _ decodes := h.confirms arrives.1 decodes
  takes _ h arrives _ decodes := h.takes arrives.1 decodes

theorem queued_idle (F : Bytes) (B : Nat) : Queued F B ⟨0, 0, 0⟩ Channel.idle.toQueues :=
  queued_handshake F B 0

/-! ## Waits -/

/-- What is on its way between the sides. -/
def System.channel (s : System (lossy k)) : Channel := s.network

section Waits

variable {s t : System (lossy k)} {goal : System (lossy k) → Prop} {attempt : Sender.Attempt}
  {misses : Nat} {bytes : Bytes} {rest queue : List Bytes}

/-- A sender that waits does not move as long as nothing is on its way to it. -/
theorem no_senderMoves (phase : s.sender.phase = .awaiting attempt)
    (empty : s.channel.toSender = []) : ¬ SenderMoves (lossy k) s t := by
  rintro ⟨asks, -, answers, well⟩
  rw [(Sender.Asks.awaiting phase).ask?] at asks
  cases asks
  rename_i answer
  cases answer with
  | error reason => exact well
  | ok datagram =>
    have hsender : s.channel.toSender = _ := congrArg Queues.toSender answers.1
    rw [empty] at hsender
    cases hsender

/-- A receiver that waits does not move as long as nothing is on its way to it. -/
theorem no_receiverMoves (phase : s.receiver.phase = .awaiting misses)
    (empty : s.channel.toReceiver = []) : ¬ ReceiverMoves (lossy k) s t := by
  rintro ⟨asks, -, answers, well⟩
  rw [(Receiver.Asks.awaiting phase).ask?] at asks
  cases asks
  rename_i answer
  cases answer with
  | error reason => exact well
  | ok datagram =>
    have hreceiver : s.channel.toReceiver = _ := congrArg Queues.toReceiver answers.1
    rw [empty] at hreceiver
    cases hreceiver

/-- A sender that waits takes the first datagram on its way to it. -/
theorem leads_toSender (phase : s.sender.phase = .awaiting attempt)
    (arrives : s.channel.toQueues = ⟨bytes :: rest, queue⟩)
    (all : ∀ (source : Address) (network : Channel),
      network = ⟨⟨rest, queue⟩, s.channel.replies⟩ →
      goal { s with sender := s.sender.afterAnswer attempt (.ok ⟨source, bytes⟩), network }) :
    Leads (SenderMoves (lossy k)) s goal := by
  refine leads_sender (.awaiting phase) ⟨.ok ⟨.unspecified, bytes⟩, _,
    (⟨⟨rest, queue⟩, s.channel.replies⟩ : Channel), trivial, rfl, arrives, rfl⟩ ?_
  rintro (_ | ⟨source, received⟩) _ (network : Channel) well rfl ⟨hqueues, hreplies⟩
  · exact well.elim
  have hsame : Queues.mk (bytes :: rest) queue
      = { network.toQueues with toSender := received :: network.toSender } :=
    arrives.symm.trans hqueues
  cases hsame
  exact all source network (congrArg (Channel.mk network.toQueues) hreplies)

/-- A receiver that waits takes the first datagram on its way to it. -/
theorem leads_toReceiver (phase : s.receiver.phase = .awaiting misses)
    (arrives : s.channel.toQueues = ⟨queue, bytes :: rest⟩)
    (all : ∀ (source : Address) (network : Channel),
      network = ⟨⟨queue, rest⟩, s.channel.replies⟩ →
      goal { s with receiver := s.receiver.afterAnswer misses (.ok ⟨source, bytes⟩), network }) :
    Leads (ReceiverMoves (lossy k)) s goal := by
  refine leads_receiver (.awaiting phase) ⟨.ok ⟨.unspecified, bytes⟩, _,
    (⟨⟨queue, rest⟩, s.channel.replies⟩ : Channel), trivial, rfl, arrives, rfl⟩ ?_
  rintro (_ | ⟨source, received⟩) _ (network : Channel) well rfl ⟨hqueues, hreplies⟩
  · exact well.elim
  have hsame : Queues.mk queue (bytes :: rest)
      = { network.toQueues with toReceiver := received :: network.toReceiver } :=
    arrives.symm.trans hqueues
  cases hsame
  exact all source network (congrArg (Channel.mk network.toQueues) hreplies)

end Waits

/-! ## Which datagram is lost -/

/-- The first acknowledgements of the first `n` blocks. -/
def firstReplies (n : Nat) : List Bytes :=
  (List.range n).map fun i => (Packet.ack (wireNumber (i + 1))).encode

theorem firstReplies_succ (n : Nat) :
    firstReplies (n + 1)
      = firstReplies n ++ [(Packet.ack (wireNumber (n + 1))).encode] := by
  rw [firstReplies, List.range_succ, List.map_append]
  rfl

theorem length_firstReplies (n : Nat) : (firstReplies n).length = n := by
  rw [firstReplies, List.length_map, List.length_range]

/-- What a receiver that has acknowledged `n` blocks has sent: these acknowledgements alone, until
one is lost. -/
def Replied (k n : Nat) (replies : List Bytes) : Prop :=
  n < k ∧ replies = firstReplies n ∨ k ≤ n ∧ firstReplies k <+: replies

theorem Replied.firstReplies (h : Replied k n replies) (hle : k ≤ n) :
    firstReplies k <+: replies := by
  rcases h with ⟨hlt, -⟩ | ⟨-, hprefix⟩
  · exact absurd hle (Nat.not_le_of_lt hlt)
  · exact hprefix

/-- The next datagram is lost exactly if block `k` is due. -/
theorem Replied.lost_iff (h : Replied k n replies) : replies.length + 1 = k ↔ n + 1 = k := by
  rcases h with ⟨-, rfl⟩ | ⟨hle, hprefix⟩
  · rw [length_firstReplies]
  · have hlength := hprefix.length_le
    rw [length_firstReplies] at hlength
    omega

/-- One more block is acknowledged. -/
theorem Replied.next (h : Replied k n replies) :
    Replied k (n + 1) (replies ++ [(Packet.ack (wireNumber (n + 1))).encode]) := by
  rcases h with ⟨hlt, rfl⟩ | ⟨hle, hprefix⟩
  · rw [← firstReplies_succ]
    by_cases hk : n + 1 < k
    · exact Or.inl ⟨hk, rfl⟩
    · have hsame : n + 1 = k := Nat.le_antisymm hlt (Nat.le_of_not_lt hk)
      exact Or.inr ⟨hsame.ge, hsame ▸ List.prefix_refl _⟩
  · exact Or.inr ⟨Nat.le_succ_of_le hle, hprefix.trans (List.prefix_append _ _)⟩

/-- An acknowledgement is repeated after one was lost. -/
theorem Replied.again (h : Replied k n replies) (hle : k ≤ n) (bytes : Bytes) :
    Replied k n (replies ++ [bytes]) :=
  Or.inr ⟨hle, (h.firstReplies hle).trans (List.prefix_append _ _)⟩

end Tftp
