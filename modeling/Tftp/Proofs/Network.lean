import Tftp.Proofs.Receiving
import Tftp.Proofs.Sending
import Mathlib.Logic.Relation

/-!
# Two sides and a network

A sender and a receiver of the same block size, each with its file, and a network between them.

* A `Network` says what becomes of a datagram that is sent, which datagrams may arrive, and what it
  may do on its own.
* `Step` lets the sender, the receiver or the network move. Every call of a side may be answered in
  any way that its file and the network allow; a wait may bring nothing and a send may fail at any
  time.
* `System.Safe` is what a transfer promises at any moment.

Results:
* `Network.Answers.cases`: an event sends a datagram, brings one, or leaves the network alone.
* `steps_oneBlock`: a transfer over a network that delivers what was sent can come to its end.

The transport of the specification is unordered and lossy, between two fixed addresses (§1 and §6).
Which of this a network really does is its own affair here: `Network` is given by four conditions,
and a result about all networks of a kind is one about the conditions.

Safety says nothing of progress. A system in which every datagram is lost is safe, and both sides
give up.

Out of scope: other peers, whose datagrams the system keeps away (§6), and the handshake beyond the
greeting of a receiver. Both sides know their block size when a system begins.
-/

namespace Tftp

/-! ## Networks -/

/-- The two ends of a transfer. -/
inductive Side where
  | sender
  | receiver
  deriving DecidableEq, Repr

/-- A network between two sides. -/
structure Network where
  /-- What the network keeps. -/
  State : Type
  /-- The network after a side has sent a datagram. -/
  send : Side → State → Bytes → State
  /-- `Delivers side n bytes n'`: a datagram may arrive at a side, which leaves the network as in
  `n'`. -/
  Delivers : Side → State → Bytes → State → Prop
  /-- What the network may do on its own. -/
  Moves : State → State → Prop

/-- `net.Answers side n e n'`: the network may take part in event `e` of a side. A datagram is sent
exactly if the call succeeds. -/
def Network.Answers (net : Network) (side : Side) (n : net.State) (e : Event) (n' : net.State) :
    Prop :=
  match e with
  | ⟨.sendDatagram bytes, .ok ()⟩ => n' = net.send side n bytes
  | ⟨.receiveDatagram _, .ok datagram⟩ => net.Delivers side n datagram.bytes n'
  | _ => n' = n

theorem Network.Answers.cases {net : Network} {side : Side} {n n' : net.State} {e : Event}
    (h : net.Answers side n e n') :
    (∃ bytes, e = ⟨.sendDatagram bytes, .ok ()⟩ ∧ n' = net.send side n bytes) ∨
      (∃ room datagram, e = ⟨.receiveDatagram room, .ok datagram⟩ ∧
        net.Delivers side n datagram.bytes n') ∨
      n' = n ∧ (∀ bytes, e ≠ ⟨.sendDatagram bytes, .ok ()⟩) ∧
        ∀ room datagram, e ≠ ⟨.receiveDatagram room, .ok datagram⟩ := by
  unfold Network.Answers at h
  split at h
  · exact Or.inl ⟨_, rfl, h⟩
  · exact Or.inr (Or.inl ⟨_, _, rfl, h⟩)
  · rename_i hsend hreceive
    exact Or.inr (Or.inr ⟨h, hsend, hreceive⟩)

/-! ## Systems -/

/-- A sender, a receiver, their files and the network. -/
structure System (net : Network) where
  sender : Sender
  /-- What is left to read. -/
  source : Bytes
  receiver : Receiver
  file : OutputFile
  network : net.State

/-- A transfer of `F` in blocks of `B` bytes that begins with the network in state `n`. -/
def System.start {net : Network} (F : Bytes) (B : Nat) (senderRetries receiverRetries : Nat)
    (senderTraffic receiverTraffic : Traffic) (n : net.State) : System net where
  sender := (Sender.new B senderRetries senderTraffic).sendFile
  source := F
  receiver := (Receiver.new B receiverRetries receiverTraffic).receiveFile
  file := .empty
  network := n

/-- One move of a system. -/
inductive Step (net : Network) : System net → System net → Prop where
  | sender {s : System net} {call : Call} {resume : call.Answer → Sender} {answer : call.Answer}
      {source : Bytes} {network : net.State} (asks : s.sender.ask? = some ⟨call, resume⟩)
      (reads : Reads s.source ⟨call, answer⟩ source)
      (answers : net.Answers .sender s.network ⟨call, answer⟩ network) :
      Step net s { s with sender := resume answer, source, network }
  | receiver {s : System net} {call : Call} {resume : call.Answer → Receiver}
      {answer : call.Answer} {file : OutputFile} {network : net.State}
      (asks : s.receiver.ask? = some ⟨call, resume⟩) (writes : Writes s.file ⟨call, answer⟩ file)
      (answers : net.Answers .receiver s.network ⟨call, answer⟩ network) :
      Step net s { s with receiver := resume answer, file, network }
  | network {s : System net} {network : net.State} (moves : net.Moves s.network network) :
      Step net s { s with network }

/-- **What a transfer of `F` promises at any moment**: only the beginning of the file is stored; a
receiver that has returned normally has stored all of it; when a sender has returned normally, so
has the receiver, with the last block accepted; and what the sender counts is stored. -/
structure System.Safe {net : Network} (F : Bytes) (B : Nat) (s : System net) : Prop where
  stored_prefix : s.file.stored <+: F
  received : s.receiver.outcome? = some (.ok ()) → s.file.stored = F
  sent : s.sender.outcome? = some (.ok ()) →
    s.receiver.outcome? = some (.ok ()) ∧
      s.receiver.accepted = some (wireNumber (blockCount F B)) ∧
      s.receiver.transferred = F.length ∧ s.file.stored = F
  transferred_le : s.sender.transferred ≤ s.receiver.transferred
  transferred_le_stored : s.receiver.transferred ≤ s.file.stored.length

/-- Any number of moves. -/
abbrev Steps (net : Network) : System net → System net → Prop := Relation.ReflTransGen (Step net)

variable {net : Network}

/-- A file of one byte goes over any network that delivers its block and the acknowledgement, even
if an acknowledgement of block 0 comes before and the block is sent twice. -/
theorem steps_oneBlock {n n₁ n₂ n₃ : net.State}
    (stale : net.Delivers .sender (net.send .sender n [0, 3, 0, 1, 7]) [0, 4, 0, 0] n₁)
    (arrives : net.Delivers .receiver (net.send .sender n₁ [0, 3, 0, 1, 7]) [0, 3, 0, 1, 7] n₂)
    (returns : net.Delivers .sender (net.send .receiver n₂ [0, 4, 0, 1]) [0, 4, 0, 1] n₃) :
    ∃ s, Steps net (.start [7] 2 3 3 .zero .zero n) s ∧ s.sender.outcome? = some (.ok ()) := by
  have reading : Reads [7] ⟨.readBytes 2, .ok [7]⟩ [] := ⟨rfl, rfl⟩
  have polling : Reads [] ⟨.pollCancelled, false⟩ [] := rfl
  have sending : Reads [] ⟨.sendDatagram [0, 3, 0, 1, 7], .ok ()⟩ [] := rfl
  have waiting (bytes : Bytes) :
      Reads [] ⟨.receiveDatagram datagramRoom, .ok ⟨.unspecified, bytes⟩⟩ [] := rfl
  have polling' : Writes .empty ⟨.pollCancelled, false⟩ .empty := rfl
  have waiting' :
      Writes .empty ⟨.receiveDatagram 6, .ok ⟨.unspecified, [0, 3, 0, 1, 7]⟩⟩ .empty := rfl
  have writing : Writes .empty ⟨.writeBytes [7], .ok ()⟩ ⟨[], [7]⟩ := ⟨[], [7], rfl, rfl⟩
  have flushing : Writes ⟨[], [7]⟩ ⟨.flush, .ok ()⟩ ⟨[7], []⟩ := rfl
  have acknowledging : Writes ⟨[7], []⟩ ⟨.sendDatagram [0, 4, 0, 1], .ok ()⟩ ⟨[7], []⟩ := rfl
  refine ⟨_, .head (.sender rfl reading rfl) <| .head (.sender rfl polling rfl) <|
    .head (.sender rfl sending rfl) <| .head (.sender rfl (waiting _) stale) <|
    .head (.sender rfl polling rfl) <| .head (.sender rfl sending rfl) <|
    .head (.receiver rfl polling' rfl) <| .head (.receiver rfl waiting' arrives) <|
    .head (.receiver rfl writing rfl) <| .head (.receiver rfl flushing rfl) <|
    .head (.receiver rfl acknowledging rfl) <| .head (.sender rfl (waiting _) returns) .refl, ?_⟩
  rfl

end Tftp
