import Tftp.Proofs.Asks
import Tftp.Proofs.File
import Tftp.Proofs.RoundTrip
import Tftp.Proofs.Wording

/-!
# Error packets of the peer

An error packet ends a transfer at once, whatever the phase: nothing else is called, no miss is
counted, nothing counts as transferred, and the file stays as it is.

A receiver has room for one block only, so it does not get to see an error packet that is longer
than its longest block. Such a packet is refused as too large, and the wait counts as a miss.

* `Sender.EndedBy` and `Receiver.EndedBy` are the states that an error packet leaves.

Results:
* `PeerError.message_failure`: the message that names the code and the text of an error packet.
* `Arrival.ofAnswer_peerError`: what a wait makes of an error packet.
* **`peerError_ends`**: which error packets end a sender and a receiver, and what happens to a
  receiver with those that are too long.

An error packet of the peer ends a transfer in every phase, without another attempt, and its message
names the code and the text (specification §7, §10.3 and §8, Scenario D). All of that holds of a
sender, and of a receiver as far as the packet fits into its room: with blocks of 8 bytes, "file not
found" does not.

Out of scope: error packets before the first wait, which nobody receives, and after the last one,
which nobody hears.
-/

namespace Tftp

open Bytes

/-! ## Error packets -/

/-- An error packet, as a peer may send it. -/
structure PeerError where
  /-- The two bytes of the code. -/
  high : UInt8
  low : UInt8
  text : Bytes
  /-- What follows the zero byte of the text. -/
  trailing : Bytes
  text_plain : 0 ∉ text

namespace PeerError

/-- The datagram. -/
def bytes (e : PeerError) : Bytes := [0, 5, e.high, e.low] ++ terminated e.text ++ e.trailing

/-- The code, 0 instead of one that is not defined. -/
def code (e : PeerError) : UInt16 := if toWord e.high e.low ≤ 8 then toWord e.high e.low else 0

/-- What a transfer that an error packet ends fails for. -/
def failure (e : PeerError) : Failure := .peerError ⟨e.code⟩ e.text

theorem decode_bytes (e : PeerError) : Packet.decode e.bytes = .ok (.error ⟨e.code⟩ e.text) :=
  decode_of_written (.error e.high e.low e.trailing e.text_plain)

end PeerError

/-- The message names the code and gives the whole text. -/
theorem PeerError.message_failure (e : PeerError) :
    e.failure.message =
      ascii "Received error code " ++ decimal e.code.toNat ++ ascii ": " ++ e.text := by
  refine Failure.message_of_zero_notMem ?_
  have hheading : 0 ∉ ascii "Received error code " := by decide
  have hcolon : 0 ∉ ascii ": " := by decide
  simp only [failure, Failure.wording, List.mem_append, not_or]
  exact ⟨⟨⟨hheading, zero_notMem_decimal _⟩, hcolon⟩, e.text_plain⟩

/-- An error packet is recognised where there is room for it, and is malformed otherwise. -/
theorem Arrival.ofAnswer_peerError (room : Nat) (source : Address) (e : PeerError) :
    ofAnswer room (.ok ⟨source, e.bytes⟩) =
      if e.bytes.length ≤ room then packet source (.error ⟨e.code⟩ e.text)
      else malformed (.tooLarge e.bytes.length) := by
  split
  · rename_i hfits
    rw [ofAnswer_of_length_le hfits, e.decode_bytes]
  · rename_i hlong
    exact ofAnswer_of_longer (Nat.lt_of_not_le hlong)

/-! ## Sending -/

namespace Sender

/-- An error packet ended a sender that was in state `u`: it is aborted, and nothing was counted. -/
structure EndedBy (e : PeerError) (u t : Sender) : Prop where
  outcome : t.outcome? = some (.error e.failure)
  stage : t.stage = .aborted
  transferred : t.transferred = u.transferred
  misses : t.misses = u.misses

variable {e : PeerError} {s t u : Sender}

theorem afterFirstAnswer_peerError (fits : e.bytes.length ≤ datagramRoom) (source : Address) :
    EndedBy e u (u.afterFirstAnswer (.ok ⟨source, e.bytes⟩)) := by
  unfold afterFirstAnswer
  rw [Arrival.ofAnswer_peerError, if_pos fits]
  exact ⟨rfl, rfl, rfl, rfl⟩

theorem afterAnswer_peerError (fits : e.bytes.length ≤ datagramRoom) (attempt : Attempt)
    (source : Address) :
    EndedBy e u (u.afterAnswer attempt (.ok ⟨source, e.bytes⟩)) := by
  unfold afterAnswer
  rw [Arrival.ofAnswer_peerError, if_pos fits]
  exact ⟨rfl, rfl, rfl, rfl⟩

/-- A sender that waits is ended by any error packet. -/
theorem endedBy_of_asks (fits : e.bytes.length ≤ datagramRoom) {room : Nat}
    {resume : Except SystemError Datagram → Sender}
    (asks : u.ask? = some ⟨.receiveDatagram room, resume⟩) (source : Address) :
    EndedBy e u (resume (.ok ⟨source, e.bytes⟩)) := by
  cases asks_of_ask? asks with
  | confirming => exact afterFirstAnswer_peerError fits source
  | awaiting => exact afterAnswer_peerError fits _ source

/-- An error packet is the last thing that happens to a sender. -/
theorem endedBy_of_runs (fits : e.bytes.length ≤ datagramRoom) {source : Address}
    {before after : List Event} {room : Nat}
    (run : Runs ask? s (before ++ ⟨.receiveDatagram room, .ok ⟨source, e.bytes⟩⟩ :: after) t) :
    after = [] ∧ ∃ u, Runs ask? s before u ∧ EndedBy e u t := by
  obtain ⟨u, hbefore, hrun⟩ := run.split
  cases hrun with
  | cons answer asks rest =>
    have hended := endedBy_of_asks fits asks source
    have hnone := ask?_eq_none_iff.mpr (by rw [hended.outcome]; rfl)
    obtain ⟨rfl, rfl⟩ := rest.eq_of_ended hnone
    exact ⟨rfl, u, hbefore, hended⟩

end Sender

/-! ## Receiving -/

namespace Receiver

/-- An error packet ended a receiver that was in state `u`: it is aborted, and nothing was counted
or accepted. -/
structure EndedBy (e : PeerError) (u t : Receiver) : Prop where
  outcome : t.outcome? = some (.error e.failure)
  stage : t.stage = .aborted
  transferred : t.transferred = u.transferred
  misses : t.misses = u.misses
  accepted : t.accepted = u.accepted

variable {e : PeerError} {r t u : Receiver}

/-! ### The block size -/

theorem blockSize_miss (misses : Nat) : (r.miss misses).blockSize = r.blockSize := by
  unfold miss
  dsimp only
  split <;> rfl

theorem blockSize_store (block : UInt16) (payload : Bytes) :
    (r.store block payload).blockSize = r.blockSize := by
  unfold store
  split <;> rfl

theorem blockSize_afterAnswer (misses : Nat) (answer : Except SystemError Datagram) :
    (r.afterAnswer misses answer).blockSize = r.blockSize := by
  unfold afterAnswer
  dsimp only
  split
  · split
    · exact blockSize_store _ _
    · split
      · rfl
      · exact blockSize_miss misses
  · rfl
  · rfl
  · exact blockSize_miss misses

/-- No answer changes the block size. -/
theorem blockSize_of_asks {call : Call} {resume : call.Answer → Receiver}
    (asks : u.ask? = some ⟨call, resume⟩) (answer : call.Answer) :
    (resume answer).blockSize = u.blockSize := by
  cases asks_of_ask? asks with
  | polling =>
    unfold afterPoll
    split <;> rfl
  | awaiting => exact blockSize_afterAnswer _ answer
  | repeating =>
    cases answer with
    | ok => exact blockSize_miss _
    | error reason => rfl
  | acknowledging =>
    unfold afterAcknowledgement
    dsimp only
    split
    · rfl
    · split <;> rfl
  | writing | flushing | refusing => cases answer <;> rfl

theorem blockSize_of_runs {es : List Event} (run : Runs ask? r es t) :
    t.blockSize = r.blockSize := by
  induction run with
  | nil => rfl
  | cons answer asks _ ih => exact ih.trans (blockSize_of_asks asks answer)

/-! ### Answers -/

theorem afterAnswer_peerError (fits : e.bytes.length ≤ headerLength + u.blockSize) (misses : Nat)
    (source : Address) :
    EndedBy e u (u.afterAnswer misses (.ok ⟨source, e.bytes⟩)) := by
  unfold afterAnswer
  dsimp only
  rw [Arrival.ofAnswer_peerError, if_pos fits]
  exact ⟨rfl, rfl, rfl, rfl, rfl⟩

theorem afterAnswer_longPeerError (long : headerLength + u.blockSize < e.bytes.length)
    (misses : Nat) (source : Address) :
    u.afterAnswer misses (.ok ⟨source, e.bytes⟩) =
      miss { u with traffic := u.traffic.countAnswer (.ok ⟨source, e.bytes⟩) } misses := by
  unfold afterAnswer
  dsimp only
  rw [Arrival.ofAnswer_peerError, if_neg (Nat.not_le_of_lt long)]

/-- A receiver asks for a datagram only when it waits for a block. -/
theorem awaiting_of_asks {room : Nat} {resume : Except SystemError Datagram → Receiver}
    (asks : u.ask? = some ⟨.receiveDatagram room, resume⟩) :
    ∃ misses, u.phase = .awaiting misses ∧ resume = u.afterAnswer misses := by
  cases asks_of_ask? asks with
  | awaiting hp => exact ⟨_, hp, rfl⟩

/-! ### Runs -/

variable {source : Address} {before after : List Event} {room : Nat}

/-- An error packet that is no longer than a block is the last thing that happens to a receiver. -/
theorem endedBy_of_runs (fits : e.bytes.length ≤ r.blockSize + 4)
    (run : Runs ask? r (before ++ ⟨.receiveDatagram room, .ok ⟨source, e.bytes⟩⟩ :: after) t) :
    after = [] ∧ ∃ u, Runs ask? r before u ∧ EndedBy e u t := by
  obtain ⟨u, hbefore, hrun⟩ := run.split
  rw [← blockSize_of_runs hbefore, Nat.add_comm] at fits
  cases hrun with
  | cons answer asks rest =>
    obtain ⟨misses, -, rfl⟩ := awaiting_of_asks asks
    have hended := afterAnswer_peerError fits misses source
    have hnone := ask?_eq_none_iff.mpr (by rw [hended.outcome]; rfl)
    obtain ⟨rfl, rfl⟩ := rest.eq_of_ended hnone
    exact ⟨rfl, u, hbefore, hended⟩

/-- A receiver counts an error packet that is longer than a block as a miss, and goes on. -/
theorem miss_of_runs (long : r.blockSize + 4 < e.bytes.length)
    (run : Runs ask? r (before ++ ⟨.receiveDatagram room, .ok ⟨source, e.bytes⟩⟩ :: after) t) :
    ∃ u misses, Runs ask? r before u ∧ u.phase = .awaiting misses ∧
      Runs ask? (miss { u with traffic := u.traffic.countAnswer (.ok ⟨source, e.bytes⟩) } misses)
        after t := by
  obtain ⟨u, hbefore, hrun⟩ := run.split
  rw [← blockSize_of_runs hbefore, Nat.add_comm] at long
  cases hrun with
  | cons answer asks rest =>
    obtain ⟨misses, hp, rfl⟩ := awaiting_of_asks asks
    rw [afterAnswer_longPeerError long] at rest
    exact ⟨u, misses, hbefore, hp, rest⟩

end Receiver

/-! ## Both sides -/

/-- **Which error packets end a transfer**, and how:

* the failure is of the kind `peerError`, and its message names the code and the whole text;
* an error packet of any length ends a sender, whether it waits for the first answer or for an
  acknowledgement; no call follows, nothing was counted, and no byte was read;
* an error packet that is no longer than a block ends a receiver in the same way, and the file stays
  as it was;
* a receiver counts an error packet that is longer than a block as a miss, and goes on. -/
theorem peerError_ends (e : PeerError) (source : Address) (before after : List Event) (room : Nat) :
    (e.failure.kind = .peerError ∧ e.failure.message =
        ascii "Received error code " ++ decimal e.code.toNat ++ ascii ": " ++ e.text) ∧
      (∀ s t, e.bytes.length ≤ datagramRoom →
        Runs Sender.ask? s (before ++ ⟨.receiveDatagram room, .ok ⟨source, e.bytes⟩⟩ :: after) t →
        after = [] ∧ (∃ u, Runs Sender.ask? s before u ∧ Sender.EndedBy e u t) ∧
          ∀ rest rest', Along Reads rest
            (⟨.receiveDatagram room, .ok ⟨source, e.bytes⟩⟩ :: after) rest' → rest' = rest) ∧
      (∀ r t, e.bytes.length ≤ r.blockSize + 4 →
        Runs Receiver.ask? r (before ++ ⟨.receiveDatagram room, .ok ⟨source, e.bytes⟩⟩ :: after) t →
        after = [] ∧ (∃ u, Runs Receiver.ask? r before u ∧ Receiver.EndedBy e u t) ∧
          ∀ f f', Along Writes f
            (⟨.receiveDatagram room, .ok ⟨source, e.bytes⟩⟩ :: after) f' → f' = f) ∧
      (∀ r t, r.blockSize + 4 < e.bytes.length →
        Runs Receiver.ask? r (before ++ ⟨.receiveDatagram room, .ok ⟨source, e.bytes⟩⟩ :: after) t →
        ∃ u misses, Runs Receiver.ask? r before u ∧ u.phase = .awaiting misses ∧
          Runs Receiver.ask? (Receiver.miss
            { u with traffic := u.traffic.countAnswer (.ok ⟨source, e.bytes⟩) } misses)
            after t) := by
  refine ⟨⟨rfl, e.message_failure⟩, ?_, ?_, ?_⟩
  · intro s t fits run
    obtain ⟨rfl, hended⟩ := Sender.endedBy_of_runs fits run
    refine ⟨rfl, hended, ?_⟩
    rintro rest rest' (_ | ⟨first, _ | _⟩)
    exact first
  · intro r t fits run
    obtain ⟨rfl, hended⟩ := Receiver.endedBy_of_runs fits run
    refine ⟨rfl, hended, ?_⟩
    rintro f f' (_ | ⟨first, _ | _⟩)
    exact first
  · intro r t long run
    exact Receiver.miss_of_runs long run

/-- The error packet for a file that does not exist. -/
def PeerError.fileNotFound : PeerError := ⟨0, 1, ascii "file not found", [], by decide⟩

/-- It ends a receiver of blocks of 512 bytes, and a sender that waits for the first answer. -/
theorem fileNotFound_ends :
    (∃ t, Runs Receiver.ask? (Receiver.new 512 6 .zero).receiveFile
        [⟨.pollCancelled, false⟩,
          ⟨.receiveDatagram 516, .ok ⟨.unspecified, PeerError.fileNotFound.bytes⟩⟩] t ∧
      t.outcome? = some (.error PeerError.fileNotFound.failure) ∧ t.misses = 0) ∧
      ∃ t, Runs Sender.ask? (Sender.new 512 6 .zero).confirm
          [⟨.receiveDatagram datagramRoom, .ok ⟨.unspecified, PeerError.fileNotFound.bytes⟩⟩] t ∧
        t.outcome? = some (.error PeerError.fileNotFound.failure) ∧ t.misses = 0 := by
  have hlength : PeerError.fileNotFound.bytes.length = 19 := by decide
  constructor
  · have hrun : Runs Receiver.ask? (Receiver.new 512 6 .zero).receiveFile
        ([⟨.pollCancelled, false⟩] ++
          [⟨.receiveDatagram 516, .ok ⟨.unspecified, PeerError.fileNotFound.bytes⟩⟩]) _ :=
      .cons _ rfl (.cons _ rfl (.nil _))
    obtain ⟨-, -, hreceiver, -⟩ :=
      peerError_ends .fileNotFound .unspecified [⟨.pollCancelled, false⟩] [] 516
    obtain ⟨-, ⟨u, hbefore, hended⟩, -⟩ := hreceiver _ _ (by rw [hlength]; decide) hrun
    cases hbefore with
    | cons _ asks rest =>
      cases asks
      cases rest
      exact ⟨_, hrun, hended.outcome, hended.misses⟩
  · have hrun : Runs Sender.ask? (Sender.new 512 6 .zero).confirm
        ([] ++ [⟨.receiveDatagram datagramRoom,
          .ok ⟨.unspecified, PeerError.fileNotFound.bytes⟩⟩]) _ := .cons _ rfl (.nil _)
    obtain ⟨-, hsender, -⟩ := peerError_ends .fileNotFound .unspecified [] [] datagramRoom
    obtain ⟨-, ⟨u, hbefore, hended⟩, -⟩ := hsender _ _ (by rw [hlength]; decide) hrun
    cases hbefore
    exact ⟨_, hrun, hended.outcome, hended.misses⟩

/-- It is too long for a receiver of blocks of 8 bytes, which counts a miss and is still under
way. -/
theorem fileNotFound_missed :
    PeerError.fileNotFound.bytes.length = 19 ∧
      ∃ t, Runs Receiver.ask? (Receiver.new 8 6 .zero).receiveFile
          [⟨.pollCancelled, false⟩,
            ⟨.receiveDatagram 12, .ok ⟨.unspecified, PeerError.fileNotFound.bytes⟩⟩] t ∧
        t.outcome? = none ∧ t.misses = 1 :=
  ⟨by decide, _, .cons _ rfl (.cons _ rfl (.nil _)), rfl, rfl⟩

end Tftp
