import Tftp.Sender
import Tftp.Proofs.Chunk
import Tftp.Proofs.File

/-!
# What a sender sends

A sender that reads a file `F` in blocks of `B` bytes is followed through any trace, whatever its
waits bring, whatever sends and reads fail, and whenever it is cancelled.

* `Progress` is what a trace says about the file without looking at the sender: how many chunks were
  acknowledged, and whether the next one was handed out since.
* `At` is the invariant: it ties each phase of the sender to the progress of its trace and to what
  is left to read.

Results:
* `At.next`: each call of a sender and each answer keeps the invariant.
* `At.handed`: a sender hands out nothing but the chunk after the acknowledged ones.
* `At.outcome?_eq_ok_iff`: a sender returns normally exactly when the last chunk is acknowledged.

The loop is that of the specification (§4.5). The invariant has no condition on the answers:
whatever is acknowledged, repeated or lost, the only data that a sender hands out is the chunk after
the acknowledged ones, which is what makes a transfer one of stop-and-wait (§5).

Out of scope: whether an acknowledgement means what it says. A peer may acknowledge a block that it
has not stored; for a peer that is a receiver of this library see `Tftp.Proofs.Network.Agreement`.
-/

namespace Tftp

/-- The block that an arrival acknowledges. -/
def Arrival.acknowledged? : Arrival → Option UInt16
  | .packet _ (.ack block) => some block
  | _ => none

theorem Arrival.acknowledged?_eq_some_iff {a : Arrival} {block : UInt16} :
    a.acknowledged? = some block ↔ ∃ source, a = .packet source (.ack block) := by
  unfold acknowledged?
  constructor
  · intro h
    split at h
    · cases h
      exact ⟨_, rfl⟩
    · cases h
  · rintro ⟨source, rfl⟩
    rfl

/-- The block that a wait found acknowledged. -/
def Event.acknowledged? : Event → Option UInt16
  | ⟨.receiveDatagram room, answer⟩ => (Arrival.ofAnswer room answer).acknowledged?
  | _ => none

theorem Event.acknowledged?_eq_some_iff {e : Event} {block : UInt16} :
    e.acknowledged? = some block ↔ ∃ room source bytes,
      e = ⟨.receiveDatagram room, .ok ⟨source, bytes⟩⟩ ∧ bytes.length ≤ room ∧
        Packet.decode bytes = .ok (.ack block) := by
  constructor
  · intro h
    unfold acknowledged? at h
    split at h
    · obtain ⟨source, harrival⟩ := Arrival.acknowledged?_eq_some_iff.mp h
      obtain ⟨bytes, rfl, hlen, hdecode⟩ := Arrival.ofAnswer_eq_packet_iff.mp harrival
      exact ⟨_, source, bytes, rfl, hlen, hdecode⟩
    · cases h
  · rintro ⟨room, source, bytes, rfl, hlen, hdecode⟩
    exact Arrival.acknowledged?_eq_some_iff.mpr
      ⟨source, Arrival.ofAnswer_eq_packet_iff.mpr ⟨bytes, rfl, hlen, hdecode⟩⟩

namespace Sender

/-! ## Progress -/

/-- How far a trace has come with a file. -/
structure Progress where
  /-- How many chunks were acknowledged. -/
  acknowledged : Nat
  /-- Whether the chunk after them was handed out. -/
  handedOut : Bool

/-- How many chunks were handed out. -/
def Progress.started (p : Progress) : Nat := p.acknowledged + p.handedOut.toNat

/-- The progress after one more event. An acknowledgement counts if it names the chunk that is due
and comes after a copy of that chunk. -/
def Progress.next (F : Bytes) (B : Nat) (p : Progress) (e : Event) : Progress :=
  if e.handed? = some (chunkPacket F B p.acknowledged).encode then ⟨p.acknowledged, true⟩
  else if p.handedOut = true ∧ e.acknowledged? = some (wireNumber (p.acknowledged + 1)) then
    ⟨p.acknowledged + 1, false⟩
  else p

/-- The progress of a trace. -/
def progress (F : Bytes) (B : Nat) (es : List Event) : Progress :=
  es.foldl (Progress.next F B) ⟨0, false⟩

theorem progress_snoc (F : Bytes) (B : Nat) (es : List Event) (e : Event) :
    progress F B (es ++ [e]) = (progress F B es).next F B e := by
  rw [progress, List.foldl_append]
  rfl

/-- An event that hands nothing out makes progress only as an acknowledgement. -/
theorem Progress.next_of_silent {F : Bytes} {B : Nat} {p : Progress} {e : Event}
    (silent : e.handed? = none) :
    p.next F B e =
      if p.handedOut = true ∧ e.acknowledged? = some (wireNumber (p.acknowledged + 1)) then
        ⟨p.acknowledged + 1, false⟩
      else p := by
  unfold Progress.next
  rw [silent, if_neg (Option.some_ne_none _).symm]

theorem Progress.next_of_none {F : Bytes} {B : Nat} {p : Progress} {e : Event}
    (handed : e.handed? = none) (acknowledged : e.acknowledged? = none) : p.next F B e = p := by
  rw [Progress.next_of_silent handed, acknowledged, if_neg fun h => nomatch h.2]

/-- Only the acknowledgement of the chunk that is due makes progress with the acknowledged ones. -/
theorem Progress.next_acknowledged (F : Bytes) (B : Nat) (p : Progress) (e : Event) :
    (p.next F B e).acknowledged = p.acknowledged ∨
      (p.next F B e).acknowledged = p.acknowledged + 1 ∧
        e.acknowledged? = some (wireNumber (p.acknowledged + 1)) := by
  unfold Progress.next
  split
  · exact Or.inl rfl
  · split
    · rename_i hack
      exact Or.inr ⟨rfl, hack.2⟩
    · exact Or.inl rfl

/-! ## The invariant -/

/-- The block in flight is chunk `n`, and it has been read. -/
structure InFlight (F : Bytes) (B n : Nat) (rest : Bytes) (attempt : Attempt) : Prop where
  block : attempt.block = wireNumber (n + 1)
  payload : attempt.payload = chunk F B n
  due : n < blockCount F B
  read : rest = F.drop ((n + 1) * B)

/-- What a phase has to do with the progress and with what is left to read. -/
def PhaseAt (F : Bytes) (B : Nat) (p : Progress) (rest : Bytes) : Phase → Prop
  | .reading block =>
    block = wireNumber (p.acknowledged + 1) ∧ p.acknowledged < blockCount F B ∧
      p.handedOut = false ∧ rest = F.drop (p.acknowledged * B)
  | .polling attempt | .sending attempt => InFlight F B p.acknowledged rest attempt
  | .awaiting attempt => InFlight F B p.acknowledged rest attempt ∧ p.handedOut = true
  | .ended (.ok ()) => p.acknowledged = blockCount F B ∧ p.handedOut = false
  | .ended (.error _) => p.acknowledged < blockCount F B
  | .confirming | .rejecting _ => False

/-- **The invariant of a sender** with progress `p` and `rest` left to read, which had transferred
`base` bytes before it began with the file. -/
structure At (F : Bytes) (B base : Nat) (p : Progress) (rest : Bytes) (s : Sender) : Prop where
  size : s.blockSize = B
  transferred : s.transferred = base + (chunks F B p.acknowledged).flatten.length
  phase : PhaseAt F B p rest s.phase
  done : s.outcome? = some (.ok ()) → s.stage = .done

variable {F : Bytes} {B base : Nat} {p : Progress} {rest rest' : Bytes} {s : Sender}

theorem at_sendFile (s : Sender) : At F s.blockSize s.transferred ⟨0, false⟩ F s.sendFile := by
  refine ⟨rfl, rfl, ⟨rfl, Nat.succ_pos _, rfl, ?_⟩, nofun⟩
  rw [Nat.zero_mul, List.drop_zero]

/-! ## Steps -/

theorem At.phaseAt (h : At F B base p rest s) {phase : Phase} (hp : s.phase = phase) :
    PhaseAt F B p rest phase := hp ▸ h.phase

theorem At.withTraffic (h : At F B base p rest s) (traffic : Traffic) :
    At F B base p rest { s with traffic } := ⟨h.size, h.transferred, h.phase, h.done⟩

theorem At.stop (h : At F B base p rest s) (due : p.acknowledged < blockCount F B)
    (failure : Failure) : At F B base p rest' (s.stop failure) :=
  ⟨h.size, h.transferred, due, nofun⟩

theorem At.abort (h : At F B base p rest s) (due : p.acknowledged < blockCount F B)
    (failure : Failure) : At F B base p rest' (s.abort failure) :=
  ⟨h.size, h.transferred, due, nofun⟩

theorem At.afterRead (h : At F B base p rest s) {block : UInt16} (hp : s.phase = .reading block)
    {answer : Except SystemError Bytes}
    (reads : Reads rest ⟨.readBytes s.blockSize, answer⟩ rest') :
    At F B base p rest' (s.afterRead block answer) := by
  obtain ⟨hblock, due, -, hrest⟩ := h.phaseAt hp
  cases answer with
  | error reason => exact h.abort due _
  | ok payload =>
    obtain ⟨rfl, rfl⟩ := reads
    refine ⟨h.size, h.transferred, ⟨hblock, ?_, due, ?_⟩, nofun⟩
    · rw [hrest, h.size, chunk]
    · rw [hrest, h.size, drop_succ_mul]

theorem At.afterPoll (h : At F B base p rest s) {attempt : Attempt}
    (hp : s.phase = .polling attempt) (cancelled : Bool) :
    At F B base p rest (s.afterPoll attempt cancelled) := by
  have flight : InFlight F B p.acknowledged rest attempt := h.phaseAt hp
  unfold Sender.afterPoll
  split
  · exact h.abort flight.due _
  · exact ⟨h.size, h.transferred, flight, nofun⟩

theorem At.afterSend (h : At F B base p rest s) {attempt : Attempt}
    (hp : s.phase = .sending attempt) (answer : Except SystemError Unit) :
    At F B base ⟨p.acknowledged, true⟩ rest (s.afterSend attempt answer) := by
  have flight : InFlight F B p.acknowledged rest attempt := h.phaseAt hp
  cases answer with
  | ok => exact ⟨h.size, h.transferred, ⟨flight, rfl⟩, nofun⟩
  | error reason => exact ⟨h.size, h.transferred, flight.due, nofun⟩

theorem At.miss (h : At F B base p rest s) {attempt : Attempt}
    (flight : InFlight F B p.acknowledged rest attempt) :
    At F B base p rest (s.miss attempt) := by
  unfold Sender.miss
  dsimp only
  split
  · exact ⟨h.size, h.transferred, flight.due, nofun⟩
  · exact ⟨h.size, h.transferred, ⟨flight.block, flight.payload, flight.due, flight.read⟩, nofun⟩

/-- The next chunk is due unless this one was shorter than the block size. -/
theorem At.advance (hB : 0 < B) (h : At F B base p rest s) {attempt : Attempt}
    (flight : InFlight F B p.acknowledged rest attempt) :
    At F B base ⟨p.acknowledged + 1, false⟩ rest (s.advance attempt) := by
  have htransferred : s.transferred + attempt.payload.length
      = base + (chunks F B (p.acknowledged + 1)).flatten.length := by
    rw [h.transferred, flight.payload, chunks_succ, List.flatten_append, List.flatten_singleton,
      List.length_append, Nat.add_assoc]
  have hlast : attempt.payload.length < s.blockSize ↔ p.acknowledged + 1 = blockCount F B := by
    rw [flight.payload, h.size]
    exact length_chunk_lt_iff hB flight.due
  unfold Sender.advance
  by_cases hshort : attempt.payload.length < s.blockSize
  · rw [if_pos hshort]
    exact ⟨h.size, htransferred, ⟨hlast.mp hshort, rfl⟩, fun _ => rfl⟩
  · rw [if_neg hshort]
    refine ⟨h.size, htransferred, ⟨?_, ?_, rfl, flight.read⟩, nofun⟩
    · rw [flight.block, nextBlock_wireNumber]
    · have hne := mt hlast.mpr hshort
      have hlt := flight.due
      show p.acknowledged + 1 < blockCount F B
      omega

theorem At.afterAnswer (hB : 0 < B) (h : At F B base p rest s) {attempt : Attempt}
    (hp : s.phase = .awaiting attempt) (answer : Except SystemError Datagram) :
    At F B base (p.next F B ⟨.receiveDatagram datagramRoom, answer⟩) rest
      (s.afterAnswer attempt answer) := by
  obtain ⟨flight, hout⟩ := h.phaseAt hp
  have h' := h.withTraffic (s.traffic.countAnswer answer)
  unfold Sender.afterAnswer
  by_cases hack : Event.acknowledged? ⟨.receiveDatagram datagramRoom, answer⟩
      = some (wireNumber (p.acknowledged + 1))
  · obtain ⟨source, harrival⟩ := Arrival.acknowledged?_eq_some_iff.mp hack
    rw [Progress.next_of_silent rfl, if_pos ⟨hout, hack⟩]
    simp only [harrival, flight.block, if_true]
    exact h'.advance hB flight
  · rw [Progress.next_of_silent rfl, if_neg fun hand => hack hand.2]
    simp only
    split
    · rename_i source block harrival
      have hne : block ≠ attempt.block := by
        rintro rfl
        exact hack (Arrival.acknowledged?_eq_some_iff.mpr ⟨source, flight.block ▸ harrival⟩)
      rw [if_neg hne]
      exact h'.miss flight
    · exact h'.abort flight.due _
    · exact h'.stop flight.due _
    · exact h'.miss flight

/-- **Every call of a sender and every answer keep the invariant.** -/
theorem At.next (hB : 0 < B) (h : At F B base p rest s) {call : Call}
    {resume : call.Answer → Sender} {answer : call.Answer} (asks : s.ask? = some ⟨call, resume⟩)
    (reads : Reads rest ⟨call, answer⟩ rest') :
    At F B base (p.next F B ⟨call, answer⟩) rest' (resume answer) := by
  unfold ask? at asks
  cases hp : s.phase with
  | confirming | rejecting => exact (h.phaseAt hp).elim
  | reading block =>
    rw [hp] at asks
    cases asks
    rw [Progress.next_of_none rfl rfl]
    exact h.afterRead hp reads
  | polling attempt =>
    rw [hp] at asks
    cases asks
    obtain rfl : rest' = rest := reads
    rw [Progress.next_of_none rfl rfl]
    exact h.afterPoll hp answer
  | sending attempt =>
    rw [hp] at asks
    cases asks
    obtain rfl : rest' = rest := reads
    have flight : InFlight F B p.acknowledged rest' attempt := h.phaseAt hp
    have hcopy : Packet.data attempt.block attempt.payload = chunkPacket F B p.acknowledged := by
      rw [flight.block, flight.payload, chunkPacket]
    rw [Progress.next, if_pos (by rw [← hcopy]; rfl)]
    exact h.afterSend hp answer
  | awaiting attempt =>
    rw [hp] at asks
    cases asks
    obtain rfl : rest' = rest := reads
    exact h.afterAnswer hB hp answer
  | ended outcome =>
    rw [hp] at asks
    cases asks

/-- A sender hands out nothing but the chunk after the acknowledged ones. -/
theorem At.handed (h : At F B base p rest s) {call : Call} {resume : call.Answer → Sender}
    {answer : call.Answer} (asks : s.ask? = some ⟨call, resume⟩) {bytes : Bytes}
    (sends : Event.handed? ⟨call, answer⟩ = some bytes) :
    bytes = (chunkPacket F B p.acknowledged).encode ∧ p.acknowledged < blockCount F B := by
  unfold ask? at asks
  cases hp : s.phase with
  | confirming | rejecting => exact (h.phaseAt hp).elim
  | sending attempt =>
    rw [hp] at asks
    cases asks
    have flight : InFlight F B p.acknowledged rest attempt := h.phaseAt hp
    refine ⟨?_, flight.due⟩
    rw [← Option.some.inj sends, flight.block, flight.payload, chunkPacket]
  | reading | polling | awaiting =>
    rw [hp] at asks
    cases asks
    cases sends
  | ended =>
    rw [hp] at asks
    cases asks

/-- A sender is under way or has failed with a chunk still due, or it has returned normally with the
last chunk acknowledged. -/
theorem At.due_or_done (h : At F B base p rest s) :
    p.acknowledged < blockCount F B ∧ s.outcome? ≠ some (.ok ()) ∨
      p.acknowledged = blockCount F B ∧ p.handedOut = false ∧ s.outcome? = some (.ok ()) := by
  unfold outcome?
  cases hp : s.phase with
  | confirming | rejecting => exact (h.phaseAt hp).elim
  | reading => exact Or.inl ⟨(h.phaseAt hp).2.1, nofun⟩
  | polling attempt | sending attempt =>
    have flight : InFlight F B p.acknowledged rest attempt := h.phaseAt hp
    exact Or.inl ⟨flight.due, nofun⟩
  | awaiting => exact Or.inl ⟨(h.phaseAt hp).1.due, nofun⟩
  | ended outcome =>
    cases outcome with
    | ok =>
      obtain ⟨hlast, hidle⟩ := h.phaseAt hp
      exact Or.inr ⟨hlast, hidle, rfl⟩
    | error failure =>
      have due : p.acknowledged < blockCount F B := h.phaseAt hp
      exact Or.inl ⟨due, nofun⟩

/-- As long as a sender asks, a chunk is due. -/
theorem At.due_of_asks (h : At F B base p rest s) {ask : Ask Sender} (asks : s.ask? = some ask) :
    p.acknowledged < blockCount F B := by
  rcases h.due_or_done with ⟨due, -⟩ | ⟨-, -, hok⟩
  · exact due
  · rw [outcome?_eq_none_of_asks asks] at hok
    cases hok

/-- A sender has returned normally exactly when the last chunk is acknowledged. -/
theorem At.outcome?_eq_ok_iff (h : At F B base p rest s) :
    s.outcome? = some (.ok ()) ↔ p.acknowledged = blockCount F B := by
  rcases h.due_or_done with ⟨due, hout⟩ | ⟨hlast, -, hok⟩
  · exact ⟨fun hok => absurd hok hout, fun hlast => absurd hlast (Nat.ne_of_lt due)⟩
  · exact ⟨fun _ => hlast, fun _ => hok⟩

/-- No more chunks are handed out than the file has. -/
theorem At.started_le (h : At F B base p rest s) : p.started ≤ blockCount F B := by
  have hbit := Bool.toNat_le p.handedOut
  unfold Progress.started
  rcases h.due_or_done with ⟨due, -⟩ | ⟨hlast, hidle, -⟩
  · omega
  · rw [hlast, hidle]
    exact Nat.le_refl _

end Sender

end Tftp
