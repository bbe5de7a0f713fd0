import Tftp.Proofs.Asks
import Tftp.Proofs.RoundTrip
import Tftp.Proofs.Sending.Accounting
import Tftp.Proofs.Sending.Order
import Tftp.Proofs.Stage

/-!
# A file that cannot be read to its end

A file may have a place from which on it cannot be read. A read that reaches behind that place
fails, even if it does not reach behind the end of the file; so a sender is never given a short
block, and never takes the place for the end.

* `ReadsBelow` follows the position in such a file.
* `PhaseBelow` is the invariant: what a phase has to do with the position.

Results:
* `PhaseBelow.next`: each call of a sender and each answer keep the invariant.
* **`sendFile_unreadable`**: only whole blocks are sent, none reaches behind the place, the sender
  never returns normally, and once all blocks before the place are acknowledged its only course is
  to fail to read.

The specification has a file that cannot be opened (§7) and says nothing of one that cannot be read
on. A sender that took such a place for the end would send a short block, and its peer would store a
file that is cut and believe it whole. The statement rules that out.

Out of scope: a file that is shorter than its length was when it was measured. Its end is an end,
and the transfer announces a size that is not reached.
-/

namespace Tftp

/-- `ReadsBelow bad F position e position'`: at `position` of a file `F` that cannot be read from
`bad` on, `e` is possible and leads to `position'`. A read gives all it was asked for if that ends
at `bad` or before, and fails otherwise. -/
def ReadsBelow (bad : Nat) (F : Bytes) (position : Nat) (e : Event) (position' : Nat) : Prop :=
  match e with
  | ⟨.readBytes count, .ok bytes⟩ =>
    position + count ≤ bad ∧ bytes = (F.drop position).take count ∧ position' = position + count
  | ⟨.readBytes count, .error _⟩ => bad < position + count
  | _ => position' = position

variable {bad : Nat} {F : Bytes}

/-- A file that cannot be read to its end is a file. -/
theorem reads_of_readsBelow {position position' : Nat} {e : Event}
    (h : ReadsBelow bad F position e position') : Reads (F.drop position) e (F.drop position') := by
  unfold ReadsBelow at h
  split at h
  · obtain ⟨-, hbytes, rfl⟩ := h
    exact ⟨hbytes, List.drop_drop.symm⟩
  · trivial
  · rename_i hok herror
    subst h
    unfold Reads
    split
    · exact absurd rfl (hok _ _)
    · exact absurd rfl (herror _ _)
    · rfl

theorem along_reads_of_readsBelow {position position' : Nat} {es : List Event}
    (h : Along (ReadsBelow bad F) position es position') :
    Along Reads (F.drop position) es (F.drop position') := by
  induction h with
  | nil => exact .nil _
  | cons first _ ih => exact .cons (reads_of_readsBelow first) ih

/-- A chunk that ends before the end of the file is a whole block. -/
theorem length_chunk_of_le {B n : Nat} (h : (n + 1) * B ≤ F.length) : (chunk F B n).length = B := by
  rw [Nat.succ_mul] at h
  rw [chunk, List.length_take, List.length_drop]
  omega

namespace Sender

/-! ## The invariant -/

/-- What a phase has to do with the position in a file that cannot be read from `bad` on: the block
in flight ends at the position, and the sender fails to read only if the next block ends behind
`bad`. -/
def PhaseBelow (B bad : Nat) (p : Progress) (position : Nat) : Phase → Prop
  | .reading _ => position = p.acknowledged * B ∧ position ≤ bad
  | .polling _ | .sending _ | .awaiting _ => position = (p.acknowledged + 1) * B ∧ position ≤ bad
  | .ended (.error failure) => p.started * B ≤ bad ∧
      (failure.kind = .fileAccess → bad < (p.acknowledged + 1) * B) ∧
      (bad < (p.acknowledged + 1) * B → ∃ reason, failure = .readFailed reason)
  | .ended (.ok ()) | .confirming | .rejecting _ => False

variable {B base position position' : Nat} {p : Progress} {s : Sender}

/-- No more chunks are started than the acknowledged ones and the next. -/
theorem Progress.started_le_succ (p : Progress) : p.started ≤ p.acknowledged + 1 :=
  Nat.add_le_add_left (Bool.toNat_le p.handedOut) _

/-- A sender that fails otherwise than by a read has its block from before `bad`. -/
theorem phaseBelow_failed (flight : position = (p.acknowledged + 1) * B ∧ position ≤ bad)
    {failure : Failure} (other : failure.kind ≠ .fileAccess) :
    PhaseBelow B bad p position (.ended (.error failure)) := by
  obtain ⟨rfl, hle⟩ := flight
  refine ⟨(Nat.mul_le_mul_right B p.started_le_succ).trans hle, fun h => absurd h other, ?_⟩
  exact fun behind => absurd behind (Nat.not_lt.mpr hle)

/-! ## Steps -/

/-- A read at the block that is due gives the whole block, or fails because the block ends behind
`bad`. -/
theorem PhaseBelow.afterRead {block : UInt16} (idle : p.handedOut = false)
    (h : position = p.acknowledged * B ∧ position ≤ bad) {answer : Except SystemError Bytes}
    (reads : ReadsBelow bad F position ⟨.readBytes B, answer⟩ position') :
    PhaseBelow B bad p position' (s.afterRead block answer).phase := by
  obtain ⟨rfl, hle⟩ := h
  cases answer with
  | ok payload =>
    obtain ⟨hend, -, rfl⟩ := reads
    exact ⟨(Nat.succ_mul _ _).symm, hend⟩
  | error reason =>
    have hstarted : p.started = p.acknowledged := by
      rw [Progress.started, idle]
      rfl
    have hbehind : bad < (p.acknowledged + 1) * B := by
      rw [Nat.succ_mul]
      exact reads
    refine ⟨?_, fun _ => hbehind, fun _ => ⟨reason, rfl⟩⟩
    rw [hstarted]
    exact hle

theorem PhaseBelow.miss {attempt : Attempt}
    (h : position = (p.acknowledged + 1) * B ∧ position ≤ bad) :
    PhaseBelow B bad p position (s.miss attempt).phase := by
  unfold Sender.miss
  dsimp only
  split
  · exact phaseBelow_failed h nofun
  · exact h

/-- The block in flight was a whole one, so its acknowledgement is followed by a read. -/
theorem PhaseBelow.advance {attempt : Attempt} (hbad : bad ≤ F.length) (hsize : s.blockSize = B)
    (hpayload : attempt.payload = chunk F B p.acknowledged)
    (h : position = (p.acknowledged + 1) * B ∧ position ≤ bad) :
    PhaseBelow B bad ⟨p.acknowledged + 1, false⟩ position (s.advance attempt).phase := by
  obtain ⟨rfl, hle⟩ := h
  have hwhole : ¬ attempt.payload.length < s.blockSize := by
    rw [hpayload, hsize, length_chunk_of_le (hle.trans hbad)]
    exact Nat.lt_irrefl B
  unfold Sender.advance
  dsimp only
  rw [if_neg hwhole]
  exact ⟨rfl, hle⟩

theorem PhaseBelow.afterAnswer {rest : Bytes} (hbad : bad ≤ F.length) (at_ : At F B base p rest s)
    {attempt : Attempt} (hp : s.phase = .awaiting attempt)
    (h : position = (p.acknowledged + 1) * B ∧ position ≤ bad)
    (answer : Except SystemError Datagram) :
    PhaseBelow B bad (p.next F B ⟨.receiveDatagram datagramRoom, answer⟩) position
      (s.afterAnswer attempt answer).phase := by
  obtain ⟨flight, hout⟩ := at_.phaseAt hp
  -- Only the acknowledgement of the block in flight makes progress.
  have hstays : (Arrival.ofAnswer datagramRoom answer).acknowledged? ≠ some attempt.block →
      p.next F B ⟨.receiveDatagram datagramRoom, answer⟩ = p := by
    intro hother
    rw [flight.block] at hother
    rw [Progress.next_of_silent rfl, if_neg fun hack => hother hack.2]
  have hanswered := answered_afterAnswer s attempt answer
  generalize s.afterAnswer attempt answer = t at hanswered ⊢
  cases hanswered with
  | acknowledged ack =>
    rw [flight.block] at ack
    rw [Progress.next_of_silent rfl, if_pos ⟨hout, ack⟩]
    exact .advance hbad at_.size flight.payload h
  | missed misses =>
    rw [hstays (Arrival.acknowledged?_ne_of_misses misses)]
    exact .miss h
  | refused error =>
    rw [hstays (Arrival.acknowledged?_ne_of_error error)]
    exact phaseBelow_failed h nofun
  | failed socket =>
    rw [hstays (Arrival.acknowledged?_ne_of_failed socket)]
    exact phaseBelow_failed h (by rw [kind_of_failed socket]; nofun)

/-- **Each call of a sender and each answer keep the invariant.** -/
theorem PhaseBelow.next {rest : Bytes} (hbad : bad ≤ F.length) (at_ : At F B base p rest s)
    (h : PhaseBelow B bad p position s.phase) {call : Call} {resume : call.Answer → Sender}
    {answer : call.Answer} (asks : s.ask? = some ⟨call, resume⟩)
    (reads : ReadsBelow bad F position ⟨call, answer⟩ position') :
    PhaseBelow B bad (p.next F B ⟨call, answer⟩) position' (resume answer).phase := by
  cases asks_of_ask? asks with
  | confirming hp | rejecting hp =>
    rw [hp] at h
    exact h.elim
  | reading hp =>
    rw [hp] at h
    rw [at_.size] at reads
    rw [Progress.next_of_none rfl rfl]
    obtain ⟨-, -, idle, -⟩ := at_.phaseAt hp
    exact .afterRead idle h reads
  | polling hp =>
    rw [hp] at h
    obtain rfl : position' = position := reads
    rw [Progress.next_of_none rfl rfl]
    unfold afterPoll
    split
    · exact phaseBelow_failed h nofun
    · exact h
  | @sending attempt hp =>
    rw [hp] at h
    obtain rfl : position' = position := reads
    have hsame : (p.next F B
        ⟨.sendDatagram (Packet.data attempt.block attempt.payload).encode, answer⟩).acknowledged
          = p.acknowledged := by
      rcases Progress.next_acknowledged F B p _ with hsame | ⟨-, hack⟩
      · exact hsame
      · cases hack
    obtain ⟨hposition, hle⟩ := h
    rw [← hsame] at hposition
    cases answer with
    | ok => exact ⟨hposition, hle⟩
    | error reason => exact phaseBelow_failed ⟨hposition, hle⟩ nofun
  | awaiting hp =>
    rw [hp] at h
    obtain rfl : position' = position := reads
    exact .afterAnswer hbad at_ hp h answer

/-- Every run of `sendFile` keeps the invariant. -/
theorem phaseBelow_of_runs {t : Sender} {es : List Event} (hB : 0 < s.blockSize)
    (hbad : bad ≤ F.length) (run : Runs ask? s.sendFile es t)
    (file : Along (ReadsBelow bad F) 0 es position) :
    PhaseBelow s.blockSize bad (progress F s.blockSize es) position t.phase := by
  have both : At F s.blockSize s.transferred (progress F s.blockSize es) (F.drop position) t ∧
      PhaseBelow s.blockSize bad (progress F s.blockSize es) position t.phase := by
    refine run.induction_along (P := fun es t position =>
      At F s.blockSize s.transferred (progress F s.blockSize es) (F.drop position) t ∧
        PhaseBelow s.blockSize bad (progress F s.blockSize es) position t.phase) file
      ⟨at_sendFile s, (Nat.zero_mul _).symm, Nat.zero_le bad⟩ ?_
    rintro es u position call resume answer position' ⟨at_, h⟩ asks reads
    rw [progress_snoc]
    exact ⟨at_.next hB asks (reads_of_readsBelow reads), h.next hbad at_ asks reads⟩
  exact both.2

/-! ## Reading it back -/

/-- Every chunk that was handed out ends at `bad` or before. -/
theorem PhaseBelow.started_le {rest : Bytes} (at_ : At F B base p rest s)
    (h : PhaseBelow B bad p position s.phase) : p.started * B ≤ bad := by
  have hflight : position = (p.acknowledged + 1) * B ∧ position ≤ bad → p.started * B ≤ bad := by
    rintro ⟨rfl, hle⟩
    exact (Nat.mul_le_mul_right B p.started_le_succ).trans hle
  cases hp : s.phase with
  | confirming | rejecting =>
    rw [hp] at h
    exact h.elim
  | reading =>
    rw [hp] at h
    obtain ⟨-, -, idle, -⟩ := at_.phaseAt hp
    obtain ⟨rfl, hle⟩ := h
    rw [Progress.started, idle]
    exact hle
  | polling | sending | awaiting =>
    rw [hp] at h
    exact hflight h
  | ended outcome =>
    rw [hp] at h
    cases outcome with
    | ok => exact h.elim
    | error failure => exact h.1

theorem PhaseBelow.not_returned (h : PhaseBelow B bad p position s.phase) :
    s.outcome? ≠ some (.ok ()) := by
  intro hok
  unfold outcome? at hok
  split at hok
  · rename_i hp
    cases hok
    rw [hp] at h
    exact h
  · cases hok

/-- The next block ends behind `bad` exactly when all the whole blocks before are acknowledged. -/
theorem PhaseBelow.behind_iff (hB : 0 < B) {rest : Bytes} (at_ : At F B base p rest s)
    (h : PhaseBelow B bad p position s.phase) :
    bad < (p.acknowledged + 1) * B ↔ p.acknowledged = bad / B := by
  have hle : p.acknowledged ≤ bad / B := by
    rw [Nat.le_div_iff_mul_le hB]
    exact (Nat.mul_le_mul_right B (Nat.le_add_right _ _)).trans (h.started_le at_)
  rw [← Nat.div_lt_iff_lt_mul hB]
  omega

/-- A sender fails to access the file exactly if the next block ends behind `bad`. -/
theorem PhaseBelow.fileAccess_iff (h : PhaseBelow B bad p position s.phase) {failure : Failure}
    (failed : s.outcome? = some (.error failure)) :
    failure.kind = .fileAccess ↔ bad < (p.acknowledged + 1) * B := by
  unfold outcome? at failed
  split at failed
  · rename_i hp
    cases failed
    rw [hp] at h
    obtain ⟨-, hbehind, hread⟩ := h
    refine ⟨hbehind, fun behind => ?_⟩
    obtain ⟨reason, rfl⟩ := hread behind
    rfl
  · cases failed

/-- A sender has failed to read, or its next call is a read and whatever that brings it fails. -/
def FailsToRead (bad : Nat) (F : Bytes) (position : Nat) (s : Sender) : Prop :=
  (∃ reason, s.outcome? = some (.error (.readFailed reason))) ∨
    ∃ resume, s.ask? = some ⟨.readBytes s.blockSize, resume⟩ ∧ ∀ answer position',
      ReadsBelow bad F position ⟨.readBytes s.blockSize, answer⟩ position' →
        ∃ reason, (resume answer).outcome? = some (.error (.readFailed reason))

/-- Once the next block ends behind `bad`, nothing but a failure to read can happen. -/
theorem PhaseBelow.failsToRead {rest : Bytes} (at_ : At F B base p rest s)
    (h : PhaseBelow B bad p position s.phase) (behind : bad < (p.acknowledged + 1) * B) :
    FailsToRead bad F position s := by
  have hflight : ¬ (position = (p.acknowledged + 1) * B ∧ position ≤ bad) := by
    rintro ⟨rfl, hle⟩
    exact Nat.not_lt.mpr hle behind
  cases hp : s.phase with
  | confirming | rejecting =>
    rw [hp] at h
    exact h.elim
  | reading block =>
    rw [hp] at h
    refine Or.inr ⟨s.afterRead block, (Asks.reading hp).ask?, fun answer position' reads => ?_⟩
    cases answer with
    | ok payload =>
      obtain ⟨hend, -, -⟩ := reads
      rw [at_.size, h.1, ← Nat.succ_mul] at hend
      exact absurd hend (Nat.not_le.mpr behind)
    | error reason => exact ⟨reason, rfl⟩
  | polling | sending | awaiting =>
    rw [hp] at h
    exact absurd h hflight
  | ended outcome =>
    rw [hp] at h
    cases outcome with
    | ok => exact h.elim
    | error failure =>
      obtain ⟨reason, rfl⟩ := h.2.2 behind
      exact Or.inl ⟨reason, by rw [outcome?, hp]⟩

/-- **A read error is never mistaken for the end of the file.** After any run of `sendFile` on a
file `F` of which nothing can be read from `bad` on, whatever the waits brought and whichever other
calls failed:

* the call has not returned normally;
* only blocks that end at `bad` or before were handed out, one or more copies of each, in order;
* every datagram that was handed out is a data packet with a whole block;
* once every such block is acknowledged, all their bytes are counted, and the only course left is to
  fail to read;
* the call fails to read in no other case. -/
theorem sendFile_unreadable {t : Sender} {es : List Event} (hB : 0 < s.blockSize)
    (hbad : bad ≤ F.length) (run : Runs ask? s.sendFile es t)
    (file : Along (ReadsBelow bad F) 0 es position) :
    t.outcome? ≠ some (.ok ()) ∧
      (∃ copies : Nat → Nat,
        handed es = copied F s.blockSize copies (progress F s.blockSize es).started ∧
          ∀ n < (progress F s.blockSize es).started, 0 < copies n) ∧
      (progress F s.blockSize es).started ≤ bad / s.blockSize ∧
      (∀ bytes ∈ handed es, ∃ block payload,
        Packet.decode bytes = .ok (.data block payload) ∧ payload.length = s.blockSize) ∧
      ((progress F s.blockSize es).acknowledged = bad / s.blockSize →
        t.transferred = s.transferred + bad / s.blockSize * s.blockSize ∧
          FailsToRead bad F position t) ∧
      ∀ failure, t.outcome? = some (.error failure) →
        (failure.kind = .fileAccess ↔
          (progress F s.blockSize es).acknowledged = bad / s.blockSize) := by
  have reads : Along Reads F es (F.drop position) := along_reads_of_readsBelow file
  obtain ⟨at_, copies, horder⟩ := at_inOrder_of_runs hB run reads
  have hbelow := phaseBelow_of_runs hB hbad run file
  have hstarted : (progress F s.blockSize es).started ≤ bad / s.blockSize :=
    (Nat.le_div_iff_mul_le hB).mpr (hbelow.started_le at_)
  refine ⟨hbelow.not_returned, ⟨copies, horder.handed_started, fun n => horder.pos_of_lt_started⟩,
    hstarted, fun bytes hbytes => ?_, fun hall => ⟨?_, ?_⟩, fun failure failed => ?_⟩
  · rw [horder.handed_started] at hbytes
    obtain ⟨n, hn, hcopy⟩ := List.mem_flatMap.mp hbytes
    obtain rfl := List.eq_of_mem_replicate hcopy
    have hend : (n + 1) * s.blockSize ≤ bad :=
      (Nat.le_div_iff_mul_le hB).mp ((List.mem_range.mp hn).trans_le hstarted)
    exact ⟨_, _, Packet.decode_encode_data _ _, length_chunk_of_le (hend.trans hbad)⟩
  · have hwhole : bad / s.blockSize * s.blockSize ≤ F.length :=
      (Nat.div_mul_le_self bad s.blockSize).trans hbad
    rw [at_.transferred, hall, flatten_chunks, List.length_take, Nat.min_eq_left hwhole]
  · exact hbelow.failsToRead at_ ((hbelow.behind_iff hB at_).mpr hall)
  · rw [hbelow.fileAccess_iff failed, hbelow.behind_iff hB at_]

/-- A trace in which the first block of a file of three bytes is sent and acknowledged, and the last
byte is read while the end of the file cannot be. -/
def unreadableTrace : List Event :=
  [⟨.readBytes 2, .ok [7, 8]⟩, ⟨.pollCancelled, false⟩,
    ⟨.sendDatagram [0, 3, 0, 1, 7, 8], .ok ()⟩,
    ⟨.receiveDatagram datagramRoom, .ok ⟨.unspecified, [0, 4, 0, 1]⟩⟩,
    ⟨.readBytes 2, .error .inputOutput⟩]

theorem along_unreadableTrace : Along (ReadsBelow 3 [7, 8, 9]) 0 unreadableTrace 3 := by
  refine .cons ⟨by decide, rfl, rfl⟩ (.cons rfl (.cons rfl (.cons rfl (.cons ?_ (.nil 3)))))
  show 3 < 0 + 2 + 2
  decide

/-- The error at the very end of the file is a failure to read, with one whole block counted. -/
theorem unreadableTrace_fails :
    0 < 2 ∧ 3 ≤ ([7, 8, 9] : Bytes).length ∧ Along (ReadsBelow 3 [7, 8, 9]) 0 unreadableTrace 3 ∧
      ∃ t, Runs ask? (Sender.new 2 6 .zero).sendFile unreadableTrace t ∧
        t.outcome? ≠ some (.ok ()) ∧ t.transferred = 2 ∧ FailsToRead 3 [7, 8, 9] 3 t := by
  have run : Runs ask? (Sender.new 2 6 .zero).sendFile unreadableTrace _ :=
    .cons _ rfl (.cons _ rfl (.cons _ rfl (.cons _ rfl (.cons _ rfl (.nil _)))))
  obtain ⟨hout, -, -, -, hall, -⟩ :=
    sendFile_unreadable (by decide) (by decide) run along_unreadableTrace
  obtain ⟨htransferred, hfails⟩ := hall (by decide)
  exact ⟨by decide, by decide, along_unreadableTrace, _, run, hout, htransferred, hfails⟩

end Sender

end Tftp
