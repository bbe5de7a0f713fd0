import Tftp.Proofs.Calls
import Tftp.Proofs.Rounds
import Tftp.Proofs.Sending.Accounting
import Tftp.Proofs.Sending.Order
import Tftp.Proofs.Wording

/-!
# How often a sender tries

A sender tries each block as often as it may, which is at least once, and starts counting afresh
with the next block. What counts is read off the trace, whatever the file is: the copies that were
handed out and the waits that missed, in the rounds that end with the acknowledgement of the block
in flight.

* `copies`, `missed` and `allMissed` are the counts of a trace.
* `Tries` says what a trace that has not tried any block too often looks like.
* `Retried` is the invariant: it ties each phase of the sender to the tally of its trace and to the
  counts for the block that is due.

Results:
* `Retried.stays`, `Retried.advance`, `Retried.miss` and `Retried.failure`: what an answer may
  bring, one by one.
* `Retried.next`: each call of a sender and each answer keep the invariant.
* `blockRound_eq_of_runs`: the blocks that a trace acknowledges are the chunks of the file.
* **`sendFile_retries`**: the counts of every run of `sendFile`, and that it ends.

The specification bounds the attempts with a block, with no attempt after the bound and a message
that names it (§4.5, §7; §8, "Retry bound"). An acknowledgement of another block counts as a miss
and uses up an attempt, so a sender ends against every peer, also one that never stops answering.

Out of scope: how much time passes between two attempts, which is the deadline of a wait and no more
(§5).
-/

namespace Tftp

open Bytes

/-- Whether the event is a wait that missed a block. -/
def Event.misses (block : UInt16) : Event → Bool
  | ⟨.receiveDatagram room, answer⟩ => (Arrival.ofAnswer room answer).misses block
  | _ => false

namespace Sender

/-! ## Counts -/

/-- The event acknowledges the block that is in flight. -/
def acknowledgesDue (before : List Event) (e : Event) : Bool :=
  match (tally before).inFlight with
  | some (block, _) => decide (e.acknowledged? = some block)
  | none => false

/-- The event is a wait that misses the block in flight. -/
def missesDue (before : List Event) (e : Event) : Bool :=
  match (tally before).inFlight with
  | some (block, _) => e.misses block
  | none => false

/-- The attempts of a sender are the datagrams that it hands out. -/
def attempts (_ : List Event) (e : Event) : Bool := e.handed?.isSome

/-- How many blocks a trace acknowledges. Each acknowledgement ends a round. -/
def blockRound (es : List Event) : Nat := occurrences acknowledgesDue es

/-- How many copies a trace hands out of the block after `n` acknowledged ones. -/
def copies (n : Nat) (es : List Event) : Nat := occurrencesIn blockRound n attempts es

/-- How many attempts with that block missed. -/
def missed (n : Nat) (es : List Event) : Nat := occurrencesIn blockRound n missesDue es

/-- How many attempts missed. -/
def allMissed (es : List Event) : Nat := occurrences missesDue es

variable {m c k spent : Nat} {es : List Event} {e : Event}

/-- The block that is due was tried `c` times, with `k` misses, and no block more than `m` times.
Each copy stands for three calls (a look at the cancellation, a send and a wait) and each block for
a read; `spent` calls more were made. -/
structure Tries (m c k spent : Nat) (es : List Event) : Prop where
  rounds : Rounds blockRound attempts missesDue m c k es
  calls : es.length = 3 * (handed es).length + blockRound es + spent

theorem tries_nil : Tries m 0 0 0 [] := ⟨rounds_nil rfl, rfl⟩

theorem occurrences_attempts (es : List Event) : occurrences attempts es = (handed es).length :=
  occurrences_isSome Event.handed? es

theorem length_handed_snoc (es : List Event) (e : Event) :
    (handed (es ++ [e])).length = (handed es).length + e.handed?.isSome.toNat := by
  rw [← occurrences_attempts, ← occurrences_attempts, occurrences_snoc, attempts]

theorem blockRound_snoc (es : List Event) (e : Event) :
    blockRound (es ++ [e]) = blockRound es + (acknowledgesDue es e).toNat :=
  occurrences_snoc _ es e

/-- An event that is no wait acknowledges nothing and misses nothing. -/
theorem acknowledgesDue_of_silent (silent : e.acknowledged? = none) :
    acknowledgesDue es e = false := by
  unfold acknowledgesDue
  split
  · rw [silent]
    rfl
  · rfl

theorem missesDue_of_silent (es : List Event) {call : Call} {answer : call.Answer}
    (silent : Event.outcome? ⟨call, answer⟩ = none) : missesDue es ⟨call, answer⟩ = false := by
  unfold missesDue
  split
  · cases call <;> first | rfl | cases silent
  · rfl

/-- As long as no further block is acknowledged, a copy that is handed out and a wait that misses
count for the block that is due. -/
theorem Tries.stay (h : Tries m c k spent es) (e : Event) (spent' : Nat)
    (same : acknowledgesDue es e = false)
    (calls : spent + 1 = 3 * e.handed?.isSome.toNat + spent') :
    Tries m (c + e.handed?.isSome.toNat) (k + (missesDue es e).toNat) spent' (es ++ [e]) := by
  have hround : blockRound (es ++ [e]) = blockRound es := by
    rw [blockRound_snoc, same, Bool.toNat_false, Nat.add_zero]
  refine ⟨h.rounds.stay hround, ?_⟩
  have hcalls := h.calls
  rw [hround, length_handed_snoc, List.length_append, List.length_singleton]
  omega

/-- The acknowledgement of the block that is due, after a copy that did not miss. The counts start
afresh. -/
theorem Tries.acknowledge (h : Tries m (k + 1) k 0 es) (limit : k < m) (silent : e.handed? = none)
    (hits : missesDue es e = false) (next : acknowledgesDue es e = true) :
    Tries m 0 0 0 (es ++ [e]) := by
  have hround : blockRound (es ++ [e]) = blockRound es + 1 := by
    rw [blockRound_snoc, next, Bool.toNat_true]
  refine ⟨h.rounds.next limit hits (by rw [attempts, silent]; rfl) hround, ?_⟩
  have hcalls := h.calls
  rw [hround, length_handed_snoc, silent, List.length_append, List.length_singleton]
  dsimp only [Option.isSome_none, Bool.toNat_false]
  omega

/-- A block of which `m` attempts missed is the one that is due. -/
theorem Tries.missed_eq_iff (h : Tries m c k spent es) (hm : 0 < m) :
    (∃ n, missed n es = m) ↔ k = m :=
  h.rounds.missed_eq_iff hm

/-! ## The invariant -/

/-- What a phase has to do with the tally and with the counts for the block that is due, for a
sender that may repeat each block until `M` misses. -/
def PhaseRetried (M : Nat) (es : List Event) : Phase → Prop
  | .reading _ => Tries (max 1 M) 0 0 0 es
  | .polling attempt =>
    attempt.misses < max 1 M ∧ Tries (max 1 M) attempt.misses attempt.misses 1 es
  | .sending attempt =>
    attempt.misses < max 1 M ∧ Tries (max 1 M) attempt.misses attempt.misses 2 es
  | .awaiting attempt =>
    attempt.misses < max 1 M ∧ Tries (max 1 M) (attempt.misses + 1) attempt.misses 0 es ∧
      (tally es).inFlight = some (attempt.block, attempt.payload)
  | .ended (.ok ()) => Tries (max 1 M) 0 0 0 es
  | .ended (.error failure) =>
    ∃ c k spent, Tries (max 1 M) c k spent es ∧ c ≤ max 1 M ∧ spent ≤ 2 ∧
      (failure.kind = .timedOut ↔ k = max 1 M) ∧
      (failure.kind = .timedOut → failure = .retriesExhausted M) ∧
      (failure.kind = .timedOut ∨ failure.kind = .cancelled → c = k)
  | .confirming | .rejecting _ => False

/-- **The invariant of a sender** that began as `start`, after the events `es`. -/
structure Retried (start : Sender) (es : List Event) (s : Sender) : Prop where
  size : s.blockSize = start.blockSize
  retries : s.maxRetries = start.maxRetries
  transferred : s.transferred = start.transferred + (tally es).bytes
  misses : s.misses = start.misses + UInt32.ofNat (allMissed es)
  phase : PhaseRetried start.maxRetries es s.phase

variable {start s : Sender} {M : Nat}

theorem retried_sendFile (s : Sender) : Retried s [] s.sendFile :=
  ⟨rfl, rfl, rfl, (UInt32.add_zero _).symm, tries_nil⟩

theorem Retried.phaseRetried (h : Retried start es s) {phase : Phase} (hp : s.phase = phase) :
    PhaseRetried start.maxRetries es phase := hp ▸ h.phase

/-- A sender that fails with an attempt left has not timed out. -/
theorem phaseRetried_failed (tries : Tries (max 1 M) c k spent es) (sent : c ≤ max 1 M)
    (left : k < max 1 M) (few : spent ≤ 2) {failure : Failure} (other : failure.kind ≠ .timedOut)
    (answered : failure.kind = .cancelled → c = k) :
    PhaseRetried M es (.ended (.error failure)) :=
  ⟨c, k, spent, tries, sent, few,
    ⟨fun h => absurd h other, fun h => absurd h (Nat.ne_of_lt left)⟩, fun h => absurd h other,
    fun h => answered (h.resolve_left other)⟩

/-! ## Steps -/

/-- An event that misses nothing leaves the count of misses as it is. -/
theorem Retried.misses_keep (h : Retried start es s) (hits : missesDue es e = false) :
    s.misses = start.misses + UInt32.ofNat (allMissed (es ++ [e])) := by
  rw [allMissed, occurrences_snoc, hits, Bool.toNat_false, Nat.add_zero]
  exact h.misses

/-- A miss adds one to the count. -/
theorem Retried.misses_grow (h : Retried start es s) (misses : missesDue es e = true) :
    s.misses + 1 = start.misses + UInt32.ofNat (allMissed (es ++ [e])) := by
  rw [allMissed, occurrences_snoc, misses, h.misses, Bool.toNat_true, UInt32.ofNat_add,
    UInt32.add_assoc]
  rfl

/-- An event that neither hands anything out nor acknowledges leaves the count of bytes as it is. -/
theorem Retried.transferred_keep (h : Retried start es s) (handed : e.handed? = none)
    (acknowledged : e.acknowledged? = none) :
    s.transferred = start.transferred + (tally (es ++ [e])).bytes := by
  rw [tally_snoc, Tally.next_silent handed acknowledged]
  exact h.transferred

theorem Retried.afterRead (h : Retried start es s) {block : UInt16} (hp : s.phase = .reading block)
    (answer : Except SystemError Bytes) :
    Retried start (es ++ [⟨.readBytes s.blockSize, answer⟩]) (s.afterRead block answer) := by
  have htries : Tries (max 1 start.maxRetries) 0 0 0 es := h.phaseRetried hp
  have hhits := missesDue_of_silent es
    (rfl : Event.outcome? ⟨.readBytes s.blockSize, answer⟩ = none)
  have htries' := htries.stay ⟨.readBytes s.blockSize, answer⟩ 1 (acknowledgesDue_of_silent rfl) rfl
  rw [hhits] at htries'
  have hleft : 0 < max 1 start.maxRetries := by omega
  cases answer with
  | ok payload =>
    exact ⟨h.size, h.retries, h.transferred_keep rfl rfl, h.misses_keep hhits, hleft, htries'⟩
  | error reason =>
    exact ⟨h.size, h.retries, h.transferred_keep rfl rfl, h.misses_keep hhits,
      phaseRetried_failed htries' hleft.le hleft (by decide) nofun nofun⟩

theorem Retried.afterPoll (h : Retried start es s) {attempt : Attempt}
    (hp : s.phase = .polling attempt) (cancelled : Bool) :
    Retried start (es ++ [⟨.pollCancelled, cancelled⟩]) (s.afterPoll attempt cancelled) := by
  obtain ⟨hleft, htries⟩ := h.phaseRetried hp
  have hhits := missesDue_of_silent es
    (rfl : Event.outcome? ⟨.pollCancelled, cancelled⟩ = none)
  have htries' := htries.stay ⟨.pollCancelled, cancelled⟩ 2 (acknowledgesDue_of_silent rfl) rfl
  rw [hhits] at htries'
  unfold Sender.afterPoll
  cases cancelled with
  | true =>
    exact ⟨h.size, h.retries, h.transferred_keep rfl rfl, h.misses_keep hhits,
      phaseRetried_failed htries' hleft.le hleft (Nat.le_refl 2) nofun fun _ => rfl⟩
  | false =>
    exact ⟨h.size, h.retries, h.transferred_keep rfl rfl, h.misses_keep hhits, hleft, htries'⟩

theorem Retried.afterSend (h : Retried start es s) {attempt : Attempt}
    (hp : s.phase = .sending attempt) (answer : Except SystemError Unit) :
    Retried start
      (es ++ [⟨.sendDatagram (Packet.data attempt.block attempt.payload).encode, answer⟩])
      (s.afterSend attempt answer) := by
  obtain ⟨hleft, htries⟩ := h.phaseRetried hp
  have hhits := missesDue_of_silent es (rfl : Event.outcome?
    ⟨.sendDatagram (Packet.data attempt.block attempt.payload).encode, answer⟩ = none)
  have htries' := htries.stay
    ⟨.sendDatagram (Packet.data attempt.block attempt.payload).encode, answer⟩ 0
    (acknowledgesDue_of_silent rfl) rfl
  rw [hhits] at htries'
  have htally := tally_snoc es
    ⟨.sendDatagram (Packet.data attempt.block attempt.payload).encode, answer⟩
  rw [Tally.next_data] at htally
  have htransferred := h.transferred
  cases answer with
  | ok =>
    exact ⟨h.size, h.retries, by rw [htally]; exact htransferred, h.misses_keep hhits, hleft,
      htries', by rw [htally]⟩
  | error reason =>
    exact ⟨h.size, h.retries, by rw [htally]; exact htransferred, h.misses_keep hhits,
      phaseRetried_failed htries' hleft hleft (Nat.zero_le 2) nofun nofun⟩

section Answers

variable {attempt : Attempt} {answer : Except SystemError Datagram} (traffic : Traffic)

/-- A wait misses if its answer does, for the block in flight. -/
theorem Retried.missesDue_eq (h : Retried start es s) (hp : s.phase = .awaiting attempt) :
    missesDue es ⟨.receiveDatagram datagramRoom, answer⟩ =
      (Arrival.ofAnswer datagramRoom answer).misses attempt.block := by
  obtain ⟨-, -, hflight⟩ := h.phaseRetried hp
  rw [missesDue, hflight]
  rfl

/-- A wait acknowledges the block that is due if its answer acknowledges the one in flight. -/
theorem Retried.acknowledgesDue_eq (h : Retried start es s) (hp : s.phase = .awaiting attempt) :
    acknowledgesDue es ⟨.receiveDatagram datagramRoom, answer⟩ =
      decide ((Arrival.ofAnswer datagramRoom answer).acknowledged? = some attempt.block) := by
  obtain ⟨-, -, hflight⟩ := h.phaseRetried hp
  rw [acknowledgesDue, hflight]
  rfl

/-- What does not acknowledge the block leaves its round open and counts no payload. -/
theorem Retried.stays (h : Retried start es s) (hp : s.phase = .awaiting attempt) {miss : Bool}
    (other : (Arrival.ofAnswer datagramRoom answer).acknowledged? ≠ some attempt.block)
    (counts : (Arrival.ofAnswer datagramRoom answer).misses attempt.block = miss) :
    s.transferred = start.transferred +
        (tally (es ++ [⟨.receiveDatagram datagramRoom, answer⟩])).bytes ∧
      Tries (max 1 start.maxRetries) (attempt.misses + 1) (attempt.misses + miss.toNat) 1
        (es ++ [⟨.receiveDatagram datagramRoom, answer⟩]) := by
  obtain ⟨-, htries, hflight⟩ := h.phaseRetried hp
  have htries' := htries.stay ⟨.receiveDatagram datagramRoom, answer⟩ 1
    ((h.acknowledgesDue_eq hp).trans (decide_eq_false other)) rfl
  rw [h.missesDue_eq hp, counts] at htries'
  rw [tally_snoc, Tally.next_wait hflight, if_neg other]
  exact ⟨h.transferred, htries'⟩

/-- The acknowledgement of the block in flight counts its payload, and ends the attempts with it. -/
theorem Retried.advance (h : Retried start es s) (hp : s.phase = .awaiting attempt)
    (ack : (Arrival.ofAnswer datagramRoom answer).acknowledged? = some attempt.block) :
    Retried start (es ++ [⟨.receiveDatagram datagramRoom, answer⟩])
      ({ s with traffic }.advance attempt) := by
  obtain ⟨hleft, htries, hflight⟩ := h.phaseRetried hp
  have hhits : missesDue es ⟨.receiveDatagram datagramRoom, answer⟩ = false := by
    rw [h.missesDue_eq hp, Bool.eq_false_iff]
    exact fun misses => Arrival.acknowledged?_ne_of_misses misses ack
  have htries' := htries.acknowledge hleft rfl hhits
    ((h.acknowledgesDue_eq hp).trans (decide_eq_true ack))
  have htransferred : s.transferred + attempt.payload.length =
      start.transferred + (tally (es ++ [⟨.receiveDatagram datagramRoom, answer⟩])).bytes := by
    rw [tally_snoc, Tally.next_wait hflight, if_pos ack, h.transferred, Nat.add_assoc]
  unfold Sender.advance
  dsimp only
  split
  · exact ⟨h.size, h.retries, htransferred, h.misses_keep hhits, htries'⟩
  · exact ⟨h.size, h.retries, htransferred, h.misses_keep hhits, htries'⟩

/-- A miss is counted, and uses up an attempt with the block that is due. -/
theorem Retried.miss (h : Retried start es s) (hp : s.phase = .awaiting attempt)
    (misses : (Arrival.ofAnswer datagramRoom answer).misses attempt.block) :
    Retried start (es ++ [⟨.receiveDatagram datagramRoom, answer⟩])
      ({ s with traffic }.miss attempt) := by
  obtain ⟨hleft, -, -⟩ := h.phaseRetried hp
  obtain ⟨htransferred, htries⟩ := h.stays hp (Arrival.acknowledged?_ne_of_misses misses) misses
  have hretries := h.retries
  have hmisses := h.misses_grow ((h.missesDue_eq hp).trans misses)
  unfold Sender.miss
  dsimp only
  split
  · have hlast : attempt.misses + 1 = max 1 start.maxRetries := by omega
    refine ⟨h.size, hretries, htransferred, hmisses, _, _, _, htries, hlast.le, by decide, ?_, ?_,
      fun _ => rfl⟩
    · exact ⟨fun _ => hlast, fun _ => rfl⟩
    · rw [hretries]
      exact fun _ => rfl
  · refine ⟨h.size, hretries, htransferred, hmisses, ?_, htries⟩
    show attempt.misses + 1 < max 1 start.maxRetries
    omega

/-- An error packet, or a socket that fails, ends the transfer and misses nothing. -/
theorem Retried.failure (h : Retried start es s) (hp : s.phase = .awaiting attempt)
    (other : (Arrival.ofAnswer datagramRoom answer).acknowledged? ≠ some attempt.block)
    (ends : (Arrival.ofAnswer datagramRoom answer).misses attempt.block = false)
    (stage : Stage) {failure : Failure} (inTime : failure.kind ≠ .timedOut)
    (ongoing : failure.kind ≠ .cancelled) :
    Retried start (es ++ [⟨.receiveDatagram datagramRoom, answer⟩])
      { s with traffic, stage, phase := .ended (.error failure) } := by
  obtain ⟨hleft, -, -⟩ := h.phaseRetried hp
  obtain ⟨htransferred, htries⟩ := h.stays hp other ends
  exact ⟨h.size, h.retries, htransferred, h.misses_keep ((h.missesDue_eq hp).trans ends),
    phaseRetried_failed htries hleft hleft (by decide) inTime
      fun hcancelled => absurd hcancelled ongoing⟩

end Answers

/-- The acknowledgement of the block goes on to the next one; anything else ends the transfer or is
a miss. -/
theorem Retried.afterAnswer (h : Retried start es s) {attempt : Attempt}
    (hp : s.phase = .awaiting attempt) (answer : Except SystemError Datagram) :
    Retried start (es ++ [⟨.receiveDatagram datagramRoom, answer⟩])
      (s.afterAnswer attempt answer) := by
  have hanswered := answered_afterAnswer s attempt answer
  generalize s.afterAnswer attempt answer = t at hanswered ⊢
  cases hanswered with
  | acknowledged ack => exact h.advance _ hp ack
  | missed misses => exact h.miss _ hp misses
  | refused error =>
    exact h.failure _ hp (Arrival.acknowledged?_ne_of_error error) (by rw [error]; rfl) .aborted
      nofun nofun
  | failed socket =>
    obtain ⟨reason, -, -, rfl⟩ := Arrival.ofAnswer_eq_failed_iff.mp socket
    exact h.failure _ hp (Arrival.acknowledged?_ne_of_failed socket) (by rw [socket]; rfl) s.stage
      nofun nofun

/-- **Each call of a sender and each answer keep the counts.** -/
theorem Retried.next (h : Retried start es s) {call : Call} {resume : call.Answer → Sender}
    (answer : call.Answer) (asks : s.Asks call resume) :
    Retried start (es ++ [⟨call, answer⟩]) (resume answer) := by
  cases asks with
  | confirming hp | rejecting hp => exact (h.phaseRetried hp).elim
  | reading hp => exact h.afterRead hp answer
  | polling hp => exact h.afterPoll hp answer
  | sending hp => exact h.afterSend hp answer
  | awaiting hp => exact h.afterAnswer hp answer

/-! ## Runs -/

/-- Every run of `sendFile` keeps the counts. -/
theorem retried_of_runs {t : Sender} (run : Runs ask? s.sendFile es t) : Retried s es t :=
  run.induction (retried_sendFile s) fun h asks => h.next _ (asks_of_ask? asks)

/-- In every phase, a sender has not tried the block that is due more often than it may. -/
theorem Retried.tries (h : Retried start es s) :
    ∃ c k spent, Tries (max 1 start.maxRetries) c k spent es ∧ c ≤ max 1 start.maxRetries ∧
      spent ≤ 2 := by
  cases hp : s.phase with
  | confirming | rejecting => exact (h.phaseRetried hp).elim
  | reading => exact ⟨_, _, _, h.phaseRetried hp, Nat.zero_le _, Nat.zero_le _⟩
  | polling | sending =>
    obtain ⟨hleft, htries⟩ := h.phaseRetried hp
    exact ⟨_, _, _, htries, hleft.le, by decide⟩
  | awaiting =>
    obtain ⟨hleft, htries, -⟩ := h.phaseRetried hp
    exact ⟨_, _, _, htries, hleft, by decide⟩
  | ended outcome =>
    cases outcome with
    | ok => exact ⟨_, _, _, h.phaseRetried hp, Nat.zero_le _, Nat.zero_le _⟩
    | error failure =>
      obtain ⟨c, k, spent, htries, hsent, hfew, -⟩ := h.phaseRetried hp
      exact ⟨c, k, spent, htries, hsent, hfew⟩

/-- A sender times out exactly when all the attempts with one block missed. -/
theorem Retried.timedOut_iff (h : Retried start es s) :
    (∃ failure, s.outcome? = some (.error failure) ∧ failure.kind = .timedOut) ↔
      ∃ n, missed n es = max 1 start.maxRetries := by
  have hm : 0 < max 1 start.maxRetries := by omega
  -- While an attempt is left the sender has not timed out, and has not missed them all.
  have hopen : ∀ {c k spent}, Tries (max 1 start.maxRetries) c k spent es →
      k < max 1 start.maxRetries → (∀ failure, s.outcome? ≠ some (.error failure)) →
      ((∃ failure, s.outcome? = some (.error failure) ∧ failure.kind = .timedOut) ↔
        ∃ n, missed n es = max 1 start.maxRetries) := by
    intro c k spent htries hleft hopen
    rw [htries.missed_eq_iff hm]
    exact ⟨fun ⟨failure, hfailed, _⟩ => absurd hfailed (hopen failure), fun hk => by omega⟩
  cases hp : s.phase with
  | confirming | rejecting => exact (h.phaseRetried hp).elim
  | reading => exact hopen (h.phaseRetried hp) hm (by simp [outcome?, hp])
  | polling | sending =>
    exact hopen (h.phaseRetried hp).2 (h.phaseRetried hp).1 (by simp [outcome?, hp])
  | awaiting => exact hopen (h.phaseRetried hp).2.1 (h.phaseRetried hp).1 (by simp [outcome?, hp])
  | ended outcome =>
    cases outcome with
    | ok => exact hopen (h.phaseRetried hp) hm (by simp [outcome?, hp])
    | error failure =>
      obtain ⟨c, k, spent, htries, -, -, htimed, -⟩ := h.phaseRetried hp
      rw [htries.missed_eq_iff hm, ← htimed]
      simp [outcome?, hp]

/-- A sender that returned, timed out or was cancelled has no copy left without an answer. -/
theorem Retried.settled (h : Retried start es s)
    (ended : s.outcome? = some (.ok ()) ∨ ∃ failure, s.outcome? = some (.error failure) ∧
      (failure.kind = .timedOut ∨ failure.kind = .cancelled)) :
    (handed es).length = blockRound es + allMissed es := by
  obtain ⟨c, spent, htries⟩ : ∃ c spent, Tries (max 1 start.maxRetries) c c spent es := by
    cases hp : s.phase with
    | ended outcome =>
      cases outcome with
      | ok => exact ⟨0, 0, h.phaseRetried hp⟩
      | error failure =>
        obtain ⟨c, k, spent, htries, -, -, -, -, hanswered⟩ := h.phaseRetried hp
        rw [outcome?, hp] at ended
        obtain ⟨⟨⟩⟩ | ⟨f, ⟨⟩, hkind⟩ := ended
        obtain rfl := hanswered hkind
        exact ⟨c, spent, htries⟩
    | confirming | rejecting | reading | polling | sending | awaiting =>
      simp [outcome?, hp] at ended
  have hbalance := htries.rounds.balance
  rw [occurrences_attempts] at hbalance
  exact Nat.add_right_cancel hbalance

/-- A sender that timed out names the number of attempts that it was given. -/
theorem Retried.timedOut (h : Retried start es s) {failure : Failure}
    (failed : s.outcome? = some (.error failure)) (kind : failure.kind = .timedOut) :
    failure = .retriesExhausted start.maxRetries := by
  cases hp : s.phase with
  | ended outcome =>
    rw [outcome?, hp] at failed
    cases failed
    obtain ⟨-, -, -, -, -, -, -, hnamed, -⟩ := h.phaseRetried hp
    exact hnamed kind
  | confirming | rejecting | reading | polling | sending | awaiting =>
    simp [outcome?, hp] at failed

/-! ## The blocks of a file -/

variable {F : Bytes} {B base : Nat} {rest : Bytes}

/-- One more event acknowledges a block exactly if it acknowledges the next chunk. -/
theorem Retried.blockRound_next (h : Retried start es s)
    (hat : At F B base (progress F B es) rest s)
    (hround : blockRound es = (progress F B es).acknowledged) {call : Call}
    {resume : call.Answer → Sender} (answer : call.Answer) (asks : s.Asks call resume) :
    blockRound (es ++ [⟨call, answer⟩]) =
      (progress F B (es ++ [⟨call, answer⟩])).acknowledged := by
  -- Only a wait acknowledges anything.
  have hsilent : Event.acknowledged? ⟨call, answer⟩ = none →
      blockRound (es ++ [⟨call, answer⟩]) =
        (progress F B (es ++ [⟨call, answer⟩])).acknowledged := by
    intro silent
    rw [blockRound_snoc, acknowledgesDue_of_silent silent, Bool.toNat_false, Nat.add_zero, hround,
      progress_snoc]
    rcases (progress F B es).next_acknowledged F B ⟨call, answer⟩ with hsame | ⟨-, hack⟩
    · exact hsame.symm
    · rw [silent] at hack
      cases hack
  cases asks with
  | confirming hp | rejecting hp => exact (h.phaseRetried hp).elim
  | reading | polling | sending => exact hsilent rfl
  | awaiting hp =>
    obtain ⟨flight, hout⟩ := hat.phaseAt hp
    obtain ⟨-, -, hflight⟩ := h.phaseRetried hp
    rw [blockRound_snoc, acknowledgesDue, hflight, hround, progress_snoc,
      Progress.next_of_silent rfl, flight.block]
    by_cases hack : Event.acknowledged? ⟨.receiveDatagram datagramRoom, answer⟩ =
        some (wireNumber ((progress F B es).acknowledged + 1))
    · rw [if_pos ⟨hout, hack⟩]
      simp [hack]
    · rw [if_neg fun hand => hack hand.2]
      simp [hack]

/-- The blocks that a run of `sendFile` acknowledges are the chunks of the file. -/
theorem blockRound_eq_of_runs {t : Sender} (hB : 0 < s.blockSize) (run : Runs ask? s.sendFile es t)
    (file : Along Reads F es rest) :
    At F s.blockSize s.transferred (progress F s.blockSize es) rest t ∧
      blockRound es = (progress F s.blockSize es).acknowledged := by
  have hall : Retried s es t ∧
      At F s.blockSize s.transferred (progress F s.blockSize es) rest t ∧
        blockRound es = (progress F s.blockSize es).acknowledged := by
    refine run.induction_along (P := fun es t rest => Retried s es t ∧
      At F s.blockSize s.transferred (progress F s.blockSize es) rest t ∧
        blockRound es = (progress F s.blockSize es).acknowledged) file
      ⟨retried_sendFile s, at_sendFile s, rfl⟩ ?_
    rintro es u rest call resume answer rest' ⟨h, hat, hround⟩ asks reads
    refine ⟨h.next answer (asks_of_ask? asks), ?_,
      h.blockRound_next hat hround answer (asks_of_ask? asks)⟩
    rw [progress_snoc]
    exact hat.next hB asks reads
  exact hall.2

/-- No more is handed out than the attempts with all blocks. -/
theorem Retried.length_handed_le (h : Retried start es s)
    (hat : At F B base (progress F B es) rest s)
    (hround : blockRound es = (progress F B es).acknowledged) :
    (handed es).length ≤ max 1 start.maxRetries * blockCount F B := by
  obtain ⟨c, k, spent, htries, hsent, -⟩ := h.tries
  have hbound := htries.rounds.bound
  rw [occurrences_attempts, hround] at hbound
  rcases hat.due_or_done with ⟨hdue, -⟩ | ⟨hlast, -, hok⟩
  · calc (handed es).length
        ≤ max 1 start.maxRetries * ((progress F B es).acknowledged + 1) := by
          rw [Nat.mul_succ]
          omega
      _ ≤ max 1 start.maxRetries * blockCount F B := Nat.mul_le_mul_left _ hdue
  · cases hp : s.phase with
    | ended outcome =>
      obtain rfl : outcome = .ok () := by simpa [outcome?, hp] using hok
      have hdone : Tries (max 1 start.maxRetries) 0 0 0 es := h.phaseRetried hp
      rw [← hlast, ← hround, ← occurrences_attempts]
      exact hdone.rounds.bound
    | confirming | rejecting | reading | polling | sending | awaiting =>
      simp [outcome?, hp] at hok

/-- A run of `sendFile` has at most so many events as all attempts with all blocks take. -/
theorem Retried.length_le (h : Retried start es s) (hat : At F B base (progress F B es) rest s)
    (hround : blockRound es = (progress F B es).acknowledged) :
    es.length ≤ 3 * (max 1 start.maxRetries * blockCount F B) + blockCount F B + 2 := by
  obtain ⟨c, k, spent, htries, -, hfew⟩ := h.tries
  have hcalls := htries.calls
  have hhanded := h.length_handed_le hat hround
  have hacknowledged : (progress F B es).acknowledged ≤ blockCount F B :=
    (Nat.le_add_right _ _).trans hat.started_le
  omega

/-- **How often a sender tried** in a run of `s.sendFile` on a file `F` with the events `es`, which
led to `t`. A block is tried as often as `s.maxRetries` says, but always once. -/
structure Retries (F : Bytes) (s : Sender) (es : List Event) (t : Sender) : Prop where
  /-- While `n` blocks are acknowledged, nothing but chunk `n` is handed out. -/
  handed : ∀ before e after bytes, es = before ++ e :: after → e.handed? = some bytes →
    bytes = (chunkPacket F s.blockSize (blockRound before)).encode
  copies_le : ∀ n, copies n es ≤ max 1 s.maxRetries
  length_handed_le : (Tftp.handed es).length ≤ max 1 s.maxRetries * (F.length / s.blockSize + 1)
  timedOut_iff : (∃ failure, t.outcome? = some (.error failure) ∧ failure.kind = .timedOut) ↔
    ∃ n, missed n es = max 1 s.maxRetries
  message : ∀ failure, t.outcome? = some (.error failure) → failure.kind = .timedOut →
    failure = .retriesExhausted s.maxRetries ∧ failure.message =
      ascii "Transfer timed out after " ++ decimal s.maxRetries ++ ascii " tries"
  misses : t.misses = s.misses + UInt32.ofNat (allMissed es)
  /-- After a return, a timeout or a cancellation each copy was acknowledged or missed. -/
  sends : (t.outcome? = some (.ok ()) ∨ ∃ failure, t.outcome? = some (.error failure) ∧
      (failure.kind = .timedOut ∨ failure.kind = .cancelled)) →
    (Tftp.handed es).length = blockRound es + allMissed es ∧
      UInt32.ofNat (Tftp.handed es).length =
        UInt32.ofNat (blockRound es) + (t.misses - s.misses)

theorem retries_of_runs {t : Sender} (hB : 0 < s.blockSize) (run : Runs ask? s.sendFile es t)
    (file : Along Reads F es rest) : Retries F s es t := by
  have h := retried_of_runs run
  obtain ⟨hat, hround⟩ := blockRound_eq_of_runs hB run file
  obtain ⟨c, k, spent, htries, hsent, -⟩ := h.tries
  refine ⟨?_, htries.rounds.attempts_le hsent, h.length_handed_le hat hround, h.timedOut_iff, ?_,
    h.misses, ?_⟩
  · rintro before ⟨call, answer⟩ after bytes rfl hbytes
    obtain ⟨u, hbefore, hafter⟩ := run.split
    obtain ⟨rest', hread, -⟩ := file.split
    obtain ⟨hat', hround'⟩ := blockRound_eq_of_runs hB hbefore hread
    rw [hround']
    cases hafter with
    | cons _ asks _ => exact (hat'.handed asks hbytes).1
  · intro failure hfailed hkind
    obtain rfl := h.timedOut hfailed hkind
    exact ⟨rfl, Failure.message_retriesExhausted _⟩
  · intro hended
    have hsettled := h.settled hended
    refine ⟨hsettled, ?_⟩
    rw [hsettled, UInt32.ofNat_add, h.misses, UInt32.add_comm s.misses, UInt32.add_sub_cancel]

/-- **The discipline of a sender.** In every run of `sendFile` on a file `F`, whatever the waits
bring, whichever calls fail, and whenever it is cancelled:

* a block is handed out as often as it may be tried, at the most, and that bounds all that is handed
  out;
* the call times out, with a message that names the number of attempts it was given, exactly when
  all attempts with one block missed;
* each miss counts once, modulo 2³²;
* unless an error packet, the socket or the file ended the call, what it handed out is what was
  acknowledged and what was missed.

And the call ends in all surroundings from which the file can be read, whatever they answer. -/
theorem sendFile_retries (F : Bytes) (s : Sender) (hB : 0 < s.blockSize) :
    (∀ es t rest, Runs ask? s.sendFile es t → Along Reads F es rest → Retries F s es t) ∧
      ∀ surroundings : List Event → (call : Call) → call.Answer,
        (∀ es t, Follows surroundings es → Runs ask? s.sendFile es t →
          ∃ rest, Along Reads F es rest) →
        ∃ es t, Follows surroundings es ∧ Runs ask? s.sendFile es t ∧ t.outcome?.isSome := by
  refine ⟨fun es t rest run file => retries_of_runs hB run file, fun surroundings readable => ?_⟩
  obtain ⟨es, t, hfollows, run, hended⟩ := ends_of_bounded .nil
    fun es t hfollows (run : Runs ask? s.sendFile es t) => by
      obtain ⟨rest, hfile⟩ := readable es t hfollows run
      obtain ⟨hat, hround⟩ := blockRound_eq_of_runs hB run hfile
      exact (retried_of_runs run).length_le hat hround
  exact ⟨es, t, hfollows, run, ask?_eq_none_iff.mp hended⟩

/-- A trace of a file of two bytes. One of two attempts with the first block misses, and both
attempts with the second. -/
def givenUpTrace : List Event :=
  [⟨.readBytes 2, .ok [7, 8]⟩, ⟨.pollCancelled, false⟩,
    ⟨.sendDatagram [0, 3, 0, 1, 7, 8], .ok ()⟩,
    ⟨.receiveDatagram datagramRoom, .error .wouldBlock⟩, ⟨.pollCancelled, false⟩,
    ⟨.sendDatagram [0, 3, 0, 1, 7, 8], .ok ()⟩,
    ⟨.receiveDatagram datagramRoom, .ok ⟨.unspecified, [0, 4, 0, 1]⟩⟩,
    ⟨.readBytes 2, .ok []⟩, ⟨.pollCancelled, false⟩,
    ⟨.sendDatagram [0, 3, 0, 2], .ok ()⟩,
    ⟨.receiveDatagram datagramRoom, .error .wouldBlock⟩, ⟨.pollCancelled, false⟩,
    ⟨.sendDatagram [0, 3, 0, 2], .ok ()⟩,
    ⟨.receiveDatagram datagramRoom, .ok ⟨.unspecified, [0, 4, 0, 1]⟩⟩]

theorem along_givenUpTrace : Along Reads [7, 8] givenUpTrace [] := by
  repeat'
    first
      | exact .nil _
      | refine .cons rfl ?_
      | refine .cons (And.intro rfl rfl) ?_

theorem runs_givenUpTrace : ∃ t, Runs ask? (Sender.new 2 2 .zero).sendFile givenUpTrace t :=
  ⟨_, .cons _ rfl (.cons _ rfl (.cons _ rfl (.cons _ rfl (.cons _ rfl (.cons _ rfl (.cons _ rfl
    (.cons _ rfl (.cons _ rfl (.cons _ rfl (.cons _ rfl (.cons _ rfl (.cons _ rfl (.cons _ rfl
      (.nil _))))))))))))))⟩

/-- The sender gives up the second block after three misses and four sends; a sender that nobody
answers ends as well. -/
theorem givenUpTrace_retries :
    0 < 2 ∧ Along Reads [7, 8] givenUpTrace [] ∧
      (∃ t, Runs ask? (Sender.new 2 2 .zero).sendFile givenUpTrace t ∧
        t.outcome? = some (.error (.retriesExhausted 2)) ∧ t.misses = 3 ∧
        (handed givenUpTrace).length = 1 + 3) ∧
      ∃ es t, Follows unanswered es ∧ Runs ask? (Sender.new 2 2 .zero).sendFile es t ∧
        t.outcome?.isSome := by
  refine ⟨by decide, along_givenUpTrace, ?_, ?_⟩
  · obtain ⟨t, run⟩ := runs_givenUpTrace
    obtain ⟨hretries, -⟩ := sendFile_retries [7, 8] (Sender.new 2 2 .zero) (by decide)
    have h := hretries _ _ _ run along_givenUpTrace
    have hsecond : missed 1 givenUpTrace = 2 := by decide
    have hall : allMissed givenUpTrace = 3 := by decide
    have hacknowledged : blockRound givenUpTrace = 1 := by decide
    obtain ⟨failure, hfailed, hkind⟩ := h.timedOut_iff.mpr ⟨1, hsecond⟩
    obtain ⟨rfl, -⟩ := h.message failure hfailed hkind
    obtain ⟨hsends, -⟩ := h.sends (.inr ⟨_, hfailed, .inl hkind⟩)
    refine ⟨t, run, hfailed, ?_, ?_⟩
    · rw [h.misses]
      exact congrArg _ (congrArg UInt32.ofNat hall)
    · rw [hsends]
      exact congrArg₂ (· + ·) hacknowledged hall
  · obtain ⟨-, hends⟩ := sendFile_retries [] (Sender.new 2 2 .zero) (by decide)
    exact hends unanswered fun es t hfollows _ => ⟨[], along_reads_of_unanswered hfollows⟩

end Sender

end Tftp
