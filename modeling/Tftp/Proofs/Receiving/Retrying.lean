import Tftp.Proofs.Calls
import Tftp.Proofs.Receiving.Accounting
import Tftp.Proofs.Rounds
import Tftp.Proofs.Wording

/-!
# How often a receiver waits

A receiver waits for each block as often as it may, which is at least once, and starts counting
afresh with the next block. What counts is read off the trace: the waits, and those among them that
missed, in the rounds that end with an accepted block. A wait that brought the block accepted last
once more has missed as soon as that block is acknowledged again.

* `waits`, `missed` and `allMissed` are the counts of a trace.
* `Tries` says what a trace that has not waited for any block too often looks like.
* `Retried` is the invariant: it ties each phase of the receiver to its ledger and to the counts for
  the block that is due.

Results:
* `Retried.stays`, `Retried.repetition`, `Retried.miss` and `Retried.failure`: what a wait may
  bring, one by one.
* `Retried.next`: each call of a receiver and each answer keep the invariant.
* **`receiveFile_retries`**: the counts of every run of `receiveFile`, and that it ends if the peer
  does.

The specification bounds the waits for a block (§4.6; §8, "Retry bound") and counts a block that
came again among them (§10.8), so that a peer which repeats itself cannot keep a receiver waiting
for ever. `Retried.afterAnswer` puts together one lemma for each thing that a wait may bring.

Out of scope: how long a wait takes. It ends at the deadline, which is on the socket by then
(`Tftp.Proofs.Transfer.Socket`).
-/

namespace Tftp

open Bytes

namespace Receiver

/-! ## Counts -/

/-- Whether a wait brought the block accepted last once more. -/
def Ledger.repeats (B : Nat) (l : Ledger) (answer : Except SystemError Datagram) : Bool :=
  match brought? B answer with
  | some (block, _) => decide (l.last = some block)
  | none => false

section Counts

variable (B : Nat) (last : Option UInt16)

/-- The rounds of a receiver end with an accepted block. -/
def blockRound (es : List Event) : Nat := (ledger B last es).payloads.length

/-- The attempts of a receiver are its waits. -/
def attempts (_ : List Event) (e : Event) : Bool := e.outcome?.isSome

/-- Whether the last event of a trace is a wait that brought the block accepted last once more. -/
def repeating (es : List Event) : Bool :=
  match es.getLast? with
  | some ⟨.receiveDatagram _, answer⟩ => (ledger B last es.dropLast).repeats B answer
  | _ => false

/-- The events that make a miss: a wait that brought neither the block that is due nor an error, and
not the block accepted last; and the acknowledgement of the latter, once it is sent. -/
def missesDue (before : List Event) : Event → Bool
  | ⟨.receiveDatagram _, answer⟩ =>
    (Arrival.ofAnswer (headerLength + B) answer).lacks (ledger B last before).due &&
      !(ledger B last before).repeats B answer
  | ⟨.sendDatagram _, .ok ()⟩ => repeating B last before
  | _ => false

/-- How often a trace waits for a block after `n` accepted ones. -/
def waits (n : Nat) (es : List Event) : Nat := occurrencesIn (blockRound B last) n attempts es

/-- How many of these waits missed. -/
def missed (n : Nat) (es : List Event) : Nat :=
  occurrencesIn (blockRound B last) n (missesDue B last) es

/-- How many waits missed. -/
def allMissed (es : List Event) : Nat := occurrences (missesDue B last) es

end Counts

variable {B m w k slack : Nat} {last : Option UInt16} {es : List Event} {e : Event}

/-- There were `w` waits for the block that is due, with `k` misses, and no more than `m` for any
block. Each wait stands for three calls (a look at the cancellation, the wait, and a write or an
acknowledgement) and each accepted block for three more at the most; `slack` calls are still
allowed. -/
structure Tries (B : Nat) (last : Option UInt16) (m w k slack : Nat) (es : List Event) : Prop where
  rounds : Rounds (blockRound B last) attempts (missesDue B last) m w k es
  calls : es.length + slack ≤ 3 * (outcomes es).length + 3 * blockRound B last es + 2

theorem tries_nil : Tries B last m 0 0 2 [] := ⟨rounds_nil rfl, Nat.le_refl _⟩

theorem occurrences_attempts (es : List Event) : occurrences attempts es = (outcomes es).length :=
  occurrences_isSome Event.outcome? es

theorem length_outcomes_snoc (es : List Event) (e : Event) :
    (outcomes (es ++ [e])).length = (outcomes es).length + e.outcome?.isSome.toNat := by
  rw [← occurrences_attempts, ← occurrences_attempts, occurrences_snoc, attempts]

theorem blockRound_eq {fs : List Event} (h : ledger B last fs = ledger B last es) :
    blockRound B last fs = blockRound B last es := by
  rw [blockRound, blockRound, h]

/-- As long as no further block is accepted, a wait and a miss count for the block that is due. -/
theorem Tries.stay (h : Tries B last m w k slack es) (e : Event) (slack' : Nat)
    (same : blockRound B last (es ++ [e]) = blockRound B last es)
    (calls : slack' + 1 ≤ slack + 3 * e.outcome?.isSome.toNat) :
    Tries B last m (w + e.outcome?.isSome.toNat) (k + (missesDue B last es e).toNat) slack'
      (es ++ [e]) := by
  refine ⟨h.rounds.stay same, ?_⟩
  have hcalls := h.calls
  rw [same, length_outcomes_snoc, List.length_append, List.length_singleton]
  omega

/-- The block that is due is accepted, at its wait or later, after a wait that did not miss. The
counts start afresh. -/
theorem Tries.accept (h : Tries B last m w k slack es) (e : Event) (limit : k < m)
    (hits : missesDue B last es e = false) (waited : w + e.outcome?.isSome.toNat = k + 1)
    (next : blockRound B last (es ++ [e]) = blockRound B last es + 1) (slack' : Nat)
    (calls : slack' ≤ slack + 3 * e.outcome?.isSome.toNat + 2) :
    Tries B last m 0 0 slack' (es ++ [e]) := by
  refine ⟨h.rounds.next limit hits waited next, ?_⟩
  have hcalls := h.calls
  rw [next, length_outcomes_snoc, List.length_append, List.length_singleton]
  omega

theorem Tries.slacken (h : Tries B last m w k slack es) {slack' : Nat} (le : slack' ≤ slack) :
    Tries B last m w k slack' es :=
  ⟨h.rounds, (Nat.add_le_add_left le _).trans h.calls⟩

/-! ## The invariant -/

/-- What a phase has to do with the ledger and with the counts for the block that is due, for a
receiver that waits until `M` misses. -/
def PhaseRetried (B : Nat) (last : Option UInt16) (M : Nat) (es : List Event) : Phase → Prop
  | .polling misses =>
    misses < max 1 M ∧ Tries B last (max 1 M) misses misses 2 es ∧
      (ledger B last es).arriving = none
  | .awaiting misses =>
    misses < max 1 M ∧ Tries B last (max 1 M) misses misses 1 es ∧
      (ledger B last es).arriving = none
  | .repeating _ misses =>
    misses < max 1 M ∧ Tries B last (max 1 M) (misses + 1) misses 3 es ∧
      (ledger B last es).arriving = none ∧ repeating B last es = true
  | .writing block payload =>
    ∃ misses < max 1 M, Tries B last (max 1 M) (misses + 1) misses 3 es ∧
      (ledger B last es).arriving = some (block, payload)
  | .flushing block payload =>
    ∃ misses < max 1 M, Tries B last (max 1 M) (misses + 1) misses 2 es ∧
      (ledger B last es).arriving = some (block, payload)
  | .refusing _ =>
    ∃ misses < max 1 M, Tries B last (max 1 M) (misses + 1) misses 1 es ∧
      repeating B last es = false
  | .acknowledging _ _ =>
    Tries B last (max 1 M) 0 0 4 es ∧ (ledger B last es).arriving = none ∧
      repeating B last es = false
  | .ended (.ok ()) => Tries B last (max 1 M) 0 0 0 es
  | .ended (.error failure) =>
    ∃ w k, Tries B last (max 1 M) w k 0 es ∧ w ≤ max 1 M ∧ k ≤ w ∧
      (failure.kind = .timedOut ↔ k = max 1 M) ∧
      (failure.kind = .timedOut → failure = .retriesExhausted M) ∧
      (failure.kind = .timedOut ∨ failure.kind = .cancelled → w = k)

/-- What a receiver that began as `start` has in common with its ledger `l`, in every phase. -/
structure Kept (start : Receiver) (l : Ledger) (blockSize maxRetries : Nat)
    (accepted : Option UInt16) (transferred : Nat) : Prop where
  size : blockSize = start.blockSize
  retries : maxRetries = start.maxRetries
  accepted : accepted = l.last
  transferred : transferred = start.transferred + l.payloads.flatten.length

/-- **The invariant of a receiver** that began as `start`, after the events `es`. -/
structure Retried (start : Receiver) (es : List Event) (r : Receiver) : Prop where
  kept : Kept start (ledger start.blockSize start.accepted es) r.blockSize r.maxRetries r.accepted
    r.transferred
  misses : r.misses =
    start.misses + UInt32.ofNat (allMissed start.blockSize start.accepted es)
  phase : PhaseRetried start.blockSize start.accepted start.maxRetries es r.phase

variable {start r : Receiver} {M : Nat}

theorem retried_receiveFile (r : Receiver) : Retried r [] r.receiveFile :=
  ⟨⟨rfl, rfl, rfl, rfl⟩, (UInt32.add_zero _).symm, by omega, tries_nil, rfl⟩

theorem Retried.phaseRetried (h : Retried start es r) {phase : Phase} (hp : r.phase = phase) :
    PhaseRetried start.blockSize start.accepted start.maxRetries es phase := hp ▸ h.phase

theorem Retried.expected (h : Retried start es r) :
    r.expected = (ledger start.blockSize start.accepted es).due := by
  rw [Receiver.expected, h.kept.accepted, Ledger.due]

/-- A receiver that fails with a wait left has not timed out. -/
theorem phaseRetried_failed (tries : Tries B last (max 1 M) w k slack es) (waited : w ≤ max 1 M)
    (missed : k ≤ w) (left : k < max 1 M) {failure : Failure} (other : failure.kind ≠ .timedOut)
    (answered : failure.kind = .cancelled → w = k) :
    PhaseRetried B last M es (.ended (.error failure)) :=
  ⟨w, k, tries.slacken (Nat.zero_le _), waited, missed,
    ⟨fun h => absurd h other, fun h => absurd h (Nat.ne_of_lt left)⟩, fun h => absurd h other,
    fun h => answered (h.resolve_left other)⟩

/-! ## Steps -/

/-- An event that misses nothing leaves the count of misses as it is. -/
theorem Retried.misses_keep (h : Retried start es r)
    (hits : missesDue start.blockSize start.accepted es e = false) :
    r.misses = start.misses +
      UInt32.ofNat (allMissed start.blockSize start.accepted (es ++ [e])) := by
  rw [allMissed, occurrences_snoc, hits, Bool.toNat_false, Nat.add_zero]
  exact h.misses

/-- An event that leaves the payloads and the last block as they are. -/
theorem Retried.kept_keep (h : Retried start es r)
    (payloads : (ledger start.blockSize start.accepted (es ++ [e])).payloads =
      (ledger start.blockSize start.accepted es).payloads)
    (last : (ledger start.blockSize start.accepted (es ++ [e])).last =
      (ledger start.blockSize start.accepted es).last) :
    Kept start (ledger start.blockSize start.accepted (es ++ [e])) r.blockSize r.maxRetries
      r.accepted r.transferred := by
  refine ⟨h.kept.size, h.kept.retries, ?_, ?_⟩
  · rw [last, h.kept.accepted]
  · rw [payloads, h.kept.transferred]

theorem repeating_snoc_of_silent (silent : e.outcome? = none) :
    repeating B last (es ++ [e]) = false := by
  unfold repeating
  rw [List.getLast?_concat]
  split
  · rename_i heq
    cases heq
    cases silent
  · rfl

theorem Retried.afterPoll (h : Retried start es r) {misses : Nat} (hp : r.phase = .polling misses)
    (cancelled : Bool) :
    Retried start (es ++ [⟨.pollCancelled, cancelled⟩]) (r.afterPoll misses cancelled) := by
  obtain ⟨hleft, htries, hidle⟩ := h.phaseRetried hp
  have hledger : ledger start.blockSize start.accepted (es ++ [⟨.pollCancelled, cancelled⟩]) =
      ledger start.blockSize start.accepted es := ledger_snoc _ es _
  have hkept := h.kept_keep (congrArg _ hledger) (congrArg _ hledger)
  have htries' : Tries start.blockSize start.accepted (max 1 start.maxRetries) misses misses 1
      (es ++ [⟨.pollCancelled, cancelled⟩]) :=
    htries.stay _ 1 (blockRound_eq hledger) (Nat.le_refl 2)
  unfold Receiver.afterPoll
  cases cancelled with
  | true =>
    exact ⟨hkept, h.misses_keep rfl,
      phaseRetried_failed htries' hleft.le (Nat.le_refl _) hleft nofun fun _ => rfl⟩
  | false => exact ⟨hkept, h.misses_keep rfl, hleft, htries', hledger ▸ hidle⟩

/-- A miss is counted, and uses up a wait for the block that is due. -/
theorem retried_miss {misses : Nat} (left : misses < max 1 start.maxRetries)
    (kept : Kept start (ledger start.blockSize start.accepted es) r.blockSize r.maxRetries
      r.accepted r.transferred)
    (counted : r.misses + 1 =
      start.misses + UInt32.ofNat (allMissed start.blockSize start.accepted es))
    (tries : Tries start.blockSize start.accepted (max 1 start.maxRetries) (misses + 1) (misses + 1)
      2 es)
    (idle : (ledger start.blockSize start.accepted es).arriving = none) :
    Retried start es (r.miss misses) := by
  have hretries := kept.retries
  unfold Receiver.miss
  dsimp only
  split
  · have hlast : misses + 1 = max 1 start.maxRetries := by omega
    refine ⟨kept, counted, _, _, tries.slacken (Nat.zero_le _), hlast.le, Nat.le_refl _, ?_, ?_,
      fun _ => rfl⟩
    · exact ⟨fun _ => hlast, fun _ => rfl⟩
    · rw [hretries]
      exact fun _ => rfl
  · refine ⟨kept, counted, ?_, tries, idle⟩
    omega

theorem Retried.misses_grow (h : Retried start es r)
    (misses : missesDue start.blockSize start.accepted es e = true) :
    r.misses + 1 = start.misses +
      UInt32.ofNat (allMissed start.blockSize start.accepted (es ++ [e])) := by
  rw [allMissed, occurrences_snoc, misses, h.misses, Bool.toNat_true, UInt32.ofNat_add,
    UInt32.add_assoc]
  rfl

/-- The block that is due came. It is accepted if there is nothing to store. -/
theorem Retried.store (h : Retried start es r) {misses room : Nat} (hp : r.phase = .awaiting misses)
    {answer : Except SystemError Datagram} {payload : Bytes}
    (brought : brought? start.blockSize answer = some (r.expected, payload)) (traffic : Traffic) :
    Retried start (es ++ [⟨.receiveDatagram room, answer⟩])
      ({ r with traffic }.store r.expected payload) := by
  obtain ⟨hleft, htries, -⟩ := h.phaseRetried hp
  have hkept := h.kept
  have hledger : ledger start.blockSize start.accepted (es ++ [⟨.receiveDatagram room, answer⟩]) =
      (ledger start.blockSize start.accepted es).arrive start.blockSize answer := ledger_snoc _ es _
  simp only [Ledger.arrive, brought, h.expected, if_true] at hledger
  rw [h.expected] at brought
  have hhits : missesDue start.blockSize start.accepted es ⟨.receiveDatagram room, answer⟩ =
      false := by
    obtain ⟨source, harrival⟩ := brought?_eq_some_iff.mp brought
    simp [missesDue, harrival, Arrival.lacks]
  have hfresh : repeating start.blockSize start.accepted
      (es ++ [⟨.receiveDatagram room, answer⟩]) = false := by
    simp [repeating, Ledger.repeats, brought, Ledger.last_ne_due]
  rw [h.expected]
  unfold Receiver.store
  split
  · rename_i hempty
    rw [if_pos hempty] at hledger
    have htries' := htries.accept _ hleft hhits rfl (by simp [blockRound, hledger, Ledger.accept]) 4
      (show 4 ≤ 6 by decide)
    refine ⟨⟨hkept.size, hkept.retries, ?_, ?_⟩, h.misses_keep hhits, htries', ?_, hfresh⟩
    · rw [hledger]
      rfl
    · show r.transferred + payload.length = _
      rw [hledger, hkept.transferred]
      simp [Ledger.accept, Nat.add_assoc]
    · rw [hledger]
      rfl
  · rename_i hfull
    rw [if_neg hfull] at hledger
    have htries' := htries.stay ⟨.receiveDatagram room, answer⟩ 3
      (by simp [blockRound, hledger]) (Nat.le_refl 4)
    rw [hhits] at htries'
    refine ⟨h.kept_keep (by rw [hledger]) (by rw [hledger]), h.misses_keep hhits, misses, hleft,
      htries', ?_⟩
    rw [hledger]

theorem Ledger.repeats_eq_true_iff {l : Ledger} {answer : Except SystemError Datagram} :
    l.repeats B answer = true ↔
      ∃ block payload, brought? B answer = some (block, payload) ∧ l.last = some block := by
  unfold Ledger.repeats
  cases brought? B answer with
  | none => simp
  | some brought => simp [Prod.ext_iff]

/-- A wait misses if it brought no block and no error, unless it brought the last block again. -/
theorem Retried.missesDue_eq (h : Retried start es r) {room : Nat}
    {answer : Except SystemError Datagram} :
    missesDue start.blockSize start.accepted es ⟨.receiveDatagram room, answer⟩ =
      ((Arrival.ofAnswer (headerLength + r.blockSize) answer).lacks r.expected &&
        !(ledger start.blockSize start.accepted es).repeats start.blockSize answer) := by
  rw [h.expected, h.kept.size]
  rfl

section Answers

variable {misses room : Nat} {answer : Except SystemError Datagram} (traffic : Traffic)

/-- What is not the block that is due leaves the books as they are. The wait counts for that block,
as a miss or not. -/
theorem Retried.stays (h : Retried start es r) (hp : r.phase = .awaiting misses) {miss : Bool}
    (other : ∀ payload, brought? r.blockSize answer ≠ some (r.expected, payload))
    (counts : missesDue start.blockSize start.accepted es ⟨.receiveDatagram room, answer⟩ = miss) :
    Kept start (ledger start.blockSize start.accepted (es ++ [⟨.receiveDatagram room, answer⟩]))
        r.blockSize r.maxRetries r.accepted r.transferred ∧
      (ledger start.blockSize start.accepted
        (es ++ [⟨.receiveDatagram room, answer⟩])).arriving = none ∧
      Tries start.blockSize start.accepted (max 1 start.maxRetries) (misses + 1)
        (misses + miss.toNat) 3 (es ++ [⟨.receiveDatagram room, answer⟩]) := by
  obtain ⟨-, htries, hidle⟩ := h.phaseRetried hp
  rw [h.kept.size, h.expected] at other
  obtain ⟨called, hledger⟩ : ∃ called, ledger start.blockSize start.accepted
      (es ++ [⟨.receiveDatagram room, answer⟩]) =
        { ledger start.blockSize start.accepted es with called } := ledger_snoc_of_other other
  have htries' := htries.stay ⟨.receiveDatagram room, answer⟩ 3
    (by rw [blockRound, hledger, blockRound]) (Nat.le_refl 4)
  rw [counts] at htries'
  exact ⟨h.kept_keep (by rw [hledger]) (by rw [hledger]), by rw [hledger]; exact hidle, htries'⟩

/-- The block accepted last came again. It is no miss until it is acknowledged again. -/
theorem Retried.repetition (h : Retried start es r) (hp : r.phase = .awaiting misses)
    {block : UInt16} {payload : Bytes}
    (other : ∀ payload, brought? r.blockSize answer ≠ some (r.expected, payload))
    (brought : brought? r.blockSize answer = some (block, payload))
    (last : r.accepted = some block) :
    Retried start (es ++ [⟨.receiveDatagram room, answer⟩])
      { r with traffic, phase := .repeating block misses } := by
  obtain ⟨hleft, -, -⟩ := h.phaseRetried hp
  have hrepeats : (ledger start.blockSize start.accepted es).repeats start.blockSize answer =
      true := by
    rw [h.kept.size] at brought
    rw [h.kept.accepted] at last
    exact Ledger.repeats_eq_true_iff.mpr ⟨block, payload, brought, last⟩
  have hhits : missesDue start.blockSize start.accepted es ⟨.receiveDatagram room, answer⟩ =
      false := by
    rw [h.missesDue_eq, hrepeats, Bool.not_true, Bool.and_false]
  obtain ⟨hkept, hidle, htries⟩ := h.stays hp other hhits
  refine ⟨hkept, h.misses_keep hhits, hleft, htries, hidle, ?_⟩
  rw [repeating, List.getLast?_concat, List.dropLast_concat]
  exact hrepeats

/-- Nothing came that the receiver waits for. -/
theorem Retried.miss (h : Retried start es r) (hp : r.phase = .awaiting misses)
    (other : ∀ payload, brought? r.blockSize answer ≠ some (r.expected, payload))
    (lacks : (Arrival.ofAnswer (headerLength + r.blockSize) answer).lacks r.expected)
    (fresh : ∀ block payload, brought? r.blockSize answer = some (block, payload) →
      r.accepted ≠ some block) :
    Retried start (es ++ [⟨.receiveDatagram room, answer⟩]) ({ r with traffic }.miss misses) := by
  obtain ⟨hleft, -, -⟩ := h.phaseRetried hp
  have hrepeats : (ledger start.blockSize start.accepted es).repeats start.blockSize answer =
      false := by
    rw [Bool.eq_false_iff, Ne, Ledger.repeats_eq_true_iff, ← h.kept.accepted, ← h.kept.size]
    rintro ⟨block, payload, hbrought, hlast⟩
    exact fresh block payload hbrought hlast
  have hmiss : missesDue start.blockSize start.accepted es ⟨.receiveDatagram room, answer⟩ =
      true := by
    rw [h.missesDue_eq, lacks, hrepeats, Bool.not_false, Bool.and_true]
  obtain ⟨hkept, hidle, htries⟩ := h.stays hp other hmiss
  exact retried_miss hleft hkept (h.misses_grow hmiss) (htries.slacken (by decide)) hidle

/-- An error packet, or a socket that fails, ends the transfer and misses nothing. -/
theorem Retried.failure (h : Retried start es r) (hp : r.phase = .awaiting misses)
    (noBlock : brought? r.blockSize answer = none)
    (ends : (Arrival.ofAnswer (headerLength + r.blockSize) answer).lacks r.expected = false)
    (stage : Stage) {failure : Failure} (inTime : failure.kind ≠ .timedOut)
    (ongoing : failure.kind ≠ .cancelled) :
    Retried start (es ++ [⟨.receiveDatagram room, answer⟩])
      { r with traffic, stage, phase := .ended (.error failure) } := by
  obtain ⟨hleft, -, -⟩ := h.phaseRetried hp
  have hhits : missesDue start.blockSize start.accepted es ⟨.receiveDatagram room, answer⟩ =
      false := by
    rw [h.missesDue_eq, ends, Bool.false_and]
  obtain ⟨hkept, -, htries⟩ := h.stays hp (by rw [noBlock]; nofun) hhits
  exact ⟨hkept, h.misses_keep hhits, phaseRetried_failed htries hleft (Nat.le_succ _) hleft inTime
    fun hcancelled => absurd hcancelled ongoing⟩

end Answers

/-- What is not the block that is due ends the transfer, is a miss, or is to be acknowledged once
more. -/
theorem Retried.afterAnswer (h : Retried start es r) {misses : Nat}
    (hp : r.phase = .awaiting misses) (answer : Except SystemError Datagram) :
    Retried start (es ++ [⟨.receiveDatagram (headerLength + r.blockSize), answer⟩])
      (r.afterAnswer misses answer) := by
  have hanswered := answered_afterAnswer r misses answer
  generalize r.afterAnswer misses answer = t at hanswered ⊢
  cases hanswered with
  | due brought =>
    rw [h.kept.size] at brought
    exact h.store hp brought _
  | repeated other brought last => exact h.repetition _ hp other brought last
  | missed other lacks fresh => exact h.miss _ hp other lacks fresh
  | refused error =>
    exact h.failure _ hp (brought?_eq_none (by rw [error]; nofun)) (by rw [error]; rfl) .aborted
      nofun nofun
  | failed socket =>
    obtain ⟨reason, -, -, rfl⟩ := Arrival.ofAnswer_eq_failed_iff.mp socket
    exact h.failure _ hp (brought?_eq_none (by rw [socket]; nofun)) (by rw [socket]; rfl) r.stage
      nofun nofun

theorem Retried.afterRepetition (h : Retried start es r) {block : UInt16} {misses : Nat}
    (hp : r.phase = .repeating block misses) (bytes : Bytes) (answer : Except SystemError Unit) :
    Retried start (es ++ [⟨.sendDatagram bytes, answer⟩]) (r.afterRepetition misses answer) := by
  obtain ⟨hleft, htries, hidle, hrepeating⟩ := h.phaseRetried hp
  have hledger : ledger start.blockSize start.accepted (es ++ [⟨.sendDatagram bytes, answer⟩]) =
      ledger start.blockSize start.accepted es := ledger_snoc _ es _
  have hkept := h.kept_keep (congrArg _ hledger) (congrArg _ hledger)
  have htries' := htries.stay ⟨.sendDatagram bytes, answer⟩ 2 (blockRound_eq hledger)
    (Nat.le_refl 3)
  cases answer with
  | ok =>
    have hmiss : missesDue start.blockSize start.accepted es ⟨.sendDatagram bytes, .ok ()⟩ = true :=
      hrepeating
    rw [hmiss] at htries'
    exact retried_miss hleft hkept (h.misses_grow hmiss) htries' (hledger ▸ hidle)
  | error reason =>
    exact ⟨hkept, h.misses_keep rfl,
      phaseRetried_failed htries' hleft (Nat.le_succ _) hleft nofun nofun⟩

theorem Retried.afterWrite (h : Retried start es r) {block : UInt16} {payload : Bytes}
    (hp : r.phase = .writing block payload) (answer : Except SystemError Unit) :
    Retried start (es ++ [⟨.writeBytes payload, answer⟩]) (r.afterWrite block payload answer) := by
  obtain ⟨misses, hleft, htries, harriving⟩ := h.phaseRetried hp
  have hledger := ledger_snoc (B := start.blockSize) start.accepted es ⟨.writeBytes payload, answer⟩
  cases answer with
  | ok =>
    have hsame : ledger start.blockSize start.accepted (es ++ [⟨.writeBytes payload, .ok ()⟩]) =
        ledger start.blockSize start.accepted es := hledger
    exact ⟨h.kept_keep (congrArg _ hsame) (congrArg _ hsame), h.misses_keep rfl, misses, hleft,
      htries.stay _ 2 (blockRound_eq hsame) (Nat.le_refl 3), hsame ▸ harriving⟩
  | error reason =>
    have hdropped : ledger start.blockSize start.accepted
        (es ++ [⟨.writeBytes payload, .error reason⟩]) =
        { ledger start.blockSize start.accepted es with arriving := none } := hledger
    exact ⟨h.kept_keep (by rw [hdropped]) (by rw [hdropped]), h.misses_keep rfl, misses, hleft,
      htries.stay ⟨.writeBytes payload, .error reason⟩ 1 (by rw [blockRound, hdropped, blockRound])
        (show 2 ≤ 3 by decide),
      repeating_snoc_of_silent rfl⟩

theorem Retried.afterFlush (h : Retried start es r) {block : UInt16} {payload : Bytes}
    (hp : r.phase = .flushing block payload) (answer : Except SystemError Unit) :
    Retried start (es ++ [⟨.flush, answer⟩]) (r.afterFlush block payload answer) := by
  obtain ⟨misses, hleft, htries, harriving⟩ := h.phaseRetried hp
  have hkept := h.kept
  have hledger := ledger_snoc (B := start.blockSize) start.accepted es ⟨.flush, answer⟩
  cases answer with
  | ok =>
    have haccepted : ledger start.blockSize start.accepted (es ++ [⟨.flush, .ok ()⟩]) =
        (ledger start.blockSize start.accepted es).accept block payload := by
      rw [hledger]
      simp only [Ledger.next, harriving]
    have htries' := htries.accept ⟨.flush, .ok ()⟩ hleft rfl rfl
      (by simp [blockRound, haccepted, Ledger.accept]) 4 (Nat.le_refl 4)
    refine ⟨⟨hkept.size, hkept.retries, ?_, ?_⟩, h.misses_keep rfl, htries', ?_,
      repeating_snoc_of_silent rfl⟩
    · rw [haccepted]
      rfl
    · show r.transferred + payload.length = _
      rw [haccepted, hkept.transferred]
      simp [Ledger.accept, Nat.add_assoc]
    · rw [haccepted]
      rfl
  | error reason =>
    have hdropped : ledger start.blockSize start.accepted (es ++ [⟨.flush, .error reason⟩]) =
        { ledger start.blockSize start.accepted es with arriving := none } := hledger
    exact ⟨h.kept_keep (by rw [hdropped]) (by rw [hdropped]), h.misses_keep rfl, misses, hleft,
      htries.stay ⟨.flush, .error reason⟩ 1 (by rw [blockRound, hdropped, blockRound])
        (Nat.le_refl 2),
      repeating_snoc_of_silent rfl⟩

/-- Handing out what is not an acknowledgement once more misses nothing. -/
theorem missesDue_send (bytes : Bytes) (answer : Except SystemError Unit)
    (fresh : repeating B last es = false) :
    missesDue B last es ⟨.sendDatagram bytes, answer⟩ = false := by
  cases answer with
  | ok => exact fresh
  | error reason => rfl

theorem Retried.afterRefusal (h : Retried start es r) {reason : SystemError}
    (hp : r.phase = .refusing reason) (bytes : Bytes) (answer : Except SystemError Unit) :
    Retried start (es ++ [⟨.sendDatagram bytes, answer⟩]) (r.afterRefusal reason answer) := by
  obtain ⟨misses, hleft, htries, hfresh⟩ := h.phaseRetried hp
  have hledger : ledger start.blockSize start.accepted (es ++ [⟨.sendDatagram bytes, answer⟩]) =
      ledger start.blockSize start.accepted es := ledger_snoc _ es _
  have hkept := h.kept_keep (congrArg _ hledger) (congrArg _ hledger)
  have hhits := missesDue_send bytes answer hfresh
  have htries' := htries.stay ⟨.sendDatagram bytes, answer⟩ 0 (blockRound_eq hledger)
    (Nat.le_refl 1)
  rw [hhits] at htries'
  have hphase : ∀ failure : Failure, failure.kind ≠ .timedOut → failure.kind ≠ .cancelled →
      PhaseRetried start.blockSize start.accepted start.maxRetries
        (es ++ [⟨.sendDatagram bytes, answer⟩]) (.ended (.error failure)) :=
    fun failure hother hnot =>
      phaseRetried_failed htries' hleft (Nat.le_succ _) hleft hother fun h => absurd h hnot
  cases answer with
  | ok => exact ⟨hkept, h.misses_keep hhits, hphase _ nofun nofun⟩
  | error reason => exact ⟨hkept, h.misses_keep hhits, hphase _ nofun nofun⟩

theorem Retried.afterAcknowledgement (h : Retried start es r) {block : UInt16} {isLast : Bool}
    (hp : r.phase = .acknowledging block isLast) (bytes : Bytes)
    (answer : Except SystemError Unit) :
    Retried start (es ++ [⟨.sendDatagram bytes, answer⟩])
      (r.afterAcknowledgement isLast answer) := by
  obtain ⟨htries, hidle, hfresh⟩ := h.phaseRetried hp
  have hledger : ledger start.blockSize start.accepted (es ++ [⟨.sendDatagram bytes, answer⟩]) =
      ledger start.blockSize start.accepted es := ledger_snoc _ es _
  have hkept := h.kept_keep (congrArg _ hledger) (congrArg _ hledger)
  have hhits := missesDue_send bytes answer hfresh
  have htries' := htries.stay ⟨.sendDatagram bytes, answer⟩ 2 (blockRound_eq hledger)
    (show 3 ≤ 4 by decide)
  rw [hhits] at htries'
  have hleft : 0 < max 1 start.maxRetries := by omega
  cases answer with
  | error reason =>
    exact ⟨hkept, h.misses_keep hhits,
      phaseRetried_failed htries' hleft.le (Nat.le_refl _) hleft nofun nofun⟩
  | ok =>
    unfold Receiver.afterAcknowledgement
    dsimp only
    split
    · exact ⟨hkept, h.misses_keep hhits, htries'.slacken (Nat.zero_le _)⟩
    · exact ⟨hkept, h.misses_keep hhits, hleft, htries', hledger ▸ hidle⟩

/-- **Each call of a receiver and each answer keep the counts.** -/
theorem Retried.next (h : Retried start es r) {call : Call} {resume : call.Answer → Receiver}
    (answer : call.Answer) (asks : r.Asks call resume) :
    Retried start (es ++ [⟨call, answer⟩]) (resume answer) := by
  cases asks with
  | polling hp => exact h.afterPoll hp answer
  | awaiting hp => exact h.afterAnswer hp answer
  | repeating hp => exact h.afterRepetition hp _ answer
  | writing hp => exact h.afterWrite hp answer
  | flushing hp => exact h.afterFlush hp answer
  | refusing hp => exact h.afterRefusal hp _ answer
  | acknowledging hp => exact h.afterAcknowledgement hp _ answer

/-! ## Runs -/

/-- Every run of `receiveFile` keeps the counts. -/
theorem retried_of_runs {t : Receiver} (run : Runs ask? r.receiveFile es t) : Retried r es t :=
  run.induction (retried_receiveFile r) fun h asks => h.next _ (asks_of_ask? asks)

/-- In every phase, a receiver has not waited for the block that is due more often than it may. -/
theorem Retried.tries (h : Retried start es r) :
    ∃ w k slack, Tries start.blockSize start.accepted (max 1 start.maxRetries) w k slack es ∧
      k ≤ w ∧ w ≤ max 1 start.maxRetries := by
  cases hp : r.phase with
  | polling | awaiting =>
    obtain ⟨hleft, htries, -⟩ := h.phaseRetried hp
    exact ⟨_, _, _, htries, Nat.le_refl _, hleft.le⟩
  | repeating =>
    obtain ⟨hleft, htries, -⟩ := h.phaseRetried hp
    exact ⟨_, _, _, htries, Nat.le_succ _, hleft⟩
  | writing | flushing | refusing =>
    obtain ⟨misses, hleft, htries, -⟩ := h.phaseRetried hp
    exact ⟨_, _, _, htries, Nat.le_succ _, hleft⟩
  | acknowledging =>
    obtain ⟨htries, -⟩ := h.phaseRetried hp
    exact ⟨_, _, _, htries, Nat.le_refl _, Nat.zero_le _⟩
  | ended outcome =>
    cases outcome with
    | ok => exact ⟨_, _, _, h.phaseRetried hp, Nat.le_refl _, Nat.zero_le _⟩
    | error failure =>
      obtain ⟨w, k, htries, hwaited, hmissed, -⟩ := h.phaseRetried hp
      exact ⟨w, k, 0, htries, hmissed, hwaited⟩

/-- A receiver times out exactly when all the waits for the block that is due missed. -/
theorem Retried.timedOut_iff (h : Retried start es r) :
    (∃ failure, r.outcome? = some (.error failure) ∧ failure.kind = .timedOut) ↔
      missed start.blockSize start.accepted (blockRound start.blockSize start.accepted es) es =
        max 1 start.maxRetries := by
  -- While a wait is left the receiver has not timed out, and has not missed them all.
  have hopen : ∀ {w k slack}, Tries start.blockSize start.accepted (max 1 start.maxRetries) w k
      slack es → k < max 1 start.maxRetries → (∀ failure, r.outcome? ≠ some (.error failure)) →
      ((∃ failure, r.outcome? = some (.error failure) ∧ failure.kind = .timedOut) ↔
        missed start.blockSize start.accepted (blockRound start.blockSize start.accepted es) es =
          max 1 start.maxRetries) := by
    intro w k slack htries hleft hopen
    rw [missed, htries.rounds.missed_eq]
    exact ⟨fun ⟨failure, hfailed, _⟩ => absurd hfailed (hopen failure), fun hk => by omega⟩
  have hm : 0 < max 1 start.maxRetries := by omega
  cases hp : r.phase with
  | polling | awaiting | repeating =>
    obtain ⟨hleft, htries, -⟩ := h.phaseRetried hp
    exact hopen htries hleft (by simp [outcome?, hp])
  | writing | flushing | refusing =>
    obtain ⟨misses, hleft, htries, -⟩ := h.phaseRetried hp
    exact hopen htries hleft (by simp [outcome?, hp])
  | acknowledging => exact hopen (h.phaseRetried hp).1 hm (by simp [outcome?, hp])
  | ended outcome =>
    cases outcome with
    | ok => exact hopen (h.phaseRetried hp) hm (by simp [outcome?, hp])
    | error failure =>
      obtain ⟨w, k, htries, -, -, htimed, -⟩ := h.phaseRetried hp
      rw [missed, htries.rounds.missed_eq, ← htimed]
      simp [outcome?, hp]

/-- A receiver that returned, timed out or was cancelled has dealt with all it waited for. -/
theorem Retried.settled (h : Retried start es r)
    (ended : r.outcome? = some (.ok ()) ∨ ∃ failure, r.outcome? = some (.error failure) ∧
      (failure.kind = .timedOut ∨ failure.kind = .cancelled)) :
    (outcomes es).length = blockRound start.blockSize start.accepted es +
      allMissed start.blockSize start.accepted es := by
  obtain ⟨w, htries⟩ :
      ∃ w, Tries start.blockSize start.accepted (max 1 start.maxRetries) w w 0 es := by
    cases hp : r.phase with
    | ended outcome =>
      cases outcome with
      | ok => exact ⟨0, h.phaseRetried hp⟩
      | error failure =>
        obtain ⟨w, k, htries, -, -, -, -, hanswered⟩ := h.phaseRetried hp
        rw [outcome?, hp] at ended
        obtain ⟨⟨⟩⟩ | ⟨f, ⟨⟩, hkind⟩ := ended
        obtain rfl := hanswered hkind
        exact ⟨w, htries⟩
    | polling | awaiting | repeating | writing | flushing | refusing | acknowledging =>
      simp [outcome?, hp] at ended
  have hbalance := htries.rounds.balance
  rw [occurrences_attempts] at hbalance
  exact Nat.add_right_cancel hbalance

/-- A receiver that timed out names the number of waits that it was given. -/
theorem Retried.timedOut (h : Retried start es r) {failure : Failure}
    (failed : r.outcome? = some (.error failure)) (kind : failure.kind = .timedOut) :
    failure = .retriesExhausted start.maxRetries := by
  cases hp : r.phase with
  | ended outcome =>
    rw [outcome?, hp] at failed
    cases failed
    obtain ⟨-, -, -, -, -, -, hnamed, -⟩ := h.phaseRetried hp
    exact hnamed kind
  | polling | awaiting | repeating | writing | flushing | refusing | acknowledging =>
    simp [outcome?, hp] at failed

/-- No more blocks are accepted, or being stored, than datagrams came. -/
theorem length_payloads_le (B : Nat) (last : Option UInt16) (es : List Event) :
    (ledger B last es).payloads.length + (ledger B last es).arriving.isSome.toNat ≤
      (arrivals es).length := by
  induction es using List.reverseRecOn with
  | nil => exact Nat.le_refl _
  | append_singleton es e ih =>
    rw [ledger_snoc, arrivals_append, List.length_append, arrivals_singleton]
    generalize ledger B last es = l at ih
    unfold Ledger.next
    split
    · rename_i room answer
      unfold Ledger.arrive
      cases hbrought : brought? B answer with
      | none =>
        dsimp only
        omega
      | some b =>
        obtain ⟨source, harrival⟩ := brought?_eq_some_iff.mp hbrought
        obtain ⟨bytes, rfl, -, -⟩ := Arrival.ofAnswer_eq_packet_iff.mp harrival
        have hbit := Bool.toNat_le l.arriving.isSome
        dsimp only [Event.datagram?, Option.toList_some, List.length_singleton]
        split
        · split <;> simp [Ledger.accept] <;> omega
        · split <;> simp <;> omega
    · simp
      omega
    · simp
      omega
    · split
      · rename_i harriving
        simp [Ledger.accept, harriving] at ih ⊢
        omega
      · exact ih.trans (Nat.le_add_right _ _)
    · exact ih.trans (Nat.le_add_right _ _)

/-- A run of `receiveFile` has at most so many events as all waits for the blocks that came take. -/
theorem Retried.length_le (h : Retried start es r) :
    es.length ≤ 3 * (max 1 start.maxRetries * ((arrivals es).length + 1)) +
      3 * (arrivals es).length + 2 := by
  obtain ⟨w, k, slack, htries, -, hwaited⟩ := h.tries
  have hcalls := htries.calls
  have hbound := htries.rounds.bound
  rw [occurrences_attempts] at hbound
  have hblocks : blockRound start.blockSize start.accepted es ≤ (arrivals es).length :=
    (Nat.le_add_right _ _).trans (length_payloads_le _ _ es)
  have hwaits : (outcomes es).length ≤ max 1 start.maxRetries * ((arrivals es).length + 1) :=
    calc (outcomes es).length
        ≤ max 1 start.maxRetries * (blockRound start.blockSize start.accepted es + 1) := by
          rw [Nat.mul_succ]
          omega
      _ ≤ max 1 start.maxRetries * ((arrivals es).length + 1) :=
          Nat.mul_le_mul_left _ (Nat.succ_le_succ hblocks)
  omega

/-- **How often a receiver waited** in a run of `r.receiveFile` with the events `es`, which led to
`t`. It waits for a block as often as `r.maxRetries` says, but always once. -/
structure Retries (r : Receiver) (es : List Event) (t : Receiver) : Prop where
  waits_le : ∀ n, waits r.blockSize r.accepted n es ≤ max 1 r.maxRetries
  length_outcomes_le : (outcomes es).length ≤
    max 1 r.maxRetries * ((ledger r.blockSize r.accepted es).payloads.length + 1)
  /-- The call times out when it has waited as often as it may since it accepted a block, and each
  of these waits missed. -/
  timedOut_iff : (∃ failure, t.outcome? = some (.error failure) ∧ failure.kind = .timedOut) ↔
    waits r.blockSize r.accepted (ledger r.blockSize r.accepted es).payloads.length es =
        max 1 r.maxRetries ∧
      missed r.blockSize r.accepted (ledger r.blockSize r.accepted es).payloads.length es =
        max 1 r.maxRetries
  message : ∀ failure, t.outcome? = some (.error failure) → failure.kind = .timedOut →
    failure = .retriesExhausted r.maxRetries ∧ failure.message =
      ascii "Transfer timed out after " ++ decimal r.maxRetries ++ ascii " tries"
  misses : t.misses = r.misses + UInt32.ofNat (allMissed r.blockSize r.accepted es)
  /-- After a return, a timeout or a cancellation each wait brought an accepted block or missed. -/
  waited : (t.outcome? = some (.ok ()) ∨ ∃ failure, t.outcome? = some (.error failure) ∧
      (failure.kind = .timedOut ∨ failure.kind = .cancelled)) →
    (outcomes es).length = (ledger r.blockSize r.accepted es).payloads.length +
        allMissed r.blockSize r.accepted es ∧
      UInt32.ofNat (outcomes es).length =
        UInt32.ofNat (ledger r.blockSize r.accepted es).payloads.length + (t.misses - r.misses)

theorem retries_of_runs {t : Receiver} (run : Runs ask? r.receiveFile es t) : Retries r es t := by
  have h := retried_of_runs run
  obtain ⟨w, k, slack, htries, hmissed, hwaited⟩ := h.tries
  have hbound := htries.rounds.bound
  rw [occurrences_attempts] at hbound
  refine ⟨htries.rounds.attempts_le hwaited, ?_, ?_, ?_, h.misses, ?_⟩
  · change (outcomes es).length ≤ max 1 r.maxRetries * (blockRound r.blockSize r.accepted es + 1)
    rw [Nat.mul_succ]
    omega
  · have hwaits : waits r.blockSize r.accepted (blockRound r.blockSize r.accepted es) es = w :=
      htries.rounds.attempts_eq
    have hmisses : missed r.blockSize r.accepted (blockRound r.blockSize r.accepted es) es = k :=
      htries.rounds.missed_eq
    rw [h.timedOut_iff]
    change _ ↔ waits r.blockSize r.accepted (blockRound r.blockSize r.accepted es) es = _ ∧
      missed r.blockSize r.accepted (blockRound r.blockSize r.accepted es) es = _
    rw [hwaits, hmisses]
    omega
  · intro failure hfailed hkind
    obtain rfl := h.timedOut hfailed hkind
    exact ⟨rfl, Failure.message_retriesExhausted _⟩
  · intro hended
    have hsettled := h.settled hended
    refine ⟨hsettled, ?_⟩
    rw [hsettled, UInt32.ofNat_add, h.misses, UInt32.add_comm r.misses, UInt32.add_sub_cancel,
      blockRound]

/-- **The discipline of a receiver.** In every run of `receiveFile`, whatever the waits bring,
whichever calls fail, and whenever it is cancelled:

* between two accepted blocks, and before the first, it waits as often as it may wait for a block,
  at the most, and that bounds all its waits;
* the call times out, with a message that names the number of waits it was given, exactly when it
  has waited that often since it accepted a block, and every wait missed;
* each miss counts once, modulo 2³²;
* unless an error packet, the socket or the file ended the call, each wait brought an accepted block
  or missed.

And the call ends in all surroundings that let only so many datagrams arrive. -/
theorem receiveFile_retries (r : Receiver) :
    (∀ es t, Runs ask? r.receiveFile es t → Retries r es t) ∧
      ∀ (surroundings : List Event → (call : Call) → call.Answer) (n : Nat),
        (∀ es t, Follows surroundings es → Runs ask? r.receiveFile es t →
          (arrivals es).length ≤ n) →
        ∃ es t, Follows surroundings es ∧ Runs ask? r.receiveFile es t ∧ t.outcome?.isSome := by
  refine ⟨fun es t run => retries_of_runs run, fun surroundings n few => ?_⟩
  obtain ⟨es, t, hfollows, run, hended⟩ := ends_of_bounded .nil
    fun es t hfollows (run : Runs ask? r.receiveFile es t) => by
      have hlength := (retried_of_runs run).length_le
      have hfew := few es t hfollows run
      have hwaits := Nat.mul_le_mul_left (max 1 r.maxRetries) (Nat.succ_le_succ hfew)
      simp only [Nat.succ_eq_add_one] at hwaits
      show es.length ≤ 3 * (max 1 r.maxRetries * (n + 1)) + 3 * n + 2
      omega
  exact ⟨es, t, hfollows, run, ask?_eq_none_iff.mp hended⟩

/-- A trace in which one of two waits for the first block misses, and both waits for the second: the
first block comes once more, and then a block that nobody asked for. -/
def exhaustedTrace : List Event :=
  [⟨.pollCancelled, false⟩, ⟨.receiveDatagram 6, .error .wouldBlock⟩, ⟨.pollCancelled, false⟩,
    ⟨.receiveDatagram 6, .ok ⟨.unspecified, [0, 3, 0, 1, 7, 8]⟩⟩, ⟨.writeBytes [7, 8], .ok ()⟩,
    ⟨.flush, .ok ()⟩, ⟨.sendDatagram [0, 4, 0, 1], .ok ()⟩, ⟨.pollCancelled, false⟩,
    ⟨.receiveDatagram 6, .ok ⟨.unspecified, [0, 3, 0, 1, 7, 8]⟩⟩,
    ⟨.sendDatagram [0, 4, 0, 1], .ok ()⟩, ⟨.pollCancelled, false⟩,
    ⟨.receiveDatagram 6, .ok ⟨.unspecified, [0, 3, 0, 9, 5]⟩⟩]

theorem runs_exhaustedTrace :
    ∃ t, Runs ask? (Receiver.new 2 2 .zero).receiveFile exhaustedTrace t :=
  ⟨_, .cons _ rfl (.cons _ rfl (.cons _ rfl (.cons _ rfl (.cons _ rfl (.cons _ rfl (.cons _ rfl
    (.cons _ rfl (.cons _ rfl (.cons _ rfl (.cons _ rfl (.cons _ rfl (.nil _))))))))))))⟩

/-- The receiver gives up the second block after three misses and four waits; a receiver to which
nothing comes ends as well. -/
theorem exhaustedTrace_retries :
    (∃ t, Runs ask? (Receiver.new 2 2 .zero).receiveFile exhaustedTrace t ∧
      t.outcome? = some (.error (.retriesExhausted 2)) ∧ t.misses = 3 ∧
      (outcomes exhaustedTrace).length = 1 + 3) ∧
      ∃ es t, Follows unanswered es ∧ Runs ask? (Receiver.new 2 2 .zero).receiveFile es t ∧
        t.outcome?.isSome := by
  obtain ⟨hretries, hends⟩ := receiveFile_retries (Receiver.new 2 2 .zero)
  constructor
  · obtain ⟨t, run⟩ := runs_exhaustedTrace
    have h := hretries _ _ run
    have hsecond : waits 2 none 1 exhaustedTrace = 2 ∧ missed 2 none 1 exhaustedTrace = 2 := by
      decide
    have hall : allMissed 2 none exhaustedTrace = 3 := by decide
    have haccepted : (ledger 2 none exhaustedTrace).payloads.length = 1 := by decide
    obtain ⟨failure, hfailed, hkind⟩ := h.timedOut_iff.mpr (haccepted.symm ▸ hsecond)
    obtain ⟨rfl, -⟩ := h.message failure hfailed hkind
    obtain ⟨hwaited, -⟩ := h.waited (.inr ⟨_, hfailed, .inl hkind⟩)
    refine ⟨t, run, hfailed, ?_, ?_⟩
    · rw [h.misses]
      exact congrArg _ (congrArg UInt32.ofNat hall)
    · rw [hwaited]
      exact congrArg₂ (· + ·) haccepted hall
  · refine hends unanswered 0 fun es t hfollows _ => ?_
    rw [arrivals_of_unanswered hfollows]
    exact Nat.le_refl 0

end Receiver

end Tftp
