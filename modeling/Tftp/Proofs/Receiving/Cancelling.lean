import Tftp.Proofs.Moment
import Tftp.Proofs.Receiving
import Tftp.Proofs.Receiving.Retrying
import Tftp.Proofs.Stage
import Tftp.Proofs.Transfer.Notifying

/-!
# A cancelled receiver

A receiver that is cancelled while it waits for a block still deals with what the wait brings before
it looks at the cancellation: it stores the block and acknowledges it, acknowledges the last one
again, or tells the peer that the disk is full. That may end the call, and then it does not end as
cancelled.

* `Reply` is what a receiver may hand out for what a wait brought.
* `EndsOtherwise` lists what else ends the call, with the outcome that it has then.
* `budget?` are the calls that a cancelled receiver can still make.
* `Dealt` is the invariant of a receiver that deals with what the last wait brought.
* `Halts` is what follows a cancellation.

Results:
* `budget?_next`: a cancelled receiver uses up its budget.
* `Dealt.next`: each call and each answer deal with what the last wait brought.
* `EndsOtherwise.outcome?`: what else ends the call comes before the cancellation.
* **`halts_of_runs`**: what follows a cancellation, in every run of `receiveFile`.

The specification has the cancellation checked before every attempt (§10.5). An attempt of a
receiver is a wait and what belongs to it, so up to four calls may follow a cancellation that comes
during the wait, and at most one of them hands out a datagram.

Out of scope: a cancellation that comes while the receiver stores or answers. It is found by the
same look as one that came during the wait.
-/

namespace Tftp

namespace Receiver

variable {r t u v : Receiver} {earlier before after : List Event} {a : Arrival}
  {outcome : Except Failure Unit} {block : UInt16} {payload : Bytes} {e : Event}

/-- The last wait of `before` brought the block that is due. -/
def BringsDue (r : Receiver) (before : List Event) (block : UInt16) (payload : Bytes) : Prop :=
  ∃ earlier source, LastWait earlier (.packet source (.data block payload)) before ∧
    (ledger r.blockSize r.accepted earlier).due = block

/-- The last wait of `before` brought the block accepted last once more. -/
def BringsAgain (r : Receiver) (before : List Event) (block : UInt16) : Prop :=
  ∃ earlier source payload, LastWait earlier (.packet source (.data block payload)) before ∧
    (ledger r.blockSize r.accepted earlier).last = some block

/-- What a receiver may hand out for what the last wait of `before` brought. The events `after`
follow that wait. -/
inductive Reply (r : Receiver) (before after : List Event) : Bytes → Prop where
  | acknowledgement {block : UInt16} {payload : Bytes} (due : r.BringsDue before block payload) :
      Reply r before after (Packet.ack block).encode
  | repetition {block : UInt16} (again : r.BringsAgain before block) :
      Reply r before after (Packet.ack block).encode
  /-- The block could not be stored, and an error packet with code 3 says so. -/
  | refusal {block : UInt16} {payload : Bytes} {e : Event} (due : r.BringsDue before block payload)
      (unstored : e ∈ after) (failed : e.IsWriteFailure)
      (reports : ReportsDiskFull refusal.encode) : Reply r before after refusal.encode

/-- What ends a call that receives a file, although it was cancelled after the events `before`, and
with which outcome: what the last wait brought, or what became of it among the events `after`. -/
inductive EndsOtherwise (r : Receiver) (before after : List Event) :
    Except Failure Unit → Prop where
  /-- The last block was accepted and acknowledged. -/
  | accepted {block : UInt16} {payload : Bytes} (due : r.BringsDue before block payload)
      (last : payload.length < r.blockSize) (stored : ∀ e ∈ after, ¬ e.IsWriteFailure)
      (sent : ∀ e ∈ after, ¬ e.IsSocketFailure) : EndsOtherwise r before after (.ok ())
  /-- An error packet came. -/
  | refused {earlier : List Event} {source : Address} {code : ErrorCode} {text : Bytes}
      (wait : LastWait earlier (.packet source (.error code text)) before) :
      EndsOtherwise r before after (.error (.peerError code text))
  /-- The socket failed to receive. -/
  | failed {earlier : List Event} {failure : Failure}
      (wait : LastWait earlier (.failed failure) before) :
      EndsOtherwise r before after (.error failure)
  /-- The socket failed to send. -/
  | unsent {bytes : Bytes} {reason : SystemError}
      (send : ⟨.sendDatagram bytes, .error reason⟩ ∈ after) :
      EndsOtherwise r before after (.error (.socketFailed .send reason))
  /-- The block cannot be stored. -/
  | unstored {e : Event} {reason : SystemError} (mem : e ∈ after) (fails : e.FailsToStore reason)
      (sent : ∀ e ∈ after, ¬ e.IsSocketFailure) :
      EndsOtherwise r before after (.error (.writeFailed reason))
  /-- All waits since the last accepted block missed. -/
  | exhausted (missed : missed r.blockSize r.accepted
        (blockRound r.blockSize r.accepted (before ++ after)) (before ++ after) =
      max 1 r.maxRetries) :
      EndsOtherwise r before after (.error (.retriesExhausted r.maxRetries))

/-! ## The budget -/

/-- What a cancelled receiver can still do; `none` if it is about to wait. -/
def budget? (r : Receiver) : Option Budget :=
  match r.phase with
  | .writing _ _ => some ⟨4, 1⟩
  | .flushing _ _ => some ⟨3, 1⟩
  | .acknowledging _ _ | .repeating _ _ => some ⟨2, 1⟩
  | .refusing _ => some ⟨1, 1⟩
  | .polling _ => some ⟨1, 0⟩
  | .ended _ => some ⟨0, 0⟩
  | .awaiting _ => none

theorem budget?_miss (u : Receiver) (misses : Nat) :
    ∃ calls ≤ 1, (u.miss misses).budget? = some ⟨calls, 0⟩ := by
  unfold miss
  dsimp only
  split
  · exact ⟨0, Nat.zero_le _, rfl⟩
  · exact ⟨1, Nat.le_refl _, rfl⟩

/-- A cancelled receiver uses up its budget. -/
theorem budget?_next {call : Call} {resume : call.Answer → Receiver} {answer : call.Answer}
    (asks : u.ask? = some ⟨call, resume⟩)
    (cancelled : (⟨call, answer⟩ : Event) ≠ ⟨.pollCancelled, false⟩) :
    Spends budget? u ⟨call, answer⟩ (resume answer) := by
  intro b budget
  unfold budget? at budget
  cases asks_of_ask? asks with
  | polling hp =>
    rw [hp] at budget
    cases budget
    cases answer with
    | true => exact ⟨rfl, ⟨0, 0⟩, rfl, Nat.le_refl _, Nat.le_refl _⟩
    | false => exact absurd rfl cancelled
  | awaiting hp =>
    rw [hp] at budget
    cases budget
  | @repeating _ misses hp =>
    rw [hp] at budget
    cases budget
    cases answer with
    | ok =>
      obtain ⟨calls, hcalls, hbudget⟩ :=
        budget?_miss { u with traffic := u.traffic.countSent } misses
      exact ⟨rfl, ⟨calls, 0⟩, hbudget, Nat.succ_le_succ hcalls, Nat.le_refl _⟩
    | error reason => exact ⟨rfl, ⟨0, 0⟩, rfl, by decide, Nat.le_refl _⟩
  | writing hp =>
    rw [hp] at budget
    cases budget
    cases answer with
    | ok => exact ⟨rfl, ⟨3, 1⟩, rfl, Nat.le_refl _, Nat.le_refl _⟩
    | error reason => exact ⟨rfl, ⟨1, 1⟩, rfl, by decide, Nat.le_refl _⟩
  | flushing hp =>
    rw [hp] at budget
    cases budget
    cases answer with
    | ok => exact ⟨rfl, ⟨2, 1⟩, rfl, Nat.le_refl _, Nat.le_refl _⟩
    | error reason => exact ⟨rfl, ⟨1, 1⟩, rfl, by decide, Nat.le_refl _⟩
  | refusing hp =>
    rw [hp] at budget
    cases budget
    cases answer with
    | ok | error => exact ⟨rfl, ⟨0, 0⟩, rfl, Nat.le_refl _, Nat.le_refl _⟩
  | @acknowledging _ isLast hp =>
    rw [hp] at budget
    cases budget
    cases answer with
    | error reason => exact ⟨rfl, ⟨0, 0⟩, rfl, by decide, Nat.le_refl _⟩
    | ok =>
      cases isLast with
      | true => exact ⟨rfl, ⟨0, 0⟩, rfl, by decide, Nat.le_refl _⟩
      | false => exact ⟨rfl, ⟨1, 0⟩, rfl, Nat.le_refl _, Nat.le_refl _⟩

theorem outcome?_of_ended (run : Runs ask? u after t) (ended : u.outcome? = some outcome) :
    t.outcome? = some outcome := by
  obtain ⟨-, rfl⟩ := run.eq_of_ended (ask?_eq_none_iff.mpr (by rw [ended]; rfl))
  exact ended

/-- A receiver waits with the room that its blocks take. -/
theorem awaiting_of_lastWait (run : Runs ask? r.receiveFile before u)
    (wait : LastWait earlier a before) :
    ∃ v misses answer, Retried r earlier v ∧ v.phase = .awaiting misses ∧
      Arrival.ofAnswer (headerLength + r.blockSize) answer = a ∧
        u = v.afterAnswer misses answer := by
  obtain ⟨room, answer, rfl, rfl⟩ := wait
  obtain ⟨v, resume, hbefore, asks, rfl⟩ := runs_snoc_iff.mp run
  have hv := retried_of_runs hbefore
  cases asks_of_ask? asks with
  | awaiting hp => exact ⟨v, _, answer, hv, hp, by rw [hv.kept.size], rfl⟩

/-! ## Dealing with what came -/

/-- What a phase has to do with the last wait of `before` and with the events `after` that followed
it. -/
def PhaseDealt (r : Receiver) (before after : List Event) : Phase → Prop
  | .polling _ => True
  | .awaiting _ => False
  | .repeating block _ => r.BringsAgain before block
  | .writing block payload | .flushing block payload =>
    r.BringsDue before block payload ∧ (∀ e ∈ after, ¬ e.IsWriteFailure) ∧
      ∀ e ∈ after, ¬ e.IsSocketFailure
  | .refusing reason =>
    (∃ block payload, r.BringsDue before block payload) ∧ (∃ e ∈ after, e.FailsToStore reason) ∧
      ∀ e ∈ after, ¬ e.IsSocketFailure
  | .acknowledging block isLast =>
    ∃ payload, isLast = decide (payload.length < r.blockSize) ∧
      r.BringsDue before block payload ∧ (∀ e ∈ after, ¬ e.IsWriteFailure) ∧
        ∀ e ∈ after, ¬ e.IsSocketFailure
  | .ended outcome => outcome = .error .cancelled ∨ r.EndsOtherwise before after outcome

/-- **The invariant of a receiver** that began as `r` and was cancelled after the events `before`,
after the events `after`. -/
structure Dealt (r : Receiver) (before after : List Event) (t : Receiver) : Prop where
  replies : ∀ bytes ∈ handed after, r.Reply before after bytes
  phase : PhaseDealt r before after t.phase

theorem Dealt.phaseDealt (h : Dealt r before after t) {phase : Phase} (hp : t.phase = phase) :
    PhaseDealt r before after phase := hp ▸ h.phase

/-- A miss ends a call if no wait is left. -/
theorem phaseDealt_miss {misses : Nat} (h : Retried r (before ++ after) (u.miss misses)) :
    PhaseDealt r before after (u.miss misses).phase := by
  have hphase : (u.miss misses).phase = .polling (misses + 1) ∨
      ∃ failure, (u.miss misses).phase = .ended (.error failure) ∧ failure.kind = .timedOut := by
    unfold miss
    dsimp only
    split
    · exact .inr ⟨_, rfl, rfl⟩
    · exact .inl rfl
  rcases hphase with hp | ⟨failure, hp, hkind⟩
  · rw [hp]
    trivial
  · have hended : (u.miss misses).outcome? = some (.error failure) := by rw [outcome?, hp]
    have hmissed := h.timedOut_iff.mp ⟨failure, hended, hkind⟩
    obtain rfl := h.timedOut hended hkind
    rw [hp]
    exact .inr (.exhausted hmissed)

/-- What a receiver has to do for what a wait brought. -/
theorem dealt_of_moment (run : Runs ask? r.receiveFile before u) (moment : Moment before) :
    Dealt r before [] u := by
  refine ⟨fun bytes hbytes => absurd hbytes List.not_mem_nil, ?_⟩
  have hu := retried_of_runs run
  rcases moment with rfl | ⟨earlier, a, wait⟩
  · cases run
    trivial
  · obtain ⟨v, misses, answer, hv, hp, rfl, rfl⟩ := awaiting_of_lastWait run wait
    have hanswered := answered_afterAnswer v misses answer
    generalize v.afterAnswer misses answer = u at hu hanswered
    have hsize := hv.kept.size
    cases hanswered with
    | @due payload brought =>
      obtain ⟨source, harrival⟩ := brought?_eq_some_iff.mp brought
      rw [hsize] at harrival
      have hdue : r.BringsDue before v.expected payload :=
        ⟨earlier, source, harrival ▸ wait, hv.expected.symm⟩
      unfold store
      split
      · exact ⟨payload, by rw [← hsize], hdue, List.forall_mem_nil _, List.forall_mem_nil _⟩
      · exact ⟨hdue, List.forall_mem_nil _, List.forall_mem_nil _⟩
    | @repeated block payload _ brought last =>
      obtain ⟨source, harrival⟩ := brought?_eq_some_iff.mp brought
      rw [hsize] at harrival
      exact ⟨earlier, source, payload, harrival ▸ wait, hv.kept.accepted ▸ last⟩
    | missed =>
      rw [← List.append_nil before] at hu
      exact phaseDealt_miss hu
    | refused error =>
      rw [hsize] at error
      exact .inr (.refused (error ▸ wait))
    | failed socket =>
      rw [hsize] at socket
      exact .inr (.failed (socket ▸ wait))

theorem Reply.snoc {bytes : Bytes} (h : r.Reply before after bytes) (e : Event) :
    r.Reply before (after ++ [e]) bytes := by
  cases h with
  | acknowledgement due => exact .acknowledgement due
  | repetition again => exact .repetition again
  | refusal due unstored failed reports =>
    exact .refusal due (List.mem_append_left _ unstored) failed reports

/-- An event that hands nothing out leaves the replies as they are. -/
theorem Dealt.replies_silent (h : Dealt r before after u) (silent : e.handed? = none) :
    ∀ bytes ∈ handed (after ++ [e]), r.Reply before (after ++ [e]) bytes := by
  intro bytes hbytes
  rw [handed_append, handed_singleton, silent, Option.toList_none, List.append_nil] at hbytes
  exact (h.replies bytes hbytes).snoc e

theorem Dealt.replies_send (h : Dealt r before after u) {bytes : Bytes}
    (answer : Except SystemError Unit) (reply : r.Reply before after bytes) :
    ∀ b ∈ handed (after ++ [⟨.sendDatagram bytes, answer⟩]),
      r.Reply before (after ++ [⟨.sendDatagram bytes, answer⟩]) b := by
  intro b hb
  rw [handed_append, handed_singleton] at hb
  rcases List.mem_append.mp hb with hb | hb
  · exact (h.replies b hb).snoc _
  · obtain rfl := List.mem_singleton.mp hb
    exact reply.snoc _

theorem forall_mem_snoc {p : Event → Prop} (h : ∀ d ∈ after, ¬ p d) (last : ¬ p e) :
    ∀ d ∈ after ++ [e], ¬ p d :=
  List.forall_mem_append.mpr ⟨h, List.forall_mem_singleton.mpr last⟩

/-- **Each call of a cancelled receiver and each answer** deal with what the last wait brought. -/
theorem Dealt.next (h : Dealt r before after u) {call : Call} {resume : call.Answer → Receiver}
    {answer : call.Answer} (asks : u.Asks call resume)
    (cancelled : (⟨call, answer⟩ : Event) ≠ ⟨.pollCancelled, false⟩)
    (retried : Retried r (before ++ (after ++ [⟨call, answer⟩])) (resume answer))
    (size : u.blockSize = r.blockSize) :
    Dealt r before (after ++ [⟨call, answer⟩]) (resume answer) := by
  have hlast : (⟨call, answer⟩ : Event) ∈ after ++ [⟨call, answer⟩] :=
    List.mem_append_right after (List.mem_singleton_self _)
  cases asks with
  | polling hp =>
    refine ⟨h.replies_silent rfl, ?_⟩
    cases answer with
    | true => exact .inl rfl
    | false => exact absurd rfl cancelled
  | awaiting hp => exact (h.phaseDealt hp).elim
  | repeating hp =>
    refine ⟨h.replies_send answer (.repetition (h.phaseDealt hp)), ?_⟩
    cases answer with
    | ok => exact phaseDealt_miss retried
    | error reason => exact .inr (.unsent hlast)
  | writing hp =>
    obtain ⟨hdue, hstored, hsent⟩ := h.phaseDealt hp
    refine ⟨h.replies_silent rfl, ?_⟩
    cases answer with
    | ok => exact ⟨hdue, forall_mem_snoc hstored id, forall_mem_snoc hsent id⟩
    | error reason => exact ⟨⟨_, _, hdue⟩, ⟨_, hlast, .writing _⟩, forall_mem_snoc hsent id⟩
  | flushing hp =>
    obtain ⟨hdue, hstored, hsent⟩ := h.phaseDealt hp
    refine ⟨h.replies_silent rfl, ?_⟩
    cases answer with
    | ok =>
      exact ⟨_, by rw [← size], hdue, forall_mem_snoc hstored id, forall_mem_snoc hsent id⟩
    | error reason => exact ⟨⟨_, _, hdue⟩, ⟨_, hlast, .flushing⟩, forall_mem_snoc hsent id⟩
  | refusing hp =>
    obtain ⟨⟨block, payload, hdue⟩, ⟨e, hmem, hfails⟩, hsent⟩ := h.phaseDealt hp
    have hfailed : e.IsWriteFailure := by cases hfails <;> trivial
    refine ⟨h.replies_send answer (.refusal hdue hmem hfailed reportsDiskFull_refusal), ?_⟩
    cases answer with
    | ok =>
      exact .inr (.unstored (List.mem_append_left _ hmem) hfails (forall_mem_snoc hsent id))
    | error reason => exact .inr (.unsent hlast)
  | @acknowledging block isLast hp =>
    obtain ⟨payload, rfl, hdue, hstored, hsent⟩ := h.phaseDealt hp
    refine ⟨h.replies_send answer (.acknowledgement hdue), ?_⟩
    cases answer with
    | error reason => exact .inr (.unsent hlast)
    | ok =>
      unfold afterAcknowledgement
      dsimp only
      split
      · rename_i hshort
        exact .inr (.accepted hdue (of_decide_eq_true hshort) (forall_mem_snoc hstored id)
          (forall_mem_snoc hsent id))
      · trivial

/-- Every run of a cancelled receiver deals with what the last wait brought. -/
theorem dealt_of_runs (hbefore : Runs ask? r.receiveFile before u) (moment : Moment before)
    (run : Runs ask? u after t) (cancelled : StaysCancelled after) : Dealt r before after t := by
  induction after using List.reverseRecOn generalizing t with
  | nil =>
    cases run
    exact dealt_of_moment hbefore moment
  | append_singleton after e ih =>
    obtain ⟨v, resume, hrun, asks, rfl⟩ := runs_snoc_iff.mp run
    obtain ⟨hearlier, hlast⟩ := List.forall_mem_append.mp cancelled
    have hv := retried_of_runs (hbefore.append hrun)
    exact (ih hrun hearlier).next (asks_of_ask? asks) (hlast e (List.mem_singleton_self _))
      (retried_of_runs (hbefore.append run)) hv.kept.size

/-! ## The outcome -/

/-- A datagram that cannot be sent ends the call. -/
theorem outcome?_of_unsent (run : Runs ask? r after t) {bytes : Bytes} {reason : SystemError}
    (send : ⟨.sendDatagram bytes, .error reason⟩ ∈ after) :
    t.outcome? = some (.error (.socketFailed .send reason)) := by
  obtain ⟨earlier, later, rfl⟩ := List.append_of_mem send
  obtain ⟨v, -, hrest⟩ := run.split
  cases hrest with
  | cons answer asks rest =>
    cases asks_of_ask? asks <;> exact outcome?_of_ended rest rfl

/-- The receiver has the last block and has not failed to store or acknowledge it. -/
def Finishing (u : Receiver) : Prop :=
  match u.phase with
  | .writing _ payload | .flushing _ payload => payload.length < u.blockSize
  | .acknowledging _ isLast => isLast = true
  | .ended outcome => outcome = .ok ()
  | .polling _ | .awaiting _ | .repeating _ _ | .refusing _ => False

theorem Finishing.next (h : u.Finishing) {call : Call} {resume : call.Answer → Receiver}
    {answer : call.Answer} (asks : u.Asks call resume)
    (stored : ¬ Event.IsWriteFailure ⟨call, answer⟩)
    (sent : ¬ Event.IsSocketFailure ⟨call, answer⟩) : (resume answer).Finishing := by
  unfold Finishing at h
  cases asks with
  | polling hp | awaiting hp | repeating hp | refusing hp =>
    rw [hp] at h
    exact h.elim
  | writing hp =>
    rw [hp] at h
    cases answer with
    | ok => exact h
    | error reason => exact absurd trivial stored
  | flushing hp =>
    rw [hp] at h
    cases answer with
    | ok => exact decide_eq_true h
    | error reason => exact absurd trivial stored
  | acknowledging hp =>
    rw [hp] at h
    obtain rfl : _ = true := h
    cases answer with
    | ok => exact rfl
    | error reason => exact absurd trivial sent

theorem finishing_of_runs (run : Runs ask? u after t) (h : u.Finishing)
    (stored : ∀ e ∈ after, ¬ e.IsWriteFailure) (sent : ∀ e ∈ after, ¬ e.IsSocketFailure) :
    t.Finishing := by
  induction run with
  | nil => exact h
  | cons answer asks _ ih =>
    obtain ⟨hstored, hstores⟩ := List.forall_mem_cons.mp stored
    obtain ⟨hsent, hsends⟩ := List.forall_mem_cons.mp sent
    exact ih (h.next (asks_of_ask? asks) hstored hsent) hstores hsends

theorem finishing_of_due (run : Runs ask? r.receiveFile before u)
    (due : r.BringsDue before block payload) (last : payload.length < r.blockSize) :
    u.Finishing := by
  obtain ⟨earlier, source, wait, hdue⟩ := due
  obtain ⟨v, misses, answer, hv, -, harrival, rfl⟩ := awaiting_of_lastWait run wait
  rw [← hv.expected] at hdue
  rw [← hv.kept.size] at harrival last
  have hturn : block = ({ v with traffic := v.traffic.countAnswer answer } : Receiver).expected :=
    hdue.symm
  simp only [afterAnswer, harrival, if_pos hturn, store]
  split
  · exact decide_eq_true last
  · exact last

/-- **What else ends a call comes before the cancellation.** -/
theorem EndsOtherwise.outcome? (h : r.EndsOtherwise before after outcome)
    (run : Runs ask? r.receiveFile (before ++ after) t) (ended : t.outcome?.isSome) :
    t.outcome? = some outcome := by
  obtain ⟨u, hbefore, hafter⟩ := run.split
  cases h with
  | accepted due last stored sent =>
    -- With the last block at hand, only a failure keeps the call from returning.
    have hfinishing := finishing_of_runs hafter (finishing_of_due hbefore due last) stored sent
    unfold Finishing at hfinishing
    unfold Receiver.outcome? at ended ⊢
    cases hp : t.phase with
    | ended outcome =>
      rw [hp] at hfinishing
      exact congrArg some hfinishing
    | polling | awaiting | repeating | writing | flushing | refusing | acknowledging =>
      rw [hp] at ended
      cases ended
  | refused wait =>
    obtain ⟨v, misses, answer, hv, -, harrival, rfl⟩ := awaiting_of_lastWait hbefore wait
    refine outcome?_of_ended hafter ?_
    rw [← hv.kept.size] at harrival
    simp only [afterAnswer, harrival]
    rfl
  | failed wait =>
    obtain ⟨v, misses, answer, hv, -, harrival, rfl⟩ := awaiting_of_lastWait hbefore wait
    refine outcome?_of_ended hafter ?_
    rw [← hv.kept.size] at harrival
    simp only [afterAnswer, harrival]
    rfl
  | unsent send => exact outcome?_of_unsent hafter send
  | @unstored e reason mem fails sent =>
    -- All that follows the failure is to tell the peer, and that did not fail.
    obtain ⟨earlier, later, rfl⟩ := List.append_of_mem mem
    obtain ⟨v, -, hrest⟩ := hafter.split
    obtain ⟨w, hrefusing, hlater⟩ := refusing_of_failsToStore fails hrest
    have hnotifies := notifies_of_refusing hrefusing hlater
    generalize t.outcome? = o at hnotifies ended
    cases hnotifies with
    | waiting => cases ended
    | told => rfl
    | untold reason =>
      exact absurd trivial (sent ⟨.sendDatagram refusal.encode, .error reason⟩ (by simp))
  | exhausted missed =>
    have ht := retried_of_runs run
    obtain ⟨failure, hfailed, hkind⟩ := ht.timedOut_iff.mpr missed
    obtain rfl := ht.timedOut hfailed hkind
    exact hfailed

/-- **What follows a cancellation** of `r.receiveFile` after the events `before`: the events
`after`, which lead to `t`. -/
structure Halts (r : Receiver) (before after : List Event) (t : Receiver) : Prop where
  /-- No wait begins. -/
  waits : outcomes after = []
  /-- At most one datagram is handed out, for what the last wait brought. -/
  sends : (handed after).length ≤ 1
  replies : ∀ bytes ∈ handed after, r.Reply before after bytes
  calls : after.length ≤ 4
  /-- What else ends the call has its own outcome. -/
  otherwise : t.outcome?.isSome → ∀ outcome, r.EndsOtherwise before after outcome →
    t.outcome? = some outcome
  /-- If nothing else does, the call ends as cancelled. -/
  cancelled : t.outcome?.isSome → (∀ outcome, ¬ r.EndsOtherwise before after outcome) →
    t.outcome? = some (.error .cancelled)
  /-- The accepted blocks are counted, also the one that the last wait brought. -/
  transferred : t.transferred =
    r.transferred + (ledger r.blockSize r.accepted (before ++ after)).payloads.flatten.length

/-- Between two waits a receiver has at most four calls left, and hands out at most one datagram. -/
theorem Dealt.budget? (h : Dealt r before after u) :
    ∃ b : Budget, b.calls ≤ 4 ∧ b.sends ≤ 1 ∧ u.budget? = some b := by
  unfold Receiver.budget?
  cases hp : u.phase with
  | awaiting => exact (h.phaseDealt hp).elim
  | polling | repeating | writing | flushing | refusing | acknowledging | ended =>
    exact ⟨_, by decide, by decide, rfl⟩

theorem halts_of_runs (run : Runs ask? r.receiveFile (before ++ after) t) (moment : Moment before)
    (cancelled : StaysCancelled after) : r.Halts before after t := by
  obtain ⟨u, hbefore, hafter⟩ := run.split
  obtain ⟨b, hcalls, hsends, hbudget⟩ := (dealt_of_moment hbefore moment).budget?
  obtain ⟨hwaits, hlength, hhanded⟩ := within_budget budget?_next hafter cancelled hbudget
  have hdealt := dealt_of_runs hbefore moment hafter cancelled
  refine ⟨hwaits, hhanded.trans hsends, hdealt.replies, hlength.trans hcalls,
    fun hended outcome h => h.outcome? run hended, ?_, (retried_of_runs run).kept.transferred⟩
  intro hended hnone
  obtain ⟨outcome, houtcome⟩ := Option.isSome_iff_exists.mp hended
  cases hp : t.phase with
  | ended last =>
    rcases hdealt.phaseDealt hp with rfl | hother
    · rw [Receiver.outcome?, hp]
    · exact absurd hother (hnone last)
  | polling | awaiting | repeating | writing | flushing | refusing | acknowledging =>
    rw [Receiver.outcome?, hp] at hended
    cases hended

end Receiver

end Tftp
