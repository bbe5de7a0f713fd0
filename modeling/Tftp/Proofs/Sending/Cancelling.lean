import Tftp.Proofs.Moment
import Tftp.Proofs.Sending.Retrying

/-!
# A cancelled sender

A sender that is cancelled while it waits for an acknowledgement still counts the block, and reads
the next one, before it looks at the cancellation. Either may end the call, and then it does not end
as cancelled.

* `budget?` are the calls that a cancelled sender can still make.
* `EndsOtherwise` lists what else ends the call, with the outcome that it has then.
* `Halts` is what follows a cancellation.

Results:
* `budget?_next`: a cancelled sender uses up its budget.
* `EndsOtherwise.outcome?` and `endsOtherwise_of_outcome?`: what else ends the call comes before the
  cancellation, and there is nothing else.
* **`halts_of_runs`**: what follows a cancellation, in every run of `sendFile`.

The specification has the cancellation checked before every attempt (§10.5), and so before a block
is sent again as well as before it is sent first. Reading the next block comes before that check, so
a disk that fails just then is what the call ends for, although it was cancelled.

Out of scope: a cancellation that comes while the sender reads or sends. It is found by the next
look, like one that came during the wait.
-/

namespace Tftp

namespace Sender

variable {s t u : Sender} {earlier before after : List Event} {a : Arrival}
  {outcome : Except Failure Unit}

/-- What ends a call that sends a file, although it was cancelled after the events `before`, and
with which outcome: what the last wait brought, or a read among the events `after`. -/
inductive EndsOtherwise (s : Sender) (before after : List Event) : Except Failure Unit → Prop where
  /-- The last block was acknowledged. -/
  | acknowledged {earlier : List Event} {source : Address} {block : UInt16} {payload : Bytes}
      (wait : LastWait earlier (.packet source (.ack block)) before)
      (flight : (tally earlier).inFlight = some (block, payload))
      (last : payload.length < s.blockSize) : EndsOtherwise s before after (.ok ())
  /-- An error packet came. -/
  | refused {earlier : List Event} {source : Address} {code : ErrorCode} {text : Bytes}
      (wait : LastWait earlier (.packet source (.error code text)) before) :
      EndsOtherwise s before after (.error (.peerError code text))
  /-- The socket failed. -/
  | failed {earlier : List Event} {failure : Failure}
      (wait : LastWait earlier (.failed failure) before) :
      EndsOtherwise s before after (.error failure)
  /-- All attempts with one block missed. -/
  | exhausted {n : Nat} (missed : missed n before = max 1 s.maxRetries) :
      EndsOtherwise s before after (.error (.retriesExhausted s.maxRetries))
  /-- The next block cannot be read. -/
  | unread {count : Nat} {reason : SystemError} (read : ⟨.readBytes count, .error reason⟩ ∈ after) :
      EndsOtherwise s before after (.error (.readFailed reason))

/-! ## The budget -/

/-- What a cancelled sender can still do; `none` if it is in the middle of an attempt. -/
def budget? (s : Sender) : Option Budget :=
  match s.phase with
  | .reading _ => some ⟨2, 0⟩
  | .polling _ => some ⟨1, 0⟩
  | .ended _ => some ⟨0, 0⟩
  | .confirming | .rejecting _ | .sending _ | .awaiting _ => none

/-- A cancelled sender uses up its budget. -/
theorem budget?_next {call : Call} {resume : call.Answer → Sender} {answer : call.Answer}
    (asks : u.ask? = some ⟨call, resume⟩)
    (cancelled : (⟨call, answer⟩ : Event) ≠ ⟨.pollCancelled, false⟩) :
    Spends budget? u ⟨call, answer⟩ (resume answer) := by
  intro b budget
  unfold budget? at budget
  cases asks_of_ask? asks with
  | confirming hp | rejecting hp | sending hp | awaiting hp =>
    rw [hp] at budget
    cases budget
  | reading hp =>
    rw [hp] at budget
    cases budget
    cases answer with
    | ok payload => exact ⟨rfl, ⟨1, 0⟩, rfl, Nat.le_refl _, Nat.le_refl _⟩
    | error reason => exact ⟨rfl, ⟨0, 0⟩, rfl, Nat.le_succ _, Nat.le_refl _⟩
  | polling hp =>
    rw [hp] at budget
    cases budget
    cases answer with
    | true => exact ⟨rfl, ⟨0, 0⟩, rfl, Nat.le_refl _, Nat.le_refl _⟩
    | false => exact absurd rfl cancelled

theorem outcome?_of_ended (run : Runs ask? u after t) (ended : u.outcome? = some outcome) :
    t.outcome? = some outcome := by
  obtain ⟨-, rfl⟩ := run.eq_of_ended (ask?_eq_none_iff.mpr (by rw [ended]; rfl))
  exact ended

/-- A sender waits only in an attempt. -/
theorem awaiting_of_lastWait (run : Runs ask? s.sendFile before u)
    (wait : LastWait earlier a before) :
    ∃ v attempt answer, Retried s earlier v ∧ v.phase = .awaiting attempt ∧
      Arrival.ofAnswer datagramRoom answer = a ∧ u = v.afterAnswer attempt answer := by
  obtain ⟨room, answer, rfl, rfl⟩ := wait
  obtain ⟨v, resume, hbefore, asks, rfl⟩ := runs_snoc_iff.mp run
  have hv := retried_of_runs hbefore
  cases asks_of_ask? asks with
  | confirming hp => exact (hv.phaseRetried hp).elim
  | awaiting hp => exact ⟨v, _, answer, hv, hp, rfl, rfl⟩

/-- Between two attempts a sender has at most two calls left, and hands nothing out. -/
theorem budget?_of_moment (run : Runs ask? s.sendFile before u) (moment : Moment before) :
    ∃ calls ≤ 2, u.budget? = some ⟨calls, 0⟩ := by
  rcases moment with rfl | ⟨earlier, a, wait⟩
  · cases run
    exact ⟨2, Nat.le_refl _, rfl⟩
  · obtain ⟨v, attempt, answer, -, -, -, rfl⟩ := awaiting_of_lastWait run wait
    have hanswered := answered_afterAnswer v attempt answer
    generalize v.afterAnswer attempt answer = u at hanswered ⊢
    cases hanswered with
    | acknowledged =>
      unfold advance
      dsimp only
      split
      · exact ⟨0, by decide, rfl⟩
      · exact ⟨2, by decide, rfl⟩
    | missed =>
      unfold miss
      dsimp only
      split
      · exact ⟨0, by decide, rfl⟩
      · exact ⟨1, by decide, rfl⟩
    | refused | failed => exact ⟨0, by decide, rfl⟩

/-! ## The outcome -/

/-- A block that cannot be read ends the call. -/
theorem outcome?_of_unread (run : Runs ask? s before t) {count : Nat} {reason : SystemError}
    (read : ⟨.readBytes count, .error reason⟩ ∈ before) :
    t.outcome? = some (.error (.readFailed reason)) := by
  obtain ⟨earlier, after, rfl⟩ := List.append_of_mem read
  obtain ⟨v, -, hrest⟩ := run.split
  cases hrest with
  | cons answer asks rest =>
    cases asks_of_ask? asks
    exact outcome?_of_ended rest rfl

/-- **What else ends a call comes before the cancellation.** -/
theorem EndsOtherwise.outcome? (h : s.EndsOtherwise before after outcome)
    (run : Runs ask? s.sendFile (before ++ after) t) : t.outcome? = some outcome := by
  obtain ⟨u, hbefore, hafter⟩ := run.split
  cases h with
  | @acknowledged earlier source block payload wait flight last =>
    obtain ⟨v, attempt, answer, hv, hp, harrival, rfl⟩ := awaiting_of_lastWait hbefore wait
    obtain ⟨-, -, hflight⟩ := hv.phaseRetried hp
    rw [flight] at hflight
    cases hflight
    refine outcome?_of_ended hafter ?_
    rw [← hv.size] at last
    simp [afterAnswer, harrival, advance, last, Sender.outcome?]
  | refused wait =>
    obtain ⟨v, attempt, answer, -, -, harrival, rfl⟩ := awaiting_of_lastWait hbefore wait
    refine outcome?_of_ended hafter ?_
    simp only [afterAnswer, harrival]
    rfl
  | failed wait =>
    obtain ⟨v, attempt, answer, -, -, harrival, rfl⟩ := awaiting_of_lastWait hbefore wait
    refine outcome?_of_ended hafter ?_
    simp only [afterAnswer, harrival]
    rfl
  | exhausted missed =>
    have hu := retried_of_runs hbefore
    obtain ⟨failure, hfailed, hkind⟩ := hu.timedOut_iff.mpr ⟨_, missed⟩
    obtain rfl := hu.timedOut hfailed hkind
    exact outcome?_of_ended hafter hfailed
  | unread read => exact outcome?_of_unread hafter read

/-- A miss ends a call if no attempt is left. -/
theorem exhausted_of_miss {attempt : Attempt} (h : Retried s before (u.miss attempt))
    (ended : (u.miss attempt).outcome? = some outcome) :
    s.EndsOtherwise before after outcome := by
  have hfailure : ∃ failure, outcome = .error failure ∧ failure.kind = .timedOut := by
    unfold miss at ended
    dsimp only at ended
    split at ended
    · cases ended
      exact ⟨_, rfl, rfl⟩
    · cases ended
  obtain ⟨failure, rfl, hkind⟩ := hfailure
  obtain ⟨n, hn⟩ := h.timedOut_iff.mp ⟨failure, ended, hkind⟩
  obtain rfl := h.timedOut ended hkind
  exact .exhausted hn

/-- What a wait brought ends a call for one of these reasons. -/
theorem endsOtherwise_of_lastWait (run : Runs ask? s.sendFile before u)
    (wait : LastWait earlier a before) (ended : u.outcome? = some outcome) :
    s.EndsOtherwise before after outcome := by
  have hu := retried_of_runs run
  obtain ⟨v, attempt, answer, hv, hp, rfl, rfl⟩ := awaiting_of_lastWait run wait
  obtain ⟨-, -, hflight⟩ := hv.phaseRetried hp
  have hanswered := answered_afterAnswer v attempt answer
  generalize v.afterAnswer attempt answer = u at hu ended hanswered
  cases hanswered with
  | acknowledged ack =>
    obtain ⟨source, harrival⟩ := Arrival.acknowledged?_eq_some_iff.mp ack
    unfold advance at ended
    dsimp only at ended
    split at ended
    · rename_i hlast
      cases ended
      rw [hv.size] at hlast
      exact .acknowledged (harrival ▸ wait) hflight hlast
    · cases ended
  | missed => exact exhausted_of_miss hu ended
  | refused error =>
    cases ended
    exact .refused (error ▸ wait)
  | failed socket =>
    cases ended
    exact .failed (socket ▸ wait)

/-- **There is nothing else** that ends a cancelled call. -/
theorem endsOtherwise_of_outcome? (run : Runs ask? s.sendFile (before ++ after) t)
    (moment : Moment before) (cancelled : StaysCancelled after) (waits : outcomes after = [])
    (sends : handed after = []) (ended : t.outcome? = some outcome) :
    outcome = .error .cancelled ∨ s.EndsOtherwise before after outcome := by
  -- The last call ended the transfer. A wait was it only if nothing follows the moment.
  rcases List.eq_nil_or_concat' after with rfl | ⟨after, ⟨call, answer⟩, rfl⟩
  · rw [List.append_nil] at run
    rcases moment with rfl | ⟨earlier, a, wait⟩
    · cases run
      cases ended
    · exact .inr (endsOtherwise_of_lastWait run wait ended)
  · rw [← List.append_assoc] at run
    obtain ⟨v, resume, hbefore, asks, rfl⟩ := runs_snoc_iff.mp run
    rw [outcomes_append, outcomes_singleton, List.append_eq_nil_iff] at waits
    rw [handed_append, handed_singleton, List.append_eq_nil_iff] at sends
    cases asks_of_ask? asks with
    | confirming | awaiting => cases waits.2
    | rejecting | sending => cases sends.2
    | reading =>
      cases answer with
      | ok => cases ended
      | error reason =>
        cases ended
        exact .inr (.unread (List.mem_append_right after (List.mem_singleton_self _)))
    | polling =>
      cases answer with
      | true =>
        cases ended
        exact .inl rfl
      | false =>
        exact absurd rfl (cancelled _ (List.mem_append_right after (List.mem_singleton_self _)))

/-- Events that neither hand anything out nor wait leave the tally as it is. -/
theorem tally_append_silent (es : List Event) {after : List Event} (waits : outcomes after = [])
    (sends : handed after = []) : tally (es ++ after) = tally es := by
  induction after using List.reverseRecOn with
  | nil => rw [List.append_nil]
  | append_singleton after e ih =>
    rw [outcomes_append, outcomes_singleton, List.append_eq_nil_iff] at waits
    rw [handed_append, handed_singleton, List.append_eq_nil_iff] at sends
    have hhanded : e.handed? = none := by simpa using sends.2
    have hacknowledged : e.acknowledged? = none := by
      cases hwait : e.acknowledged? with
      | none => rfl
      | some block =>
        obtain ⟨room, source, bytes, rfl, -⟩ := Event.acknowledged?_eq_some_iff.mp hwait
        cases waits.2
    rw [← List.append_assoc, tally_snoc, Tally.next_silent hhanded hacknowledged]
    exact ih waits.1 sends.1

/-- **What follows a cancellation** of `s.sendFile` after the events `before`: the events `after`,
which lead to `t`. -/
structure Halts (s : Sender) (before after : List Event) (t : Sender) : Prop where
  /-- No wait begins. -/
  waits : outcomes after = []
  /-- Nothing is handed out. -/
  sends : handed after = []
  calls : after.length ≤ 2
  /-- What else ends the call has its own outcome. -/
  otherwise : ∀ outcome, s.EndsOtherwise before after outcome → t.outcome? = some outcome
  /-- If nothing else does, the call ends as cancelled. -/
  cancelled : t.outcome?.isSome → (∀ outcome, ¬ s.EndsOtherwise before after outcome) →
    t.outcome? = some (.error .cancelled)
  /-- The blocks acknowledged before are counted, also the one that the last wait acknowledged. -/
  transferred : t.transferred = s.transferred + (tally before).bytes

theorem halts_of_runs (run : Runs ask? s.sendFile (before ++ after) t) (moment : Moment before)
    (cancelled : StaysCancelled after) : s.Halts before after t := by
  obtain ⟨u, hbefore, hafter⟩ := run.split
  obtain ⟨calls, hcalls, hbudget⟩ := budget?_of_moment hbefore moment
  obtain ⟨hwaits, hlength, hhanded⟩ := within_budget budget?_next hafter cancelled hbudget
  have hsends := List.eq_nil_of_length_eq_zero (Nat.le_zero.mp hhanded)
  refine ⟨hwaits, hsends, hlength.trans hcalls, fun outcome h => h.outcome? run, ?_, ?_⟩
  · intro hended hnone
    obtain ⟨outcome, houtcome⟩ := Option.isSome_iff_exists.mp hended
    rcases endsOtherwise_of_outcome? run moment cancelled hwaits hsends houtcome with rfl | hother
    · exact houtcome
    · exact absurd hother (hnone outcome)
  · rw [(retried_of_runs run).transferred, tally_append_silent before hwaits hsends]

end Sender

end Tftp
