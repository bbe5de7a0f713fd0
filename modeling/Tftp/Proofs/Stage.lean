import Tftp.Proofs.Causes
import Tftp.Proofs.Sending.Confirming

/-!
# The stage after a call

A call that sends or receives a file ends in the stage `done` if it returned normally. A call that
failed leaves the stage `aborted`, unless it was the socket that failed: then the stage stays the
one in which the socket was called.

* `Event.IsSocketFailure` are the events that are failures of the socket.
* `Sender.Staged` and `Receiver.Staged` are the invariants: the stage that belongs to each phase.

Results:
* `Sender.Staged.next` and `Receiver.Staged.next`: each call and each answer keep the invariant.
* `kind_eq_socket_iff_of_runs`: a failure is one of the socket exactly if the last call was.
* **`stage_of_outcome`**: the stage after each call, for each way in which it may end.

The stages are the states of the specification (§4.5 and §4.6): every abort is terminal (§7), and
`aborted` says so. A failed socket call is the exception. It ends the call without a word about the
stage, so that `sending` or `receiving` is what a caller finds who looks at it afterwards, although
§4.5 has only two ways out of `sending`.

Out of scope: stages in the middle of a call, which nobody can look at, and the stage of a transfer
as a whole, which has none.
-/

namespace Tftp

/-! ## Failures of the socket -/

/-- The socket failed. It has not failed if a wait only brought no datagram. -/
def Event.IsSocketFailure : Event → Prop
  | ⟨.sendDatagram _, .error _⟩ => True
  | ⟨.receiveDatagram _, .error reason⟩ => reason.isNoDatagram = false
  | _ => False

theorem isSocketFailure_receive_iff {room : Nat} {answer : Except SystemError Datagram} :
    Event.IsSocketFailure ⟨.receiveDatagram room, answer⟩ ↔
      ∃ failure, Arrival.ofAnswer room answer = .failed failure := by
  simp only [Arrival.ofAnswer_eq_failed_iff]
  cases answer with
  | error reason => simp [Event.IsSocketFailure]
  | ok datagram => simp [Event.IsSocketFailure]

theorem kind_of_failed {room : Nat} {answer : Except SystemError Datagram} {failure : Failure}
    (h : Arrival.ofAnswer room answer = .failed failure) : failure.kind = .socket := by
  obtain ⟨reason, -, -, rfl⟩ := Arrival.ofAnswer_eq_failed_iff.mp h
  rfl

/-- If each call of a machine fails for the socket exactly if the socket fails, a machine under way
fails for the socket exactly if its last call was a failure of the socket. -/
theorem kind_eq_socket_iff_of_runs {σ : Type} {ask? : σ → Option (Ask σ)}
    {outcome? : σ → Option (Except Failure Unit)} {s t : σ} {es : List Event} {failure : Failure}
    (step : ∀ {s : σ} {call : Call} {resume : call.Answer → σ} {answer : call.Answer},
      ask? s = some ⟨call, resume⟩ → outcome? (resume answer) = some (.error failure) →
        (failure.kind = .socket ↔ Event.IsSocketFailure ⟨call, answer⟩))
    (run : Runs ask? s es t) (start : outcome? s = none)
    (failed : outcome? t = some (.error failure)) :
    failure.kind = .socket ↔ ∃ e ∈ es.getLast?, e.IsSocketFailure := by
  have hmoved : t ≠ s := by
    rintro rfl
    rw [start] at failed
    cases failed
  -- A machine that has failed makes no call, so its last event is the one that made it fail.
  obtain ⟨before, call, answer, u, resume, rfl, -, asks, rfl⟩ := run.exists_last hmoved
  rw [step asks failed, List.getLast?_concat]
  simp

/-! ## Sending -/

namespace Sender

variable {s t : Sender} {es : List Event} {failure : Failure}

/-- The stage that belongs to each phase of a sender that sends a file. -/
def Staged (s : Sender) : Prop :=
  match s.phase with
  | .reading _ => s.stage = .reading
  | .polling _ => s.stage = .reading ∨ s.stage = .sending
  | .sending _ | .awaiting _ => s.stage = .sending
  | .ended (.ok ()) => s.stage = .done
  | .ended (.error failure) => s.stage = if failure.kind = .socket then .sending else .aborted
  | .confirming | .rejecting _ => False

theorem staged_sendFile (s : Sender) : s.sendFile.Staged := by
  simp [Staged, sendFile]

theorem staged_miss (attempt : Attempt) (h : s.stage = .sending) : (s.miss attempt).Staged := by
  unfold miss
  dsimp only
  split
  · simp [Staged, abort, Failure.kind]
  · simp [Staged, h]

theorem staged_advance (s : Sender) (attempt : Attempt) : (s.advance attempt).Staged := by
  unfold advance
  dsimp only
  split <;> simp [Staged]

theorem staged_afterAnswer (attempt : Attempt) (answer : Except SystemError Datagram)
    (h : s.stage = .sending) : (s.afterAnswer attempt answer).Staged := by
  unfold afterAnswer
  dsimp only
  split
  · split
    · exact staged_advance _ attempt
    · exact staged_miss attempt h
  · simp [Staged, abort, Failure.kind]
  · rename_i failure harrival
    simp [Staged, stop, kind_of_failed harrival, h]
  · exact staged_miss attempt h

/-- Each call of a sender and each answer keep the stage with the phase. -/
theorem Staged.next (h : s.Staged) {call : Call} {resume : call.Answer → Sender}
    (asks : s.ask? = some ⟨call, resume⟩) (answer : call.Answer) : (resume answer).Staged := by
  unfold Staged at h
  cases asks_of_ask? asks with
  | confirming hp | rejecting hp =>
    rw [hp] at h
    exact h.elim
  | reading hp =>
    rw [hp] at h
    cases answer with
    | ok payload => exact Or.inl h
    | error reason => simp [Staged, afterRead, abort, Failure.kind]
  | polling hp =>
    unfold afterPoll
    split <;> simp [Staged, abort, Failure.kind]
  | sending hp =>
    rw [hp] at h
    cases answer <;> simpa [Staged, afterSend, stop, Failure.kind] using h
  | awaiting hp =>
    rw [hp] at h
    exact staged_afterAnswer _ answer h

theorem staged_of_runs (run : Runs ask? s es t) (h : s.Staged) : t.Staged := by
  induction run with
  | nil => exact h
  | cons answer asks _ ih => exact ih (h.next asks answer)

theorem Staged.of_outcome (h : s.Staged) {outcome : Except Failure Unit}
    (ended : s.outcome? = some outcome) :
    match outcome with
    | .ok () => s.stage = .done
    | .error failure => s.stage = if failure.kind = .socket then .sending else .aborted := by
  unfold Staged at h
  unfold outcome? at ended
  split at ended
  · rename_i hp
    cases ended
    rw [hp] at h
    cases outcome <;> exact h
  · cases ended

/-- A wait for the first answer that failed leaves the stage as it was if the socket failed. -/
theorem Confirming.stage (h : s.Confirming es t) (failed : t.outcome? = some (.error failure)) :
    t.stage = if failure.kind = .socket then s.stage else .aborted := by
  cases h with
  | waiting => cases failed
  | answered answer =>
    unfold afterFirstAnswer at failed ⊢
    cases harrival : Arrival.ofAnswer datagramRoom answer with
    | packet source p =>
      rw [harrival] at failed
      cases p with
      | ack block =>
        dsimp only at failed
        split at failed <;> cases failed
      | error code text =>
        cases failed
        rfl
      | request | data | optionAck => cases failed
    | malformed | nothing =>
      rw [harrival] at failed
      cases failed
      rfl
    | failed f =>
      rw [harrival] at failed
      cases failed
      simp [stop, confirm, kind_of_failed harrival]
  | @rejected answer block wrong sent =>
    rw [afterFirstAnswer_of_rejecting wrong] at failed ⊢
    cases sent with
    | ok =>
      cases failed
      rfl
    | error reason =>
      cases failed
      rfl

theorem miss_failure {attempt : Attempt}
    (failed : (s.miss attempt).outcome? = some (.error failure)) : failure.kind = .timedOut := by
  unfold miss at failed
  dsimp only at failed
  split at failed <;> cases failed
  rfl

/-- The first answer makes a sender fail for the socket exactly if the wait for it did. -/
theorem kind_eq_socket_iff_of_afterFirstAnswer {answer : Except SystemError Datagram}
    (failed : (s.afterFirstAnswer answer).outcome? = some (.error failure)) :
    failure.kind = .socket ↔ ∃ f, Arrival.ofAnswer datagramRoom answer = .failed f := by
  unfold afterFirstAnswer at failed
  cases harrival : Arrival.ofAnswer datagramRoom answer with
  | packet source p =>
    rw [harrival] at failed
    cases p with
    | ack block =>
      dsimp only at failed
      split at failed <;> cases failed
    | error code text =>
      cases failed
      simp [Failure.kind]
    | request | data | optionAck => cases failed
  | malformed | nothing =>
    rw [harrival] at failed
    cases failed
    simp [Failure.kind]
  | failed f =>
    rw [harrival] at failed
    cases failed
    simp [kind_of_failed harrival]

/-- A later answer makes a sender fail for the socket exactly if the wait for it did. -/
theorem kind_eq_socket_iff_of_afterAnswer {attempt : Attempt}
    {answer : Except SystemError Datagram}
    (failed : (s.afterAnswer attempt answer).outcome? = some (.error failure)) :
    failure.kind = .socket ↔ ∃ f, Arrival.ofAnswer datagramRoom answer = .failed f := by
  unfold afterAnswer at failed
  cases harrival : Arrival.ofAnswer datagramRoom answer with
  | packet source p =>
    rw [harrival] at failed
    cases p with
    | ack block =>
      dsimp only at failed
      split at failed
      · unfold advance at failed
        dsimp only at failed
        split at failed <;> cases failed
      · simp [miss_failure failed]
    | error code text =>
      cases failed
      simp [Failure.kind]
    | request | data | optionAck => simp [miss_failure failed]
  | malformed | nothing =>
    rw [harrival] at failed
    simp [miss_failure failed]
  | failed f =>
    rw [harrival] at failed
    cases failed
    simp [kind_of_failed harrival]

/-- A call of a sender fails for the socket exactly if the socket fails. -/
theorem kind_eq_socket_iff_of_asks {call : Call} {resume : call.Answer → Sender}
    {answer : call.Answer} (asks : s.ask? = some ⟨call, resume⟩)
    (failed : (resume answer).outcome? = some (.error failure)) :
    failure.kind = .socket ↔ Event.IsSocketFailure ⟨call, answer⟩ := by
  cases asks_of_ask? asks with
  | confirming =>
    rw [isSocketFailure_receive_iff]
    exact kind_eq_socket_iff_of_afterFirstAnswer failed
  | rejecting | sending =>
    cases answer <;> cases failed <;> simp [Failure.kind, Event.IsSocketFailure]
  | reading =>
    cases answer <;> cases failed
    simp [Failure.kind, Event.IsSocketFailure]
  | polling =>
    unfold afterPoll at failed
    split at failed <;> cases failed
    simp [Failure.kind, Event.IsSocketFailure]
  | awaiting =>
    rw [isSocketFailure_receive_iff]
    exact kind_eq_socket_iff_of_afterAnswer failed

end Sender

/-! ## Receiving -/

namespace Receiver

variable {r t : Receiver} {es : List Event} {failure : Failure}

/-- The stages in which a receiver calls the socket. -/
def Stage.Calling (stage : Stage) : Prop :=
  stage = .receiving ∨ stage = .writing ∨ stage = .acknowledging

/-- The stage that belongs to each phase of a receiver. -/
def Staged (r : Receiver) : Prop :=
  match r.phase with
  | .polling _ => True
  | .awaiting _ | .repeating _ _ => r.stage = .receiving
  | .writing _ _ | .flushing _ _ | .refusing _ => r.stage = .writing
  | .acknowledging _ _ => r.stage = .acknowledging
  | .ended (.ok ()) => r.stage = .done
  | .ended (.error failure) =>
    if failure.kind = .socket then r.stage.Calling else r.stage = .aborted

theorem staged_miss (r : Receiver) (misses : Nat) : (r.miss misses).Staged := by
  unfold miss
  dsimp only
  split <;> simp [Staged, abort, Failure.kind]

theorem staged_stop {step : SocketStep} {reason : SystemError} (h : r.stage.Calling) :
    (r.stop (.socketFailed step reason)).Staged := by
  simpa [Staged, stop, Failure.kind] using h

theorem staged_store (r : Receiver) (block : UInt16) (payload : Bytes) :
    (r.store block payload).Staged := by
  unfold store
  split <;> simp [Staged, accept]

theorem staged_afterAnswer (misses : Nat) (answer : Except SystemError Datagram)
    (h : r.stage = .receiving) : (r.afterAnswer misses answer).Staged := by
  unfold afterAnswer
  dsimp only
  split
  · split
    · exact staged_store _ _ _
    · split
      · exact h
      · exact staged_miss _ misses
  · simp [Staged, abort, Failure.kind]
  · rename_i failure harrival
    simp [Staged, stop, kind_of_failed harrival, h, Stage.Calling]
  · exact staged_miss _ misses

/-- Each call of a receiver and each answer keep the stage with the phase. -/
theorem Staged.next (h : r.Staged) {call : Call} {resume : call.Answer → Receiver}
    (asks : r.ask? = some ⟨call, resume⟩) (answer : call.Answer) : (resume answer).Staged := by
  unfold Staged at h
  cases asks_of_ask? asks with
  | polling =>
    unfold afterPoll
    split <;> simp [Staged, abort, Failure.kind]
  | awaiting hp =>
    rw [hp] at h
    exact staged_afterAnswer _ answer h
  | repeating hp =>
    rw [hp] at h
    cases answer with
    | ok => exact staged_miss _ _
    | error reason => exact staged_stop (Or.inl h)
  | writing hp =>
    rw [hp] at h
    cases answer <;> exact h
  | flushing hp =>
    rw [hp] at h
    cases answer with
    | ok => simp [Staged, afterFlush, accept]
    | error reason => exact h
  | refusing hp =>
    rw [hp] at h
    cases answer with
    | ok => simp [Staged, afterRefusal, abort, Failure.kind]
    | error reason => exact staged_stop (Or.inr (Or.inl h))
  | acknowledging hp =>
    rw [hp] at h
    cases answer with
    | ok =>
      unfold afterAcknowledgement
      dsimp only
      split <;> simp [Staged]
    | error reason => exact staged_stop (Or.inr (Or.inr h))

theorem staged_of_runs (run : Runs ask? r es t) (h : r.Staged) : t.Staged := by
  induction run with
  | nil => exact h
  | cons answer asks _ ih => exact ih (h.next asks answer)

theorem Staged.of_outcome (h : r.Staged) {outcome : Except Failure Unit}
    (ended : r.outcome? = some outcome) :
    match outcome with
    | .ok () => r.stage = .done
    | .error failure => if failure.kind = .socket then r.stage.Calling else r.stage = .aborted := by
  unfold Staged at h
  unfold outcome? at ended
  split at ended
  · rename_i hp
    cases ended
    rw [hp] at h
    cases outcome <;> exact h
  · cases ended

theorem miss_failure {misses : Nat}
    (failed : (r.miss misses).outcome? = some (.error failure)) : failure.kind = .timedOut := by
  unfold miss at failed
  dsimp only at failed
  split at failed <;> cases failed
  rfl

theorem outcome?_store (block : UInt16) (payload : Bytes) :
    (r.store block payload).outcome? = none := by
  unfold store
  split <;> rfl

/-- An answer makes a receiver fail for the socket exactly if the wait for it did. -/
theorem kind_eq_socket_iff_of_afterAnswer {misses : Nat} {answer : Except SystemError Datagram}
    (failed : (r.afterAnswer misses answer).outcome? = some (.error failure)) :
    failure.kind = .socket ↔
      ∃ f, Arrival.ofAnswer (headerLength + r.blockSize) answer = .failed f := by
  unfold afterAnswer at failed
  dsimp only at failed
  cases harrival : Arrival.ofAnswer (headerLength + r.blockSize) answer with
  | packet source p =>
    rw [harrival] at failed
    cases p with
    | data block payload =>
      dsimp only at failed
      split at failed
      · rw [outcome?_store] at failed
        cases failed
      · split at failed
        · cases failed
        · simp [miss_failure failed]
    | error code text =>
      cases failed
      simp [Failure.kind]
    | request | ack | optionAck => simp [miss_failure failed]
  | malformed | nothing =>
    rw [harrival] at failed
    simp [miss_failure failed]
  | failed f =>
    rw [harrival] at failed
    cases failed
    simp [kind_of_failed harrival]

/-- A call of a receiver fails for the socket exactly if the socket fails. -/
theorem kind_eq_socket_iff_of_asks {call : Call} {resume : call.Answer → Receiver}
    {answer : call.Answer} (asks : r.ask? = some ⟨call, resume⟩)
    (failed : (resume answer).outcome? = some (.error failure)) :
    failure.kind = .socket ↔ Event.IsSocketFailure ⟨call, answer⟩ := by
  cases asks_of_ask? asks with
  | polling =>
    unfold afterPoll at failed
    split at failed <;> cases failed
    simp [Failure.kind, Event.IsSocketFailure]
  | awaiting =>
    rw [isSocketFailure_receive_iff]
    exact kind_eq_socket_iff_of_afterAnswer failed
  | repeating =>
    cases answer with
    | ok => simp [miss_failure failed, Event.IsSocketFailure]
    | error reason =>
      cases failed
      simp [Failure.kind, Event.IsSocketFailure]
  | writing | flushing => cases answer <;> cases failed
  | refusing => cases answer <;> cases failed <;> simp [Failure.kind, Event.IsSocketFailure]
  | acknowledging =>
    cases answer with
    | ok =>
      unfold afterAcknowledgement at failed
      dsimp only at failed
      split at failed <;> cases failed
    | error reason =>
      cases failed
      simp [Failure.kind, Event.IsSocketFailure]

end Receiver

/-! ## Every call -/

/-- **The stage after each call.** In every run, whatever the waits bring and whatever fails:

* a call that sends or receives a file and returned normally leaves the stage `done`;
* a call that failed, but not for the socket, leaves the stage `aborted`;
* a call that failed for the socket leaves the stage in which the socket was called: a wait for the
  first answer that of before, a call that sends a file `sending`, and a call that receives one
  `receiving`, `writing` or `acknowledging`;
* a call fails for the socket exactly if its last event is a failure of the socket. -/
theorem stage_of_outcome (es : List Event) :
    (∀ (s t : Sender) (failure : Failure), Runs Sender.ask? s.confirm es t →
      t.outcome? = some (.error failure) →
      (t.stage = if failure.kind = .socket then s.stage else .aborted) ∧
        (failure.kind = .socket ↔ ∃ e ∈ es.getLast?, e.IsSocketFailure)) ∧
      (∀ s t : Sender, Runs Sender.ask? s.sendFile es t →
        (t.outcome? = some (.ok ()) → t.stage = .done) ∧
          ∀ failure, t.outcome? = some (.error failure) →
            (t.stage = if failure.kind = .socket then .sending else .aborted) ∧
              (failure.kind = .socket ↔ ∃ e ∈ es.getLast?, e.IsSocketFailure)) ∧
      (∀ r t : Receiver, Runs Receiver.ask? r.receiveFile es t →
        (t.outcome? = some (.ok ()) → t.stage = .done) ∧
          ∀ failure, t.outcome? = some (.error failure) →
            (if failure.kind = .socket then t.stage.Calling else t.stage = .aborted) ∧
              (failure.kind = .socket ↔ ∃ e ∈ es.getLast?, e.IsSocketFailure)) := by
  refine ⟨?_, ?_, ?_⟩
  · intro s t failure run failed
    exact ⟨(Sender.confirming_of_runs run).stage failed,
      kind_eq_socket_iff_of_runs Sender.kind_eq_socket_iff_of_asks run rfl failed⟩
  · intro s t run
    have hstaged := Sender.staged_of_runs run (Sender.staged_sendFile s)
    refine ⟨fun hok => hstaged.of_outcome hok, fun failure failed => ?_⟩
    refine ⟨hstaged.of_outcome failed, ?_⟩
    exact kind_eq_socket_iff_of_runs Sender.kind_eq_socket_iff_of_asks run rfl failed
  · intro r t run
    have hstaged : t.Staged := Receiver.staged_of_runs run trivial
    refine ⟨fun hok => hstaged.of_outcome hok, fun failure failed => ?_⟩
    refine ⟨hstaged.of_outcome failed, ?_⟩
    exact kind_eq_socket_iff_of_runs Receiver.kind_eq_socket_iff_of_asks run rfl failed

/-- A trace in which a block is read and cannot be sent. -/
def unsentTrace : List Event :=
  [⟨.readBytes 512, .ok [7]⟩, ⟨.pollCancelled, false⟩,
    ⟨.sendDatagram [0, 3, 0, 1, 7], .error .networkUnreachable⟩]

theorem runs_unsentTrace :
    ∃ t, Runs Sender.ask? (Sender.new 512 6 .zero).sendFile unsentTrace t ∧
      t.outcome? = some (.error (.socketFailed .send .networkUnreachable)) :=
  ⟨_, .cons _ rfl (.cons _ rfl (.cons _ rfl (.nil _))), rfl⟩

/-- A sender whose block could not be sent has failed, and is not aborted. -/
theorem unsentTrace_notAborted :
    ∃ t, Runs Sender.ask? (Sender.new 512 6 .zero).sendFile unsentTrace t ∧
      t.outcome? = some (.error (.socketFailed .send .networkUnreachable)) ∧
      t.stage ≠ .aborted :=
  ⟨_, .cons _ rfl (.cons _ rfl (.cons _ rfl (.nil _))), rfl, by decide⟩

/-- It is still sending, and the socket failed last; a sender that was cancelled is aborted. -/
theorem unsentTrace_sending :
    (∃ t, Runs Sender.ask? (Sender.new 512 6 .zero).sendFile unsentTrace t ∧ t.stage = .sending ∧
      ∃ e ∈ unsentTrace.getLast?, e.IsSocketFailure) ∧
      ∃ t, Runs Sender.ask? (Sender.new 512 6 .zero).sendFile
          [⟨.readBytes 512, .ok [7]⟩, ⟨.pollCancelled, true⟩] t ∧
        t.outcome? = some (.error .cancelled) ∧ t.stage = .aborted := by
  constructor
  · obtain ⟨t, run, failed⟩ := runs_unsentTrace
    obtain ⟨-, hsend, -⟩ := stage_of_outcome unsentTrace
    obtain ⟨-, hfailed⟩ := hsend _ t run
    obtain ⟨hstage, hsocket⟩ := hfailed _ failed
    exact ⟨t, run, hstage, hsocket.mp rfl⟩
  · have run : Runs Sender.ask? (Sender.new 512 6 .zero).sendFile
        [⟨.readBytes 512, .ok [7]⟩, ⟨.pollCancelled, true⟩] _ := .cons _ rfl (.cons _ rfl (.nil _))
    obtain ⟨-, hsend, -⟩ :=
      stage_of_outcome [⟨.readBytes 512, .ok [7]⟩, ⟨.pollCancelled, true⟩]
    obtain ⟨-, hfailed⟩ := hsend _ _ run
    exact ⟨_, run, rfl, (hfailed _ rfl).1⟩

end Tftp
