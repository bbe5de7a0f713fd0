import Tftp.Proofs.Stage
import Tftp.Proofs.Transfer.Hindered

/-!
# Datagrams that could not be sent

A transfer that fails because it could not send was refused a datagram by the system, for the reason
that it gives. Reporting a file that cannot be opened does not make a transfer fail so.

* `SendRefused` is what the trace shows of such a failure.

Results:
* `Sender.sendRefused_of_asks` and `Receiver.sendRefused_of_asks`: an engine fails to send when its
  datagram is refused.
* **`sendRefused_of_send`** and **`sendRefused_of_receive`**: so does a transfer.

The specification has the system's refusal of a datagram as a failure of the socket (§10.3), with
the reason it gives. Together with `Tftp.Proofs.Transfer.Fitting` this shows that no transfer fails
because it made a datagram that is too long.

Out of scope: datagrams that were sent and lost, which no one learns of but by waiting.
-/

namespace Tftp

open Program

/-- The system refused a datagram, for a reason. -/
def SendRefused (reason : SystemError) (es : List Event) : Prop :=
  ∃ bytes, ⟨.sendDatagram bytes, .error reason⟩ ∈ es

/-! ## Engines -/

section Refusing

variable {reason : SystemError} {es : List Event}

theorem SendRefused.mono {fs : List Event} (h : SendRefused reason es) (sub : es ⊆ fs) :
    SendRefused reason fs := by
  obtain ⟨bytes, hmem⟩ := h
  exact ⟨bytes, sub hmem⟩

/-- A wait is not what could not be sent. -/
theorem ne_failed {room : Nat} {answer : Except SystemError Datagram} :
    Arrival.ofAnswer room answer ≠ .failed (.socketFailed .send reason) := by
  intro h
  obtain ⟨_, -, -, hfailure⟩ := Arrival.ofAnswer_eq_failed_iff.mp h
  cases hfailure

/-- If a machine fails to send only when its datagram is refused, a machine that has failed so was
refused one. -/
theorem sendRefused_of_runs {σ : Type} {ask? : σ → Option (Ask σ)}
    {outcome? : σ → Option (Except Failure Unit)} {s t : σ}
    (step : ∀ {s : σ} {call : Call} {resume : call.Answer → σ} {answer : call.Answer},
      ask? s = some ⟨call, resume⟩ →
        outcome? (resume answer) = some (.error (.socketFailed .send reason)) →
          SendRefused reason [⟨call, answer⟩])
    (run : Runs ask? s es t) (start : outcome? s = none)
    (failed : outcome? t = some (.error (.socketFailed .send reason))) : SendRefused reason es := by
  have hmoved : t ≠ s := by
    rintro rfl
    rw [start] at failed
    cases failed
  obtain ⟨before, call, answer, u, resume, rfl, -, asks, rfl⟩ := run.exists_last hmoved
  exact (step asks failed).mono (List.subset_append_right _ _)

theorem Sender.sendRefused_of_asks {s : Sender} {call : Call} {resume : call.Answer → Sender}
    {answer : call.Answer} (asks : s.ask? = some ⟨call, resume⟩)
    (failed : (resume answer).outcome? = some (.error (.socketFailed .send reason))) :
    SendRefused reason [⟨call, answer⟩] := by
  have hmiss : ∀ {s : Sender} {attempt : Attempt},
      (s.miss attempt).outcome? ≠ some (.error (.socketFailed .send reason)) :=
    fun hfailed => nomatch miss_failure hfailed
  cases asks_of_ask? asks with
  | confirming =>
    unfold afterFirstAnswer at failed
    dsimp only at failed
    split at failed
    · split at failed <;> cases failed
    · cases failed
    · cases failed
    · cases failed
    · cases failed
    · rename_i harrival
      cases failed
      exact absurd harrival ne_failed
  | rejecting | sending =>
    cases answer with
    | ok => cases failed
    | error _ =>
      cases failed
      exact ⟨_, List.mem_singleton_self _⟩
  | reading => cases answer <;> cases failed
  | polling => cases answer <;> cases failed
  | awaiting =>
    unfold afterAnswer at failed
    dsimp only at failed
    split at failed
    · split at failed
      · unfold advance at failed
        dsimp only at failed
        split at failed <;> cases failed
      · exact absurd failed hmiss
    · cases failed
    · rename_i harrival
      cases failed
      exact absurd harrival ne_failed
    · exact absurd failed hmiss

theorem Receiver.sendRefused_of_asks {u : Receiver} {call : Call} {resume : call.Answer → Receiver}
    {answer : call.Answer} (asks : u.ask? = some ⟨call, resume⟩)
    (failed : (resume answer).outcome? = some (.error (.socketFailed .send reason))) :
    SendRefused reason [⟨call, answer⟩] := by
  have hmiss : ∀ {u : Receiver} {misses : Nat},
      (u.miss misses).outcome? ≠ some (.error (.socketFailed .send reason)) :=
    fun hfailed => nomatch miss_failure hfailed
  cases asks_of_ask? asks with
  | polling => cases answer <;> cases failed
  | awaiting =>
    unfold afterAnswer at failed
    dsimp only at failed
    split at failed
    · split at failed
      · rw [outcome?_store] at failed
        cases failed
      · split at failed
        · cases failed
        · exact absurd failed hmiss
    · cases failed
    · rename_i harrival
      cases failed
      exact absurd harrival ne_failed
    · exact absurd failed hmiss
  | repeating =>
    cases answer with
    | ok => exact absurd failed hmiss
    | error _ =>
      cases failed
      exact ⟨_, List.mem_singleton_self _⟩
  | writing | flushing => cases answer <;> cases failed
  | refusing =>
    cases answer with
    | ok => cases failed
    | error _ =>
      cases failed
      exact ⟨_, List.mem_singleton_self _⟩
  | acknowledging =>
    cases answer with
    | ok =>
      unfold afterAcknowledgement at failed
      dsimp only at failed
      split at failed <;> cases failed
    | error _ =>
      cases failed
      exact ⟨_, List.mem_singleton_self _⟩

/-! ## Transfers -/

variable {t : Transfer} {direction : Direction} {result : Result}

/-- A transfer that has concluded failed for what its engine failed for. -/
theorem outcome?_of_concluding {outcome? : Option (Except Failure Unit)} {transferred : Nat}
    {misses : UInt32} {failure : Failure}
    (h : Concluding outcome? transferred misses es (some result))
    (failed : result.failure? = some failure) : outcome? = some (.error failure) := by
  obtain ⟨outcome, hout, rfl⟩ := h.result result rfl
  cases outcome with
  | ok => cases failed
  | error _ =>
    cases failed
    exact hout

theorem sendRefused_of_serves {greeting? : Option Packet}
    {engine : List Event → Option Result → Prop}
    (serving : ∀ {es}, engine es (some result) → SendRefused reason es)
    (h : Serves greeting? engine es (some result))
    (failed : result.failure? = some (.socketFailed .send reason)) : SendRefused reason es := by
  cases h with
  | unsent _ concluding =>
    cases outcome?_of_concluding concluding failed
    exact ⟨_, List.mem_cons_self ..⟩
  | served hserving => exact (serving hserving).mono (List.subset_append_right _ _)

theorem sendRefused_of_course {engine : Parameters → List Event → Option Result → Prop}
    (serving : ∀ {p es}, engine p es (some result) → SendRefused reason es)
    (h : Course t direction engine es (some result))
    (failed : result.failure? = some (.socketFailed .send reason)) : SendRefused reason es := by
  cases h with
  | served _ serves =>
    refine (sendRefused_of_serves serving serves failed).mono ?_
    exact List.Subset.trans (List.subset_append_right _ _) (List.subset_cons_self _ _)

/-- Nothing that hinders a transfer is a datagram that could not be sent. -/
theorem HinderedRun.unsent (h : HinderedRun t direction es result)
    (failed : result.failure? = some (.socketFailed .send reason)) : False := by
  obtain ⟨failure, hhindered, rfl⟩ := h.cause
  cases failed
  exact hhindered.unsent reason rfl

/-- **A sender that could not send** was refused a datagram. -/
theorem sendRefused_of_send (h : t.send.Does es (some result))
    (failed : result.failure? = some (.socketFailed .send reason)) : SendRefused reason es := by
  obtain ⟨size, hhindered | ⟨-, hcourse⟩⟩ := served_of_send h
  · exact (hhindered.unsent failed).elim
  refine sendRefused_of_course (fun {_ _} hsends => ?_) hcourse failed
  cases hsends with
  | confirming run _ concluding =>
    have hfailed := outcome?_of_concluding concluding failed
    exact (sendRefused_of_runs Sender.sendRefused_of_asks run rfl hfailed).mono
      (List.subset_append_left _ _)
  | sending _ _ run' concluding =>
    have hfailed := outcome?_of_concluding concluding failed
    refine (sendRefused_of_runs Sender.sendRefused_of_asks run' rfl hfailed).mono ?_
    exact List.Subset.trans (List.subset_append_left _ _) (List.subset_append_right _ _)

/-- **A receiver that could not send** was refused a datagram. -/
theorem sendRefused_of_receive (h : t.receive.Does es (some result))
    (failed : result.failure? = some (.socketFailed .send reason)) : SendRefused reason es := by
  obtain hhindered | ⟨-, hcourse⟩ := served_of_receive h
  · exact (hhindered.unsent failed).elim
  refine sendRefused_of_course (fun {_ _} hreceives => ?_) hcourse failed
  cases hreceives with
  | receiving run concluding =>
    have hfailed := outcome?_of_concluding concluding failed
    exact (sendRefused_of_runs Receiver.sendRefused_of_asks run rfl hfailed).mono
      (List.subset_append_left _ _)

end Refusing

end Tftp
