import Tftp.Proofs.Calls
import Tftp.Proofs.Receiving.Accounting
import Tftp.Proofs.Sending.Accounting
import Tftp.Proofs.Sending.Confirming
import Tftp.Proofs.Transfer.Hindered

/-!
# Every transfer returns

The calls of a transfer are bounded by the number of datagrams that arrive: a wait that brings
nothing uses up an attempt. So in surroundings in which only so many datagrams arrive a transfer has
a result, whatever else they do.

Results:
* `within_send` and `within_receive`: the bounds, from the accounts of the engines.
* **`send_returns`** and **`receive_returns`**: a transfer has a result.

A transfer that never ends is what the bound on the attempts is there to prevent (specification §8,
"Retry bound"; §10.4). A peer can still prolong a transfer by sending blocks or acknowledgements in
their turn, so the bound is one in what arrives.

Out of scope: calls that do not return. A wait is bounded by its deadline, which is set before the
first one.
-/

namespace Tftp

open Program

namespace Program

variable {m n k : Nat}

/-- A program that runs a sender makes the calls of the sender and then those that follow. -/
theorem within_runSender {s : Sender} {after : Sender → Program Result}
    (bound : ∀ es u, Runs Sender.ask? s es u → es.length ≤ m + allowance k es)
    (then_ : ∀ es u, Runs Sender.ask? s es u → (after u).Within n k) :
    (runSender s >>= after).Within (m + n) k := by
  intro es r h
  obtain ⟨calls, rest, u, rfl, run, hends⟩ := does_runSender_bind h
  have hcalls := bound calls u run
  rw [allowance_append, List.length_append]
  rcases hends with ⟨-, rfl, -⟩ | ⟨_, -, hafter⟩
  · rw [List.length_nil]
    omega
  · have hrest := then_ calls u run hafter
    omega

/-- A program that runs a receiver makes the calls of the receiver and then those that follow. -/
theorem within_runReceiver {u : Receiver} {after : Receiver → Program Result}
    (bound : ∀ es v, Runs Receiver.ask? u es v → es.length ≤ m + allowance k es)
    (then_ : ∀ v, (after v).Within n k) : (runReceiver u >>= after).Within (m + n) k := by
  intro es r h
  obtain ⟨calls, rest, v, rfl, run, hends⟩ := does_runReceiver_bind h
  have hcalls := bound calls v run
  rw [allowance_append, List.length_append]
  rcases hends with ⟨-, rfl, -⟩ | ⟨_, -, hafter⟩
  · rw [List.length_nil]
    omega
  · have hrest := then_ v hafter
    omega

end Program

theorem Sender.Confirming.length_le {s u : Sender} {es : List Event} (h : s.Confirming es u) :
    es.length ≤ 2 := by
  cases h with
  | waiting | answered | rejected => simp

namespace Transfer

variable {t : Transfer} {k : Nat}

/-! ## Bounds -/

theorem within_close_failed (failure : Failure) (transferred : Nat) (misses : UInt32) :
    (Endpoint.close >>= fun _ => failed failure transferred misses).Within 3 k :=
  within_bind (m := 1) (within_ask _) fun _ => within_failed _ _ _

theorem within_succeeded_close (verb preposition : Bytes) (start : Int) (transferred : Nat)
    (misses : UInt32) :
    (t.succeeded verb preposition start transferred misses >>= fun result =>
      Endpoint.close >>= fun _ => pure result).Within 4 k :=
  within_bind (m := 3) (within_succeeded _ _ _ _ _) fun _ =>
    within_bind (m := 1) (n := 0) (within_ask _) fun _ => within_pure _

theorem within_reportUnopened {α : Type} (code : ErrorCode) (text : Bytes) (failure : Failure) :
    (t.reportFileError code text >>= fun _ =>
      (pure (.error failure) : Program (Except Failure α))).Within 11 k :=
  within_bind (n := 0) (within_reportFileError _ _) fun _ => within_pure _

theorem within_ready_map {α : Type} {milliseconds : Int} {g : Endpoint → α} :
    (Endpoint.ready t.here t.peer milliseconds >>= fun x =>
      match x with
      | .error failure => (pure (.error failure) : Program (Except Failure α))
      | .ok endpoint => pure (.ok (g endpoint))).Within 7 k := by
  refine within_bind (n := 0) (Endpoint.within_ready _ _ _) fun ready => ?_
  cases ready with
  | error failure => exact within_pure _
  | ok endpoint => exact within_pure _

theorem within_prepareSend : t.prepareSend.Within 12 k := by
  unfold prepareSend
  cases t.config.check with
  | error failure => exact within_pure _
  | ok =>
    refine within_bind (m := 1) (n := 11) (within_ask _) fun opened => ?_
    cases opened with
    | error reason => exact within_reportUnopened _ _ _
    | ok =>
      refine (within_bind (m := 1) (n := 7) (within_ask _) fun size => ?_).mono (by omega)
      cases size with
      | error reason => exact within_pure _
      | ok size =>
        dsimp only
        cases negotiate t.requested (.send size) t.config.timeout with
        | error failure => exact within_pure _
        | ok p => exact within_ready_map (g := fun endpoint => (Direction.send size, p, endpoint))

theorem within_prepareReceive : t.prepareReceive.Within 12 k := by
  unfold prepareReceive
  cases t.config.check with
  | error failure => exact within_pure _
  | ok =>
    dsimp only
    cases negotiate t.requested .receive t.config.timeout with
    | error failure => exact within_pure _
    | ok p =>
      refine within_bind (m := 1) (n := 11) (within_ask _) fun opened => ?_
      cases opened with
      | error reason => exact within_reportUnopened _ _ _
      | ok => exact (within_ready_map (g := fun endpoint => (p, endpoint))).mono (by omega)

/-- Serving a file to a peer that acknowledges it takes at most three calls for each attempt, after
the greeting and the first answer. -/
theorem within_serveSend (valid : 0 < t.config.maxRetries) (start : Int) (direction : Direction)
    (p : Parameters) (endpoint : Endpoint) :
    (t.serveSend start direction p endpoint).Within (3 * t.config.maxRetries + 10)
      (3 * t.config.maxRetries + 1) := by
  refine (within_bind (m := 1) (n := 3 * t.config.maxRetries + 9)
    (Endpoint.within_acceptRequest _ _ _) fun ⟨accepted, endpoint⟩ => ?_).mono (by omega)
  cases accepted with
  | error failure => exact (within_close_failed _ _ _).mono (by omega)
  | ok =>
    refine (within_runSender (m := 2) (n := 3 * t.config.maxRetries + 7) ?_
      fun conf s run => ?_).mono (by omega)
    · intro conf s run
      have hlength := (Sender.confirming_of_runs run).length_le
      omega
    · have hconfirming := Sender.confirming_of_runs run
      obtain ⟨-, hretries, htransferred⟩ := hconfirming.keeps
      split
      · exact (within_close_failed _ _ _).mono (by omega)
      · refine (within_runSender (m := 3 * t.config.maxRetries + 3) (n := 4) ?_
          fun _ u _ => ?_).mono (by omega)
        · intro sends u run'
          have haccount := Sender.account_of_runs run' htransferred (hretries ▸ valid)
          have hlength := haccount.length_le
          rw [hretries] at hlength
          exact hlength.trans (Nat.add_comm _ _).le
        · split
          · exact (within_close_failed _ _ _).mono (by omega)
          · exact within_succeeded_close _ _ _ _ _

/-- Receiving a file takes at most three calls for each wait, after the greeting. -/
theorem within_serveReceive (valid : 0 < t.config.maxRetries) (start : Int) (p : Parameters)
    (endpoint : Endpoint) :
    (t.serveReceive start p endpoint).Within (3 * t.config.maxRetries + 7)
      (3 * t.config.maxRetries + 2) := by
  refine (within_bind (m := 1) (n := 3 * t.config.maxRetries + 6)
    (Endpoint.within_acceptRequest _ _ _) fun ⟨accepted, endpoint⟩ => ?_).mono (by omega)
  cases accepted with
  | error failure => exact (within_close_failed _ _ _).mono (by omega)
  | ok =>
    refine (within_runReceiver (m := 3 * t.config.maxRetries + 2) (n := 4) ?_ fun u => ?_).mono
      (by omega)
    · intro receives u run
      exact (Receiver.account_of_runs run valid).length_le.trans (Nat.add_comm _ _).le
    · split
      · exact (within_close_failed _ _ _).mono (by omega)
      · exact within_succeeded_close _ _ _ _ _

theorem within_send :
    t.send.Within (3 * t.config.maxRetries + 23) (3 * t.config.maxRetries + 1) := by
  refine (within_bind (m := 1) (n := 3 * t.config.maxRetries + 22) (within_ask _) fun start =>
    (within_bind_of_does (n := 3 * t.config.maxRetries + 10) within_prepareSend
      fun es prepared hprepare => ?_).mono (by omega)).mono (by omega)
  cases prepared with
  | error failure => exact (within_failed _ _ _).mono (by omega)
  | ok prepared =>
    exact within_serveSend (Config.maxRetries_pos (check_of_prepareSend hprepare)) _ _ _ _

theorem within_receive :
    t.receive.Within (3 * t.config.maxRetries + 20) (3 * t.config.maxRetries + 2) := by
  refine (within_bind (m := 1) (n := 3 * t.config.maxRetries + 19) (within_ask _) fun start =>
    (within_bind_of_does (n := 3 * t.config.maxRetries + 7) within_prepareReceive
      fun es prepared hprepare => ?_).mono (by omega)).mono (by omega)
  cases prepared with
  | error failure => exact (within_failed _ _ _).mono (by omega)
  | ok prepared =>
    exact within_serveReceive (Config.maxRetries_pos (check_of_prepareReceive hprepare)) _ _ _

/-! ## Results -/

section Returns

variable {surroundings : List Event → (call : Call) → call.Answer} {n : Nat}

/-- A program whose calls are bounded by the arrivals has a result if those are bounded. -/
theorem returns_of_within {α : Type} {m : Nat} {p : Program α} (within : p.Within m k)
    (scripted : ∀ es, Follows surroundings es → (arrivals es).length ≤ n) :
    ∃ es result, Follows surroundings es ∧ p.Does es (some result) := by
  refine returns_of_bounded (n := m + k * n) fun es r hfollows hdoes => ?_
  have harrivals : allowance k es ≤ k * n := Nat.mul_le_mul_left k (scripted es hfollows)
  have hlength := within hdoes
  omega

/-- **A transfer that sends its file returns** if only so many datagrams arrive. -/
theorem send_returns (scripted : ∀ es, Follows surroundings es → (arrivals es).length ≤ n) :
    ∃ es result, Follows surroundings es ∧ t.send.Does es (some result) :=
  returns_of_within within_send scripted

/-- **A transfer that receives its file returns** if only so many datagrams arrive. -/
theorem receive_returns (scripted : ∀ es, Follows surroundings es → (arrivals es).length ≤ n) :
    ∃ es result, Follows surroundings es ∧ t.receive.Does es (some result) :=
  returns_of_within within_receive scripted

end Returns

end Transfer

/-! ## Scripts -/

/-- Surroundings that answer the waits from a script, and then with no datagram any more; `others`
answer the other calls. -/
def scripted (script : List (Except SystemError Datagram))
    (others : List Event → (call : Call) → call.Answer) (es : List Event) :
    (call : Call) → call.Answer
  | .receiveDatagram _ => script.getD (outcomes es).length (.error .wouldBlock)
  | other => others es other

/-- At most as many datagrams arrive as the script has answers. -/
theorem arrivals_le_of_scripted {script : List (Except SystemError Datagram)}
    {others : List Event → (call : Call) → call.Answer} {es : List Event}
    (h : Follows (scripted script others) es) : (arrivals es).length ≤ script.length := by
  have hboth : (arrivals es).length ≤ (outcomes es).length ∧
      (arrivals es).length ≤ script.length := by
    induction h with
    | nil => exact ⟨Nat.zero_le _, Nat.zero_le _⟩
    | @snoc es before call ih =>
      rw [arrivals_append, outcomes_append, List.length_append, List.length_append,
        arrivals_singleton, outcomes_singleton]
      cases call with
      | receiveDatagram room =>
        have hwaited : Event.outcome? ⟨.receiveDatagram room,
            scripted script others es (.receiveDatagram room)⟩ =
            some (script.getD (outcomes es).length (.error .wouldBlock)) := rfl
        have harrived : Event.datagram? ⟨.receiveDatagram room,
            scripted script others es (.receiveDatagram room)⟩ =
            (script.getD (outcomes es).length (.error .wouldBlock)).toOption := by
          unfold scripted Event.datagram?
          cases script.getD (outcomes es).length (.error .wouldBlock) <;> rfl
        rw [hwaited, harrived]
        by_cases hwithin : (outcomes es).length < script.length
        · have hone : ∀ answer : Except SystemError Datagram,
              answer.toOption.toList.length ≤ 1 := by
            intro answer
            cases answer <;> simp [Except.toOption]
          have harrives := hone (script.getD (outcomes es).length (.error .wouldBlock))
          rw [Option.toList_some, List.length_singleton]
          omega
        · rw [List.getD_eq_getElem?_getD, List.getElem?_eq_none (by omega)]
          exact ⟨Nat.le_succ_of_le ih.1, ih.2⟩
      | _ => simpa [Event.datagram?, Event.outcome?] using ih
  exact hboth.2

end Tftp
