import Tftp.Proofs.Calls

/-!
# When a cancellation comes

A transfer looks at the cancellation before every attempt. A cancellation that comes before the
transfer, or while an attempt waits for a datagram, is what the next look finds.

* `Moment` are the traces after which a cancellation may come, and `StaysCancelled` says that it is
  found from then on.
* `Budget` is what a cancelled machine can still do before it ends.

Results:
* `within_budget`: a machine that pays for each call from its budget stays within it.
* `staysCancelled_of_follows`: in surroundings that have cancelled a transfer, every look finds it.

The look is the call `pollCancelled`, which the specification has before every attempt (§10.5).
Between two looks a cancellation makes no difference, so the moments that count are the beginning
and the waits: a cancellation that comes during another call is found by the same look as one that
came during the wait before.

Out of scope: what a cancelled transfer does then. Its budget is set by each machine, in
`Tftp.Proofs.Sending.Cancelling` and `Tftp.Proofs.Receiving.Cancelling`.
-/

namespace Tftp

/-- The last event of `before` is a wait, which ended as `a` says; `earlier` is what precedes it. -/
def LastWait (earlier : List Event) (a : Arrival) (before : List Event) : Prop :=
  ∃ room answer, before = earlier ++ [⟨.receiveDatagram room, answer⟩] ∧
    Arrival.ofAnswer room answer = a

/-- A cancellation may come after the events `before`: before the call, or during its last wait. -/
def Moment (before : List Event) : Prop := before = [] ∨ ∃ earlier a, LastWait earlier a before

/-- Each look at the cancellation among the events `after` finds it. -/
def StaysCancelled (after : List Event) : Prop := ∀ e ∈ after, e ≠ ⟨.pollCancelled, false⟩

section Budget

/-- How many calls a machine can still make without waiting, and how many datagrams it can hand
out. -/
structure Budget where
  calls : Nat
  sends : Nat

variable {σ : Type} {ask? : σ → Option (Ask σ)} {budget? : σ → Option Budget} {s t : σ}
  {es : List Event} {b : Budget}

/-- The event `e`, which leads from `s` to `t`, is no wait, and is paid from the budget of `s`. -/
def Spends (budget? : σ → Option Budget) (s : σ) (e : Event) (t : σ) : Prop :=
  ∀ b, budget? s = some b → e.outcome? = none ∧
    ∃ b', budget? t = some b' ∧ b'.calls + 1 ≤ b.calls ∧
      b'.sends + e.handed?.toList.length ≤ b.sends

/-- A cancelled machine that pays for each call from its budget stays within it. -/
theorem within_budget
    (step : ∀ {s : σ} {call : Call} {resume : call.Answer → σ} {answer : call.Answer},
      ask? s = some ⟨call, resume⟩ → (⟨call, answer⟩ : Event) ≠ ⟨.pollCancelled, false⟩ →
        Spends budget? s ⟨call, answer⟩ (resume answer))
    (run : Runs ask? s es t) (cancelled : StaysCancelled es) (budget : budget? s = some b) :
    outcomes es = [] ∧ es.length ≤ b.calls ∧ (handed es).length ≤ b.sends := by
  induction run generalizing b with
  | nil => exact ⟨rfl, Nat.zero_le _, Nat.zero_le _⟩
  | cons answer asks _ ih =>
    obtain ⟨hfirst, hrest⟩ := List.forall_mem_cons.mp cancelled
    obtain ⟨hsilent, b', hbudget, hcalls, hsends⟩ := step asks hfirst b budget
    obtain ⟨hwaits, hlength, hhanded⟩ := ih hrest hbudget
    refine ⟨?_, ?_, ?_⟩
    · rw [outcomes_cons, hsilent, hwaits]
      rfl
    · rw [List.length_cons]
      omega
    · rw [handed_cons, List.length_append]
      omega

end Budget

/-- In surroundings that have cancelled the transfer, each look at the cancellation finds it. -/
theorem staysCancelled_of_follows {surroundings : List Event → (call : Call) → call.Answer}
    {before after : List Event} (follows : Follows surroundings (before ++ after))
    (cancelled : ∀ after, surroundings (before ++ after) .pollCancelled = true) :
    StaysCancelled after := by
  rintro e he rfl
  obtain ⟨earlier, later, rfl⟩ := List.append_of_mem he
  have hanswer := follows.answer_eq (List.append_assoc before earlier _).symm
  rw [cancelled earlier] at hanswer
  cases hanswer

end Tftp
