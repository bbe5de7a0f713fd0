import Mathlib.Data.List.Induction
import Mathlib.Data.List.TakeWhile
import Tftp.Call

/-!
# Traces

The trace of a machine is the list of its events: the calls it made, each with its answer.

* `handed`, `outcomes` and `arrivals` are what a trace gave to the socket, what its waits brought,
  and the datagrams among that. `allowance` is a number of calls for each datagram.
* `occurrences` counts the events of a trace that have a property, which may depend on the events
  before.
* `Along` follows a part of the surroundings (a file, a count of what has happened) through the
  events of a trace.

Results:
* `occurrences_snoc`: the last event counts if it has the property after all the others.
* `runs_snoc_iff` and `along_snoc_iff`: a trace is also read from its end.
* `Along.induction`, `Runs.induction` and **`Runs.induction_along`**: what holds at the start and is
  kept by every event, as far as the surroundings allow it, holds of every run.

Traces are what the results are about. A property of an engine is stated as one of its trace, which
anybody could record at the socket and the file, and its state comes in only where the specification
speaks of it, as of counts and outcomes.

Out of scope: infinite traces. A run is finite, and what holds of every run holds of every moment of
one that goes on for ever.
-/

namespace Tftp

/-! ## Views of a trace -/

/-- The datagram that an event hands to the socket, whether it is sent or refused. -/
def Event.handed? : Event → Option Bytes
  | ⟨.sendDatagram bytes, _⟩ => some bytes
  | _ => none

/-- What a wait for a datagram brought. -/
def Event.outcome? : Event → Option (Except SystemError Datagram)
  | ⟨.receiveDatagram _, answer⟩ => some answer
  | _ => none

/-- The datagram that a wait brought. -/
def Event.datagram? : Event → Option Datagram
  | ⟨.receiveDatagram _, .ok datagram⟩ => some datagram
  | _ => none

/-- The datagrams handed to the socket, in order. -/
def handed (es : List Event) : List Bytes := es.filterMap Event.handed?

/-- What the waits for a datagram brought, in order. -/
def outcomes (es : List Event) : List (Except SystemError Datagram) :=
  es.filterMap Event.outcome?

/-- The datagrams that the waits of a trace brought, in order. -/
def arrivals (es : List Event) : List Datagram := es.filterMap Event.datagram?

theorem arrivals_append (es fs : List Event) : arrivals (es ++ fs) = arrivals es ++ arrivals fs :=
  List.filterMap_append

theorem arrivals_singleton (e : Event) : arrivals [e] = e.datagram?.toList := by
  unfold arrivals
  cases h : e.datagram? <;> simp [h]

/-- The number of calls that the arrivals of a trace allow, `k` for each. -/
def allowance (k : Nat) (es : List Event) : Nat := k * (arrivals es).length

theorem allowance_append (k : Nat) (es fs : List Event) :
    allowance k (es ++ fs) = allowance k es + allowance k fs := by
  unfold allowance
  rw [arrivals_append, List.length_append, Nat.mul_add]

theorem allowance_silent (k : Nat) (es : List Event) {e : Event} (silent : e.datagram? = none) :
    allowance k (es ++ [e]) = allowance k es := by
  unfold allowance
  rw [arrivals_append, arrivals_singleton, silent]
  exact congrArg _ (congrArg _ (List.append_nil _))

theorem allowance_arrival (k : Nat) (es : List Event) {e : Event} {datagram : Datagram}
    (arrives : e.datagram? = some datagram) :
    allowance k (es ++ [e]) = allowance k es + k := by
  rw [allowance_append, allowance, allowance, arrivals_singleton, arrives]
  exact congrArg _ (Nat.mul_one k)

theorem handed_append (es fs : List Event) : handed (es ++ fs) = handed es ++ handed fs :=
  List.filterMap_append

theorem outcomes_append (es fs : List Event) : outcomes (es ++ fs) = outcomes es ++ outcomes fs :=
  List.filterMap_append

theorem handed_singleton (e : Event) : handed [e] = e.handed?.toList := by
  unfold handed
  cases h : e.handed? <;> simp [h]

theorem outcomes_singleton (e : Event) : outcomes [e] = e.outcome?.toList := by
  unfold outcomes
  cases h : e.outcome? <;> simp [h]

theorem mem_handed {es : List Event} {bytes : Bytes} :
    bytes ∈ handed es ↔ ∃ e ∈ es, e.handed? = some bytes :=
  List.mem_filterMap

theorem handed_cons (e : Event) (es : List Event) :
    handed (e :: es) = e.handed?.toList ++ handed es := by
  rw [← handed_singleton, ← handed_append, List.singleton_append]

theorem outcomes_cons (e : Event) (es : List Event) :
    outcomes (e :: es) = e.outcome?.toList ++ outcomes es := by
  rw [← outcomes_singleton, ← outcomes_append, List.singleton_append]

theorem outcomes_eq_nil {es : List Event} (h : ∀ e ∈ es, e.outcome? = none) : outcomes es = [] :=
  List.filterMap_eq_nil_iff.mpr h

theorem arrivals_eq_nil {es : List Event} (h : ∀ e ∈ es, e.datagram? = none) : arrivals es = [] :=
  List.filterMap_eq_nil_iff.mpr h

theorem handed_eq_nil {es : List Event} (h : ∀ e ∈ es, e.handed? = none) : handed es = [] :=
  List.filterMap_eq_nil_iff.mpr h

/-- The events of a trace up to its first wait. -/
def beforeWait (es : List Event) : List Event := es.takeWhile fun e => e.outcome?.isNone

theorem beforeWait_append {es fs : List Event} (h : ∀ e ∈ es, e.outcome? = none) :
    beforeWait (es ++ fs) = es ++ beforeWait fs :=
  List.takeWhile_append_of_pos fun e he => by rw [h e he]; rfl

theorem beforeWait_eq_self {es : List Event} (h : ∀ e ∈ es, e.outcome? = none) :
    beforeWait es = es :=
  List.takeWhile_eq_self_iff.mpr fun e he => by rw [h e he]; rfl

theorem mem_of_mem_beforeWait {es : List Event} {e : Event} (h : e ∈ beforeWait es) : e ∈ es :=
  (List.takeWhile_prefix _).subset h

/-! ## Counting -/

/-- How many of the events `es`, which come after `before`, are `p`. Of each event `p` knows the
events before it. -/
def occurrencesAfter (p : List Event → Event → Bool) (before : List Event) : List Event → Nat
  | [] => 0
  | e :: es => (p before e).toNat + occurrencesAfter p (before ++ [e]) es

/-- How many events of a trace are `p`. -/
def occurrences (p : List Event → Event → Bool) (es : List Event) : Nat := occurrencesAfter p [] es

theorem occurrencesAfter_snoc (p : List Event → Event → Bool) (before es : List Event) (e : Event) :
    occurrencesAfter p before (es ++ [e]) =
      occurrencesAfter p before es + (p (before ++ es) e).toNat := by
  induction es generalizing before with
  | nil => simp [occurrencesAfter]
  | cons d es ih =>
    simp only [List.cons_append, occurrencesAfter, ih, List.append_assoc, List.nil_append,
      Nat.add_assoc]

theorem occurrences_snoc (p : List Event → Event → Bool) (es : List Event) (e : Event) :
    occurrences p (es ++ [e]) = occurrences p es + (p es e).toNat :=
  occurrencesAfter_snoc p [] es e

/-! ## The surroundings of a trace -/

/-- `Along R a es b`: events `es`, each one allowed by `R`, lead from `a` to `b`. -/
inductive Along {τ : Type} (R : τ → Event → τ → Prop) : τ → List Event → τ → Prop where
  | nil (a : τ) : Along R a [] a
  | cons {a b c : τ} {e : Event} {es : List Event} (first : R a e b) (rest : Along R b es c) :
      Along R a (e :: es) c

section Snoc

variable {σ τ : Type} {ask? : σ → Option (Ask σ)} {R : τ → Event → τ → Prop}

theorem Along.append {a b c : τ} {es fs : List Event} (h : Along R a es b) (h' : Along R b fs c) :
    Along R a (es ++ fs) c := by
  induction h with
  | nil => exact h'
  | cons first _ ih => exact .cons first (ih h')

theorem Along.split {a c : τ} {es fs : List Event} (h : Along R a (es ++ fs) c) :
    ∃ b, Along R a es b ∧ Along R b fs c := by
  induction es generalizing a with
  | nil => exact ⟨a, .nil a, h⟩
  | cons e es ih =>
    cases h with
    | cons first rest =>
      obtain ⟨b, h₁, h₂⟩ := ih rest
      exact ⟨b, .cons first h₁, h₂⟩

theorem along_snoc_iff {a c : τ} {es : List Event} {e : Event} :
    Along R a (es ++ [e]) c ↔ ∃ b, Along R a es b ∧ R b e c := by
  constructor
  · intro h
    obtain ⟨b, h₁, h₂⟩ := h.split
    cases h₂ with
    | cons first rest =>
      cases rest
      exact ⟨b, h₁, first⟩
  · rintro ⟨b, h, last⟩
    exact h.append (.cons last (.nil c))

theorem runs_snoc_iff {s u : σ} {es : List Event} {e : Event} :
    Runs ask? s (es ++ [e]) u ↔
      ∃ t resume, Runs ask? s es t ∧ ask? t = some ⟨e.call, resume⟩ ∧ u = resume e.answer := by
  constructor
  · intro h
    obtain ⟨t, h₁, h₂⟩ := h.split
    cases h₂ with
    | cons answer asks rest =>
      cases rest
      exact ⟨t, _, h₁, asks, rfl⟩
  · rintro ⟨t, resume, h, asks, rfl⟩
    exact h.append (.cons e.answer asks (.nil _))

/-- A machine that is no longer as it was at the start has made a last call. -/
theorem Runs.exists_last {s t : σ} {es : List Event} (run : Runs ask? s es t) (moved : t ≠ s) :
    ∃ (before : List Event) (call : Call) (answer : call.Answer) (u : σ) (resume : call.Answer → σ),
      es = before ++ [⟨call, answer⟩] ∧ Runs ask? s before u ∧ ask? u = some ⟨call, resume⟩ ∧
        t = resume answer := by
  cases es using List.reverseRecOn with
  | nil =>
    cases run
    exact absurd rfl moved
  | append_singleton before e =>
    obtain ⟨u, resume, hbefore, asks, ht⟩ := runs_snoc_iff.mp run
    exact ⟨before, e.call, e.answer, u, resume, rfl, hbefore, asks, ht⟩

/-- Every event of a run was asked for in some state. -/
theorem Runs.asked {s t : σ} {es : List Event} (run : Runs ask? s es t) {e : Event} (he : e ∈ es) :
    ∃ u resume, ask? u = some ⟨e.call, resume⟩ := by
  induction run with
  | nil => cases he
  | cons answer asks _ ih =>
    rcases List.mem_cons.mp he with rfl | hrest
    · exact ⟨_, _, asks⟩
    · exact ih hrest

/-- **Induction over the surroundings of a trace** from its end. -/
theorem Along.induction {P : List Event → τ → Prop} {a b : τ} {es : List Event}
    (along : Along R a es b) (start : P [] a)
    (step : ∀ {es c e d}, P es c → R c e d → P (es ++ [e]) d) : P es b := by
  induction es using List.reverseRecOn generalizing b with
  | nil =>
    cases along
    exact start
  | append_singleton es e ih =>
    obtain ⟨c, before, allowed⟩ := along_snoc_iff.mp along
    exact step (ih before) allowed

/-- A machine that makes no call stays where it is. -/
theorem Runs.eq_of_ended {s t : σ} {es : List Event} (run : Runs ask? s es t)
    (ended : ask? s = none) : es = [] ∧ t = s := by
  cases run with
  | nil => exact ⟨rfl, rfl⟩
  | cons answer asks rest =>
    rw [ended] at asks
    cases asks

/-- **Induction over a run in its surroundings**: what holds at the start and is kept by every
event holds of every run. -/
theorem Runs.induction_along {P : List Event → σ → τ → Prop} {s t : σ} {a b : τ} {es : List Event}
    (run : Runs ask? s es t) (along : Along R a es b) (start : P [] s a)
    (step : ∀ {es u c call resume} {answer : call.Answer} {d}, P es u c →
      ask? u = some ⟨call, resume⟩ → R c ⟨call, answer⟩ d →
      P (es ++ [⟨call, answer⟩]) (resume answer) d) : P es t b := by
  induction es using List.reverseRecOn generalizing t b with
  | nil =>
    cases run
    cases along
    exact start
  | append_singleton es e ih =>
    obtain ⟨u, resume, before, asks, rfl⟩ := runs_snoc_iff.mp run
    obtain ⟨c, beside, allowed⟩ := along_snoc_iff.mp along
    exact step (ih before beside) asks allowed

/-- **Induction over a run** from its end: what holds at the start and is kept by every event holds
of every run. -/
theorem Runs.induction {P : List Event → σ → Prop} {s t : σ} {es : List Event}
    (run : Runs ask? s es t) (start : P [] s)
    (step : ∀ {es u call resume} {answer : call.Answer}, P es u →
      ask? u = some ⟨call, resume⟩ → P (es ++ [⟨call, answer⟩]) (resume answer)) : P es t := by
  induction es using List.reverseRecOn generalizing t with
  | nil =>
    cases run
    exact start
  | append_singleton es e ih =>
    obtain ⟨u, resume, before, asks, rfl⟩ := runs_snoc_iff.mp run
    exact step (ih before) asks

end Snoc

end Tftp
