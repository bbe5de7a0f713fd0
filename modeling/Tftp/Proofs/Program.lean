import Tftp.Program
import Tftp.Proofs.Trace

/-!
# What a program does

A trace of a program is taken apart along the program: two programs in sequence make the events of
the first and then those of the second.

* `Program.Does` relates a program to its events and to the result that it has after them.
* `Program.Makes` says that all events of a program are of a certain sort.
* `Program.Leads` follows a part of the surroundings through every trace of a program.

Results:
* `does_bind`: what two programs in sequence do, and `does_ask_bind` if the first is a call.
* `does_runSender_bind` and `does_runReceiver_bind`: a program that runs a sender or a receiver does
  what that one does, and goes on when that one has ended.
* `makes_bind`: a sequence of programs makes only events that its parts make.
* `leads_bind`: a sequence of programs leads to where its parts lead one after the other.

The parts are put together as the programs are: what is known of each part of a sequence is used at
the place of that part, and a lemma on a part need not know what comes after. `Does` also relates a
program to traces that stop half-way, so that what is shown of it holds at every moment of a run and
not only at its end.

Out of scope: the answers. `Does` allows any; `Leads` restricts them by following something through
the trace.
-/

namespace Tftp.Program

variable {α β : Type} {p q : Program α} {f : α → Program β} {es : List Event} {e : Event}

/-- `p.Does es r`: after the events `es` the program `p` has the result `r`, or is under way if `r`
is none. -/
def Does (p : Program α) (es : List Event) (r : Option α) : Prop :=
  ∃ q, Runs ask? p es q ∧ q.result? = r

theorem does_nil_iff {r : Option α} : p.Does [] r ↔ p.result? = r := by
  constructor
  · rintro ⟨q, run, hresult⟩
    cases run
    exact hresult
  · intro hresult
    exact ⟨p, .nil p, hresult⟩

theorem does_cons_iff {r : Option α} :
    p.Does (e :: es) r ↔
      ∃ resume, p.view = .inr ⟨e.call, resume⟩ ∧ (resume e.answer).Does es r := by
  have hview : ∀ ask, p.ask? = some ask ↔ p.view = .inr ask := by
    intro ask
    unfold ask?
    cases p.view <;> simp
  constructor
  · rintro ⟨q, run, hresult⟩
    cases run with
    | cons answer asks rest => exact ⟨_, (hview _).mp asks, q, rest, hresult⟩
  · rintro ⟨resume, hcall, q, rest, hresult⟩
    exact ⟨q, .cons e.answer ((hview _).mpr hcall) rest, hresult⟩

/-- A program does what its view tells, so programs with one view do the same. -/
theorem Does.of_view {r : Option α} (h : p.Does es r) (same : p.view = q.view) : q.Does es r := by
  cases es with
  | nil =>
    rw [does_nil_iff] at h ⊢
    unfold result? at h ⊢
    rw [← same, h]
  | cons e es =>
    rw [does_cons_iff] at h ⊢
    rw [← same]
    exact h

/-! ## Programs in sequence -/

theorem does_pure {a : α} {r : Option α} (h : (pure a : Program α).Does es r) :
    es = [] ∧ r = some a := by
  cases es with
  | nil => exact ⟨rfl, (does_nil_iff.mp h).symm⟩
  | cons e es =>
    obtain ⟨resume, hview, -⟩ := does_cons_iff.mp h
    cases hview

theorem does_ask {c : Call} {r : Option c.Answer} (h : (ask c).Does es r) :
    es = [] ∧ r = none ∨ ∃ answer, es = [⟨c, answer⟩] ∧ r = some answer := by
  cases es with
  | nil => exact Or.inl ⟨rfl, (does_nil_iff.mp h).symm⟩
  | cons e es =>
    obtain ⟨call, answer⟩ := e
    obtain ⟨resume, hview, hrest⟩ := does_cons_iff.mp h
    cases hview
    obtain ⟨rfl, rfl⟩ := does_pure hrest
    exact Or.inr ⟨answer, rfl, rfl⟩

theorem does_ask_none {c : Call} (h : (ask c).Does es none) : es = [] := by
  rcases does_ask h with ⟨hes, -⟩ | ⟨answer, -, hr⟩
  · exact hes
  · cases hr

theorem does_ask_some {c : Call} {answer : c.Answer} (h : (ask c).Does es (some answer)) :
    es = [⟨c, answer⟩] := by
  rcases does_ask h with ⟨-, hr⟩ | ⟨given, hes, hr⟩
  · cases hr
  · cases hr
    exact hes

/-- **Two programs in sequence** are still with the first one, or have gone on with its result. -/
theorem does_bind {r : Option β} (h : (p >>= f).Does es r) :
    p.Does es none ∧ r = none ∨
      ∃ before after a, es = before ++ after ∧ p.Does before (some a) ∧ (f a).Does after r := by
  induction es generalizing p with
  | nil =>
    rw [does_nil_iff] at h
    have hview := view_bind p f
    cases hp : p.view with
    | inl a =>
      rw [hp] at hview
      refine Or.inr ⟨[], [], a, rfl, does_nil_iff.mpr ?_, does_nil_iff.mpr ?_⟩
      · rw [result?, hp]
        rfl
      · rw [← h]
        exact (congrArg Sum.getLeft? hview).symm
    | inr ask =>
      rw [hp] at hview
      refine Or.inl ⟨does_nil_iff.mpr ?_, ?_⟩
      · rw [result?, hp]
        rfl
      · rw [← h]
        exact congrArg Sum.getLeft? hview
  | cons e es ih =>
    obtain ⟨call, answer⟩ := e
    have hview := view_bind p f
    cases hp : p.view with
    | inl a =>
      rw [hp] at hview
      refine Or.inr ⟨[], _, a, rfl, does_nil_iff.mpr ?_, h.of_view hview⟩
      rw [result?, hp]
      rfl
    | inr ask =>
      obtain ⟨c, next⟩ := ask
      rw [hp] at hview
      obtain ⟨resume, hcall, hrest⟩ := does_cons_iff.mp h
      cases hview.symm.trans hcall
      rcases ih hrest with ⟨hdoes, hr⟩ | ⟨before, after, a, rfl, hbefore, hafter⟩
      · exact Or.inl ⟨does_cons_iff.mpr ⟨_, hp, hdoes⟩, hr⟩
      · exact Or.inr ⟨_ :: before, after, a, rfl, does_cons_iff.mpr ⟨_, hp, hbefore⟩, hafter⟩

theorem does_bind_some {b : β} (h : (p >>= f).Does es (some b)) :
    ∃ before after a, es = before ++ after ∧ p.Does before (some a) ∧
      (f a).Does after (some b) := by
  rcases does_bind h with ⟨-, hr⟩ | hdone
  · cases hr
  · exact hdone

/-- A program that begins with a call has yet to make it, or goes on with its answer. -/
theorem does_ask_bind {c : Call} {f : c.Answer → Program β} {r : Option β}
    (h : (ask c >>= f).Does es r) :
    es = [] ∧ r = none ∨ ∃ answer rest, es = ⟨c, answer⟩ :: rest ∧ (f answer).Does rest r := by
  rcases does_bind h with ⟨hask, rfl⟩ | ⟨before, rest, answer, rfl, hask, hrest⟩
  · exact Or.inl ⟨does_ask_none hask, rfl⟩
  · rw [does_ask_some hask, List.singleton_append]
    exact Or.inr ⟨answer, rest, rfl, hrest⟩

theorem does_ask_bind_some {c : Call} {f : c.Answer → Program β} {b : β}
    (h : (ask c >>= f).Does es (some b)) :
    ∃ answer rest, es = ⟨c, answer⟩ :: rest ∧ (f answer).Does rest (some b) := by
  rcases does_ask_bind h with ⟨-, hr⟩ | hrest
  · cases hr
  · exact hrest

/-- A program that runs a machine to its end makes the machine's calls, and then has the machine as
its result. -/
theorem does_engine {σ ω : Type} {ask? : σ → Option (Ask σ)} {outcome? : σ → Option ω}
    {engine : σ → Program σ} (ended_iff : ∀ s, ask? s = none ↔ (outcome? s).isSome)
    (halted : ∀ s, ask? s = none → (engine s).view = .inl s)
    (asking : ∀ s call next, ask? s = some ⟨call, next⟩ →
      (engine s).view = .inr ⟨call, fun answer => engine (next answer)⟩)
    {s : σ} {r : Option σ} (h : (engine s).Does es r) :
    ∃ t, Runs ask? s es t ∧ (outcome? t = none ∧ r = none ∨ (outcome? t).isSome ∧ r = some t) := by
  -- A program is known by its view only, so the induction is on the events.
  induction es generalizing s with
  | nil =>
    rw [does_nil_iff] at h
    subst h
    refine ⟨s, .nil s, ?_⟩
    cases hask : ask? s with
    | none => exact Or.inr ⟨(ended_iff s).mp hask, by rw [result?, halted s hask]; rfl⟩
    | some ask =>
      have hout : ¬ (outcome? s).isSome := mt (ended_iff s).mpr (by simp [hask])
      exact Or.inl ⟨by simpa using hout, by rw [result?, asking s ask.call ask.resume hask]; rfl⟩
  | cons e es ih =>
    obtain ⟨call, answer⟩ := e
    obtain ⟨resume, hview, hrest⟩ := does_cons_iff.mp h
    cases hask : ask? s with
    | none =>
      rw [halted s hask] at hview
      cases hview
    | some ask =>
      obtain ⟨c, next⟩ := ask
      rw [asking s c next hask] at hview
      cases hview
      obtain ⟨t, run, hends⟩ := ih hrest
      exact ⟨t, .cons answer hask run, hends⟩

/-- What a program does that runs a machine to its end and goes on with it. -/
theorem does_engine_bind {σ ω : Type} {ask? : σ → Option (Ask σ)} {outcome? : σ → Option ω}
    {engine : σ → Program σ} {after : σ → Program β}
    (ended_iff : ∀ s, ask? s = none ↔ (outcome? s).isSome)
    (halted : ∀ s, ask? s = none → (engine s).view = .inl s)
    (asking : ∀ s call next, ask? s = some ⟨call, next⟩ →
      (engine s).view = .inr ⟨call, fun answer => engine (next answer)⟩)
    {s : σ} {r : Option β} (h : (engine s >>= after).Does es r) :
    ∃ calls rest t, es = calls ++ rest ∧ Runs ask? s calls t ∧
      (outcome? t = none ∧ rest = [] ∧ r = none ∨
        ∃ outcome, outcome? t = some outcome ∧ (after t).Does rest r) := by
  rcases does_bind h with ⟨hengine, rfl⟩ | ⟨calls, rest, t, rfl, hengine, hrest⟩
  · obtain ⟨t, run, ⟨hnone, -⟩ | ⟨-, hr⟩⟩ := does_engine ended_iff halted asking hengine
    · exact ⟨es, [], t, (List.append_nil es).symm, run, Or.inl ⟨hnone, rfl, rfl⟩⟩
    · cases hr
  · obtain ⟨_, run, ⟨-, hr⟩ | ⟨hsome, hr⟩⟩ := does_engine ended_iff halted asking hengine
    · cases hr
    · cases hr
      obtain ⟨outcome, hout⟩ := Option.isSome_iff_exists.mp hsome
      exact ⟨calls, rest, t, rfl, run, Or.inr ⟨outcome, hout, hrest⟩⟩

theorem does_runSender_bind {s : Sender} {after : Sender → Program β} {r : Option β}
    (h : (runSender s >>= after).Does es r) :
    ∃ calls rest t, es = calls ++ rest ∧ Runs Sender.ask? s calls t ∧
      (t.outcome? = none ∧ rest = [] ∧ r = none ∨
        ∃ outcome, t.outcome? = some outcome ∧ (after t).Does rest r) := by
  refine does_engine_bind (fun _ => Sender.ask?_eq_none_iff) ?_ ?_ h
  · intro s hask
    simp [runSender, view, hask]
  · intro s call next hask
    simp [runSender, view, hask]

theorem does_runReceiver_bind {s : Receiver} {after : Receiver → Program β} {r : Option β}
    (h : (runReceiver s >>= after).Does es r) :
    ∃ calls rest t, es = calls ++ rest ∧ Runs Receiver.ask? s calls t ∧
      (t.outcome? = none ∧ rest = [] ∧ r = none ∨
        ∃ outcome, t.outcome? = some outcome ∧ (after t).Does rest r) := by
  refine does_engine_bind (fun _ => Receiver.ask?_eq_none_iff) ?_ ?_ h
  · intro s hask
    simp [runReceiver, view, hask]
  · intro s call next hask
    simp [runReceiver, view, hask]

/-! ## Sorts of events -/

/-- Every event of a program is of a sort. -/
def Makes (p : Program α) (sort : Event → Prop) : Prop :=
  ∀ ⦃es r⦄, p.Does es r → ∀ e ∈ es, sort e

variable {sort : Event → Prop}

theorem Makes.mono {wider : Event → Prop} (h : p.Makes sort) (le : ∀ e, sort e → wider e) :
    p.Makes wider :=
  fun _ _ hdoes e he => le e (h hdoes e he)

theorem makes_pure (a : α) : (pure a : Program α).Makes sort := by
  intro es r h e he
  obtain ⟨rfl, -⟩ := does_pure h
  cases he

theorem makes_ask {c : Call} (h : ∀ answer, sort ⟨c, answer⟩) : (ask c).Makes sort := by
  intro es r hdoes e he
  rcases does_ask hdoes with ⟨rfl, -⟩ | ⟨answer, rfl, -⟩
  · cases he
  · rw [List.mem_singleton.mp he]
    exact h answer

/-- A sequence of programs makes only events that its parts make, with the results that the first
one has. -/
theorem makes_bind_of_does (first : p.Makes sort)
    (then_ : ∀ es a, p.Does es (some a) → (f a).Makes sort) : (p >>= f).Makes sort := by
  intro es r h e he
  rcases does_bind h with ⟨hdoes, -⟩ | ⟨before, after, a, rfl, hbefore, hafter⟩
  · exact first hdoes e he
  · rcases List.mem_append.mp he with hmem | hmem
    · exact first hbefore e hmem
    · exact then_ before a hbefore hafter e hmem

theorem makes_bind (first : p.Makes sort) (then_ : ∀ a, (f a).Makes sort) :
    (p >>= f).Makes sort :=
  makes_bind_of_does first fun _ a _ => then_ a

/-! ## Where a program leads -/

/-- `p.Leads R a post`: from `a` every trace of the program goes along `R`, and ends with a result
in a state for which `post` holds. -/
def Leads {τ : Type} (p : Program α) (R : τ → Event → τ → Prop) (a : τ) (post : α → τ → Prop) :
    Prop :=
  ∀ ⦃es r⦄, p.Does es r → ∃ b, Along R a es b ∧ ∀ x, r = some x → post x b

section Leads

variable {τ : Type} {R : τ → Event → τ → Prop} {a : τ} {post : α → τ → Prop}

theorem Leads.mono {weaker : α → τ → Prop} (h : p.Leads R a post)
    (le : ∀ x b, post x b → weaker x b) : p.Leads R a weaker := by
  intro es r hdoes
  obtain ⟨b, halong, hpost⟩ := h hdoes
  exact ⟨b, halong, fun x hx => le x b (hpost x hx)⟩

theorem leads_pure {x : α} (h : post x a) : (pure x : Program α).Leads R a post := by
  intro es r hdoes
  obtain ⟨rfl, rfl⟩ := does_pure hdoes
  refine ⟨a, .nil a, ?_⟩
  rintro _ ⟨⟩
  exact h

theorem leads_ask {c : Call} {post : c.Answer → τ → Prop}
    (h : ∀ answer, ∃ b, R a ⟨c, answer⟩ b ∧ post answer b) : (ask c).Leads R a post := by
  intro es r hdoes
  rcases does_ask hdoes with ⟨rfl, rfl⟩ | ⟨answer, rfl, rfl⟩
  · exact ⟨a, .nil a, nofun⟩
  · obtain ⟨b, hstep, hpost⟩ := h answer
    refine ⟨b, .cons hstep (.nil b), ?_⟩
    rintro _ ⟨⟩
    exact hpost

/-- A sequence of programs leads to where its parts lead one after the other. -/
theorem leads_bind {mid : α → τ → Prop} {post : β → τ → Prop} (first : p.Leads R a mid)
    (then_ : ∀ x b, mid x b → (f x).Leads R b post) : (p >>= f).Leads R a post := by
  intro es r h
  rcases does_bind h with ⟨hdoes, rfl⟩ | ⟨before, after, x, rfl, hbefore, hafter⟩
  · obtain ⟨b, halong, -⟩ := first hdoes
    exact ⟨b, halong, nofun⟩
  · obtain ⟨b, halong, hmid⟩ := first hbefore
    obtain ⟨c, halong', hpost⟩ := then_ x b (hmid x rfl) hafter
    exact ⟨c, halong.append halong', hpost⟩

/-- A program whose events change nothing stays where it is. -/
theorem leads_of_makes (h : p.Makes fun e => R a e a) : p.Leads R a fun _ b => b = a := by
  intro es r hdoes
  have hstay := h hdoes
  refine ⟨a, ?_, fun _ _ => rfl⟩
  clear hdoes
  induction es with
  | nil => exact .nil a
  | cons e es ih =>
    obtain ⟨he, hes⟩ := List.forall_mem_cons.mp hstay
    exact .cons he (ih hes)

end Leads

end Tftp.Program
