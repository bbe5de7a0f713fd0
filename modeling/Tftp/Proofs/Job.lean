import Tftp.Job
import Tftp.Proofs.Transfer.Outcome

/-!
# A started transfer is a direct run

A transfer that was started is the same as one that is run directly, whatever its starter does in
between: cancel it, ask whether it is done, join it.

* `Program.direct` is the direct run, with a token that cancels it from some step on.
* `Control` is what happens to a job, and `Job.after` what becomes of it.
* `Job.Follows` is the invariant: the job stands where the direct run stands after some steps.

Results:
* `finish_add` and `exists_run_eq_finish`: a long run is a short one that goes on, and a run that
  stops at a suspension is a short one.
* `direct_of_unset` and `direct_add`: before its token is set the direct run is that of a job that
  was not cancelled, and from then on that of a job that was.
* `Follows.handle` and `Follows.after`: a job follows one direct run, whatever happens to it but a
  first cancellation; `Follows.cancel`: that one sets the token of the run.
* `rests_of_ended`: nothing happens any more to a transfer that is over.
* **`started_as_direct`**: joining gives the result of the direct run, every time.

The specification asks for a task handle that can be joined and cancelled (§9), with `join`,
`cancel` and `done` (§10.5). That a started transfer is as good as a direct one is what lets all the
other results apply to it: they speak of the runs of a program, wherever it runs.

The direct run is not that of a world without the starter. A cancellation has to come at some step,
so the direct run has a token that is set at that step; where the job is never cancelled, the token
is never set.

Out of scope: how fast a job goes on. `Control` may let it make any number of steps between two
operations, also none at all, and a join gives the transfer the steps that it is allowed.
-/

namespace Tftp

variable {α ω : Type}

/-! ## Runs in a world -/

namespace Program

section Finish

variable {world : World ω} {p : Program α}

/-- A program that is over stays as it is, and so does the world. -/
theorem finish_of_ended (ended : p.result?.isSome) (n : Nat) (w : ω) :
    p.finish world n w = (p, w) := by
  cases n with
  | zero => rfl
  | succ n =>
    unfold finish
    rw [ask?_eq_none_iff.mpr ended]

theorem finish_add (m n : Nat) (p : Program α) (w : ω) :
    p.finish world (m + n) w = (p.finish world m w).1.finish world n (p.finish world m w).2 := by
  induction m generalizing p w with
  | zero => rw [Nat.zero_add, finish]
  | succ m ih =>
    rw [Nat.succ_add]
    cases asks : p.ask? with
    | none =>
      have hended := ask?_eq_none_iff.mp asks
      simp only [finish_of_ended hended]
    | some ask =>
      obtain ⟨c, resume⟩ := ask
      simp only [finish, asks]
      rcases hanswer : world.answer w c with ⟨_ | answer, w'⟩
      · exact ih p w'
      · exact ih (resume answer) w'

/-- A run that stops at a suspension is a shorter run that does not. -/
theorem exists_run_eq_finish (world : World ω) (limit : Nat) (p : Program α) (w : ω) :
    ∃ n, p.run world limit w = p.finish world n w := by
  induction limit generalizing p w with
  | zero => exact ⟨0, rfl⟩
  | succ limit ih =>
    cases asks : p.ask? with
    | none => exact ⟨0, by simp only [run, finish, asks]⟩
    | some ask =>
      obtain ⟨c, resume⟩ := ask
      rcases hanswer : world.answer w c with ⟨_ | answer, w'⟩
      · exact ⟨1, by simp only [run, finish, asks, hanswer]⟩
      · obtain ⟨n, hn⟩ := ih (resume answer) w'
        exact ⟨n + 1, by simp only [run, finish, asks, hanswer, hn]⟩

end Finish

end Program

/-! ## The direct run -/

/-- A world together with a token, which is set from step `point` on; it counts the steps. -/
def World.withToken (world : World ω) (point : Option Nat) : World (Nat × ω) where
  answer
    | (steps, w), .pollCancelled => (some (point.any (· ≤ steps)), steps + 1, w)
    | (steps, w), c =>
      let (answer, w) := world.answer w c
      (answer, steps + 1, w)

/-- Runs a program until it is over, at most `limit` steps, with a token that is set from step
`point` on. -/
def Program.direct (world : World ω) (point : Option Nat) (limit : Nat) (p : Program α) (w : ω) :
    Program α × ω :=
  let (q, _, w') := p.finish (world.withToken point) limit (0, w)
  (q, w')

section Direct

variable {world : World ω} {point : Option Nat} {p : Program α} {steps n : Nat} {flag : Bool}
  {w : ω}

/-- The token answers like a flag of the same value. -/
theorem withToken_answer (same : point.any (· ≤ steps) = flag) (c : Call) :
    (world.withToken point).answer (steps, w) c =
      ((world.withFlag.answer (flag, w) c).1, steps + 1,
        (world.withFlag.answer (flag, w) c).2.2) := by
  subst same
  cases c <;> rfl

theorem withFlag_answer_flag (c : Call) : (world.withFlag.answer (flag, w) c).2.1 = flag := by
  cases c <;> rfl

namespace Program

/-- No run changes the flag. -/
theorem finish_withFlag_flag (n : Nat) (p : Program α) (w : ω) :
    (p.finish world.withFlag n (flag, w)).2.1 = flag := by
  induction n generalizing p w with
  | zero => rfl
  | succ n ih =>
    unfold finish
    split
    · rfl
    · rename_i c resume _
      have hkept : (world.withFlag.answer (flag, w) c).2.1 = flag := withFlag_answer_flag c
      rcases hanswer : world.withFlag.answer (flag, w) c with ⟨_ | answer, b, w'⟩
      all_goals
        rw [hanswer] at hkept
        cases hkept
        exact ih _ w'

/-- All steps of a run are counted, unless the program is over before. -/
theorem finish_withToken_steps (world : World ω) (point : Option Nat) (steps n : Nat)
    (p : Program α) (w : ω) :
    (p.finish (world.withToken point) n (steps, w)).1.result?.isSome ∨
      (p.finish (world.withToken point) n (steps, w)).2.1 = steps + n := by
  induction n generalizing p w steps with
  | zero => exact Or.inr rfl
  | succ n ih =>
    cases asks : p.ask? with
    | none =>
      have hended := ask?_eq_none_iff.mp asks
      rw [finish_of_ended hended]
      exact Or.inl hended
    | some ask =>
      obtain ⟨c, resume⟩ := ask
      have hcounted : ((world.withToken point).answer (steps, w) c).2.1 = steps + 1 := by
        rw [withToken_answer rfl]
      simp only [finish, asks]
      rw [← Nat.add_assoc, Nat.add_right_comm]
      rcases hanswer : (world.withToken point).answer (steps, w) c with ⟨_ | answer, counted, w'⟩
      all_goals
        rw [hanswer] at hcounted
        cases hcounted
        exact ih _ _ w'

/-- While the token keeps its value, a run with it is the run with a flag of that value. -/
theorem finish_withToken (world : World ω) (n : Nat) (p : Program α) (w : ω)
    (steady : ∀ i, steps ≤ i → i < steps + n → point.any (· ≤ i) = flag) :
    (p.finish (world.withToken point) n (steps, w)).1 =
        (p.finish world.withFlag n (flag, w)).1 ∧
      (p.finish (world.withToken point) n (steps, w)).2.2 =
        (p.finish world.withFlag n (flag, w)).2.2 := by
  induction n generalizing p w steps with
  | zero => exact ⟨rfl, rfl⟩
  | succ n ih =>
    cases asks : p.ask? with
    | none =>
      have hended := ask?_eq_none_iff.mp asks
      simp only [finish_of_ended hended, and_self]
    | some ask =>
      obtain ⟨c, resume⟩ := ask
      have hsame := steady steps (Nat.le_refl _) (Nat.lt_add_of_pos_right n.succ_pos)
      have hkept : (world.withFlag.answer (flag, w) c).2.1 = flag := withFlag_answer_flag c
      have hsteady : ∀ i, steps + 1 ≤ i → i < steps + 1 + n → point.any (· ≤ i) = flag :=
        fun i hle hlt => steady i (by omega) (by omega)
      simp only [finish, asks, withToken_answer hsame]
      rcases hanswer : world.withFlag.answer (flag, w) c with ⟨_ | answer, b, w'⟩
      all_goals
        rw [hanswer] at hkept
        cases hkept
        exact ih _ w' hsteady

/-- Before its token is set, a direct run is a run with a flag that is not set. -/
theorem direct_of_unset (unset : ∀ k ∈ point, n ≤ k) :
    p.direct world point n w =
      ((p.finish world.withFlag n (false, w)).1, (p.finish world.withFlag n (false, w)).2.2) := by
  have hsteady : ∀ i, 0 ≤ i → i < 0 + n → point.any (· ≤ i) = false := by
    intro i _ hi
    rw [Option.any_eq_false]
    intro k hk
    have := unset k hk
    simpa using by omega
  obtain ⟨hprogram, hworld⟩ := finish_withToken world n p w hsteady
  exact Prod.ext hprogram hworld

/-- A direct run that is over stays as it is. -/
theorem direct_of_ended {q : Program α} {w' : ω} (reached : p.direct world point n w = (q, w'))
    (ended : q.result?.isSome) {m : Nat} (le : n ≤ m) : p.direct world point m w = (q, w') := by
  obtain ⟨k, rfl⟩ := Nat.exists_eq_add_of_le le
  unfold direct at reached ⊢
  rw [finish_add]
  rcases hfinish : p.finish (world.withToken point) n (0, w) with ⟨q', steps, w''⟩
  rw [hfinish] at reached
  cases reached
  rw [finish_of_ended ended]

/-- From the time at which its token is what it will be, a direct run goes on like a run with a
flag. -/
theorem direct_add {q : Program α} {w' : ω} (past : ∀ k ∈ point, k ≤ n)
    (reached : p.direct world point n w = (q, w')) (m : Nat) :
    p.direct world point (n + m) w =
      ((q.finish world.withFlag m (point.isSome, w')).1,
        (q.finish world.withFlag m (point.isSome, w')).2.2) := by
  have hsteps := finish_withToken_steps world point 0 n p w
  unfold direct at reached ⊢
  rw [finish_add]
  rcases hfinish : p.finish (world.withToken point) n (0, w) with ⟨q', counted, w''⟩
  rw [hfinish] at reached hsteps
  cases reached
  rcases hsteps with hended | hcounted
  · rw [finish_of_ended hended, finish_of_ended hended]
  · obtain rfl : counted = 0 + n := hcounted
    have hsteady : ∀ i, 0 + n ≤ i → i < 0 + n + m → point.any (· ≤ i) = point.isSome := by
      intro i hi _
      cases point with
      | none => rfl
      | some k => exact decide_eq_true ((past k rfl).trans (by omega))
    obtain ⟨hprogram, hworld⟩ := finish_withToken world m q w' hsteady
    exact Prod.ext hprogram hworld

end Program

end Direct

/-! ## Jobs -/

/-- What happens to a started transfer: it goes on for some steps, or its starter does something. -/
inductive Control where
  | proceed (limit : Nat)
  | cancel
  | askDone
  | join (limit : Nat)

namespace Job

/-- What one control makes of a job. -/
def handle (world : World ω) (j : Job ω) : Control → Job ω
  | .proceed limit => j.proceed world limit
  | .cancel => j.cancel
  | .askDone => j
  | .join limit => (j.join world limit).2

/-- What controls make of a job, one after the other. -/
def after (world : World ω) (j : Job ω) (controls : List Control) : Job ω :=
  controls.foldl (handle world) j

/-- The job stands where the direct run of `p` from `w` stands after `n` steps; the token of that
run is set by then, if it ever is. -/
structure Follows (world : World ω) (p : Program Result) (w : ω) (point : Option Nat) (n : Nat)
    (j : Job ω) : Prop where
  reached : p.direct world point n w = (j.program, j.world)
  cancelled : j.cancelled = point.isSome
  past : ∀ k ∈ point, k ≤ n
  /-- What was joined is the result. -/
  joined : ∀ result ∈ j.joined, j.program.result? = some result

variable {world : World ω} {p : Program Result} {w : ω} {point : Option Nat} {n : Nat} {j : Job ω}

theorem follows_start : Follows world p w none 0 (start p w) :=
  ⟨rfl, rfl, nofun, nofun⟩

/-- Nothing changes a transfer that is over, or its world. -/
theorem handle_of_ended (world : World ω) (ended : j.program.result?.isSome) (control : Control) :
    (j.handle world control).program = j.program ∧ (j.handle world control).world = j.world := by
  cases control with
  | proceed limit =>
    obtain ⟨m, hm⟩ := Program.exists_run_eq_finish world.withFlag limit j.program
      (j.cancelled, j.world)
    simp only [handle, proceed, hm, Program.finish_of_ended ended, and_self]
  | cancel | askDone => exact ⟨rfl, rfl⟩
  | join limit =>
    simp only [handle, join]
    cases j.joined with
    | some result => exact ⟨rfl, rfl⟩
    | none => simp only [Program.finish_of_ended ended, and_self]

theorem after_of_ended (world : World ω) (ended : j.program.result?.isSome)
    (controls : List Control) :
    (j.after world controls).program = j.program ∧ (j.after world controls).world = j.world := by
  induction controls generalizing j with
  | nil => exact ⟨rfl, rfl⟩
  | cons control controls ih =>
    obtain ⟨hprogram, hworld⟩ := handle_of_ended world ended control
    obtain ⟨hlast, hlast'⟩ := ih (hprogram ▸ ended)
    exact ⟨hlast.trans hprogram, hlast'.trans hworld⟩

namespace Follows

/-- A job is done exactly when its transfer is over. -/
theorem isDone (h : Follows world p w point n j) : j.isDone = j.program.result?.isSome := by
  unfold Job.isDone
  cases hjoined : j.joined with
  | none => rfl
  | some result =>
    rw [h.joined result hjoined]
    rfl

/-- Joining gives the result that the transfer has then. -/
theorem join_eq (h : Follows world p w point n j) (limit : Nat) :
    (j.join world limit).1 = (j.join world limit).2.program.result? := by
  unfold join
  cases hjoined : j.joined with
  | none => rfl
  | some result => exact (h.joined result hjoined).symm

/-- A job that goes on to the end or not, and is joined or not, follows the same run. -/
theorem goesOn (h : Follows world p w point n j) (m : Nat) (joined : Option Result)
    (hjoined : ∀ result ∈ joined,
      (j.program.finish world.withFlag m (j.cancelled, j.world)).1.result? = some result) :
    let r := j.program.finish world.withFlag m (j.cancelled, j.world)
    Follows world p w point (n + m) ⟨r.1, r.2.1, r.2.2, joined⟩ := by
  refine ⟨?_, ?_, fun k hk => Nat.le_add_right_of_le (h.past k hk), hjoined⟩
  · rw [Program.direct_add h.past h.reached, h.cancelled]
  · exact (Program.finish_withFlag_flag m _ _).trans h.cancelled

theorem proceed (h : Follows world p w point n j) (limit : Nat) :
    ∃ m, Follows world p w point m (j.proceed world limit) := by
  obtain ⟨m, hm⟩ := Program.exists_run_eq_finish world.withFlag limit j.program
    (j.cancelled, j.world)
  have hgoes := h.goesOn m j.joined fun result hresult => by
    have hended := h.joined result hresult
    rw [Program.finish_of_ended (Option.isSome_of_eq_some hended)]
    exact hended
  rw [← hm] at hgoes
  exact ⟨n + m, hgoes⟩

theorem join (h : Follows world p w point n j) (limit : Nat) :
    Follows world p w point (n + limit) (j.join world limit).2 := by
  unfold Job.join
  cases hjoined : j.joined with
  | none => exact h.goesOn limit _ fun _ => id
  | some result =>
    have hended := Option.isSome_of_eq_some (h.joined result hjoined)
    exact ⟨Program.direct_of_ended h.reached hended (Nat.le_add_right n limit), h.cancelled,
      fun k hk => Nat.le_add_right_of_le (h.past k hk), h.joined⟩

/-- The first cancellation sets the token where the job stands. -/
theorem cancel (h : Follows world p w none n j) : Follows world p w (some n) n j.cancel := by
  have hunset : ∀ k ∈ some n, n ≤ k := fun k hk => (Option.mem_some_iff.mp hk).le
  have hnever : ∀ k ∈ (none : Option Nat), n ≤ k := nofun
  refine ⟨?_, rfl, fun k hk => (Option.mem_some_iff.mp hk).ge, h.joined⟩
  rw [Program.direct_of_unset hunset, ← Program.direct_of_unset hnever, h.reached]
  rfl

/-- Whatever happens to a job, it follows the same run, unless that is its first cancellation. -/
theorem handle (h : Follows world p w point n j) {control : Control}
    (same : control = .cancel → point.isSome) :
    ∃ m, Follows world p w point m (j.handle world control) := by
  cases control with
  | proceed limit => exact h.proceed limit
  | cancel => exact ⟨n, h.reached, (same rfl).symm, h.past, h.joined⟩
  | askDone => exact ⟨n, h⟩
  | join limit => exact ⟨n + limit, h.join limit⟩

theorem after (h : Follows world p w point n j) {controls : List Control}
    (same : .cancel ∈ controls → point.isSome) :
    ∃ m, Follows world p w point m (j.after world controls) := by
  induction controls generalizing n j with
  | nil => exact ⟨n, h⟩
  | cons control controls ih =>
    have hhandled : ∃ m, Follows world p w point m (j.handle world control) :=
      h.handle fun hcancel => same (hcancel ▸ List.mem_cons_self ..)
    obtain ⟨m, hm⟩ := hhandled
    exact ih hm fun hmem => same (List.mem_cons_of_mem _ hmem)

/-- Joining a transfer that is over gives its result at once. -/
theorem join_of_ended (h : Follows world p w point n j) {result : Result}
    (ended : j.program.result? = some result) (limit : Nat) :
    (j.join world limit).1 = some result ∧ (j.join world limit).2.world = j.world := by
  obtain ⟨hprogram, hworld⟩ :=
    handle_of_ended world (Option.isSome_of_eq_some ended) (.join limit)
  refine ⟨?_, hworld⟩
  calc (j.join world limit).1
      = (j.handle world (.join limit)).program.result? := h.join_eq limit
    _ = some result := by rw [hprogram, ended]

end Follows

end Job

/-! ## Started and direct -/

/-- The token of the direct run is set where the job stood when it was first cancelled, and never if
it was not. -/
inductive TokenSet (world : World ω) (p : Program Result) (w : ω) :
    List Control → Option Nat → Prop where
  | never {controls : List Control} (uncancelled : .cancel ∉ controls) :
      TokenSet world p w controls none
  | first {before after : List Control} {n : Nat} (uncancelled : .cancel ∉ before)
      (stands : p.direct world none n w =
        (((Job.start p w).after world before).program,
          ((Job.start p w).after world before).world)) :
      TokenSet world p w (before ++ .cancel :: after) (some n)

/-- Whatever happens to the job, it is done, joining gives the result, and the world stays as it
is. -/
def Job.Rests (world : World ω) (j : Job ω) (result : Result) : Prop :=
  ∀ controls, (j.after world controls).isDone ∧ (j.after world controls).world = j.world ∧
    ∀ limit, ((j.after world controls).join world limit).1 = some result ∧
      ((j.after world controls).join world limit).2.world = j.world

/-- A job is the same as the direct run of `p` from `w` whose token is set at `point`. -/
structure SameAsDirect (world : World ω) (p : Program Result) (w : ω) (point : Option Nat)
    (j : Job ω) : Prop where
  /-- It has come as far as the direct run after some steps, with the same effects. -/
  reached : ∃ n, p.direct world point n w = (j.program, j.world)
  /-- It is done exactly when it is over, -/
  done : j.isDone ↔ ∃ result, j.program.result? = some result
  /-- and then it rests. -/
  ended : ∀ result, j.program.result? = some result → j.Rests world result
  /-- What joining gives is the result of the direct run, with the same effects, and the job rests
  from then on. -/
  join_direct : ∀ limit result, (j.join world limit).1 = some result →
    (∃ n q, p.direct world point n w = (q, (j.join world limit).2.world) ∧
      q.result? = some result) ∧ (j.join world limit).2.Rests world result
  /-- If the direct run ends, then joining gives its result. -/
  direct_join : ∀ n q w' result, p.direct world point n w = (q, w') → q.result? = some result →
    ∀ limit, n ≤ limit →
      (j.join world limit).1 = some result ∧ (j.join world limit).2.world = w'

section Started

variable {world : World ω} {p : Program Result} {w : ω}

theorem Job.after_append (j : Job ω) (before after : List Control) :
    j.after world (before ++ after) = (j.after world before).after world after :=
  List.foldl_append

/-- A started transfer follows the direct run whose token is set where it was first cancelled. -/
theorem follows_after (world : World ω) (p : Program Result) (w : ω) (controls : List Control) :
    ∃ point n, TokenSet world p w controls point ∧
      Job.Follows world p w point n ((Job.start p w).after world controls) := by
  by_cases hmem : .cancel ∈ controls
  · obtain ⟨before, after, rfl, hbefore⟩ := List.eq_append_cons_of_mem hmem
    obtain ⟨n, hn⟩ := Job.follows_start.after fun hcancel => absurd hcancel hbefore
    obtain ⟨m, hm⟩ := hn.cancel.after fun _ => rfl
    refine ⟨some n, m, .first hbefore hn.reached, ?_⟩
    rw [Job.after_append]
    exact hm
  · obtain ⟨n, hn⟩ := Job.follows_start.after fun hcancel => absurd hcancel hmem
    exact ⟨none, n, .never hmem, hn⟩

theorem rests_of_ended {controls : List Control} {result : Result}
    (ended : ((Job.start p w).after world controls).program.result? = some result) :
    ((Job.start p w).after world controls).Rests world result := by
  intro more
  obtain ⟨hprogram, hworld⟩ := Job.after_of_ended world (Option.isSome_of_eq_some ended) more
  obtain ⟨point, n, -, hfollows⟩ := follows_after world p w (controls ++ more)
  rw [Job.after_append] at hfollows
  have hended := (congrArg Program.result? hprogram).trans ended
  refine ⟨?_, hworld, fun limit => ?_⟩
  · rw [hfollows.isDone, hended]
    rfl
  · obtain ⟨hjoin, hjoined⟩ := hfollows.join_of_ended hended limit
    exact ⟨hjoin, hjoined.trans hworld⟩

theorem sameAsDirect_after (controls : List Control) :
    ∃ point, TokenSet world p w controls point ∧
      SameAsDirect world p w point ((Job.start p w).after world controls) := by
  obtain ⟨point, n, htoken, h⟩ := follows_after world p w controls
  refine ⟨point, htoken, ⟨n, h.reached⟩, ?_, fun _ => rests_of_ended, ?_, ?_⟩
  · rw [h.isDone, Option.isSome_iff_exists]
  · intro limit result hjoin
    have hended := (h.join_eq limit).symm.trans hjoin
    refine ⟨⟨n + limit, _, (h.join limit).reached, hended⟩, ?_⟩
    have hjoined : (((Job.start p w).after world controls).join world limit).2 =
        (Job.start p w).after world (controls ++ [.join limit]) :=
      (Job.after_append _ controls [.join limit]).symm
    rw [hjoined] at hended ⊢
    exact rests_of_ended hended
  · intro m q w' result hdirect hresult limit hlimit
    have hlast := Program.direct_of_ended hdirect (Option.isSome_of_eq_some hresult)
      (hlimit.trans (Nat.le_add_left limit n))
    cases hlast.symm.trans (h.join limit).reached
    exact ⟨(h.join_eq limit).trans hresult, rfl⟩

end Started

/-- **A started transfer is a direct run.** In every world, whatever its starter does in between, it
is the same as the direct run whose token is set where the transfer was first cancelled: the first
join gives the result of that run and leaves the world as that run does. A world may record its
calls, so both make the same ones. -/
theorem started_as_direct (t : Transfer) (world : World ω) (w : ω) (controls : List Control) :
    (∃ point, TokenSet world t.send w controls point ∧
      SameAsDirect world t.send w point ((Job.start t.send w).after world controls)) ∧
    ∃ point, TokenSet world t.receive w controls point ∧
      SameAsDirect world t.receive w point ((Job.start t.receive w).after world controls) :=
  ⟨sameAsDirect_after controls, sameAsDirect_after controls⟩

/-- A world in which every call succeeds and the peer stays silent; it counts its calls. -/
def silentWorld : World Nat := ⟨fun n c => (some (willing [] c), n + 1)⟩

/-- A receiver that is cancelled before its eighth call gives up at the next poll, and so does the
direct run; one that is not cancelled uses up its only attempt. -/
theorem started_as_direct_cancelled :
    (∃ point, TokenSet silentWorld hastyTransfer.receive 0 [.proceed 7, .askDone, .cancel] point ∧
      ∃ n q, hastyTransfer.receive.direct silentWorld point n 0 = (q, 11) ∧
        q.result? = some ⟨some .cancelled, 0, 0⟩) ∧
    ∃ point, TokenSet silentWorld hastyTransfer.receive 0 [.proceed 7, .askDone] point ∧
      ∃ n q, hastyTransfer.receive.direct silentWorld point n 0 = (q, 12) ∧
        q.result? = some ⟨some (.retriesExhausted 1), 0, 1⟩ := by
  constructor
  · obtain ⟨-, point, htoken, hsame⟩ :=
      started_as_direct hastyTransfer silentWorld 0 [.proceed 7, .askDone, .cancel]
    have hjoin := (hsame.join_direct 20 ⟨some .cancelled, 0, 0⟩ rfl).1
    exact ⟨point, htoken, hjoin⟩
  · obtain ⟨-, point, htoken, hsame⟩ :=
      started_as_direct hastyTransfer silentWorld 0 [.proceed 7, .askDone]
    have hjoin := (hsame.join_direct 20 ⟨some (.retriesExhausted 1), 0, 1⟩ rfl).1
    exact ⟨point, htoken, hjoin⟩

end Tftp
