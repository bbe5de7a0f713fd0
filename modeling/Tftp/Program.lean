import Tftp.Receiver
import Tftp.Sender

/-!
# Programs

A `Program` is a program that makes calls, may run a sender or a receiver to its end, and has a
result. `Program.view` gives either the result or the next call, so a program is a machine like the
two engines that it contains, and `Runs` applies to it. The transfers, the tool and all they are
made of are programs, and what is said about their runs needs no second account of them.

A failure is a value. Where a step can fail its program has an `Except` for a result, and the next
step looks at it; that is how the failures of the parts come to the result of the whole
(specification §7 and §10.3).

* `Program.ask` makes one call, `Program.runSender` and `Program.runReceiver` run an engine to its
  end.
* `Program.log` prints a line, unless lines of its level are not printed.

Results:
* `bind_done` and `bind_assoc`: programs are a lawful monad.
* `view_bind`: two programs in sequence make the calls of the first and then those of the second.
* `ask?_eq_none_iff`: a program goes on calling until it has a result.

Out of scope: programs that go on for ever without a call. There are none, since a program is a
finite tree but for its engines, and an engine that has not ended makes a call.
-/

namespace Tftp

/-- A program that calls the surrounding system and has a result of type `α`. -/
inductive Program (α : Type) : Type where
  | done (result : α)
  | call (call : Call) (resume : call.Answer → Program α)
  | sending (sender : Sender) (resume : Sender → Program α)
  | receiving (receiver : Receiver) (resume : Receiver → Program α)

namespace Program

variable {α β : Type}

/-! ## Sequencing -/

/-- Runs a program and goes on with its result. -/
protected def bind (p : Program α) (f : α → Program β) : Program β :=
  match p with
  | done a => f a
  | call c resume => call c fun answer => (resume answer).bind f
  | sending s resume => sending s fun s => (resume s).bind f
  | receiving r resume => receiving r fun r => (resume r).bind f

instance : Monad Program where
  pure := done
  bind := Program.bind

theorem bind_done (p : Program α) : p.bind done = p := by
  induction p with
  | done => rfl
  | call c resume ih => simp only [Program.bind, ih]
  | sending s resume ih => simp only [Program.bind, ih]
  | receiving r resume ih => simp only [Program.bind, ih]

theorem bind_assoc {γ : Type} (p : Program α) (f : α → Program β) (g : β → Program γ) :
    (p.bind f).bind g = p.bind fun a => (f a).bind g := by
  induction p with
  | done => rfl
  | call c resume ih => simp only [Program.bind, ih]
  | sending s resume ih => simp only [Program.bind, ih]
  | receiving r resume ih => simp only [Program.bind, ih]

instance : LawfulMonad Program :=
  LawfulMonad.mk' Program bind_done (fun _ _ => rfl) bind_assoc

/-- Makes one call. -/
def ask (c : Call) : Program c.Answer := call c done

/-- Runs a sender to its end. -/
def runSender (s : Sender) : Program Sender := sending s done

/-- Runs a receiver to its end. -/
def runReceiver (r : Receiver) : Program Receiver := receiving r done

/-! ## The machine -/

/-- The result of a program that is over, or else the next call. -/
def view : Program α → α ⊕ Ask (Program α)
  | done a => .inl a
  | call c resume => .inr ⟨c, resume⟩
  | sending s resume =>
    match s.ask? with
    | none => (resume s).view
    | some ⟨c, next⟩ => .inr ⟨c, fun answer => sending (next answer) resume⟩
  | receiving r resume =>
    match r.ask? with
    | none => (resume r).view
    | some ⟨c, next⟩ => .inr ⟨c, fun answer => receiving (next answer) resume⟩

/-- Two programs in sequence make the calls of the first and then those of the second. -/
theorem view_bind (p : Program α) (f : α → Program β) :
    (p.bind f).view =
      match p.view with
      | .inl a => (f a).view
      | .inr ask => .inr ⟨ask.call, fun answer => (ask.resume answer).bind f⟩ := by
  induction p with
  | done => rfl
  | call => rfl
  | sending s resume ih =>
    simp only [Program.bind, view]
    cases s.ask? with
    | none => exact ih s
    | some => rfl
  | receiving r resume ih =>
    simp only [Program.bind, view]
    cases r.ask? with
    | none => exact ih r
    | some => rfl

/-- The call that a program makes next; `none` once it is over. -/
def ask? (p : Program α) : Option (Ask (Program α)) := p.view.getRight?

/-- The result of a program; `none` while it is under way. -/
def result? (p : Program α) : Option α := p.view.getLeft?

/-- A program is over exactly when it makes no call. -/
theorem ask?_eq_none_iff {p : Program α} : p.ask? = none ↔ p.result?.isSome := by
  unfold ask? result?
  cases p.view <;> simp

/-! ## Printing -/

/-- Prints a log line with the present time, unless lines of its level are not printed. -/
def log (level : Level) (message : Bytes) : Program Unit := do
  let now ← ask .readWallClock
  match Log.line level now message with
  | none => return ()
  | some (stream, line) => ask (.print stream line)

end Program

end Tftp
