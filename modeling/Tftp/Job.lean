import Tftp.Transfer
import Tftp.World

/-!
# Transfers under way

A `Job` is a transfer that was started and goes on by itself, with a flag of its own that cancels it
(`start_send`, `start_receive` and the handle that they give, specification §9 and §10.5). Its
starter may ask whether it is done (`Job.isDone`), cancel it (`Job.cancel`), and join it
(`Job.join`): wait for its end and take the result, any number of times.

The transfer and its starter share nothing but the flag. So what one of them does in between two
looks at the flag is as good as done at one moment, and a job is a program, a flag and a world that
are brought forward step by step: `Job.proceed` lets the transfer go on for some steps, and the
operations of the starter happen in between, in any order.

A flag that was set stays so. A transfer looks at it only before an attempt, so it ends soon after,
but not at once; `Tftp.Proofs.Cancelling` says how soon, and `Tftp.Proofs.Job` that a started
transfer is the same as one that is run directly.

Out of scope: several jobs at a time, since transfers share nothing (§5), and giving up a job
without joining it, which waits for its end as `Job.join` does.
-/

namespace Tftp

/-- A world together with a cancellation flag, which answers the polls. -/
def World.withFlag {ω : Type} (world : World ω) : World (Bool × ω) where
  answer
    | (cancelled, w), .pollCancelled => (some cancelled, cancelled, w)
    | (cancelled, w), c =>
      let (answer, w) := world.answer w c
      (answer, cancelled, w)

/-- A started transfer and the state of the world it runs in. -/
structure Job (ω : Type) where
  program : Program Result
  cancelled : Bool
  world : ω
  /-- The result, once it was taken. -/
  joined : Option Result

namespace Job

variable {ω : Type}

/-- A transfer that is about to make its first call. -/
def start (program : Program Result) (world : ω) : Job ω := ⟨program, false, world, none⟩

/-- Whether the transfer is over. -/
def isDone (t : Job ω) : Bool := t.joined.isSome || t.program.result?.isSome

/-- Asks the transfer to stop before its next attempt. -/
def cancel (t : Job ω) : Job ω := { t with cancelled := true }

/-- Lets the transfer go on until it is over or suspended, at most `limit` steps. -/
def proceed (world : World ω) (limit : Nat) (t : Job ω) : Job ω :=
  let (program, cancelled, w) := t.program.run world.withFlag limit (t.cancelled, t.world)
  { t with program, cancelled, world := w }

/-- Waits for the end of the transfer, at most `limit` steps, and takes the result. -/
def join (world : World ω) (limit : Nat) (t : Job ω) : Option Result × Job ω :=
  match t.joined with
  | some result => (some result, t)
  | none =>
    let (program, cancelled, w) := t.program.finish world.withFlag limit (t.cancelled, t.world)
    (program.result?, { program, cancelled, world := w, joined := program.result? })

end Job

end Tftp
