import Tftp.Program

/-!
# Running a program in a world

A `World` answers the calls of a program one after the other. Instead of answering it may suspend
the program, which makes the same call again when it goes on.

`Program.run` goes on until the program is over or suspended, `Program.finish` until it is over.
Both make at most a given number of steps, and both give the program as it is then, together with
the state of the world.

A world is one way to answer calls, from a state of its own. What is proved of all runs is proved of
`Runs`, where the answers are anything; worlds serve to carry programs out, in memory
(`Tftp.Simulation.Testbed`), and to say what a started transfer does while others go on (`Tftp.Job`,
specification §10.5).

Out of scope: how many steps are enough. A program that ends does so within a bound that its
surroundings give (`Tftp.Proofs.Calls`); a limit that is too small shows in a program that has no
result yet.
-/

namespace Tftp

/-- A surrounding system with states of type `ω`. -/
structure World (ω : Type) where
  /-- The answer to a call, or none if the caller is suspended, and the state afterwards. -/
  answer : ω → (c : Call) → Option c.Answer × ω

namespace Program

variable {α ω : Type}

/-- Runs a program until it is over or suspended, at most `limit` steps. -/
def run (world : World ω) : (limit : Nat) → Program α → ω → Program α × ω
  | 0, p, w => (p, w)
  | limit + 1, p, w =>
    match p.ask? with
    | none => (p, w)
    | some ⟨c, resume⟩ =>
      match world.answer w c with
      | (some answer, w) => run world limit (resume answer) w
      | (none, w) => (p, w)

/-- Runs a program until it is over, at most `limit` steps; suspensions are passed over. -/
def finish (world : World ω) : (limit : Nat) → Program α → ω → Program α × ω
  | 0, p, w => (p, w)
  | limit + 1, p, w =>
    match p.ask? with
    | none => (p, w)
    | some ⟨c, resume⟩ =>
      match world.answer w c with
      | (some answer, w) => finish world limit (resume answer) w
      | (none, w) => finish world limit p w

end Program

end Tftp
