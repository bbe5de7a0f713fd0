import Mathlib.Data.List.Basic
import Tftp.Transfer
import Tftp.Proofs.Endpoint
import Tftp.Proofs.File

/-!
# How many calls a program makes

A machine whose runs are bounded in length ends: it has a next call as long as it has not, whatever
the calls were answered, so a bound on its calls is all that is missing. A program that ends has a
result.

* `Program.Within` bounds the calls of a program by the number of datagrams that arrive. Only the
  engines go on for longer if more of them come.
* `Follows` are the traces that surroundings bring about which answer each call by what has
  happened before; `unanswered` are such surroundings, in which the peer is silent.

Results:
* `within_bind`: a sequence of programs makes as many calls as its parts together.
* **`ends_of_bounded`**: in surroundings that bound its runs, a machine ends.
* `returns_of_bounded`: in such surroundings a program has a result.

That a transfer ends is not only a matter of its own: a peer that goes on sending may keep it busy
as long as it likes. The specification bounds the attempts with one block (§8, "Retry bound"), and
that bounds the calls once it is known how much will arrive. This module has the general part, for
any machine; the bounds of the engines come from their accounts.

Out of scope: time. A bound on the calls is a bound on the waits, each of which ends at its
deadline, but nothing here says when.
-/

namespace Tftp

/-- `Follows surroundings es`: each event of `es` is answered by `surroundings`, which know all the
events before it. -/
inductive Follows (surroundings : List Event → (call : Call) → call.Answer) : List Event → Prop
    where
  | nil : Follows surroundings []
  | snoc {es : List Event} (before : Follows surroundings es) (call : Call) :
      Follows surroundings (es ++ [⟨call, surroundings es call⟩])

/-- Surroundings that a trace follows have answered each of its events. -/
theorem Follows.answer_eq {surroundings : List Event → (call : Call) → call.Answer}
    {es before after : List Event} {e : Event} (h : Follows surroundings es)
    (split : es = before ++ e :: after) : e.answer = surroundings before e.call := by
  induction h generalizing after with
  | nil => exact absurd split (by simp)
  | @snoc es _ call ih =>
    rcases List.eq_nil_or_concat' after with rfl | ⟨after, last, rfl⟩
    · obtain ⟨rfl, hlast⟩ := List.append_inj' split rfl
      cases hlast
      rfl
    · rw [← List.cons_append, ← List.append_assoc] at split
      exact ih (List.append_inj' split rfl).1

/-- **A machine ends** in surroundings that bound its runs, also those from a state `u` that it
reached by the events `before`. -/
theorem ends_of_bounded {σ : Type} {ask? : σ → Option (Ask σ)} {u : σ} {before : List Event}
    {n : Nat} {surroundings : List Event → (call : Call) → call.Answer}
    (follows : Follows surroundings before)
    (bounded : ∀ after t, Follows surroundings (before ++ after) → Runs ask? u after t →
      after.length ≤ n) :
    ∃ after t, Follows surroundings (before ++ after) ∧ Runs ask? u after t ∧ ask? t = none := by
  -- A machine that never ends has runs of every length.
  by_contra hnever
  have hlong : ∀ k, ∃ after t, after.length = k ∧ Follows surroundings (before ++ after) ∧
      Runs ask? u after t := by
    intro k
    induction k with
    | zero => exact ⟨[], u, rfl, by rwa [List.append_nil], .nil u⟩
    | succ k ih =>
      obtain ⟨after, t, hlength, hfollows, hrun⟩ := ih
      cases hask : ask? t with
      | none => exact absurd ⟨after, t, hfollows, hrun, hask⟩ hnever
      | some ask =>
        obtain ⟨call, resume⟩ := ask
        refine ⟨after ++ [⟨call, surroundings (before ++ after) call⟩], _, ?_, ?_,
          hrun.append (.cons _ hask (.nil _))⟩
        · rw [List.length_append, hlength, List.length_singleton]
        · rw [← List.append_assoc]
          exact hfollows.snoc call
  obtain ⟨after, t, hlength, hfollows, hrun⟩ := hlong (n + 1)
  have hle := bounded after t hfollows hrun
  omega

/-- Surroundings in which every call succeeds, but the file is empty and no datagram arrives. -/
def unanswered (_ : List Event) : (call : Call) → call.Answer
  | .openForReading _ | .openForWriting _ | .writeBytes _ | .flush => .ok ()
  | .fileSize => .ok 0
  | .readBytes _ => .ok []
  | .createSocket | .connectSocket _ | .setReadDeadline _ | .setWriteDeadline _ => .ok ()
  | .bindSocket here => .ok here
  | .sendDatagram _ => .ok ()
  | .receiveDatagram _ => .error .wouldBlock
  | .pollCancelled | .compareFiles _ _ => false
  | .readClock | .readWallClock => 0
  | .closeSocket | .print _ _ => ()

theorem along_reads_of_unanswered {es : List Event} (h : Follows unanswered es) :
    Along Reads [] es [] := by
  induction h with
  | nil => exact .nil _
  | snoc _ call ih =>
    refine along_snoc_iff.mpr ⟨[], ih, ?_⟩
    cases call <;> simp [Reads, unanswered]

theorem arrivals_of_unanswered {es : List Event} (h : Follows unanswered es) :
    arrivals es = [] := by
  induction h with
  | nil => rfl
  | snoc _ call ih =>
    rw [arrivals_append, ih, arrivals_singleton]
    cases call <;> rfl

namespace Program

variable {α β : Type} {p : Program α} {f : α → Program β} {es : List Event} {m n : Nat}

/-! ## Results -/

/-- **A program has a result** in surroundings that bound its runs. -/
theorem returns_of_bounded {surroundings : List Event → (call : Call) → call.Answer}
    (bounded : ∀ es r, Follows surroundings es → p.Does es r → es.length ≤ n) :
    ∃ es a, Follows surroundings es ∧ p.Does es (some a) := by
  obtain ⟨es, q, hfollows, hrun, hended⟩ := ends_of_bounded .nil
    fun es q hfollows (hrun : Runs ask? p es q) => bounded es q.result? hfollows ⟨q, hrun, rfl⟩
  obtain ⟨a, ha⟩ := Option.isSome_iff_exists.mp (ask?_eq_none_iff.mp hended)
  exact ⟨es, a, hfollows, q, hrun, ha⟩

/-! ## Bounds -/

/-- `p.Within n k`: the program makes at most `n` calls, and `k` more for each datagram that
arrives, whatever they are answered. -/
def Within (p : Program α) (n k : Nat) : Prop :=
  ∀ ⦃es r⦄, p.Does es r → es.length ≤ n + allowance k es

variable {k : Nat}

theorem Within.mono (h : p.Within m k) (le : m ≤ n) : p.Within n k :=
  fun _ _ hdoes => (h hdoes).trans (Nat.add_le_add_right le _)

theorem within_pure (a : α) : (pure a : Program α).Within n k := by
  intro es r h
  obtain ⟨rfl, -⟩ := does_pure h
  exact Nat.zero_le _

theorem within_ask (c : Call) : (ask c).Within 1 k := by
  intro es r h
  rcases does_ask h with ⟨rfl, -⟩ | ⟨answer, rfl, -⟩
  · exact Nat.zero_le _
  · exact Nat.le_add_right 1 _

/-- A sequence of programs makes at most as many calls as its parts together, with the results that
the first one has. -/
theorem within_bind_of_does (first : p.Within m k)
    (then_ : ∀ es a, p.Does es (some a) → (f a).Within n k) : (p >>= f).Within (m + n) k := by
  intro es r h
  rcases does_bind h with ⟨hdoes, -⟩ | ⟨before, after, a, rfl, hbefore, hafter⟩
  · have hfirst := first hdoes
    omega
  · have hfirst := first hbefore
    have hthen := then_ before a hbefore hafter
    rw [allowance_append, List.length_append]
    omega

theorem within_bind (first : p.Within m k) (then_ : ∀ a, (f a).Within n k) :
    (p >>= f).Within (m + n) k :=
  within_bind_of_does first fun _ a _ => then_ a

theorem within_log (level : Level) (message : Bytes) : (log level message).Within 2 k := by
  refine within_bind (m := 1) (n := 1) (within_ask _) fun now => ?_
  split
  · exact within_pure _
  · exact within_ask _

end Program

open Program

namespace Endpoint

variable {α : Type} {step : SocketStep} {p : Program (Except SystemError α)} {n k : Nat}

theorem within_attempt (h : p.Within n k) : (attempt step p).Within n k := by
  refine within_bind (n := 0) h fun answer => ?_
  cases answer with
  | ok a => exact within_pure _
  | error reason => exact within_pure _

theorem within_create (here : Address) : (create here).Within 3 k := by
  refine within_bind (m := 1) (n := 2) (within_attempt (within_ask _)) fun created => ?_
  cases created with
  | error failure => exact within_pure _
  | ok =>
    refine within_bind (m := 1) (n := 1) (within_attempt (within_ask _)) fun bound => ?_
    cases bound with
    | error failure => exact within_bind (n := 0) (within_ask _) fun _ => within_pure _
    | ok bound => exact within_pure _

theorem within_connect (endpoint : Endpoint) (peer : Address) :
    (endpoint.connect peer).Within 1 k := by
  refine within_bind (m := 1) (n := 0) (within_attempt (within_ask _)) fun answer => ?_
  cases answer with
  | error failure => exact within_pure _
  | ok => exact within_pure _

theorem within_setTimeout (milliseconds : Int) : (setTimeout milliseconds).Within 2 k := by
  refine within_bind (m := 1) (n := 1) (within_attempt (within_ask _)) fun answer => ?_
  cases answer with
  | error failure => exact within_pure _
  | ok => exact within_attempt (within_ask _)

theorem within_ready (here peer : Address) (milliseconds : Int) :
    (ready here peer milliseconds).Within 7 k := by
  have hclose : ∀ failure : Failure, ∀ n,
      (close >>= fun _ => pure (.error failure) : Program (Except Failure Endpoint)).Within
        (n + 1) k :=
    fun failure n => (within_bind (n := 0) (within_ask _) fun _ => within_pure _).mono (by omega)
  refine within_bind (m := 3) (n := 4) (within_create here) fun created => ?_
  cases created with
  | error failure => exact within_pure _
  | ok created =>
    refine within_bind (m := 1) (n := 3) (within_connect created peer) fun ⟨answer, connected⟩ => ?_
    cases answer with
    | error failure => exact hclose failure _
    | ok =>
      refine within_bind (m := 2) (n := 1) (within_setTimeout milliseconds) fun answer => ?_
      cases answer with
      | error failure => exact hclose failure _
      | ok => exact within_pure _

theorem within_send (endpoint : Endpoint) (packet : Packet) :
    (endpoint.send packet).Within 1 k := by
  unfold send
  split
  · exact within_pure _
  · exact within_bind (n := 0) (within_attempt (within_ask _)) fun _ => within_pure _

theorem within_acceptRequest (endpoint : Endpoint) (acknowledged : List OptionEntry)
    (direction : Direction) : (endpoint.acceptRequest acknowledged direction).Within 1 k := by
  cases acknowledged with
  | cons option options => exact within_bind (n := 0) (within_send _ _) fun _ => within_pure _
  | nil =>
    cases direction with
    | send size => exact within_pure _
    | receive => exact within_bind (n := 0) (within_send _ _) fun _ => within_pure _

end Endpoint

namespace Transfer

variable {t : Transfer} {k : Nat}

theorem within_failed (failure : Failure) (transferred : Nat) (misses : UInt32) :
    (failed failure transferred misses).Within 2 k :=
  within_bind (n := 0) (within_log _ _) fun _ => within_pure _

theorem within_succeeded (verb preposition : Bytes) (start : Int) (transferred : Nat)
    (misses : UInt32) : (t.succeeded verb preposition start transferred misses).Within 3 k :=
  within_bind (within_ask _) fun _ =>
    within_bind (n := 0) (within_log _ _) fun _ => within_pure _

theorem within_reportFileError (code : ErrorCode) (text : Bytes) :
    (t.reportFileError code text).Within 11 k := by
  refine within_bind (m := 7) (n := 4) (Endpoint.within_ready _ _ _) fun ready => ?_
  cases ready with
  | error failure => exact (within_log _ _).mono (by omega)
  | ok endpoint =>
    refine within_bind (m := 1) (n := 3) (Endpoint.within_send _ _) fun ⟨sent, _⟩ => ?_
    refine within_bind (m := 1) (n := 2) (within_ask _) fun _ => ?_
    cases sent with
    | error failure => exact within_log _ _
    | ok => exact within_pure _

end Transfer

end Tftp
