import Tftp.CommandLine.Tool
import Tftp.Proofs.Calls
import Tftp.Proofs.Transfer

/-!
# What a command line asks for

A command line is read in two steps: its options make up the settings, of which each keeps the value
given last, and the settings ask for a transfer or are refused.

* `lastValue?` is the value given last for an option, `Setting.role?` the direction that an option
  gives, and `Setting.requested?` what it requests.
* `Refused` is a tool that only says why it does nothing, and returns 1.

Results:
* `ofOptions_eq`: what the settings are, one by one.
* `transfer_eq_ok_iff` and `parse_eq_ok_iff`: when a transfer is asked for, and which.
* **`refused_of_parse`**: a command line that is refused touches nothing.

This is the tool of the specification (§10.4) before it runs its transfer. A setting that is given
twice has the value given last, and only requested options add up, as a peer may repeat them too. A
refused command line is the reason why a script can rely on the status alone: nothing was touched if
the tool returned before the transfer.

Out of scope: how arguments become options (`Tftp.CommandLine.Arguments`), for which nothing is
proved here but that it is done first.
-/

namespace Tftp.CommandLine

open Program Bytes

/-! ## Settings -/

/-- The value given last for an option. -/
def lastValue? (flag : Flag) (options : List Setting) : Option Bytes :=
  (options.reverse.find? fun setting => setting.flag == flag).map Setting.value

theorem lastValue?_snoc (flag : Flag) (options : List Setting) (setting : Setting) :
    lastValue? flag (options ++ [setting]) =
      if setting.flag = flag then some setting.value else lastValue? flag options := by
  unfold lastValue?
  rw [List.reverse_append, List.reverse_singleton, List.singleton_append, List.find?_cons]
  split
  · rename_i h
    rw [if_pos (beq_iff_eq.mp h)]
    rfl
  · rename_i h
    rw [if_neg (beq_eq_false_iff_ne.mp h)]

/-- The direction that an option gives. -/
def Setting.role? (setting : Setting) : Option Role :=
  match setting.flag with
  | .send => some .send
  | .receive => some .receive
  | _ => none

/-- The option of the transfer that an option of the command line requests. -/
def Setting.requested? (setting : Setting) : Option OptionEntry :=
  match setting.flag with
  | .blockSize => some ⟨.blockSize, unsigned64 setting.value⟩
  | .transferSize => some ⟨.transferSize, unsigned64 setting.value⟩
  | .timeout => some ⟨.timeout, unsigned64 setting.value⟩
  | _ => none

/-- **The settings** are what the last values of the options say, and all of the requests. -/
theorem ofOptions_eq (options : List Setting) :
    Settings.ofOptions options =
      { role := (options.filterMap Setting.role?).getLast?
        file := (lastValue? .file options).getD []
        here := (lastValue? .here options).getD (ascii "0.0.0.0")
        peer := (lastValue? .peer options).getD []
        port := (lastValue? .port options).elim 0 signed32
        requested := options.filterMap Setting.requested?
        config :=
          { maxRetries := ((lastValue? .retries options).elim 6 signed32 % 4294967296).toNat
            timeout := (lastValue? .wait options).elim 5000 signed32 }
        verify := (lastValue? .verify options).getD [] } := by
  induction options using List.reverseRecOn with
  | nil => rfl
  | append_singleton options setting ih =>
    have hlast : Settings.ofOptions (options ++ [setting]) =
        (Settings.ofOptions options).apply setting := List.foldl_append
    rw [hlast, ih]
    obtain ⟨flag, value⟩ := setting
    cases flag <;> simp [Settings.apply, Settings.request, lastValue?_snoc, Setting.role?,
      Setting.requested?]

/-- When settings ask for a transfer, and for which. -/
theorem transfer_eq_ok_iff {s : Settings} {role : Role} {t : Transfer} :
    s.transfer = .ok (role, t) ↔
      s.role = some role ∧ (s.file ≠ [] ∧ s.peer ≠ [] ∧ 0 < s.port) ∧
        (s.config.maxRetries ≠ 0 ∧ 0 < s.config.timeout) ∧
        ∃ here peer, Address.make s.here 0 = .ok here ∧ Address.make s.peer s.port = .ok peer ∧
          t = ⟨s.config, here, peer, s.file, s.requested⟩ := by
  unfold Settings.transfer
  constructor
  · intro h
    split at h
    · cases h
    · rename_i role' hrole
      split at h
      · cases h
      · rename_i hgiven
        split at h
        · cases h
        · rename_i hpositive
          split at h
          · cases h
          · cases h
          · rename_i here peer hhere hpeer
            cases h
            refine ⟨hrole, ?_, ?_, here, peer, hhere, hpeer, rfl⟩
            · simpa [not_or] using hgiven
            · simpa [not_or] using hpositive
  · rintro ⟨hrole, ⟨hfile, hpeer, hport⟩, ⟨hretries, htimeout⟩, here, peer, hmake, hmake', rfl⟩
    simp [hrole, hfile, hpeer, hretries, hmake, hmake', Int.not_le.mpr hport,
      Int.not_le.mpr htimeout]

/-- When a command line asks for a transfer, and for which. -/
theorem parse_eq_ok_iff {arguments : List Bytes} {settings : Settings} {role : Role}
    {t : Transfer} :
    parse arguments = .ok (settings, role, t) ↔
      ∃ options, readArguments (arguments.map untilZero) = .ok options ∧
        settings = .ofOptions options ∧ settings.transfer = .ok (role, t) := by
  unfold parse
  constructor
  · intro h
    split at h
    · cases h
    · rename_i options hread
      dsimp only at h
      split at h
      · cases h
      · rename_i htransfer
        cases h
        exact ⟨options, hread, rfl, htransfer⟩
  · rintro ⟨options, hread, rfl, htransfer⟩
    rw [hread]
    dsimp only
    rw [htransfer]

/-! ## Refusals -/

/-- A program that only prints why it does nothing, and returns 1. -/
structure Refused (p : Program Nat) : Prop where
  /-- It reads a clock and prints, and does nothing else. -/
  reports : p.Makes Event.Reports
  /-- It returns, whatever its calls are answered. -/
  returns : ∀ surroundings, ∃ es, Follows surroundings es ∧ p.Does es (some 1)
  /-- It returns nothing but 1, and not before it has printed an error. -/
  complains : ∀ ⦃es status⦄, p.Does es (some status) →
    status = 1 ∧ ∃ text, text ≠ [] ∧ ⟨.print .error text, ()⟩ ∈ es

variable {tool : Bytes} {refusal : Refusal} {arguments : List Bytes}

theorem reports_print {stream : Stream} {text : Bytes} :
    (ask (.print stream text)).Makes Event.Reports :=
  makes_ask fun _ => .printing _ _

theorem reports_refuse : (refuse tool refusal).Makes Event.Reports := by
  cases refusal with
  | complaint | missingArguments => exact makes_bind reports_print fun _ => reports_print
  | notPositive => exact reports_print
  | failure failure => exact (reports_log : (log .error failure.message).Makes _)

theorem within_refuse : (refuse tool refusal).Within 2 0 := by
  cases refusal with
  | complaint | missingArguments =>
    exact within_bind (m := 1) (n := 1) (within_ask _) fun _ => within_ask _
  | notPositive => exact (within_ask _).mono (by decide)
  | failure failure => exact within_log .error failure.message

/-- What prints an error first has printed one when it is over. -/
theorem printed_of_does {text : Bytes} {α : Type} {f : Unit → Program α} {es : List Event} {a : α}
    (h : (ask (.print .error text) >>= f).Does es (some a)) : ⟨.print .error text, ()⟩ ∈ es := by
  obtain ⟨_, rest, rfl, -⟩ := does_ask_bind_some h
  exact List.mem_cons_self

theorem printed_log {message : Bytes} {es : List Event}
    (h : (log .error message).Does es (some ())) :
    ∃ text, text ≠ [] ∧ ⟨.print .error text, ()⟩ ∈ es := by
  obtain ⟨before, after, now, rfl, -, hline⟩ := does_bind_some h
  obtain ⟨text, hprinted⟩ : ∃ text, Log.line .error now message = some (.error, text) := ⟨_, rfl⟩
  have hmem : ⟨.print .error text, ()⟩ ∈ after := by
    rw [hprinted] at hline
    rw [does_ask_some hline]
    exact List.mem_singleton_self _
  refine ⟨text, ?_, List.mem_append_right before hmem⟩
  rintro rfl
  have htag : ascii " [ERR] " = [] := by
    simp only [Log.line, Log.style, Option.map_some, Option.some.injEq, Prod.mk.injEq, true_and,
      List.append_eq_nil_iff] at hprinted
    exact hprinted.1.1.2
  exact absurd htag (by decide)

theorem printed_refuse {es : List Event} (h : (refuse tool refusal).Does es (some ())) :
    ∃ text, text ≠ [] ∧ ⟨.print .error text, ()⟩ ∈ es := by
  cases refusal with
  | complaint complaint =>
    exact ⟨_, List.append_ne_nil_of_right_ne_nil _ (by decide), printed_of_does h⟩
  | missingArguments => exact ⟨_, by decide, printed_of_does h⟩
  | notPositive =>
    rw [does_ask_some h]
    exact ⟨_, by decide, List.mem_singleton_self _⟩
  | failure => exact printed_log h

/-- **A command line that is refused touches nothing.** -/
theorem refused_of_parse (h : parse arguments = .error refusal) : Refused (run tool arguments) := by
  have hrun : run tool arguments = refuse tool refusal >>= fun _ => pure 1 := by
    simp only [run, h]
  rw [hrun]
  have hcomplains : ∀ ⦃es status⦄,
      (refuse tool refusal >>= fun _ => pure 1).Does es (some status) →
        status = 1 ∧ ∃ text, text ≠ [] ∧ ⟨.print .error text, ()⟩ ∈ es := by
    intro es status hdoes
    obtain ⟨before, after, _, rfl, hrefuse, hpure⟩ := does_bind_some hdoes
    obtain ⟨rfl, hstatus⟩ := does_pure hpure
    cases hstatus
    rw [List.append_nil]
    exact ⟨rfl, printed_refuse hrefuse⟩
  have hwithin : (refuse tool refusal >>= fun _ => (pure 1 : Program Nat)).Within 2 0 :=
    within_bind (n := 0) within_refuse fun _ => within_pure _
  refine ⟨makes_bind reports_refuse fun _ => makes_pure _, fun surroundings => ?_, hcomplains⟩
  have hbounded : ∀ es r, Follows surroundings es →
      (refuse tool refusal >>= fun _ => (pure 1 : Program Nat)).Does es r → es.length ≤ 2 := by
    intro es r _ hdoes
    simpa [allowance] using hwithin hdoes
  obtain ⟨es, status, hfollows, hdoes⟩ := returns_of_bounded hbounded
  obtain ⟨rfl, -⟩ := hcomplains hdoes
  exact ⟨es, hfollows, hdoes⟩

end Tftp.CommandLine
