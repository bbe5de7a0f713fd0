import Tftp.Proofs.CommandLine
import Tftp.Proofs.CommandLine.Decimal

/-!
# The numbers of a command line

Three options give numbers that decide how a transfer goes: the port of the peer, how many attempts
may miss, and the deadline of a wait. They are read as numbers of 32 bits with a sign, and the tool
refuses those that are not positive; but the port is then cut to 16 bits, and the attempts are
converted to a number without a sign before they are looked at.

* `Numbers` says which numbers a command line gives.
* `Uses` says what a transfer makes of them.

Results:
* **`run_numbers`**: a transfer uses the numbers that it is given as far as they fit, and a command
  line with a number that is not positive is refused, unless it is a negative number of attempts.
* `run_numbers_altered`: that number, and a port of more than 16 bits, are turned into others.

The specification has a worker reject a number of attempts or a deadline that would let it wait for
ever (§10.4), and the tool checks the same before. A check can only be as good as the number that it
looks at. −1 attempts pass it as the largest number of 32 bits, and a port is checked before it is
cut, so that 70000 reaches port 4464. Both are found here by asking for the number that was meant
and the one that is used.

Out of scope: numbers that are not decimals of 32 bits. They are read as other numbers of 32 bits,
for which the same holds.
-/

namespace Tftp.CommandLine

open Program Bytes

/-- The options give the number `n` for one of them: the last text for it is a number of 32 bits in
decimal, `n`. Without the option, the number is `otherwise`. -/
def Gives (options : List Setting) (flag : Flag) (otherwise n : Int) : Prop :=
  match lastValue? flag options with
  | some text => IsDecimal text n ∧ InRange32 n
  | none => n = otherwise

/-- The command line gives a port, a number of attempts and a deadline, if its options are
understood. -/
def Numbers (arguments : List Bytes) (port retries wait : Int) : Prop :=
  ∀ options, readArguments (arguments.map untilZero) = .ok options →
    Gives options .port 0 port ∧ Gives options .retries 6 retries ∧ Gives options .wait 5000 wait

/-- What a transfer makes of the numbers: the port is cut to 16 bits, and the attempts lose their
sign. -/
structure Uses (port retries wait : Int) (t : Transfer) : Prop where
  port : (t.peer.port.toNat : Int) = port % 65536
  retries : (t.config.maxRetries : Int) = retries % 4294967296
  wait : t.config.timeout = wait

variable {arguments : List Bytes} {options : List Setting}
  {port retries wait : Int}

theorem numbers_of_read (read : readArguments (arguments.map untilZero) = .ok options)
    (gives : Gives options .port 0 port ∧ Gives options .retries 6 retries ∧
      Gives options .wait 5000 wait) : Numbers arguments port retries wait := by
  intro given hgiven
  rw [read] at hgiven
  cases hgiven
  exact gives

/-! ## Settings -/

theorem read_of_gives {flag : Flag} {otherwise n : Int} (h : Gives options flag otherwise n) :
    (lastValue? flag options).elim otherwise signed32 = n := by
  unfold Gives at h
  split at h
  · rename_i text hlast
    rw [hlast]
    exact signed32_of_isDecimal h.1 h.2
  · rename_i hlast
    rw [hlast]
    exact h.symm

theorem port_of_gives (h : Gives options .port 0 port) :
    (Settings.ofOptions options).port = port := by
  rw [ofOptions_eq]
  exact read_of_gives h

theorem retries_of_gives (h : Gives options .retries 6 retries) :
    ((Settings.ofOptions options).config.maxRetries : Int) = retries % 4294967296 := by
  rw [ofOptions_eq, ← read_of_gives h]
  exact Int.toNat_of_nonneg (Int.emod_nonneg _ (by decide))

theorem wait_of_gives (h : Gives options .wait 5000 wait) :
    (Settings.ofOptions options).config.timeout = wait := by
  rw [ofOptions_eq]
  exact read_of_gives h

/-- A port is cut to 16 bits. -/
theorem port_of_make {host : Bytes} {address : Address} (h : Address.make host port = .ok address) :
    (address.port.toNat : Int) = port % 65536 := by
  unfold Address.make at h
  split at h
  · cases h
  · cases h
    rw [UInt16.toNat_ofNat']
    omega

theorem inRange_of_gives {flag : Flag} {otherwise n : Int} (h : Gives options flag otherwise n)
    (fits : InRange32 otherwise) : InRange32 n := by
  unfold Gives at h
  split at h
  · exact h.2
  · exact h ▸ fits

/-! ## Transfers -/

/-- What is asked for with the numbers of a command line. -/
theorem uses_of_parse (numbers : Numbers arguments port retries wait) {settings : Settings}
    {role : Role} {t : Transfer} (asked : parse arguments = .ok (settings, role, t)) :
    (0 < port ∧ retries ≠ 0 ∧ 0 < wait) ∧ Uses port retries wait t ∧ InRange32 retries := by
  obtain ⟨options, hread, rfl, htransfer⟩ := parse_eq_ok_iff.mp asked
  obtain ⟨hport, hretries, hwait⟩ := numbers options hread
  obtain ⟨-, ⟨-, -, hpositive⟩, ⟨hsome, hlong⟩, here, peer, -, hpeer, rfl⟩ :=
    transfer_eq_ok_iff.mp htransfer
  have hcount := retries_of_gives hretries
  rw [port_of_gives hport] at hpositive hpeer
  rw [wait_of_gives hwait] at hlong
  refine ⟨⟨hpositive, ?_, hlong⟩, ⟨port_of_make hpeer, hcount, wait_of_gives hwait⟩,
    inRange_of_gives hretries (by decide)⟩
  rintro rfl
  exact hsome (Int.ofNat_eq_zero.mp hcount)

/-- A command line asks for a transfer, or it is refused. -/
theorem refused_of_forall (tool : Bytes) (refused : ∀ asked, parse arguments ≠ .ok asked) :
    Refused (run tool arguments) := by
  cases hparse : parse arguments with
  | error refusal => exact refused_of_parse hparse
  | ok asked => exact absurd hparse (refused asked)

/-- **The numbers of a command line.** If the last values for the port, the attempts and the
deadline are numbers of 32 bits in decimal:

* a transfer that is started has a positive port, some attempts and a positive deadline; it uses the
  low 16 bits of the port, the attempts without their sign modulo 2³², and the deadline as it is;
* so it uses the port as given up to 65535, and the attempts as given if they are not negative;
* otherwise the tool prints an error and returns 1, and touches neither a file nor a socket; that is
  so for a port that is not positive, for no attempts and for a deadline that is not positive. -/
theorem run_numbers (tool : Bytes) (numbers : Numbers arguments port retries wait) :
    (∀ settings role t, parse arguments = .ok (settings, role, t) →
        (0 < port ∧ retries ≠ 0 ∧ 0 < wait) ∧ Uses port retries wait t ∧
          (port ≤ 65535 → (t.peer.port.toNat : Int) = port) ∧
          (0 ≤ retries → (t.config.maxRetries : Int) = retries)) ∧
      ((∀ asked, parse arguments ≠ .ok asked) → Refused (run tool arguments)) ∧
      (port ≤ 0 ∨ retries = 0 ∨ wait ≤ 0 → Refused (run tool arguments)) := by
  refine ⟨fun settings role t asked => ?_, refused_of_forall tool, fun hbad => ?_⟩
  · obtain ⟨hpositive, huses, hrange⟩ := uses_of_parse numbers asked
    refine ⟨hpositive, huses, fun hsmall => ?_, fun hsign => ?_⟩
    · rw [huses.port]
      exact Int.emod_eq_of_lt (Int.le_of_lt hpositive.1) (Int.lt_add_one_of_le hsmall)
    · rw [huses.retries]
      exact Int.emod_eq_of_lt hsign (Int.lt_trans hrange.2 (by decide))
  · refine refused_of_forall tool fun asked hasked => ?_
    obtain ⟨settings, role, t⟩ := asked
    obtain ⟨⟨hport, hretries, hwait⟩, -, -⟩ := uses_of_parse numbers hasked
    rcases hbad with hbad | hbad | hbad
    · exact absurd hport (Int.not_lt.mpr hbad)
    · exact hretries hbad
    · exact absurd hwait (Int.not_lt.mpr hbad)

/-- A tool that is asked to send a file opens it, if it can. -/
theorem opens_of_parse (tool : Bytes) {settings : Settings} {t : Transfer}
    (asked : parse arguments = .ok (settings, .send, t)) :
    ∃ es, ⟨.openForReading t.file.untilZero, .ok ()⟩ ∈ es ∧
      (run tool arguments).Does es none := by
  have hcheck : t.config.check = .ok () := by
    obtain ⟨options, -, rfl, htransfer⟩ := parse_eq_ok_iff.mp asked
    obtain ⟨-, -, ⟨hsome, hlong⟩, _, _, -, -, rfl⟩ := transfer_eq_ok_iff.mp htransfer
    simp [Config.check, hsome, Int.not_le.mpr hlong]
  obtain ⟨line, hdoes⟩ : ∃ line, (run tool arguments).Does
      [⟨.readWallClock, 0⟩, ⟨.print .output line, ()⟩, ⟨.readClock, 0⟩,
        ⟨.openForReading t.file.untilZero, .ok ()⟩] none := by
    simp only [run, asked, serve, Transfer.send, Transfer.prepareSend, hcheck]
    apply Exists.intro
    repeat refine does_cons_iff.mpr ⟨_, rfl, ?_⟩
    exact does_nil_iff.mpr rfl
  exact ⟨_, by simp, hdoes⟩

/-- A command line that asks for `f.bin` to be sent, and has some more arguments. -/
def sendArguments (more : List String) : List Bytes :=
  (["--send", "--file", "f.bin", "--remote", "127.0.0.1"] ++ more).map ascii

/-- Numbers that are positive and fit are used as they are. -/
theorem run_numbers_positive :
    Numbers (sendArguments ["--port", "69", "-n", "2", "--wait=750"]) 69 2 750 ∧
      ∃ settings role t,
        parse (sendArguments ["--port", "69", "-n", "2", "--wait=750"]) = .ok (settings, role, t) ∧
          (t.peer.port.toNat : Int) = 69 ∧ (t.config.maxRetries : Int) = 2 ∧
          t.config.timeout = 750 := by
  have hread : readArguments
      ((sendArguments ["--port", "69", "-n", "2", "--wait=750"]).map untilZero) =
        .ok [⟨.send, []⟩, ⟨.file, ascii "f.bin"⟩, ⟨.peer, ascii "127.0.0.1"⟩, ⟨.port, ascii "69"⟩,
          ⟨.retries, ascii "2"⟩, ⟨.wait, ascii "750"⟩] := rfl
  have numbers : Numbers (sendArguments ["--port", "69", "-n", "2", "--wait=750"]) 69 2 750 := by
    exact numbers_of_read hread ⟨⟨isDecimal_signedDecimal 69, by decide⟩,
      ⟨isDecimal_signedDecimal 2, by decide⟩, ⟨isDecimal_signedDecimal 750, by decide⟩⟩
  obtain ⟨settings, role, t, asked⟩ : ∃ settings role t,
      parse (sendArguments ["--port", "69", "-n", "2", "--wait=750"]) = .ok (settings, role, t) :=
    ⟨_, _, _, rfl⟩
  obtain ⟨hstarted, -⟩ := run_numbers (ascii "tool") numbers
  obtain ⟨-, huses, hport, hretries⟩ := hstarted settings role t asked
  exact ⟨numbers, settings, role, t, asked, hport (by decide), hretries (by decide), huses.wait⟩

/-- Other numbers are not used as they are, nor refused: with −1 attempts a transfer may miss
4294967295 times, and port 70000 is port 4464. The file is opened. -/
theorem run_numbers_altered :
    (Numbers (sendArguments ["--port", "6969", "--retries", "-1"]) 6969 (-1) 5000 ∧
      ∃ settings t,
        parse (sendArguments ["--port", "6969", "--retries", "-1"]) = .ok (settings, .send, t) ∧
          t.config.maxRetries = 4294967295 ∧
          ∃ es, ⟨.openForReading t.file.untilZero, .ok ()⟩ ∈ es ∧ (run (ascii "tool")
            (sendArguments ["--port", "6969", "--retries", "-1"])).Does es none) ∧
    Numbers (sendArguments ["--port", "70000"]) 70000 6 5000 ∧
      ∃ settings t, parse (sendArguments ["--port", "70000"]) = .ok (settings, .send, t) ∧
        t.peer.port = 4464 ∧
        ∃ es, ⟨.openForReading t.file.untilZero, .ok ()⟩ ∈ es ∧
          (run (ascii "tool") (sendArguments ["--port", "70000"])).Does es none := by
  refine ⟨⟨?_, _, _, rfl, rfl, opens_of_parse _ rfl⟩, ?_, _, _, rfl, rfl, opens_of_parse _ rfl⟩
  · have hread : readArguments
        ((sendArguments ["--port", "6969", "--retries", "-1"]).map untilZero) =
          .ok [⟨.send, []⟩, ⟨.file, ascii "f.bin"⟩, ⟨.peer, ascii "127.0.0.1"⟩,
            ⟨.port, ascii "6969"⟩, ⟨.retries, ascii "-1"⟩] := rfl
    have hminus : signedDecimal (-1) = ascii "-1" := by decide
    exact numbers_of_read hread ⟨⟨isDecimal_signedDecimal 6969, by decide⟩,
      ⟨hminus ▸ isDecimal_signedDecimal (-1), by decide⟩, rfl⟩
  · have hread : readArguments ((sendArguments ["--port", "70000"]).map untilZero) =
        .ok [⟨.send, []⟩, ⟨.file, ascii "f.bin"⟩, ⟨.peer, ascii "127.0.0.1"⟩,
          ⟨.port, ascii "70000"⟩] := rfl
    exact numbers_of_read hread ⟨⟨isDecimal_signedDecimal 70000, by decide⟩, rfl, rfl⟩

end Tftp.CommandLine
