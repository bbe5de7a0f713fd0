import Mathlib.Data.List.TakeWhile
import Tftp.Failure
import Tftp.Proofs.Packet.Numeral

/-!
# Messages

A message ends at the first zero byte of its wording. A wording without one is given whole.

Results:
* `Failure.message_of_zero_notMem`: a wording without a zero byte is given whole.
* `Failure.message_retriesExhausted`: the message that names the number of attempts.

Messages are those of the specification (§10.3). Which of them can be cut at all follows from what
they are made of: numbers and fixed words have no zero byte, texts that were read from a packet have
none either, and names of files may.

Out of scope: log lines, which cut a message in the same way when it is printed.
-/

namespace Tftp

open Bytes

theorem Bytes.untilZero_of_zero_notMem {b : Bytes} (h : 0 ∉ b) : b.untilZero = b := by
  unfold untilZero
  rw [List.takeWhile_eq_self_iff]
  intro c hc
  rw [bne_iff_ne]
  rintro rfl
  exact h hc

namespace Failure

/-- A wording without a zero byte is given whole. -/
theorem message_of_zero_notMem {failure : Failure} (h : 0 ∉ failure.wording) :
    failure.message = failure.wording :=
  untilZero_of_zero_notMem h

/-- The message names the number of attempts. -/
theorem message_retriesExhausted (tries : Nat) : (retriesExhausted tries).message =
    ascii "Transfer timed out after " ++ decimal tries ++ ascii " tries" := by
  refine message_of_zero_notMem ?_
  have hheading : 0 ∉ ascii "Transfer timed out after " := by decide
  have hunit : 0 ∉ ascii " tries" := by decide
  simp only [wording, List.mem_append, not_or]
  exact ⟨⟨hheading, zero_notMem_decimal tries⟩, hunit⟩

end Failure

end Tftp
