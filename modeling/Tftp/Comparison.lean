import Tftp.Bytes

/-!
# Comparing files

Two files match if both exist and hold the same bytes (`compare_files`, specification §10.2). The
tool asks for this after a transfer that succeeded, if it was given a reference copy (§10.4): the
call is `Call.compareFiles`, and `sameContent` is what a surrounding system answers it with, the
real one in `Tftp.Main` and the one in memory in `Tftp.Simulation.Testbed`.

Out of scope: reading the files. A file that cannot be read counts as one that does not exist, and
no theorem about the tool looks behind the answer.
-/

namespace Tftp

/-- Whether two files, given by their contents, exist and are equal. -/
def sameContent : Option Bytes → Option Bytes → Bool
  | some a, some b => a == b
  | _, _ => false

end Tftp
