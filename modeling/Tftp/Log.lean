import Tftp.Bytes

/-!
# Log lines

A log line holds the time of day in coordinated universal time, a tag and a message (specification
§10.2). Reports go to the standard output in green, errors to the standard error stream in red;
debugging messages are not printed, as in a build without their channel.

* `Log.timestamp` is the time of day with microseconds. Seconds and microseconds are both cut
  towards the epoch, so that microseconds before it keep their minus sign.
* `Log.line` is the whole line and the stream it is printed to. A message ends at its first zero
  byte.

Printing a line ends nothing and fails never: the specification wants an error line that does not
terminate the process (§10.2), and a transfer is not to depend on its diagnostic channel (§7).

Out of scope: what the stream makes of the line. `Call.print` has no answer, and a terminal that
shows no colours is none of the program's business.
-/

namespace Tftp

/-- Where a text is printed. -/
inductive Stream where
  | output
  | error
  deriving DecidableEq, Repr

/-- What sort of message a log line holds. -/
inductive Level where
  | report
  | error
  | debug
  deriving DecidableEq, Repr

namespace Log

/-- A number filled up with zeros on the left to `width` characters, a minus sign included. -/
def padded (width : Nat) (n : Int) : Bytes :=
  if n < 0 then Bytes.ascii "-" ++ Bytes.paddedDecimal (width - 1) n.natAbs
  else Bytes.paddedDecimal width n.natAbs

/-- A moment in microseconds since the epoch as `[hh:mm:ss.uuuuuu]`. -/
def timestamp (microseconds : Int) : Bytes :=
  let seconds := (microseconds.tdiv 1000000) % 86400
  let colon := Bytes.ascii ":"
  Bytes.ascii "[" ++ padded 2 (seconds / 3600) ++ colon ++ padded 2 (seconds / 60 % 60) ++ colon
    ++ padded 2 (seconds % 60) ++ Bytes.ascii "." ++ padded 6 (microseconds.tmod 1000000)
    ++ Bytes.ascii "]"

/-- The colour, the tag and the stream of a message that is printed. -/
def style : Level → Option (Bytes × Bytes × Stream)
  | .report => some (Bytes.ascii "\x1b[32m", Bytes.ascii " [LOG] ", .output)
  | .error => some (Bytes.ascii "\x1b[31m", Bytes.ascii " [ERR] ", .error)
  | .debug => none

/-- The line for a message, which ends at its first zero byte, and where it is printed. -/
def line (level : Level) (microseconds : Int) (message : Bytes) : Option (Stream × Bytes) :=
  (style level).map fun (colour, tag, stream) =>
    (stream, colour ++ timestamp microseconds ++ tag ++ message.untilZero
      ++ Bytes.ascii "\x1b[0m\n")

end Log

end Tftp
