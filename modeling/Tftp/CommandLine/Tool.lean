import Tftp.CommandLine.Settings

/-!
# The tool

`CommandLine.run` serves one transfer as a command line asks for, and may then compare the file with
a reference copy (specification §10.4). Its result is the exit status: 0 if everything went well,
otherwise 1.

* A command line that is refused is told why, with the usage where that helps, and nothing else
  happens.
* The tool announces the transfer, runs it, and says at its end how it failed, if it did. The
  transfer has logged the cause by then. A transfer that is started and joined at once is a direct
  run (`Tftp.Proofs.Job`), so it is run directly here.
* A reference copy is looked at only after a transfer that succeeded.

`CommandLine.usage` and the other texts are printed as they are; only log lines have a time and a
tag.

Out of scope: the environment of the process. The arguments and the answers to the calls are all
that the tool goes by, so a run is determined by them; `Tftp.Proofs.CommandLine.Status` says what
its status means, and `Tftp.Main` makes the calls on a real system.
-/

namespace Tftp.CommandLine

open Program Bytes

/-- How the tool is to be used. -/
def usage (tool : Bytes) : Bytes :=
  ascii "Usage: " ++ tool
    ++ ascii " (--send | --receive) --file <file> --remote <ip> --port <port>"
    ++ ascii " [--local <ip>] [--blksize <n>] [--tsize <n>] [--timeout <s>] [--retries <n>]"
    ++ ascii " [--wait <ms>] [--verify <file>]\n"

/-- Tells why a command line is refused. -/
def refuse (tool : Bytes) (refusal : Refusal) : Program Unit :=
  let print (text : Bytes) : Program Unit := ask (.print .error text)
  match refusal with
  | .complaint complaint => do
    print (tool ++ ascii ": " ++ complaint.message ++ ascii "\n")
    print (usage tool)
  | .missingArguments => do
    print (ascii "Error: Missing required arguments.\n")
    print (usage tool)
  | .notPositive => print (ascii "Error: --retries and --wait must be positive.\n")
  | .failure failure => log .error failure.message

/-- Runs a transfer one way or the other. -/
def serve (role : Role) (transfer : Transfer) : Program Result :=
  match role with
  | .send => transfer.send
  | .receive => transfer.receive

/-- Compares a transferred file with a reference copy, if there is one. -/
def compare (file reference : Bytes) : Program Nat := do
  if reference = [] then return 0
  if ← ask (.compareFiles file reference) then
    log .report (ascii "Worker: " ++ file ++ ascii " matches " ++ reference)
    return 0
  else
    log .error (ascii "Worker: " ++ file ++ ascii " differs from " ++ reference)
    return 1

/-- Does what a command line asks for. -/
def run (tool : Bytes) (arguments : List Bytes) : Program Nat := do
  match parse arguments with
  | .error refusal =>
    refuse tool refusal
    return 1
  | .ok (settings, role, transfer) =>
    log .report (ascii "Worker: " ++ role.name ++ ascii " " ++ transfer.file ++ ascii " with "
      ++ transfer.peer.text)
    let result ← serve role transfer
    if result.ok then compare transfer.file settings.verify
    else
      log .error (ascii "Worker: " ++ result.kind.name ++ ascii " after "
        ++ decimal result.transferred ++ ascii " Bytes")
      return 1

end Tftp.CommandLine
