import Tftp.Bytes

/-!
# Arguments

The command line is a list of options in any order (specification §10.4). A long option is written
`--name`, its value `--name=value` or as the next argument, and its name may be cut to any beginning
that no other option shares. Short options may be written together, the last of them with its value.
All other arguments are passed over, and `--` ends the options.

* `Flag` are the options, each with a long name and a letter, and all but the two directions with a
  value.
* `Complaint` says why an argument is not understood, in the words that a user of such tools
  expects.
* `lookup` finds an option by its name: a full name stands for its option even where another name
  begins with it, and anything shorter stands for the only option that begins with it.
* `readArguments` reads all arguments, or complains of the first one that is not understood.

The value of an option is the text that was given, of whatever kind. It is made a number or an
address later (`Tftp.CommandLine.Settings`), and an option that was given twice is there twice.

Out of scope: arguments with a zero byte, which no operating system hands over, and options that may
have a value or not, of which there is none here.
-/

namespace Tftp.CommandLine

/-! ## Options -/

/-- The options of the command line. -/
inductive Flag where
  | send
  | receive
  | file
  | here
  | peer
  | port
  | blockSize
  | transferSize
  | timeout
  | retries
  | wait
  | verify
  deriving DecidableEq, Repr

namespace Flag

/-- All options, in the order in which they are listed. -/
def all : List Flag :=
  [send, receive, file, here, peer, port, blockSize, transferSize, timeout, retries, wait, verify]

open Bytes in
/-- The long name of an option. -/
def long : Flag → Bytes
  | send => ascii "send"
  | receive => ascii "receive"
  | file => ascii "file"
  | here => ascii "local"
  | peer => ascii "remote"
  | port => ascii "port"
  | blockSize => ascii "blksize"
  | transferSize => ascii "tsize"
  | timeout => ascii "timeout"
  | retries => ascii "retries"
  | wait => ascii "wait"
  | verify => ascii "verify"

/-- The short name of an option. -/
def short : Flag → Char
  | send => 'S'
  | receive => 'R'
  | file => 'f'
  | here => 'l'
  | peer => 'r'
  | port => 'p'
  | blockSize => 'b'
  | transferSize => 's'
  | timeout => 't'
  | retries => 'n'
  | wait => 'w'
  | verify => 'v'

/-- Whether an option has a value. -/
def takesValue : Flag → Bool
  | send | receive => false
  | _ => true

/-- The option with a given short name. -/
def ofShort? (c : UInt8) : Option Flag := all.find? fun flag => Bytes.ofChars [flag.short] == [c]

end Flag

/-- An option of the command line with its value, which is empty if it has none. -/
structure Setting where
  flag : Flag
  value : Bytes
  deriving DecidableEq, Repr

/-! ## Complaints -/

/-- Why an argument is not understood. -/
inductive Complaint where
  | unrecognized (written : Bytes)
  | ambiguous (written : Bytes) (candidates : List Flag)
  | valueNotAllowed (flag : Flag)
  | valueRequired (flag : Flag)
  | invalidShort (c : UInt8)
  | shortValueRequired (c : UInt8)
  deriving DecidableEq, Repr

open Bytes in
/-- The wording of a complaint. -/
def Complaint.message : Complaint → Bytes
  | unrecognized written => ascii "unrecognized option '--" ++ written ++ ascii "'"
  | ambiguous written candidates =>
    ascii "option '--" ++ written ++ ascii "' is ambiguous; possibilities:"
      ++ candidates.flatMap fun flag => ascii " '--" ++ flag.long ++ ascii "'"
  | valueNotAllowed flag => ascii "option '--" ++ flag.long ++ ascii "' doesn't allow an argument"
  | valueRequired flag => ascii "option '--" ++ flag.long ++ ascii "' requires an argument"
  | invalidShort c => ascii "invalid option -- '" ++ [c] ++ ascii "'"
  | shortValueRequired c => ascii "option requires an argument -- '" ++ [c] ++ ascii "'"

/-! ## Reading -/

/-- The option that a possibly shortened long name stands for; `written` is what was written behind
the dashes, for a complaint. -/
def lookup (written name : Bytes) : Except Complaint Flag :=
  match Flag.all.find? fun flag => flag.long == name with
  | some flag => .ok flag
  | none =>
    match Flag.all.filter fun flag => name.isPrefixOf flag.long with
    | [] => .error (.unrecognized written)
    | [flag] => .ok flag
    | candidates => .error (.ambiguous written candidates)

/-- Reads a long option, without its dashes. Tells whether the next argument is its value. -/
def readLong (written : Bytes) (next : Option Bytes) : Except Complaint (List Setting × Bool) := do
  let flag ← lookup written (written.takeWhile (· != 61))
  match written.dropWhile (· != 61), flag.takesValue, next with
  | _ :: value, true, _ => return ([⟨flag, value⟩], false)
  | _ :: _, false, _ => throw (.valueNotAllowed flag)
  | [], false, _ => return ([⟨flag, []⟩], false)
  | [], true, some value => return ([⟨flag, value⟩], true)
  | [], true, none => throw (.valueRequired flag)

/-- Reads short options written together, without their dash. Tells whether the next argument is the
value of the last one. -/
def readShort (next : Option Bytes) : Bytes → Except Complaint (List Setting × Bool)
  | [] => return ([], false)
  | c :: others =>
    match Flag.ofShort? c with
    | none => throw (.invalidShort c)
    | some flag =>
      if flag.takesValue then
        match others, next with
        | _ :: _, _ => return ([⟨flag, others⟩], false)
        | [], some value => return ([⟨flag, value⟩], true)
        | [], none => throw (.shortValueRequired c)
      else do
        let (settings, usesNext) ← readShort next others
        return (⟨flag, []⟩ :: settings, usesNext)

/-- Reads one argument. Tells whether the next one belongs to it. -/
def readArgument (next : Option Bytes) : Bytes → Except Complaint (List Setting × Bool)
  | 45 :: 45 :: written => readLong written next
  | 45 :: c :: others => readShort next (c :: others)
  | _ => return ([], false)

/-- The argument that ends the options. -/
def endOfOptions : Bytes := Bytes.ascii "--"

/-- Reads all arguments. -/
def readArguments : List Bytes → Except Complaint (List Setting)
  | [] => return []
  | argument :: rest =>
    if argument = endOfOptions then return []
    else
      match readArgument rest.head? argument, rest with
      | .error complaint, _ => throw complaint
      | .ok (settings, true), _ :: rest => do return settings ++ (← readArguments rest)
      | .ok (settings, _), rest => do return settings ++ (← readArguments rest)

end Tftp.CommandLine
