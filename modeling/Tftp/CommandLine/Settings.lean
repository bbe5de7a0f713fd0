import Tftp.CommandLine.Arguments
import Tftp.CommandLine.Number
import Tftp.Transfer

/-!
# Settings

The options of a command line, taken from left to right, make up the `Settings`: the last value of
an option counts, except that the requested options of the transfer add up, in their order
(specification §10.4). `Settings.transfer` turns them into a transfer, or says why they are refused.

* A direction, a file, the address of the peer and a positive port must be given.
* The number of attempts must not be 0 and the deadline must be positive, because otherwise a
  transfer might wait for ever (§10.4). The number of attempts has lost its sign before: −1 is a
  very large one.
* Both addresses must be dotted hosts. The port of the peer is checked as a number and kept as
  sixteen bits.

`parse` does both steps for a list of arguments. A `Refusal` is either a complaint about an argument
or one about what is missing, and the first of them that applies is the one that is told.

Out of scope: whether the values of requested options can be negotiated. They are handed to the
transfer as they are, and it refuses them, as it refuses those of a peer.
-/

namespace Tftp.CommandLine

/-- Which way the file goes. -/
inductive Role where
  | send
  | receive
  deriving DecidableEq, Repr

/-- The name of a role. -/
def Role.name : Role → Bytes
  | send => Bytes.ascii "send"
  | receive => Bytes.ascii "receive"

/-- What a command line asks for. -/
structure Settings where
  role : Option Role
  file : Bytes
  here : Bytes
  peer : Bytes
  port : Int
  requested : List OptionEntry
  config : Config
  /-- The file to compare with; empty if there is none. -/
  verify : Bytes
  deriving DecidableEq, Repr

namespace Settings

/-- The settings of an empty command line. -/
def default : Settings :=
  ⟨none, [], Bytes.ascii "0.0.0.0", [], 0, [], Config.default, []⟩

/-- Adds a requested option of the transfer. -/
def request (s : Settings) (kind : OptionKind) (value : Bytes) : Settings :=
  { s with requested := s.requested ++ [⟨kind, unsigned64 value⟩] }

/-- Takes one option of the command line into account. -/
def apply (s : Settings) (setting : Setting) : Settings :=
  let value := setting.value
  match setting.flag with
  | .send => { s with role := some .send }
  | .receive => { s with role := some .receive }
  | .file => { s with file := value }
  | .here => { s with here := value }
  | .peer => { s with peer := value }
  | .port => { s with port := signed32 value }
  | .blockSize => s.request .blockSize value
  | .transferSize => s.request .transferSize value
  | .timeout => s.request .timeout value
  | .retries =>
    { s with config := { s.config with maxRetries := (signed32 value % Nat.pow 2 32).toNat } }
  | .wait => { s with config := { s.config with timeout := signed32 value } }
  | .verify => { s with verify := value }

/-- The settings that options make up. -/
def ofOptions (options : List Setting) : Settings := options.foldl apply default

end Settings

/-- Why a command line is refused. -/
inductive Refusal where
  | complaint (complaint : Complaint)
  | missingArguments
  | notPositive
  | failure (failure : Failure)
  deriving DecidableEq, Repr

namespace Settings

/-- The transfer that settings ask for, and which way it goes. -/
def transfer (s : Settings) : Except Refusal (Role × Transfer) :=
  match s.role with
  | none => .error .missingArguments
  | some role =>
    if s.file = [] ∨ s.peer = [] ∨ s.port ≤ 0 then .error .missingArguments
    else if s.config.maxRetries = 0 ∨ s.config.timeout ≤ 0 then .error .notPositive
    else
      match Address.make s.here 0, Address.make s.peer s.port with
      | .error failure, _ => .error (.failure failure)
      | .ok _, .error failure => .error (.failure failure)
      | .ok here, .ok peer => .ok (role, ⟨s.config, here, peer, s.file, s.requested⟩)

end Settings

/-- The settings of a command line and the transfer they ask for. An argument ends at its first zero
byte. -/
def parse (arguments : List Bytes) : Except Refusal (Settings × Role × Transfer) :=
  match readArguments (arguments.map Bytes.untilZero) with
  | .error complaint => .error (.complaint complaint)
  | .ok options =>
    let settings := Settings.ofOptions options
    match settings.transfer with
    | .error refusal => .error refusal
    | .ok (role, transfer) => .ok (settings, role, transfer)

end Tftp.CommandLine
