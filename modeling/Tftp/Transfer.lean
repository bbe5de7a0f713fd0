import Tftp.Endpoint
import Tftp.Seconds

/-!
# Whole transfers

A `Transfer` serves one file to one peer whose request was accepted: `Transfer.send` reads the file
and sends it, `Transfer.receive` creates it from what the peer sends (`run_send` and `run_receive`,
specification §10.5). Either way the socket is closed before the `Result` is given.

* The configuration is checked first, and nothing is touched if it is refused (§10.4).
* A sender opens its file before it negotiates, because the peer may ask for the length; a receiver
  negotiates first, so that refused options leave an existing file alone (§10.5).
* If the file cannot be opened, the peer is told, over a socket made for that purpose (§10.3).
  Failing to tell it is logged and changes nothing else.
* Every failure is logged, and so is a success, with the bytes, the time and the misses (§10.2).

A `Result` holds the cause of the failure, or none, and what was moved and missed until then.
Whether it is a success, its kind and its message are read off the cause, so they cannot disagree
(§7 asks for a structured result).

The socket of the report is bounded by the timeout of the configuration, not by a negotiated one:
when a sender cannot open its file it has not negotiated yet.

Out of scope: the listener that accepts the request, and whether the path may be opened, which
nobody checks (§1 and §6).
-/

namespace Tftp

/-! ## Configuration and results -/

/-- What holds for every transfer of a program. -/
structure Config where
  /-- How many attempts in a row may miss. -/
  maxRetries : Nat
  /-- The deadline of each wait, in milliseconds, unless the peer negotiates one. -/
  timeout : Int
  deriving DecidableEq, Repr

namespace Config

/-- Six attempts of five seconds. -/
def default : Config := ⟨6, 5000⟩

/-- Refuses a configuration with which a transfer could wait for ever. -/
def check (config : Config) : Except Failure Unit :=
  if config.maxRetries = 0 then .error .noRetries
  else if config.timeout ≤ 0 then .error (.invalidDeadline config.timeout)
  else .ok ()

end Config

/-- How a transfer ended. -/
structure Result where
  /-- What it failed for; `none` if it succeeded. -/
  failure? : Option Failure
  /-- The number of bytes acknowledged or stored. -/
  transferred : Nat
  /-- The number of attempts that missed, modulo 2³². -/
  misses : UInt32
  deriving DecidableEq, Repr

namespace Result

/-- Whether the transfer succeeded. -/
def ok (r : Result) : Bool := r.failure?.isNone

/-- The kind of failure, if any. -/
def kind (r : Result) : ErrorKind := r.failure?.elim .none Failure.kind

/-- The message of the failure; empty after a success. -/
def message (r : Result) : Bytes := r.failure?.elim [] Failure.message

end Result

/-- One file to serve to one peer. -/
structure Transfer where
  config : Config
  /-- The address to bind to; port 0 stands for any free port. -/
  here : Address
  peer : Address
  file : Bytes
  /-- The options of the accepted request. -/
  requested : List OptionEntry
  deriving DecidableEq, Repr

namespace Transfer

open Program Bytes

/-! ## Steps of both directions -/

/-- Tells the peer that the file cannot be opened. -/
def reportFileError (t : Transfer) (code : ErrorCode) (text : Bytes) : Program Unit := do
  let complain (failure : Failure) : Program Unit :=
    log .error (ascii "Worker: Could not report file error to " ++ t.peer.text ++ ascii ": "
      ++ failure.message)
  match ← Endpoint.ready t.here t.peer t.config.timeout with
  | .error failure => complain failure
  | .ok endpoint =>
    let (sent, _) ← endpoint.send (.error code text)
    Endpoint.close
    match sent with
    | .error failure => complain failure
    | .ok () => return ()

/-- Logs a failure and makes a result of it. -/
def failed (failure : Failure) (transferred : Nat) (misses : UInt32) : Program Result := do
  log .error failure.message
  return ⟨some failure, transferred, misses⟩

/-- Logs a success and makes a result of it; `start` is when the transfer began. -/
def succeeded (t : Transfer) (verb preposition : Bytes) (start : Int) (transferred : Nat)
    (misses : UInt32) : Program Result := do
  let now ← ask .readClock
  log .report (verb ++ ascii " " ++ t.file ++ ascii " " ++ preposition ++ ascii " " ++ t.peer.text
    ++ ascii ": " ++ decimal transferred ++ ascii " Bytes in " ++ Seconds.text (now - start)
    ++ ascii " s, " ++ decimal misses.toNat ++ ascii " missed")
  return ⟨none, transferred, misses⟩

/-! ## Sending -/

/-- What the peer is told when a file cannot be opened for reading. -/
def openReport (reason : SystemError) : ErrorCode × Bytes :=
  if reason = .permissionDenied then (.accessViolation, ascii "Access violation")
  else (.fileNotFound, ascii "File not found")

/-- Opens the file, negotiates, and makes the socket ready. -/
def prepareSend (t : Transfer) : Program (Except Failure (Direction × Parameters × Endpoint)) := do
  match t.config.check with
  | .error failure => return .error failure
  | .ok () =>
    match ← ask (.openForReading t.file.untilZero) with
    | .error reason =>
      let (code, text) := openReport reason
      t.reportFileError code text
      return .error (.cannotOpen t.file reason)
    | .ok () =>
      match ← ask .fileSize with
      | .error reason => return .error (.cannotMeasure t.file reason)
      | .ok size =>
        let direction := Direction.send size
        match negotiate t.requested direction t.config.timeout with
        | .error failure => return .error failure
        | .ok parameters =>
          match ← Endpoint.ready t.here t.peer parameters.timeout with
          | .error failure => return .error failure
          | .ok endpoint => return .ok (direction, parameters, endpoint)

/-- Sends the file over a ready socket, which is closed in the end. -/
def serveSend (t : Transfer) (start : Int) (direction : Direction) (parameters : Parameters)
    (endpoint : Endpoint) : Program Result := do
  match ← endpoint.acceptRequest parameters.acknowledged direction with
  | (.error failure, _) =>
    Endpoint.close
    failed failure 0 0
  | (.ok _, endpoint) =>
    let s ← runSender (Sender.new parameters.blockSize t.config.maxRetries endpoint.traffic).confirm
    match s.outcome? with
    | some (.error failure) =>
      Endpoint.close
      failed failure s.transferred s.misses
    | _ =>
      let s ← runSender s.sendFile
      match s.outcome? with
      | some (.error failure) =>
        Endpoint.close
        failed failure s.transferred s.misses
      | _ =>
        let result ← t.succeeded (ascii "Sent") (ascii "to") start s.transferred s.misses
        Endpoint.close
        return result

/-- Sends the file to the peer. -/
def send (t : Transfer) : Program Result := do
  let start ← ask .readClock
  match ← t.prepareSend with
  | .error failure => failed failure 0 0
  | .ok (direction, parameters, endpoint) => t.serveSend start direction parameters endpoint

/-! ## Receiving -/

/-- Negotiates, creates the file, and makes the socket ready. -/
def prepareReceive (t : Transfer) : Program (Except Failure (Parameters × Endpoint)) := do
  match t.config.check with
  | .error failure => return .error failure
  | .ok () =>
    match negotiate t.requested .receive t.config.timeout with
    | .error failure => return .error failure
    | .ok parameters =>
      match ← ask (.openForWriting t.file.untilZero) with
      | .error reason =>
        t.reportFileError .accessViolation (ascii "Access violation")
        return .error (.cannotCreate t.file reason)
      | .ok () =>
        match ← Endpoint.ready t.here t.peer parameters.timeout with
        | .error failure => return .error failure
        | .ok endpoint => return .ok (parameters, endpoint)

/-- Receives the file over a ready socket, which is closed in the end. -/
def serveReceive (t : Transfer) (start : Int) (parameters : Parameters) (endpoint : Endpoint) :
    Program Result := do
  match ← endpoint.acceptRequest parameters.acknowledged .receive with
  | (.error failure, _) =>
    Endpoint.close
    failed failure 0 0
  | (.ok _, endpoint) =>
    let r ← runReceiver
      (Receiver.new parameters.blockSize t.config.maxRetries endpoint.traffic).receiveFile
    match r.outcome? with
    | some (.error failure) =>
      Endpoint.close
      failed failure r.transferred r.misses
    | _ =>
      let result ← t.succeeded (ascii "Received") (ascii "from") start r.transferred r.misses
      Endpoint.close
      return result

/-- Receives the file from the peer. -/
def receive (t : Transfer) : Program Result := do
  let start ← ask .readClock
  match ← t.prepareReceive with
  | .error failure => failed failure 0 0
  | .ok (parameters, endpoint) => t.serveReceive start parameters endpoint

end Transfer

end Tftp
