import Tftp.Negotiation
import Tftp.Program

/-!
# Endpoints

An endpoint is a bound datagram socket that carries whole packets, with its peer once it is
connected and the counts of its traffic (specification §4.3 and §6). Each operation makes the calls
it needs and gives the endpoint as it is afterwards, also if it failed.

* Nothing is sent before the endpoint is connected.
* An attempt to send counts even if it fails; a datagram counts however it is received.
* `Endpoint.ready` makes a socket for a transfer: it creates and binds it, connects it to the peer
  and bounds both its waits. If one of these steps fails the socket is closed again.
* `Endpoint.acceptRequest` is the answer to the request that began the transfer, `accept` in §4.4.

The deadlines are set once, from the negotiated timeout, before anything is sent (§9, §10.4 and
§10.5); §6 still has a fixed deadline of five seconds. A deadline is handed to the system as seconds
and microseconds, and both keep the sign of the whole.

An operation does not end the program that uses it. It gives a failure, and whoever asked for the
operation decides.

Out of scope: sending to more than one peer, and closing a socket twice. A transfer has one socket
for its whole life (§3), and `Tftp.Proofs.Transfer.Socket` shows when it closes it.
-/

namespace Tftp

/-- A bound socket. -/
structure Endpoint where
  /-- Where the socket is bound. -/
  address : Address
  /-- The peer of a connected socket. -/
  peer : Option Address
  traffic : Traffic
  deriving DecidableEq, Repr

namespace Endpoint

open Program

/-- Makes a call that may fail, and names the step for the report of a failure. -/
def attempt (step : SocketStep) (p : Program (Except SystemError α)) :
    Program (Except Failure α) := do
  match ← p with
  | .ok a => return .ok a
  | .error reason => return .error (.socketFailed step reason)

/-- Closes the socket. -/
def close : Program Unit := ask .closeSocket

/-- A socket bound to an address; port 0 stands for any free port. -/
def create (address : Address) : Program (Except Failure Endpoint) := do
  match ← attempt .create (ask .createSocket) with
  | .error failure => return .error failure
  | .ok () =>
    match ← attempt .bind (ask (.bindSocket address)) with
    | .error failure =>
      close
      return .error failure
    | .ok bound => return .ok ⟨bound, none, .zero⟩

/-- Chooses the peer. -/
def connect (endpoint : Endpoint) (peer : Address) : Program (Except Failure Unit × Endpoint) := do
  match ← attempt .connect (ask (.connectSocket peer)) with
  | .error failure => return (.error failure, endpoint)
  | .ok () => return (.ok (), { endpoint with peer := some peer })

/-- Bounds every later wait, in both directions, by a number of milliseconds. -/
def setTimeout (milliseconds : Int) : Program (Except Failure Unit) := do
  let deadline := TimeSpan.ofMilliseconds milliseconds
  match ← attempt .readDeadline (ask (.setReadDeadline deadline)) with
  | .error failure => return .error failure
  | .ok () => attempt .writeDeadline (ask (.setWriteDeadline deadline))

/-- Sends a packet to the peer. -/
def send (endpoint : Endpoint) (packet : Packet) : Program (Except Failure Unit × Endpoint) := do
  match endpoint.peer with
  | none => return (.error .notConnected, endpoint)
  | some _ =>
    let sent ← attempt .send (ask (.sendDatagram packet.encode))
    return (sent, { endpoint with traffic := endpoint.traffic.countSent })

/-- Waits for a datagram of at most `room` bytes. -/
def receive (endpoint : Endpoint) (room : Nat) : Program (Arrival × Endpoint) := do
  let answer ← ask (.receiveDatagram room)
  return (Arrival.ofAnswer room answer,
    { endpoint with traffic := endpoint.traffic.countAnswer answer })

/-- Waits for any packet. -/
def receivePacket (endpoint : Endpoint) : Program (Arrival × Endpoint) :=
  endpoint.receive datagramRoom

/-- Waits for a packet that carries at most `length` bytes behind its header. -/
def receiveData (endpoint : Endpoint) (length : Nat) : Program (Arrival × Endpoint) :=
  endpoint.receive (headerLength + length)

/-- A socket bound to `here`, connected to `peer` and with every wait bounded. A socket that cannot
be made ready is closed again. -/
def ready (here peer : Address) (milliseconds : Int) : Program (Except Failure Endpoint) := do
  match ← create here with
  | .error failure => return .error failure
  | .ok endpoint =>
    match ← endpoint.connect peer with
    | (.error failure, _) =>
      close
      return .error failure
    | (.ok (), endpoint) =>
      match ← setTimeout milliseconds with
      | .error failure =>
        close
        return .error failure
      | .ok () => return .ok endpoint

/-- Answers the request that began the transfer: the acknowledged options if there are any,
otherwise acknowledgement 0 if the peer is to send and nothing if the peer waits for data. Tells
whether options were acknowledged. -/
def acceptRequest (endpoint : Endpoint) (acknowledged : List OptionEntry) (direction : Direction) :
    Program (Except Failure Bool × Endpoint) := do
  match acknowledged, direction with
  | [], .send _ => return (.ok false, endpoint)
  | [], .receive =>
    let (sent, endpoint) ← endpoint.send (.ack 0)
    return (sent.map fun () => false, endpoint)
  | options, _ =>
    let (sent, endpoint) ← endpoint.send (.optionAck options)
    return (sent.map fun () => true, endpoint)

end Endpoint

end Tftp
