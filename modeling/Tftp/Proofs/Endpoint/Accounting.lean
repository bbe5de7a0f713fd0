import Tftp.Proofs.Calls

/-!
# The account of an endpoint

An endpoint may be used in any order, and its uses may fail one by one: it is connected, given a
deadline, made to send a packet or to wait for one. What it says of itself is read off the calls
that were made to the system, whichever of them failed.

* `Operation` is a use of an endpoint and `perform` what it does; `Response` is what the caller is
  told.
* `Used` relates two states of an endpoint by the uses in between.
* `Accounted` says that an endpoint is true to the calls that were made.

Results:
* `performs_of_does`: all that one use can do.
* `accounted_of_used`: an endpoint is true to its calls, because every use keeps it so.
* **`used_accounted`**: the same with what the next use does, also the first one before a
  connection.

The message layer is used by a transfer in one order only (specification §4.3, §10.5). Here it may
be used in any, as a library is: the counts and the peer are right after every sequence of uses, and
an endpoint that was never connected has sent nothing. Counts go on modulo 2³².

Out of scope: creating and closing the socket. An endpoint is what there is in between, and
`Tftp.Proofs.Transfer.Socket` has its beginning and its end.
-/

namespace Tftp

/-- The peer that the event connects the socket to. -/
def Event.connected? : Event → Option Address
  | ⟨.connectSocket peer, .ok ()⟩ => some peer
  | _ => none

/-- The peers that the socket was connected to, in order. -/
def connections (es : List Event) : List Address := es.filterMap Event.connected?

theorem connections_append (es fs : List Event) :
    connections (es ++ fs) = connections es ++ connections fs :=
  List.filterMap_append

/-- The event neither connects the socket nor moves a datagram. -/
structure Event.KeepsAccount (e : Event) : Prop where
  connected? : e.connected? = none
  handed? : e.handed? = none
  datagram? : e.datagram? = none

namespace Endpoint

open Program

/-! ## Uses -/

/-- A use of an endpoint. -/
inductive Operation where
  | connect (peer : Address)
  | setTimeout (milliseconds : Int)
  | send (packet : Packet)
  | receivePacket
  | receiveData (length : Nat)

/-- The room for the datagram that an operation waits for, if it waits for one. -/
def Operation.room? : Operation → Option Nat
  | receivePacket => some datagramRoom
  | receiveData length => some (headerLength + length)
  | _ => none

/-- What the caller of an operation is told. -/
inductive Response where
  | outcome (result : Except Failure Unit)
  | arrival (arrival : Arrival)

/-- Uses an endpoint. -/
def perform (endpoint : Endpoint) : Operation → Program (Response × Endpoint)
  | .connect peer => do
    let (result, endpoint) ← endpoint.connect peer
    return (.outcome result, endpoint)
  | .setTimeout milliseconds => do
    return (.outcome (← setTimeout milliseconds), endpoint)
  | .send packet => do
    let (result, endpoint) ← endpoint.send packet
    return (.outcome result, endpoint)
  | .receivePacket => do
    let (arrival, endpoint) ← endpoint.receivePacket
    return (.arrival arrival, endpoint)
  | .receiveData length => do
    let (arrival, endpoint) ← endpoint.receiveData length
    return (.arrival arrival, endpoint)

/-- A use that is over: the calls it made, and what the caller was told. -/
structure Use where
  operation : Operation
  events : List Event
  response : Response

/-- The calls of uses, one after the other. -/
def calls (uses : List Use) : List Event := uses.flatMap Use.events

/-- `Used start uses endpoint`: the uses, one after the other, make `endpoint` of `start`. -/
inductive Used : Endpoint → List Use → Endpoint → Prop where
  | nil (endpoint : Endpoint) : Used endpoint [] endpoint
  | cons {start next endpoint : Endpoint} {operation : Operation} {es : List Event}
      {response : Response} {uses : List Use}
      (does : (start.perform operation).Does es (some (response, next)))
      (rest : Used next uses endpoint) : Used start (⟨operation, es, response⟩ :: uses) endpoint

/-! ## What one use does -/

/-- `Performs endpoint operation es response after`: all that the operation can do. -/
inductive Performs (endpoint : Endpoint) :
    Operation → List Event → Response → Endpoint → Prop where
  | connected (peer : Address) :
      Performs endpoint (.connect peer) [⟨.connectSocket peer, .ok ()⟩] (.outcome (.ok ()))
        { endpoint with peer := some peer }
  | unconnected (peer : Address) (reason : SystemError) :
      Performs endpoint (.connect peer) [⟨.connectSocket peer, .error reason⟩]
        (.outcome (.error (.socketFailed .connect reason))) endpoint
  | timed (milliseconds : Int) {es : List Event} (result : Except Failure Unit)
      (keeps : ∀ e ∈ es, e.KeepsAccount) :
      Performs endpoint (.setTimeout milliseconds) es (.outcome result) endpoint
  | unsent (packet : Packet) (alone : endpoint.peer = none) :
      Performs endpoint (.send packet) [] (.outcome (.error .notConnected)) endpoint
  | handed (packet : Packet) (answer : Except SystemError Unit) (joined : endpoint.peer.isSome) :
      Performs endpoint (.send packet) [⟨.sendDatagram packet.encode, answer⟩]
        (.outcome (answer.mapError (.socketFailed .send)))
        { endpoint with traffic := endpoint.traffic.countSent }
  | waited {operation : Operation} {room : Nat} (waits : operation.room? = some room)
      (answer : Except SystemError Datagram) :
      Performs endpoint operation [⟨.receiveDatagram room, answer⟩]
        (.arrival (.ofAnswer room answer))
        { endpoint with traffic := endpoint.traffic.countAnswer answer }

variable {endpoint start after : Endpoint} {operation : Operation} {es : List Event}
  {response : Response} {uses : List Use}

theorem performs_connect {peer : Address}
    (h : (endpoint.perform (.connect peer)).Does es (some (response, after))) :
    Performs endpoint (.connect peer) es response after := by
  obtain ⟨first, rest, ⟨result, next⟩, rfl, hconnect, hrest⟩ := does_bind_some h
  obtain ⟨rfl, hresponse⟩ := does_pure hrest
  cases hresponse
  obtain ⟨call, tail, answer, rfl, hattempt, hlast⟩ := does_bind_some hconnect
  obtain ⟨given, hask, rfl⟩ := does_attempt_some hattempt
  obtain rfl := does_ask_some hask
  cases given with
  | ok =>
    obtain ⟨rfl, hresult⟩ := does_pure hlast
    cases hresult
    exact .connected peer
  | error reason =>
    obtain ⟨rfl, hresult⟩ := does_pure hlast
    cases hresult
    exact .unconnected peer reason

theorem performs_setTimeout {milliseconds : Int}
    (h : (endpoint.perform (.setTimeout milliseconds)).Does es (some (response, after))) :
    Performs endpoint (.setTimeout milliseconds) es response after := by
  obtain ⟨first, rest, result, rfl, htimeout, hrest⟩ := does_bind_some h
  obtain ⟨rfl, hresponse⟩ := does_pure hrest
  cases hresponse
  rw [List.append_nil]
  exact .timed milliseconds result (makes_setTimeout (fun _ => ⟨rfl, rfl, rfl⟩)
    (fun _ => ⟨rfl, rfl, rfl⟩) htimeout)

theorem performs_send {packet : Packet}
    (h : (endpoint.perform (.send packet)).Does es (some (response, after))) :
    Performs endpoint (.send packet) es response after := by
  obtain ⟨first, rest, ⟨result, next⟩, rfl, hsend, hrest⟩ := does_bind_some h
  obtain ⟨rfl, hresponse⟩ := does_pure hrest
  cases hresponse
  rw [List.append_nil]
  cases hpeer : endpoint.peer with
  | none =>
    simp only [send, hpeer] at hsend
    obtain ⟨rfl, hresult⟩ := does_pure hsend
    cases hresult
    exact .unsent packet hpeer
  | some peer =>
    rcases does_send hpeer hsend with ⟨-, hresult⟩ | ⟨answer, rfl, hresult⟩
    · cases hresult
    · cases hresult
      exact .handed packet answer (by simp [hpeer])

theorem performs_receive {room : Nat} (waits : operation.room? = some room)
    (h : (endpoint.receive room >>= fun received =>
      pure (Response.arrival received.1, received.2)).Does es (some (response, after))) :
    Performs endpoint operation es response after := by
  obtain ⟨first, rest, ⟨arrival, next⟩, rfl, hreceive, hrest⟩ := does_bind_some h
  obtain ⟨rfl, hresponse⟩ := does_pure hrest
  cases hresponse
  obtain ⟨answer, rfl, rfl, rfl⟩ := does_receive_iff.mp hreceive
  exact .waited waits answer

/-- **All that one use can do.** -/
theorem performs_of_does (h : (endpoint.perform operation).Does es (some (response, after))) :
    Performs endpoint operation es response after := by
  cases operation with
  | connect peer => exact performs_connect h
  | setTimeout milliseconds => exact performs_setTimeout h
  | send packet => exact performs_send h
  | receivePacket => exact performs_receive rfl h
  | receiveData length => exact performs_receive rfl h

theorem within_perform : (endpoint.perform operation).Within 2 0 := by
  cases operation with
  | connect peer =>
    exact (within_bind (n := 0) (within_connect _ _) fun _ => within_pure _).mono (by decide)
  | setTimeout milliseconds =>
    exact within_bind (n := 0) (within_setTimeout _) fun _ => within_pure _
  | send packet =>
    exact (within_bind (n := 0) (within_send _ _) fun _ => within_pure _).mono (by decide)
  | receivePacket | receiveData length =>
    exact (within_bind (n := 0) (within_bind (n := 0) (within_ask _) fun _ => within_pure _)
      fun _ => within_pure _).mono (by decide)

/-! ## The account -/

/-- Nothing is handed to the socket before it is connected. -/
def Quiet (es : List Event) : Prop :=
  ∀ before e later, es = before ++ e :: later → e.handed?.isSome → connections before ≠ []

theorem Quiet.snoc {e : Event} (h : Quiet es) (last : e.handed?.isSome → connections es ≠ []) :
    Quiet (es ++ [e]) := by
  intro before d later hsplit hhands
  rcases List.eq_nil_or_concat' later with rfl | ⟨later, final, rfl⟩
  · obtain ⟨rfl, hlast⟩ := List.append_inj' hsplit rfl
    cases hlast
    exact last hhands
  · rw [← List.cons_append, ← List.append_assoc] at hsplit
    exact h before d later (List.append_inj' hsplit rfl).1 hhands

/-- An endpoint is true to the calls `es` that were made to the system. -/
structure Accounted (es : List Event) (endpoint : Endpoint) : Prop where
  /-- The peer is the last one that the socket was connected to, and nobody before that. -/
  peer : endpoint.peer = (connections es).getLast?
  /-- All datagrams handed to the socket are counted, also those it refused. -/
  sent : endpoint.traffic.sent = UInt32.ofNat (handed es).length
  /-- All datagrams obtained from the socket are counted, whatever is in them. -/
  received : endpoint.traffic.received = UInt32.ofNat (arrivals es).length
  quiet : Quiet es

namespace Accounted

theorem new (bound : Address) : Accounted [] ⟨bound, none, .zero⟩ :=
  ⟨rfl, rfl, rfl, by simp [Quiet]⟩

/-- What an event adds to the account. -/
theorem snoc {e : Event} (h : Accounted es endpoint)
    (peer : after.peer = e.connected?.or endpoint.peer)
    (sent : after.traffic.sent = endpoint.traffic.sent + UInt32.ofNat e.handed?.toList.length)
    (received : after.traffic.received =
      endpoint.traffic.received + UInt32.ofNat e.datagram?.toList.length)
    (joined : e.handed?.isSome → endpoint.peer.isSome) : Accounted (es ++ [e]) after := by
  refine ⟨?_, ?_, ?_, h.quiet.snoc fun hhands => ?_⟩
  · rw [peer, h.peer, connections_append]
    cases hconnected : e.connected? <;> simp [connections, hconnected]
  · rw [sent, h.sent, handed_append, handed_singleton, List.length_append, UInt32.ofNat_add]
  · rw [received, h.received, arrivals_append, arrivals_singleton, List.length_append,
      UInt32.ofNat_add]
  · have hpeer := joined hhands
    rw [h.peer] at hpeer
    simpa using hpeer

theorem keep (h : Accounted es endpoint) {events : List Event}
    (keeps : ∀ e ∈ events, e.KeepsAccount) : Accounted (es ++ events) endpoint := by
  induction events using List.reverseRecOn with
  | nil => rwa [List.append_nil]
  | append_singleton events e ih =>
    obtain ⟨hevents, he⟩ := List.forall_mem_append.mp keeps
    obtain ⟨hconnected, hhanded, hdatagram⟩ := he e (List.mem_singleton_self e)
    rw [← List.append_assoc]
    exact (ih hevents).snoc (by simp [hconnected]) (by simp [hhanded]) (by simp [hdatagram])
      (by simp [hhanded])

/-- **Every use keeps an endpoint true** to its calls. -/
theorem performs (h : Accounted es endpoint) {events : List Event}
    (performs : Performs endpoint operation events response after) :
    Accounted (es ++ events) after := by
  cases performs with
  | connected peer => exact h.snoc rfl (by simp [Event.handed?]) (by simp [Event.datagram?]) nofun
  | unconnected peer reason =>
    exact h.snoc rfl (by simp [Event.handed?]) (by simp [Event.datagram?]) nofun
  | timed milliseconds result keeps => exact h.keep keeps
  | unsent packet alone => rwa [List.append_nil]
  | handed packet answer joined =>
    exact h.snoc rfl rfl (by simp [Event.datagram?, Traffic.countSent]) fun _ => joined
  | waited waits answer =>
    cases answer with
    | ok datagram => exact h.snoc rfl (by simp [Event.handed?, Traffic.countAnswer]) rfl nofun
    | error reason =>
      exact h.snoc rfl (by simp [Event.handed?, Traffic.countAnswer])
        (by simp [Event.datagram?, Traffic.countAnswer]) nofun

end Accounted

/-- **An endpoint is true to its calls**, however it was used. -/
theorem accounted_of_used (h : Used start uses endpoint) {before : List Event}
    (opened : Accounted before start) : Accounted (before ++ calls uses) endpoint := by
  induction h generalizing before with
  | nil => rwa [calls, List.flatMap_nil, List.append_nil]
  | cons does _ ih =>
    rw [calls, List.flatMap_cons, ← List.append_assoc]
    exact ih (opened.performs (performs_of_does does))

/-- How the next use of an endpoint goes, after the calls `es`. -/
structure Proceeds (es : List Event) (endpoint : Endpoint) : Prop where
  /-- Every use comes to an end, whatever its calls are answered. -/
  returns : ∀ surroundings operation, ∃ events response after, Follows surroundings events ∧
    (endpoint.perform operation).Does events (some (response, after))
  /-- A connection that fails changes nothing. -/
  unconnected : ∀ ⦃peer events failure after⦄,
    (endpoint.perform (.connect peer)).Does events (some (.outcome (.error failure), after)) →
      after = endpoint
  /-- Without a connection a packet is not handed to the socket: sending fails and changes
  nothing. -/
  alone : connections es = [] → ∀ ⦃packet events response after⦄,
    (endpoint.perform (.send packet)).Does events (some (response, after)) →
      events = [] ∧ after = endpoint ∧
        ∃ failure, failure.kind = .socket ∧ response = .outcome (.error failure)
  /-- With a connection it is, by one call. -/
  joined : connections es ≠ [] → ∀ ⦃packet events response after⦄,
    (endpoint.perform (.send packet)).Does events (some (response, after)) →
      ∃ answer, events = [⟨.sendDatagram packet.encode, answer⟩]
  /-- A wait is one call. -/
  waits : ∀ ⦃operation room⦄, operation.room? = some room → ∀ ⦃events response after⦄,
    (endpoint.perform operation).Does events (some (response, after)) →
      ∃ answer, events = [⟨.receiveDatagram room, answer⟩] ∧
        response = .arrival (.ofAnswer room answer)

theorem Accounted.proceeds (h : Accounted es endpoint) : Proceeds es endpoint := by
  refine ⟨fun surroundings operation => ?_, ?_, fun hnone => ?_, fun hsome => ?_, ?_⟩
  · have hbounded : ∀ events r, Follows surroundings events →
        (endpoint.perform operation).Does events r → events.length ≤ 2 := by
      intro events r _ hdoes
      simpa [allowance] using within_perform hdoes
    obtain ⟨events, ⟨response, after⟩, hfollows, hdoes⟩ := returns_of_bounded hbounded
    exact ⟨events, response, after, hfollows, hdoes⟩
  · intro peer events failure after hdoes
    generalize hresponse : Response.outcome (.error failure) = response at hdoes
    cases performs_of_does hdoes with
    | connected => cases hresponse
    | unconnected => rfl
    | waited waits => cases waits
  · intro packet events response after hdoes
    have hpeer : endpoint.peer = none := by simp [h.peer, hnone]
    cases performs_of_does hdoes with
    | unsent => exact ⟨rfl, rfl, .notConnected, rfl, rfl⟩
    | handed _ _ joined => simp [hpeer] at joined
    | waited waits => cases waits
  · intro packet events response after hdoes
    cases performs_of_does hdoes with
    | unsent _ alone =>
      rw [h.peer, List.getLast?_eq_none_iff] at alone
      exact absurd alone hsome
    | handed _ answer => exact ⟨answer, rfl⟩
    | waited waits => cases waits
  · intro operation room hroom events response after hdoes
    cases performs_of_does hdoes with
    | waited waits answer =>
      rw [waits] at hroom
      cases hroom
      exact ⟨answer, rfl, rfl⟩
    | _ => cases hroom

/-- **The account of an endpoint.** However an endpoint was used since it was created, and whichever
calls failed:

* its peer is the last one that it was connected to, and `0.0.0.0:0` before that;
* nothing was handed to the socket before it was connected;
* its counts are the numbers of datagrams handed to the socket and obtained from it, modulo 2³²;
* its next use goes on from there as `Proceeds` says. -/
theorem used_accounted {here : Address} {opening : List Event}
    (created : (create here).Does opening (some (.ok start))) (used : Used start uses endpoint) :
    endpoint.peer.getD .unspecified = (connections (calls uses)).getLastD .unspecified ∧
      (∀ before e later, calls uses = before ++ e :: later → e.handed?.isSome →
        connections before ≠ []) ∧
      endpoint.traffic.sent.toNat = (handed (calls uses)).length % 4294967296 ∧
      endpoint.traffic.received.toNat = (arrivals (calls uses)).length % 4294967296 ∧
      Proceeds (calls uses) endpoint := by
  obtain ⟨bound, -, rfl⟩ := does_create_ok created
  have haccounted : Accounted (calls uses) endpoint := accounted_of_used used (.new bound)
  refine ⟨?_, haccounted.quiet, ?_, ?_, haccounted.proceeds⟩
  · rw [haccounted.peer, List.getLastD_eq_getLast?]
  · rw [haccounted.sent, UInt32.toNat_ofNat']
  · rw [haccounted.received, UInt32.toNat_ofNat']

/-- An endpoint that is made to send, connected in vain, connected, connected elsewhere in vain, and
made to send and to wait twice. The packet is refused, then a datagram comes that is too large, and
then none. -/
def hinderedUses : List Use :=
  [⟨.send (.ack 0), [], .outcome (.error .notConnected)⟩,
    ⟨.connect ⟨⟨127, 0, 0, 1⟩, 69⟩,
      [⟨.connectSocket ⟨⟨127, 0, 0, 1⟩, 69⟩, .error .networkUnreachable⟩],
      .outcome (.error (.socketFailed .connect .networkUnreachable))⟩,
    ⟨.connect ⟨⟨127, 0, 0, 1⟩, 70⟩, [⟨.connectSocket ⟨⟨127, 0, 0, 1⟩, 70⟩, .ok ()⟩],
      .outcome (.ok ())⟩,
    ⟨.connect ⟨⟨127, 0, 0, 1⟩, 71⟩,
      [⟨.connectSocket ⟨⟨127, 0, 0, 1⟩, 71⟩, .error .networkUnreachable⟩],
      .outcome (.error (.socketFailed .connect .networkUnreachable))⟩,
    ⟨.send (.ack 1), [⟨.sendDatagram [0, 4, 0, 1], .error .noBufferSpace⟩],
      .outcome (.error (.socketFailed .send .noBufferSpace))⟩,
    ⟨.receiveData 1, [⟨.receiveDatagram 5, .ok ⟨.unspecified, [0, 3, 0, 1, 7, 8]⟩⟩],
      .arrival (.malformed (.tooLarge 6))⟩,
    ⟨.receivePacket, [⟨.receiveDatagram datagramRoom, .error .wouldBlock⟩], .arrival .nothing⟩]

/-- Such an endpoint is connected where it was connected last, and has counted the packet that was
refused and the datagram that was too large. -/
theorem used_accounted_hindered :
    (create .unspecified).Does
        [⟨.createSocket, .ok ()⟩, ⟨.bindSocket .unspecified, .ok .unspecified⟩]
        (some (.ok ⟨.unspecified, none, .zero⟩)) ∧
      ∃ endpoint, Used ⟨.unspecified, none, .zero⟩ hinderedUses endpoint ∧
        endpoint.peer.getD .unspecified = ⟨⟨127, 0, 0, 1⟩, 70⟩ ∧
        endpoint.traffic.sent.toNat = 1 ∧ endpoint.traffic.received.toNat = 1 ∧
        Proceeds (calls hinderedUses) endpoint := by
  have created : (create .unspecified).Does
      [⟨.createSocket, .ok ()⟩, ⟨.bindSocket .unspecified, .ok .unspecified⟩]
      (some (.ok ⟨.unspecified, none, .zero⟩)) := by
    repeat refine does_cons_iff.mpr ⟨_, rfl, ?_⟩
    exact does_nil_iff.mpr rfl
  have call : ∀ {p : Program (Response × Endpoint)} {e : Event} {response : Response}
      {next : Endpoint} {resume : e.call.Answer → Program (Response × Endpoint)},
      p.view = .inr ⟨e.call, resume⟩ → (resume e.answer).result? = some (response, next) →
        p.Does [e] (some (response, next)) :=
    fun hview hresult => does_cons_iff.mpr ⟨_, hview, does_nil_iff.mpr hresult⟩
  obtain ⟨endpoint, used⟩ : ∃ endpoint, Used ⟨.unspecified, none, .zero⟩ hinderedUses endpoint :=
    ⟨_, .cons (does_nil_iff.mpr rfl) (.cons (call rfl rfl) (.cons (call rfl rfl)
      (.cons (call rfl rfl) (.cons (call rfl rfl) (.cons (call rfl rfl) (.cons (call rfl rfl)
        (.nil _)))))))⟩
  obtain ⟨hpeer, -, hsent, hreceived, hproceeds⟩ := used_accounted created used
  exact ⟨created, endpoint, used, hpeer, hsent, hreceived, hproceeds⟩

end Endpoint

end Tftp
