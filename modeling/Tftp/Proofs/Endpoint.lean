import Tftp.Endpoint
import Tftp.Proofs.Program

/-!
# What an endpoint does

The traces of the operations of an endpoint, as far as whole transfers depend on them.

* `Event.PreparesSocket` are the events that make a socket ready or close it, and `readyTrace` those
  that make it ready.
* `Unready` is a socket that is not ready yet, or could not be made ready.

Results:
* `does_ready`: a socket is ready exactly after those events, and only then its writes are bounded.
* `does_send` and `does_acceptRequest`: a connected endpoint hands out one packet, or none.
* `does_receive_iff`: a wait is one call.

These are the operations of the message layer (specification §4.3) and the setting up of the socket
(§6, §10.5), each as a list of events for each way in which it may go. Callers use these lemmas and
do not look at the definitions of the operations again.

Out of scope: waits, beyond that each is one call. What a wait brings is in `Tftp.Arrival`, and the
engines wait on their own.
-/

namespace Tftp

/-- The event makes a socket ready, or closes it. -/
inductive Event.PreparesSocket : Event → Prop where
  | creating (answer : Except SystemError Unit) : PreparesSocket ⟨.createSocket, answer⟩
  | binding (here : Address) (answer : Except SystemError Address) :
      PreparesSocket ⟨.bindSocket here, answer⟩
  | connecting (peer : Address) (answer : Except SystemError Unit) :
      PreparesSocket ⟨.connectSocket peer, answer⟩
  | boundingReads (deadline : TimeSpan) (answer : Except SystemError Unit) :
      PreparesSocket ⟨.setReadDeadline deadline, answer⟩
  | boundingWrites (deadline : TimeSpan) (answer : Except SystemError Unit) :
      PreparesSocket ⟨.setWriteDeadline deadline, answer⟩
  | closing : PreparesSocket ⟨.closeSocket, ()⟩

/-- The event sets a write deadline. -/
def Event.BoundsWrites : Event → Prop
  | ⟨.setWriteDeadline _, .ok ()⟩ => True
  | _ => False

namespace Endpoint

open Program

variable {α : Type} {es : List Event} {sort : Event → Prop}

/-! ## Steps that may fail -/

section Attempt

variable {step : SocketStep} {p : Program (Except SystemError α)}

theorem makes_attempt (h : p.Makes sort) : (attempt step p).Makes sort := by
  refine makes_bind h fun answer => ?_
  cases answer with
  | ok a => exact makes_pure _
  | error reason => exact makes_pure _

theorem does_attempt {r : Option (Except Failure α)} (h : (attempt step p).Does es r) :
    p.Does es none ∧ r = none ∨
      ∃ answer, p.Does es (some answer) ∧ r = some (answer.mapError (.socketFailed step)) := by
  rcases does_bind h with hunder | ⟨before, after, answer, rfl, hp, hafter⟩
  · exact Or.inl hunder
  · cases answer with
    | ok a =>
      obtain ⟨rfl, rfl⟩ := does_pure hafter
      exact Or.inr ⟨.ok a, by rwa [List.append_nil], rfl⟩
    | error reason =>
      obtain ⟨rfl, rfl⟩ := does_pure hafter
      exact Or.inr ⟨.error reason, by rwa [List.append_nil], rfl⟩

theorem does_attempt_none (h : (attempt step p).Does es none) : p.Does es none := by
  rcases does_attempt h with ⟨hp, -⟩ | ⟨answer, -, hr⟩
  · exact hp
  · cases hr

theorem does_attempt_some {result : Except Failure α}
    (h : (attempt step p).Does es (some result)) :
    ∃ answer, p.Does es (some answer) ∧ result = answer.mapError (.socketFailed step) := by
  rcases does_attempt h with ⟨-, hr⟩ | ⟨answer, hp, hr⟩
  · cases hr
  · exact ⟨answer, hp, Option.some.inj hr⟩

theorem does_attempt_ok {a : α} (h : (attempt step p).Does es (some (.ok a))) :
    p.Does es (some (.ok a)) := by
  obtain ⟨answer, hp, hr⟩ := does_attempt_some h
  cases answer with
  | ok a' =>
    cases hr
    exact hp
  | error reason => cases hr

end Attempt

/-! ## Making a socket ready -/

variable {here peer : Address} {milliseconds : Int} {endpoint : Endpoint}

/-- The events that make a socket ready. -/
def readyTrace (here bound peer : Address) (deadline : TimeSpan) : List Event :=
  [⟨.createSocket, .ok ()⟩, ⟨.bindSocket here, .ok bound⟩, ⟨.connectSocket peer, .ok ()⟩,
    ⟨.setReadDeadline deadline, .ok ()⟩, ⟨.setWriteDeadline deadline, .ok ()⟩]

theorem makes_close (h : sort ⟨.closeSocket, ()⟩) : close.Makes sort := makes_ask fun _ => h

theorem does_create_ok (h : (create here).Does es (some (.ok endpoint))) :
    ∃ bound, es = [⟨.createSocket, .ok ()⟩, ⟨.bindSocket here, .ok bound⟩] ∧
      endpoint = ⟨bound, none, .zero⟩ := by
  obtain ⟨first, rest, created, rfl, hcreate, hrest⟩ := does_bind_some h
  cases created with
  | error failure => cases (does_pure hrest).2
  | ok =>
    obtain rfl := does_ask_some (does_attempt_ok hcreate)
    obtain ⟨second, last, bound, rfl, hbind, hlast⟩ := does_bind_some hrest
    cases bound with
    | error failure =>
      obtain ⟨_, _, _, -, -, hfailed⟩ := does_bind_some hlast
      cases (does_pure hfailed).2
    | ok bound =>
      obtain rfl := does_ask_some (does_attempt_ok hbind)
      obtain ⟨rfl, hr⟩ := does_pure hlast
      cases hr
      exact ⟨bound, rfl, rfl⟩

theorem makes_create (hcreate : ∀ answer, sort ⟨.createSocket, answer⟩)
    (hbind : ∀ answer, sort ⟨.bindSocket here, answer⟩) (hclose : sort ⟨.closeSocket, ()⟩) :
    (create here).Makes sort := by
  refine makes_bind (makes_attempt (makes_ask hcreate)) fun created => ?_
  cases created with
  | error failure => exact makes_pure _
  | ok =>
    refine makes_bind (makes_attempt (makes_ask hbind)) fun bound => ?_
    cases bound with
    | error failure => exact makes_bind (makes_close hclose) fun _ => makes_pure _
    | ok bound => exact makes_pure _

theorem does_connect_ok {connected : Endpoint}
    (h : (endpoint.connect peer).Does es (some (.ok (), connected))) :
    es = [⟨.connectSocket peer, .ok ()⟩] ∧ connected = { endpoint with peer := some peer } := by
  obtain ⟨first, rest, answer, rfl, hconnect, hrest⟩ := does_bind_some h
  cases answer with
  | error failure => cases (does_pure hrest).2
  | ok =>
    obtain rfl := does_ask_some (does_attempt_ok hconnect)
    obtain ⟨rfl, hr⟩ := does_pure hrest
    cases hr
    exact ⟨rfl, rfl⟩

theorem makes_connect (hconnect : ∀ answer, sort ⟨.connectSocket peer, answer⟩) :
    (endpoint.connect peer).Makes sort := by
  refine makes_bind (makes_attempt (makes_ask hconnect)) fun answer => ?_
  cases answer with
  | error failure => exact makes_pure _
  | ok => exact makes_pure _

theorem makes_setTimeout
    (hread : ∀ answer, sort ⟨.setReadDeadline (.ofMilliseconds milliseconds), answer⟩)
    (hwrite : ∀ answer, sort ⟨.setWriteDeadline (.ofMilliseconds milliseconds), answer⟩) :
    (setTimeout milliseconds).Makes sort := by
  refine makes_bind (makes_attempt (makes_ask hread)) fun answer => ?_
  cases answer with
  | error failure => exact makes_pure _
  | ok => exact makes_attempt (makes_ask hwrite)

/-- A socket that is not ready: the program is under way or has failed, and its writes have not been
bounded. -/
structure Unready (es : List Event) (r : Option (Except Failure α)) : Prop where
  fails : ∀ a, r ≠ some (.ok a)
  unbounded : ∀ e ∈ es, ¬ e.BoundsWrites

theorem unready_underWay (unbounded : ∀ e ∈ es, ¬ e.BoundsWrites) :
    Unready es (none : Option (Except Failure α)) :=
  ⟨nofun, unbounded⟩

theorem unready_failed {failure : Failure} (unbounded : ∀ e ∈ es, ¬ e.BoundsWrites) :
    Unready es (some (.error failure : Except Failure α)) :=
  ⟨nofun, unbounded⟩

theorem Unready.prepend {before : List Event} {r : Option (Except Failure α)} (h : Unready es r)
    (unbounded : ∀ e ∈ before, ¬ e.BoundsWrites) : Unready (before ++ es) r :=
  ⟨h.fails, List.forall_mem_append.mpr ⟨unbounded, h.unbounded⟩⟩

/-- Writes are bounded when both deadlines are set, and not before. -/
theorem does_setTimeout {r : Option (Except Failure Unit)}
    (h : (setTimeout milliseconds).Does es r) :
    es = [⟨.setReadDeadline (.ofMilliseconds milliseconds), .ok ()⟩,
        ⟨.setWriteDeadline (.ofMilliseconds milliseconds), .ok ()⟩] ∧ r = some (.ok ()) ∨
      Unready es r := by
  have hreads : (attempt .readDeadline
      (ask (.setReadDeadline (.ofMilliseconds milliseconds)))).Makes fun e => ¬ e.BoundsWrites :=
    makes_attempt (makes_ask fun _ => id)
  rcases does_bind h with ⟨hread, rfl⟩ | ⟨first, rest, answer, rfl, hread, hrest⟩
  · exact Or.inr (unready_underWay (hreads hread))
  · cases answer with
    | error failure =>
      obtain ⟨rfl, rfl⟩ := does_pure hrest
      rw [List.append_nil]
      exact Or.inr (unready_failed (hreads hread))
    | ok =>
      have hfirst := hreads hread
      obtain rfl := does_ask_some (does_attempt_ok hread)
      rcases does_attempt hrest with ⟨hwrite, rfl⟩ | ⟨answer, hwrite, rfl⟩
      · obtain rfl := does_ask_none hwrite
        exact Or.inr (unready_underWay hfirst)
      · obtain rfl := does_ask_some hwrite
        cases answer with
        | ok => exact Or.inl ⟨rfl, rfl⟩
        | error reason =>
          refine Or.inr ((unready_failed ?_).prepend hfirst)
          exact List.forall_mem_singleton.mpr id

/-- A socket that cannot be made ready is closed, which bounds nothing. -/
theorem does_giveUp {failure : Failure} {r : Option (Except Failure α)}
    (h : (close >>= fun _ => pure (.error failure)).Does es r) : Unready es r := by
  refine ⟨fun a hr => ?_, makes_bind (makes_close id) (fun _ => makes_pure _) h⟩
  rw [hr] at h
  obtain ⟨_, _, _, -, -, hfailed⟩ := does_bind_some h
  cases (does_pure hfailed).2

/-- A connected socket is ready once its deadlines are set. -/
theorem does_setTimeout_giveUp {r : Option (Except Failure Endpoint)}
    (h : (setTimeout milliseconds >>= fun x =>
      match x with
      | .error failure => close >>= fun _ => pure (.error failure)
      | .ok () => pure (.ok endpoint)).Does es r) :
    es = [⟨.setReadDeadline (.ofMilliseconds milliseconds), .ok ()⟩,
        ⟨.setWriteDeadline (.ofMilliseconds milliseconds), .ok ()⟩] ∧ r = some (.ok endpoint) ∨
      Unready es r := by
  rcases does_bind h with ⟨htimeout, rfl⟩ | ⟨before, after, answer, rfl, htimeout, hlast⟩
  · rcases does_setTimeout htimeout with ⟨-, hr⟩ | hunready
    · cases hr
    · exact Or.inr (unready_underWay hunready.unbounded)
  · rcases does_setTimeout htimeout with ⟨rfl, hr⟩ | hunready
    · cases hr
      obtain ⟨rfl, rfl⟩ := does_pure hlast
      exact Or.inl ⟨List.append_nil _, rfl⟩
    · cases answer with
      | error failure => exact Or.inr ((does_giveUp hlast).prepend hunready.unbounded)
      | ok => exact absurd rfl (hunready.fails ())

/-- **A socket is ready** exactly after all of its calls, and only then its writes are bounded. -/
theorem does_ready {r : Option (Except Failure Endpoint)}
    (h : (ready here peer milliseconds).Does es r) :
    (∃ bound, es = readyTrace here bound peer (.ofMilliseconds milliseconds) ∧
        r = some (.ok ⟨bound, some peer, .zero⟩)) ∨ Unready es r := by
  have hcreates : (create here).Makes fun e => ¬ e.BoundsWrites :=
    makes_create (fun _ => id) (fun _ => id) id
  rcases does_bind h with ⟨hcreate, rfl⟩ | ⟨first, rest, created, rfl, hcreate, hrest⟩
  · exact Or.inr (unready_underWay (hcreates hcreate))
  have hfirst := hcreates hcreate
  cases created with
  | error failure =>
    obtain ⟨rfl, rfl⟩ := does_pure hrest
    rw [List.append_nil]
    exact Or.inr (unready_failed hfirst)
  | ok created =>
    have hconnects : (created.connect peer).Makes fun e => ¬ e.BoundsWrites :=
      makes_connect fun _ => id
    rcases does_bind hrest with
      ⟨hconnect, rfl⟩ | ⟨second, rest, ⟨answer, connected⟩, rfl, hconnect, hset⟩
    · exact Or.inr ((unready_underWay (hconnects hconnect)).prepend hfirst)
    have hsecond := hconnects hconnect
    cases answer with
    | error failure => exact Or.inr (((does_giveUp hset).prepend hsecond).prepend hfirst)
    | ok =>
      rcases does_setTimeout_giveUp hset with ⟨rfl, rfl⟩ | hunready
      · obtain ⟨bound, rfl, rfl⟩ := does_create_ok hcreate
        obtain ⟨rfl, rfl⟩ := does_connect_ok hconnect
        exact Or.inl ⟨bound, rfl, rfl⟩
      · exact Or.inr ((hunready.prepend hsecond).prepend hfirst)

theorem does_ready_map {g : Endpoint → α} {r : Option (Except Failure α)}
    (h : (ready here peer milliseconds >>= fun x =>
      match x with
      | .error failure => pure (.error failure)
      | .ok endpoint => pure (.ok (g endpoint))).Does es r) :
    (∃ bound, es = readyTrace here bound peer (.ofMilliseconds milliseconds) ∧
        r = some (.ok (g ⟨bound, some peer, .zero⟩))) ∨ Unready es r := by
  rcases does_bind h with ⟨hready, rfl⟩ | ⟨first, rest, x, rfl, hready, hrest⟩
  · rcases does_ready hready with ⟨bound, -, hr⟩ | hunready
    · cases hr
    · exact Or.inr (unready_underWay hunready.unbounded)
  · rcases does_ready hready with ⟨bound, rfl, hr⟩ | hunready
    · cases hr
      obtain ⟨rfl, rfl⟩ := does_pure hrest
      exact Or.inl ⟨bound, List.append_nil _, rfl⟩
    · cases x with
      | error failure =>
        obtain ⟨rfl, rfl⟩ := does_pure hrest
        rw [List.append_nil]
        exact Or.inr (unready_failed hunready.unbounded)
      | ok endpoint => exact absurd rfl (hunready.fails endpoint)

theorem makes_ready (h : ∀ e : Event, e.PreparesSocket → sort e) :
    (ready here peer milliseconds).Makes sort := by
  have hclose : ∀ failure : Failure,
      (close >>= fun _ => pure (.error failure) : Program (Except Failure Endpoint)).Makes sort :=
    fun failure => makes_bind (makes_close (h _ .closing)) fun _ => makes_pure _
  refine makes_bind (makes_create (fun answer => h _ (.creating answer))
    (fun answer => h _ (.binding here answer)) (h _ .closing)) fun created => ?_
  cases created with
  | error failure => exact makes_pure _
  | ok created =>
    refine makes_bind (makes_connect fun answer => h _ (.connecting peer answer))
      fun ⟨answer, connected⟩ => ?_
    cases answer with
    | error failure => exact hclose failure
    | ok =>
      refine makes_bind (makes_setTimeout (fun answer => h _ (.boundingReads _ answer))
        fun answer => h _ (.boundingWrites _ answer)) fun answer => ?_
      cases answer with
      | error failure => exact hclose failure
      | ok => exact makes_pure _

/-! ## Handing out packets -/

section Send

variable {packet : Packet}

/-- A connected endpoint hands out the packet. -/
theorem does_send {r : Option (Except Failure Unit × Endpoint)}
    (connected : endpoint.peer = some peer) (h : (endpoint.send packet).Does es r) :
    es = [] ∧ r = none ∨
      ∃ answer, es = [⟨.sendDatagram packet.encode, answer⟩] ∧
        r = some (answer.mapError (.socketFailed .send),
          { endpoint with traffic := endpoint.traffic.countSent }) := by
  obtain ⟨address, _, traffic⟩ := endpoint
  obtain rfl := connected
  unfold send at h
  rcases does_bind h with ⟨hsend, rfl⟩ | ⟨first, rest, sent, rfl, hsend, hrest⟩
  · exact Or.inl ⟨does_ask_none (does_attempt_none hsend), rfl⟩
  · obtain ⟨rfl, rfl⟩ := does_pure hrest
    obtain ⟨answer, hask, rfl⟩ := does_attempt_some hsend
    obtain rfl := does_ask_some hask
    exact Or.inr ⟨answer, rfl, rfl⟩

theorem makes_send (h : ∀ answer, sort ⟨.sendDatagram packet.encode, answer⟩) :
    (endpoint.send packet).Makes sort := by
  unfold send
  split
  · exact makes_pure _
  · exact makes_bind (makes_attempt (makes_ask h)) fun _ => makes_pure _

end Send

/-! ## Waiting -/

/-- A wait is one call, and tells what its answer means. -/
theorem does_receive_iff {room : Nat} {arrival : Arrival} {after : Endpoint} :
    (endpoint.receive room).Does es (some (arrival, after)) ↔
      ∃ answer, es = [⟨.receiveDatagram room, answer⟩] ∧ arrival = .ofAnswer room answer ∧
        after = { endpoint with traffic := endpoint.traffic.countAnswer answer } := by
  constructor
  · intro h
    obtain ⟨answer, rest, rfl, hrest⟩ := does_ask_bind_some h
    obtain ⟨rfl, hresult⟩ := does_pure hrest
    cases hresult
    exact ⟨answer, rfl, rfl, rfl⟩
  · rintro ⟨answer, rfl, rfl, rfl⟩
    exact does_cons_iff.mpr ⟨_, rfl, does_nil_iff.mpr rfl⟩

/-! ## Answering a request -/

/-- The packet that answers a request, if there is one. -/
def greeting? (acknowledged : List OptionEntry) (direction : Direction) : Option Packet :=
  match acknowledged, direction with
  | [], .send _ => none
  | [], .receive => some (.ack 0)
  | options, _ => some (.optionAck options)

/-- The events that hand out a greeting. -/
def greetingTrace (greeting? : Option Packet) : List Event :=
  greeting?.toList.map fun packet => ⟨.sendDatagram packet.encode, .ok ()⟩

/-- How an endpoint answers a request with a greeting: it did not come to it, handed it out, or
failed to. -/
inductive Greets (greeting? : Option Packet) :
    List Event → Option (Except Failure Bool × Endpoint) → Prop where
  | waiting {packet : Packet} (greets : greeting? = some packet) : Greets greeting? [] none
  | accepted {b : Bool} {endpoint : Endpoint} :
      Greets greeting? (greetingTrace greeting?) (some (.ok b, endpoint))
  | unsent {packet : Packet} {endpoint : Endpoint} {reason : SystemError}
      (greets : greeting? = some packet) :
      Greets greeting? [⟨.sendDatagram packet.encode, .error reason⟩]
        (some (.error (.socketFailed .send reason), endpoint))

theorem greets_of_send {packet : Packet} {b : Bool} {r : Option (Except Failure Bool × Endpoint)}
    (connected : endpoint.peer = some peer)
    (h : (endpoint.send packet >>= fun x => pure (x.1.map fun () => b, x.2)).Does es r) :
    Greets (some packet) es r := by
  rcases does_bind h with ⟨hsend, rfl⟩ | ⟨first, rest, x, rfl, hsend, hrest⟩
  · rcases does_send connected hsend with ⟨rfl, -⟩ | ⟨_, -, hr⟩
    · exact .waiting rfl
    · cases hr
  · obtain ⟨rfl, rfl⟩ := does_pure hrest
    rcases does_send connected hsend with ⟨-, hr⟩ | ⟨answer, rfl, hr⟩
    · cases hr
    · cases hr
      cases answer with
      | ok => exact .accepted
      | error reason => exact .unsent rfl

theorem does_acceptRequest {acknowledged : List OptionEntry} {direction : Direction}
    {r : Option (Except Failure Bool × Endpoint)} (connected : endpoint.peer = some peer)
    (h : (endpoint.acceptRequest acknowledged direction).Does es r) :
    Greets (greeting? acknowledged direction) es r := by
  cases acknowledged with
  | nil =>
    cases direction with
    | send total =>
      obtain ⟨rfl, rfl⟩ := does_pure h
      exact .accepted
    | receive => exact greets_of_send connected h
  | cons option options => exact greets_of_send connected h

end Endpoint

end Tftp
