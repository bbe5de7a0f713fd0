import Tftp.Proofs.Transfer.Refused

/-!
# The socket of a transfer

A transfer makes at most one socket. It is bound, connected and given both its deadlines before
anything is sent or received, and closed once in the end, wherever the transfer ends.

* `SocketMove` is what may happen to the socket, and in which order. It also follows the timeout in
  force: that of the configuration as soon as the file could not be opened.
* `Counted`, `Readied` and `Timed` are what a trace that keeps to this order holds.
* `SocketDiscipline` is what all this says of a trace.

Results:
* `leads_send` and `leads_receive`: every run keeps to the order, and ends without a socket.
* **`socket_disciplined`**: what that says of every run.

A transfer owns one socket for its whole life (specification §3 and §5), connected to its only peer
(§6), with deadlines that come from the negotiated timeout (§9, §10.4) and are set once; §6 still
has a fixed deadline. The socket of a report is the one that a transfer has which could not open its
file, and it follows the same order with the timeout of the configuration.

Out of scope: sockets of other transfers, and what the system does with a socket that is closed
while datagrams are under way.
-/

namespace Tftp

open Program

/-! ## Deadlines -/

/-- The span is a positive number of milliseconds, as whole seconds and the microseconds left
over. -/
structure TimeSpan.Measures (span : TimeSpan) (milliseconds : Int) : Prop where
  positive : 0 < milliseconds
  seconds : 0 ≤ span.seconds
  microseconds : 0 ≤ span.microseconds ∧ span.microseconds < 1000000
  exact : span.seconds * 1000000 + span.microseconds = milliseconds * 1000

theorem TimeSpan.measures_ofMilliseconds {milliseconds : Int} (h : 0 < milliseconds) :
    (TimeSpan.ofMilliseconds milliseconds).Measures milliseconds := by
  have hsum := Int.tdiv_mul_add_tmod milliseconds 1000
  have hnonneg : 0 ≤ milliseconds.tmod 1000 := Int.tmod_nonneg 1000 h.le
  have hlt : milliseconds.tmod 1000 < 1000 := Int.tmod_lt_of_pos milliseconds (by decide)
  refine ⟨h, Int.tdiv_nonneg h.le (by decide), ⟨?_, ?_⟩, ?_⟩ <;> dsimp only [ofMilliseconds] <;>
    omega

/-- Only one span measures a number of milliseconds. -/
theorem TimeSpan.Measures.eq {span other : TimeSpan} {milliseconds : Int}
    (h : span.Measures milliseconds) (h' : other.Measures milliseconds) : span = other := by
  obtain ⟨seconds, microseconds⟩ := span
  obtain ⟨seconds', microseconds'⟩ := other
  have hexact : seconds * 1000000 + microseconds = seconds' * 1000000 + microseconds' :=
    h.exact.trans h'.exact.symm
  have hmicroseconds : 0 ≤ microseconds ∧ microseconds < 1000000 := h.microseconds
  have hmicroseconds' : 0 ≤ microseconds' ∧ microseconds' < 1000000 := h'.microseconds
  obtain rfl : seconds = seconds' := by omega
  obtain rfl : microseconds = microseconds' := by omega
  rfl

/-- The deadline that an event sets, or tries to. -/
def Event.deadline? (e : Event) : Option TimeSpan :=
  match e.call with
  | .setReadDeadline deadline | .setWriteDeadline deadline => some deadline
  | _ => none

/-- The timeout that the request and the configuration lead to, in milliseconds. -/
def Transfer.grantedTimeout (t : Transfer) : Int :=
  (lastRequested? .timeout t.requested).elim t.config.timeout fun seconds => seconds.toNat * 1000

/-! ## The order of the calls -/

/-- The file could not be opened. -/
def Event.FailsToOpen : Event → Prop
  | ⟨.openForReading _, .error _⟩ | ⟨.openForWriting _, .error _⟩ => True
  | _ => False

/-- How far the socket of a transfer is. A broken one could not be made ready. -/
inductive SocketStage where
  | absent
  | created
  | bound
  | connected
  | readBounded
  | ready
  | broken
  | gone
  deriving DecidableEq, Repr

namespace SocketStage

/-- The stage that a call leads to if it succeeds. -/
def ifOk {α : Type} (next : SocketStage) : Except SystemError α → SocketStage
  | .ok _ => next
  | .error _ => broken

/-- The number of sockets that are to be closed. -/
def live : SocketStage → Nat
  | absent | gone => 0
  | _ => 1

/-- The number of calls that have made the socket ready so far. -/
def readied : SocketStage → Nat
  | created => 1
  | bound => 2
  | connected => 3
  | readBounded => 4
  | ready => 5
  | absent | broken | gone => 0

end SocketStage

/-- The socket of a transfer, and the timeout in force in milliseconds. -/
structure Watch where
  stage : SocketStage
  timeout : Int

/-- What may happen to the socket of a transfer. -/
inductive SocketMove (t : Transfer) : Watch → Event → Watch → Prop where
  | aside {w : Watch} {e : Event} (offSocket : ¬ e.OnSocket) (opens : ¬ e.FailsToOpen) :
      SocketMove t w e w
  | unopened {ms : Int} {e : Event} (fails : e.FailsToOpen) :
      SocketMove t ⟨.absent, ms⟩ e ⟨.absent, t.config.timeout⟩
  | creates {ms : Int} : SocketMove t ⟨.absent, ms⟩ ⟨.createSocket, .ok ()⟩ ⟨.created, ms⟩
  | uncreated {ms : Int} (reason : SystemError) :
      SocketMove t ⟨.absent, ms⟩ ⟨.createSocket, .error reason⟩ ⟨.gone, ms⟩
  | binds {ms : Int} (answer : Except SystemError Address) :
      SocketMove t ⟨.created, ms⟩ ⟨.bindSocket t.here, answer⟩ ⟨.ifOk .bound answer, ms⟩
  | connects {ms : Int} (answer : Except SystemError Unit) :
      SocketMove t ⟨.bound, ms⟩ ⟨.connectSocket t.peer, answer⟩ ⟨.ifOk .connected answer, ms⟩
  | boundsReads {ms : Int} (positive : 0 < ms) (answer : Except SystemError Unit) :
      SocketMove t ⟨.connected, ms⟩ ⟨.setReadDeadline (.ofMilliseconds ms), answer⟩
        ⟨.ifOk .readBounded answer, ms⟩
  | boundsWrites {ms : Int} (positive : 0 < ms) (answer : Except SystemError Unit) :
      SocketMove t ⟨.readBounded, ms⟩ ⟨.setWriteDeadline (.ofMilliseconds ms), answer⟩
        ⟨.ifOk .ready answer, ms⟩
  | sends {ms : Int} (bytes : Bytes) (answer : Except SystemError Unit) :
      SocketMove t ⟨.ready, ms⟩ ⟨.sendDatagram bytes, answer⟩ ⟨.ready, ms⟩
  | receives {ms : Int} (room : Nat) (answer : Except SystemError Datagram) :
      SocketMove t ⟨.ready, ms⟩ ⟨.receiveDatagram room, answer⟩ ⟨.ready, ms⟩
  | closes {stage : SocketStage} {ms : Int} (usable : stage = .ready ∨ stage = .broken) :
      SocketMove t ⟨stage, ms⟩ ⟨.closeSocket, ()⟩ ⟨.gone, ms⟩

/-! ## How many sockets there are -/

/-- The event asks for a socket. -/
def Event.asksForSocket (e : Event) : Bool := e.call = .createSocket

/-- The event makes a socket. -/
def Event.createsSocket : Event → Bool
  | ⟨.createSocket, .ok ()⟩ => true
  | _ => false

/-- The event closes the socket. -/
def Event.closesSocket (e : Event) : Bool := e.call = .closeSocket

/-- What a trace says of the number of sockets, if it has come to a stage. -/
structure Counted (es : List Event) (stage : SocketStage) : Prop where
  /-- A socket was asked for at most once. -/
  asked : es.countP Event.asksForSocket = if stage = .absent then 0 else 1
  /-- Those that were made and not closed are still to be closed. -/
  live : es.countP Event.createsSocket = es.countP Event.closesSocket + stage.live
  unclosed : stage ≠ .gone → es.countP Event.closesSocket = 0

section Orderly

variable {t : Transfer} {es : List Event} {e : Event} {w w' : Watch} {ms : Int}

/-- An event off the socket makes none, closes none and sets no deadline. -/
theorem Event.aside (h : ¬ e.OnSocket) :
    e.asksForSocket = false ∧ e.createsSocket = false ∧ e.closesSocket = false ∧
      e.deadline? = none := by
  obtain ⟨call, answer⟩ := e
  cases call with
  | createSocket | bindSocket | connectSocket | setReadDeadline | setWriteDeadline | sendDatagram
  | receiveDatagram | closeSocket => exact absurd trivial h
  | _ => exact ⟨rfl, rfl, rfl, rfl⟩

theorem Event.FailsToOpen.not_onSocket (h : e.FailsToOpen) : ¬ e.OnSocket := by
  obtain ⟨call, answer⟩ := e
  cases call with
  | openForReading | openForWriting => exact id
  | _ => exact h.elim

/-- An event that leaves the stage and the number of sockets as they are. -/
theorem Counted.silent {stage : SocketStage} (h : Counted es stage)
    (asks : e.asksForSocket = false) (creates : e.createsSocket = false)
    (closes : e.closesSocket = false) : Counted (es ++ [e]) stage := by
  refine ⟨?_, ?_, fun hstage => ?_⟩
  · rw [List.countP_append, h.asked]
    simp [asks]
  · rw [List.countP_append, List.countP_append, h.live]
    simp [creates, closes]
  · rw [List.countP_append, h.unclosed hstage]
    simp [closes]

/-- A call on a socket that was made keeps it, or breaks it. -/
theorem Counted.calls {α : Type} {stage next : SocketStage} {answer : Except SystemError α}
    (h : Counted es stage) (live : stage.live = 1) (next_live : next.live = 1)
    (asks : e.asksForSocket = false) (creates : e.createsSocket = false)
    (closes : e.closesSocket = false) : Counted (es ++ [e]) (.ifOk next answer) := by
  have hlive : (SocketStage.ifOk next answer).live = 1 := by
    cases answer with
    | ok => exact next_live
    | error => rfl
  have hpresent : ∀ {stage : SocketStage}, stage.live = 1 → stage ≠ .absent ∧ stage ≠ .gone := by
    rintro stage hone
    constructor <;> rintro rfl <;> cases hone
  have hsilent := h.silent asks creates closes
  refine ⟨?_, ?_, fun _ => hsilent.unclosed (hpresent live).2⟩
  · rw [hsilent.asked, if_neg (hpresent live).1, if_neg (hpresent hlive).1]
  · rw [hsilent.live, live, hlive]

theorem Counted.next (h : Counted es w.stage) (move : SocketMove t w e w') :
    Counted (es ++ [e]) w'.stage := by
  cases move with
  | aside offSocket =>
    obtain ⟨hasks, hcreates, hcloses, -⟩ := Event.aside offSocket
    exact h.silent hasks hcreates hcloses
  | unopened fails =>
    obtain ⟨hasks, hcreates, hcloses, -⟩ := Event.aside fails.not_onSocket
    exact h.silent hasks hcreates hcloses
  | creates | uncreated =>
    have hclosed := h.unclosed nofun
    have hlive := h.live
    have hasked := h.asked
    refine ⟨?_, ?_, fun _ => ?_⟩ <;>
      simp_all [Event.asksForSocket, Event.createsSocket, Event.closesSocket, SocketStage.live]
  | binds | connects | boundsReads | boundsWrites => exact h.calls rfl rfl rfl rfl rfl
  | sends | receives => exact h.silent rfl rfl rfl
  | closes usable =>
    have hlive := h.live
    have hasked := h.asked
    refine ⟨?_, ?_, fun hgone => absurd rfl hgone⟩ <;>
      rcases usable with rfl | rfl <;>
      simp_all [Event.asksForSocket, Event.createsSocket, Event.closesSocket, SocketStage.live]

/-! ## What has made the socket ready -/

/-- A trace that has come to a stage holds the calls that lead to it, in their order. -/
def Readied (t : Transfer) (es : List Event) (w : Watch) : Prop :=
  ∃ bound, ((Endpoint.readyTrace t.here bound t.peer (.ofMilliseconds w.timeout)).take
    w.stage.readied).Sublist es

theorem readied_of_unready {stage : SocketStage} (h : stage.readied = 0) (es : List Event) :
    Readied t es ⟨stage, ms⟩ := by
  refine ⟨t.here, ?_⟩
  show (List.take stage.readied _).Sublist es
  rw [h, List.take_zero]
  exact List.nil_sublist es

theorem Readied.snoc (h : Readied t es w) (e : Event) : Readied t (es ++ [e]) w := by
  obtain ⟨bound, hsub⟩ := h
  exact ⟨bound, hsub.trans (List.sublist_append_left es [e])⟩

theorem Readied.next (h : Readied t es w) (move : SocketMove t w e w') :
    Readied t (es ++ [e]) w' := by
  cases move with
  | aside | sends | receives => exact h.snoc _
  | unopened | uncreated | closes => exact readied_of_unready rfl _
  | creates => exact ⟨t.here, List.sublist_append_right es _⟩
  | binds answer =>
    cases answer with
    | error reason => exact readied_of_unready rfl _
    | ok address =>
      obtain ⟨bound, hsub⟩ := h
      exact ⟨address, hsub.append (List.Sublist.refl _)⟩
  | connects answer | boundsReads _ answer | boundsWrites _ answer =>
    cases answer with
    | error reason => exact readied_of_unready rfl _
    | ok =>
      obtain ⟨bound, hsub⟩ := h
      exact ⟨bound, hsub.append (List.Sublist.refl _)⟩

/-! ## Which deadlines are set -/

/-- What a trace says of the deadlines, if it has come to a stage with a timeout in force. -/
structure Timed (t : Transfer) (es : List Event) (w : Watch) : Prop where
  untimed : w.stage = .absent → ∀ e ∈ es, e.deadline? = none
  deadlines : ∀ e ∈ es, ∀ deadline, e.deadline? = some deadline → deadline.Measures w.timeout
  granted : (∀ e ∈ es, ¬ e.FailsToOpen) → w.timeout = t.grantedTimeout
  reported : (∃ e ∈ es, e.FailsToOpen) → w.timeout = t.config.timeout

/-- An event that leaves the timeout in force as it is, and sets no other deadline. -/
theorem Timed.keeps {stage : SocketStage} (h : Timed t es w) (opens : ¬ e.FailsToOpen)
    (untimed : stage = .absent → w.stage = .absent ∧ e.deadline? = none)
    (sets : ∀ deadline, e.deadline? = some deadline → deadline.Measures w.timeout) :
    Timed t (es ++ [e]) ⟨stage, w.timeout⟩ := by
  refine ⟨fun hstage => ?_, ?_, fun hopens => ?_, ?_⟩
  · obtain ⟨habsent, he⟩ := untimed hstage
    exact List.forall_mem_append.mpr ⟨h.untimed habsent, List.forall_mem_singleton.mpr he⟩
  · exact List.forall_mem_append.mpr ⟨h.deadlines, List.forall_mem_singleton.mpr sets⟩
  · exact h.granted (List.forall_mem_append.mp hopens).1
  · rintro ⟨e', he', hfails⟩
    rcases List.mem_append.mp he' with hes | hlast
    · exact h.reported ⟨e', hes, hfails⟩
    · rw [List.mem_singleton.mp hlast] at hfails
      exact absurd hfails opens

theorem eq_absent_of_ifOk {α : Type} {next : SocketStage} {answer : Except SystemError α}
    (h : SocketStage.ifOk next answer = .absent) : next = .absent := by
  cases answer with
  | ok => exact h
  | error => cases h

theorem Timed.next (h : Timed t es w) (move : SocketMove t w e w') : Timed t (es ++ [e]) w' := by
  cases move with
  | aside offSocket opens =>
    obtain ⟨-, -, -, hnone⟩ := Event.aside offSocket
    refine h.keeps opens (fun habsent => ⟨habsent, hnone⟩) fun deadline hsets => ?_
    rw [hnone] at hsets
    cases hsets
  | unopened fails =>
    obtain ⟨-, -, -, hnone⟩ := Event.aside fails.not_onSocket
    have huntimed : ∀ e' ∈ es ++ [e], e'.deadline? = none :=
      List.forall_mem_append.mpr ⟨h.untimed rfl, List.forall_mem_singleton.mpr hnone⟩
    refine ⟨fun _ => huntimed, fun e' he' deadline hsets => ?_, fun hopens => ?_, fun _ => rfl⟩
    · rw [huntimed e' he'] at hsets
      cases hsets
    · exact absurd fails (hopens e (List.mem_append_right _ (List.mem_singleton_self e)))
  | creates | uncreated | sends | receives | closes => exact h.keeps id nofun nofun
  | binds | connects =>
    exact h.keeps id (fun habsent => nomatch eq_absent_of_ifOk habsent) nofun
  | boundsReads positive | boundsWrites positive =>
    refine h.keeps id (fun habsent => nomatch eq_absent_of_ifOk habsent) ?_
    rintro _ ⟨⟩
    exact TimeSpan.measures_ofMilliseconds positive

end Orderly

/-! ## Programs that keep to the order -/

/-- A program that may fail comes to one stage or to the other. -/
def ComesTo {α : Type} (good bad : SocketStage) (ms : Int) (x : Except Failure α) (w : Watch) :
    Prop :=
  match x with
  | .ok _ => w = ⟨good, ms⟩
  | .error _ => w = ⟨bad, ms⟩

theorem comesTo_ifOk {α : Type} {ms : Int} {step : SocketStep} (next : SocketStage)
    (answer : Except SystemError α) :
    ComesTo next .broken ms (answer.mapError (.socketFailed step)) ⟨.ifOk next answer, ms⟩ := by
  cases answer <;> rfl

variable {α : Type} {t : Transfer} {ms : Int} {w : Watch}

theorem Event.Reports.not_failsToOpen {e : Event} (h : e.Reports) : ¬ e.FailsToOpen := by
  cases h <;> exact id

/-- What only reports leaves the socket alone. -/
theorem leads_reports {p : Program α} (h : p.Makes Event.Reports) :
    p.Leads (SocketMove t) w fun _ w' => w' = w :=
  leads_of_makes (h.mono fun _ he => .aside he.not_onSocket he.not_failsToOpen)

namespace Endpoint

theorem leads_attempt {τ : Type} {R : τ → Event → τ → Prop} {a : τ}
    {post : Except Failure α → τ → Prop} {step : SocketStep}
    {p : Program (Except SystemError α)}
    (h : p.Leads R a fun answer b => post (answer.mapError (.socketFailed step)) b) :
    (attempt step p).Leads R a post := by
  refine leads_bind h fun answer b hpost => ?_
  cases answer with
  | ok x => exact leads_pure hpost
  | error reason => exact leads_pure hpost

theorem leads_close {stage : SocketStage} (usable : stage = .ready ∨ stage = .broken) :
    close.Leads (SocketMove t) ⟨stage, ms⟩ fun _ w => w = ⟨.gone, ms⟩ :=
  leads_ask fun _ => ⟨_, .closes usable, rfl⟩

/-- A socket that could not be made ready is closed. -/
theorem leads_giveUp {failure : Failure} {good : SocketStage} :
    (close >>= fun _ => (pure (.error failure) : Program (Except Failure α))).Leads (SocketMove t)
      ⟨.broken, ms⟩ (ComesTo good .gone ms) :=
  leads_bind (leads_close (Or.inr rfl)) fun _ _ hgone => leads_pure hgone

theorem leads_create :
    (create t.here).Leads (SocketMove t) ⟨.absent, ms⟩ (ComesTo .bound .gone ms) := by
  have hcreate : (attempt .create (ask .createSocket)).Leads (SocketMove t) ⟨.absent, ms⟩
      (ComesTo .created .gone ms) := by
    refine leads_attempt (leads_ask fun answer => ?_)
    cases answer with
    | ok => exact ⟨_, .creates, rfl⟩
    | error reason => exact ⟨_, .uncreated reason, rfl⟩
  refine leads_bind hcreate fun created w hcreated => ?_
  cases created with
  | error failure => exact leads_pure hcreated
  | ok =>
    obtain rfl := hcreated
    have hbind : (attempt .bind (ask (.bindSocket t.here))).Leads (SocketMove t) ⟨.created, ms⟩
        (ComesTo .bound .broken ms) :=
      leads_attempt (leads_ask fun answer => ⟨_, .binds answer, comesTo_ifOk .bound answer⟩)
    refine leads_bind hbind fun bound w hbound => ?_
    cases bound with
    | ok address => exact leads_pure hbound
    | error failure =>
      obtain rfl := hbound
      exact leads_giveUp

theorem leads_connect (endpoint : Endpoint) :
    (endpoint.connect t.peer).Leads (SocketMove t) ⟨.bound, ms⟩
      fun x w => ComesTo .connected .broken ms x.1 w := by
  have hconnect : (attempt .connect (ask (.connectSocket t.peer))).Leads (SocketMove t)
      ⟨.bound, ms⟩ (ComesTo .connected .broken ms) :=
    leads_attempt (leads_ask fun answer => ⟨_, .connects answer, comesTo_ifOk .connected answer⟩)
  refine leads_bind hconnect fun answer w hconnected => ?_
  cases answer with
  | ok => exact leads_pure hconnected
  | error failure => exact leads_pure hconnected

theorem leads_setTimeout (positive : 0 < ms) :
    (setTimeout ms).Leads (SocketMove t) ⟨.connected, ms⟩ (ComesTo .ready .broken ms) := by
  have hread : (attempt .readDeadline (ask (.setReadDeadline (.ofMilliseconds ms)))).Leads
      (SocketMove t) ⟨.connected, ms⟩ (ComesTo .readBounded .broken ms) :=
    leads_attempt (leads_ask fun answer =>
      ⟨_, .boundsReads positive answer, comesTo_ifOk .readBounded answer⟩)
  refine leads_bind hread fun answer w hbounded => ?_
  cases answer with
  | error failure => exact leads_pure hbounded
  | ok =>
    obtain rfl := hbounded
    exact leads_attempt (leads_ask fun answer =>
      ⟨_, .boundsWrites positive answer, comesTo_ifOk .ready answer⟩)

/-- A socket is ready after all of its calls, or there is none any more. -/
theorem leads_ready (positive : 0 < ms) :
    (ready t.here t.peer ms).Leads (SocketMove t) ⟨.absent, ms⟩ (ComesTo .ready .gone ms) := by
  refine leads_bind leads_create fun created w hcreated => ?_
  cases created with
  | error failure => exact leads_pure hcreated
  | ok created =>
    obtain rfl := hcreated
    refine leads_bind (leads_connect created) fun ⟨answer, connected⟩ w hconnected => ?_
    cases answer with
    | error failure =>
      obtain rfl := hconnected
      exact leads_giveUp
    | ok =>
      obtain rfl := hconnected
      refine leads_bind (leads_setTimeout positive) fun answer w hbounded => ?_
      cases answer with
      | error failure =>
        obtain rfl := hbounded
        exact leads_giveUp
      | ok => exact leads_pure hbounded

end Endpoint

namespace Transfer

/-- There is no socket, or none any more. -/
def SocketLess (w : Watch) : Prop := w.stage = .absent ∨ w.stage = .gone

/-! ## Reports of a file that cannot be opened -/

/-- Reporting a file uses the timeout of the configuration, and leaves no socket. -/
theorem leads_reportFileError (valid : 0 < t.config.timeout) (code : ErrorCode) (text : Bytes) :
    (t.reportFileError code text).Leads (SocketMove t) ⟨.absent, t.config.timeout⟩
      fun _ w => w.stage = .gone := by
  have hcomplain : ∀ {level message} {w : Watch}, w.stage = .gone →
      (log level message).Leads (SocketMove t) w fun _ w => w.stage = .gone := by
    intro level message w hgone
    refine (leads_reports reports_log).mono ?_
    rintro _ _ rfl
    exact hgone
  refine leads_bind (Endpoint.leads_ready valid) fun ready w hready => ?_
  cases ready with
  | error failure =>
    obtain rfl := hready
    exact hcomplain rfl
  | ok endpoint =>
    obtain rfl := hready
    have hsend : (endpoint.send (.error code text)).Makes fun e =>
        SocketMove t ⟨.ready, t.config.timeout⟩ e ⟨.ready, t.config.timeout⟩ :=
      Endpoint.makes_send fun answer => .sends _ answer
    refine leads_bind (leads_of_makes hsend) fun ⟨sent, _⟩ w hsent => ?_
    obtain rfl := hsent
    refine leads_bind (Endpoint.leads_close (Or.inl rfl)) fun _ w hgone => ?_
    obtain rfl := hgone
    cases sent with
    | error failure => exact hcomplain rfl
    | ok => exact leads_pure rfl

/-! ## Preparations -/

theorem timeout_pos_of_check (h : t.config.check = .ok ()) : 0 < t.config.timeout := by
  by_contra hnot
  obtain ⟨failure, hrefused⟩ := Config.check_error_iff.mpr (Or.inr (not_lt.mp hnot))
  rw [h] at hrefused
  cases hrefused

/-- The negotiated timeout is in force, and positive. -/
theorem grantedTimeout_of_negotiate {direction : Direction} {p : Parameters}
    (h : negotiate t.requested direction t.config.timeout = .ok p) :
    p.timeout = t.grantedTimeout :=
  negotiated_timeout h

/-- A preparation ends with a socket that is ready, or without a socket. -/
def Prepares (x : Except Failure α) (w : Watch) : Prop :=
  match x with
  | .ok _ => w.stage = .ready
  | .error _ => SocketLess w

/-- Which timeout is in force depends on how the file opens. -/
theorem leads_open {name : Bytes} {opening : Program (Except SystemError Unit)}
    (h : opening = ask (.openForReading name) ∨ opening = ask (.openForWriting name)) :
    opening.Leads (SocketMove t) ⟨.absent, t.grantedTimeout⟩ fun opened w => w = ⟨.absent,
      match opened with
      | .ok () => t.grantedTimeout
      | .error _ => t.config.timeout⟩ := by
  rcases h with rfl | rfl
  all_goals
    refine leads_ask fun answer => ?_
    cases answer with
    | ok => exact ⟨_, .aside id id, rfl⟩
    | error reason => exact ⟨_, .unopened trivial, rfl⟩

theorem leads_reportUnopened (valid : 0 < t.config.timeout) {code : ErrorCode} {text : Bytes}
    {failure : Failure} :
    (t.reportFileError code text >>= fun _ =>
      (pure (.error failure) : Program (Except Failure α))).Leads (SocketMove t)
        ⟨.absent, t.config.timeout⟩ Prepares :=
  leads_bind (leads_reportFileError valid code text) fun _ _ hgone => leads_pure (Or.inr hgone)

theorem leads_ready_map (positive : 0 < ms) {g : Endpoint → α} :
    (Endpoint.ready t.here t.peer ms >>= fun x =>
      match x with
      | .error failure => (pure (.error failure) : Program (Except Failure α))
      | .ok endpoint => pure (.ok (g endpoint))).Leads (SocketMove t) ⟨.absent, ms⟩ Prepares := by
  refine leads_bind (Endpoint.leads_ready positive) fun x w hready => ?_
  cases x with
  | error failure =>
    obtain rfl := hready
    exact leads_pure (Or.inr rfl)
  | ok endpoint =>
    obtain rfl := hready
    exact leads_pure rfl

theorem leads_prepareSend :
    t.prepareSend.Leads (SocketMove t) ⟨.absent, t.grantedTimeout⟩ Prepares := by
  unfold prepareSend
  cases hcheck : t.config.check with
  | error failure => exact leads_pure (Or.inl rfl)
  | ok =>
    have hvalid := timeout_pos_of_check hcheck
    refine leads_bind (leads_open (Or.inl rfl)) fun opened w hopened => ?_
    obtain rfl := hopened
    cases opened with
    | error reason => exact leads_reportUnopened hvalid
    | ok =>
      have hmeasure : (ask .fileSize).Leads (SocketMove t) ⟨.absent, t.grantedTimeout⟩
          fun _ w => w = ⟨.absent, t.grantedTimeout⟩ :=
        leads_ask fun _ => ⟨_, .aside id id, rfl⟩
      refine leads_bind hmeasure fun size w hmeasured => ?_
      obtain rfl := hmeasured
      cases size with
      | error reason => exact leads_pure (Or.inl rfl)
      | ok size =>
        dsimp only
        cases hnegotiate : negotiate t.requested (.send size) t.config.timeout with
        | error failure => exact leads_pure (Or.inl rfl)
        | ok p =>
          have hpositive := (settled_of_negotiate hnegotiate).timeout_pos hvalid
          rw [← grantedTimeout_of_negotiate hnegotiate]
          exact leads_ready_map hpositive (g := fun endpoint => (Direction.send size, p, endpoint))

theorem leads_prepareReceive :
    t.prepareReceive.Leads (SocketMove t) ⟨.absent, t.grantedTimeout⟩ Prepares := by
  unfold prepareReceive
  cases hcheck : t.config.check with
  | error failure => exact leads_pure (Or.inl rfl)
  | ok =>
    have hvalid := timeout_pos_of_check hcheck
    dsimp only
    cases hnegotiate : negotiate t.requested .receive t.config.timeout with
    | error failure => exact leads_pure (Or.inl rfl)
    | ok p =>
      refine leads_bind (leads_open (Or.inr rfl)) fun opened w hopened => ?_
      obtain rfl := hopened
      cases opened with
      | error reason => exact leads_reportUnopened hvalid
      | ok =>
        have hpositive := (settled_of_negotiate hnegotiate).timeout_pos hvalid
        dsimp only
        rw [← grantedTimeout_of_negotiate hnegotiate]
        exact leads_ready_map hpositive (g := fun endpoint => (p, endpoint))

/-! ## Served transfers -/

/-- The calls of a sender leave the socket ready. -/
theorem socketMove_of_asks_sender {u : Sender} {call : Call} {resume : call.Answer → Sender}
    (asks : u.Asks call resume) (answer : call.Answer) :
    SocketMove t ⟨.ready, ms⟩ ⟨call, answer⟩ ⟨.ready, ms⟩ := by
  cases asks with
  | confirming | awaiting => exact .receives _ answer
  | rejecting | sending => exact .sends _ answer
  | reading | polling => exact .aside id id

/-- The calls of a receiver leave the socket ready. -/
theorem socketMove_of_asks_receiver {u : Receiver} {call : Call} {resume : call.Answer → Receiver}
    (asks : u.Asks call resume) (answer : call.Answer) :
    SocketMove t ⟨.ready, ms⟩ ⟨call, answer⟩ ⟨.ready, ms⟩ := by
  cases asks with
  | awaiting => exact .receives _ answer
  | repeating | refusing | acknowledging => exact .sends _ answer
  | polling | writing | flushing => exact .aside id id

theorem leads_acceptRequest {endpoint : Endpoint} {acknowledged : List OptionEntry}
    {direction : Direction} :
    (endpoint.acceptRequest acknowledged direction).Leads (SocketMove t) ⟨.ready, ms⟩
      fun _ w => w = ⟨.ready, ms⟩ :=
  leads_of_makes (makes_acceptRequest fun _ _ answer => .sends _ answer)

theorem leads_runSender {s : Sender} :
    (runSender s).Leads (SocketMove t) ⟨.ready, ms⟩ fun _ w => w = ⟨.ready, ms⟩ := by
  have hmakes : (runSender s >>= pure).Makes fun e => SocketMove t ⟨.ready, ms⟩ e ⟨.ready, ms⟩ :=
    makes_runSender (fun asks answer => socketMove_of_asks_sender asks answer)
      fun _ => makes_pure _
  rw [bind_pure] at hmakes
  exact leads_of_makes hmakes

theorem leads_runReceiver {u : Receiver} :
    (runReceiver u).Leads (SocketMove t) ⟨.ready, ms⟩ fun _ w => w = ⟨.ready, ms⟩ := by
  have hmakes : (runReceiver u >>= pure).Makes
      fun e => SocketMove t ⟨.ready, ms⟩ e ⟨.ready, ms⟩ :=
    makes_runReceiver (fun asks answer => socketMove_of_asks_receiver asks answer)
      fun _ => makes_pure _
  rw [bind_pure] at hmakes
  exact leads_of_makes hmakes

theorem leads_close_failed {failure : Failure} {transferred : Nat} {misses : UInt32} :
    (Endpoint.close >>= fun _ => failed failure transferred misses).Leads (SocketMove t)
      ⟨.ready, ms⟩ fun _ w => SocketLess w := by
  refine leads_bind (Endpoint.leads_close (Or.inl rfl)) fun _ w hgone => ?_
  obtain rfl := hgone
  refine (leads_reports reports_failed).mono ?_
  rintro _ _ rfl
  exact Or.inr rfl

theorem leads_succeeded_close {verb preposition : Bytes} {start : Int} {transferred : Nat}
    {misses : UInt32} :
    (t.succeeded verb preposition start transferred misses >>= fun result =>
      Endpoint.close >>= fun _ => pure result).Leads (SocketMove t) ⟨.ready, ms⟩
        fun _ w => SocketLess w := by
  have hsucceeded : (t.succeeded verb preposition start transferred misses).Makes Event.Reports :=
    makes_bind (makes_ask .timing) fun _ => makes_bind reports_log fun _ => makes_pure _
  refine leads_bind (leads_reports hsucceeded) fun result w hready => ?_
  obtain rfl := hready
  refine leads_bind (Endpoint.leads_close (Or.inl rfl)) fun _ w hgone => ?_
  obtain rfl := hgone
  exact leads_pure (Or.inr rfl)

theorem leads_serveSend {start : Int} {direction : Direction} {p : Parameters}
    {endpoint : Endpoint} :
    (t.serveSend start direction p endpoint).Leads (SocketMove t) ⟨.ready, ms⟩
      fun _ w => SocketLess w := by
  refine leads_bind leads_acceptRequest fun ⟨accepted, endpoint⟩ w hready => ?_
  obtain rfl := hready
  cases accepted with
  | error failure => exact leads_close_failed
  | ok =>
    refine leads_bind leads_runSender fun s w hready => ?_
    obtain rfl := hready
    split
    · exact leads_close_failed
    · refine leads_bind leads_runSender fun s w hready => ?_
      obtain rfl := hready
      split
      · exact leads_close_failed
      · exact leads_succeeded_close

theorem leads_serveReceive {start : Int} {p : Parameters} {endpoint : Endpoint} :
    (t.serveReceive start p endpoint).Leads (SocketMove t) ⟨.ready, ms⟩
      fun _ w => SocketLess w := by
  refine leads_bind leads_acceptRequest fun ⟨accepted, endpoint⟩ w hready => ?_
  obtain rfl := hready
  cases accepted with
  | error failure => exact leads_close_failed
  | ok =>
    refine leads_bind leads_runReceiver fun s w hready => ?_
    obtain rfl := hready
    split
    · exact leads_close_failed
    · exact leads_succeeded_close

/-! ## Whole transfers -/

/-- A transfer that could not be prepared leaves no socket. -/
theorem leads_failed {failure : Failure} (socketLess : SocketLess w) :
    (failed failure 0 0).Leads (SocketMove t) w fun _ w => SocketLess w := by
  refine (leads_reports reports_failed).mono ?_
  rintro _ _ rfl
  exact socketLess

theorem leads_readClock {w : Watch} :
    (ask .readClock).Leads (SocketMove t) w fun _ w' => w' = w :=
  leads_ask fun _ => ⟨w, .aside id id, rfl⟩

/-- **A sender keeps to the order**, and ends without a socket. -/
theorem leads_send :
    t.send.Leads (SocketMove t) ⟨.absent, t.grantedTimeout⟩ fun _ w => SocketLess w := by
  refine leads_bind leads_readClock fun start w hstart => ?_
  obtain rfl := hstart
  refine leads_bind leads_prepareSend fun prepared w hprepared => ?_
  cases prepared with
  | error failure => exact leads_failed hprepared
  | ok prepared =>
    obtain ⟨stage, ms⟩ := w
    obtain rfl : stage = .ready := hprepared
    exact leads_serveSend

/-- **A receiver keeps to the order**, and ends without a socket. -/
theorem leads_receive :
    t.receive.Leads (SocketMove t) ⟨.absent, t.grantedTimeout⟩ fun _ w => SocketLess w := by
  refine leads_bind leads_readClock fun start w hstart => ?_
  obtain rfl := hstart
  refine leads_bind leads_prepareReceive fun prepared w hprepared => ?_
  cases prepared with
  | error failure => exact leads_failed hprepared
  | ok prepared =>
    obtain ⟨stage, ms⟩ := w
    obtain rfl : stage = .ready := hprepared
    exact leads_serveReceive

end Transfer

/-! ## The discipline -/

/-- The event sends a datagram or waits for one. -/
def Event.Transmits (e : Event) : Prop :=
  match e.call with
  | .sendDatagram _ | .receiveDatagram _ => True
  | _ => False

/-- **What holds of the socket** in a run of a transfer. -/
structure Transfer.SocketDiscipline (t : Transfer) (es : List Event) (r : Option Result) :
    Prop where
  /-- At most one socket is asked for. -/
  single : es.countP Event.asksForSocket ≤ 1
  /-- Only a socket that was made is closed, and only once. -/
  closed_le : es.countP Event.closesSocket ≤ es.countP Event.createsSocket
  /-- It is closed before there is a result. -/
  closed : r.isSome → es.countP Event.closesSocket = es.countP Event.createsSocket
  /-- Before anything is sent or waited for, the socket was made, bound, connected and given both
  deadlines, and has not been closed. -/
  readied : ∀ before e after, es = before ++ e :: after → e.Transmits →
    (∃ bound deadline, (Endpoint.readyTrace t.here bound t.peer deadline).Sublist before) ∧
      ⟨.closeSocket, ()⟩ ∉ before
  /-- All deadlines are the same. -/
  alike : ∀ e ∈ es, ∀ e' ∈ es, ∀ deadline deadline', e.deadline? = some deadline →
    e'.deadline? = some deadline' → deadline = deadline'
  /-- They measure the timeout that was negotiated, -/
  granted : (∀ e ∈ es, ¬ e.FailsToOpen) →
    ∀ e ∈ es, ∀ deadline, e.deadline? = some deadline → deadline.Measures t.grantedTimeout
  /-- or that of the configuration, to report a file that cannot be opened. -/
  reported : (∃ e ∈ es, e.FailsToOpen) →
    ∀ e ∈ es, ∀ deadline, e.deadline? = some deadline → deadline.Measures t.config.timeout

section Discipline

variable {es : List Event} {r : Option Result} {e : Event} {w' : Watch}

theorem counted_of_along (h : Along (SocketMove t) ⟨.absent, ms⟩ es w) : Counted es w.stage :=
  h.induction (P := fun es w => Counted es w.stage) ⟨rfl, rfl, fun _ => rfl⟩ Counted.next

theorem readied_of_along (h : Along (SocketMove t) ⟨.absent, ms⟩ es w) : Readied t es w :=
  h.induction (readied_of_unready rfl []) Readied.next

theorem timed_of_along (h : Along (SocketMove t) ⟨.absent, t.grantedTimeout⟩ es w) :
    Timed t es w := by
  refine h.induction ⟨fun _ => List.forall_mem_nil _, List.forall_mem_nil _, fun _ => rfl, ?_⟩
    Timed.next
  rintro ⟨e, he, -⟩
  cases he

theorem Event.Transmits.onSocket (h : e.Transmits) : e.OnSocket := by
  obtain ⟨call, answer⟩ := e
  cases call with
  | sendDatagram | receiveDatagram => trivial
  | _ => exact h.elim

/-- A datagram is sent or waited for only over a socket that is ready. -/
theorem ready_of_transmits (move : SocketMove t w e w') (transmits : e.Transmits) :
    w.stage = .ready := by
  cases move with
  | sends | receives => rfl
  | aside offSocket => exact absurd transmits.onSocket offSocket
  | unopened fails => exact absurd transmits.onSocket fails.not_onSocket
  | creates | uncreated | binds | connects | boundsReads | boundsWrites | closes =>
    exact transmits.elim

/-- A program that keeps to the order, and ends without a socket, keeps the discipline. -/
theorem disciplined_of_leads {p : Program Result}
    (leads : p.Leads (SocketMove t) ⟨.absent, t.grantedTimeout⟩ fun _ w => Transfer.SocketLess w)
    (h : p.Does es r) : t.SocketDiscipline es r := by
  obtain ⟨w, halong, hends⟩ := leads h
  have hcounted := counted_of_along halong
  have htimed := timed_of_along halong
  refine ⟨?_, ?_, ?_, ?_, ?_, ?_, ?_⟩
  · rw [hcounted.asked]
    split <;> decide
  · rw [hcounted.live]
    exact Nat.le_add_right _ _
  · intro hresult
    obtain ⟨result, hr⟩ := Option.isSome_iff_exists.mp hresult
    have hlive : w.stage.live = 0 := by
      rcases hends result hr with hstage | hstage <;> rw [hstage] <;> rfl
    rw [hcounted.live, hlive, Nat.add_zero]
  · rintro before e after rfl htransmits
    obtain ⟨w', hbefore, hrest⟩ := halong.split
    cases hrest with
    | cons first _ =>
      have hready := ready_of_transmits first htransmits
      obtain ⟨bound, hsub⟩ := readied_of_along hbefore
      rw [hready] at hsub
      refine ⟨⟨bound, _, hsub⟩, fun hclosed => ?_⟩
      have hcount := (counted_of_along hbefore).unclosed (by rw [hready]; nofun)
      exact absurd rfl (List.countP_eq_zero.mp hcount _ hclosed)
  · intro e he e' he' deadline deadline' hsets hsets'
    exact (htimed.deadlines e he deadline hsets).eq (htimed.deadlines e' he' deadline' hsets')
  · intro hopens
    rw [← htimed.granted hopens]
    exact htimed.deadlines
  · intro hfails
    rw [← htimed.reported hfails]
    exact htimed.deadlines

end Discipline

/-- **The discipline of the socket.** However the calls on the file and the socket are answered, and
wherever the transfer ends, both a sender and a receiver make at most one socket, send and wait only
while it is ready, set no deadline but that of the timeout in force, and close it before they have a
result. -/
theorem socket_disciplined (t : Transfer) (es : List Event) (r : Option Result) :
    (t.send.Does es r → t.SocketDiscipline es r) ∧
      (t.receive.Does es r → t.SocketDiscipline es r) :=
  ⟨disciplined_of_leads Transfer.leads_send, disciplined_of_leads Transfer.leads_receive⟩

/-- A transfer whose peer asks for a longer timeout than the configuration has. -/
def patientTransfer : Transfer :=
  ⟨⟨1, 1500⟩, .unspecified, .unspecified, [102], [⟨.timeout, 3⟩]⟩

/-- A file that cannot be created is reported within a second and a half; over a file that is
created the deadlines are three seconds. A socket that refuses its deadline is closed all the
same. -/
theorem socket_disciplined_patient :
    (∃ es result, patientTransfer.receive.Does es (some result) ∧
      ⟨.setReadDeadline ⟨1, 500000⟩, .ok ()⟩ ∈ es ∧
      TimeSpan.Measures ⟨1, 500000⟩ patientTransfer.config.timeout ∧
      es.countP Event.closesSocket = 1) ∧
    ∃ es result, patientTransfer.send.Does es (some result) ∧
      ⟨.setReadDeadline ⟨3, 0⟩, .error .invalidArgument⟩ ∈ es ∧
      TimeSpan.Measures ⟨3, 0⟩ patientTransfer.grantedTimeout ∧
      es.countP Event.closesSocket = 1 := by
  constructor
  · have run : ∃ stream line, patientTransfer.receive.Does
        [⟨.readClock, 0⟩, ⟨.openForWriting [102], .error .permissionDenied⟩,
          ⟨.createSocket, .ok ()⟩, ⟨.bindSocket .unspecified, .ok .unspecified⟩,
          ⟨.connectSocket .unspecified, .ok ()⟩, ⟨.setReadDeadline ⟨1, 500000⟩, .ok ()⟩,
          ⟨.setWriteDeadline ⟨1, 500000⟩, .ok ()⟩,
          ⟨.sendDatagram (Packet.error .accessViolation (Bytes.ascii "Access violation")).encode,
            .ok ()⟩,
          ⟨.closeSocket, ()⟩, ⟨.readWallClock, 0⟩, ⟨.print stream line, ()⟩]
        (some ⟨some (.cannotCreate [102] .permissionDenied), 0, 0⟩) := by
      apply Exists.intro
      apply Exists.intro
      repeat refine does_cons_iff.mpr ⟨_, rfl, ?_⟩
      exact does_nil_iff.mpr rfl
    obtain ⟨stream, line, hdoes⟩ := run
    have hdiscipline := (socket_disciplined patientTransfer _ _).2 hdoes
    refine ⟨_, _, hdoes, by simp, ?_, ?_⟩
    · exact hdiscipline.reported
        ⟨⟨.openForWriting [102], .error .permissionDenied⟩, by simp, trivial⟩
        ⟨.setReadDeadline ⟨1, 500000⟩, .ok ()⟩ (by simp) _ rfl
    · rw [hdiscipline.closed rfl]
      rfl
  · have run : ∃ stream line, patientTransfer.send.Does
        [⟨.readClock, 0⟩, ⟨.openForReading [102], .ok ()⟩, ⟨.fileSize, .ok 3⟩,
          ⟨.createSocket, .ok ()⟩, ⟨.bindSocket .unspecified, .ok .unspecified⟩,
          ⟨.connectSocket .unspecified, .ok ()⟩,
          ⟨.setReadDeadline ⟨3, 0⟩, .error .invalidArgument⟩,
          ⟨.closeSocket, ()⟩, ⟨.readWallClock, 0⟩, ⟨.print stream line, ()⟩]
        (some ⟨some (.socketFailed .readDeadline .invalidArgument), 0, 0⟩) := by
      apply Exists.intro
      apply Exists.intro
      repeat refine does_cons_iff.mpr ⟨_, rfl, ?_⟩
      exact does_nil_iff.mpr rfl
    obtain ⟨stream, line, hdoes⟩ := run
    have hdiscipline := (socket_disciplined patientTransfer _ _).1 hdoes
    refine ⟨_, _, hdoes, by simp, ?_, ?_⟩
    · refine hdiscipline.granted ?_ ⟨.setReadDeadline ⟨3, 0⟩, .error .invalidArgument⟩
        (by simp) _ rfl
      simp [Event.FailsToOpen]
    · rw [hdiscipline.closed rfl]
      rfl

end Tftp
