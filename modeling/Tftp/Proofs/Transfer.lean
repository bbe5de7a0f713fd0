import Tftp.Transfer
import Tftp.Proofs.Asks
import Tftp.Proofs.Endpoint
import Tftp.Proofs.RoundTrip

/-!
# The course of a transfer

A run of a transfer is cut into its parts: it prepares the file and the socket, answers the request
with a greeting if there is one, leaves the rest to a sender or a receiver, and concludes. A run
that could not prepare everything only reports that.

* `Serves` is what happens once everything is prepared, with `SendsFile` and `ReceivesFile` for the
  part of the engines and `Concluding` for the end.
* `Unserved` is a run that did not come so far.

Results:
* `does_serveSend` and `does_serveReceive`: what happens once everything is prepared.
* **`does_transferSend`** and **`does_transferReceive`**: all the ways in which a run may go.

The order is that of the specification (§10.5): a sender opens, negotiates, sets up its socket,
acknowledges, waits for the first answer and sends; a receiver negotiates, creates, sets up its
socket, greets and receives. Each result about whole transfers begins with a case analysis on one of
the two main theorems here and uses what is known of the parts.

Out of scope: the parts themselves. `Runs` of the engines are left as they are, for the modules on
sending and receiving.
-/

namespace Tftp

open Program

/-! ## Sorts of events -/

/-- The event opens the file. -/
def Event.OpensFile : Event → Prop
  | ⟨.openForReading _, .ok ()⟩ | ⟨.openForWriting _, .ok ()⟩ => True
  | _ => False

/-- The file was opened, and the deadlines of the socket were set, of which that for writes is the
last one. -/
def SetUp (es : List Event) : Prop := (∃ e ∈ es, e.OpensFile) ∧ ∃ e ∈ es, e.BoundsWrites

/-- The event waits for nothing of the peer, and tells it nothing but an error. -/
def Event.Prepares (e : Event) : Prop :=
  match e.call with
  | .receiveDatagram _ => False
  | .sendDatagram bytes => ∃ code text, bytes = (Packet.error code text).encode
  | _ => True

/-- The event closes the socket or reports how the transfer went. -/
inductive Event.Concludes : Event → Prop where
  | closing : Concludes ⟨.closeSocket, ()⟩
  | timing (now : Int) : Concludes ⟨.readClock, now⟩
  | dating (now : Int) : Concludes ⟨.readWallClock, now⟩
  | printing (stream : Stream) (line : Bytes) : Concludes ⟨.print stream line, ()⟩

/-- The event reads a clock or prints a line. -/
inductive Event.Reports : Event → Prop where
  | timing (now : Int) : Reports ⟨.readClock, now⟩
  | dating (now : Int) : Reports ⟨.readWallClock, now⟩
  | printing (stream : Stream) (line : Bytes) : Reports ⟨.print stream line, ()⟩

theorem Event.Reports.concludes {e : Event} (h : e.Reports) : e.Concludes := by
  cases h with
  | timing now => exact .timing now
  | dating now => exact .dating now
  | printing stream line => exact .printing stream line

theorem Event.PreparesSocket.prepares {e : Event} (h : e.PreparesSocket) : e.Prepares := by
  cases h <;> trivial

theorem Event.PreparesSocket.not_opensFile {e : Event} (h : e.PreparesSocket) : ¬ e.OpensFile := by
  cases h <;> exact id

theorem Event.Concludes.prepares {e : Event} (h : e.Concludes) : e.Prepares := by
  cases h <;> trivial

theorem Event.Concludes.not_opensFile {e : Event} (h : e.Concludes) : ¬ e.OpensFile := by
  cases h <;> exact id

theorem Event.Concludes.not_boundsWrites {e : Event} (h : e.Concludes) : ¬ e.BoundsWrites := by
  cases h <;> exact id

theorem Event.Concludes.handed? {e : Event} (h : e.Concludes) : e.handed? = none := by
  cases h <;> rfl

/-! ## The end of a transfer -/

/-- The result of a transfer whose engine ended with an outcome. -/
def Result.ofOutcome (outcome : Except Failure Unit) (transferred : Nat) (misses : UInt32) :
    Result :=
  match outcome with
  | .ok () => ⟨none, transferred, misses⟩
  | .error failure => ⟨some failure, transferred, misses⟩

/-- A transfer whose engine came to `outcome?` concludes with the events `tail` and the result. -/
structure Concluding (outcome? : Option (Except Failure Unit)) (transferred : Nat) (misses : UInt32)
    (tail : List Event) (r : Option Result) : Prop where
  concludes : ∀ e ∈ tail, e.Concludes
  ended : outcome? = none → tail = [] ∧ r = none
  result : ∀ result, r = some result →
    ∃ outcome, outcome? = some outcome ∧ result = .ofOutcome outcome transferred misses

section Conclusion

variable {es : List Event} {r : Option Result} {transferred : Nat} {misses : UInt32}

theorem reports_log {level : Level} {message : Bytes} :
    (log level message).Makes Event.Reports := by
  refine makes_bind (makes_ask .dating) fun now => ?_
  split
  · exact makes_pure _
  · exact makes_ask fun _ => .printing _ _

theorem makes_log {level : Level} {message : Bytes} :
    (log level message).Makes Event.Concludes :=
  reports_log.mono fun _ h => h.concludes

/-- A transfer succeeds only if its engine did, and counts what that counted. -/
theorem Concluding.succeeds {outcome? : Option (Except Failure Unit)}
    (h : Concluding outcome? transferred misses es r) {result : Result} (hr : r = some result)
    (ok : result.ok = true) : outcome? = some (.ok ()) ∧ result.transferred = transferred := by
  obtain ⟨outcome, rfl, rfl⟩ := h.result result hr
  cases outcome with
  | ok => exact ⟨rfl, rfl⟩
  | error failure => cases ok

/-- A transfer whose engine did not succeed does not succeed. -/
theorem Concluding.fails {outcome? : Option (Except Failure Unit)}
    (h : Concluding outcome? transferred misses es r) (unsuccessful : outcome? ≠ some (.ok ())) :
    ∀ result, r = some result → result.ok = false := by
  intro result hr
  by_contra hok
  exact unsuccessful (h.succeeds hr (eq_true_of_ne_false hok)).1

theorem concluding_underWay : Concluding none transferred misses [] none := by
  refine ⟨List.forall_mem_nil _, fun _ => ⟨rfl, rfl⟩, ?_⟩
  intro result hr
  cases hr

/-- A program of such events that has only one result concludes the transfer with it. -/
theorem concluding_of_does {p : Program Result} {outcome : Except Failure Unit}
    (makes : p.Makes Event.Concludes)
    (result : ∀ es result, p.Does es (some result) → result = .ofOutcome outcome transferred misses)
    (h : p.Does es r) : Concluding (some outcome) transferred misses es r := by
  refine ⟨makes h, nofun, ?_⟩
  rintro last rfl
  exact ⟨outcome, rfl, result es last h⟩

theorem reports_failed {failure : Failure} :
    (Transfer.failed failure transferred misses).Makes Event.Reports :=
  makes_bind reports_log fun _ => makes_pure _

theorem makes_failed {failure : Failure} :
    (Transfer.failed failure transferred misses).Makes Event.Concludes :=
  reports_failed.mono fun _ h => h.concludes

theorem does_failed_some {failure : Failure} {result : Result}
    (h : (Transfer.failed failure transferred misses).Does es (some result)) :
    result = .ofOutcome (.error failure) transferred misses := by
  obtain ⟨_, _, _, -, -, hlast⟩ := does_bind_some h
  exact Option.some.inj (does_pure hlast).2

theorem makes_close_failed {failure : Failure} :
    (Endpoint.close >>= fun _ => Transfer.failed failure transferred misses).Makes
      Event.Concludes :=
  makes_bind (Endpoint.makes_close .closing) fun _ => makes_failed

theorem makes_succeeded_close {t : Transfer} {verb preposition : Bytes} {start : Int} :
    (t.succeeded verb preposition start transferred misses >>= fun result =>
      Endpoint.close >>= fun _ => pure result).Makes Event.Concludes := by
  refine makes_bind ?_ fun result =>
    makes_bind (Endpoint.makes_close .closing) fun _ => makes_pure _
  exact makes_bind (makes_ask .timing) fun now => makes_bind makes_log fun _ => makes_pure _

theorem concluding_close_failed {failure : Failure}
    (h : (Endpoint.close >>= fun _ => Transfer.failed failure transferred misses).Does es r) :
    Concluding (some (.error failure)) transferred misses es r := by
  refine concluding_of_does makes_close_failed ?_ h
  intro es result hdone
  obtain ⟨_, _, _, -, -, hlast⟩ := does_bind_some hdone
  exact does_failed_some hlast

theorem concluding_succeeded_close {t : Transfer} {verb preposition : Bytes} {start : Int}
    (h : (t.succeeded verb preposition start transferred misses >>= fun result =>
      Endpoint.close >>= fun _ => pure result).Does es r) :
    Concluding (some (.ok ())) transferred misses es r := by
  refine concluding_of_does makes_succeeded_close ?_ h
  intro es result hdone
  obtain ⟨_, _, succeeded, -, hsucceeded, hclosed⟩ := does_bind_some hdone
  obtain ⟨_, _, _, -, -, hlast⟩ := does_bind_some hclosed
  obtain ⟨_, _, now, -, -, hlogged⟩ := does_bind_some hsucceeded
  obtain ⟨_, _, _, -, -, hresult⟩ := does_bind_some hlogged
  obtain ⟨-, hresult⟩ := does_pure hresult
  obtain ⟨-, hlast⟩ := does_pure hlast
  cases hresult
  exact Option.some.inj hlast

end Conclusion

/-! ## Serving the file -/

/-- A sender confirms the transfer and sends the file, and the transfer concludes. -/
inductive SendsFile (blockSize maxRetries : Nat) : List Event → Option Result → Prop where
  | confirming {traffic : Traffic} {conf tail : List Event} {s : Sender} {r : Option Result}
      (run : Runs Sender.ask? (Sender.new blockSize maxRetries traffic).confirm conf s)
      (unconfirmed : s.outcome? ≠ some (.ok ()))
      (concluding : Concluding s.outcome? s.transferred s.misses tail r) :
      SendsFile blockSize maxRetries (conf ++ tail) r
  | sending {traffic : Traffic} {conf sends tail : List Event} {s u : Sender} {r : Option Result}
      (run : Runs Sender.ask? (Sender.new blockSize maxRetries traffic).confirm conf s)
      (confirmed : s.outcome? = some (.ok ()))
      (run' : Runs Sender.ask? s.sendFile sends u)
      (concluding : Concluding u.outcome? u.transferred u.misses tail r) :
      SendsFile blockSize maxRetries (conf ++ (sends ++ tail)) r

/-- A receiver receives the file, and the transfer concludes. -/
inductive ReceivesFile (blockSize maxRetries : Nat) : List Event → Option Result → Prop where
  | receiving {traffic : Traffic} {receives tail : List Event} {u : Receiver} {r : Option Result}
      (run : Runs Receiver.ask? (Receiver.new blockSize maxRetries traffic).receiveFile receives u)
      (concluding : Concluding u.outcome? u.transferred u.misses tail r) :
      ReceivesFile blockSize maxRetries (receives ++ tail) r

/-- With everything prepared, the request is answered with a greeting, and `engine` does the
rest. -/
inductive Serves (greeting? : Option Packet) (engine : List Event → Option Result → Prop) :
    List Event → Option Result → Prop where
  | greeting {packet : Packet} (greets : greeting? = some packet) : Serves greeting? engine [] none
  | unsent {packet : Packet} {reason : SystemError} {tail : List Event} {r : Option Result}
      (greets : greeting? = some packet)
      (concluding : Concluding (some (.error (.socketFailed .send reason))) 0 0 tail r) :
      Serves greeting? engine (⟨.sendDatagram packet.encode, .error reason⟩ :: tail) r
  | served {es : List Event} {r : Option Result} (serving : engine es r) :
      Serves greeting? engine (Endpoint.greetingTrace greeting? ++ es) r

/-- No greeting is data. -/
theorem not_carriesData_greeting {acknowledged : List OptionEntry} {direction : Direction}
    {packet : Packet} (h : Endpoint.greeting? acknowledged direction = some packet) :
    ¬ CarriesData packet.encode := by
  intro hdata
  have hopcode := opcode_of_carriesData hdata
  cases acknowledged with
  | nil =>
    cases direction with
    | send total => cases h
    | receive =>
      cases h
      cases hopcode
  | cons option options =>
    cases h
    cases hopcode

section Serving

variable {t : Transfer} {start : Int} {endpoint : Endpoint} {peer : Address} {p : Parameters}
  {es : List Event} {r : Option Result}

/-- A greeting that was handed out leaves the rest to the engine, and one that was not ends the
transfer. -/
theorem serves_of_greets {acknowledged : List OptionEntry} {direction : Direction}
    {engine : List Event → Option Result → Prop} {serve : Endpoint → Program Result}
    (connected : endpoint.peer = some peer)
    (serving : ∀ endpoint es r, (serve endpoint).Does es r → engine es r)
    (h : (endpoint.acceptRequest acknowledged direction >>= fun x =>
      match x with
      | (.error failure, _) => Endpoint.close >>= fun _ => Transfer.failed failure 0 0
      | (.ok _, endpoint) => serve endpoint).Does es r) :
    Serves (Endpoint.greeting? acknowledged direction) engine es r := by
  rcases does_bind h with ⟨haccept, rfl⟩ | ⟨first, rest, x, rfl, haccept, hrest⟩
  · have hgreets := Endpoint.does_acceptRequest connected haccept
    cases hgreets with
    | waiting hsome => exact .greeting hsome
  · have hgreets := Endpoint.does_acceptRequest connected haccept
    cases hgreets with
    | accepted => exact .served (serving _ _ _ hrest)
    | unsent hsome => exact .unsent hsome (concluding_close_failed hrest)

theorem does_serveSend (connected : endpoint.peer = some peer)
    (h : (t.serveSend start direction p endpoint).Does es r) :
    Serves (Endpoint.greeting? p.acknowledged direction)
      (SendsFile p.blockSize t.config.maxRetries) es r := by
  refine serves_of_greets connected (fun endpoint es r hserve => ?_) h
  obtain ⟨conf, rest, s, rfl, run, hends⟩ := does_runSender_bind hserve
  rcases hends with ⟨hnone, rfl, rfl⟩ | ⟨outcome, hout, hrest⟩
  · exact .confirming run (by rw [hnone]; nofun) (hnone ▸ concluding_underWay)
  rw [hout] at hrest
  cases outcome with
  | error failure =>
    exact .confirming run (by rw [hout]; nofun) (hout ▸ concluding_close_failed hrest)
  | ok =>
    obtain ⟨sends, tail, u, rfl, run', hends⟩ := does_runSender_bind hrest
    refine .sending run hout run' ?_
    rcases hends with ⟨hnone, rfl, rfl⟩ | ⟨outcome, hout', htail⟩
    · rw [hnone]
      exact concluding_underWay
    rw [hout'] at htail ⊢
    cases outcome with
    | error failure => exact concluding_close_failed htail
    | ok => exact concluding_succeeded_close htail

theorem does_serveReceive (connected : endpoint.peer = some peer)
    (h : (t.serveReceive start p endpoint).Does es r) :
    Serves (Endpoint.greeting? p.acknowledged .receive)
      (ReceivesFile p.blockSize t.config.maxRetries) es r := by
  refine serves_of_greets connected (fun endpoint es r hserve => ?_) h
  obtain ⟨receives, tail, u, rfl, run, hends⟩ := does_runReceiver_bind hserve
  refine .receiving run ?_
  rcases hends with ⟨hnone, rfl, rfl⟩ | ⟨outcome, hout, htail⟩
  · rw [hnone]
    exact concluding_underWay
  rw [hout] at htail ⊢
  cases outcome with
  | error failure => exact concluding_close_failed htail
  | ok => exact concluding_succeeded_close htail

end Serving

/-! ## The events of a served transfer -/

section Making

variable {t : Transfer} {sort : Event → Prop}

theorem makes_runSender {β : Type} {s : Sender} {f : Sender → Program β}
    (asks : ∀ {u : Sender} {call resume}, u.Asks call resume → ∀ answer, sort ⟨call, answer⟩)
    (then_ : ∀ u, (f u).Makes sort) : (runSender s >>= f).Makes sort := by
  intro es r h e he
  obtain ⟨calls, rest, u, rfl, run, hends⟩ := does_runSender_bind h
  rcases List.mem_append.mp he with hcalls | hrest
  · obtain ⟨v, resume, hask⟩ := run.asked hcalls
    exact asks (Sender.asks_of_ask? hask) e.answer
  · rcases hends with ⟨-, rfl, -⟩ | ⟨_, -, hafter⟩
    · cases hrest
    · exact then_ _ hafter e hrest

theorem makes_runReceiver {β : Type} {u : Receiver} {f : Receiver → Program β}
    (asks : ∀ {u : Receiver} {call resume}, u.Asks call resume → ∀ answer, sort ⟨call, answer⟩)
    (then_ : ∀ u, (f u).Makes sort) : (runReceiver u >>= f).Makes sort := by
  intro es r h e he
  obtain ⟨calls, rest, u, rfl, run, hends⟩ := does_runReceiver_bind h
  rcases List.mem_append.mp he with hcalls | hrest
  · obtain ⟨v, resume, hask⟩ := run.asked hcalls
    exact asks (Receiver.asks_of_ask? hask) e.answer
  · rcases hends with ⟨-, rfl, -⟩ | ⟨_, -, hafter⟩
    · cases hrest
    · exact then_ _ hafter e hrest

theorem makes_acceptRequest {endpoint : Endpoint} {acknowledged : List OptionEntry}
    {direction : Direction}
    (send : ∀ packet, Endpoint.greeting? acknowledged direction = some packet →
      ∀ answer, sort ⟨.sendDatagram packet.encode, answer⟩) :
    (endpoint.acceptRequest acknowledged direction).Makes sort := by
  cases acknowledged with
  | cons option options =>
    exact makes_bind (Endpoint.makes_send (send _ rfl)) fun _ => makes_pure _
  | nil =>
    cases direction with
    | send size => exact makes_pure _
    | receive => exact makes_bind (Endpoint.makes_send (send _ rfl)) fun _ => makes_pure _

/-- A file is served by its greeting, the calls of an engine, and a conclusion. -/
theorem makes_serveSend {start : Int} {direction : Direction} {p : Parameters}
    {endpoint : Endpoint}
    (send : ∀ packet, Endpoint.greeting? p.acknowledged direction = some packet →
      ∀ answer, sort ⟨.sendDatagram packet.encode, answer⟩)
    (asks : ∀ {u : Sender} {call resume}, u.Asks call resume → ∀ answer, sort ⟨call, answer⟩)
    (concludes : ∀ e : Event, e.Concludes → sort e) :
    (t.serveSend start direction p endpoint).Makes sort := by
  refine makes_bind (makes_acceptRequest send) fun ⟨accepted, endpoint⟩ => ?_
  cases accepted with
  | error failure => exact makes_close_failed.mono concludes
  | ok =>
    refine makes_runSender asks fun s => ?_
    split
    · exact makes_close_failed.mono concludes
    · refine makes_runSender asks fun s => ?_
      split
      · exact makes_close_failed.mono concludes
      · exact makes_succeeded_close.mono concludes

theorem makes_serveReceive {start : Int} {p : Parameters} {endpoint : Endpoint}
    (send : ∀ packet, Endpoint.greeting? p.acknowledged .receive = some packet →
      ∀ answer, sort ⟨.sendDatagram packet.encode, answer⟩)
    (asks : ∀ {u : Receiver} {call resume}, u.Asks call resume → ∀ answer, sort ⟨call, answer⟩)
    (concludes : ∀ e : Event, e.Concludes → sort e) :
    (t.serveReceive start p endpoint).Makes sort := by
  refine makes_bind (makes_acceptRequest send) fun ⟨accepted, endpoint⟩ => ?_
  cases accepted with
  | error failure => exact makes_close_failed.mono concludes
  | ok =>
    refine makes_runReceiver asks fun u => ?_
    split
    · exact makes_close_failed.mono concludes
    · exact makes_succeeded_close.mono concludes

end Making

/-! ## Preparing the transfer -/

section Preparing

variable {t : Transfer} {p : Parameters} {es : List Event} {r : Option Result}
  {sort : Event → Prop}

theorem makes_reportFileError {code : ErrorCode} {text : Bytes}
    (prepares : ∀ e : Event, e.PreparesSocket → sort e)
    (concludes : ∀ e : Event, e.Concludes → sort e)
    (send : ∀ answer, sort ⟨.sendDatagram (Packet.error code text).encode, answer⟩) :
    (t.reportFileError code text).Makes sort := by
  have hlog : ∀ level message, (log level message).Makes sort :=
    fun _ _ es r h e he => concludes e (makes_log h e he)
  refine makes_bind (Endpoint.makes_ready prepares) fun ready => ?_
  cases ready with
  | error failure => exact hlog _ _
  | ok endpoint =>
    refine makes_bind (Endpoint.makes_send send) fun ⟨sent, _⟩ => ?_
    refine makes_bind (Endpoint.makes_close (concludes _ .closing)) fun _ => ?_
    cases sent with
    | error failure => exact hlog _ _
    | ok => exact makes_pure _

/-- The events that open the file; a sender also learns its length. -/
def openingTrace (t : Transfer) : Direction → List Event
  | .send size => [⟨.openForReading t.file.untilZero, .ok ()⟩, ⟨.fileSize, .ok size⟩]
  | .receive => [⟨.openForWriting t.file.untilZero, .ok ()⟩]

/-- The events that prepare a transfer in a direction, with the parameters that were negotiated. -/
structure Prepared (t : Transfer) (direction : Direction) (p : Parameters) (bound : Address)
    (es : List Event) : Prop where
  negotiated : negotiate t.requested direction t.config.timeout = .ok p
  trace : es = openingTrace t direction
    ++ Endpoint.readyTrace t.here bound t.peer (.ofMilliseconds p.timeout)

theorem Prepared.prepares {direction : Direction} {bound : Address}
    (h : Prepared t direction p bound es) : ∀ e ∈ es, e.Prepares := by
  rw [h.trace]
  cases direction <;> simp [openingTrace, Endpoint.readyTrace, Event.Prepares]

theorem not_setUp_of_unopened (h : ∀ e ∈ es, ¬ e.OpensFile) : ¬ SetUp es :=
  fun ⟨⟨e, he, hopens⟩, _⟩ => h e he hopens

theorem not_setUp_of_unbounded (h : ∀ e ∈ es, ¬ e.BoundsWrites) : ¬ SetUp es :=
  fun ⟨_, e, he, hbounds⟩ => h e he hbounds

theorem not_setUp_nil : ¬ SetUp [] := not_setUp_of_unopened (List.forall_mem_nil _)

/-- A transfer that is not prepared: it is under way or has failed, and has not been set up. -/
structure Unprepared {α : Type} (es : List Event) (r : Option (Except Failure α)) : Prop where
  fails : ∀ prepared, r ≠ some (.ok prepared)
  notSetUp : ¬ SetUp es

theorem unprepared_underWay {α : Type} (notSetUp : ¬ SetUp es) :
    Unprepared es (none : Option (Except Failure α)) :=
  ⟨nofun, notSetUp⟩

theorem unprepared_failed {α : Type} {failure : Failure} (notSetUp : ¬ SetUp es) :
    Unprepared es (some (.error failure : Except Failure α)) :=
  ⟨nofun, notSetUp⟩

/-- A file that could not be opened is only reported. -/
theorem does_reportUnopened {α : Type} {e : Event} {code : ErrorCode} {text : Bytes}
    {failure : Failure} {r : Option (Except Failure α)} (unopened : ¬ e.OpensFile)
    (h : (t.reportFileError code text >>= fun _ => pure (.error failure)).Does es r) :
    Unprepared (e :: es) r := by
  refine ⟨?_, not_setUp_of_unopened (List.forall_mem_cons.mpr ⟨unopened, ?_⟩)⟩
  · rintro prepared rfl
    obtain ⟨_, _, _, -, -, hfailed⟩ := does_bind_some h
    cases (does_pure hfailed).2
  · refine makes_bind (makes_reportFileError ?_ ?_ fun _ => id) (fun _ => makes_pure _) h
    · exact fun e hprepares => hprepares.not_opensFile
    · exact fun e hconcludes => hconcludes.not_opensFile

/-- With the file opened, the transfer is prepared as soon as its socket is ready. -/
theorem does_ready_prepared {α : Type} {direction : Direction} {g : Endpoint → α}
    {r : Option (Except Failure α)}
    (negotiated : negotiate t.requested direction t.config.timeout = .ok p)
    (h : (Endpoint.ready t.here t.peer p.timeout >>= fun x =>
      match x with
      | .error failure => pure (.error failure)
      | .ok endpoint => pure (.ok (g endpoint))).Does es r) :
    (∃ bound, Prepared t direction p bound (openingTrace t direction ++ es) ∧
        r = some (.ok (g ⟨bound, some t.peer, .zero⟩))) ∨
      Unprepared (openingTrace t direction ++ es) r := by
  rcases Endpoint.does_ready_map h with ⟨bound, rfl, rfl⟩ | hunready
  · exact Or.inl ⟨bound, ⟨negotiated, rfl⟩, rfl⟩
  · refine Or.inr ⟨hunready.fails, not_setUp_of_unbounded ?_⟩
    refine List.forall_mem_append.mpr ⟨?_, hunready.unbounded⟩
    cases direction <;> simp [openingTrace, Event.BoundsWrites]

/-- A transfer that sends its file is prepared, or it has not been set up. -/
theorem does_prepareSend {r : Option (Except Failure (Direction × Parameters × Endpoint))}
    (h : t.prepareSend.Does es r) :
    (∃ size p bound, Prepared t (.send size) p bound es ∧
        r = some (.ok (.send size, p, ⟨bound, some t.peer, .zero⟩))) ∨ Unprepared es r := by
  have hopen : ¬ Event.BoundsWrites ⟨.openForReading t.file.untilZero, .ok ()⟩ := id
  have hmeasure : ∀ answer, ¬ Event.BoundsWrites ⟨.fileSize, answer⟩ := fun _ => id
  unfold Transfer.prepareSend at h
  cases hcheck : t.config.check with
  | error failure =>
    rw [hcheck] at h
    obtain ⟨rfl, rfl⟩ := does_pure h
    exact Or.inr (unprepared_failed not_setUp_nil)
  | ok =>
    rw [hcheck] at h
    rcases does_ask_bind h with ⟨rfl, rfl⟩ | ⟨opened, rest, rfl, hopened⟩
    · exact Or.inr (unprepared_underWay not_setUp_nil)
    cases opened with
    | error reason => exact Or.inr (does_reportUnopened id hopened)
    | ok =>
      -- From here on the file is open, but there is no socket before the options are settled.
      rcases does_ask_bind hopened with ⟨rfl, rfl⟩ | ⟨size, rest, rfl, hmeasured⟩
      · refine Or.inr (unprepared_underWay (not_setUp_of_unbounded ?_))
        exact List.forall_mem_singleton.mpr hopen
      have hunbounded : ∀ e ∈ [(⟨.openForReading t.file.untilZero, .ok ()⟩ : Event),
          ⟨.fileSize, size⟩], ¬ e.BoundsWrites :=
        List.forall_mem_cons.mpr ⟨hopen, List.forall_mem_singleton.mpr (hmeasure size)⟩
      cases size with
      | error reason =>
        obtain ⟨rfl, rfl⟩ := does_pure hmeasured
        exact Or.inr (unprepared_failed (not_setUp_of_unbounded hunbounded))
      | ok size =>
        dsimp only at hmeasured
        cases hnegotiate : negotiate t.requested (.send size) t.config.timeout with
        | error failure =>
          rw [hnegotiate] at hmeasured
          obtain ⟨rfl, rfl⟩ := does_pure hmeasured
          exact Or.inr (unprepared_failed (not_setUp_of_unbounded hunbounded))
        | ok p =>
          rw [hnegotiate] at hmeasured
          exact (does_ready_prepared hnegotiate hmeasured).imp_left fun ⟨bound, hprepared, hr⟩ =>
            ⟨size, p, bound, hprepared, hr⟩

/-- A transfer that receives its file is prepared, or it has not been set up. -/
theorem does_prepareReceive {r : Option (Except Failure (Parameters × Endpoint))}
    (h : t.prepareReceive.Does es r) :
    (∃ p bound, Prepared t .receive p bound es ∧
        r = some (.ok (p, ⟨bound, some t.peer, .zero⟩))) ∨ Unprepared es r := by
  unfold Transfer.prepareReceive at h
  cases hcheck : t.config.check with
  | error failure =>
    rw [hcheck] at h
    obtain ⟨rfl, rfl⟩ := does_pure h
    exact Or.inr (unprepared_failed not_setUp_nil)
  | ok =>
    rw [hcheck] at h
    dsimp only at h
    cases hnegotiate : negotiate t.requested .receive t.config.timeout with
    | error failure =>
      rw [hnegotiate] at h
      obtain ⟨rfl, rfl⟩ := does_pure h
      exact Or.inr (unprepared_failed not_setUp_nil)
    | ok p =>
      rw [hnegotiate] at h
      rcases does_ask_bind h with ⟨rfl, rfl⟩ | ⟨opened, rest, rfl, hopened⟩
      · exact Or.inr (unprepared_underWay not_setUp_nil)
      cases opened with
      | error reason => exact Or.inr (does_reportUnopened id hopened)
      | ok =>
        exact (does_ready_prepared hnegotiate hopened).imp_left fun ⟨bound, hprepared, hr⟩ =>
          ⟨p, bound, hprepared, hr⟩

/-- A text that tells the peer of a file that cannot be opened. -/
def ReportsFile (text : Bytes) : Prop :=
  text = Bytes.ascii "Access violation" ∨ text = Bytes.ascii "File not found"

theorem reportsFile_openReport (reason : SystemError) :
    ReportsFile (Transfer.openReport reason).2 := by
  unfold Transfer.openReport
  split
  · exact Or.inl rfl
  · exact Or.inr rfl

/-- The events that prepare a transfer, and those that report what hinders it, are of a sort. -/
structure Preparatory (sort : Event → Prop) : Prop where
  openForReading : ∀ path answer, sort ⟨.openForReading path, answer⟩
  openForWriting : ∀ path answer, sort ⟨.openForWriting path, answer⟩
  fileSize : ∀ answer, sort ⟨.fileSize, answer⟩
  socket : ∀ e : Event, e.PreparesSocket → sort e
  conclusion : ∀ e : Event, e.Concludes → sort e
  report : ∀ code text answer, ReportsFile text →
    sort ⟨.sendDatagram (Packet.error code text).encode, answer⟩

theorem preparatory_prepares : Preparatory Event.Prepares :=
  ⟨fun _ _ => trivial, fun _ _ => trivial, fun _ => trivial, fun _ h => h.prepares,
    fun _ h => h.prepares, fun code text _ _ => ⟨code, text, rfl⟩⟩

theorem makes_reportUnopened {α : Type} {code : ErrorCode} {text : Bytes} {failure : Failure}
    (h : Preparatory sort) (reports : ReportsFile text) :
    (t.reportFileError code text >>= fun _ =>
      (pure (.error failure) : Program (Except Failure α))).Makes sort :=
  makes_bind
    (makes_reportFileError h.socket h.conclusion fun answer => h.report code text answer reports)
    fun _ => makes_pure _

theorem makes_ready_map {α : Type} {milliseconds : Int} {g : Endpoint → α}
    (h : Preparatory sort) :
    (Endpoint.ready t.here t.peer milliseconds >>= fun x =>
      match x with
      | .error failure => (pure (.error failure) : Program (Except Failure α))
      | .ok endpoint => pure (.ok (g endpoint))).Makes sort := by
  refine makes_bind (Endpoint.makes_ready h.socket) fun ready => ?_
  cases ready with
  | error failure => exact makes_pure _
  | ok endpoint => exact makes_pure _

theorem makes_prepareSend (h : Preparatory sort) : t.prepareSend.Makes sort := by
  unfold Transfer.prepareSend
  cases t.config.check with
  | error failure => exact makes_pure _
  | ok =>
    refine makes_bind (makes_ask (h.openForReading _)) fun opened => ?_
    cases opened with
    | error reason => exact makes_reportUnopened h (reportsFile_openReport reason)
    | ok =>
      refine makes_bind (makes_ask h.fileSize) fun size => ?_
      cases size with
      | error reason => exact makes_pure _
      | ok size =>
        dsimp only
        cases negotiate t.requested (.send size) t.config.timeout with
        | error failure => exact makes_pure _
        | ok p => exact makes_ready_map (g := fun endpoint => (Direction.send size, p, endpoint)) h

theorem makes_prepareReceive (h : Preparatory sort) : t.prepareReceive.Makes sort := by
  unfold Transfer.prepareReceive
  cases t.config.check with
  | error failure => exact makes_pure _
  | ok =>
    dsimp only
    cases negotiate t.requested .receive t.config.timeout with
    | error failure => exact makes_pure _
    | ok p =>
      refine makes_bind (makes_ask (h.openForWriting _)) fun opened => ?_
      cases opened with
      | error reason => exact makes_reportUnopened h (Or.inl rfl)
      | ok => exact makes_ready_map (g := fun endpoint => (p, endpoint)) h

/-! ## Whole transfers -/

/-- A run that did not come so far that the file could be served: it waited for nothing, told the
peer nothing but an error, and fails. -/
structure Unserved (es : List Event) (r : Option Result) : Prop where
  prepares : ∀ e ∈ es, e.Prepares
  notSetUp : ¬ SetUp es
  fails : ∀ result, r = some result → result.ok = false

/-- A run that is prepared in a direction and then serves the file with an engine. -/
inductive Course (t : Transfer) (direction : Direction)
    (engine : Parameters → List Event → Option Result → Prop) :
    List Event → Option Result → Prop where
  | served {start : Int} {p : Parameters} {bound : Address} {before rest : List Event}
      {r : Option Result} (prepared : Prepared t direction p bound before)
      (serves : Serves (Endpoint.greeting? p.acknowledged direction) (engine p) rest r) :
      Course t direction engine (⟨.readClock, start⟩ :: (before ++ rest)) r

/-- Reading the clock and concluding set nothing up. -/
theorem setUp_of_concludes {start : Int} {before rest : List Event}
    (concludes : ∀ e ∈ rest, e.Concludes)
    (h : SetUp (⟨.readClock, start⟩ :: (before ++ rest))) : SetUp before := by
  -- Both parts of `SetUp` ask for an event of a sort that is found in `before` only.
  have hmem : ∀ {sort : Event → Prop}, ¬ sort ⟨.readClock, start⟩ →
      (∀ e : Event, e.Concludes → ¬ sort e) →
      (∃ e ∈ (⟨.readClock, start⟩ :: (before ++ rest) : List Event), sort e) →
      ∃ e ∈ before, sort e := by
    rintro sort hclock hother ⟨e, he, hsort⟩
    rcases List.mem_cons.mp he with rfl | he
    · exact absurd hsort hclock
    · rcases List.mem_append.mp he with hbefore | hrest
      · exact ⟨e, hbefore, hsort⟩
      · exact absurd hsort (hother e (concludes e hrest))
  obtain ⟨hopens, hbounds⟩ := h
  exact ⟨hmem id (fun e he => he.not_opensFile) hopens,
    hmem id (fun e he => he.not_boundsWrites) hbounds⟩

theorem unserved_nil : Unserved [] none := ⟨List.forall_mem_nil _, not_setUp_nil, nofun⟩

/-- A transfer that has not been prepared is not served. -/
theorem unserved_underWay {start : Int} {before : List Event}
    (prepares : ∀ e ∈ before, e.Prepares) (notSetUp : ¬ SetUp before) :
    Unserved (⟨.readClock, start⟩ :: before) none := by
  refine ⟨List.forall_mem_cons.mpr ⟨trivial, prepares⟩, fun hsetUp => notSetUp ?_, nofun⟩
  rw [← List.append_nil before] at hsetUp
  exact setUp_of_concludes (List.forall_mem_nil _) hsetUp

/-- A transfer that could not be prepared only says so. -/
theorem unserved_of_failed {start : Int} {failure : Failure} {before rest : List Event}
    (prepares : ∀ e ∈ before, e.Prepares) (notSetUp : ¬ SetUp before)
    (h : (Transfer.failed failure 0 0).Does rest r) :
    Unserved (⟨.readClock, start⟩ :: (before ++ rest)) r := by
  have hconcludes := makes_failed h
  refine ⟨?_, fun hsetUp => notSetUp (setUp_of_concludes hconcludes hsetUp), ?_⟩
  · rw [List.forall_mem_cons, List.forall_mem_append]
    exact ⟨trivial, prepares, fun e he => (hconcludes e he).prepares⟩
  · rintro result rfl
    rw [does_failed_some h]
    rfl

/-- **A run of a transfer that sends its file** serves it, or it was not set up. -/
theorem does_transferSend (h : t.send.Does es r) :
    Unserved es r ∨ ∃ size, Course t (.send size)
      (fun p => SendsFile p.blockSize t.config.maxRetries) es r := by
  rcases does_ask_bind h with ⟨rfl, rfl⟩ | ⟨start, rest, rfl, hrest⟩
  · exact Or.inl unserved_nil
  rcases does_bind hrest with ⟨hprepare, rfl⟩ | ⟨before, rest, prepared, rfl, hprepare, hserve⟩
  · rcases does_prepareSend hprepare with ⟨_, _, _, -, hr⟩ | hunprepared
    · cases hr
    · have hprepares := makes_prepareSend preparatory_prepares hprepare
      exact Or.inl (unserved_underWay hprepares hunprepared.notSetUp)
  · rcases does_prepareSend hprepare with ⟨size, p, bound, hprepared, hr⟩ | hunprepared
    · cases hr
      exact Or.inr ⟨size, .served hprepared (does_serveSend rfl hserve)⟩
    · cases prepared with
      | error failure =>
        have hprepares := makes_prepareSend preparatory_prepares hprepare
        exact Or.inl (unserved_of_failed hprepares hunprepared.notSetUp hserve)
      | ok prepared => exact absurd rfl (hunprepared.fails prepared)

/-- **A run of a transfer that receives its file** serves it, or it was not set up. -/
theorem does_transferReceive (h : t.receive.Does es r) :
    Unserved es r ∨
      Course t .receive (fun p => ReceivesFile p.blockSize t.config.maxRetries) es r := by
  rcases does_ask_bind h with ⟨rfl, rfl⟩ | ⟨start, rest, rfl, hrest⟩
  · exact Or.inl unserved_nil
  rcases does_bind hrest with ⟨hprepare, rfl⟩ | ⟨before, rest, prepared, rfl, hprepare, hserve⟩
  · rcases does_prepareReceive hprepare with ⟨_, _, -, hr⟩ | hunprepared
    · cases hr
    · have hprepares := makes_prepareReceive preparatory_prepares hprepare
      exact Or.inl (unserved_underWay hprepares hunprepared.notSetUp)
  · rcases does_prepareReceive hprepare with ⟨p, bound, hprepared, hr⟩ | hunprepared
    · cases hr
      exact Or.inr (.served hprepared (does_serveReceive rfl hserve))
    · cases prepared with
      | error failure =>
        have hprepares := makes_prepareReceive preparatory_prepares hprepare
        exact Or.inl (unserved_of_failed hprepares hunprepared.notSetUp hserve)
      | ok prepared => exact absurd rfl (hunprepared.fails prepared)

end Preparing

end Tftp
