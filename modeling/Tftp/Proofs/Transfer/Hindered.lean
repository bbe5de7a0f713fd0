import Tftp.Proofs.Causes
import Tftp.Proofs.Transfer

/-!
# What hinders a transfer

A transfer that is not served has failed for a reason: its configuration or one of its options was
refused, or a call on the file or the socket failed. The trace shows which.

* `Hindered` lists the reasons.
* `Event.Incidental` are the events that no engine makes; a transfer that is hindered makes no
  others.

Results:
* `hindered_of_prepareSend` and `hindered_of_prepareReceive`: a preparation fails for such a reason.
* **`served_of_send`** and **`served_of_receive`**: a transfer with a result was served with a valid
  configuration, or it was hindered.

The failures before the first block are those of §7 of the specification: refused options, a file
that cannot be opened, and a socket that cannot be made ready. A result has to be true to them as
well, so each of them leaves its event in the trace or is a matter of the configuration and the
request alone.

Out of scope: failures of the engines, for which see their accounts.
-/

namespace Tftp

open Program

/-! ## Refusals -/

theorem Config.kind_of_check {config : Config} {failure : Failure}
    (h : config.check = .error failure) : failure.kind = .invalidOption := by
  unfold check at h
  split at h
  · cases h
    rfl
  · split at h
    · cases h
      rfl
    · cases h

theorem Config.maxRetries_pos {config : Config} (h : config.check = .ok ()) :
    0 < config.maxRetries := by
  unfold check at h
  split at h
  · cases h
  · omega

theorem Parameters.kind_of_accept {direction : Direction} {p : Parameters} {option : OptionEntry}
    {failure : Failure} (h : p.accept direction option = .error failure) :
    failure.kind = .invalidOption := by
  unfold accept at h
  split at h
  · split at h
    · cases h
    · cases h
      rfl
  · cases h
  · split at h
    · cases h
    · cases h
      rfl
  · cases h

theorem kind_of_negotiate {requested : List OptionEntry} {direction : Direction} {timeout : Int}
    {failure : Failure} (h : negotiate requested direction timeout = .error failure) :
    failure.kind = .invalidOption := by
  unfold negotiate at h
  generalize Parameters.default timeout = p at h
  induction requested generalizing p with
  | nil => cases h
  | cons option options ih =>
    rw [List.foldlM_cons] at h
    cases haccept : p.accept direction option with
    | error refusal =>
      rw [haccept] at h
      cases h
      exact Parameters.kind_of_accept haccept
    | ok q =>
      rw [haccept] at h
      exact ih q h

/-- A call other than one that sends has failed, and the trace shows it. -/
structure Barred (es : List Event) (failure : Failure) : Prop where
  shown : Shown failure.kind es
  unsent : ∀ reason, failure ≠ .socketFailed .send reason

theorem Barred.mono {es fs : List Event} {failure : Failure} (h : Barred es failure)
    (sub : es ⊆ fs) : Barred fs failure :=
  ⟨h.shown.mono sub, h.unsent⟩

/-- What hinders a transfer in a direction, after the events `es`: its configuration or an option is
refused, or a call has failed. -/
inductive Hindered (t : Transfer) (direction : Direction) (es : List Event) (failure : Failure) :
    Prop where
  | config (refused : t.config.check = .error failure)
  | option (measured : ∀ size, direction = .send size → ⟨.fileSize, .ok size⟩ ∈ es)
      (refused : negotiate t.requested direction t.config.timeout = .error failure)
  | call (barred : Barred es failure)

theorem Hindered.mono {t : Transfer} {direction : Direction} {es fs : List Event}
    {failure : Failure} (h : Hindered t direction es failure) (sub : es ⊆ fs) :
    Hindered t direction fs failure := by
  cases h with
  | config refused => exact .config refused
  | option measured refused => exact .option (fun size hsize => sub (measured size hsize)) refused
  | call barred => exact .call (barred.mono sub)

/-- Nothing that was sent hinders a transfer. -/
theorem Hindered.unsent {t : Transfer} {direction : Direction} {es : List Event}
    {failure : Failure} (h : Hindered t direction es failure) (reason : SystemError) :
    failure ≠ .socketFailed .send reason := by
  cases h with
  | config refused =>
    rintro rfl
    cases Config.kind_of_check refused
  | option _ refused =>
    rintro rfl
    cases kind_of_negotiate refused
  | call barred => exact barred.unsent reason

/-! ## Failing calls -/

namespace Endpoint

variable {α : Type} {step : SocketStep} {p : Program (Except SystemError α)} {es : List Event}
  {failure : Failure}

theorem does_attempt_error (h : (attempt step p).Does es (some (.error failure))) :
    ∃ reason, p.Does es (some (.error reason)) ∧ failure = .socketFailed step reason := by
  obtain ⟨answer, hp, hr⟩ := does_attempt_some h
  cases answer with
  | ok a => cases hr
  | error reason =>
    cases hr
    exact ⟨reason, hp, rfl⟩

theorem barred_of_create {here : Address} (h : (create here).Does es (some (.error failure))) :
    Barred es failure := by
  obtain ⟨first, rest, created, rfl, hcreate, hrest⟩ := does_bind_some h
  cases created with
  | error refusal =>
    obtain ⟨rfl, hr⟩ := does_pure hrest
    cases hr
    obtain ⟨reason, hask, rfl⟩ := does_attempt_error hcreate
    obtain rfl := does_ask_some hask
    exact ⟨⟨_, List.mem_cons_self .., trivial⟩, nofun⟩
  | ok =>
    obtain ⟨second, last, bound, rfl, hbind, hlast⟩ := does_bind_some hrest
    cases bound with
    | error refusal =>
      obtain ⟨_, _, _, rfl, -, hfailed⟩ := does_bind_some hlast
      cases (does_pure hfailed).2
      obtain ⟨reason, hask, rfl⟩ := does_attempt_error hbind
      obtain rfl := does_ask_some hask
      exact ⟨⟨_, List.mem_append_right _ (List.mem_cons_self ..), trivial⟩, nofun⟩
    | ok bound => cases (does_pure hlast).2

theorem barred_of_connect {endpoint connected : Endpoint} {peer : Address}
    (h : (endpoint.connect peer).Does es (some (.error failure, connected))) :
    Barred es failure := by
  obtain ⟨first, rest, answer, rfl, hconnect, hrest⟩ := does_bind_some h
  cases answer with
  | error refusal =>
    cases (does_pure hrest).2
    obtain ⟨reason, hask, rfl⟩ := does_attempt_error hconnect
    obtain rfl := does_ask_some hask
    exact ⟨⟨_, List.mem_cons_self .., trivial⟩, nofun⟩
  | ok => cases (does_pure hrest).2

theorem barred_of_setTimeout {milliseconds : Int}
    (h : (setTimeout milliseconds).Does es (some (.error failure))) : Barred es failure := by
  obtain ⟨first, rest, answer, rfl, hread, hrest⟩ := does_bind_some h
  cases answer with
  | error refusal =>
    cases (does_pure hrest).2
    obtain ⟨reason, hask, rfl⟩ := does_attempt_error hread
    obtain rfl := does_ask_some hask
    exact ⟨⟨_, List.mem_cons_self .., trivial⟩, nofun⟩
  | ok =>
    obtain ⟨reason, hask, rfl⟩ := does_attempt_error hrest
    obtain rfl := does_ask_some hask
    exact ⟨⟨_, List.mem_append_right _ (List.mem_cons_self ..), trivial⟩, nofun⟩

/-- A socket that cannot be made ready was barred from it. -/
theorem barred_of_ready {here peer : Address} {milliseconds : Int}
    (h : (ready here peer milliseconds).Does es (some (.error failure))) :
    Barred es failure := by
  have hclosed : ∀ {refusal : Failure} {es : List Event},
      (close >>= fun _ => pure (.error refusal) : Program (Except Failure Endpoint)).Does es
        (some (.error failure)) → refusal = failure := by
    intro refusal es hclose
    obtain ⟨_, _, _, -, -, hfailed⟩ := does_bind_some hclose
    cases (does_pure hfailed).2
    rfl
  obtain ⟨first, rest, created, rfl, hcreate, hrest⟩ := does_bind_some h
  cases created with
  | error refusal =>
    cases (does_pure hrest).2
    exact (barred_of_create hcreate).mono (List.subset_append_left _ _)
  | ok created =>
    obtain ⟨second, rest, ⟨answer, connected⟩, rfl, hconnect, hset⟩ := does_bind_some hrest
    refine Barred.mono ?_ (List.subset_append_right _ _)
    cases answer with
    | error refusal =>
      obtain rfl := hclosed hset
      exact (barred_of_connect hconnect).mono (List.subset_append_left _ _)
    | ok =>
      obtain ⟨third, last, answer, rfl, htimeout, hlast⟩ := does_bind_some hset
      refine Barred.mono ?_ (List.subset_append_right _ _)
      cases answer with
      | error refusal =>
        obtain rfl := hclosed hlast
        exact (barred_of_setTimeout htimeout).mono (List.subset_append_left _ _)
      | ok => cases (does_pure hlast).2

end Endpoint

/-! ## Failing preparations -/

section Preparing

variable {t : Transfer} {es : List Event} {failure : Failure}

theorem hindered_of_ready {α : Type} {direction : Direction} {milliseconds : Int}
    {g : Endpoint → α}
    (h : (Endpoint.ready t.here t.peer milliseconds >>= fun x =>
      match x with
      | .error failure => (pure (.error failure) : Program (Except Failure α))
      | .ok endpoint => pure (.ok (g endpoint))).Does es (some (.error failure))) :
    Hindered t direction es failure := by
  obtain ⟨before, after, ready, rfl, hready, hafter⟩ := does_bind_some h
  cases ready with
  | error refusal =>
    cases (does_pure hafter).2
    exact .call ((Endpoint.barred_of_ready hready).mono (List.subset_append_left _ _))
  | ok endpoint => cases (does_pure hafter).2

theorem does_reportUnopened_error {α : Type} {code : ErrorCode} {text : Bytes} {cause : Failure}
    (h : (t.reportFileError code text >>= fun _ =>
      (pure (.error cause) : Program (Except Failure α))).Does es (some (.error failure))) :
    failure = cause := by
  obtain ⟨_, _, _, -, -, hfailed⟩ := does_bind_some h
  cases (does_pure hfailed).2
  rfl

/-- A sender that is not prepared is hindered. -/
theorem hindered_of_prepareSend (h : t.prepareSend.Does es (some (.error failure))) :
    ∃ size, Hindered t (.send size) es failure := by
  unfold Transfer.prepareSend at h
  cases hcheck : t.config.check with
  | error refusal =>
    rw [hcheck] at h
    cases (does_pure h).2
    exact ⟨0, .config hcheck⟩
  | ok =>
    rw [hcheck] at h
    obtain ⟨opened, rest, rfl, hopened⟩ := does_ask_bind_some h
    cases opened with
    | error reason =>
      obtain rfl := does_reportUnopened_error hopened
      exact ⟨0, .call ⟨⟨_, List.mem_cons_self .., trivial⟩, nofun⟩⟩
    | ok =>
      obtain ⟨size, rest, rfl, hmeasured⟩ := does_ask_bind_some hopened
      cases size with
      | error reason =>
        cases (does_pure hmeasured).2
        exact ⟨0, .call ⟨⟨⟨.fileSize, .error reason⟩, by simp, trivial⟩, nofun⟩⟩
      | ok size =>
        dsimp only at hmeasured
        refine ⟨size, ?_⟩
        cases hnegotiate : negotiate t.requested (.send size) t.config.timeout with
        | error refusal =>
          rw [hnegotiate] at hmeasured
          cases (does_pure hmeasured).2
          refine .option ?_ hnegotiate
          rintro _ ⟨⟩
          simp
        | ok p =>
          rw [hnegotiate] at hmeasured
          exact (hindered_of_ready hmeasured).mono (by simp)

/-- A receiver that is not prepared is hindered. -/
theorem hindered_of_prepareReceive (h : t.prepareReceive.Does es (some (.error failure))) :
    Hindered t .receive es failure := by
  unfold Transfer.prepareReceive at h
  cases hcheck : t.config.check with
  | error refusal =>
    rw [hcheck] at h
    cases (does_pure h).2
    exact .config hcheck
  | ok =>
    rw [hcheck] at h
    dsimp only at h
    cases hnegotiate : negotiate t.requested .receive t.config.timeout with
    | error refusal =>
      rw [hnegotiate] at h
      cases (does_pure h).2
      exact .option nofun hnegotiate
    | ok p =>
      rw [hnegotiate] at h
      obtain ⟨opened, rest, rfl, hopened⟩ := does_ask_bind_some h
      cases opened with
      | error reason =>
        obtain rfl := does_reportUnopened_error hopened
        exact .call ⟨⟨_, List.mem_cons_self .., trivial⟩, nofun⟩
      | ok => exact (hindered_of_ready hopened).mono (List.subset_cons_self _ _)

theorem check_of_prepareSend {prepared : Direction × Parameters × Endpoint}
    (h : t.prepareSend.Does es (some (.ok prepared))) : t.config.check = .ok () := by
  unfold Transfer.prepareSend at h
  cases hcheck : t.config.check with
  | error refusal =>
    rw [hcheck] at h
    cases (does_pure h).2
  | ok => rfl

theorem check_of_prepareReceive {prepared : Parameters × Endpoint}
    (h : t.prepareReceive.Does es (some (.ok prepared))) : t.config.check = .ok () := by
  unfold Transfer.prepareReceive at h
  cases hcheck : t.config.check with
  | error refusal =>
    rw [hcheck] at h
    cases (does_pure h).2
  | ok => rfl

end Preparing

/-! ## Whole transfers -/

/-- The event is none of an engine's: it leaves the contents of the file alone, waits for nothing,
does not ask whether the transfer was cancelled, and hands out no data. -/
def Event.Incidental (e : Event) : Prop :=
  match e.call with
  | .readBytes _ | .writeBytes _ | .flush | .receiveDatagram _ | .pollCancelled => False
  | .sendDatagram bytes => ¬ CarriesData bytes
  | _ => True

theorem Event.PreparesSocket.incidental {e : Event} (h : e.PreparesSocket) : e.Incidental := by
  cases h <;> trivial

theorem Event.Concludes.incidental {e : Event} (h : e.Concludes) : e.Incidental := by
  cases h <;> trivial

theorem preparatory_incidental : Preparatory Event.Incidental :=
  ⟨fun _ _ => trivial, fun _ _ => trivial, fun _ => trivial, fun _ h => h.incidental,
    fun _ h => h.incidental, fun _ _ _ _ hdata => nomatch opcode_of_carriesData hdata⟩

/-- A run of a transfer that was hindered: all its calls were incidental, and it fails for what
hindered it. -/
structure HinderedRun (t : Transfer) (direction : Direction) (es : List Event) (result : Result) :
    Prop where
  incidental : ∀ e ∈ es, e.Incidental
  cause : ∃ failure, Hindered t direction es failure ∧ result = ⟨some failure, 0, 0⟩

section Whole

variable {t : Transfer} {es : List Event} {result : Result}

theorem hinderedRun_of_failed {direction : Direction} {start : Int} {before rest : List Event}
    {failure : Failure} (incidental : ∀ e ∈ before, e.Incidental)
    (hindered : Hindered t direction before failure)
    (h : (Transfer.failed failure 0 0).Does rest (some result)) :
    HinderedRun t direction (⟨.readClock, start⟩ :: (before ++ rest)) result := by
  have hconcludes := makes_failed h
  refine ⟨?_, failure, hindered.mono ?_, does_failed_some h⟩
  · rw [List.forall_mem_cons, List.forall_mem_append]
    exact ⟨trivial, incidental, fun e he => (hconcludes e he).incidental⟩
  · exact List.subset_cons_of_subset _ (List.subset_append_left _ _)

/-- **A sender with a result** was served with a valid configuration, or it was hindered. -/
theorem served_of_send (h : t.send.Does es (some result)) :
    ∃ size, HinderedRun t (.send size) es result ∨
      t.config.check = .ok () ∧ Course t (.send size)
        (fun p => SendsFile p.blockSize t.config.maxRetries) es (some result) := by
  obtain ⟨start, rest, rfl, hrest⟩ := does_ask_bind_some h
  obtain ⟨before, rest, prepared, rfl, hprepare, hserve⟩ := does_bind_some hrest
  cases prepared with
  | error failure =>
    obtain ⟨size, hhindered⟩ := hindered_of_prepareSend hprepare
    have hincidental := makes_prepareSend preparatory_incidental hprepare
    exact ⟨size, Or.inl (hinderedRun_of_failed hincidental hhindered hserve)⟩
  | ok prepared =>
    have hcheck := check_of_prepareSend hprepare
    rcases does_prepareSend hprepare with ⟨size, p, bound, hprepared, hr⟩ | hunprepared
    · cases hr
      exact ⟨size, Or.inr ⟨hcheck, .served hprepared (does_serveSend rfl hserve)⟩⟩
    · exact absurd rfl (hunprepared.fails prepared)

/-- **A receiver with a result** was served with a valid configuration, or it was hindered. -/
theorem served_of_receive (h : t.receive.Does es (some result)) :
    HinderedRun t .receive es result ∨
      t.config.check = .ok () ∧ Course t .receive
        (fun p => ReceivesFile p.blockSize t.config.maxRetries) es (some result) := by
  obtain ⟨start, rest, rfl, hrest⟩ := does_ask_bind_some h
  obtain ⟨before, rest, prepared, rfl, hprepare, hserve⟩ := does_bind_some hrest
  cases prepared with
  | error failure =>
    have hhindered := hindered_of_prepareReceive hprepare
    have hincidental := makes_prepareReceive preparatory_incidental hprepare
    exact Or.inl (hinderedRun_of_failed hincidental hhindered hserve)
  | ok prepared =>
    have hcheck := check_of_prepareReceive hprepare
    rcases does_prepareReceive hprepare with ⟨p, bound, hprepared, hr⟩ | hunprepared
    · cases hr
      exact Or.inr ⟨hcheck, .served hprepared (does_serveReceive rfl hserve)⟩
    · exact absurd rfl (hunprepared.fails prepared)

/-! ## Incidental events -/

/-- The calls that prepare a served transfer are incidental. -/
theorem Prepared.incidental {direction : Direction} {p : Parameters} {bound : Address}
    (h : Prepared t direction p bound es) : ∀ e ∈ es, e.Incidental := by
  rw [h.trace]
  cases direction <;> simp [openingTrace, Endpoint.readyTrace, Event.Incidental]

theorem incidental_greeting {acknowledged : List OptionEntry} {direction : Direction}
    {packet : Packet} (h : Endpoint.greeting? acknowledged direction = some packet)
    (answer : Except SystemError Unit) :
    Event.Incidental ⟨.sendDatagram packet.encode, answer⟩ :=
  not_carriesData_greeting h

theorem incidental_greetingTrace (acknowledged : List OptionEntry) (direction : Direction) :
    ∀ e ∈ Endpoint.greetingTrace (Endpoint.greeting? acknowledged direction), e.Incidental := by
  unfold Endpoint.greetingTrace
  cases hgreeting : Endpoint.greeting? acknowledged direction with
  | none => exact List.forall_mem_nil _
  | some packet =>
    intro e he
    rw [List.mem_singleton.mp he]
    exact incidental_greeting hgreeting (.ok ())

end Whole

end Tftp
