import Tftp.Proofs.File
import Tftp.Proofs.Negotiation
import Tftp.Proofs.Transfer.Outcome

/-!
# Refused transfers

A transfer is refused for its configuration or for an option that is out of range. A receiver looks
at both before anything else. A sender looks at its options only when it has opened and measured its
file, because the peer may ask for the length.

* `Config.Unusable` and `OptionEntry.OutOfRange` are what is refused.
* `Event.OnFile` and `Event.OnSocket` are the calls on the file and on the socket.
* `Alters` follows the content of a file that may be opened for writing.

Results:
* `send_of_unusable` and `receive_of_refused`: a refused transfer only says so.
* `send_of_measured`: what a sender does that has measured its file.
* **`refused_untouched`**: refused transfers touch nothing, and no other transfer fails for its
  parameters.

A refused option leads to no network traffic and, on a receiver, to no file (specification §4.2, §7,
§8 and §10.5); so does a configuration that would let a transfer wait for ever (§10.4). A file that
would have been overwritten is still there afterwards, with what was in it.

Out of scope: what the peer thinks. It is not told that its options were refused, since nothing is
sent, and it has to time out.
-/

namespace Tftp

open Program

/-! ## Refusals -/

/-- A configuration with which a transfer could wait for ever. -/
def Config.Unusable (config : Config) : Prop := config.maxRetries = 0 ∨ config.timeout ≤ 0

instance : DecidablePred Config.Unusable := fun _ => inferInstanceAs (Decidable (_ ∨ _))

theorem Config.check_error_iff {config : Config} :
    (∃ failure, config.check = .error failure) ↔ config.Unusable := by
  unfold check
  split
  · rename_i hretries
    exact ⟨fun _ => Or.inl hretries, fun _ => ⟨_, rfl⟩⟩
  · rename_i hretries
    split
    · rename_i htimeout
      exact ⟨fun _ => Or.inr htimeout, fun _ => ⟨_, rfl⟩⟩
    · rename_i htimeout
      exact ⟨nofun, fun hunusable => absurd hunusable (not_or_intro hretries htimeout)⟩

/-! ## Calls on the file and on the socket -/

/-- The event is a call on the file. -/
def Event.OnFile (e : Event) : Prop :=
  match e.call with
  | .openForReading _ | .openForWriting _ | .fileSize | .readBytes _ | .writeBytes _
  | .flush => True
  | _ => False

/-- The event is a call on the socket. -/
def Event.OnSocket (e : Event) : Prop :=
  match e.call with
  | .createSocket | .bindSocket _ | .connectSocket _ | .setReadDeadline _ | .setWriteDeadline _
  | .sendDatagram _ | .receiveDatagram _ | .closeSocket => True
  | _ => False

theorem Event.Reports.not_onFile {e : Event} (h : e.Reports) : ¬ e.OnFile := by
  cases h <;> exact id

theorem Event.Reports.not_onSocket {e : Event} (h : e.Reports) : ¬ e.OnSocket := by
  cases h <;> exact id

theorem Event.Reports.datagram? {e : Event} (h : e.Reports) : e.datagram? = none := by
  cases h <;> rfl

/-- `Alters f e f'`: event `e` is possible with a file as in `f` and leaves it as in `f'`. Opening
it for writing empties it. -/
def Alters (f : OutputFile) (e : Event) (f' : OutputFile) : Prop :=
  match e with
  | ⟨.openForWriting _, .ok ()⟩ => f' = .empty
  | _ => Writes f e f'

theorem eq_of_alters {f f' : OutputFile} {e : Event} (h : Alters f e f') (other : ¬ e.OnFile) :
    f' = f := by
  obtain ⟨call, answer⟩ := e
  cases call with
  | openForReading | openForWriting | fileSize | readBytes | writeBytes | flush =>
    exact absurd trivial other
  | _ => exact h

/-- A file that no event of a trace touches keeps its content. -/
theorem eq_of_along_alters {f g : OutputFile} {es : List Event} (h : Along Alters f es g)
    (other : ∀ e ∈ es, ¬ e.OnFile) : g = f := by
  induction h with
  | nil => rfl
  | cons first _ ih =>
    rw [List.forall_mem_cons] at other
    rw [ih other.2, eq_of_alters first other.1]

namespace Transfer

/-- Some option of the request is out of range. -/
def Overreaches (t : Transfer) : Prop := ∃ option ∈ t.requested, option.OutOfRange

/-- The file was opened for reading, and its length is known. -/
def Measured (t : Transfer) (es : List Event) : Prop :=
  ⟨.openForReading t.file.untilZero, .ok ()⟩ ∈ es ∧ ∃ size, ⟨.fileSize, .ok size⟩ ∈ es

variable {t : Transfer} {es : List Event} {failure : Failure}

/-! ## Transfers that only say that they are refused -/

/-- A transfer that only says what it is refused for. -/
def refuse (failure : Failure) : Program Result := do
  let _ ← ask .readClock
  failed failure 0 0

theorem reports_refuse : (refuse failure).Makes Event.Reports :=
  makes_bind (makes_ask .timing) fun _ => reports_failed

theorem does_refuse_some {result : Result} (h : (refuse failure).Does es (some result)) :
    result = ⟨some failure, 0, 0⟩ := by
  obtain ⟨_, _, _, -, -, hfailed⟩ := does_bind_some h
  exact does_failed_some hfailed

/-- A sender with an unusable configuration opens no file. -/
theorem send_of_unusable (h : t.config.Unusable) :
    ∃ failure, failure.kind = .invalidOption ∧ t.send = refuse failure := by
  obtain ⟨failure, hcheck⟩ := Config.check_error_iff.mpr h
  refine ⟨failure, Config.kind_of_check hcheck, ?_⟩
  simp only [send, prepareSend, hcheck, pure_bind, refuse]

/-- A receiver whose parameters are refused opens no file. -/
theorem receive_of_refused (h : t.config.Unusable ∨ t.Overreaches) :
    ∃ failure, failure.kind = .invalidOption ∧ t.receive = refuse failure := by
  cases hcheck : t.config.check with
  | error failure =>
    refine ⟨failure, Config.kind_of_check hcheck, ?_⟩
    simp only [receive, prepareReceive, hcheck, pure_bind, refuse]
  | ok =>
    have husable : ¬ t.config.Unusable := fun hunusable => by
      obtain ⟨failure, hfailure⟩ := Config.check_error_iff.mpr hunusable
      rw [hcheck] at hfailure
      cases hfailure
    obtain ⟨failure, hnegotiate⟩ : ∃ failure,
        negotiate t.requested .receive t.config.timeout = .error failure :=
      negotiate_error_iff.mpr (h.resolve_left husable)
    refine ⟨failure, kind_of_negotiate hnegotiate, ?_⟩
    simp only [receive, prepareReceive, hcheck, hnegotiate, pure_bind, refuse]

/-! ## Senders that have measured their file -/

theorem not_fileSize_of_report {code : ErrorCode} {text : Bytes} :
    (t.reportFileError code text).Makes fun e => e.call ≠ .fileSize :=
  makes_reportFileError (fun _ h => by cases h <;> nofun) (fun _ h => by cases h <;> nofun)
    fun _ => nofun

theorem not_fileSize_of_serveSend {start : Int} {direction : Direction} {p : Parameters}
    {endpoint : Endpoint} :
    (t.serveSend start direction p endpoint).Makes fun e => e.call ≠ .fileSize :=
  makes_serveSend (fun _ _ _ => nofun) (fun asks _ => by cases asks <;> nofun)
    fun _ h => by cases h <;> nofun

theorem not_fileSize_of_reportUnopened {α : Type} {code : ErrorCode} {text : Bytes} :
    (t.reportFileError code text >>= fun _ =>
      (pure (.error failure) : Program (Except Failure α))).Makes fun e => e.call ≠ .fileSize :=
  makes_bind not_fileSize_of_report fun _ => makes_pure _

theorem not_fileSize_of_ready {α : Type} {milliseconds : Int} {g : Endpoint → α} :
    (Endpoint.ready t.here t.peer milliseconds >>= fun x =>
      match x with
      | .error failure => (pure (.error failure) : Program (Except Failure α))
      | .ok endpoint => pure (.ok (g endpoint))).Makes fun e => e.call ≠ .fileSize := by
  refine makes_bind (Endpoint.makes_ready fun _ h => by cases h <;> nofun) fun ready => ?_
  cases ready with
  | error failure => exact makes_pure _
  | ok endpoint => exact makes_pure _

/-- A preparation that has measured the file has opened it, and ends if the options are refused. -/
theorem prepareSend_of_measured {size : UInt64}
    {r : Option (Except Failure (Direction × Parameters × Endpoint))}
    (h : t.prepareSend.Does es r) (measured : ⟨.fileSize, .ok size⟩ ∈ es) :
    ∃ rest, es = openingTrace t (.send size) ++ rest ∧
      ∀ failure, negotiate t.requested (.send size) t.config.timeout = .error failure →
        rest = [] ∧ r = some (.error failure) := by
  unfold prepareSend at h
  cases hcheck : t.config.check with
  | error failure =>
    rw [hcheck] at h
    obtain ⟨rfl, -⟩ := does_pure h
    cases measured
  | ok =>
    rw [hcheck] at h
    rcases does_ask_bind h with ⟨rfl, -⟩ | ⟨opened, rest, rfl, hopened⟩
    · cases measured
    have hmeasured : ⟨.fileSize, .ok size⟩ ∈ rest := by simpa using measured
    cases opened with
    | error reason =>
      exact absurd rfl (not_fileSize_of_reportUnopened hopened _ hmeasured)
    | ok =>
      rcases does_ask_bind hopened with ⟨rfl, -⟩ | ⟨answer, rest, rfl, hrest⟩
      · cases hmeasured
      cases answer with
      | error reason =>
        obtain ⟨rfl, -⟩ := does_pure hrest
        simp at hmeasured
      | ok total =>
        dsimp only at hrest
        have hlater : ∀ e ∈ rest, e.call ≠ .fileSize := by
          cases hnegotiate : negotiate t.requested (.send total) t.config.timeout with
          | error failure =>
            rw [hnegotiate] at hrest
            exact makes_pure _ hrest
          | ok p =>
            rw [hnegotiate] at hrest
            exact not_fileSize_of_ready
              (g := fun endpoint => (Direction.send total, p, endpoint)) hrest
        obtain rfl : size = total := by
          rcases List.mem_cons.mp hmeasured with hfirst | hrest
          · simpa using hfirst
          · exact absurd rfl (hlater _ hrest)
        refine ⟨rest, rfl, fun failure hnegotiate => ?_⟩
        rw [hnegotiate] at hrest
        exact does_pure hrest

/-- **A sender that has measured its file** has opened it, and only says so if its options are
refused. -/
theorem send_of_measured {size : UInt64} {r : Option Result} (h : t.send.Does es r)
    (measured : ⟨.fileSize, .ok size⟩ ∈ es) :
    ∃ start rest, es = ⟨.readClock, start⟩ :: (openingTrace t (.send size) ++ rest) ∧
      ∀ failure, negotiate t.requested (.send size) t.config.timeout = .error failure →
        (∀ e ∈ rest, e.Reports) ∧ ∀ result, r = some result → result = ⟨some failure, 0, 0⟩ := by
  rcases does_ask_bind h with ⟨rfl, rfl⟩ | ⟨start, rest, rfl, hrest⟩
  · cases measured
  have hmeasured : ⟨.fileSize, .ok size⟩ ∈ rest := by simpa using measured
  rcases does_bind hrest with ⟨hprepare, rfl⟩ | ⟨before, after, prepared, rfl, hprepare, hserve⟩
  · obtain ⟨rest, rfl, hrefused⟩ := prepareSend_of_measured hprepare hmeasured
    refine ⟨start, rest, rfl, fun failure hnegotiate => ?_⟩
    cases (hrefused failure hnegotiate).2
  · -- Nothing measures the file after the preparation.
    have hbefore : ⟨.fileSize, .ok size⟩ ∈ before := by
      refine (List.mem_append.mp hmeasured).resolve_right fun hafter => ?_
      cases prepared with
      | error failure => cases reports_failed hserve _ hafter
      | ok prepared => exact not_fileSize_of_serveSend hserve _ hafter rfl
    obtain ⟨rest, rfl, hrefused⟩ := prepareSend_of_measured hprepare hbefore
    refine ⟨start, rest ++ after, by rw [List.append_assoc], fun failure hnegotiate => ?_⟩
    obtain ⟨rfl, hr⟩ := hrefused failure hnegotiate
    cases hr
    refine ⟨reports_failed hserve, ?_⟩
    rintro result rfl
    exact does_failed_some hserve

/-! ## Refused transfers return -/

/-- A program that waits for nothing has a result. -/
theorem returns_of_silent {p : Program Result} {m k : Nat} (within : p.Within m k)
    (silent : ∀ es r, p.Does es r → arrivals es = [])
    (surroundings : List Event → (call : Call) → call.Answer) :
    ∃ es result, Follows surroundings es ∧ p.Does es (some result) := by
  refine returns_of_bounded (n := m) fun es r _ hdoes => ?_
  have hlength := within hdoes
  rwa [allowance, silent es r hdoes, List.length_nil, Nat.mul_zero, Nat.add_zero] at hlength

theorem arrivals_refuse {r : Option Result} (h : (refuse failure).Does es r) : arrivals es = [] :=
  arrivals_eq_nil fun e he => (reports_refuse h e he).datagram?

theorem arrivals_of_unserved {r : Option Result} (h : Unserved es r) : arrivals es = [] := by
  refine arrivals_eq_nil fun e he => ?_
  have hprepares := h.prepares e he
  obtain ⟨call, answer⟩ := e
  cases call with
  | receiveDatagram room => exact hprepares.elim
  | _ => rfl

/-- A sender whose parameters are refused waits for nothing. -/
theorem arrivals_of_send {r : Option Result} (refused : t.config.Unusable ∨ t.Overreaches)
    (h : t.send.Does es r) : arrivals es = [] := by
  rcases refused with hunusable | houtOfRange
  · obtain ⟨failure, -, hsend⟩ := send_of_unusable hunusable
    rw [hsend] at h
    exact arrivals_refuse h
  · rcases does_transferSend h with hunserved | ⟨size, hcourse⟩
    · exact arrivals_of_unserved hunserved
    · cases hcourse with
      | served prepared =>
        obtain ⟨failure, hnegotiate⟩ := negotiate_error_iff.mpr houtOfRange
        rw [prepared.negotiated] at hnegotiate
        cases hnegotiate

theorem arrivals_of_receive {r : Option Result} (refused : t.config.Unusable ∨ t.Overreaches)
    (h : t.receive.Does es r) : arrivals es = [] := by
  obtain ⟨failure, -, hreceive⟩ := receive_of_refused refused
  rw [hreceive] at h
  exact arrivals_refuse h

/-! ## The kind of a result -/

section Kind

variable {result : Result}

/-- A receiver fails for its parameters exactly if they are refused. -/
theorem receive_kind_iff (h : t.receive.Does es (some result)) :
    result.kind = .invalidOption ↔ t.config.Unusable ∨ t.Overreaches := by
  constructor
  · intro hkind
    obtain ⟨loop, -, htells⟩ := tells_of_receive h
    have hcause : t.ReceiveCause es result.kind := htells.cause (by
      rw [← Bool.not_eq_true, htells.kind, hkind]
      nofun)
    rw [hkind] at hcause
    exact hcause.imp Config.check_error_iff.mp negotiate_error_iff.mp
  · intro hrefused
    obtain ⟨failure, hkind, hreceive⟩ := receive_of_refused hrefused
    rw [hreceive] at h
    rw [does_refuse_some h]
    exact hkind

/-- A sender fails for its parameters exactly if its configuration is refused, or its options are
when it has measured its file. -/
theorem send_kind_iff (h : t.send.Does es (some result)) :
    result.kind = .invalidOption ↔ t.config.Unusable ∨ t.Measured es ∧ t.Overreaches := by
  constructor
  · intro hkind
    obtain ⟨loop, -, htells⟩ := tells_of_send h
    have hcause : t.SendCause es result.kind := htells.cause (by
      rw [← Bool.not_eq_true, htells.kind, hkind]
      nofun)
    rw [hkind] at hcause
    rcases hcause with hcheck | ⟨size, failure, hmeasured, hnegotiate⟩
    · exact Or.inl (Config.check_error_iff.mp hcheck)
    · obtain ⟨start, rest, rfl, -⟩ := send_of_measured h hmeasured
      refine Or.inr ⟨⟨?_, size, hmeasured⟩, negotiate_error_iff.mp ⟨failure, hnegotiate⟩⟩
      simp [openingTrace]
  · rintro (hunusable | ⟨⟨-, size, hmeasured⟩, houtOfRange⟩)
    · obtain ⟨failure, hkind, hsend⟩ := send_of_unusable hunusable
      rw [hsend] at h
      rw [does_refuse_some h]
      exact hkind
    · obtain ⟨start, rest, -, hrefused⟩ := send_of_measured h hmeasured
      obtain ⟨failure, hnegotiate⟩ := negotiate_error_iff.mpr houtOfRange
      rw [(hrefused failure hnegotiate).2 result rfl]
      exact kind_of_negotiate hnegotiate

end Kind

end Transfer

/-! ## Both directions -/

/-- **Refused transfers touch nothing.** Whatever the file, the socket, the peer and the
cancellation flag do:

* a transfer whose configuration is unusable, or of which an option is out of range, returns;
* a receiver that is refused makes no call on the file and none on the socket, so an existing file
  keeps its content, and no other receiver fails for its parameters;
* a sender with an unusable configuration makes no such call either; one whose options are refused
  when it has measured its file makes none on the socket, and no other sender fails for its
  parameters. -/
theorem refused_untouched (t : Transfer) :
    (t.config.Unusable ∨ t.Overreaches →
      ∀ surroundings : List Event → (call : Call) → call.Answer,
        (∃ es result, Follows surroundings es ∧ t.send.Does es (some result)) ∧
          ∃ es result, Follows surroundings es ∧ t.receive.Does es (some result)) ∧
      (∀ es r, t.receive.Does es r →
        (t.config.Unusable ∨ t.Overreaches →
          (∀ e ∈ es, ¬ e.OnFile ∧ ¬ e.OnSocket) ∧ ∀ f g, Along Alters f es g → g = f) ∧
        ∀ result, r = some result →
          (result.kind = .invalidOption ↔ t.config.Unusable ∨ t.Overreaches)) ∧
      ∀ es r, t.send.Does es r →
        (t.config.Unusable → ∀ e ∈ es, ¬ e.OnFile ∧ ¬ e.OnSocket) ∧
        (t.Measured es → t.Overreaches → ∀ e ∈ es, ¬ e.OnSocket) ∧
        ∀ result, r = some result →
          (result.kind = .invalidOption ↔ t.config.Unusable ∨ t.Measured es ∧ t.Overreaches) := by
  have huntouched : ∀ {failure : Failure} {es : List Event} {r : Option Result},
      (Transfer.refuse failure).Does es r → ∀ e ∈ es, ¬ e.OnFile ∧ ¬ e.OnSocket := by
    intro failure es r hdoes e he
    have hreports := Transfer.reports_refuse hdoes e he
    exact ⟨hreports.not_onFile, hreports.not_onSocket⟩
  refine ⟨fun hrefused surroundings => ⟨?_, ?_⟩, fun es r hreceive => ⟨?_, ?_⟩,
    fun es r hsend => ⟨?_, ?_, ?_⟩⟩
  · exact Transfer.returns_of_silent Transfer.within_send
      (fun _ _ hdoes => Transfer.arrivals_of_send hrefused hdoes) surroundings
  · exact Transfer.returns_of_silent Transfer.within_receive
      (fun _ _ hdoes => Transfer.arrivals_of_receive hrefused hdoes) surroundings
  · intro hrefused
    obtain ⟨failure, -, hrefuse⟩ := Transfer.receive_of_refused hrefused
    rw [hrefuse] at hreceive
    have hnone := huntouched hreceive
    exact ⟨hnone, fun f g halong => eq_of_along_alters halong fun e he => (hnone e he).1⟩
  · rintro result rfl
    exact Transfer.receive_kind_iff hreceive
  · intro hunusable
    obtain ⟨failure, -, hrefuse⟩ := Transfer.send_of_unusable hunusable
    rw [hrefuse] at hsend
    exact huntouched hsend
  · rintro ⟨-, size, hmeasured⟩ houtOfRange
    obtain ⟨failure, hnegotiate⟩ := negotiate_error_iff.mpr houtOfRange
    obtain ⟨start, rest, rfl, hrest⟩ := Transfer.send_of_measured hsend hmeasured
    have hreports := (hrest failure hnegotiate).1
    simp only [openingTrace, List.cons_append, List.nil_append, List.forall_mem_cons]
    exact ⟨id, id, id, fun e he => (hreports e he).not_onSocket⟩
  · rintro result rfl
    exact Transfer.send_kind_iff hsend

/-- A transfer that asks for blocks of seven bytes. -/
def smallBlocks : Transfer := ⟨.default, .unspecified, .unspecified, [102], [⟨.blockSize, 7⟩]⟩

/-- Blocks of seven bytes are refused: a receiver leaves an existing file alone, a sender has only
opened and measured its own. Without a single attempt even that is not done. -/
theorem refused_untouched_smallBlocks :
    (∃ es result, Follows willing es ∧ smallBlocks.receive.Does es (some result)) ∧
    (∃ es, smallBlocks.receive.Does es (some ⟨some (.invalidBlockSize 7), 0, 0⟩) ∧
      (∀ e ∈ es, ¬ e.OnFile ∧ ¬ e.OnSocket) ∧ ∀ f g, Along Alters f es g → g = f) ∧
    (∃ es, smallBlocks.send.Does es (some ⟨some (.invalidBlockSize 7), 0, 0⟩) ∧
      smallBlocks.Measured es ∧ ∀ e ∈ es, ¬ e.OnSocket) ∧
    ∃ es, { smallBlocks with config := ⟨0, 5000⟩ }.send.Does es (some ⟨some .noRetries, 0, 0⟩) ∧
      ∀ e ∈ es, ¬ e.OnFile ∧ ¬ e.OnSocket := by
  have houtOfRange : smallBlocks.Overreaches :=
    ⟨⟨.blockSize, 7⟩, List.mem_singleton_self _, Or.inl (by decide)⟩
  obtain ⟨hreturns, hreceive, hsend⟩ := refused_untouched smallBlocks
  refine ⟨(hreturns (Or.inr houtOfRange) willing).2, ?_, ?_, ?_⟩
  · have run : ∃ es, smallBlocks.receive.Does es (some ⟨some (.invalidBlockSize 7), 0, 0⟩) := by
      apply Exists.intro [⟨.readClock, 0⟩, ⟨.readWallClock, 0⟩, ⟨.print _ _, ()⟩]
      repeat refine does_cons_iff.mpr ⟨_, rfl, ?_⟩
      exact does_nil_iff.mpr rfl
    obtain ⟨es, hdoes⟩ := run
    exact ⟨es, hdoes, (hreceive _ _ hdoes).1 (Or.inr houtOfRange)⟩
  · have run : ∃ tail, smallBlocks.send.Does
        (⟨.readClock, 0⟩ :: ⟨.openForReading [102], .ok ()⟩ :: ⟨.fileSize, .ok 3⟩ :: tail)
        (some ⟨some (.invalidBlockSize 7), 0, 0⟩) := by
      apply Exists.intro [⟨.readWallClock, 0⟩, ⟨.print _ _, ()⟩]
      repeat refine does_cons_iff.mpr ⟨_, rfl, ?_⟩
      exact does_nil_iff.mpr rfl
    obtain ⟨tail, hdoes⟩ := run
    have hrefused := ((hsend _ _ hdoes).2.2 _ rfl).mp rfl
    obtain ⟨hmeasured, -⟩ := hrefused.resolve_left (by decide)
    exact ⟨_, hdoes, hmeasured, (hsend _ _ hdoes).2.1 hmeasured houtOfRange⟩
  · have run : ∃ es, { smallBlocks with config := ⟨0, 5000⟩ }.send.Does es
        (some ⟨some .noRetries, 0, 0⟩) := by
      apply Exists.intro [⟨.readClock, 0⟩, ⟨.readWallClock, 0⟩, ⟨.print _ _, ()⟩]
      repeat refine does_cons_iff.mpr ⟨_, rfl, ?_⟩
      exact does_nil_iff.mpr rfl
    obtain ⟨es, hdoes⟩ := run
    obtain ⟨-, -, hunusable⟩ := refused_untouched { smallBlocks with config := ⟨0, 5000⟩ }
    exact ⟨es, hdoes, (hunusable _ _ hdoes).1 (Or.inl rfl)⟩

end Tftp
