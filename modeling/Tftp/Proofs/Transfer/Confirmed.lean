import Tftp.Proofs.Sending.Confirming
import Tftp.Proofs.Transfer

/-!
# No data before the first answer

A transfer that sends its file hands out no data before its peer has answered once. The answer must
be a packet, and neither an error nor an acknowledgement of another block than 0. Any other first
answer, or none, ends the transfer: it waits for nothing more, hands out no data, and fails.

The first answer need not be acknowledgement 0, though: a request, a data packet or an option
acknowledgement also lets the transfer go on.

* `Answered` reads a trace up to the first answer.
* `dataAnswer_sends` is a run that goes on after data for an answer.

Results:
* `answered_of_does`: a run up to its first answer, and what the answer does.
* **`send_confirmed`**: the first answer before any data, in every run.

The specification has the sender wait for one packet before any data, with or without options (§4.4
and §10.5), and that packet is to be acknowledgement 0. The wait always takes place. What it accepts
is wider than that, see `Packet.Confirms`.

Out of scope: receivers, which are not answered before the first block (§4.6).
-/

namespace Tftp

open Program

/-! ## Events before the first answer -/

/-- The event waits for nothing and hands out no data. -/
def Event.Precedes (e : Event) : Prop :=
  e.outcome? = none ∧ ∀ bytes, e.handed? = some bytes → ¬ CarriesData bytes

theorem Event.Prepares.precedes {e : Event} (h : e.Prepares) : e.Precedes := by
  obtain ⟨call, answer⟩ := e
  refine ⟨?_, ?_⟩
  · cases call with
    | receiveDatagram room => exact h.elim
    | _ => rfl
  · intro bytes hhanded
    cases call <;> cases hhanded
    obtain ⟨code, text, rfl⟩ := h
    exact fun hdata => nomatch opcode_of_carriesData hdata

/-! ## The first answer -/

/-- The event rejects the first answer or concludes the transfer. -/
def Event.Refuses (e : Event) : Prop :=
  e.handed? = some Sender.rejection.encode ∨ e.Concludes

/-- A run up to its first answer: nothing was waited for, or the answer lets the transfer go on, or
it ends the transfer. -/
inductive Answered : List Event → Option Result → Prop where
  | unanswered {r : Option Result} (fails : ∀ result, r = some result → result.ok = false) :
      Answered [] r
  | preceded {e : Event} {es : List Event} {r : Option Result} (precedes : e.Precedes)
      (rest : Answered es r) : Answered (e :: es) r
  | confirmed {after : List Event} {answer : Except SystemError Datagram} {r : Option Result}
      (confirms : (Arrival.ofAnswer datagramRoom answer).Confirms) :
      Answered (⟨.receiveDatagram datagramRoom, answer⟩ :: after) r
  | refused {after : List Event} {answer : Except SystemError Datagram} {r : Option Result}
      (wrong : ¬ (Arrival.ofAnswer datagramRoom answer).Confirms)
      (refuses : ∀ e ∈ after, e.Refuses) (fails : ∀ result, r = some result → result.ok = false) :
      Answered (⟨.receiveDatagram datagramRoom, answer⟩ :: after) r

variable {t : Transfer} {es before : List Event} {r : Option Result}

theorem answered_nil : Answered [] none := by
  refine .unanswered fun result hr => ?_
  cases hr

theorem Answered.prepend (h : Answered es r) (precedes : ∀ e ∈ before, e.Precedes) :
    Answered (before ++ es) r := by
  induction before with
  | nil => exact h
  | cons e before ih =>
    rw [List.forall_mem_cons] at precedes
    exact .preceded precedes.1 (ih precedes.2)

/-- A run that waits for nothing and fails is one that nobody answered. -/
theorem answered_of_precedes (precedes : ∀ e ∈ es, e.Precedes)
    (fails : ∀ result, r = some result → result.ok = false) : Answered es r := by
  have hanswered := (Answered.unanswered fails).prepend precedes
  rwa [List.append_nil] at hanswered

theorem answered_of_sendsFile {blockSize maxRetries : Nat}
    (h : SendsFile blockSize maxRetries es r) : Answered es r := by
  cases h with
  | @confirming _ _ tail _ _ run unconfirmed concluding =>
    have hfails := concluding.fails unconfirmed
    have hconcludes : ∀ e ∈ tail, e.Refuses := fun e he => Or.inr (concluding.concludes e he)
    cases Sender.confirming_of_runs run with
    | waiting =>
      obtain ⟨rfl, rfl⟩ := concluding.ended rfl
      exact answered_nil
    | answered answer =>
      rw [Ne, Sender.outcome?_afterFirstAnswer_eq_ok_iff] at unconfirmed
      exact .refused unconfirmed hconcludes hfails
    | rejected wrong sent =>
      refine .refused ?_ (List.forall_mem_cons.mpr ⟨Or.inl rfl, hconcludes⟩) hfails
      rw [← Sender.outcome?_afterFirstAnswer_eq_ok_iff, Sender.outcome?, wrong]
      intro hok
      cases hok
  | sending run confirmed =>
    obtain ⟨answer, rfl, hconfirms⟩ :=
      (Sender.confirming_of_runs run).outcome?_eq_ok_iff.mp confirmed
    exact .confirmed hconfirms

/-- A greeting precedes the first answer, for no greeting is data. -/
theorem precedes_greeting {acknowledged : List OptionEntry} {direction : Direction}
    {packet : Packet} (h : Endpoint.greeting? acknowledged direction = some packet)
    (answer : Except SystemError Unit) :
    Event.Precedes ⟨.sendDatagram packet.encode, answer⟩ := by
  refine ⟨rfl, ?_⟩
  rintro bytes hhanded
  cases hhanded
  exact not_carriesData_greeting h

theorem precedes_greetingTrace (acknowledged : List OptionEntry) (direction : Direction) :
    ∀ e ∈ Endpoint.greetingTrace (Endpoint.greeting? acknowledged direction), e.Precedes := by
  unfold Endpoint.greetingTrace
  cases hgreeting : Endpoint.greeting? acknowledged direction with
  | none => exact List.forall_mem_nil _
  | some packet =>
    intro e he
    rw [List.mem_singleton.mp he]
    exact precedes_greeting hgreeting (.ok ())

theorem answered_of_serves {acknowledged : List OptionEntry} {direction : Direction}
    {blockSize maxRetries : Nat}
    (h : Serves (Endpoint.greeting? acknowledged direction) (SendsFile blockSize maxRetries) es r) :
    Answered es r := by
  cases h with
  | greeting => exact answered_nil
  | unsent hsome concluding =>
    refine .preceded (precedes_greeting hsome _) (answered_of_precedes ?_ (concluding.fails nofun))
    exact fun e he => (concluding.concludes e he).prepares.precedes
  | served hsends => exact (answered_of_sendsFile hsends).prepend (precedes_greetingTrace _ _)

/-- **Every run of a transfer that sends its file** comes to a first answer in one of these ways. -/
theorem answered_of_does (h : t.send.Does es r) : Answered es r := by
  rcases does_transferSend h with hunserved | ⟨size, hcourse⟩
  · exact answered_of_precedes (fun e he => (hunserved.prepares e he).precedes) hunserved.fails
  · cases hcourse with
    | served prepared serves =>
      refine .preceded (Event.Prepares.precedes trivial) ?_
      exact (answered_of_serves serves).prepend fun e he => (prepared.prepares e he).precedes

/-! ## What a run hands out -/

theorem Event.Refuses.not_carriesData {e : Event} (h : e.Refuses) {bytes : Bytes}
    (hhanded : e.handed? = some bytes) : ¬ CarriesData bytes := by
  rcases h with hrejects | hconcludes
  · obtain rfl : Sender.rejection.encode = bytes := Option.some.inj (hrejects.symm.trans hhanded)
    exact fun hdata => nomatch opcode_of_carriesData hdata
  · exact hconcludes.prepares.precedes.2 bytes hhanded

theorem Event.Refuses.outcome? {e : Event} (h : e.Refuses) : e.outcome? = none := by
  rcases h with hrejects | hconcludes
  · obtain ⟨call, answer⟩ := e
    cases call with
    | receiveDatagram room => cases hrejects
    | _ => rfl
  · exact hconcludes.prepares.precedes.1

/-- Data is handed out only after an answer that lets the transfer go on. -/
theorem Answered.confirms_of_data (h : Answered es r) {e : Event} {bytes : Bytes} (he : e ∈ es)
    (hhanded : e.handed? = some bytes) (hdata : CarriesData bytes) :
    ∃ before answer after, es = before ++ ⟨.receiveDatagram datagramRoom, answer⟩ :: after ∧
      (∀ e ∈ before, e.Precedes) ∧ (Arrival.ofAnswer datagramRoom answer).Confirms := by
  induction h with
  | unanswered => cases he
  | preceded hprecedes _ ih =>
    rcases List.mem_cons.mp he with rfl | hrest
    · exact absurd hdata (hprecedes.2 bytes hhanded)
    · obtain ⟨before, answer, after, rfl, hbefore, hconfirms⟩ := ih hrest
      exact ⟨_ :: before, answer, after, rfl, List.forall_mem_cons.mpr ⟨hprecedes, hbefore⟩,
        hconfirms⟩
  | confirmed hconfirms => exact ⟨[], _, _, rfl, List.forall_mem_nil _, hconfirms⟩
  | refused _ hrefuses _ =>
    rcases List.mem_cons.mp he with rfl | hafter
    · cases hhanded
    · exact absurd hdata ((hrefuses e hafter).not_carriesData hhanded)

/-- A wrong first answer is the only one, and the transfer fails without data. -/
theorem Answered.of_wrong (h : Answered es r) {answer : Except SystemError Datagram}
    {later : List (Except SystemError Datagram)} (first : outcomes es = answer :: later)
    (wrong : ¬ (Arrival.ofAnswer datagramRoom answer).Confirms) :
    later = [] ∧ (∀ e ∈ es, ∀ bytes, e.handed? = some bytes → ¬ CarriesData bytes) ∧
      ∀ result, r = some result → result.ok = false := by
  induction h with
  | unanswered => cases first
  | preceded hprecedes _ ih =>
    rw [outcomes_cons, hprecedes.1] at first
    obtain ⟨hlater, hsilent, hfails⟩ := ih first
    exact ⟨hlater, List.forall_mem_cons.mpr ⟨hprecedes.2, hsilent⟩, hfails⟩
  | confirmed hconfirms =>
    rw [outcomes_cons] at first
    cases first
    exact absurd hconfirms wrong
  | refused _ hrefuses hfails =>
    rw [outcomes_cons, outcomes_eq_nil fun e he => (hrefuses e he).outcome?] at first
    cases first
    refine ⟨rfl, List.forall_mem_cons.mpr ⟨?_, ?_⟩, hfails⟩
    · rintro bytes hhanded
      cases hhanded
    · exact fun e he _ => (hrefuses e he).not_carriesData

/-- **No data before the first answer**, in every run of a transfer that sends its file, whatever
its peer sends and whatever fails:

* if it hands out data, its first wait brought a packet that is neither an error nor an
  acknowledgement of another block than 0, and it handed out no data before;
* if its first wait brought anything else, it waits for nothing more, hands out no data, and fails;
* the wait for the first answer returns normally exactly after such a packet. -/
theorem send_confirmed (run : t.send.Does es r) :
    (∀ bytes ∈ handed es, CarriesData bytes →
      ∃ before source first p after,
        es = before ++ ⟨.receiveDatagram datagramRoom, .ok ⟨source, first⟩⟩ :: after ∧
        outcomes before = [] ∧ (∀ sent ∈ handed before, ¬ CarriesData sent) ∧
        Packet.decode first = .ok p ∧ p.Confirms) ∧
      (∀ answer later, outcomes es = answer :: later →
        ¬ (Arrival.ofAnswer datagramRoom answer).Confirms →
        later = [] ∧ (∀ sent ∈ handed es, ¬ CarriesData sent) ∧
          ∀ result, r = some result → result.ok = false) ∧
      ∀ (s u : Sender) (conf : List Event), Runs Sender.ask? s.confirm conf u →
        (u.outcome? = some (.ok ()) ↔
          ∃ answer, conf = [⟨.receiveDatagram datagramRoom, answer⟩] ∧
            (Arrival.ofAnswer datagramRoom answer).Confirms) := by
  have hanswered := answered_of_does run
  refine ⟨?_, ?_, ?_⟩
  · intro bytes hmem hdata
    obtain ⟨e, he, hhanded⟩ := mem_handed.mp hmem
    obtain ⟨before, answer, after, rfl, hbefore, source, p, harrival, hconfirms⟩ :=
      hanswered.confirms_of_data he hhanded hdata
    obtain ⟨first, rfl, -, hdecode⟩ := Arrival.ofAnswer_eq_packet_iff.mp harrival
    refine ⟨before, source, first, p, after, rfl, outcomes_eq_nil fun e he => (hbefore e he).1, ?_,
      hdecode, hconfirms⟩
    intro sent hsent
    obtain ⟨e, he, hhanded⟩ := mem_handed.mp hsent
    exact (hbefore e he).2 sent hhanded
  · intro answer later hfirst hwrong
    obtain ⟨hlater, hsilent, hfails⟩ := hanswered.of_wrong hfirst hwrong
    refine ⟨hlater, fun sent hsent => ?_, hfails⟩
    obtain ⟨e, he, hhanded⟩ := mem_handed.mp hsent
    exact hsilent e he sent hhanded
  · intro s u conf hrun
    exact (Sender.confirming_of_runs hrun).outcome?_eq_ok_iff

/-- A transfer without options. -/
def plainTransfer : Transfer := ⟨.default, .unspecified, .unspecified, [102], []⟩

/-- The trace of a transfer of three bytes up to its data; `first` is the first answer. -/
def firstAnswerTrace (first : Bytes) : List Event :=
  [⟨.readClock, 0⟩, ⟨.openForReading [102], .ok ()⟩, ⟨.fileSize, .ok 3⟩, ⟨.createSocket, .ok ()⟩,
    ⟨.bindSocket .unspecified, .ok .unspecified⟩, ⟨.connectSocket .unspecified, .ok ()⟩,
    ⟨.setReadDeadline ⟨5, 0⟩, .ok ()⟩, ⟨.setWriteDeadline ⟨5, 0⟩, .ok ()⟩,
    ⟨.receiveDatagram datagramRoom, .ok ⟨.unspecified, first⟩⟩, ⟨.readBytes 512, .ok [7, 8, 9]⟩,
    ⟨.pollCancelled, false⟩, ⟨.sendDatagram [0, 3, 0, 1, 7, 8, 9], .ok ()⟩]

theorem handed_firstAnswerTrace (first : Bytes) :
    handed (firstAnswerTrace first) = [(Packet.data 1 [7, 8, 9]).encode] := rfl

/-- After acknowledgement 0 the data is handed out. -/
theorem ackAnswer_confirmed :
    plainTransfer.send.Does (firstAnswerTrace [0, 4, 0, 0]) none ∧
      ∃ before source first p after, firstAnswerTrace [0, 4, 0, 0] =
          before ++ ⟨.receiveDatagram datagramRoom, .ok ⟨source, first⟩⟩ :: after ∧
        Packet.decode first = .ok p ∧ p.Confirms := by
  have run : plainTransfer.send.Does (firstAnswerTrace [0, 4, 0, 0]) none := by
    repeat refine does_cons_iff.mpr ⟨_, rfl, ?_⟩
    exact does_nil_iff.mpr rfl
  refine ⟨run, ?_⟩
  obtain ⟨hconfirmed, -, -⟩ := send_confirmed run
  obtain ⟨before, source, first, p, after, htrace, -, -, hdecode, hconfirms⟩ :=
    hconfirmed _ (List.mem_singleton_self _) (carriesData_encode 1 [7, 8, 9])
  exact ⟨before, source, first, p, after, htrace, hdecode, hconfirms⟩

/-- After a data packet of the peer it is handed out as well. -/
theorem dataAnswer_sends :
    plainTransfer.send.Does (firstAnswerTrace [0, 3, 0, 1]) none ∧
      (∃ bytes ∈ handed (firstAnswerTrace [0, 3, 0, 1]), CarriesData bytes) ∧
      outcomes (firstAnswerTrace [0, 3, 0, 1]) = [.ok ⟨.unspecified, [0, 3, 0, 1]⟩] ∧
      Packet.decode [0, 3, 0, 1] ≠ .ok (.ack 0) := by
  refine ⟨?_, ?_, rfl, ?_⟩
  · repeat refine does_cons_iff.mpr ⟨_, rfl, ?_⟩
    exact does_nil_iff.mpr rfl
  · rw [handed_firstAnswerTrace]
    exact ⟨_, List.mem_singleton_self _, carriesData_encode 1 [7, 8, 9]⟩
  · have hdecode : Packet.decode [0, 3, 0, 1] = .ok (.data 1 []) := rfl
    rw [hdecode]
    nofun

end Tftp
