import Tftp.Proofs.Calls
import Tftp.Proofs.Sending.Confirming
import Tftp.Proofs.Transfer

/-!
# Telling the peer of a failure

Some failures are told to the peer, and telling it may fail in turn. There are four such places. If
the file cannot be opened, the peer is told over a socket that is made for that purpose, and the
result does not depend on how that goes. A sender that rejects the first answer and a receiver that
cannot store a block tell the peer over the socket they have: there a send that fails takes the
place of the cause.

* `Aborts` is a transfer that ends with one result, whatever still happens.
* `Notifies` is an engine that has nothing left to do but to tell the peer.
* `TriesOnce` is a preparation that tries the file with its first call, if at all; both directions
  are of this kind, and `aborts_of_triesOnce` is about both.
* `diskFullTrace` is a run with a full disk, for either fate of the report.

Results:
* `aborts_of_report`: reporting a file that cannot be opened does not change the result.
* `notifies_of_refusing` and `notifies_of_rejecting`: what the two engines end with.
* **`notification_outcome`**: all four places.

The specification has four failures told to the peer (§4.4, §10.3): a file that cannot be opened or
created, a wrong first answer, and a block that cannot be stored. In all of them the local failure
is to be the cause. It is so where the report has a socket of its own; where the engine tells the
peer over the socket of the transfer, a report that cannot be sent puts its own failure in the place
of the cause, and a full disk is told as a failure of the socket.

Out of scope: whether the report arrives. It is sent once, and nobody waits for an answer.
-/

namespace Tftp

open Program

/-! ## Sorts of events -/

/-- The event opens the file, or fails to. -/
def Event.TriesFile (e : Event) : Prop :=
  match e.call with
  | .openForReading _ | .openForWriting _ => True
  | _ => False

theorem Event.PreparesSocket.not_triesFile {e : Event} (h : e.PreparesSocket) : ¬ e.TriesFile := by
  cases h <;> exact id

theorem Event.Concludes.not_triesFile {e : Event} (h : e.Concludes) : ¬ e.TriesFile := by
  cases h <;> exact id

theorem Sender.Asks.not_triesFile {s : Sender} {call : Call} {resume : call.Answer → Sender}
    (h : s.Asks call resume) (answer : call.Answer) : ¬ Event.TriesFile ⟨call, answer⟩ := by
  cases h <;> exact id

theorem Receiver.Asks.not_triesFile {r : Receiver} {call : Call} {resume : call.Answer → Receiver}
    (h : r.Asks call resume) (answer : call.Answer) : ¬ Event.TriesFile ⟨call, answer⟩ := by
  cases h <;> exact id

/-- The event fails to store a block, for a reason. -/
inductive Event.FailsToStore (reason : SystemError) : Event → Prop where
  | writing (bytes : Bytes) : FailsToStore reason ⟨.writeBytes bytes, .error reason⟩
  | flushing : FailsToStore reason ⟨.flush, .error reason⟩

/-! ## Engines that tell the peer -/

/-- An engine has nothing left to do but to tell the peer `packet`, and goes on with the events
`es`. It fails for `cause` once the peer is told, and for the socket if that fails. -/
inductive Notifies (packet : Packet) (cause : Failure) :
    List Event → Option (Except Failure Unit) → Prop where
  | waiting : Notifies packet cause [] none
  | told : Notifies packet cause [⟨.sendDatagram packet.encode, .ok ()⟩] (some (.error cause))
  | untold (reason : SystemError) :
      Notifies packet cause [⟨.sendDatagram packet.encode, .error reason⟩]
        (some (.error (.socketFailed .send reason)))

/-- A receiver that cannot store a block tells the peer, and ends. -/
theorem notifies_of_refusing {r t : Receiver} {reason : SystemError} {es : List Event}
    (refusing : r.phase = .refusing reason) (run : Runs Receiver.ask? r es t) :
    Notifies Receiver.refusal (.writeFailed reason) es t.outcome? := by
  cases run with
  | nil =>
    rw [Receiver.outcome?, refusing]
    exact .waiting
  | cons answer asks rest =>
    cases Receiver.asks_of_ask? asks with
    | refusing hp =>
      rw [refusing] at hp
      cases hp
      cases answer with
      | ok =>
        obtain ⟨rfl, rfl⟩ := rest.eq_of_ended rfl
        exact .told
      | error failure =>
        obtain ⟨rfl, rfl⟩ := rest.eq_of_ended rfl
        exact .untold failure
    | polling hp | awaiting hp | repeating hp | writing hp | flushing hp | acknowledging hp =>
      rw [refusing] at hp
      cases hp

/-- Whatever could not be stored, the receiver goes on to tell the peer. -/
theorem refusing_of_failsToStore {r t : Receiver} {reason : SystemError} {e : Event}
    {after : List Event} (fails : e.FailsToStore reason)
    (run : Runs Receiver.ask? r (e :: after) t) :
    ∃ u, u.phase = .refusing reason ∧ Runs Receiver.ask? u after t := by
  cases run with
  | cons answer asks rest =>
    cases fails with
    | writing bytes | flushing =>
      cases Receiver.asks_of_ask? asks
      exact ⟨_, rfl, rest⟩

/-- A sender that rejects the first answer tells the peer, and ends. -/
theorem notifies_of_rejecting {s t : Sender} {block : UInt16} {es : List Event}
    (rejecting : s.phase = .rejecting block) (run : Runs Sender.ask? s es t) :
    Notifies Sender.rejection (.wrongAnswer block) es t.outcome? := by
  cases run with
  | nil =>
    rw [Sender.outcome?, rejecting]
    exact .waiting
  | cons answer asks rest =>
    cases Sender.asks_of_ask? asks with
    | rejecting hp =>
      rw [rejecting] at hp
      cases hp
      cases answer with
      | ok =>
        obtain ⟨rfl, rfl⟩ := rest.eq_of_ended rfl
        exact .told
      | error failure =>
        obtain ⟨rfl, rfl⟩ := rest.eq_of_ended rfl
        exact .untold failure
    | confirming hp | reading hp | polling hp | sending hp | awaiting hp =>
      rw [rejecting] at hp
      cases hp

/-- An acknowledgement of another block than 0 is rejected. -/
theorem rejecting_of_ack {s : Sender} {source : Address} {bytes : Bytes} {block : UInt16}
    (ack : Packet.decode bytes = .ok (.ack block)) (other : block ≠ 0) :
    (s.afterFirstAnswer (.ok ⟨source, bytes⟩)).phase = .rejecting block := by
  have hlength : bytes.length ≤ datagramRoom := by
    cases written_of_decode ack
    show 4 ≤ datagramRoom
    decide
  have harrival := Arrival.ofAnswer_eq_packet_iff.mpr
    ⟨bytes, (rfl : Except.ok (Datagram.mk source bytes) = _), hlength, ack⟩
  simp only [Sender.afterFirstAnswer, harrival, other, if_false]

/-! ## Transfers that tell the peer -/

/-- A transfer goes on with the events `es` and ends soon, with `result` and no other. -/
structure Aborts (result : Result) (es : List Event) (r : Option Result) : Prop where
  ends : es.length ≤ 13
  only : ∀ last, r = some last → last = result

section Transfers

variable {t : Transfer} {before after es : List Event} {r : Option Result} {e : Event}
  {sort : Event → Prop}

/-- Reporting a file that cannot be opened does not change the result. -/
theorem aborts_of_report {α : Type} {code : ErrorCode} {text : Bytes} {failure : Failure}
    {serve : Except Failure α → Program Result}
    (failing : serve (.error failure) = Transfer.failed failure 0 0)
    (h : ((t.reportFileError code text >>= fun _ => pure (.error failure)) >>= serve).Does es r) :
    Aborts ⟨some failure, 0, 0⟩ es r := by
  have hreport := Transfer.within_reportFileError (t := t) (k := 0) code text
  rw [LawfulMonad.bind_assoc] at h
  refine ⟨?_, ?_⟩
  · have hwithin := within_bind hreport (fun _ => failing ▸ Transfer.within_failed _ _ _) h
    rwa [allowance, Nat.zero_mul] at hwithin
  · rintro last rfl
    obtain ⟨_, _, _, -, -, hlast⟩ := does_bind_some h
    rw [pure_bind, failing] at hlast
    exact does_failed_some hlast

/-- Serving a file opens none. -/
theorem serveSend_not_triesFile {start : Int} {direction : Direction} {p : Parameters}
    {endpoint : Endpoint} :
    (t.serveSend start direction p endpoint).Makes fun e => ¬ e.TriesFile :=
  makes_serveSend (fun _ _ _ => id) (fun asks answer => asks.not_triesFile answer)
    fun _ h => h.not_triesFile

theorem serveReceive_not_triesFile {start : Int} {p : Parameters} {endpoint : Endpoint} :
    (t.serveReceive start p endpoint).Makes fun e => ¬ e.TriesFile :=
  makes_serveReceive (fun _ _ _ => id) (fun asks answer => asks.not_triesFile answer)
    fun _ h => h.not_triesFile

/-- An event that is the first of a trace, and no later one, has nothing before it. -/
theorem eq_nil_of_first {e first : Event} {before after rest : List Event} {sort : Event → Prop}
    (he : sort e) (others : ∀ x ∈ rest, ¬ sort x) (split : first :: rest = before ++ e :: after) :
    before = [] := by
  cases before with
  | nil => rfl
  | cons b before =>
    obtain ⟨-, rfl⟩ := List.cons.inj split
    exact absurd he (others e (List.mem_append_right _ (List.mem_cons_self ..)))

/-- What follows the first event of a trace holds any other event of it. -/
theorem rest_of_first {e first : Event} {before after rest : List Event} (ne : e ≠ first)
    (split : before ++ e :: after = first :: rest) :
    ∃ more, before = first :: more ∧ rest = more ++ e :: after := by
  cases before with
  | nil => exact absurd (List.cons.inj split).1 ne
  | cons b before =>
    obtain ⟨rfl, rfl⟩ := List.cons.inj split
    exact ⟨before, rfl, rfl⟩

theorem makes_reportUnopened_not_triesFile {α : Type} {code : ErrorCode} {text : Bytes}
    {failure : Failure} :
    (t.reportFileError code text >>= fun _ =>
      (pure (.error failure) : Program (Except Failure α))).Makes fun e => ¬ e.TriesFile :=
  makes_bind (makes_reportFileError (fun _ h => h.not_triesFile) (fun _ h => h.not_triesFile)
    fun _ => id) fun _ => makes_pure _

theorem makes_ready_not_triesFile {α : Type} {milliseconds : Int} {g : Endpoint → α} :
    (Endpoint.ready t.here t.peer milliseconds >>= fun x =>
      match x with
      | .error failure => (pure (.error failure) : Program (Except Failure α))
      | .ok endpoint => pure (.ok (g endpoint))).Makes fun e => ¬ e.TriesFile := by
  refine makes_bind (Endpoint.makes_ready fun _ h => h.not_triesFile) fun ready => ?_
  cases ready with
  | error failure => exact makes_pure _
  | ok endpoint => exact makes_pure _

theorem makes_failed_not_triesFile {failure : Failure} {transferred : Nat} {misses : UInt32} :
    (Transfer.failed failure transferred misses).Makes fun e => ¬ e.TriesFile :=
  fun _ _ h e he => (makes_failed h e he).not_triesFile

/-- A preparation tries the file with its first call, if at all. If that is answered `unopened`, it
tells the peer and fails for `failure`. -/
inductive TriesOnce {α : Type} (t : Transfer) (opening : Call) (unopened : opening.Answer)
    (failure : Failure) (prepare : Program (Except Failure α)) : Prop where
  | never (others : prepare.Makes fun e => ¬ e.TriesFile)
  | first {next : opening.Answer → Program (Except Failure α)} {code : ErrorCode} {text : Bytes}
      (opens : prepare = ask opening >>= next)
      (others : ∀ answer, (next answer).Makes fun e => ¬ e.TriesFile)
      (reports : next unopened =
        (t.reportFileError code text >>= fun _ => pure (.error failure)))

theorem triesOnce_prepareSend (reason : SystemError) :
    TriesOnce t (.openForReading t.file.untilZero) (.error reason) (.cannotOpen t.file reason)
      t.prepareSend := by
  unfold Transfer.prepareSend
  cases t.config.check with
  | error failure => exact .never (makes_pure _)
  | ok =>
    refine .first rfl (fun opened => ?_) rfl
    cases opened with
    | error reason => exact makes_reportUnopened_not_triesFile
    | ok =>
      refine makes_bind (makes_ask fun _ => id) fun size => ?_
      cases size with
      | error reason => exact makes_pure _
      | ok size =>
        dsimp only
        cases negotiate t.requested (.send size) t.config.timeout with
        | error failure => exact makes_pure _
        | ok p =>
          exact makes_ready_not_triesFile (g := fun endpoint => (Direction.send size, p, endpoint))

theorem triesOnce_prepareReceive (reason : SystemError) :
    TriesOnce t (.openForWriting t.file.untilZero) (.error reason) (.cannotCreate t.file reason)
      t.prepareReceive := by
  unfold Transfer.prepareReceive
  cases t.config.check with
  | error failure => exact .never (makes_pure _)
  | ok =>
    dsimp only
    cases negotiate t.requested .receive t.config.timeout with
    | error failure => exact .never (makes_pure _)
    | ok p =>
      refine .first rfl (fun opened => ?_) rfl
      cases opened with
      | error reason => exact makes_reportUnopened_not_triesFile
      | ok => exact makes_ready_not_triesFile (g := fun endpoint => (p, endpoint))

/-- A transfer that tries its file once, and to which the file is refused, ends for that. -/
theorem aborts_of_triesOnce {α : Type} {opening : Call} {unopened : opening.Answer}
    {failure : Failure} {prepare : Program (Except Failure α)}
    {serve : Int → Except Failure α → Program Result}
    (once : TriesOnce t opening unopened failure prepare)
    (failing : ∀ start failure, serve start (.error failure) = Transfer.failed failure 0 0)
    (serving : ∀ start prepared, (serve start (.ok prepared)).Makes fun e => ¬ e.TriesFile)
    (tries : e.TriesFile) (refused : ∀ answer, e = ⟨opening, answer⟩ → answer = unopened)
    (h : (ask .readClock >>= fun start => prepare >>= serve start).Does (before ++ e :: after) r) :
    Aborts ⟨some failure, 0, 0⟩ after r := by
  rcases does_ask_bind h with ⟨hnil, -⟩ | ⟨start, rest, hsplit, hrest⟩
  · exact absurd hnil (by simp)
  obtain ⟨more, rfl, rfl⟩ := rest_of_first (by rintro rfl; exact tries) hsplit
  have hserve : ∀ prepared, (serve start prepared).Makes fun e => ¬ e.TriesFile := by
    intro prepared
    cases prepared with
    | error failure =>
      rw [failing]
      exact makes_failed_not_triesFile
    | ok prepared => exact serving start prepared
  cases once with
  | never others =>
    exact absurd tries (makes_bind others hserve hrest e (by simp))
  | first opens others reports =>
    rw [opens, LawfulMonad.bind_assoc] at hrest
    rcases does_ask_bind hrest with ⟨hnil, -⟩ | ⟨answer, rest, hsplit, hafter⟩
    · exact absurd hnil (by simp)
    -- No later call tries the file, so the one that was refused is the first.
    have hlater := makes_bind (others answer) hserve hafter
    obtain rfl := eq_nil_of_first tries hlater hsplit.symm
    obtain ⟨heq, rfl⟩ := List.cons.inj hsplit
    obtain rfl := refused answer heq
    rw [reports] at hafter
    exact aborts_of_report (failing start failure) hafter

/-- A sender whose file cannot be opened fails for that. -/
theorem aborts_of_unopened {path : Bytes} {reason : SystemError}
    (h : t.send.Does (before ++ ⟨.openForReading path, .error reason⟩ :: after) r) :
    Aborts ⟨some (.cannotOpen t.file reason), 0, 0⟩ after r := by
  unfold Transfer.send at h
  refine aborts_of_triesOnce (triesOnce_prepareSend reason) (fun _ _ => rfl)
    (fun _ _ => serveSend_not_triesFile) ?_ (fun answer heq => ?_) h
  · trivial
  · cases heq
    rfl

/-- A receiver whose file cannot be created fails for that. -/
theorem aborts_of_uncreated {path : Bytes} {reason : SystemError}
    (h : t.receive.Does (before ++ ⟨.openForWriting path, .error reason⟩ :: after) r) :
    Aborts ⟨some (.cannotCreate t.file reason), 0, 0⟩ after r := by
  unfold Transfer.receive at h
  refine aborts_of_triesOnce (triesOnce_prepareReceive reason) (fun _ _ => rfl)
    (fun _ _ => serveReceive_not_triesFile) ?_ (fun answer heq => ?_) h
  · trivial
  · cases heq
    rfl

end Transfers

/-! ## All four places -/

/-- **Telling the peer of a failure**, whatever becomes of it:

* a transfer whose file cannot be opened or created ends with that failure and no other, after at
  most 13 more calls, whatever they are answered;
* a receiver that cannot store a block only tells the peer, and fails for the file exactly if the
  peer is told, otherwise for the socket;
* a sender that gets another acknowledgement than that of block 0 as its first answer only tells
  the peer, and fails for the answer exactly if the peer is told, otherwise for the socket. -/
theorem notification_outcome (before after : List Event) :
    (∀ (t : Transfer) (path : Bytes) (reason : SystemError) (r : Option Result),
      t.send.Does (before ++ ⟨.openForReading path, .error reason⟩ :: after) r →
        Aborts ⟨some (.cannotOpen t.file reason), 0, 0⟩ after r) ∧
      (∀ (t : Transfer) (path : Bytes) (reason : SystemError) (r : Option Result),
        t.receive.Does (before ++ ⟨.openForWriting path, .error reason⟩ :: after) r →
          Aborts ⟨some (.cannotCreate t.file reason), 0, 0⟩ after r) ∧
      (∀ (r u : Receiver) (reason : SystemError) (e : Event), e.FailsToStore reason →
        Runs Receiver.ask? r.receiveFile (before ++ e :: after) u →
          Notifies Receiver.refusal (.writeFailed reason) after u.outcome?) ∧
      (∀ (s u : Sender) (source : Address) (bytes : Bytes) (block : UInt16) (room : Nat),
        Packet.decode bytes = .ok (.ack block) → block ≠ 0 →
        Runs Sender.ask? s.confirm
            (before ++ ⟨.receiveDatagram room, .ok ⟨source, bytes⟩⟩ :: after) u →
          Notifies Sender.rejection (.wrongAnswer block) after u.outcome?) := by
  refine ⟨fun t path reason r h => aborts_of_unopened h,
    fun t path reason r h => aborts_of_uncreated h, ?_, ?_⟩
  · intro r u reason e hfails run
    obtain ⟨v, -, hrest⟩ := run.split
    obtain ⟨w, hrefusing, hafter⟩ := refusing_of_failsToStore hfails hrest
    exact notifies_of_refusing hrefusing hafter
  · intro s u source bytes block room hack hother run
    obtain ⟨v, hbefore, hrest⟩ := run.split
    cases hrest with
    | cons answer asks rest =>
      cases Sender.confirming_of_runs hbefore with
      | waiting =>
        cases asks
        exact notifies_of_rejecting (rejecting_of_ack hack hother) rest
      | answered first =>
        -- A second wait does not follow.
        obtain ⟨other, hphase⟩ := Sender.rejecting_of_asks asks
        cases Sender.asks_of_ask? asks with
        | confirming hp | awaiting hp =>
          rw [hphase] at hp
          cases hp
      | rejected wrong sent =>
        rw [Sender.ask?_afterRejection] at asks
        cases asks

/-- The trace of a receiver whose first block cannot be written; `sent` is what becomes of telling
the peer. -/
def diskFullTrace (sent : Except SystemError Unit) : List Event :=
  [⟨.pollCancelled, false⟩, ⟨.receiveDatagram 516, .ok ⟨.unspecified, [0, 3, 0, 1, 97, 98, 99]⟩⟩,
    ⟨.writeBytes [97, 98, 99], .error .noSpace⟩, ⟨.sendDatagram Receiver.refusal.encode, sent⟩]

theorem runs_diskFullTrace (sent : Except SystemError Unit) :
    ∃ u, Runs Receiver.ask? (Receiver.new 512 6 .zero).receiveFile (diskFullTrace sent) u ∧
      u.outcome?.isSome := by
  refine ⟨_, .cons _ rfl (.cons _ rfl (.cons _ rfl (.cons _ rfl (.nil _)))), ?_⟩
  cases sent <;> rfl

/-- A transfer in either direction whose file is refused runs to its end, also while no socket can
be created. -/
theorem does_refusedFile :
    (∃ tail result, (Transfer.mk .default .unspecified .unspecified [102] []).send.Does
        (⟨.readClock, 0⟩ :: ⟨.openForReading [102], .error .noSuchFile⟩ ::
          ⟨.createSocket, .error .networkDown⟩ :: tail) (some result)) ∧
      ∃ tail result, (Transfer.mk .default .unspecified .unspecified [102] []).receive.Does
        (⟨.readClock, 0⟩ :: ⟨.openForWriting [102], .error .readOnly⟩ ::
          ⟨.createSocket, .error .networkDown⟩ :: tail) (some result) := by
  constructor
  all_goals
    apply Exists.intro
      [⟨.readWallClock, 0⟩, ⟨.print _ _, ()⟩, ⟨.readWallClock, 0⟩, ⟨.print _ _, ()⟩]
    apply Exists.intro
    repeat refine does_cons_iff.mpr ⟨_, rfl, ?_⟩
    exact does_nil_iff.mpr rfl

/-- All four places at a concrete run: a file that cannot be opened while no socket can be created,
one that cannot be created, a full disk, and a wrong first answer. -/
theorem notification_outcome_told :
    (∃ tail result, (Transfer.mk .default .unspecified .unspecified [102] []).send.Does
        (⟨.readClock, 0⟩ :: ⟨.openForReading [102], .error .noSuchFile⟩ ::
          ⟨.createSocket, .error .networkDown⟩ :: tail) (some result) ∧
      result = ⟨some (.cannotOpen [102] .noSuchFile), 0, 0⟩) ∧
    (∃ tail result, (Transfer.mk .default .unspecified .unspecified [102] []).receive.Does
        (⟨.readClock, 0⟩ :: ⟨.openForWriting [102], .error .readOnly⟩ ::
          ⟨.createSocket, .error .networkDown⟩ :: tail) (some result) ∧
      result = ⟨some (.cannotCreate [102] .readOnly), 0, 0⟩) ∧
    (∃ u, Runs Receiver.ask? (Receiver.new 512 6 .zero).receiveFile (diskFullTrace (.ok ())) u ∧
      u.outcome? = some (.error (.writeFailed .noSpace))) ∧
    ∃ u, Runs Sender.ask? (Sender.new 512 6 .zero).confirm
        [⟨.receiveDatagram datagramRoom, .ok ⟨.unspecified, [0, 4, 0, 1]⟩⟩,
          ⟨.sendDatagram Sender.rejection.encode, .ok ()⟩] u ∧
      u.outcome? = some (.error (.wrongAnswer 1)) := by
  obtain ⟨hsend, hreceive⟩ := does_refusedFile
  refine ⟨?_, ?_, ?_, ?_⟩
  · obtain ⟨tail, result, hdoes⟩ := hsend
    obtain ⟨hopen, -⟩ := notification_outcome [⟨.readClock, 0⟩]
      (⟨.createSocket, .error .networkDown⟩ :: tail)
    exact ⟨tail, result, hdoes, (hopen _ _ _ _ hdoes).only _ rfl⟩
  · obtain ⟨tail, result, hdoes⟩ := hreceive
    obtain ⟨-, hcreate, -⟩ := notification_outcome [⟨.readClock, 0⟩]
      (⟨.createSocket, .error .networkDown⟩ :: tail)
    exact ⟨tail, result, hdoes, (hcreate _ _ _ _ hdoes).only _ rfl⟩
  · obtain ⟨u, run, hended⟩ := runs_diskFullTrace (.ok ())
    obtain ⟨-, -, hstore, -⟩ := notification_outcome ((diskFullTrace (.ok ())).take 2)
      [⟨.sendDatagram Receiver.refusal.encode, .ok ()⟩]
    refine ⟨u, run, ?_⟩
    cases hout : u.outcome? with
    | none =>
      rw [hout] at hended
      cases hended
    | some outcome =>
      have htold := hstore _ u .noSpace _ (.writing [97, 98, 99]) run
      rw [hout] at htold
      cases htold
      rfl
  · have run : Runs Sender.ask? (Sender.new 512 6 .zero).confirm
        [⟨.receiveDatagram datagramRoom, .ok ⟨.unspecified, [0, 4, 0, 1]⟩⟩,
          ⟨.sendDatagram Sender.rejection.encode, .ok ()⟩] _ := .cons _ rfl (.cons _ rfl (.nil _))
    obtain ⟨-, -, -, hreject⟩ :=
      notification_outcome [] [⟨.sendDatagram Sender.rejection.encode, .ok ()⟩]
    have htold := hreject _ _ .unspecified [0, 4, 0, 1] 1 datagramRoom rfl (by decide) run
    refine ⟨_, run, ?_⟩
    cases htold
    rfl

/-- If the peer of a receiver with a full disk cannot be told, the receiver fails for the socket:
the cause is masked. -/
theorem diskFullTrace_masked :
    (∃ u, Runs Receiver.ask? (Receiver.new 512 6 .zero).receiveFile (diskFullTrace (.ok ())) u ∧
      u.outcome? = some (.error (.writeFailed .noSpace))) ∧
    (∃ u, Runs Receiver.ask? (Receiver.new 512 6 .zero).receiveFile
        (diskFullTrace (.error .networkUnreachable)) u ∧
      u.outcome? = some (.error (.socketFailed .send .networkUnreachable))) ∧
    (Failure.writeFailed .noSpace).kind = .fileAccess ∧
    (Failure.socketFailed .send .networkUnreachable).kind ≠ .fileAccess :=
  ⟨⟨_, .cons _ rfl (.cons _ rfl (.cons _ rfl (.cons _ rfl (.nil _)))), rfl⟩,
    ⟨_, .cons _ rfl (.cons _ rfl (.cons _ rfl (.cons _ rfl (.nil _)))), rfl⟩, rfl, by decide⟩

end Tftp
