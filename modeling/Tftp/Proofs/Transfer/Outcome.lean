import Tftp.Proofs.Transfer.Returning

/-!
# What a result tells

A transfer ends with a result, and the result is true to what happened: it tells success exactly if
the loop that sends or receives the blocks came to its normal end, it counts the bytes that the
trace shows to be acknowledged or stored, and a failure is of a kind for which the trace holds a
cause.

* `SendLoop` and `ReceiveLoop` say how the loop of a run went, if it was reached.
* `SendCause` and `ReceiveCause` are the causes, by kind.
* `Result.Tells` is what a result says about a run.

Results:
* `Sender.Confirming.cause`: why a sender does not go on after the first answer.
* `tells_of_send` and `tells_of_receive`: what the result of a run tells.
* **`transfer_outcome`**: every transfer returns such a result.

The specification asks for a structured result that says whether the transfer succeeded, of which
kind the failure is, and how many bytes were moved (§7, §10.3). This is about the truth of that
result. Each kind has a cause in the trace, and the causes exclude nothing that can happen: a
transfer that returns has one of them.

The kinds are a little wider than their descriptions. A first answer that does not come is a timeout
without a retry, and one that cannot be read is an illegal response.

Out of scope: the wording of a message beyond its cause (`Failure.message`), and the log.
-/

namespace Tftp

open Program

/-! ## Results -/

/-- What a result tells about a run whose loop came to `loop`, of which `bytes` bytes are
acknowledged or stored, and which holds the causes `cause`. -/
structure Result.Tells (result : Result) (loop : Option (Except Failure Unit)) (bytes : Nat)
    (cause : ErrorKind → Prop) : Prop where
  kind : result.ok = true ↔ result.kind = .none
  normal : result.ok = true ↔ loop = some (.ok ())
  transferred : result.transferred = bytes
  cause : result.ok = false → cause result.kind

theorem Failure.kind_ne_none (failure : Failure) : failure.kind ≠ .none := by
  cases failure <;> nofun

section Tells

variable {bytes : Nat} {misses : UInt32} {cause : ErrorKind → Prop}

/-- A transfer that fails before its loop tells why. -/
theorem tells_of_unreached {failure : Failure} (zero : bytes = 0) (shows : cause failure.kind) :
    (Result.mk (some failure) 0 misses).Tells none bytes cause :=
  ⟨⟨nofun, fun h => absurd h failure.kind_ne_none⟩, ⟨nofun, nofun⟩, zero.symm, fun _ => shows⟩

/-- A transfer whose loop has ended tells how. -/
theorem tells_of_outcome {outcome : Except Failure Unit}
    (shows : ∀ failure, outcome = .error failure → cause failure.kind) :
    (Result.ofOutcome outcome bytes misses).Tells (some outcome) bytes cause := by
  cases outcome with
  | ok => exact ⟨⟨fun _ => rfl, fun _ => rfl⟩, ⟨fun _ => rfl, fun _ => rfl⟩, rfl, nofun⟩
  | error failure =>
    exact ⟨⟨nofun, fun h => absurd h failure.kind_ne_none⟩, ⟨nofun, nofun⟩, rfl,
      fun _ => shows failure rfl⟩

end Tells

/-! ## The first answer -/

namespace Sender

/-- A first answer that is a failure of a kind by itself: the wait brought no datagram, a malformed
one, or an acknowledgement of another block than 0. -/
inductive Refuted : Except SystemError Datagram → ErrorKind → Prop where
  | nothing {reason : SystemError} (none : reason.isNoDatagram = true) :
      Refuted (.error reason) .timedOut
  | malformed {answer : Except SystemError Datagram} {fault : Malformed}
      (malformed : Arrival.ofAnswer datagramRoom answer = .malformed fault) :
      Refuted answer .illegalResponse
  | wrong {answer : Except SystemError Datagram} {source : Address} {block : UInt16}
      (ack : Arrival.ofAnswer datagramRoom answer = .packet source (.ack block))
      (other : block ≠ 0) : Refuted answer .illegalResponse

/-- The first wait of a trace brought such an answer. -/
def FirstRefuted (es : List Event) (kind : ErrorKind) : Prop :=
  ∃ answer, (outcomes es).head? = some answer ∧ Refuted answer kind

variable {s t : Sender} {es : List Event} {failure : Failure}

theorem ofAnswer_of_rejecting {answer : Except SystemError Datagram} {block : UInt16}
    (wrong : (s.afterFirstAnswer answer).phase = .rejecting block) :
    ∃ source, Arrival.ofAnswer datagramRoom answer = .packet source (.ack block) ∧ block ≠ 0 := by
  unfold afterFirstAnswer at wrong
  dsimp only at wrong
  split at wrong
  · rename_i source ack harrival
    split at wrong
    · cases wrong
    · rename_i hother
      cases wrong
      exact ⟨source, harrival, hother⟩
  · cases wrong
  · cases wrong
  · cases wrong
  · cases wrong
  · cases wrong

theorem refuted_of_nothing {answer : Except SystemError Datagram}
    (h : Arrival.ofAnswer datagramRoom answer = .nothing) : Refuted answer .timedOut := by
  unfold Arrival.ofAnswer at h
  split at h
  · rename_i reason
    split at h
    · rename_i hnone
      exact .nothing hnone
    · cases h
  · split at h
    · cases h
    · split at h <;> cases h

/-- **A sender that does not go on** was shown its failure, or the first answer is one by itself. -/
theorem Confirming.cause (h : s.Confirming es t) (failed : t.outcome? = some (.error failure)) :
    Shown failure.kind es ∨ FirstRefuted es failure.kind := by
  cases h with
  | waiting => cases failed
  | answered answer =>
    unfold afterFirstAnswer at failed
    dsimp only at failed
    split at failed
    · split at failed <;> cases failed
    · rename_i harrival
      cases failed
      exact Or.inl ⟨_, List.mem_cons_self .., Event.bringsError_of_arrival harrival⟩
    · cases failed
    · rename_i harrival
      cases failed
      exact Or.inr ⟨answer, rfl, .malformed harrival⟩
    · rename_i harrival
      cases failed
      exact Or.inr ⟨answer, rfl, refuted_of_nothing harrival⟩
    · rename_i harrival
      cases failed
      exact Or.inl ⟨_, List.mem_cons_self .., Event.shows_of_failed harrival⟩
  | @rejected answer block wrong sent =>
    obtain ⟨source, harrival, hother⟩ := ofAnswer_of_rejecting wrong
    cases sent with
    | ok =>
      cases failed
      exact Or.inr ⟨answer, rfl, .wrong harrival hother⟩
    | error reason =>
      cases failed
      exact Or.inl ⟨_, List.mem_cons_of_mem _ (List.mem_cons_self ..), trivial⟩

end Sender

/-! ## The parts of a trace -/

/-- The event precedes the blocks of a sender: it reads none, and hands out no data. -/
def Event.PrecedesBlocks (e : Event) : Prop :=
  (∀ count, e.call ≠ .readBytes count) ∧ ∀ bytes, e.handed? = some bytes → ¬ CarriesData bytes

theorem Event.Incidental.precedesBlocks {e : Event} (h : e.Incidental) : e.PrecedesBlocks := by
  obtain ⟨call, answer⟩ := e
  refine ⟨?_, ?_⟩
  · rintro count rfl
    exact h
  · intro bytes hhanded
    cases call <;> cases hhanded
    exact h

theorem Event.Incidental.outcome? {e : Event} (h : e.Incidental) : e.outcome? = none := by
  obtain ⟨call, answer⟩ := e
  cases call with
  | receiveDatagram room => exact h.elim
  | _ => rfl

/-- A sender reads nothing before its first answer, and hands out no data. -/
theorem Sender.Confirming.precedesBlocks {s t : Sender} {es : List Event} (h : s.Confirming es t) :
    ∀ e ∈ es, e.PrecedesBlocks := by
  have hwait : ∀ answer, Event.PrecedesBlocks ⟨.receiveDatagram datagramRoom, answer⟩ :=
    fun _ => ⟨nofun, nofun⟩
  cases h with
  | waiting => exact List.forall_mem_nil _
  | answered answer => exact List.forall_mem_singleton.mpr (hwait answer)
  | @rejected answer _ wrong sent =>
    refine List.forall_mem_cons.mpr ⟨hwait answer, List.forall_mem_singleton.mpr ⟨nofun, ?_⟩⟩
    rintro bytes hhanded
    cases hhanded
    exact fun hdata => nomatch opcode_of_carriesData hdata

namespace Sender

variable {before es after : List Event}

theorem Tally.next_of_idle {t : Tally} {e : Event} (idle : t.inFlight = none)
    (noData : ∀ bytes, e.handed? = some bytes → ¬ CarriesData bytes) : t.next e = t := by
  unfold Tally.next
  rw [idle]
  split
  · rename_i block payload hdata
    obtain ⟨bytes, hhanded, hdecode⟩ := Option.map_eq_some_iff.mp hdata
    exact absurd ⟨block, payload, hdecode⟩ (noData bytes hhanded)
  · rfl

theorem tally_of_precedes (precedes : ∀ e ∈ es, e.PrecedesBlocks) : tally es = ⟨none, 0⟩ := by
  induction es using List.reverseRecOn with
  | nil => rfl
  | append_singleton es e ih =>
    obtain ⟨hes, he⟩ := List.forall_mem_append.mp precedes
    rw [tally_snoc, ih hes]
    exact Tally.next_of_idle rfl (he e (List.mem_singleton_self e)).2

/-- What precedes the blocks and what concludes the transfer acknowledges nothing. -/
theorem tally_within (precedes : ∀ e ∈ before, e.PrecedesBlocks)
    (concludes : ∀ e ∈ after, e.Concludes) : tally (before ++ (es ++ after)) = tally es := by
  have hbefore : tally (before ++ es) = tally es := by
    rw [tally, List.foldl_append]
    exact congrArg (fun t => es.foldl Tally.next t) (tally_of_precedes precedes)
  rw [← List.append_assoc, ← hbefore]
  induction after using List.reverseRecOn with
  | nil => rw [List.append_nil]
  | append_singleton after e ih =>
    obtain ⟨hafter, he⟩ := List.forall_mem_append.mp concludes
    have hconcludes := he e (List.mem_singleton_self e)
    rw [← List.append_assoc, tally_snoc, ih hafter]
    refine Tally.next_silent hconcludes.handed? ?_
    cases hconcludes <;> rfl

theorem Tried.within {block : UInt16} {payload : Bytes} {copies misses : Nat}
    (h : Tried block payload copies misses es) (before : List Event)
    (concludes : ∀ e ∈ after, e.Concludes) :
    Tried block payload copies misses (before ++ (es ++ after)) := by
  have hhanded := handed_eq_nil fun e he => (concludes e he).handed?
  have houtcomes := outcomes_eq_nil fun e he => (concludes e he).incidental.outcome?
  refine ⟨?_, ?_⟩
  · rw [handed_append, handed_append, hhanded, List.append_nil]
    exact h.sent.trans (List.suffix_append _ _)
  · obtain ⟨earlier, last, hsplit, hlength, hmissed⟩ := h.missed
    refine ⟨outcomes before ++ earlier, last, ?_, hlength, hmissed⟩
    rw [outcomes_append, outcomes_append, houtcomes, List.append_nil, hsplit, List.append_assoc]

theorem FirstRefuted.within {kind : ErrorKind} (h : FirstRefuted es kind)
    (incidental : ∀ e ∈ before, e.Incidental) (after : List Event) :
    FirstRefuted (before ++ (es ++ after)) kind := by
  obtain ⟨answer, hfirst, hrefuted⟩ := h
  refine ⟨answer, ?_, hrefuted⟩
  rw [outcomes_append, outcomes_eq_nil fun e he => (incidental e he).outcome?, List.nil_append,
    outcomes_append, List.head?_append, hfirst]
  rfl

end Sender

namespace Receiver

variable {B : Nat} {before es after : List Event} {l : Ledger}

theorem Ledger.next_of_incidental {e : Event} (h : e.Incidental) : l.next B e = l := by
  obtain ⟨call, answer⟩ := e
  cases call with
  | readBytes | writeBytes | flush | receiveDatagram | pollCancelled => exact h.elim
  | _ => rfl

theorem foldl_next_of_incidental (incidental : ∀ e ∈ es, e.Incidental) :
    es.foldl (Ledger.next B) l = l := by
  induction es with
  | nil => rfl
  | cons e es ih =>
    obtain ⟨he, hes⟩ := List.forall_mem_cons.mp incidental
    rw [List.foldl_cons, Ledger.next_of_incidental he]
    exact ih hes

/-- Incidental calls accept nothing. -/
theorem ledger_within (incidental : ∀ e ∈ before, e.Incidental)
    (incidental' : ∀ e ∈ after, e.Incidental) :
    ledger B none (before ++ (es ++ after)) = ledger B none es := by
  rw [ledger, List.foldl_append, foldl_next_of_incidental incidental, List.foldl_append]
  exact foldl_next_of_incidental incidental'

theorem Waited.within {k : Nat} (h : Waited B k es) (incidental : ∀ e ∈ before, e.Incidental)
    (incidental' : ∀ e ∈ after, e.Incidental) : Waited B k (before ++ (es ++ after)) := by
  obtain ⟨earlier, last, hsplit, hmissed⟩ := h
  refine ⟨outcomes before ++ earlier, last, ?_, ?_⟩
  · rw [outcomes_append, outcomes_append, hsplit,
      outcomes_eq_nil fun e he => (incidental' e he).outcome?, List.append_nil, List.append_assoc]
  · rw [ledger_within incidental incidental']
    exact hmissed

end Receiver

/-! ## Loops and causes -/

namespace Transfer

/-- The block size that the options of a transfer lead to; the default one if they are refused. -/
def blockSize (t : Transfer) (direction : Direction) : Nat :=
  match negotiate t.requested direction t.config.timeout with
  | .ok p => p.blockSize
  | .error _ => defaultBlockSize

theorem blockSize_of_negotiate {t : Transfer} {direction : Direction} {p : Parameters}
    (h : negotiate t.requested direction t.config.timeout = .ok p) :
    t.blockSize direction = p.blockSize := by
  rw [blockSize, h]

/-- How the loop that sends the blocks went in a run: it was not reached, or it ended with an
outcome and the transfer concluded. -/
inductive SendLoop (t : Transfer) : List Event → Option (Except Failure Unit) → Prop where
  | unreached {es : List Event} (unread : ∀ e ∈ es, e.PrecedesBlocks) : SendLoop t es none
  | ended {before sends after : List Event} {size : UInt64} {s u : Sender}
      {outcome : Except Failure Unit} (unread : ∀ e ∈ before, e.PrecedesBlocks)
      (measured : ⟨.fileSize, .ok size⟩ ∈ before)
      (blockSize : s.blockSize = t.blockSize (.send size))
      (maxRetries : s.maxRetries = t.config.maxRetries)
      (run : Runs Sender.ask? s.sendFile sends u) (ended : u.outcome? = some outcome)
      (concludes : ∀ e ∈ after, e.Concludes) :
      SendLoop t (before ++ (sends ++ after)) (some outcome)

/-- How the loop that receives the blocks went in a run: it was not reached, or it ended with an
outcome and the transfer concluded. -/
inductive ReceiveLoop (t : Transfer) : List Event → Option (Except Failure Unit) → Prop where
  | unreached {es : List Event} (incidental : ∀ e ∈ es, e.Incidental) : ReceiveLoop t es none
  | ended {before receives after : List Event} {traffic : Traffic} {u : Receiver}
      {outcome : Except Failure Unit} (incidental : ∀ e ∈ before, e.Incidental)
      (run : Runs Receiver.ask?
        (Receiver.new (t.blockSize .receive) t.config.maxRetries traffic).receiveFile receives u)
      (ended : u.outcome? = some outcome) (concludes : ∀ e ∈ after, e.Concludes) :
      ReceiveLoop t (before ++ (receives ++ after)) (some outcome)

/-- What happened, by kind, in a run that failed to send its file. A failing call, an error packet
and a cancellation are shown by one event. -/
def SendCause (t : Transfer) (es : List Event) : ErrorKind → Prop
  | .invalidOption =>
    (∃ failure, t.config.check = .error failure) ∨ ∃ size failure, ⟨.fileSize, .ok size⟩ ∈ es ∧
      negotiate t.requested (.send size) t.config.timeout = .error failure
  | .timedOut =>
    Sender.FirstRefuted es .timedOut ∨ ∃ block payload,
      Sender.Tried block payload t.config.maxRetries t.config.maxRetries es
  | .illegalResponse => Sender.FirstRefuted es .illegalResponse
  | kind => Shown kind es

/-- What happened, by kind, in a run that failed to receive its file. -/
def ReceiveCause (t : Transfer) (es : List Event) : ErrorKind → Prop
  | .invalidOption =>
    (∃ failure, t.config.check = .error failure) ∨
      ∃ failure, negotiate t.requested .receive t.config.timeout = .error failure
  | .timedOut => Receiver.Waited (t.blockSize .receive) t.config.maxRetries es
  | kind => Shown kind es

section Causes

variable {t : Transfer} {es : List Event} {failure : Failure}

theorem sendCause_of_shown {kind : ErrorKind} (h : Shown kind es) : t.SendCause es kind := by
  cases kind with
  | invalidOption | timedOut | illegalResponse =>
    obtain ⟨e, -, hshows⟩ := h
    exact hshows.elim
  | none | fileAccess | peerError | socket | cancelled => exact h

theorem receiveCause_of_shown {kind : ErrorKind} (h : Shown kind es) : t.ReceiveCause es kind := by
  cases kind with
  | invalidOption | timedOut =>
    obtain ⟨e, -, hshows⟩ := h
    exact hshows.elim
  | none | fileAccess | peerError | illegalResponse | socket | cancelled => exact h

theorem sendCause_of_hindered {size : UInt64} (h : Hindered t (.send size) es failure) :
    t.SendCause es failure.kind := by
  cases h with
  | config refused =>
    rw [Config.kind_of_check refused]
    exact Or.inl ⟨failure, refused⟩
  | option measured refused =>
    rw [kind_of_negotiate refused]
    exact Or.inr ⟨size, failure, measured size rfl, refused⟩
  | call barred => exact sendCause_of_shown barred.shown

theorem receiveCause_of_hindered (h : Hindered t .receive es failure) :
    t.ReceiveCause es failure.kind := by
  cases h with
  | config refused =>
    rw [Config.kind_of_check refused]
    exact Or.inl ⟨failure, refused⟩
  | option measured refused =>
    rw [kind_of_negotiate refused]
    exact Or.inr ⟨failure, refused⟩
  | call barred => exact receiveCause_of_shown barred.shown

theorem sendCause_of_firstRefuted {kind : ErrorKind} (h : Sender.FirstRefuted es kind) :
    t.SendCause es kind := by
  obtain ⟨answer, hfirst, hrefuted⟩ := h
  cases hrefuted with
  | nothing hnone => exact Or.inl ⟨_, hfirst, .nothing hnone⟩
  | malformed hmalformed => exact ⟨_, hfirst, .malformed hmalformed⟩
  | wrong hack hother => exact ⟨_, hfirst, .wrong hack hother⟩

end Causes

/-! ## Whole transfers -/

section Whole

variable {t : Transfer} {es front : List Event} {result : Result}

/-- What a sender that is served tells, after the events `front` that prepared it. -/
theorem tells_of_sendsFile {size : UInt64} {p : Parameters} (valid : t.config.check = .ok ())
    (negotiated : negotiate t.requested (.send size) t.config.timeout = .ok p)
    (measured : ⟨.fileSize, .ok size⟩ ∈ front) (incidental : ∀ e ∈ front, e.Incidental)
    (h : SendsFile p.blockSize t.config.maxRetries es (some result)) :
    ∃ loop, t.SendLoop (front ++ es) loop ∧
      result.Tells loop (Sender.tally (front ++ es)).bytes (t.SendCause (front ++ es)) := by
  have hfront : ∀ e ∈ front, e.PrecedesBlocks := fun e he => (incidental e he).precedesBlocks
  cases h with
  | @confirming _ conf tail s _ run unconfirmed concluding =>
    obtain ⟨outcome, hout, rfl⟩ := concluding.result result rfl
    have hconfirming := Sender.confirming_of_runs run
    cases outcome with
    | ok => exact absurd hout unconfirmed
    | error failure =>
      have hconcludes := concluding.concludes
      have hprecedes : ∀ e ∈ front ++ (conf ++ tail), e.PrecedesBlocks := by
        rw [List.forall_mem_append, List.forall_mem_append]
        exact ⟨hfront, hconfirming.precedesBlocks,
          fun e he => (hconcludes e he).incidental.precedesBlocks⟩
      have hzero : s.transferred = 0 := hconfirming.keeps.2.2
      rw [hzero]
      refine ⟨none, .unreached hprecedes, tells_of_unreached ?_ ?_⟩
      · rw [Sender.tally_of_precedes hprecedes]
      · rcases hconfirming.cause hout with hshown | hrefuted
        · exact sendCause_of_shown (hshown.within front tail)
        · exact sendCause_of_firstRefuted (hrefuted.within incidental tail)
  | @sending _ conf sends tail s u _ run confirmed run' concluding =>
    obtain ⟨outcome, hout, rfl⟩ := concluding.result result rfl
    have hconfirming := Sender.confirming_of_runs run
    obtain ⟨hsize, hretries, hzero⟩ := hconfirming.keeps
    have hbefore : ∀ e ∈ front ++ conf, e.PrecedesBlocks :=
      List.forall_mem_append.mpr ⟨hfront, hconfirming.precedesBlocks⟩
    have haccount := Sender.account_of_runs run' hzero (hretries ▸ Config.maxRetries_pos valid)
    rw [hretries] at haccount
    rw [← List.append_assoc]
    refine ⟨some outcome, .ended hbefore (List.mem_append_left _ measured) ?_ hretries run' hout
      concluding.concludes, ?_⟩
    · rw [hsize, blockSize_of_negotiate negotiated]
      rfl
    · rw [Sender.tally_within hbefore concluding.concludes, ← haccount.transferred]
      refine tells_of_outcome ?_
      rintro failure rfl
      rcases haccount.cause hout with hshown | ⟨hkind, block, payload, htried⟩
      · exact sendCause_of_shown (hshown.within _ tail)
      · rw [hkind]
        exact Or.inr ⟨block, payload, htried.within _ concluding.concludes⟩

/-- What a receiver that is served tells, after the events `front` that prepared it. -/
theorem tells_of_receivesFile {p : Parameters} (valid : t.config.check = .ok ())
    (negotiated : negotiate t.requested .receive t.config.timeout = .ok p)
    (incidental : ∀ e ∈ front, e.Incidental)
    (h : ReceivesFile p.blockSize t.config.maxRetries es (some result)) :
    ∃ loop, t.ReceiveLoop (front ++ es) loop ∧
      result.Tells loop (Receiver.ledger (t.blockSize .receive) none
        (front ++ es)).payloads.flatten.length (t.ReceiveCause (front ++ es)) := by
  cases h with
  | @receiving _ receives tail u _ run concluding =>
    obtain ⟨outcome, hout, rfl⟩ := concluding.result result rfl
    rw [← blockSize_of_negotiate negotiated] at run
    have haccount := Receiver.account_of_runs run (Config.maxRetries_pos valid)
    have htail : ∀ e ∈ tail, e.Incidental := fun e he => (concluding.concludes e he).incidental
    refine ⟨some outcome, .ended incidental run hout concluding.concludes, ?_⟩
    rw [Receiver.ledger_within incidental htail, ← haccount.booked.transferred]
    refine tells_of_outcome ?_
    rintro failure rfl
    rcases haccount.cause hout with hshown | ⟨hkind, hwaited⟩
    · exact receiveCause_of_shown (hshown.within front tail)
    · rw [hkind]
      exact hwaited.within incidental htail

/-- A transfer that could not hand out its greeting made only incidental calls, and the socket shows
why it failed. -/
theorem unsent_greeting {acknowledged : List OptionEntry} {direction : Direction} {packet : Packet}
    {reason : SystemError} {tail : List Event} (incidental : ∀ e ∈ front, e.Incidental)
    (greets : Endpoint.greeting? acknowledged direction = some packet)
    (concludes : ∀ e ∈ tail, e.Concludes) :
    (∀ e ∈ front ++ (⟨.sendDatagram packet.encode, .error reason⟩ :: tail), e.Incidental) ∧
      Shown .socket (front ++ (⟨.sendDatagram packet.encode, .error reason⟩ :: tail)) := by
  refine ⟨?_, _, List.mem_append_right _ (List.mem_cons_self ..), trivial⟩
  rw [List.forall_mem_append, List.forall_mem_cons]
  exact ⟨incidental, incidental_greeting greets _, fun e he => (concludes e he).incidental⟩

/-- **What the result of a transfer that sends its file tells.** -/
theorem tells_of_send (h : t.send.Does es (some result)) :
    ∃ loop, t.SendLoop es loop ∧ result.Tells loop (Sender.tally es).bytes (t.SendCause es) := by
  -- A run that made only incidental calls acknowledged nothing.
  have hunserved : ∀ {es : List Event} {failure : Failure} {misses : UInt32},
      (∀ e ∈ es, e.Incidental) → t.SendCause es failure.kind →
      ∃ loop, t.SendLoop es loop ∧
        (Result.mk (some failure) 0 misses).Tells loop (Sender.tally es).bytes
          (t.SendCause es) := by
    intro es failure misses hincidental hcause
    have hprecedes : ∀ e ∈ es, e.PrecedesBlocks := fun e he => (hincidental e he).precedesBlocks
    refine ⟨none, .unreached hprecedes, tells_of_unreached ?_ hcause⟩
    rw [Sender.tally_of_precedes hprecedes]
  obtain ⟨size, hhindered | ⟨hcheck, hcourse⟩⟩ := served_of_send h
  · obtain ⟨failure, hcause, rfl⟩ := hhindered.cause
    exact hunserved hhindered.incidental (sendCause_of_hindered hcause)
  cases hcourse with
  | @served start p bound before rest _ prepared serves =>
    have hprepared : ∀ e ∈ (⟨.readClock, start⟩ :: before : List Event), e.Incidental :=
      List.forall_mem_cons.mpr ⟨trivial, prepared.incidental⟩
    rw [← List.cons_append]
    cases serves with
    | unsent hgreets concluding =>
      obtain ⟨outcome, hout, rfl⟩ := concluding.result result rfl
      cases hout
      obtain ⟨hincidental, hshown⟩ := unsent_greeting hprepared hgreets concluding.concludes
      exact hunserved hincidental hshown
    | served hsends =>
      rw [← List.append_assoc]
      refine tells_of_sendsFile hcheck prepared.negotiated ?_ ?_ hsends
      · rw [prepared.trace]
        simp [openingTrace]
      · exact List.forall_mem_append.mpr ⟨hprepared, incidental_greetingTrace _ _⟩

/-- **What the result of a transfer that receives its file tells.** -/
theorem tells_of_receive (h : t.receive.Does es (some result)) :
    ∃ loop, t.ReceiveLoop es loop ∧
      result.Tells loop (Receiver.ledger (t.blockSize .receive) none es).payloads.flatten.length
        (t.ReceiveCause es) := by
  -- A run that made only incidental calls accepted nothing.
  have hunserved : ∀ {es : List Event} {failure : Failure} {misses : UInt32},
      (∀ e ∈ es, e.Incidental) → t.ReceiveCause es failure.kind →
      ∃ loop, t.ReceiveLoop es loop ∧ (Result.mk (some failure) 0 misses).Tells loop
        (Receiver.ledger (t.blockSize .receive) none es).payloads.flatten.length
        (t.ReceiveCause es) := by
    intro es failure misses hincidental hcause
    refine ⟨none, .unreached hincidental, tells_of_unreached ?_ hcause⟩
    rw [Receiver.ledger, Receiver.foldl_next_of_incidental hincidental]
    rfl
  obtain hhindered | ⟨hcheck, hcourse⟩ := served_of_receive h
  · obtain ⟨failure, hcause, rfl⟩ := hhindered.cause
    exact hunserved hhindered.incidental (receiveCause_of_hindered hcause)
  cases hcourse with
  | @served start p bound before rest _ prepared serves =>
    have hprepared : ∀ e ∈ (⟨.readClock, start⟩ :: before : List Event), e.Incidental :=
      List.forall_mem_cons.mpr ⟨trivial, prepared.incidental⟩
    rw [← List.cons_append]
    cases serves with
    | unsent hgreets concluding =>
      obtain ⟨outcome, hout, rfl⟩ := concluding.result result rfl
      cases hout
      obtain ⟨hincidental, hshown⟩ := unsent_greeting hprepared hgreets concluding.concludes
      exact hunserved hincidental hshown
    | served hreceives =>
      rw [← List.append_assoc]
      refine tells_of_receivesFile hcheck prepared.negotiated ?_ hreceives
      exact List.forall_mem_append.mpr ⟨hprepared, incidental_greetingTrace _ _⟩

end Whole

end Transfer

/-- **The boundary of a transfer**, whatever its configuration and options, the file, the socket,
the peer and the cancellation flag do:

* in surroundings in which only so many datagrams arrive it returns a result, in both directions;
* the result of a transfer that sends its file tells success exactly if the loop that sends the
  blocks came to its normal end, counts the payload bytes of the acknowledged blocks, and is of a
  kind for which something happened if it tells no success;
* so does that of a transfer that receives its file, with the payload bytes of the blocks that were
  accepted and stored. -/
theorem transfer_outcome (t : Transfer) :
    (∀ (surroundings : List Event → (call : Call) → call.Answer) (n : Nat),
      (∀ es, Follows surroundings es → (arrivals es).length ≤ n) →
        (∃ es result, Follows surroundings es ∧ t.send.Does es (some result)) ∧
          ∃ es result, Follows surroundings es ∧ t.receive.Does es (some result)) ∧
      (∀ es result, t.send.Does es (some result) →
        ∃ loop, t.SendLoop es loop ∧
          result.Tells loop (Sender.tally es).bytes (t.SendCause es)) ∧
      ∀ es result, t.receive.Does es (some result) →
        ∃ loop, t.ReceiveLoop es loop ∧
          result.Tells loop
            (Receiver.ledger (t.blockSize .receive) none es).payloads.flatten.length
            (t.ReceiveCause es) :=
  ⟨fun _ _ scripted => ⟨Transfer.send_returns scripted, Transfer.receive_returns scripted⟩,
    fun _ _ h => Transfer.tells_of_send h, fun _ _ h => Transfer.tells_of_receive h⟩

/-- Answers with which every call succeeds, on a file of three bytes. -/
def willing (_ : List Event) : (call : Call) → call.Answer
  | .openForReading _ | .openForWriting _ | .writeBytes _ | .flush => .ok ()
  | .fileSize => .ok 3
  | .readBytes _ => .ok [7, 8, 9]
  | .createSocket | .connectSocket _ | .setReadDeadline _ | .setWriteDeadline _ => .ok ()
  | .bindSocket here => .ok here
  | .sendDatagram _ => .ok ()
  | .receiveDatagram _ => .error .wouldBlock
  | .pollCancelled | .compareFiles _ _ => false
  | .readClock | .readWallClock => 0
  | .closeSocket | .print _ _ => ()

/-- A transfer with one attempt for each block. -/
def hastyTransfer : Transfer := ⟨⟨1, 1000⟩, .unspecified, .unspecified, [102], []⟩

/-- The boundary at concrete runs: a peer that acknowledges nothing lets the transfer return, a peer
that acknowledges the only block lets it succeed with three bytes, and a receiver whose peer stays
silent has used up its only attempt with block 1. -/
theorem transfer_outcome_hasty :
    ((∃ es result, Follows (scripted [] willing) es ∧ hastyTransfer.send.Does es (some result)) ∧
      ∃ es result, Follows (scripted [] willing) es ∧ hastyTransfer.receive.Does es (some result)) ∧
    (∃ es, hastyTransfer.send.Does es (some ⟨none, 3, 0⟩) ∧ (Sender.tally es).bytes = 3 ∧
      hastyTransfer.SendLoop es (some (.ok ()))) ∧
    ∃ es, hastyTransfer.receive.Does es (some ⟨some (.retriesExhausted 1), 0, 1⟩) ∧
      Receiver.Waited 512 1 es := by
  obtain ⟨hreturns, hsend, hreceive⟩ := transfer_outcome hastyTransfer
  refine ⟨hreturns _ 0 fun es h => arrivals_le_of_scripted h, ?_, ?_⟩
  · have run : ∃ tail, hastyTransfer.send.Does
        (⟨.readClock, 0⟩ :: ⟨.openForReading [102], .ok ()⟩ :: ⟨.fileSize, .ok 3⟩ ::
          ⟨.createSocket, .ok ()⟩ :: ⟨.bindSocket .unspecified, .ok .unspecified⟩ ::
          ⟨.connectSocket .unspecified, .ok ()⟩ :: ⟨.setReadDeadline ⟨1, 0⟩, .ok ()⟩ ::
          ⟨.setWriteDeadline ⟨1, 0⟩, .ok ()⟩ ::
          ⟨.receiveDatagram datagramRoom, .ok ⟨.unspecified, [0, 4, 0, 0]⟩⟩ ::
          ⟨.readBytes 512, .ok [7, 8, 9]⟩ :: ⟨.pollCancelled, false⟩ ::
          ⟨.sendDatagram [0, 3, 0, 1, 7, 8, 9], .ok ()⟩ ::
          ⟨.receiveDatagram datagramRoom, .ok ⟨.unspecified, [0, 4, 0, 1]⟩⟩ :: tail)
        (some ⟨none, 3, 0⟩) := by
      apply Exists.intro
        [⟨.readClock, 0⟩, ⟨.readWallClock, 0⟩, ⟨.print _ _, ()⟩, ⟨.closeSocket, ()⟩]
      repeat refine does_cons_iff.mpr ⟨_, rfl, ?_⟩
      exact does_nil_iff.mpr rfl
    obtain ⟨tail, hdoes⟩ := run
    obtain ⟨loop, hloop, htells⟩ := hsend _ _ hdoes
    obtain rfl := htells.normal.mp rfl
    exact ⟨_, hdoes, htells.transferred.symm, hloop⟩
  · have run : ∃ tail, hastyTransfer.receive.Does
        (⟨.readClock, 0⟩ :: ⟨.openForWriting [102], .ok ()⟩ ::
          ⟨.createSocket, .ok ()⟩ :: ⟨.bindSocket .unspecified, .ok .unspecified⟩ ::
          ⟨.connectSocket .unspecified, .ok ()⟩ :: ⟨.setReadDeadline ⟨1, 0⟩, .ok ()⟩ ::
          ⟨.setWriteDeadline ⟨1, 0⟩, .ok ()⟩ :: ⟨.sendDatagram [0, 4, 0, 0], .ok ()⟩ ::
          ⟨.pollCancelled, false⟩ :: ⟨.receiveDatagram 516, .error .wouldBlock⟩ :: tail)
        (some ⟨some (.retriesExhausted 1), 0, 1⟩) := by
      apply Exists.intro [⟨.closeSocket, ()⟩, ⟨.readWallClock, 0⟩, ⟨.print _ _, ()⟩]
      repeat refine does_cons_iff.mpr ⟨_, rfl, ?_⟩
      exact does_nil_iff.mpr rfl
    obtain ⟨tail, hdoes⟩ := run
    obtain ⟨loop, -, htells⟩ := hreceive _ _ hdoes
    exact ⟨_, hdoes, htells.cause rfl⟩

end Tftp
