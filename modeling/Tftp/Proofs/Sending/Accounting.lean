import Tftp.Proofs.Asks
import Tftp.Proofs.Causes
import Tftp.Proofs.RoundTrip
import Tftp.Proofs.Sending

/-!
# The account of a sender

What a trace of a sender says about its count of bytes, its failure and its length, whatever the
file, the socket and the peer do. Nothing is assumed of what the reads give.

* `Arrival.misses` tells whether an arrival makes a sender try again, and `Answered` lists what a
  wait for an acknowledgement leads to.
* `Tally` is what a trace says about the acknowledged payloads, without looking at the sender.
* `Tried` says that the last attempts of a trace were attempts with one block that missed.
* `Account` is the invariant: it ties each phase of the sender to both, and to the length of the
  trace.

Results:
* `Account.next`: each call of a sender and each answer keep the account.
* **`account_of_runs`**: every run of `sendFile` keeps it, from the start.

The bound on the length of a trace comes from the bound on the attempts (specification §4.5, §8),
and a transfer returns because of it (`Tftp.Proofs.Transfer.Returning`). The reason why a sender
failed is read off the trace: an event that shows it, or attempts that all missed.

Out of scope: which chunks were sent. That is `Tftp.Proofs.Sending` and `Tftp.Proofs.Sending.Order`.
-/

namespace Tftp

/-! ## Answers -/

/-- Whether an arrival leaves a block unacknowledged but does not end the transfer: nothing came, or
what came cannot be read, or acknowledges another block, or is neither an acknowledgement nor an
error. -/
def Arrival.misses (block : UInt16) : Arrival → Bool
  | .nothing | .malformed _ => true
  | .packet _ (.ack other) => decide (other ≠ block)
  | .packet _ (.error _ _) | .failed _ => false
  | .packet _ _ => true

theorem Arrival.acknowledged?_ne_of_misses {a : Arrival} {block : UInt16} (h : a.misses block) :
    a.acknowledged? ≠ some block := by
  intro hack
  obtain ⟨source, rfl⟩ := acknowledged?_eq_some_iff.mp hack
  simp [misses] at h

theorem Arrival.acknowledged?_ne_of_error {a : Arrival} {block : UInt16} {source : Address}
    {code : ErrorCode} {text : Bytes} (h : a = .packet source (.error code text)) :
    a.acknowledged? ≠ some block := by
  rw [h]
  exact (Option.some_ne_none block).symm

theorem Arrival.acknowledged?_ne_of_failed {a : Arrival} {block : UInt16} {failure : Failure}
    (h : a = .failed failure) : a.acknowledged? ≠ some block := by
  rw [h]
  exact (Option.some_ne_none block).symm

namespace Sender

/-- What an answer to the wait for the acknowledgement of an attempt leads to. -/
inductive Answered (s : Sender) (attempt : Attempt) (answer : Except SystemError Datagram) :
    Sender → Prop where
  | acknowledged
      (ack : (Arrival.ofAnswer datagramRoom answer).acknowledged? = some attempt.block) :
      Answered s attempt answer ({ s with traffic := s.traffic.countAnswer answer }.advance attempt)
  | missed (misses : (Arrival.ofAnswer datagramRoom answer).misses attempt.block) :
      Answered s attempt answer ({ s with traffic := s.traffic.countAnswer answer }.miss attempt)
  | refused {source : Address} {code : ErrorCode} {text : Bytes}
      (error : Arrival.ofAnswer datagramRoom answer = .packet source (.error code text)) :
      Answered s attempt answer
        ({ s with traffic := s.traffic.countAnswer answer }.abort (.peerError code text))
  | failed {failure : Failure} (socket : Arrival.ofAnswer datagramRoom answer = .failed failure) :
      Answered s attempt answer ({ s with traffic := s.traffic.countAnswer answer }.stop failure)

theorem answered_afterAnswer (s : Sender) (attempt : Attempt)
    (answer : Except SystemError Datagram) :
    s.Answered attempt answer (s.afterAnswer attempt answer) := by
  unfold afterAnswer
  dsimp only
  cases harrival : Arrival.ofAnswer datagramRoom answer with
  | packet source p =>
    cases p with
    | ack block =>
      dsimp only
      split
      · rename_i hblock
        exact .acknowledged (by rw [harrival, hblock]; rfl)
      · rename_i hblock
        exact .missed (by simpa [harrival, Arrival.misses] using hblock)
    | error code text => exact .refused harrival
    | request | data | optionAck => exact .missed (by rw [harrival]; rfl)
  | malformed | nothing => exact .missed (by rw [harrival]; rfl)
  | failed failure => exact .failed harrival

/-! ## Acknowledged payloads -/

/-- What a trace says about acknowledged payloads. -/
structure Tally where
  /-- The block handed out last, until it is acknowledged. -/
  inFlight : Option (UInt16 × Bytes)
  /-- The number of payload bytes of the acknowledged blocks. -/
  bytes : Nat

/-- The tally after one more event: handing out a data packet puts its block in flight, and its
acknowledgement counts it. -/
def Tally.next (t : Tally) (e : Event) : Tally :=
  match e.handed?.map Packet.decode with
  | some (.ok (.data block payload)) => { t with inFlight := some (block, payload) }
  | _ =>
    match t.inFlight with
    | some (block, payload) =>
      if e.acknowledged? = some block then ⟨none, t.bytes + payload.length⟩ else t
    | none => t

/-- The tally of a trace. -/
def tally (es : List Event) : Tally := es.foldl Tally.next ⟨none, 0⟩

theorem tally_snoc (es : List Event) (e : Event) : tally (es ++ [e]) = (tally es).next e := by
  rw [tally, List.foldl_append]
  rfl

theorem Tally.next_silent {t : Tally} {e : Event} (handed : e.handed? = none)
    (acknowledged : e.acknowledged? = none) : t.next e = t := by
  unfold Tally.next
  rw [handed, acknowledged]
  cases t.inFlight with
  | none => rfl
  | some flight => exact if_neg nofun

theorem Tally.next_data (t : Tally) (block : UInt16) (payload : Bytes)
    (answer : Except SystemError Unit) :
    t.next ⟨.sendDatagram (Packet.data block payload).encode, answer⟩ =
      ⟨some (block, payload), t.bytes⟩ := by
  simp only [Tally.next, Event.handed?, Option.map_some, Packet.decode_encode_data]

theorem Tally.next_wait {t : Tally} {block : UInt16} {payload : Bytes}
    (flight : t.inFlight = some (block, payload)) (room : Nat)
    (answer : Except SystemError Datagram) :
    t.next ⟨.receiveDatagram room, answer⟩ =
      if (Arrival.ofAnswer room answer).acknowledged? = some block then
        ⟨none, t.bytes + payload.length⟩
      else t := by
  unfold Tally.next
  rw [flight]
  rfl

/-! ## Attempts -/

/-- The last datagrams of a trace were `copies` of one block, and its last waits were `misses` that
did not bring the block's acknowledgement. -/
structure Tried (block : UInt16) (payload : Bytes) (copies misses : Nat) (es : List Event) :
    Prop where
  sent : List.replicate copies (Packet.data block payload).encode <:+ handed es
  missed : ∃ earlier last, outcomes es = earlier ++ last ∧ last.length = misses ∧
    ∀ answer ∈ last, (Arrival.ofAnswer datagramRoom answer).acknowledged? ≠ some block

section Tried

variable {block : UInt16} {payload : Bytes} {copies misses : Nat} {es : List Event}

theorem tried_zero : Tried block payload 0 0 es :=
  ⟨List.nil_suffix, outcomes es, [], (List.append_nil _).symm, rfl, List.forall_mem_nil _⟩

theorem Tried.silent (h : Tried block payload copies misses es) {e : Event}
    (handed : e.handed? = none) (outcome : e.outcome? = none) :
    Tried block payload copies misses (es ++ [e]) := by
  refine ⟨?_, ?_⟩
  · rw [handed_append, handed_singleton, handed, Option.toList_none, List.append_nil]
    exact h.sent
  · rw [outcomes_append, outcomes_singleton, outcome, Option.toList_none, List.append_nil]
    exact h.missed

theorem Tried.send (h : Tried block payload copies misses es) (answer : Except SystemError Unit) :
    Tried block payload (copies + 1) misses
      (es ++ [⟨.sendDatagram (Packet.data block payload).encode, answer⟩]) := by
  refine ⟨?_, ?_⟩
  · obtain ⟨earlier, hsent⟩ := h.sent
    rw [handed_append, ← hsent, List.replicate_succ', List.append_assoc]
    exact List.suffix_append _ _
  · rw [outcomes_append, outcomes_eq_nil (List.forall_mem_singleton.mpr rfl), List.append_nil]
    exact h.missed

theorem Tried.miss (h : Tried block payload copies misses es) (room : Nat)
    {answer : Except SystemError Datagram}
    (other : (Arrival.ofAnswer datagramRoom answer).acknowledged? ≠ some block) :
    Tried block payload copies (misses + 1) (es ++ [⟨.receiveDatagram room, answer⟩]) := by
  refine ⟨?_, ?_⟩
  · rw [handed_append, handed_eq_nil (List.forall_mem_singleton.mpr rfl), List.append_nil]
    exact h.sent
  · obtain ⟨earlier, last, hsplit, hlength, hmissed⟩ := h.missed
    refine ⟨earlier, last ++ [answer], ?_, ?_, ?_⟩
    · rw [outcomes_append, hsplit, List.append_assoc]
      rfl
    · rw [List.length_append, hlength, List.length_singleton]
    · exact List.forall_mem_append.mpr ⟨hmissed, List.forall_mem_singleton.mpr other⟩

end Tried

/-! ## The invariant -/

/-- What a phase has to do with the tally, the attempts and the length of the trace `es`. A block
takes a read and at most `m` attempts of three calls. -/
def PhaseAccount (m : Nat) (es : List Event) : Phase → Prop
  | .reading _ => es.length ≤ allowance (3 * m + 1) es
  | .polling attempt =>
    Tried attempt.block attempt.payload attempt.misses attempt.misses es ∧ attempt.misses < m ∧
      es.length + 3 * (m - attempt.misses) ≤ allowance (3 * m + 1) es + (3 * m + 1)
  | .sending attempt =>
    Tried attempt.block attempt.payload attempt.misses attempt.misses es ∧ attempt.misses < m ∧
      es.length + 3 * (m - attempt.misses) ≤ allowance (3 * m + 1) es + (3 * m + 2)
  | .awaiting attempt =>
    Tried attempt.block attempt.payload (attempt.misses + 1) attempt.misses es ∧
      attempt.misses < m ∧ (tally es).inFlight = some (attempt.block, attempt.payload) ∧
      es.length + 3 * (m - attempt.misses) ≤ allowance (3 * m + 1) es + (3 * m + 3)
  | .ended (.ok ()) => es.length ≤ allowance (3 * m + 1) es
  | .ended (.error failure) =>
    es.length ≤ allowance (3 * m + 1) es + (3 * m + 1) ∧
      (Shown failure.kind es ∨
        failure.kind = .timedOut ∧ ∃ block payload, Tried block payload m m es)
  | .confirming | .rejecting _ => False

/-- **The account of a sender** that tries each block at most `m` times, after the events `es`. -/
structure Account (m : Nat) (es : List Event) (s : Sender) : Prop where
  retries : s.maxRetries = m
  transferred : s.transferred = (tally es).bytes
  phase : PhaseAccount m es s.phase

section Account

variable {m : Nat} {es : List Event} {s : Sender}

theorem account_sendFile (fresh : s.transferred = 0) : Account s.maxRetries [] s.sendFile :=
  ⟨rfl, fresh, Nat.zero_le _⟩

theorem Account.phaseAccount (h : Account m es s) {phase : Phase} (hp : s.phase = phase) :
    PhaseAccount m es phase := hp ▸ h.phase

theorem Account.afterRead (h : Account m es s) (hm : 0 < m) {block : UInt16}
    (hp : s.phase = .reading block) (answer : Except SystemError Bytes) :
    Account m (es ++ [⟨.readBytes s.blockSize, answer⟩]) (s.afterRead block answer) := by
  have hlength : es.length ≤ allowance (3 * m + 1) es := h.phaseAccount hp
  have htally : tally (es ++ [⟨.readBytes s.blockSize, answer⟩]) = tally es := by
    rw [tally_snoc, Tally.next_silent rfl rfl]
  have hallow := allowance_silent (3 * m + 1) es
    (rfl : Event.datagram? ⟨.readBytes s.blockSize, answer⟩ = none)
  cases answer with
  | ok payload =>
    refine ⟨h.retries, by rw [htally]; exact h.transferred, tried_zero, hm, ?_⟩
    rw [hallow, List.length_append, List.length_singleton]
    omega
  | error reason =>
    refine ⟨h.retries, by rw [htally]; exact h.transferred, ?_, Or.inl (shown_snoc trivial)⟩
    rw [hallow, List.length_append, List.length_singleton]
    omega

theorem Account.afterPoll (h : Account m es s) {attempt : Attempt}
    (hp : s.phase = .polling attempt) (cancelled : Bool) :
    Account m (es ++ [⟨.pollCancelled, cancelled⟩]) (s.afterPoll attempt cancelled) := by
  obtain ⟨htried, hmisses, hlength⟩ := h.phaseAccount hp
  have htransferred : s.transferred = (tally (es ++ [⟨.pollCancelled, cancelled⟩])).bytes := by
    rw [tally_snoc, Tally.next_silent rfl rfl]
    exact h.transferred
  have hallow := allowance_silent (3 * m + 1) es
    (rfl : Event.datagram? ⟨.pollCancelled, cancelled⟩ = none)
  unfold Sender.afterPoll
  cases cancelled with
  | true =>
    refine ⟨h.retries, htransferred, ?_, Or.inl (shown_snoc rfl)⟩
    rw [hallow, List.length_append, List.length_singleton]
    omega
  | false =>
    refine ⟨h.retries, htransferred, htried.silent rfl rfl, hmisses, ?_⟩
    rw [hallow, List.length_append, List.length_singleton]
    omega

theorem Account.afterSend (h : Account m es s) {attempt : Attempt}
    (hp : s.phase = .sending attempt) (answer : Except SystemError Unit) :
    Account m
      (es ++ [⟨.sendDatagram (Packet.data attempt.block attempt.payload).encode, answer⟩])
      (s.afterSend attempt answer) := by
  obtain ⟨htried, hmisses, hlength⟩ := h.phaseAccount hp
  have htally := tally_snoc es
    ⟨.sendDatagram (Packet.data attempt.block attempt.payload).encode, answer⟩
  rw [Tally.next_data] at htally
  have hallow := allowance_silent (3 * m + 1) es (rfl : Event.datagram?
    ⟨.sendDatagram (Packet.data attempt.block attempt.payload).encode, answer⟩ = none)
  cases answer with
  | ok =>
    refine ⟨h.retries, by rw [htally]; exact h.transferred, htried.send _, hmisses,
      by rw [htally], ?_⟩
    rw [hallow, List.length_append, List.length_singleton]
    omega
  | error reason =>
    refine ⟨h.retries, by rw [htally]; exact h.transferred, ?_, Or.inl (shown_snoc trivial)⟩
    rw [hallow, List.length_append, List.length_singleton]
    omega

/-- The acknowledgement of the block in flight counts its payload. -/
theorem Account.advance (h : Account m es s) {attempt : Attempt}
    (hp : s.phase = .awaiting attempt) {answer : Except SystemError Datagram}
    (ack : (Arrival.ofAnswer datagramRoom answer).acknowledged? = some attempt.block)
    (traffic : Traffic) :
    Account m (es ++ [⟨.receiveDatagram datagramRoom, answer⟩])
      ({ s with traffic }.advance attempt) := by
  obtain ⟨-, hmisses, hflight, hlength⟩ := h.phaseAccount hp
  have htally := tally_snoc es ⟨.receiveDatagram datagramRoom, answer⟩
  rw [Tally.next_wait hflight, if_pos ack] at htally
  have htransferred : s.transferred + attempt.payload.length =
      (tally (es ++ [⟨.receiveDatagram datagramRoom, answer⟩])).bytes := by
    rw [htally, h.transferred]
  obtain ⟨source, harrival⟩ := Arrival.acknowledged?_eq_some_iff.mp ack
  obtain ⟨bytes, rfl, -, -⟩ := Arrival.ofAnswer_eq_packet_iff.mp harrival
  have hallow := allowance_arrival (3 * m + 1) es
    (rfl : Event.datagram? ⟨.receiveDatagram datagramRoom, .ok ⟨source, bytes⟩⟩ = some _)
  have hbound : (es ++ [(⟨.receiveDatagram datagramRoom, .ok ⟨source, bytes⟩⟩ : Event)]).length ≤
      allowance (3 * m + 1) (es ++ [⟨.receiveDatagram datagramRoom, .ok ⟨source, bytes⟩⟩]) := by
    rw [hallow, List.length_append, List.length_singleton]
    omega
  unfold Sender.advance
  dsimp only
  split
  · exact ⟨h.retries, htransferred, hbound⟩
  · exact ⟨h.retries, htransferred, hbound⟩

/-- A miss uses up an attempt. -/
theorem Account.miss (h : Account m es s) {attempt : Attempt}
    (hp : s.phase = .awaiting attempt) {answer : Except SystemError Datagram}
    (other : (Arrival.ofAnswer datagramRoom answer).acknowledged? ≠ some attempt.block)
    (traffic : Traffic) :
    Account m (es ++ [⟨.receiveDatagram datagramRoom, answer⟩])
      ({ s with traffic }.miss attempt) := by
  obtain ⟨htried, hmisses, hflight, hlength⟩ := h.phaseAccount hp
  have htally := tally_snoc es ⟨.receiveDatagram datagramRoom, answer⟩
  rw [Tally.next_wait hflight, if_neg other] at htally
  have htransferred := h.transferred
  rw [← htally] at htransferred
  have hallow := allowance_append (3 * m + 1) es [(⟨.receiveDatagram datagramRoom, answer⟩ : Event)]
  have htried' := htried.miss datagramRoom other
  have hretries := h.retries
  unfold Sender.miss
  dsimp only
  split
  · rename_i hlast
    obtain rfl : attempt.misses + 1 = m := by omega
    refine ⟨hretries, htransferred, ?_, Or.inr ⟨rfl, _, _, htried'⟩⟩
    rw [hallow, List.length_append, List.length_singleton]
    omega
  · refine ⟨hretries, htransferred, htried', ?_, ?_⟩
    · show attempt.misses + 1 < m
      omega
    · rw [hallow, List.length_append, List.length_singleton]
      dsimp only
      omega

theorem Account.afterAnswer (h : Account m es s) {attempt : Attempt}
    (hp : s.phase = .awaiting attempt) (answer : Except SystemError Datagram) :
    Account m (es ++ [⟨.receiveDatagram datagramRoom, answer⟩]) (s.afterAnswer attempt answer) := by
  obtain ⟨-, hmisses, hflight, hlength⟩ := h.phaseAccount hp
  have htally := tally_snoc es ⟨.receiveDatagram datagramRoom, answer⟩
  rw [Tally.next_wait hflight] at htally
  have hallow := allowance_append (3 * m + 1) es [(⟨.receiveDatagram datagramRoom, answer⟩ : Event)]
  have hlast : (es ++ [(⟨.receiveDatagram datagramRoom, answer⟩ : Event)]).length ≤
      allowance (3 * m + 1) (es ++ [⟨.receiveDatagram datagramRoom, answer⟩]) + (3 * m + 1) := by
    rw [hallow, List.length_append, List.length_singleton]
    omega
  have hanswered := answered_afterAnswer s attempt answer
  generalize s.afterAnswer attempt answer = t at hanswered ⊢
  cases hanswered with
  | acknowledged ack => exact h.advance hp ack _
  | missed hmisses => exact h.miss hp (Arrival.acknowledged?_ne_of_misses hmisses) _
  | refused error =>
    rw [if_neg (Arrival.acknowledged?_ne_of_error error)] at htally
    refine ⟨h.retries, by rw [htally]; exact h.transferred, hlast, Or.inl (shown_snoc ?_)⟩
    exact Event.bringsError_of_arrival error
  | failed socket =>
    rw [if_neg (Arrival.acknowledged?_ne_of_failed socket)] at htally
    refine ⟨h.retries, by rw [htally]; exact h.transferred, hlast, Or.inl (shown_snoc ?_)⟩
    exact Event.shows_of_failed socket

/-- **Each call of a sender and each answer keep the account.** -/
theorem Account.next (h : Account m es s) (hm : 0 < m) {call : Call}
    {resume : call.Answer → Sender} (answer : call.Answer) (asks : s.Asks call resume) :
    Account m (es ++ [⟨call, answer⟩]) (resume answer) := by
  cases asks with
  | confirming hp | rejecting hp => exact (h.phaseAccount hp).elim
  | reading hp => exact h.afterRead hm hp answer
  | polling hp => exact h.afterPoll hp answer
  | sending hp => exact h.afterSend hp answer
  | awaiting hp => exact h.afterAnswer hp answer

/-- **Every run of `sendFile` keeps the account.** -/
theorem account_of_runs {t : Sender} (run : Runs ask? s.sendFile es t) (fresh : s.transferred = 0)
    (hm : 0 < s.maxRetries) : Account s.maxRetries es t :=
  run.induction (account_sendFile fresh) fun h asks => h.next hm _ (asks_of_ask? asks)

/-- A run of `sendFile` is no longer than the arrivals allow. -/
theorem Account.length_le (h : Account m es s) :
    es.length ≤ allowance (3 * m + 1) es + (3 * m + 3) := by
  cases hp : s.phase with
  | confirming | rejecting => exact (h.phaseAccount hp).elim
  | reading =>
    have hlength : es.length ≤ allowance (3 * m + 1) es := h.phaseAccount hp
    omega
  | polling | sending =>
    obtain ⟨-, -, hlength⟩ := h.phaseAccount hp
    omega
  | awaiting =>
    obtain ⟨-, -, -, hlength⟩ := h.phaseAccount hp
    omega
  | ended outcome =>
    cases outcome with
    | ok =>
      have hlength : es.length ≤ allowance (3 * m + 1) es := h.phaseAccount hp
      omega
    | error failure =>
      obtain ⟨hlength, -⟩ := h.phaseAccount hp
      omega

/-- A sender that fails was shown its failure, or has used up its attempts with one block. -/
theorem Account.cause (h : Account m es s) {failure : Failure}
    (failed : s.outcome? = some (.error failure)) :
    Shown failure.kind es ∨
      failure.kind = .timedOut ∧ ∃ block payload, Tried block payload m m es := by
  cases hp : s.phase with
  | ended outcome =>
    rw [outcome?, hp] at failed
    cases failed
    exact (h.phaseAccount hp).2
  | confirming | rejecting | reading | polling | sending | awaiting =>
    rw [outcome?, hp] at failed
    cases failed

end Account

end Sender

end Tftp
