import Tftp.Proofs.Asks
import Tftp.Proofs.Causes
import Tftp.Proofs.Receiving.Ledger

/-!
# The account of a receiver

What a trace of a receiver says about its count of bytes, its failure and its length, whatever the
file, the socket and the peer do. The accepted payloads are those of the ledger; nothing is assumed
of what the writes do.

* `Arrival.lacks` tells whether an arrival makes a receiver wait again, and `Answered` lists what a
  wait for a block leads to.
* `Waited` says that the last waits of a trace did not bring the block that is due.
* `Booked` and `Account` are the invariant: they tie the receiver to the ledger and each phase to
  the waits and to the length of the trace.

Results:
* `Account.next`: each call of a receiver and each answer keep the account.
* **`account_of_runs`**: every run of a new receiver keeps it, from the start.

The account has a bound on the length of a trace, which comes from the bound on the waits
(specification §4.6, §8): a transfer returns because of it (`Tftp.Proofs.Transfer.Returning`). It
also has the reason why a receiver failed, which the result of a transfer then tells.

Out of scope: the blocks themselves. What is stored is `Tftp.Proofs.Receiving`, and how often each
block was waited for is `Tftp.Proofs.Receiving.Retrying`.
-/

namespace Tftp

/-! ## Answers -/

/-- Whether an arrival is neither a block nor the end of the transfer: nothing came, or what came
cannot be read, or is another block, or is neither a block nor an error. -/
def Arrival.lacks (block : UInt16) : Arrival → Bool
  | .nothing | .malformed _ => true
  | .packet _ (.data other _) => decide (other ≠ block)
  | .packet _ (.error _ _) | .failed _ => false
  | .packet _ _ => true

namespace Receiver

/-- What an answer to the wait for a block leads to. -/
inductive Answered (r : Receiver) (misses : Nat) (answer : Except SystemError Datagram) :
    Receiver → Prop where
  | due {payload : Bytes} (brought : brought? r.blockSize answer = some (r.expected, payload)) :
      Answered r misses answer
        ({ r with traffic := r.traffic.countAnswer answer }.store r.expected payload)
  | repeated {block : UInt16} {payload : Bytes}
      (other : ∀ payload, brought? r.blockSize answer ≠ some (r.expected, payload))
      (brought : brought? r.blockSize answer = some (block, payload))
      (last : r.accepted = some block) :
      Answered r misses answer
        { r with traffic := r.traffic.countAnswer answer, phase := .repeating block misses }
  | missed (other : ∀ payload, brought? r.blockSize answer ≠ some (r.expected, payload))
      (lacks : (Arrival.ofAnswer (headerLength + r.blockSize) answer).lacks r.expected)
      (fresh : ∀ block payload, brought? r.blockSize answer = some (block, payload) →
        r.accepted ≠ some block) :
      Answered r misses answer ({ r with traffic := r.traffic.countAnswer answer }.miss misses)
  | refused {source : Address} {code : ErrorCode} {text : Bytes}
      (error : Arrival.ofAnswer (headerLength + r.blockSize) answer =
        .packet source (.error code text)) :
      Answered r misses answer
        ({ r with traffic := r.traffic.countAnswer answer }.abort (.peerError code text))
  | failed {failure : Failure}
      (socket : Arrival.ofAnswer (headerLength + r.blockSize) answer = .failed failure) :
      Answered r misses answer ({ r with traffic := r.traffic.countAnswer answer }.stop failure)

theorem brought?_eq_none {B : Nat} {answer : Except SystemError Datagram}
    (other : ∀ source block payload,
      Arrival.ofAnswer (headerLength + B) answer ≠ .packet source (.data block payload)) :
    brought? B answer = none := by
  cases hbrought : brought? B answer with
  | none => rfl
  | some b =>
    obtain ⟨source, harrival⟩ := brought?_eq_some_iff.mp hbrought
    exact absurd harrival (other source _ _)

theorem answered_afterAnswer (r : Receiver) (misses : Nat) (answer : Except SystemError Datagram) :
    r.Answered misses answer (r.afterAnswer misses answer) := by
  unfold afterAnswer
  dsimp only
  cases harrival : Arrival.ofAnswer (headerLength + r.blockSize) answer with
  | packet source p =>
    cases p with
    | data block payload =>
      have hbrought := brought?_eq_some_iff.mpr ⟨source, harrival⟩
      dsimp only
      split
      · rename_i hturn
        obtain rfl : block = r.expected := hturn
        exact .due hbrought
      · rename_i hturn
        have hother : ∀ p, brought? r.blockSize answer ≠ some (r.expected, p) := by
          intro p h
          rw [hbrought] at h
          cases h
          exact hturn rfl
        split
        · rename_i hlast
          exact .repeated hother hbrought hlast
        · rename_i hlast
          refine .missed hother ?_ ?_
          · rw [harrival]
            exact decide_eq_true hturn
          · intro b p h
            rw [hbrought] at h
            cases h
            exact hlast
    | error code text => exact .refused harrival
    | request | ack | optionAck =>
      have hbrought : brought? r.blockSize answer = none :=
        brought?_eq_none (by rw [harrival]; nofun)
      exact .missed (by rw [hbrought]; nofun) (by rw [harrival]; rfl) (by rw [hbrought]; nofun)
  | malformed | nothing =>
    have hbrought : brought? r.blockSize answer = none :=
      brought?_eq_none (by rw [harrival]; nofun)
    exact .missed (by rw [hbrought]; nofun) (by rw [harrival]; rfl) (by rw [hbrought]; nofun)
  | failed failure => exact .failed harrival

/-! ## Waits -/

variable {B m : Nat} {es : List Event} {r : Receiver} {l : Ledger}

theorem ledger_snoc (last : Option UInt16) (es : List Event) (e : Event) :
    ledger B last (es ++ [e]) = (ledger B last es).next B e := by
  rw [ledger_append]
  rfl

/-- What is not due changes nothing in the ledger but what is called for. -/
theorem Ledger.arrive_of_other {answer : Except SystemError Datagram}
    (other : ∀ payload, brought? B answer ≠ some (l.due, payload)) :
    ∃ called, l.arrive B answer = { l with called } := by
  unfold arrive
  cases hbrought : brought? B answer with
  | none => exact ⟨l.called, rfl⟩
  | some b =>
    obtain ⟨block, payload⟩ := b
    have hturn : block ≠ l.due := by
      rintro rfl
      exact other payload hbrought
    dsimp only
    rw [if_neg hturn]
    split
    · exact ⟨_, rfl⟩
    · exact ⟨l.called, rfl⟩

/-- A wait that did not bring the block that is due changes nothing but what is called for. -/
theorem ledger_snoc_of_other {last : Option UInt16} {room : Nat}
    {answer : Except SystemError Datagram}
    (other : ∀ payload, brought? B answer ≠ some ((ledger B last es).due, payload)) :
    ∃ called, ledger B last (es ++ [⟨.receiveDatagram room, answer⟩]) =
      { ledger B last es with called } := by
  obtain ⟨called, harrive⟩ := Ledger.arrive_of_other other
  exact ⟨called, (ledger_snoc last es _).trans harrive⟩

/-- The last `k` waits of a trace did not bring the block that is due. -/
def Waited (B k : Nat) (es : List Event) : Prop :=
  ∃ earlier last, outcomes es = earlier ++ last ∧ last.length = k ∧
    ∀ answer ∈ last, ∀ payload, brought? B answer ≠ some ((ledger B none es).due, payload)

theorem waited_zero : Waited B 0 es :=
  ⟨outcomes es, [], (List.append_nil _).symm, rfl, List.forall_mem_nil _⟩

theorem Waited.silent {k : Nat} (h : Waited B k es) {e : Event} (silent : e.outcome? = none)
    (same : ledger B none (es ++ [e]) = ledger B none es) : Waited B k (es ++ [e]) := by
  rw [Waited, same, outcomes_append, outcomes_singleton, silent, Option.toList_none,
    List.append_nil]
  exact h

theorem Waited.miss {k : Nat} (h : Waited B k es) {room : Nat}
    {answer : Except SystemError Datagram}
    (other : ∀ payload, brought? B answer ≠ some ((ledger B none es).due, payload)) :
    Waited B (k + 1) (es ++ [⟨.receiveDatagram room, answer⟩]) := by
  obtain ⟨earlier, last, hsplit, hlength, hmissed⟩ := h
  obtain ⟨called, hledger⟩ : ∃ called, ledger B none (es ++ [⟨.receiveDatagram room, answer⟩]) =
      { ledger B none es with called } := ledger_snoc_of_other other
  refine ⟨earlier, last ++ [answer], ?_, ?_, ?_⟩
  · rw [outcomes_append, hsplit, List.append_assoc]
    rfl
  · rw [List.length_append, hlength, List.length_singleton]
  · rw [hledger]
    exact List.forall_mem_append.mpr ⟨hmissed, List.forall_mem_singleton.mpr other⟩

/-! ## The invariant -/

/-- What a receiver has in common with its ledger, in every phase: its block size and retries, the
block accepted last and the count of bytes. -/
structure Booked (B m : Nat) (l : Ledger) (blockSize maxRetries : Nat) (accepted : Option UInt16)
    (transferred : Nat) : Prop where
  size : blockSize = B
  retries : maxRetries = m
  last : accepted = l.last
  transferred : transferred = l.payloads.flatten.length

/-- What a phase has to do with the ledger, the waits and the length of the trace `es`. A block
takes at most `m` waits of three calls each, of which the last one may instead be followed by a
write, a flush and an acknowledgement. -/
def PhaseAccount (B m : Nat) (es : List Event) : Phase → Prop
  | .polling misses =>
    Waited B misses es ∧ misses < m ∧ (ledger B none es).arriving = none ∧
      es.length + 3 * (m - misses) ≤ allowance (3 * m + 2) es + 3 * m
  | .awaiting misses =>
    Waited B misses es ∧ misses < m ∧ (ledger B none es).arriving = none ∧
      es.length + 3 * (m - misses) ≤ allowance (3 * m + 2) es + (3 * m + 1)
  | .repeating _ misses =>
    Waited B (misses + 1) es ∧ misses < m ∧ (ledger B none es).arriving = none ∧
      es.length + 3 * (m - misses) ≤ allowance (3 * m + 2) es + (3 * m + 2)
  | .writing block payload =>
    (ledger B none es).arriving = some (block, payload) ∧
      es.length + 3 ≤ allowance (3 * m + 2) es
  | .flushing block payload =>
    (ledger B none es).arriving = some (block, payload) ∧
      es.length + 2 ≤ allowance (3 * m + 2) es
  | .refusing _ => Shown .fileAccess es ∧ es.length + 1 ≤ allowance (3 * m + 2) es
  | .acknowledging _ _ =>
    (ledger B none es).arriving = none ∧ es.length + 1 ≤ allowance (3 * m + 2) es
  | .ended (.ok ()) => es.length ≤ allowance (3 * m + 2) es
  | .ended (.error failure) =>
    es.length ≤ allowance (3 * m + 2) es + 3 * m ∧
      (Shown failure.kind es ∨ failure.kind = .timedOut ∧ Waited B m es)

/-- **The account of a receiver** of blocks of `B` bytes that waits at most `m` times in a row for
one, after the events `es`. -/
structure Account (B m : Nat) (es : List Event) (r : Receiver) : Prop where
  booked : Booked B m (ledger B none es) r.blockSize r.maxRetries r.accepted r.transferred
  phase : PhaseAccount B m es r.phase

section Account

theorem account_receiveFile (traffic : Traffic) (hm : 0 < m) :
    Account B m [] (Receiver.new B m traffic).receiveFile := by
  refine ⟨⟨rfl, rfl, rfl, rfl⟩, waited_zero, hm, rfl, ?_⟩
  show 0 + 3 * (m - 0) ≤ _
  omega

theorem Account.phaseAccount (h : Account B m es r) {phase : Phase} (hp : r.phase = phase) :
    PhaseAccount B m es phase := hp ▸ h.phase

theorem Booked.expected (h : Booked B m l r.blockSize r.maxRetries r.accepted r.transferred) :
    r.expected = l.due := by
  rw [Receiver.expected, h.last, Ledger.due]

theorem Account.afterPoll (h : Account B m es r) {misses : Nat} (hp : r.phase = .polling misses)
    (cancelled : Bool) :
    Account B m (es ++ [⟨.pollCancelled, cancelled⟩]) (r.afterPoll misses cancelled) := by
  obtain ⟨hwaited, hmisses, hidle, hlength⟩ := h.phaseAccount hp
  have hledger : ledger B none (es ++ [⟨.pollCancelled, cancelled⟩]) = ledger B none es :=
    ledger_snoc none es _
  have hallow := allowance_silent (3 * m + 2) es
    (rfl : Event.datagram? ⟨.pollCancelled, cancelled⟩ = none)
  have hbooked := h.booked
  rw [← hledger] at hbooked hidle
  unfold Receiver.afterPoll
  cases cancelled with
  | true =>
    refine ⟨hbooked, ?_, Or.inl (shown_snoc rfl)⟩
    rw [hallow, List.length_append, List.length_singleton]
    omega
  | false =>
    refine ⟨hbooked, hwaited.silent rfl hledger, hmisses, hidle, ?_⟩
    rw [hallow, List.length_append, List.length_singleton]
    omega

/-- A block whose payload is stored is accepted. -/
theorem account_accept {block : UInt16} {payload : Bytes}
    (booked : Booked B m l r.blockSize r.maxRetries r.accepted r.transferred)
    (accepted : ledger B none es = l.accept block payload)
    (length : es.length + 1 ≤ allowance (3 * m + 2) es) :
    Account B m es (r.accept block payload) := by
  refine ⟨⟨booked.size, booked.retries, ?_, ?_⟩, ?_, length⟩
  · rw [accepted]
    rfl
  · show r.transferred + payload.length = _
    rw [accepted, booked.transferred]
    simp [Ledger.accept]
  · rw [accepted]
    rfl

/-- The block that is due is on its way to the file, or accepted if there is nothing to store. -/
theorem Account.store (h : Account B m es r) {misses room : Nat} (hp : r.phase = .awaiting misses)
    {answer : Except SystemError Datagram} {payload : Bytes}
    (brought : brought? B answer = some (r.expected, payload)) (traffic : Traffic) :
    Account B m (es ++ [⟨.receiveDatagram room, answer⟩])
      ({ r with traffic }.store r.expected payload) := by
  obtain ⟨-, hmisses, -, hlength⟩ := h.phaseAccount hp
  have hbooked := h.booked
  have hledger : ledger B none (es ++ [⟨.receiveDatagram room, answer⟩]) =
      (ledger B none es).arrive B answer := ledger_snoc none es _
  simp only [Ledger.arrive, brought, h.booked.expected, if_true] at hledger
  obtain ⟨source, harrival⟩ := brought?_eq_some_iff.mp brought
  obtain ⟨bytes, rfl, -, -⟩ := Arrival.ofAnswer_eq_packet_iff.mp harrival
  have hallow := allowance_arrival (3 * m + 2) es
    (rfl : Event.datagram? ⟨.receiveDatagram room, .ok ⟨source, bytes⟩⟩ = some _)
  have hbound : (es ++ [(⟨.receiveDatagram room, .ok ⟨source, bytes⟩⟩ : Event)]).length + 3 ≤
      allowance (3 * m + 2) (es ++ [⟨.receiveDatagram room, .ok ⟨source, bytes⟩⟩]) := by
    rw [hallow, List.length_append, List.length_singleton]
    omega
  rw [h.booked.expected]
  unfold Receiver.store
  split
  · rename_i hempty
    rw [if_pos hempty] at hledger
    exact account_accept hbooked hledger (by omega)
  · rename_i hfull
    rw [if_neg hfull] at hledger
    refine ⟨⟨hbooked.size, hbooked.retries, ?_, ?_⟩, ?_, hbound⟩
    · rw [hledger]
      exact hbooked.last
    · rw [hledger]
      exact hbooked.transferred
    · rw [hledger]

/-- A miss uses up a wait. -/
theorem account_miss {misses : Nat}
    (booked : Booked B m (ledger B none es) r.blockSize r.maxRetries r.accepted r.transferred)
    (waited : Waited B (misses + 1) es) (limit : misses < m)
    (idle : (ledger B none es).arriving = none)
    (length : es.length + 3 * (m - misses) ≤ allowance (3 * m + 2) es + (3 * m + 3)) :
    Account B m es (r.miss misses) := by
  have hretries := booked.retries
  unfold Receiver.miss
  dsimp only
  split
  · obtain rfl : misses + 1 = m := by omega
    refine ⟨booked, ?_, Or.inr ⟨rfl, waited⟩⟩
    omega
  · refine ⟨booked, waited, ?_, idle, ?_⟩
    · omega
    · omega

theorem Account.afterAnswer (h : Account B m es r) {misses : Nat} (hp : r.phase = .awaiting misses)
    (answer : Except SystemError Datagram) :
    Account B m (es ++ [⟨.receiveDatagram (headerLength + r.blockSize), answer⟩])
      (r.afterAnswer misses answer) := by
  obtain ⟨hwaited, hmisses, hidle, hlength⟩ := h.phaseAccount hp
  obtain rfl := h.booked.size
  have hbooked := h.booked
  have hallow := allowance_append (3 * m + 2) es
    [(⟨.receiveDatagram (headerLength + r.blockSize), answer⟩ : Event)]
  have hgrown : (es ++ [(⟨.receiveDatagram (headerLength + r.blockSize), answer⟩ : Event)]).length =
      es.length + 1 := List.length_append
  -- Whatever is not the block that is due leaves the books as they are.
  have hother : (∀ payload, brought? r.blockSize answer ≠ some (r.expected, payload)) →
      Booked r.blockSize m (ledger r.blockSize none
          (es ++ [⟨.receiveDatagram (headerLength + r.blockSize), answer⟩]))
        r.blockSize r.maxRetries r.accepted r.transferred ∧
        (ledger r.blockSize none
          (es ++ [⟨.receiveDatagram (headerLength + r.blockSize), answer⟩])).arriving = none := by
    intro hnot
    rw [hbooked.expected] at hnot
    obtain ⟨called, hledger⟩ := ledger_snoc_of_other hnot
    rw [hledger]
    exact ⟨⟨hbooked.size, hbooked.retries, hbooked.last, hbooked.transferred⟩, hidle⟩
  have hanswered := answered_afterAnswer r misses answer
  generalize r.afterAnswer misses answer = t at hanswered ⊢
  cases hanswered with
  | due brought => exact h.store hp brought _
  | repeated other brought =>
    obtain ⟨hbooked', hidle'⟩ := hother other
    rw [hbooked.expected] at other
    obtain ⟨source, harrival⟩ := brought?_eq_some_iff.mp brought
    obtain ⟨bytes, rfl, -, -⟩ := Arrival.ofAnswer_eq_packet_iff.mp harrival
    refine ⟨hbooked', hwaited.miss other, hmisses, hidle', ?_⟩
    rw [allowance_arrival _ _ rfl]
    omega
  | missed other =>
    obtain ⟨hbooked', hidle'⟩ := hother other
    rw [hbooked.expected] at other
    refine account_miss hbooked' (hwaited.miss other) hmisses hidle' ?_
    omega
  | refused error =>
    obtain ⟨hbooked', -⟩ := hother (by rw [brought?_eq_none (by rw [error]; nofun)]; nofun)
    refine ⟨hbooked', ?_, Or.inl (shown_snoc (Event.bringsError_of_arrival error))⟩
    omega
  | failed socket =>
    obtain ⟨hbooked', -⟩ := hother (by rw [brought?_eq_none (by rw [socket]; nofun)]; nofun)
    refine ⟨hbooked', ?_, Or.inl (shown_snoc (Event.shows_of_failed socket))⟩
    omega

/-- Handing a packet to the socket leaves the ledger and the allowance alone. -/
theorem ledger_send (es : List Event) (bytes : Bytes) (answer : Except SystemError Unit) :
    ledger B none (es ++ [⟨.sendDatagram bytes, answer⟩]) = ledger B none es :=
  ledger_snoc none es _

theorem allowance_send (es : List Event) (bytes : Bytes) (answer : Except SystemError Unit)
    (k : Nat) : allowance k (es ++ [⟨.sendDatagram bytes, answer⟩]) = allowance k es :=
  allowance_silent _ _ rfl

theorem Account.afterRepetition (h : Account B m es r) {block : UInt16} {misses : Nat}
    (hp : r.phase = .repeating block misses) (answer : Except SystemError Unit) :
    Account B m (es ++ [⟨.sendDatagram (Packet.ack block).encode, answer⟩])
      (r.afterRepetition misses answer) := by
  obtain ⟨hwaited, hmisses, hidle, hlength⟩ := h.phaseAccount hp
  have hledger := ledger_send (B := B) es (Packet.ack block).encode answer
  have hbooked := h.booked
  have hwaited' := hwaited.silent rfl hledger
  rw [← hledger] at hbooked hidle
  cases answer with
  | ok =>
    refine account_miss hbooked hwaited' hmisses hidle ?_
    rw [allowance_send, List.length_append, List.length_singleton]
    omega
  | error reason =>
    refine ⟨hbooked, ?_, Or.inl (shown_snoc trivial)⟩
    rw [allowance_send, List.length_append, List.length_singleton]
    omega

theorem Account.afterWrite (h : Account B m es r) {block : UInt16} {payload : Bytes}
    (hp : r.phase = .writing block payload) (answer : Except SystemError Unit) :
    Account B m (es ++ [⟨.writeBytes payload, answer⟩]) (r.afterWrite block payload answer) := by
  obtain ⟨harriving, hlength⟩ := h.phaseAccount hp
  have hbooked := h.booked
  have hledger := ledger_snoc (B := B) none es ⟨.writeBytes payload, answer⟩
  have hallow := allowance_silent (3 * m + 2) es
    (rfl : Event.datagram? ⟨.writeBytes payload, answer⟩ = none)
  cases answer with
  | ok =>
    have hsame : ledger B none (es ++ [⟨.writeBytes payload, .ok ()⟩]) = ledger B none es := hledger
    rw [← hsame] at hbooked harriving
    refine ⟨hbooked, harriving, ?_⟩
    rw [hallow, List.length_append, List.length_singleton]
    omega
  | error reason =>
    refine ⟨?_, shown_snoc trivial, ?_⟩
    · rw [hledger]
      exact ⟨hbooked.size, hbooked.retries, hbooked.last, hbooked.transferred⟩
    · rw [hallow, List.length_append, List.length_singleton]
      omega

theorem Account.afterFlush (h : Account B m es r) {block : UInt16} {payload : Bytes}
    (hp : r.phase = .flushing block payload) (answer : Except SystemError Unit) :
    Account B m (es ++ [⟨.flush, answer⟩]) (r.afterFlush block payload answer) := by
  obtain ⟨harriving, hlength⟩ := h.phaseAccount hp
  have hbooked := h.booked
  have hledger := ledger_snoc (B := B) none es ⟨.flush, answer⟩
  have hallow := allowance_silent (3 * m + 2) es
    (rfl : Event.datagram? ⟨.flush, answer⟩ = none)
  have hbound : (es ++ [(⟨.flush, answer⟩ : Event)]).length + 1 ≤
      allowance (3 * m + 2) (es ++ [⟨.flush, answer⟩]) := by
    rw [hallow, List.length_append, List.length_singleton]
    omega
  cases answer with
  | ok =>
    refine account_accept hbooked (hledger.trans ?_) hbound
    simp only [Ledger.next, harriving]
  | error reason =>
    refine ⟨?_, shown_snoc trivial, hbound⟩
    rw [hledger]
    exact ⟨hbooked.size, hbooked.retries, hbooked.last, hbooked.transferred⟩

theorem Account.afterRefusal (h : Account B m es r) {reason : SystemError}
    (hp : r.phase = .refusing reason) (answer : Except SystemError Unit) :
    Account B m (es ++ [⟨.sendDatagram refusal.encode, answer⟩])
      (r.afterRefusal reason answer) := by
  obtain ⟨hshown, hlength⟩ := h.phaseAccount hp
  have hbooked := h.booked
  rw [← ledger_send es refusal.encode answer] at hbooked
  have hbound : (es ++ [(⟨.sendDatagram refusal.encode, answer⟩ : Event)]).length ≤
      allowance (3 * m + 2) (es ++ [⟨.sendDatagram refusal.encode, answer⟩]) + 3 * m := by
    rw [allowance_send, List.length_append, List.length_singleton]
    omega
  cases answer with
  | ok =>
    exact ⟨hbooked, hbound, Or.inl (hshown.mono (List.subset_append_left _ _))⟩
  | error reason =>
    exact ⟨hbooked, hbound, Or.inl (shown_snoc trivial)⟩

theorem Account.afterAcknowledgement (h : Account B m es r) (hm : 0 < m) {block : UInt16}
    {isLast : Bool} (hp : r.phase = .acknowledging block isLast)
    (answer : Except SystemError Unit) :
    Account B m (es ++ [⟨.sendDatagram (Packet.ack block).encode, answer⟩])
      (r.afterAcknowledgement isLast answer) := by
  obtain ⟨hidle, hlength⟩ := h.phaseAccount hp
  have hbooked := h.booked
  rw [← ledger_send es (Packet.ack block).encode answer] at hbooked hidle
  have hbound : (es ++ [(⟨.sendDatagram (Packet.ack block).encode, answer⟩ : Event)]).length ≤
      allowance (3 * m + 2) (es ++ [⟨.sendDatagram (Packet.ack block).encode, answer⟩]) := by
    rw [allowance_send, List.length_append, List.length_singleton]
    omega
  cases answer with
  | error reason =>
    exact ⟨hbooked, by omega, Or.inl (shown_snoc trivial)⟩
  | ok =>
    unfold Receiver.afterAcknowledgement
    dsimp only
    split
    · exact ⟨hbooked, hbound⟩
    · exact ⟨hbooked, waited_zero, hm, hidle, by omega⟩

/-- **Each call of a receiver and each answer keep the account.** -/
theorem Account.next (h : Account B m es r) (hm : 0 < m) {call : Call}
    {resume : call.Answer → Receiver} (answer : call.Answer) (asks : r.Asks call resume) :
    Account B m (es ++ [⟨call, answer⟩]) (resume answer) := by
  cases asks with
  | polling hp => exact h.afterPoll hp answer
  | awaiting hp => exact h.afterAnswer hp answer
  | repeating hp => exact h.afterRepetition hp answer
  | writing hp => exact h.afterWrite hp answer
  | flushing hp => exact h.afterFlush hp answer
  | refusing hp => exact h.afterRefusal hp answer
  | acknowledging hp => exact h.afterAcknowledgement hm hp answer

/-- **Every run of a new receiver keeps the account.** -/
theorem account_of_runs {traffic : Traffic}
    (run : Runs ask? (Receiver.new B m traffic).receiveFile es r) (hm : 0 < m) :
    Account B m es r :=
  run.induction (account_receiveFile traffic hm) fun h asks => h.next hm _ (asks_of_ask? asks)

/-- A run of a new receiver is no longer than the arrivals allow. -/
theorem Account.length_le (h : Account B m es r) :
    es.length ≤ allowance (3 * m + 2) es + (3 * m + 2) := by
  cases hp : r.phase with
  | polling | awaiting | repeating =>
    obtain ⟨-, -, -, hlength⟩ := h.phaseAccount hp
    omega
  | writing | flushing | refusing | acknowledging =>
    obtain ⟨-, hlength⟩ := h.phaseAccount hp
    omega
  | ended outcome =>
    cases outcome with
    | ok =>
      have hlength : es.length ≤ allowance (3 * m + 2) es := h.phaseAccount hp
      omega
    | error failure =>
      obtain ⟨hlength, -⟩ := h.phaseAccount hp
      omega

/-- A receiver that fails was shown its failure, or has used up its waits for one block. -/
theorem Account.cause (h : Account B m es r) {failure : Failure}
    (failed : r.outcome? = some (.error failure)) :
    Shown failure.kind es ∨ failure.kind = .timedOut ∧ Waited B m es := by
  cases hp : r.phase with
  | ended outcome =>
    rw [outcome?, hp] at failed
    cases failed
    exact (h.phaseAccount hp).2
  | polling | awaiting | repeating | writing | flushing | refusing | acknowledging =>
    rw [outcome?, hp] at failed
    cases failed

end Account

end Receiver

end Tftp
