import Tftp.Arrival
import Tftp.Proofs.File
import Tftp.Proofs.RoundTrip

/-!
# The ledger of a receiver

What a trace says about the blocks that a receiver accepted and about those that it has to
acknowledge, without looking at the receiver: a block is accepted once it came in its turn and its
payload was written and flushed.

* `acknowledgements` are the blocks that a trace acknowledges to the peer.
* `Ledger` is what a trace calls for.
* `Replies` says what may follow what a wait brought.

Results:
* `Ledger.settle`: without a further arrival a ledger only settles the block that is being stored.
* `replies_of_settles`: a receiver replies well if it acknowledges what its ledger calls for.

What calls for an acknowledgement is a block that was accepted (specification §4.6), and the block
accepted last if it comes again (§10.8). The ledger is read off a trace alone, so that the theorems
which compare a receiver with it do not compare it with itself.

Out of scope: payloads that were partly written. They are in no ledger; see
`Tftp.Proofs.Receiving.Unstored`.
-/

namespace Tftp

/-- The block that an event acknowledges to the peer, whether the datagram is sent or refused. -/
def Event.handedAck? (e : Event) : Option UInt16 :=
  match e.handed? with
  | some bytes =>
    match Packet.decode bytes with
    | .ok (.ack block) => some block
    | _ => none
  | none => none

/-- The blocks that a trace acknowledges to the peer, in order. -/
def acknowledgements (es : List Event) : List UInt16 := es.filterMap Event.handedAck?

theorem acknowledgements_append (es fs : List Event) :
    acknowledgements (es ++ fs) = acknowledgements es ++ acknowledgements fs :=
  List.filterMap_append

theorem acknowledgements_singleton (e : Event) : acknowledgements [e] = e.handedAck?.toList := by
  unfold acknowledgements
  cases h : e.handedAck? <;> simp [h]

theorem handedAck?_of_silent {e : Event} (silent : e.handed? = none) : e.handedAck? = none := by
  unfold Event.handedAck?
  rw [silent]

theorem handedAck?_ack (block : UInt16) (answer : Except SystemError Unit) :
    Event.handedAck? ⟨.sendDatagram (Packet.ack block).encode, answer⟩ = some block := by
  unfold Event.handedAck?
  simp only [Event.handed?, Packet.decode_encode_ack]

theorem nextBlock_ne_self (block : UInt16) : nextBlock block ≠ block := by
  intro h
  have hnat := congrArg UInt16.toNat h
  have hlt := block.toNat_lt
  rw [nextBlock, UInt16.toNat_add] at hnat
  simp only [UInt16.toNat_one] at hnat
  omega

/-- A data packet is four bytes longer than its payload. -/
theorem length_of_decode_data {bytes payload : Bytes} {block : UInt16}
    (h : Packet.decode bytes = .ok (.data block payload)) : bytes.length = payload.length + 4 := by
  cases written_of_decode h with
  | data high low payload => simp

namespace Receiver

/-! ## Accepted blocks -/

/-- The number and the payload of a block that came in a datagram of at most `B + 4` bytes. -/
def brought? (B : Nat) : Except SystemError Datagram → Option (UInt16 × Bytes)
  | .error _ => none
  | .ok datagram =>
    if datagram.bytes.length ≤ B + 4 then
      match Packet.decode datagram.bytes with
      | .ok (.data block payload) => some (block, payload)
      | _ => none
    else none

/-- What a trace says about accepted blocks. -/
structure Ledger where
  /-- The number of the block accepted last. -/
  last : Option UInt16
  /-- The accepted payloads, in order. -/
  payloads : List Bytes
  /-- The block that came in its turn and is being stored. -/
  arriving : Option (UInt16 × Bytes)
  /-- The acknowledgements that are called for, in order. -/
  called : List UInt16

/-- The number of the block that is accepted next. -/
def Ledger.due (l : Ledger) : UInt16 := nextBlock (l.last.getD 0)

/-- Accepts a block, which calls for its acknowledgement. -/
def Ledger.accept (l : Ledger) (block : UInt16) (payload : Bytes) : Ledger :=
  ⟨some block, l.payloads ++ [payload], none, l.called ++ [block]⟩

/-- The ledger after a wait. The block that is due is to be stored, unless its payload is empty; the
block accepted last, if it comes again, calls for its acknowledgement again. -/
def Ledger.arrive (B : Nat) (l : Ledger) (answer : Except SystemError Datagram) : Ledger :=
  match brought? B answer with
  | none => l
  | some (block, payload) =>
    if block = l.due then
      if payload = [] then l.accept block payload
      else { l with arriving := some (block, payload) }
    else if l.last = some block then { l with called := l.called ++ [block] }
    else l

/-- The ledger after one more event. A block that is being stored is accepted when it is flushed,
and given up when it cannot be written or flushed. -/
def Ledger.next (B : Nat) (l : Ledger) : Event → Ledger
  | ⟨.receiveDatagram _, answer⟩ => l.arrive B answer
  | ⟨.writeBytes _, .error _⟩ | ⟨.flush, .error _⟩ => { l with arriving := none }
  | ⟨.flush, .ok ()⟩ =>
    match l.arriving with
    | some (block, payload) => l.accept block payload
    | none => l
  | _ => l

/-- The ledger of a trace that begins with `last` as the number of the block accepted last. -/
def ledger (B : Nat) (last : Option UInt16) (es : List Event) : Ledger :=
  es.foldl (Ledger.next B) ⟨last, [], none, []⟩

section Ledger

variable {B : Nat} {last : Option UInt16} {l l' : Ledger} {answer : Except SystemError Datagram}

theorem ledger_append (es fs : List Event) :
    ledger B last (es ++ fs) = fs.foldl (Ledger.next B) (ledger B last es) :=
  List.foldl_append

theorem brought?_eq_some_iff {block : UInt16} {payload : Bytes} :
    brought? B answer = some (block, payload) ↔ ∃ source,
      Arrival.ofAnswer (headerLength + B) answer = .packet source (.data block payload) := by
  simp only [Arrival.ofAnswer_eq_packet_iff, headerLength, Nat.add_comm 4 B]
  constructor
  · intro h
    unfold brought? at h
    split at h
    · cases h
    · rename_i datagram
      split at h
      · rename_i hlength
        split at h
        · rename_i hdecode
          cases h
          exact ⟨datagram.source, datagram.bytes, rfl, hlength, hdecode⟩
        · cases h
      · cases h
  · rintro ⟨source, bytes, rfl, hlength, hdecode⟩
    simp [brought?, hlength, hdecode]

/-- A block that a receiver looks at is no longer than its blocks are. -/
theorem length_of_brought? {block : UInt16} {payload : Bytes}
    (h : brought? B answer = some (block, payload)) : payload.length ≤ B := by
  obtain ⟨source, harrival⟩ := brought?_eq_some_iff.mp h
  obtain ⟨bytes, -, hroom, hdecode⟩ := Arrival.ofAnswer_eq_packet_iff.mp harrival
  have hlength := length_of_decode_data hdecode
  simp only [headerLength] at hroom
  omega

/-- How events `es` that bring nothing may lead from a ledger `l` to a ledger `l'`. -/
inductive Ledger.Settles (l : Ledger) (es : List Event) : Ledger → Prop where
  | same : Settles l es l
  | dropped (failed : ∃ e ∈ es, e.IsWriteFailure) : Settles l es { l with arriving := none }
  | accepted {block : UInt16} {payload : Bytes} (arriving : l.arriving = some (block, payload)) :
      Settles l es (l.accept block payload)

theorem Ledger.next_of_idle {e : Event} (idle : l.arriving = none) (silent : e.outcome? = none) :
    l.next B e = l := by
  obtain ⟨last, payloads, arriving, called⟩ := l
  obtain rfl : arriving = none := idle
  unfold next
  split
  · cases silent
  · rfl
  · rfl
  · rfl
  · rfl

theorem Ledger.settles_next {es : List Event} {e : Event} (silent : e.outcome? = none) :
    l.Settles (es ++ [e]) (l.next B e) := by
  unfold next
  split
  · cases silent
  · exact .dropped ⟨_, List.mem_append_right es (List.mem_singleton_self _), trivial⟩
  · exact .dropped ⟨_, List.mem_append_right es (List.mem_singleton_self _), trivial⟩
  · split
    · rename_i harriving
      exact .accepted harriving
    · exact .same
  · exact .same

/-- Without a further arrival a ledger only settles the block that is being stored. -/
theorem Ledger.settle {es : List Event} (silent : outcomes es = []) :
    l.Settles es (es.foldl (Ledger.next B) l) := by
  induction es using List.reverseRecOn with
  | nil => exact .same
  | append_singleton es e ih =>
    rw [outcomes_append, outcomes_singleton, List.append_eq_nil_iff] at silent
    have hsilent : e.outcome? = none := by simpa using silent.2
    rw [List.foldl_append, List.foldl_cons, List.foldl_nil]
    generalize es.foldl (Ledger.next B) l = before at ih
    cases ih silent.1 with
    | same => exact Ledger.settles_next hsilent
    | dropped failed =>
      rw [Ledger.next_of_idle rfl hsilent]
      obtain ⟨failure, hmem, hfailure⟩ := failed
      exact .dropped ⟨failure, by simp [hmem], hfailure⟩
    | accepted harriving =>
      rw [Ledger.next_of_idle rfl hsilent]
      exact .accepted harriving

/-! ## Replies -/

/-- How a receiver replies to what a wait brought: `after` follows until the next wait or the end of
the call, and leads from ledger `l` to ledger `l'`. -/
structure Replies (B : Nat) (answer : Except SystemError Datagram) (after : List Event)
    (l l' : Ledger) : Prop where
  /-- At most one block is accepted: the one that is due, if it came. -/
  grows : l'.payloads = l.payloads ∧ l'.last = l.last ∨
    ∃ payload, brought? B answer = some (l.due, payload) ∧ payload.length ≤ B ∧
      l'.payloads = l.payloads ++ [payload] ∧ l'.last = some l.due
  /-- The block that is due is accepted if it can be stored. -/
  stored : ∀ payload, brought? B answer = some (l.due, payload) →
    (∀ e ∈ after, ¬ e.IsWriteFailure) → l'.payloads = l.payloads ++ [payload]
  /-- An accepted block is acknowledged once. -/
  accepted : l'.payloads ≠ l.payloads → acknowledgements after = [l.due]
  /-- The block accepted last, if it comes again, is acknowledged once more. -/
  repeated : ∀ block payload, brought? B answer = some (block, payload) → l.last = some block →
    acknowledgements after = [block]
  /-- Nothing else is acknowledged. -/
  other : l'.payloads = l.payloads →
    (∀ block payload, brought? B answer = some (block, payload) → l.last ≠ some block) →
    acknowledgements after = []

variable {after : List Event}

theorem Ledger.Settles.eq_of_idle (settles : l.Settles after l') (idle : l.arriving = none) :
    l' = l := by
  cases settles with
  | same => rfl
  | dropped =>
    obtain ⟨last, payloads, arriving, called⟩ := l
    obtain rfl : arriving = none := idle
    rfl
  | accepted harriving =>
    rw [idle] at harriving
    cases harriving

/-- The block accepted last is not the one that is due. -/
theorem Ledger.last_ne_due : l.last ≠ some l.due := by
  intro h
  unfold due at h
  cases hlast : l.last with
  | none =>
    rw [hlast] at h
    cases h
  | some block =>
    rw [hlast] at h
    exact nextBlock_ne_self block (Option.some.inj h).symm

theorem replies_of_accept {payload : Bytes} (brought : brought? B answer = some (l.due, payload))
    (called : (l.accept l.due payload).called = l.called ++ acknowledgements after) :
    Replies B answer after l (l.accept l.due payload) := by
  have hacks : acknowledgements after = [l.due] := (List.append_cancel_left called).symm
  refine ⟨.inr ⟨payload, brought, length_of_brought? brought, rfl, rfl⟩, ?_, fun _ => hacks, ?_, ?_⟩
  · intro p h _
    rw [brought] at h
    cases h
    rfl
  · intro block p h hlast
    rw [brought] at h
    cases h
    exact absurd hlast Ledger.last_ne_due
  · intro hsame
    exact absurd hsame (by simp [Ledger.accept])

/-- What does not come in its turn is acknowledged if it is the block accepted last. -/
theorem replies_of_notDue {block : UInt16} {payload : Bytes}
    (brought : brought? B answer = some (block, payload)) (turn : block ≠ l.due)
    (payloads : l'.payloads = l.payloads) (last : l'.last = l.last)
    (acks : acknowledgements after = if l.last = some block then [block] else []) :
    Replies B answer after l l' := by
  refine ⟨.inl ⟨payloads, last⟩, ?_, fun h => absurd payloads h, ?_, ?_⟩
  · intro p h _
    rw [brought] at h
    cases h
    exact absurd rfl turn
  · intro n p h hlast
    rw [brought] at h
    cases h
    rw [acks, if_pos hlast]
  · intro _ hfresh
    rw [acks, if_neg (hfresh block payload brought)]

/-- A block that is due and cannot be stored is not acknowledged. -/
theorem replies_of_dropped {payload : Bytes} (brought : brought? B answer = some (l.due, payload))
    (failed : ∃ e ∈ after, e.IsWriteFailure) (payloads : l'.payloads = l.payloads)
    (last : l'.last = l.last) (called : l.called = l.called ++ acknowledgements after) :
    Replies B answer after l l' := by
  refine ⟨.inl ⟨payloads, last⟩, ?_, fun h => absurd payloads h, ?_,
    fun _ _ => by simpa using called⟩
  · intro p _ hintact
    obtain ⟨e, hmem, hfailed⟩ := failed
    exact absurd hfailed (hintact e hmem)
  · intro block p h hlast
    rw [brought] at h
    cases h
    exact absurd hlast Ledger.last_ne_due

theorem replies_of_settles (before : l.arriving = none)
    (settles : (l.arrive B answer).Settles after l') (idle : l'.arriving = none)
    (called : l'.called = l.called ++ acknowledgements after) : Replies B answer after l l' := by
  unfold Ledger.arrive at settles
  cases hbrought : brought? B answer with
  | none =>
    rw [hbrought] at settles
    obtain rfl := settles.eq_of_idle before
    have hacks : acknowledgements after = [] := by simpa using called
    exact ⟨.inl ⟨rfl, rfl⟩, by simp [hbrought], fun h => absurd rfl h, by simp [hbrought],
      fun _ _ => hacks⟩
  | some b =>
    obtain ⟨block, payload⟩ := b
    rw [hbrought] at settles
    dsimp only at settles
    by_cases hturn : block = l.due
    · subst hturn
      rw [if_pos rfl] at settles
      split at settles
      · obtain rfl := settles.eq_of_idle rfl
        exact replies_of_accept hbrought called
      · cases settles with
        | same => cases idle
        | dropped hfailed => exact replies_of_dropped hbrought hfailed rfl rfl called
        | accepted harriving =>
          cases harriving
          exact replies_of_accept hbrought called
    · rw [if_neg hturn] at settles
      split at settles
      · rename_i hrepeat
        obtain rfl := settles.eq_of_idle before
        refine replies_of_notDue hbrought hturn rfl rfl ?_
        rw [if_pos hrepeat]
        exact (List.append_cancel_left called).symm
      · rename_i hrepeat
        obtain rfl := settles.eq_of_idle before
        refine replies_of_notDue hbrought hturn rfl rfl ?_
        rw [if_neg hrepeat]
        simpa using called

end Ledger

end Receiver

end Tftp
