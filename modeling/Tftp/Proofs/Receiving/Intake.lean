import Tftp.Receiver
import Tftp.Proofs.Chunk
import Tftp.Proofs.File

/-!
# The payloads that a receiver takes

* `acceptedPayloads` reads the outcomes of the waits once and picks the payloads of the blocks in
  their order. It knows nothing of retries, repeated acknowledgements or the file.
* `Intake` is what a trace says about the payloads without looking at the receiver: which were
  taken, which of them were acknowledged, and whether one could not be stored.

Results:
* `accepts?_eq_some_iff`: a payload is taken exactly if the receiver waits for its block.
* `acceptedPayloads_append` and `acceptedPayloads_append_of_rejected`: how the pass goes on, and
  that outcomes which bring no next block add nothing.
* `Intake.next_taken` and `Intake.next_acknowledged`: only a wait takes a payload, and only its
  acknowledgement acknowledges it.

A block is the next one if its number is, modulo 65536 (specification §3), and the pass stops with
the first block that is shorter than the others (§4.6). So it is defined without a machine, and a
reader can check it against the specification alone.

Out of scope: error packets and timeouts, which end a receiver and bring no payload. For the pass
they are outcomes like others, and it goes on after them.
-/

namespace Tftp.Receiver

/-! ## Accepted payloads -/

/-- The payload of block `n + 1`, if the wait brought it in a datagram of at most `B + 4` bytes. -/
def accepts? (B n : Nat) : Except SystemError Datagram → Option Bytes
  | .error _ => none
  | .ok datagram =>
    if datagram.bytes.length ≤ B + 4 then
      match Packet.decode datagram.bytes with
      | .ok (.data block payload) => if block = wireNumber (n + 1) then some payload else none
      | _ => none
    else none

/-- The payloads of block `n + 1` and those after it, in their order; one shorter than `B` is the
last. -/
def acceptedPayloads (B : Nat) : Nat → List (Except SystemError Datagram) → List Bytes
  | _, [] => []
  | n, outcome :: rest =>
    match accepts? B n outcome with
    | none => acceptedPayloads B n rest
    | some payload =>
      if payload.length < B then [payload] else payload :: acceptedPayloads B (n + 1) rest

/-- No payload is shorter than `B`. -/
def Full (B : Nat) (payloads : List Bytes) : Prop := ∀ p ∈ payloads, B ≤ p.length

variable {B n : Nat} {answer : Except SystemError Datagram}

/-- A payload is accepted exactly if it is that of the data packet the receiver waits for. -/
theorem accepts?_eq_some_iff {payload : Bytes} :
    accepts? B n answer = some payload ↔
      ∃ source, Arrival.ofAnswer (headerLength + B) answer
        = .packet source (.data (wireNumber (n + 1)) payload) := by
  simp only [Arrival.ofAnswer_eq_packet_iff, headerLength, Nat.add_comm 4 B]
  constructor
  · intro h
    unfold accepts? at h
    split at h
    · cases h
    · rename_i datagram
      split at h
      · rename_i hlen
        split at h
        · rename_i block payload' hdecode
          split at h
          · rename_i hblock
            cases h
            exact ⟨datagram.source, datagram.bytes, rfl, hlen, hblock ▸ hdecode⟩
          · cases h
        · cases h
      · cases h
  · rintro ⟨source, bytes, rfl, hlen, hdecode⟩
    unfold accepts?
    simp only [hlen, hdecode, if_true]

theorem full_nil : Full B [] := fun _ hp => absurd hp List.not_mem_nil

theorem full_snoc {l : List Bytes} {p : Bytes} : Full B (l ++ [p]) ↔ Full B l ∧ B ≤ p.length := by
  unfold Full
  rw [List.forall_mem_append, List.forall_mem_singleton]

theorem full_cons {l : List Bytes} {p : Bytes} : Full B (p :: l) ↔ B ≤ p.length ∧ Full B l :=
  List.forall_mem_cons

section Accepted

variable {outs more : List (Except SystemError Datagram)}

theorem acceptedPayloads_singleton :
    acceptedPayloads B n [answer] = (accepts? B n answer).toList := by
  rw [acceptedPayloads]
  cases accepts? B n answer with
  | none => rfl
  | some payload => exact ite_self _

/-- Outcomes that bring no next block add nothing. -/
theorem acceptedPayloads_of_rejected (rejected : ∀ answer ∈ outs, accepts? B n answer = none) :
    acceptedPayloads B n outs = [] := by
  induction outs with
  | nil => rfl
  | cons outcome rest ih =>
    obtain ⟨hfirst, hrest⟩ := List.forall_mem_cons.mp rejected
    rw [acceptedPayloads, hfirst]
    exact ih hrest

/-- As long as no payload was the last one, the pass goes on. -/
theorem acceptedPayloads_append (hfull : Full B (acceptedPayloads B n outs)) :
    acceptedPayloads B n (outs ++ more) = acceptedPayloads B n outs
      ++ acceptedPayloads B (n + (acceptedPayloads B n outs).length) more := by
  induction outs generalizing n with
  | nil => rfl
  | cons outcome rest ih =>
    rw [acceptedPayloads] at hfull
    rw [List.cons_append, acceptedPayloads, acceptedPayloads]
    cases hpayload : accepts? B n outcome with
    | none =>
      rw [hpayload] at hfull
      exact ih hfull
    | some payload =>
      simp only [hpayload] at hfull ⊢
      by_cases hshort : payload.length < B
      · rw [if_pos hshort, full_cons] at hfull
        exact absurd hfull.1 (Nat.not_le_of_lt hshort)
      · rw [if_neg hshort, full_cons] at hfull
        rw [if_neg hshort, if_neg hshort, List.length_cons, List.cons_append, ih hfull.2,
          Nat.succ_add_eq_add_succ]

/-- After the last payload the pass looks at nothing. -/
theorem acceptedPayloads_append_of_not_full (hlast : ¬ Full B (acceptedPayloads B n outs)) :
    acceptedPayloads B n (outs ++ more) = acceptedPayloads B n outs := by
  induction outs generalizing n with
  | nil => exact absurd full_nil hlast
  | cons outcome rest ih =>
    rw [acceptedPayloads] at hlast
    rw [List.cons_append, acceptedPayloads, acceptedPayloads]
    cases hpayload : accepts? B n outcome with
    | none =>
      rw [hpayload] at hlast
      exact ih hlast
    | some payload =>
      simp only [hpayload] at hlast ⊢
      by_cases hshort : payload.length < B
      · rw [if_pos hshort, if_pos hshort]
      · rw [if_neg hshort, full_cons] at hlast
        rw [if_neg hshort, if_neg hshort,
          ih fun hfull => hlast ⟨Nat.le_of_not_lt hshort, hfull⟩]

theorem acceptedPayloads_append_of_rejected (rejected : ∀ answer ∈ more,
    accepts? B (n + (acceptedPayloads B n outs).length) answer = none) :
    acceptedPayloads B n (outs ++ more) = acceptedPayloads B n outs := by
  by_cases hfull : Full B (acceptedPayloads B n outs)
  · rw [acceptedPayloads_append hfull, acceptedPayloads_of_rejected rejected, List.append_nil]
  · exact acceptedPayloads_append_of_not_full hfull

end Accepted

/-! ## Intake -/

/-- What a trace did with payloads. -/
structure Intake where
  /-- The payloads of the blocks that were acknowledged. -/
  acknowledged : List Bytes
  /-- The payloads that were accepted. -/
  taken : List Bytes
  /-- Whether a payload could not be stored. -/
  refused : Bool

/-- The intake after one more event. -/
def Intake.next (B : Nat) (k : Intake) : Event → Intake
  | ⟨.receiveDatagram _, answer⟩ =>
    { k with taken := k.taken ++ (accepts? B k.taken.length answer).toList }
  | ⟨.sendDatagram bytes, .ok ()⟩ =>
    if bytes = (Packet.ack (wireNumber k.taken.length)).encode then
      { k with acknowledged := k.taken }
    else k
  | ⟨.writeBytes _, .error _⟩ | ⟨.flush, .error _⟩ => { k with refused := true }
  | _ => k

section Next

variable (B : Nat) (k : Intake)

theorem Intake.next_receive (room : Nat) (answer : Except SystemError Datagram) :
    k.next B ⟨.receiveDatagram room, answer⟩
      = { k with taken := k.taken ++ (accepts? B k.taken.length answer).toList } := rfl

theorem Intake.next_sent (bytes : Bytes) : k.next B ⟨.sendDatagram bytes, .ok ()⟩ =
    if bytes = (Packet.ack (wireNumber k.taken.length)).encode then
      { k with acknowledged := k.taken }
    else k := rfl

theorem Intake.next_written (bytes : Bytes) : k.next B ⟨.writeBytes bytes, .ok ()⟩ = k := rfl

theorem Intake.next_flushed : k.next B ⟨.flush, .ok ()⟩ = k := rfl

end Next

/-- Only a datagram that comes is taken. -/
theorem Intake.next_taken {k : Intake} {e : Event}
    (silent : ∀ room datagram, e ≠ ⟨.receiveDatagram room, .ok datagram⟩) :
    (k.next B e).taken = k.taken := by
  unfold Intake.next
  split
  · rename_i room answer
    cases answer with
    | ok datagram => exact absurd rfl (silent room datagram)
    | error reason => exact List.append_nil _
  · split
    · rfl
    · rfl
  · rfl
  · rfl
  · rfl

/-- A block is acknowledged only by its acknowledgement. -/
theorem Intake.next_acknowledged {k : Intake} {e : Event}
    (hne : (k.next B e).acknowledged ≠ k.acknowledged) :
    e = ⟨.sendDatagram (Packet.ack (wireNumber k.taken.length)).encode, .ok ()⟩ := by
  unfold Intake.next at hne
  split at hne
  · exact absurd rfl hne
  · split at hne
    · rename_i hbytes
      rw [hbytes]
    · exact absurd rfl hne
  · exact absurd rfl hne
  · exact absurd rfl hne
  · exact absurd rfl hne

theorem Intake.next_refused {k : Intake} {e : Event} (stored : ¬ e.IsWriteFailure) :
    (k.next B e).refused = k.refused := by
  unfold Intake.next
  split
  · rfl
  · split
    · rfl
    · rfl
  · exact absurd trivial stored
  · exact absurd trivial stored
  · rfl

/-- The intake of a trace. -/
def intake (B : Nat) (es : List Event) : Intake := es.foldl (Intake.next B) ⟨[], [], false⟩

theorem intake_snoc (B : Nat) (es : List Event) (e : Event) :
    intake B (es ++ [e]) = (intake B es).next B e := by
  rw [intake, List.foldl_append]
  rfl

theorem intake_refused {es : List Event}
    (intact : ∀ e ∈ es, ¬ e.IsWriteFailure) : (intake B es).refused = false := by
  induction es using List.reverseRecOn with
  | nil => rfl
  | append_singleton es e ih =>
    rw [List.forall_mem_append, List.forall_mem_singleton] at intact
    rw [intake_snoc, Intake.next_refused intact.2]
    exact ih intact.1

end Tftp.Receiver
