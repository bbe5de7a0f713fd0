import Tftp.Proofs.Receiving.Intake
import Mathlib.Data.List.Infix

/-!
# What a receiver stores

A receiver of blocks of `B` bytes is followed through any trace, whatever datagrams its waits bring,
whatever fails, and whenever it is cancelled.

`At` is the invariant: it ties each phase of the receiver to the intake of its trace and to the
file.

Results:
* `At.next`: each call of a receiver and each answer keeps the invariant.
* `At.handed`: a receiver hands out only acknowledgements of the block taken last and the report
  that a block cannot be stored.
* `At.stored_prefix` and `At.transferred_le`: at most what was taken is stored, and what is counted
  is stored.

The loop is that of the specification (§4.6). A block is on its way from the socket to the disk for
several calls, and any of them may fail, so what is stored, what is counted and what is acknowledged
may differ in between; the invariant says by how much.

Out of scope: whether the blocks that arrive are those that were sent. That is
`Tftp.Proofs.Network.Agreement`, where this invariant is one half.
-/

namespace Tftp.Receiver

/-! ## The invariant -/

/-- The number of the block accepted last, after `n` blocks. -/
def lastNumber (n : Nat) : Option UInt16 := if n = 0 then none else some (wireNumber n)

/-- The last number and the count of bytes that belong to the payloads of `l`. -/
structure Counted (l : List Bytes) (number : Option UInt16) (bytes : Nat) : Prop where
  number : number = lastNumber l.length
  bytes : bytes = l.flatten.length

/-- Every payload that was taken is stored and counted. -/
structure Settled (k : Intake) (f : OutputFile) (number : Option UInt16) (bytes : Nat) : Prop where
  counted : Counted k.taken number bytes
  file : f = ⟨k.taken.flatten, []⟩
  intact : k.refused = false

/-- The payload `p` was taken last, and at least those before it are stored; they are counted. -/
structure Storing (k : Intake) (f : OutputFile) (number : Option UInt16) (bytes : Nat) (p : Bytes) :
    Prop where
  taken : k.taken = k.acknowledged ++ [p]
  counted : Counted k.acknowledged number bytes
  earlier : k.acknowledged.flatten <+: f.stored
  within : f.stored <+: k.taken.flatten

/-- What a phase has to do with the intake, with the file and with what is counted. -/
def PhaseAt (B : Nat) (k : Intake) (f : OutputFile) (number : Option UInt16) (bytes : Nat) :
    Phase → Prop
  | .polling _ | .awaiting _ => Settled k f number bytes ∧ k.acknowledged = k.taken
  | .repeating block _ =>
    Settled k f number bytes ∧ k.acknowledged = k.taken ∧ block = wireNumber k.taken.length ∧
      k.taken ≠ []
  | .writing block p =>
    Storing k f number bytes p ∧ f = ⟨k.acknowledged.flatten, []⟩ ∧
      block = wireNumber k.taken.length ∧ k.refused = false
  | .flushing block p =>
    Storing k f number bytes p ∧ f.stored ++ f.pending = k.taken.flatten ∧
      block = wireNumber k.taken.length ∧ k.refused = false
  | .refusing _ => (∃ p, Storing k f number bytes p) ∧ k.refused = true
  | .acknowledging block isLast =>
    Settled k f number bytes ∧ block = wireNumber k.taken.length ∧
      ∃ p, k.taken = k.acknowledged ++ [p] ∧ isLast = decide (p.length < B)
  | .ended (.ok ()) =>
    Settled k f number bytes ∧ k.acknowledged = k.taken ∧
      ∃ earlier p, k.taken = earlier ++ [p] ∧ Full B earlier ∧ p.length < B
  | .ended (.error _) =>
    (Settled k f number bytes ∧
        (k.acknowledged = k.taken ∨ ∃ p, k.taken = k.acknowledged ++ [p])) ∨
      ((∃ p, Storing k f number bytes p) ∧ k.refused = true)

/-- **The invariant of a receiver** of blocks of `B` bytes with intake `k` and file `f`. -/
structure At (B : Nat) (k : Intake) (f : OutputFile) (r : Receiver) : Prop where
  size : r.blockSize = B
  phase : PhaseAt B k f r.accepted r.transferred r.phase
  full : r.outcome? ≠ some (.ok ()) → Full B k.acknowledged

variable {B : Nat} {k : Intake} {f f' : OutputFile} {r : Receiver}

/-- After `n` blocks, the next one is accepted. -/
theorem expected_of_lastNumber {n : Nat} (h : r.accepted = lastNumber n) :
    r.expected = wireNumber (n + 1) := by
  rw [Receiver.expected, h, lastNumber]
  split
  · rename_i hzero
    rw [hzero]
    rfl
  · exact nextBlock_wireNumber n

theorem Counted.expected {l : List Bytes} {bytes : Nat} (h : Counted l r.accepted bytes) :
    r.expected = wireNumber (l.length + 1) := expected_of_lastNumber h.number

theorem At.phaseAt (h : At B k f r) {phase : Phase} (hp : r.phase = phase) :
    PhaseAt B k f r.accepted r.transferred phase := hp ▸ h.phase

/-- As long as a receiver has not returned normally, no payload was the last one. -/
theorem At.full_of_phase (h : At B k f r) {phase : Phase} (hp : r.phase = phase)
    (under : phase ≠ .ended (.ok ())) : Full B k.acknowledged := by
  refine h.full fun hok => ?_
  unfold outcome? at hok
  split at hok
  · rename_i hended
    cases hok
    exact under (hp.symm.trans hended)
  · cases hok

theorem at_receiveFile (B maxRetries : Nat) (traffic : Traffic) :
    At B ⟨[], [], false⟩ .empty (Receiver.new B maxRetries traffic).receiveFile :=
  ⟨rfl, ⟨⟨⟨rfl, rfl⟩, rfl, rfl⟩, rfl⟩, fun _ => full_nil⟩

/-! ## Steps -/

/-- A receiver about to wait: what was taken is stored, counted and acknowledged. -/
structure Ready (B : Nat) (k : Intake) (f : OutputFile) (r : Receiver) : Prop where
  size : r.blockSize = B
  settled : Settled k f r.accepted r.transferred
  acknowledged : k.acknowledged = k.taken
  full : Full B k.taken

theorem Ready.withTraffic (h : Ready B k f r) (traffic : Traffic) :
    Ready B k f { r with traffic } := ⟨h.size, h.settled, h.acknowledged, h.full⟩

theorem At.ready (h : At B k f r) {phase : Phase} (hp : r.phase = phase)
    (under : phase ≠ .ended (.ok ())) (hs : Settled k f r.accepted r.transferred)
    (hack : k.acknowledged = k.taken) : Ready B k f r :=
  ⟨h.size, hs, hack, hack ▸ h.full_of_phase hp under⟩

theorem Ready.stop (h : Ready B k f r) (failure : Failure) : At B k f (r.stop failure) :=
  ⟨h.size, Or.inl ⟨h.settled, Or.inl h.acknowledged⟩, fun _ => h.acknowledged ▸ h.full⟩

theorem Ready.abort (h : Ready B k f r) (failure : Failure) : At B k f (r.abort failure) :=
  ⟨h.size, Or.inl ⟨h.settled, Or.inl h.acknowledged⟩, fun _ => h.acknowledged ▸ h.full⟩

theorem Ready.afterPoll (h : Ready B k f r) (misses : Nat) (cancelled : Bool) :
    At B k f (r.afterPoll misses cancelled) := by
  unfold Receiver.afterPoll
  split
  · exact h.abort _
  · exact ⟨h.size, ⟨h.settled, h.acknowledged⟩, fun _ => h.acknowledged ▸ h.full⟩

theorem Ready.miss (h : Ready B k f r) (misses : Nat) : At B k f (r.miss misses) := by
  unfold Receiver.miss
  dsimp only
  split
  · exact ⟨h.size, Or.inl ⟨h.settled, Or.inl h.acknowledged⟩, fun _ => h.acknowledged ▸ h.full⟩
  · exact ⟨h.size, ⟨h.settled, h.acknowledged⟩, fun _ => h.acknowledged ▸ h.full⟩

/-- A payload that is stored is accepted. -/
theorem at_accept {block : UInt16} {p : Bytes} (hsize : r.blockSize = B)
    (hfull : Full B k.acknowledged) (htaken : k.taken = k.acknowledged ++ [p])
    (hcounted : Counted k.acknowledged r.accepted r.transferred)
    (hfile : f = ⟨k.taken.flatten, []⟩) (hblock : block = wireNumber k.taken.length)
    (hintact : k.refused = false) : At B k f (r.accept block p) := by
  refine ⟨hsize, ⟨⟨⟨?_, ?_⟩, hfile, hintact⟩, hblock, p, htaken, ?_⟩, fun _ => hfull⟩
  · have hne : k.taken.length ≠ 0 := by
      rw [htaken, List.length_append, List.length_singleton]
      exact Nat.succ_ne_zero _
    rw [lastNumber, if_neg hne, ← hblock]
    rfl
  · show r.transferred + p.length = _
    rw [hcounted.bytes, htaken, List.flatten_append, List.flatten_singleton, List.length_append]
  · rw [hsize]

/-- The payload of the next block is taken and on its way to the file. -/
theorem Ready.store (h : Ready B k f r) {block : UInt16} {p : Bytes}
    (hblock : block = wireNumber (k.taken.length + 1)) :
    At B { k with taken := k.taken ++ [p] } f (r.store block p) := by
  have hack : Full B k.acknowledged := h.acknowledged ▸ h.full
  have hcounted : Counted k.acknowledged r.accepted r.transferred :=
    h.acknowledged ▸ h.settled.counted
  have htaken : k.taken ++ [p] = k.acknowledged ++ [p] := by rw [h.acknowledged]
  have hlast : block = wireNumber (k.taken ++ [p]).length := by
    rw [hblock, List.length_append, List.length_singleton]
  unfold Receiver.store
  split
  · rename_i hempty
    refine at_accept h.size hack htaken hcounted ?_ hlast h.settled.intact
    rw [h.settled.file, hempty, List.flatten_append, List.flatten_singleton, List.append_nil]
  · refine ⟨h.size, ⟨⟨htaken, hcounted, ?_, ?_⟩, ?_, hlast, h.settled.intact⟩, fun _ => hack⟩
    · rw [h.settled.file, h.acknowledged]
    · rw [h.settled.file, List.flatten_append]
      exact List.prefix_append _ _
    · rw [h.settled.file, h.acknowledged]

/-- What a wait brings is taken if it is the next block, and changes nothing that is stored or
acknowledged otherwise. -/
theorem Ready.afterAnswer (h : Ready B k f r) (misses room : Nat)
    (answer : Except SystemError Datagram) :
    At B (k.next B ⟨.receiveDatagram room, answer⟩) f (r.afterAnswer misses answer) := by
  obtain rfl := h.size
  have h' := h.withTraffic (r.traffic.countAnswer answer)
  have hexpected := h'.settled.counted.expected
  unfold Receiver.afterAnswer
  rw [Intake.next_receive]
  cases hpayload : accepts? r.blockSize k.taken.length answer with
  | some p =>
    obtain ⟨source, harrival⟩ := accepts?_eq_some_iff.mp hpayload
    dsimp only
    rw [harrival]
    dsimp only
    rw [if_pos hexpected.symm]
    exact h'.store rfl
  | none =>
    rw [Option.toList_none, List.append_nil]
    dsimp only
    split
    · rename_i source block p harrival
      have hne : block ≠ Receiver.expected { r with traffic := r.traffic.countAnswer answer } := by
        intro heq
        rw [heq, hexpected] at harrival
        rw [accepts?_eq_some_iff.mpr ⟨source, harrival⟩] at hpayload
        cases hpayload
      rw [if_neg hne]
      split
      · rename_i hrepeat
        have hlast := h.settled.counted.number
        rw [hrepeat, lastNumber] at hlast
        split at hlast
        · cases hlast
        · rename_i hpos
          refine ⟨rfl, ⟨h'.settled, h.acknowledged, Option.some.inj hlast, ?_⟩,
            fun _ => h.acknowledged ▸ h.full⟩
          exact fun hnil => hpos (by rw [hnil]; rfl)
      · exact h'.miss misses
    · exact h'.abort _
    · exact h'.stop _
    · exact h'.miss misses

theorem Ready.afterRepetition (h : Ready B k f r) (misses : Nat)
    (answer : Except SystemError Unit) : At B k f (r.afterRepetition misses answer) := by
  have h' := h.withTraffic r.traffic.countSent
  cases answer with
  | ok => exact h'.miss misses
  | error reason => exact h'.stop _

/-- Acknowledging a block again takes no payload. -/
theorem Intake.next_ack (hack : k.acknowledged = k.taken) (answer : Except SystemError Unit) :
    k.next B ⟨.sendDatagram (Packet.ack (wireNumber k.taken.length)).encode, answer⟩ = k := by
  obtain ⟨acknowledged, taken, refused⟩ := k
  obtain rfl : acknowledged = taken := hack
  cases answer with
  | ok => rw [Intake.next_sent, if_pos rfl]
  | error reason => rfl

theorem At.afterWrite (h : At B k f r) {block : UInt16} {p : Bytes}
    (hp : r.phase = .writing block p) {answer : Except SystemError Unit}
    (writes : Writes f ⟨.writeBytes p, answer⟩ f') :
    At B (k.next B ⟨.writeBytes p, answer⟩) f' (r.afterWrite block p answer) := by
  obtain ⟨storing, hfile, hblock, hintact⟩ := h.phaseAt hp
  have hfull := h.full_of_phase hp nofun
  have hflat : k.acknowledged.flatten ++ p = k.taken.flatten := by
    rw [storing.taken, List.flatten_append, List.flatten_singleton]
  subst hfile
  cases answer with
  | ok =>
    obtain ⟨out, rest, hsplit, rfl⟩ := writes
    rw [Intake.next_written]
    have hall : (k.acknowledged.flatten ++ out) ++ rest = k.taken.flatten := by
      rw [List.append_assoc, ← hsplit]
      exact hflat
    refine ⟨h.size, ⟨⟨storing.taken, storing.counted, List.prefix_append _ _, ?_⟩, hall, hblock,
      hintact⟩, fun _ => hfull⟩
    rw [← hall]
    exact List.prefix_append _ _
  | error reason =>
    obtain ⟨out, rest, hpart, rfl⟩ := writes
    refine ⟨h.size, ⟨⟨p, storing.taken, storing.counted, List.prefix_append _ _, ?_⟩, rfl⟩,
      fun _ => hfull⟩
    show k.acknowledged.flatten ++ out <+: k.taken.flatten
    rw [← hflat, List.prefix_append_right_inj]
    exact (List.prefix_append out rest).trans hpart

theorem At.afterFlush (h : At B k f r) {block : UInt16} {p : Bytes}
    (hp : r.phase = .flushing block p) {answer : Except SystemError Unit}
    (writes : Writes f ⟨.flush, answer⟩ f') :
    At B (k.next B ⟨.flush, answer⟩) f' (r.afterFlush block p answer) := by
  obtain ⟨storing, hall, hblock, hintact⟩ := h.phaseAt hp
  have hfull := h.full_of_phase hp nofun
  cases answer with
  | ok =>
    obtain rfl := writes
    rw [Intake.next_flushed]
    exact at_accept h.size hfull storing.taken storing.counted (by rw [hall]) hblock hintact
  | error reason =>
    obtain ⟨out, rest, hpart, rfl⟩ := writes
    refine ⟨h.size, ⟨⟨p, storing.taken, storing.counted,
      storing.earlier.trans (List.prefix_append _ _), ?_⟩, rfl⟩, fun _ => hfull⟩
    show f.stored ++ out <+: k.taken.flatten
    rw [← hall, List.prefix_append_right_inj]
    exact (List.prefix_append out rest).trans hpart

theorem decode_refusal : Packet.decode refusal.encode = .ok refusal := rfl

/-- The datagram is an error packet with code 3, which says that the disk is full. -/
def ReportsDiskFull (bytes : Bytes) : Prop :=
  Packet.decode bytes = .ok (.error ⟨3⟩ (Bytes.ascii "Disk full or allocation exceeded"))

theorem reportsDiskFull_refusal : ReportsDiskFull refusal.encode := decode_refusal

theorem refusal_ne_ack (block : UInt16) : refusal.encode ≠ (Packet.ack block).encode := by
  intro heq
  have hlength : refusal.encode.length = 4 := congrArg List.length heq
  exact absurd hlength (by decide)

theorem At.afterRefusal (h : At B k f r) {reason : SystemError} (hp : r.phase = .refusing reason)
    (answer : Except SystemError Unit) :
    At B (k.next B ⟨.sendDatagram refusal.encode, answer⟩) f (r.afterRefusal reason answer) := by
  have hphase := h.phaseAt hp
  have hfull := h.full_of_phase hp nofun
  cases answer with
  | ok =>
    rw [Intake.next_sent, if_neg (refusal_ne_ack _)]
    exact ⟨h.size, Or.inr hphase, fun _ => hfull⟩
  | error reason => exact ⟨h.size, Or.inr hphase, fun _ => hfull⟩

theorem At.afterAcknowledgement (h : At B k f r) {block : UInt16} {isLast : Bool}
    (hp : r.phase = .acknowledging block isLast) (answer : Except SystemError Unit) :
    At B (k.next B ⟨.sendDatagram (Packet.ack block).encode, answer⟩) f
      (r.afterAcknowledgement isLast answer) := by
  obtain ⟨hs, rfl, p, htaken, rfl⟩ := h.phaseAt hp
  have hfull := h.full_of_phase hp nofun
  cases answer with
  | ok =>
    rw [Intake.next_sent, if_pos rfl]
    unfold Receiver.afterAcknowledgement
    dsimp only
    split
    · rename_i hshort
      exact ⟨h.size, ⟨⟨hs.counted, hs.file, hs.intact⟩, rfl, _, p, htaken, hfull,
        of_decide_eq_true hshort⟩, fun hout => absurd rfl hout⟩
    · rename_i hlong
      refine ⟨h.size, ⟨⟨hs.counted, hs.file, hs.intact⟩, rfl⟩, fun _ => ?_⟩
      show Full B k.taken
      rw [htaken, full_snoc]
      exact ⟨hfull, Nat.le_of_not_lt fun hlt => hlong (decide_eq_true hlt)⟩
  | error reason => exact ⟨h.size, Or.inl ⟨hs, Or.inr ⟨p, htaken⟩⟩, fun _ => hfull⟩

/-- **Every call of a receiver and every answer keep the invariant.** -/
theorem At.next (h : At B k f r) {call : Call} {resume : call.Answer → Receiver}
    {answer : call.Answer} (asks : r.ask? = some ⟨call, resume⟩)
    (writes : Writes f ⟨call, answer⟩ f') :
    At B (k.next B ⟨call, answer⟩) f' (resume answer) := by
  unfold ask? at asks
  cases hp : r.phase with
  | polling misses =>
    rw [hp] at asks
    cases asks
    obtain rfl : f' = f := writes
    obtain ⟨hs, hack⟩ := h.phaseAt hp
    exact (h.ready hp nofun hs hack).afterPoll misses answer
  | awaiting misses =>
    rw [hp] at asks
    cases asks
    obtain rfl : f' = f := writes
    obtain ⟨hs, hack⟩ := h.phaseAt hp
    exact (h.ready hp nofun hs hack).afterAnswer misses _ answer
  | repeating block misses =>
    rw [hp] at asks
    cases asks
    obtain rfl : f' = f := writes
    obtain ⟨hs, hack, rfl, -⟩ := h.phaseAt hp
    rw [Intake.next_ack hack]
    exact (h.ready hp nofun hs hack).afterRepetition misses answer
  | writing block p =>
    rw [hp] at asks
    cases asks
    exact h.afterWrite hp writes
  | flushing block p =>
    rw [hp] at asks
    cases asks
    exact h.afterFlush hp writes
  | refusing reason =>
    rw [hp] at asks
    cases asks
    obtain rfl : f' = f := writes
    exact h.afterRefusal hp answer
  | acknowledging block isLast =>
    rw [hp] at asks
    cases asks
    obtain rfl : f' = f := writes
    exact h.afterAcknowledgement hp answer
  | ended outcome =>
    rw [hp] at asks
    cases asks

/-- A receiver hands out only acknowledgements of the block taken last and the report that a block
cannot be stored. -/
theorem At.handed (h : At B k f r) {call : Call} {resume : call.Answer → Receiver}
    {answer : call.Answer} (asks : r.ask? = some ⟨call, resume⟩) {bytes : Bytes}
    (sends : Event.handed? ⟨call, answer⟩ = some bytes) :
    bytes = (Packet.ack (wireNumber k.taken.length)).encode ∨
      bytes = refusal.encode ∧ k.refused = true := by
  unfold ask? at asks
  cases hp : r.phase with
  | repeating block misses =>
    rw [hp] at asks
    cases asks
    obtain ⟨-, -, rfl, -⟩ := h.phaseAt hp
    exact Or.inl (Option.some.inj sends).symm
  | acknowledging block isLast =>
    rw [hp] at asks
    cases asks
    obtain ⟨-, rfl, -⟩ := h.phaseAt hp
    exact Or.inl (Option.some.inj sends).symm
  | refusing reason =>
    rw [hp] at asks
    cases asks
    exact Or.inr ⟨(Option.some.inj sends).symm, (h.phaseAt hp).2⟩
  | polling | awaiting | writing | flushing =>
    rw [hp] at asks
    cases asks
    cases sends
  | ended outcome =>
    rw [hp] at asks
    cases asks

/-! ## States -/

/-- While it waits, a receiver has no block left to acknowledge. -/
theorem At.acknowledged_of_waits (h : At B k f r) {call : Call} {resume : call.Answer → Receiver}
    {answer : call.Answer} (asks : r.ask? = some ⟨call, resume⟩)
    (waits : Event.outcome? ⟨call, answer⟩ ≠ none) : k.acknowledged = k.taken := by
  unfold ask? at asks
  cases hp : r.phase with
  | awaiting misses => exact (h.phaseAt hp).2
  | polling | repeating | writing | flushing | refusing | acknowledging =>
    rw [hp] at asks
    cases asks
    exact absurd rfl waits
  | ended =>
    rw [hp] at asks
    cases asks

theorem outcome?_ne_ok_of_asks {ask : Ask Receiver} (asks : r.ask? = some ask) :
    r.outcome? ≠ some (.ok ()) := by
  rw [outcome?_eq_none_of_asks asks]
  nofun

/-- A receiver that returned normally has acknowledged a last payload. -/
theorem At.ended (h : At B k f r) (ok : r.outcome? = some (.ok ())) :
    Settled k f r.accepted r.transferred ∧ k.acknowledged = k.taken ∧
      ∃ earlier p, k.taken = earlier ++ [p] ∧ Full B earlier ∧ p.length < B := by
  unfold outcome? at ok
  split at ok
  · rename_i hp
    cases ok
    exact h.phaseAt hp
  · cases ok

/-- What was taken is stored, or the last of it is being stored; only the last of it may not be
acknowledged. -/
theorem At.settled_or_storing (h : At B k f r) :
    Settled k f r.accepted r.transferred ∧
        (k.acknowledged = k.taken ∨ ∃ p, k.taken = k.acknowledged ++ [p]) ∨
      ∃ p, Storing k f r.accepted r.transferred p := by
  have hphase := h.phase
  unfold PhaseAt at hphase
  split at hphase
  · exact Or.inl ⟨hphase.1, Or.inl hphase.2⟩
  · exact Or.inl ⟨hphase.1, Or.inl hphase.2⟩
  · exact Or.inl ⟨hphase.1, Or.inl hphase.2.1⟩
  · exact Or.inr ⟨_, hphase.1⟩
  · exact Or.inr ⟨_, hphase.1⟩
  · exact Or.inr hphase.1
  · obtain ⟨hs, -, p, htaken, -⟩ := hphase
    exact Or.inl ⟨hs, Or.inr ⟨p, htaken⟩⟩
  · exact Or.inl ⟨hphase.1, Or.inl hphase.2.1⟩
  · rcases hphase with hs | ⟨hs, -⟩
    · exact Or.inl hs
    · exact Or.inr hs

theorem At.acknowledged_prefix (h : At B k f r) : k.acknowledged <+: k.taken := by
  rcases h.settled_or_storing with ⟨-, hack | ⟨p, htaken⟩⟩ | ⟨p, hs⟩
  · rw [hack]
  · rw [htaken]
    exact List.prefix_append _ _
  · rw [hs.taken]
    exact List.prefix_append _ _

/-- At most what was taken is stored. -/
theorem At.stored_prefix (h : At B k f r) : f.stored <+: k.taken.flatten := by
  rcases h.settled_or_storing with ⟨hs, -⟩ | ⟨p, hs⟩
  · rw [hs.file]
  · exact hs.within

/-- At least what was acknowledged is counted. -/
theorem At.acknowledged_le (h : At B k f r) : k.acknowledged.flatten.length ≤ r.transferred := by
  rcases h.settled_or_storing with ⟨hs, -⟩ | ⟨p, hs⟩
  · rw [hs.counted.bytes]
    exact h.acknowledged_prefix.flatten.length_le
  · exact hs.counted.bytes.ge

/-- What is counted is stored. -/
theorem At.transferred_le (h : At B k f r) : r.transferred ≤ f.stored.length := by
  rcases h.settled_or_storing with ⟨hs, -⟩ | ⟨p, hs⟩
  · rw [hs.counted.bytes, hs.file]
  · rw [hs.counted.bytes]
    exact hs.earlier.length_le

end Tftp.Receiver
