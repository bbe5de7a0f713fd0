import Tftp.Proofs.Asks
import Tftp.Proofs.Receiving.Contents
import Tftp.Proofs.Receiving.Ledger

/-!
# What a receiver acknowledges

An acknowledgement promises that a block is on the disk. This module follows the acknowledgements
of any call that receives a file, whatever its waits bring and whatever fails. The receiver may
have accepted blocks in earlier calls, and the file may hold anything before.

`Books` is the invariant: it ties each phase of the receiver to the ledger of its trace, to the
file, and to the acknowledgements handed out so far.

Results:
* `Books.next`: each call of a receiver and each answer keeps the invariant.
* **`receiveFile_acknowledges`**: an acknowledgement names the block accepted last, and finds every
  accepted payload stored and flushed; what an arrival is answered with.

In the specification a payload is written before its block is acknowledged (§4.6), and a block that
comes again is acknowledged again (§10.8). The acknowledgement is all that a sender ever learns, so
it has to be worth something: the bytes are flushed by then, not only handed to the file.

Out of scope: a disk that forgets what was flushed, and the acknowledgement of the request, which
comes before the first block (`Endpoint.acceptRequest`).
-/

namespace Tftp.Receiver

/-! ## The invariant -/

/-- The acknowledgement that a receiver is about to hand out. -/
def owed (r : Receiver) : List UInt16 :=
  match r.phase with
  | .repeating block _ | .acknowledging block _ => [block]
  | _ => []

/-- All accepted payloads are stored and flushed, behind what the file held before. -/
def OnDisk (content : Bytes) (l : Ledger) (f : OutputFile) : Prop :=
  f = ⟨content ++ l.payloads.flatten, []⟩

/-- What a phase has to do with the ledger and with the file. -/
def PhaseBooks (content : Bytes) (l : Ledger) (f : OutputFile) : Phase → Prop
  | .polling _ | .awaiting _ => l.arriving = none ∧ OnDisk content l f
  | .repeating block _ | .acknowledging block _ =>
    l.last = some block ∧ l.arriving = none ∧ OnDisk content l f
  | .writing block p => l.arriving = some (block, p) ∧ OnDisk content l f
  | .flushing block p =>
    l.arriving = some (block, p) ∧ f.stored ++ f.pending = content ++ (l.payloads ++ [p]).flatten
  | .refusing _ | .ended _ => l.arriving = none

/-- **The books of a receiver** that has acknowledged `acks`, with ledger `l` and file `f`: what is
called for was handed out, or is about to be. -/
structure Books (B : Nat) (content : Bytes) (acks : List UInt16) (l : Ledger) (f : OutputFile)
    (r : Receiver) : Prop where
  size : r.blockSize = B
  last : r.accepted = l.last
  balance : acks ++ r.owed = l.called
  phase : PhaseBooks content l f r.phase

variable {B : Nat} {content : Bytes} {acks : List UInt16} {l : Ledger} {f f' : OutputFile}
  {r : Receiver}

theorem books_receiveFile (r : Receiver) (content : Bytes) :
    Books r.blockSize content [] ⟨r.accepted, [], none, []⟩ ⟨content, []⟩ r.receiveFile := by
  refine ⟨rfl, rfl, rfl, rfl, ?_⟩
  simp [OnDisk]

theorem Books.phaseBooks (h : Books B content acks l f r) {phase : Phase} (hp : r.phase = phase) :
    PhaseBooks content l f phase := hp ▸ h.phase

theorem Books.called (h : Books B content acks l f r) (idle : r.owed = []) : acks = l.called := by
  rw [← h.balance, idle, List.append_nil]

/-! ## Steps -/

/-- A receiver with nothing to acknowledge and nothing on its way to the file. -/
structure Quiet (B : Nat) (content : Bytes) (acks : List UInt16) (l : Ledger) (f : OutputFile)
    (r : Receiver) : Prop where
  size : r.blockSize = B
  last : r.accepted = l.last
  called : acks = l.called
  idle : l.arriving = none
  disk : OnDisk content l f

theorem Quiet.withTraffic (h : Quiet B content acks l f r) (traffic : Traffic) :
    Quiet B content acks l f { r with traffic } := ⟨h.size, h.last, h.called, h.idle, h.disk⟩

theorem Quiet.stop (h : Quiet B content acks l f r) (failure : Failure) :
    Books B content acks l f (r.stop failure) :=
  ⟨h.size, h.last, (List.append_nil acks).trans h.called, h.idle⟩

theorem Quiet.abort (h : Quiet B content acks l f r) (failure : Failure) :
    Books B content acks l f (r.abort failure) :=
  ⟨h.size, h.last, (List.append_nil acks).trans h.called, h.idle⟩

theorem Quiet.afterPoll (h : Quiet B content acks l f r) (misses : Nat) (cancelled : Bool) :
    Books B content acks l f (r.afterPoll misses cancelled) := by
  unfold Receiver.afterPoll
  split
  · exact h.abort _
  · exact ⟨h.size, h.last, (List.append_nil acks).trans h.called, h.idle, h.disk⟩

theorem Quiet.miss (h : Quiet B content acks l f r) (misses : Nat) :
    Books B content acks l f (r.miss misses) := by
  unfold Receiver.miss
  dsimp only
  split
  · exact ⟨h.size, h.last, (List.append_nil acks).trans h.called, h.idle⟩
  · exact ⟨h.size, h.last, (List.append_nil acks).trans h.called, h.idle, h.disk⟩

/-- A block whose payload is on the disk is accepted, and its acknowledgement is owed. -/
theorem books_accept {block : UInt16} {p : Bytes} (hsize : r.blockSize = B)
    (hcalled : acks = l.called) (hdisk : OnDisk content (l.accept block p) f) :
    Books B content acks (l.accept block p) f (r.accept block p) := by
  refine ⟨hsize, rfl, ?_, rfl, rfl, hdisk⟩
  rw [hcalled]
  rfl

theorem Quiet.afterAnswer (h : Quiet B content acks l f r) (misses : Nat)
    (answer : Except SystemError Datagram) :
    Books B content acks (l.arrive B answer) f (r.afterAnswer misses answer) := by
  obtain rfl := h.size
  have h' := h.withTraffic (r.traffic.countAnswer answer)
  have hdue : Receiver.expected { r with traffic := r.traffic.countAnswer answer } = l.due := by
    rw [Receiver.expected, h'.last, Ledger.due]
  unfold Receiver.afterAnswer Ledger.arrive
  dsimp only
  cases hbrought : brought? r.blockSize answer with
  | some b =>
    obtain ⟨block, p⟩ := b
    obtain ⟨source, harrival⟩ := brought?_eq_some_iff.mp hbrought
    rw [harrival]
    dsimp only
    rw [hdue]
    by_cases hturn : block = l.due
    · rw [if_pos hturn, if_pos hturn]
      unfold Receiver.store
      split
      · rename_i hempty
        refine books_accept rfl h.called ?_
        rw [hempty]
        simpa [OnDisk, Ledger.accept] using h.disk
      · exact ⟨rfl, h.last, (List.append_nil acks).trans h.called, rfl, h.disk⟩
    · rw [if_neg hturn, if_neg hturn]
      by_cases hrepeat : l.last = some block
      · rw [if_pos hrepeat, if_pos (h.last.trans hrepeat)]
        refine ⟨rfl, h.last, ?_, hrepeat, h.idle, h.disk⟩
        rw [h.called]
        rfl
      · rw [if_neg hrepeat, if_neg (h.last ▸ hrepeat)]
        exact h'.miss misses
  | none =>
    dsimp only
    split
    · rename_i source block p harrival
      rw [brought?_eq_some_iff.mpr ⟨source, harrival⟩] at hbrought
      cases hbrought
    · exact h'.abort _
    · exact h'.stop _
    · exact h'.miss misses

/-- The acknowledgement that was owed is handed out. -/
theorem Books.quiet_of_owed (h : Books B content acks l f r) {block : UInt16}
    (howed : r.owed = [block]) (idle : l.arriving = none) (disk : OnDisk content l f)
    (traffic : Traffic) : Quiet B content (acks ++ [block]) l f { r with traffic } := by
  refine ⟨h.size, h.last, ?_, idle, disk⟩
  rw [← h.balance, howed]

theorem Books.afterRepetition (h : Books B content acks l f r) {block : UInt16} {misses : Nat}
    (hp : r.phase = .repeating block misses) (answer : Except SystemError Unit) :
    Books B content (acks ++ [block]) l f (r.afterRepetition misses answer) := by
  obtain ⟨-, hidle, hdisk⟩ := h.phaseBooks hp
  have howed : r.owed = [block] := by rw [owed, hp]
  have hquiet := h.quiet_of_owed howed hidle hdisk r.traffic.countSent
  cases answer with
  | ok => exact hquiet.miss misses
  | error reason => exact hquiet.stop _

theorem Books.afterAcknowledgement (h : Books B content acks l f r) {block : UInt16}
    {isLast : Bool} (hp : r.phase = .acknowledging block isLast)
    (answer : Except SystemError Unit) :
    Books B content (acks ++ [block]) l f (r.afterAcknowledgement isLast answer) := by
  obtain ⟨-, hidle, hdisk⟩ := h.phaseBooks hp
  have howed : r.owed = [block] := by rw [owed, hp]
  have hquiet := h.quiet_of_owed howed hidle hdisk r.traffic.countSent
  have hcalled := (List.append_nil (acks ++ [block])).trans hquiet.called
  cases answer with
  | error reason => exact hquiet.stop _
  | ok =>
    unfold Receiver.afterAcknowledgement
    dsimp only
    split
    · exact ⟨h.size, h.last, hcalled, hidle⟩
    · exact ⟨h.size, h.last, hcalled, hidle, hdisk⟩

theorem Books.afterWrite (h : Books B content acks l f r) {block : UInt16} {p : Bytes}
    (hp : r.phase = .writing block p) {answer : Except SystemError Unit}
    (writes : Writes f ⟨.writeBytes p, answer⟩ f') :
    Books B content acks (l.next B ⟨.writeBytes p, answer⟩) f' (r.afterWrite block p answer) := by
  obtain ⟨harriving, hdisk⟩ := h.phaseBooks hp
  have hcalled := h.called (by rw [owed, hp])
  cases answer with
  | ok =>
    obtain ⟨out, rest, hsplit, rfl⟩ := writes
    refine ⟨h.size, h.last, (List.append_nil acks).trans hcalled, harriving, ?_⟩
    show (f.stored ++ out) ++ rest = content ++ (l.payloads ++ [p]).flatten
    rw [List.append_assoc, ← hsplit, hdisk]
    simp
  | error reason => exact ⟨h.size, h.last, (List.append_nil acks).trans hcalled, rfl⟩

theorem Books.afterFlush (h : Books B content acks l f r) {block : UInt16} {p : Bytes}
    (hp : r.phase = .flushing block p) {answer : Except SystemError Unit}
    (writes : Writes f ⟨.flush, answer⟩ f') :
    Books B content acks (l.next B ⟨.flush, answer⟩) f' (r.afterFlush block p answer) := by
  obtain ⟨harriving, hall⟩ := h.phaseBooks hp
  have hcalled := h.called (by rw [owed, hp])
  cases answer with
  | ok =>
    obtain rfl := writes
    have hnext : l.next B ⟨.flush, .ok ()⟩ = l.accept block p := by
      rw [Ledger.next, harriving]
    rw [hnext]
    refine books_accept h.size hcalled ?_
    rw [OnDisk, hall]
    rfl
  | error reason => exact ⟨h.size, h.last, (List.append_nil acks).trans hcalled, rfl⟩

theorem Books.afterRefusal (h : Books B content acks l f r) {reason : SystemError}
    (hp : r.phase = .refusing reason) (answer : Except SystemError Unit) :
    Books B content acks l f (r.afterRefusal reason answer) := by
  have hidle : l.arriving = none := h.phaseBooks hp
  have hcalled := (List.append_nil acks).trans (h.called (by rw [owed, hp]))
  cases answer with
  | ok => exact ⟨h.size, h.last, hcalled, hidle⟩
  | error reason => exact ⟨h.size, h.last, hcalled, hidle⟩

theorem handedAck?_refusal (answer : Except SystemError Unit) :
    Event.handedAck? ⟨.sendDatagram refusal.encode, answer⟩ = none := by
  unfold Event.handedAck?
  dsimp only [Event.handed?]
  rw [decode_refusal]
  rfl

/-- **Every call of a receiver and every answer keep the books.** -/
theorem Books.next (h : Books B content acks l f r) {call : Call}
    {resume : call.Answer → Receiver} {answer : call.Answer}
    (asks : r.ask? = some ⟨call, resume⟩) (writes : Writes f ⟨call, answer⟩ f') :
    Books B content (acks ++ (Event.handedAck? ⟨call, answer⟩).toList) (l.next B ⟨call, answer⟩) f'
      (resume answer) := by
  cases asks_of_ask? asks with
  | @polling misses hp =>
    obtain rfl : f' = f := writes
    obtain ⟨hidle, hdisk⟩ := h.phaseBooks hp
    have hquiet : Quiet B content acks l f' r :=
      ⟨h.size, h.last, h.called (by rw [owed, hp]), hidle, hdisk⟩
    rw [handedAck?_of_silent rfl, Option.toList_none, List.append_nil]
    exact hquiet.afterPoll misses answer
  | @awaiting misses hp =>
    obtain rfl : f' = f := writes
    obtain ⟨hidle, hdisk⟩ := h.phaseBooks hp
    have hquiet : Quiet B content acks l f' r :=
      ⟨h.size, h.last, h.called (by rw [owed, hp]), hidle, hdisk⟩
    rw [handedAck?_of_silent rfl, Option.toList_none, List.append_nil]
    exact hquiet.afterAnswer misses answer
  | repeating hp =>
    obtain rfl : f' = f := writes
    rw [handedAck?_ack, Option.toList_some]
    exact h.afterRepetition hp answer
  | writing hp =>
    rw [handedAck?_of_silent rfl, Option.toList_none, List.append_nil]
    exact h.afterWrite hp writes
  | flushing hp =>
    rw [handedAck?_of_silent rfl, Option.toList_none, List.append_nil]
    exact h.afterFlush hp writes
  | refusing hp =>
    obtain rfl : f' = f := writes
    rw [handedAck?_refusal, Option.toList_none, List.append_nil]
    exact h.afterRefusal hp answer
  | acknowledging hp =>
    obtain rfl : f' = f := writes
    rw [handedAck?_ack, Option.toList_some]
    exact h.afterAcknowledgement hp answer

/-! ## Runs -/

variable {t : Receiver} {es : List Event}

/-- Every run of `receiveFile` keeps the books. -/
theorem books_of_runs (run : Runs ask? r.receiveFile es t)
    (file : Along Writes ⟨content, []⟩ es f) :
    Books r.blockSize content (acknowledgements es) (ledger r.blockSize r.accepted es) f t := by
  refine run.induction_along (P := fun es t f =>
    Books r.blockSize content (acknowledgements es) (ledger r.blockSize r.accepted es) f t) file
    (books_receiveFile r content) ?_
  intro es u f call resume answer f' h asks writes
  rw [acknowledgements_append, acknowledgements_singleton, ledger_append]
  exact h.next asks writes

/-- An acknowledgement is handed out of the block accepted last, with every payload on the disk. -/
theorem Books.acknowledges (h : Books B content acks l f r) {call : Call}
    {resume : call.Answer → Receiver} {answer : call.Answer} {block : UInt16}
    (asks : r.ask? = some ⟨call, resume⟩) (hands : Event.handedAck? ⟨call, answer⟩ = some block) :
    l.last = some block ∧ OnDisk content l f := by
  cases asks_of_ask? asks with
  | repeating hp | acknowledging hp =>
    rw [handedAck?_ack] at hands
    cases hands
    obtain ⟨hlast, -, hdisk⟩ := h.phaseBooks hp
    exact ⟨hlast, hdisk⟩
  | refusing =>
    rw [handedAck?_refusal] at hands
    cases hands
  | polling | awaiting | writing | flushing =>
    rw [handedAck?_of_silent rfl] at hands
    cases hands

/-- What follows an arrival is complete: there is a further wait, or the call has ended. -/
def Complete (t : Receiver) : List Event → Prop
  | [] => t.outcome?.isSome
  | e :: _ => e.outcome?.isSome

/-- A receiver that waits or has ended owes nothing and stores nothing. -/
theorem Books.idle_of_complete (h : Books B content acks l f r) {rest : List Event}
    (run : Runs ask? r rest t) (complete : Complete t rest) : r.owed = [] ∧ l.arriving = none := by
  cases run with
  | nil =>
    change r.outcome?.isSome at complete
    unfold outcome? at complete
    split at complete
    · rename_i hp
      exact ⟨by rw [owed, hp], h.phaseBooks hp⟩
    · cases complete
  | cons answer asks rest =>
    cases asks_of_ask? asks with
    | awaiting hp => exact ⟨by rw [owed, hp], (h.phaseBooks hp).1⟩
    | polling | repeating | acknowledging | writing | flushing | refusing => cases complete

/-- **What a receiver acknowledges.** In every run of `receiveFile`, whatever the waits bring and
whatever fails:

* an acknowledgement names the block accepted last, and at its moment the file holds the payloads
  of all accepted blocks, with nothing pending;
* nothing is acknowledged before the first arrival;
* between an arrival and the next wait, or the end of the call, a block that is accepted is
  acknowledged once, the block accepted last is acknowledged once more if it came again, and
  nothing else is acknowledged. -/
theorem receiveFile_acknowledges (run : Runs ask? r.receiveFile es t)
    (file : Along Writes ⟨content, []⟩ es f) :
    (∀ before e after block g, es = before ++ e :: after → e.handedAck? = some block →
        Along Writes ⟨content, []⟩ before g →
        (ledger r.blockSize r.accepted before).last = some block ∧
          g = ⟨content ++ (ledger r.blockSize r.accepted before).payloads.flatten, []⟩) ∧
      (∀ before after, es = before ++ after → outcomes before = [] →
        acknowledgements before = []) ∧
      (∀ before room answer after rest,
        es = before ++ ⟨.receiveDatagram room, answer⟩ :: (after ++ rest) → outcomes after = [] →
        Complete t rest →
        Replies r.blockSize answer after (ledger r.blockSize r.accepted before)
          (ledger r.blockSize r.accepted
            (before ++ ⟨.receiveDatagram room, answer⟩ :: after))) := by
  refine ⟨?_, ?_, ?_⟩
  · rintro before ⟨call, answer⟩ after block g rfl hands hfile
    obtain ⟨u, hbefore, hafter⟩ := run.split
    cases hafter with
    | cons answer asks rest => exact (books_of_runs hbefore hfile).acknowledges asks hands
  · rintro before after rfl silent
    obtain ⟨u, hbefore, -⟩ := run.split
    obtain ⟨g, hfile, -⟩ := file.split
    have hbooks := books_of_runs hbefore hfile
    have hcalled : (ledger r.blockSize r.accepted before).called = [] := by
      unfold ledger
      rw [(Ledger.settle silent).eq_of_idle rfl]
    exact (List.append_eq_nil_iff.mp (hbooks.balance.trans hcalled)).1
  · rintro before room answer after rest rfl silent complete
    obtain ⟨u, hbefore, hrun⟩ := run.split
    obtain ⟨g, hfile, -⟩ := file.split
    have hbooks := books_of_runs hbefore hfile
    rw [← List.cons_append, ← List.append_assoc] at run file
    obtain ⟨v, hwhole, hrest⟩ := run.split
    obtain ⟨g', hfile', -⟩ := file.split
    have hbooks' := books_of_runs hwhole hfile'
    obtain ⟨howed, hidle⟩ := hbooks.idle_of_complete hrun rfl
    obtain ⟨howed', hidle'⟩ := hbooks'.idle_of_complete hrest complete
    refine replies_of_settles hidle ?_ hidle' ?_
    · rw [ledger_append]
      exact Ledger.settle silent
    · rw [← hbooks.called howed, ← hbooks'.called howed', acknowledgements_append]
      rfl

/-- When the first of two blocks comes again, its two bytes are on the disk, and it is acknowledged
once more before the next wait. -/
theorem twoBlockTrace_acknowledges :
    (∃ t, Runs ask? (Receiver.new 2 3 .zero).receiveFile twoBlockTrace t) ∧
      Along Writes .empty twoBlockTrace ⟨[7, 8, 9], []⟩ ∧
      acknowledgements ((twoBlockTrace.drop 7).take 2) = [1] ∧
      ∀ g, Along Writes .empty (twoBlockTrace.take 7) g → g = ⟨[7, 8], []⟩ := by
  obtain ⟨t, run, -⟩ := runs_twoBlockTrace
  obtain ⟨hdisk, -, hreplies⟩ := receiveFile_acknowledges run along_twoBlockTrace
  refine ⟨⟨t, run⟩, along_twoBlockTrace, ?_, fun g hfile => ?_⟩
  · have hreply := hreplies (twoBlockTrace.take 6) 6 (.ok ⟨.unspecified, [0, 3, 0, 1, 7, 8]⟩)
      ((twoBlockTrace.drop 7).take 2) (twoBlockTrace.drop 9) rfl rfl rfl
    exact hreply.repeated 1 [7, 8] rfl rfl
  · exact (hdisk (twoBlockTrace.take 7) ⟨.sendDatagram [0, 4, 0, 1], .ok ()⟩
      (twoBlockTrace.drop 8) 1 g rfl rfl hfile).2

end Tftp.Receiver
