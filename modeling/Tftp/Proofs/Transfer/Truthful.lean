import Tftp.Proofs.PeerError
import Tftp.Proofs.Sending.Confirming
import Tftp.Proofs.Sending.Order
import Tftp.Proofs.Transfer.Announced

/-!
# What a transfer announces is true

The acknowledged options tell the peer a block size, a deadline and the length of the file. A
transfer that is set up uses just these.

* `SendsBlocks` and `RefusesLonger` are what it means to use a block size, for either direction.

Results:
* `sendsBlocks_of_course`: a transfer that sends its file hands out blocks of the negotiated size,
  and has counted the whole file if it succeeds.
* `refusesLonger_of_course`: a transfer that receives its file refuses everything longer than a
  block of the negotiated size.
* **`announced_true`**: the options that are announced are true of the run.

The size that is announced is the length of the file as it was measured (specification §4.2, §8),
and the file that is sent is the file as it is read. If nobody writes to it in between, the two are
the same, and that is the condition under which a success has sent the announced number of bytes.

Out of scope: the size that a peer declares when it sends. It is recorded and acknowledged, and
nothing depends on it (§4.2).
-/

namespace Tftp

open Program

/-! ## Sending -/

variable {F rest : Bytes} {B maxRetries : Nat} {es : List Event} {r : Option Result}

/-- The data that a run hands out are blocks of `B` bytes of the file, of which only the final one
is shorter. -/
def SendsBlocks (F : Bytes) (B : Nat) (es : List Event) : Prop :=
  ∀ bytes ∈ handed es, CarriesData bytes → ∃ n < blockCount F B,
    bytes = (chunkPacket F B n).encode ∧ (n + 1 ≠ blockCount F B → (chunk F B n).length = B)

theorem length_chunk_of_ne (hB : 0 < B) {n : Nat} (hn : n < blockCount F B)
    (hne : n + 1 ≠ blockCount F B) : (chunk F B n).length = B := by
  have hlow := mt (length_chunk_lt_iff hB hn).mp hne
  have hhigh : (chunk F B n).length ≤ B := List.length_take_le _ _
  omega

theorem Sender.Confirming.not_isRead {s t : Sender} (h : s.Confirming es t) :
    ∀ e ∈ es, ¬ e.IsRead := by
  cases h <;> simp [Event.IsRead]

theorem SendsFile.handed_beforeWait (h : SendsFile B maxRetries es r) :
    handed (beforeWait es) = [] := by
  cases h with
  | confirming run unconfirmed concluding =>
    cases Sender.confirming_of_runs run with
    | waiting =>
      obtain ⟨rfl, -⟩ := concluding.ended rfl
      rfl
    | answered | rejected => rfl
  | sending run confirmed =>
    obtain ⟨answer, rfl, -⟩ := (Sender.confirming_of_runs run).outcome?_eq_ok_iff.mp confirmed
    rfl

theorem SendsFile.leavesOptions (h : SendsFile B maxRetries es r) : ∀ e ∈ es, e.LeavesOptions := by
  cases h with
  | confirming run _ concluding =>
    exact List.forall_mem_append.mpr ⟨Sender.leavesOptions_of_runs run,
      fun e he => (concluding.concludes e he).leavesOptions⟩
  | sending run _ run' concluding =>
    exact List.forall_mem_append.mpr ⟨Sender.leavesOptions_of_runs run, List.forall_mem_append.mpr
      ⟨Sender.leavesOptions_of_runs run', fun e he => (concluding.concludes e he).leavesOptions⟩⟩

theorem sendsBlocks_append {fs : List Event} :
    SendsBlocks F B (es ++ fs) ↔ SendsBlocks F B es ∧ SendsBlocks F B fs := by
  unfold SendsBlocks
  rw [handed_append, List.forall_mem_append]

theorem sendsBlocks_of_noData (h : ∀ bytes ∈ handed es, ¬ CarriesData bytes) :
    SendsBlocks F B es :=
  fun bytes hmem hdata => absurd hdata (h bytes hmem)

theorem Concluding.sendsBlocks {outcome? : Option (Except Failure Unit)} {transferred : Nat}
    {misses : UInt32} (h : Concluding outcome? transferred misses es r) : SendsBlocks F B es := by
  refine sendsBlocks_of_noData ?_
  rw [handed_eq_nil fun e he => (h.concludes e he).isSilent.2]
  nofun

theorem Sender.Confirming.sendsBlocks {s t : Sender} (h : s.Confirming es t) :
    SendsBlocks F B es := by
  refine sendsBlocks_of_noData fun bytes hmem => ?_
  rcases h.handed with hnone | ⟨hrejection, -⟩
  · rw [hnone] at hmem
    cases hmem
  · rw [hrejection, List.mem_singleton] at hmem
    subst hmem
    exact fun hdata => nomatch opcode_of_carriesData hdata

/-- What a sender hands out are blocks of the file. -/
theorem Sender.sendsBlocks_of_runs {s t : Sender} (hB : 0 < s.blockSize)
    (run : Runs ask? s.sendFile es t) (file : Along Reads F es rest) :
    SendsBlocks F s.blockSize es := by
  obtain ⟨hat, copies, horder⟩ := at_inOrder_of_runs hB run file
  intro bytes hmem hdata
  rw [horder.handed_started] at hmem
  obtain ⟨n, hn, hcopy⟩ := List.mem_flatMap.mp hmem
  have hlt : n < blockCount F s.blockSize := (List.mem_range.mp hn).trans_le hat.started_le
  exact ⟨n, hlt, List.eq_of_mem_replicate hcopy, length_chunk_of_ne hB hlt⟩

theorem Sender.transferred_of_ok {s t : Sender} (hB : 0 < s.blockSize)
    (run : Runs ask? s.sendFile es t) (file : Along Reads F es rest)
    (ok : t.outcome? = some (.ok ())) : t.transferred = s.transferred + F.length := by
  obtain ⟨hat, -⟩ := at_inOrder_of_runs hB run file
  rw [hat.transferred, hat.outcome?_eq_ok_iff.mp ok, flatten_chunks_blockCount hB]

/-- A transfer hands out blocks of the file, and has counted all of it if it succeeds. -/
theorem sendsBlocks_of_sendsFile (hB : 0 < B) (h : SendsFile B maxRetries es r)
    (file : Along Reads F es rest) :
    SendsBlocks F B es ∧ ∀ result, r = some result → result.ok = true →
      result.transferred = F.length := by
  cases h with
  | confirming run unconfirmed concluding =>
    refine ⟨?_, fun result hr hok => ?_⟩
    · rw [sendsBlocks_append]
      exact ⟨(Sender.confirming_of_runs run).sendsBlocks, concluding.sendsBlocks⟩
    · rw [concluding.fails unconfirmed result hr] at hok
      cases hok
  | sending run confirmed run' concluding =>
    have hconfirming := Sender.confirming_of_runs run
    obtain ⟨hsize, -, htransferred⟩ := hconfirming.keeps
    -- The wait for the first answer reads nothing: the file is sent from its beginning.
    obtain ⟨position, hconf, hsends⟩ := file.split
    obtain rfl := eq_of_along_reads hconf hconfirming.not_isRead
    obtain ⟨_, hsends, -⟩ := hsends.split
    obtain rfl : _ = B := hsize
    refine ⟨?_, fun result hr hok => ?_⟩
    · rw [sendsBlocks_append, sendsBlocks_append]
      exact ⟨hconfirming.sendsBlocks, Sender.sendsBlocks_of_runs hB run' hsends,
        concluding.sendsBlocks⟩
    · obtain ⟨hout, hresult⟩ := concluding.succeeds hr hok
      rw [hresult, Sender.transferred_of_ok hB run' hsends hout, htransferred]
      exact Nat.zero_add _

theorem not_isRead_of_mem_greetingTrace {greeting? : Option Packet} {e : Event}
    (he : e ∈ Endpoint.greetingTrace greeting?) : ¬ e.IsRead := by
  obtain ⟨packet, -, rfl⟩ := List.mem_map.mp he
  exact id

theorem Prepared.not_isRead {t : Transfer} {direction : Direction} {p : Parameters}
    {bound : Address} (h : Prepared t direction p bound es) : ∀ e ∈ es, ¬ e.IsRead := by
  rw [h.trace]
  cases direction <;> simp [openingTrace, Endpoint.readyTrace, Event.IsRead]

theorem sendsBlocks_of_serves {options : List OptionEntry} {direction : Direction} (hB : 0 < B)
    (h : Serves (Endpoint.greeting? options direction) (SendsFile B maxRetries) es r)
    (file : Along Reads F es rest) :
    SendsBlocks F B es ∧ ∀ result, r = some result → result.ok = true →
      result.transferred = F.length := by
  cases h with
  | greeting => exact ⟨sendsBlocks_of_noData (List.forall_mem_nil _), nofun⟩
  | @unsent packet reason tail _ hsome concluding =>
    refine ⟨?_, fun result hr hok => ?_⟩
    · rw [← List.singleton_append, sendsBlocks_append]
      refine ⟨sendsBlocks_of_noData ?_, concluding.sendsBlocks⟩
      exact List.forall_mem_singleton.mpr (not_carriesData_greeting hsome)
    · cases (concluding.succeeds hr hok).1
  | served hsends =>
    obtain ⟨position, hgreeting, hfile⟩ := file.split
    obtain rfl := eq_of_along_reads hgreeting fun e he => not_isRead_of_mem_greetingTrace he
    obtain ⟨hblocks, hcounted⟩ := sendsBlocks_of_sendsFile hB hsends hfile
    rw [sendsBlocks_append]
    refine ⟨⟨sendsBlocks_of_noData fun bytes hmem => ?_, hblocks⟩, hcounted⟩
    rw [handed_greetingTrace] at hmem
    obtain ⟨packet, hpacket, rfl⟩ := List.mem_map.mp hmem
    exact not_carriesData_greeting (Option.mem_toList.mp hpacket)

/-- A transfer that sends its file uses the block size that was negotiated. -/
theorem sendsBlocks_of_course {t : Transfer} {p : Parameters} {size : UInt64}
    (negotiated : negotiate t.requested (.send size) t.config.timeout = .ok p)
    (h : Course t (.send size) (fun p => SendsFile p.blockSize maxRetries) es r)
    (file : Along Reads F es rest) :
    SendsBlocks F p.blockSize es ∧ ∀ result, r = some result → result.ok = true →
      result.transferred = F.length := by
  cases h with
  | @served start p' bound before after _ prepared serves =>
    obtain rfl : p' = p := Except.ok.inj (prepared.negotiated.symm.trans negotiated)
    have hB := (settled_of_negotiate negotiated).blockSize_pos
    rw [← List.cons_append] at file ⊢
    obtain ⟨position, hfront, hfile⟩ := file.split
    obtain rfl := eq_of_along_reads hfront
      (List.forall_mem_cons.mpr ⟨id, prepared.not_isRead⟩)
    obtain ⟨hblocks, hcounted⟩ := sendsBlocks_of_serves hB serves hfile
    refine ⟨sendsBlocks_append.mpr ⟨sendsBlocks_of_noData ?_, hblocks⟩, hcounted⟩
    rw [handed_eq_nil fun e he => (prepared.isSilent_cons start e he).2]
    nofun

/-! ## Receiving -/

/-- The event hands out nothing and stores nothing. -/
def Event.IsIdle (e : Event) : Prop := e.handed? = none ∧ ¬ e.IsWrite

/-- Every wait of a run has room for a block of `B` bytes behind its header. A datagram that is
longer is refused: nothing is handed out or stored until the next wait. -/
def RefusesLonger (B : Nat) (es : List Event) : Prop :=
  ∀ before room datagram after,
    es = before ++ ⟨.receiveDatagram room, .ok datagram⟩ :: after →
    room = B + 4 ∧ (B + 4 < datagram.bytes.length →
      Arrival.ofAnswer room (.ok datagram) = .malformed (.tooLarge datagram.bytes.length) ∧
        ∀ e ∈ beforeWait after, e.IsIdle)

theorem Event.Concludes.isIdle {e : Event} (h : e.Concludes) : e.IsIdle := by
  cases h <;> exact ⟨rfl, id⟩

namespace Receiver

variable {u v : Receiver} {tail : List Event}

/-- A receiver that has nothing to do until its next wait. -/
def Idles (u : Receiver) : Prop :=
  match u.phase with
  | .polling _ | .awaiting _ | .ended _ => True
  | _ => False

theorem idles_receiveFile (u : Receiver) : u.receiveFile.Idles := trivial

theorem idles_miss (u : Receiver) (misses : Nat) : (u.miss misses).Idles := by
  unfold miss
  dsimp only
  split <;> trivial

theorem idles_afterPoll (u : Receiver) (misses : Nat) (cancelled : Bool) :
    (u.afterPoll misses cancelled).Idles := by
  unfold afterPoll
  split <;> trivial

theorem afterAnswer_of_longer {datagram : Datagram}
    (long : headerLength + u.blockSize < datagram.bytes.length) (misses : Nat) :
    u.afterAnswer misses (.ok datagram) =
      miss { u with traffic := u.traffic.countAnswer (.ok datagram) } misses := by
  unfold afterAnswer
  dsimp only
  rw [Arrival.ofAnswer_of_longer long]

/-- A receiver that has nothing to do hands out and stores nothing until it waits. -/
theorem Idles.isIdle (h : u.Idles) (run : Runs ask? u es v) (concludes : ∀ e ∈ tail, e.Concludes) :
    ∀ e ∈ beforeWait (es ++ tail), e.IsIdle := by
  induction run with
  | nil => exact fun e he => (concludes e (mem_of_mem_beforeWait he)).isIdle
  | @cons u _ _ _ es answer asks _ ih =>
    unfold Idles at h
    cases asks_of_ask? asks with
    | polling =>
      exact List.forall_mem_cons.mpr ⟨⟨rfl, id⟩, ih (idles_afterPoll u _ answer)⟩
    | awaiting => exact List.forall_mem_nil _
    | repeating hp | writing hp | flushing hp | refusing hp | acknowledging hp =>
      rw [hp] at h
      exact h.elim

end Receiver

theorem ReceivesFile.handed_beforeWait (h : ReceivesFile B maxRetries es r) :
    handed (beforeWait es) = [] := by
  cases h with
  | receiving run concluding =>
    refine handed_eq_nil fun e he => ?_
    exact ((Receiver.idles_receiveFile _).isIdle run concluding.concludes e he).1

theorem ReceivesFile.leavesOptions (h : ReceivesFile B maxRetries es r) :
    ∀ e ∈ es, e.LeavesOptions := by
  cases h with
  | receiving run concluding =>
    exact List.forall_mem_append.mpr ⟨Receiver.leavesOptions_of_runs run,
      fun e he => (concluding.concludes e he).leavesOptions⟩

/-- An event is found behind a list that does not have it. -/
theorem split_behind {front before after : List Event} {e : Event}
    (h : front ++ es = before ++ e :: after) (notMem : e ∉ front) :
    ∃ before', before = front ++ before' ∧ es = before' ++ e :: after := by
  rcases List.append_eq_append_iff.mp h with ⟨before', hbefore, hes⟩ | ⟨middle, rfl, hafter⟩
  · exact ⟨before', hbefore, hes⟩
  · cases middle with
    | nil => exact ⟨[], by simp, by simpa using hafter.symm⟩
    | cons e' middle =>
      cases hafter
      simp at notMem

/-- An event is found before a list that does not have it. -/
theorem split_before {tail before after : List Event} {e : Event}
    (h : es ++ tail = before ++ e :: after) (notMem : e ∉ tail) :
    ∃ after', after = after' ++ tail ∧ es = before ++ e :: after' := by
  rcases List.append_eq_append_iff.mp h with ⟨middle, rfl, rfl⟩ | ⟨middle, rfl, hafter⟩
  · simp at notMem
  · cases middle with
    | nil =>
      subst hafter
      simp at notMem
    | cons e' middle =>
      cases hafter
      exact ⟨middle, rfl, rfl⟩

theorem RefusesLonger.prepend {front : List Event} (h : RefusesLonger B es)
    (silent : ∀ e ∈ front, e.outcome? = none) : RefusesLonger B (front ++ es) := by
  intro before room datagram after hes
  obtain ⟨before', -, hes'⟩ := split_behind hes fun hmem => nomatch silent _ hmem
  exact h before' room datagram after hes'

theorem refusesLonger_of_precluded (h : ∀ e ∈ es, e.outcome? = none) : RefusesLonger B es := by
  rintro before room datagram after rfl
  cases h _ (List.mem_append_right before List.mem_cons_self)

/-- A receiver has room for a block, and refuses what is longer. -/
theorem refusesLonger_of_receivesFile (h : ReceivesFile B maxRetries es r) :
    RefusesLonger B es := by
  cases h with
  | receiving run concluding =>
    intro before room datagram after hes
    -- Nothing is waited for once the receiver has ended, so the wait is one of its own.
    obtain ⟨after, rfl, rfl⟩ := split_before hes fun hmem =>
      nomatch concluding.concludes _ hmem
    obtain ⟨u, hbefore, hrun⟩ := run.split
    obtain rfl : u.blockSize = B := Receiver.blockSize_of_runs hbefore
    cases hrun with
    | cons answer asks rest =>
      cases Receiver.asks_of_ask? asks with
      | @awaiting misses =>
        refine ⟨Nat.add_comm _ _, fun hlong => ?_⟩
        rw [Nat.add_comm] at hlong
        rw [Receiver.afterAnswer_of_longer hlong] at rest
        exact ⟨Arrival.ofAnswer_of_longer hlong,
          (Receiver.idles_miss _ misses).isIdle rest concluding.concludes⟩

theorem refusesLonger_of_serves {greeting? : Option Packet}
    (h : Serves greeting? (ReceivesFile B maxRetries) es r) : RefusesLonger B es := by
  cases h with
  | greeting => exact refusesLonger_of_precluded (List.forall_mem_nil _)
  | unsent _ concluding =>
    refine refusesLonger_of_precluded (List.forall_mem_cons.mpr ⟨rfl, fun e he => ?_⟩)
    exact (concluding.concludes e he).isSilent.1
  | served serving =>
    exact (refusesLonger_of_receivesFile serving).prepend fun e => outcome?_of_mem_greetingTrace

/-- A transfer that receives its file uses the block size that was negotiated. -/
theorem refusesLonger_of_course {t : Transfer} {p : Parameters}
    (negotiated : negotiate t.requested .receive t.config.timeout = .ok p)
    (h : Course t .receive (fun p => ReceivesFile p.blockSize maxRetries) es r) :
    RefusesLonger p.blockSize es := by
  cases h with
  | @served start p' bound before after _ prepared serves =>
    obtain rfl : p' = p := Except.ok.inj (prepared.negotiated.symm.trans negotiated)
    rw [← List.cons_append]
    exact (refusesLonger_of_serves serves).prepend fun e he => (prepared.isSilent_cons start e he).1

/-! ## Both directions -/

/-- A sender learned the length of its file. -/
theorem Course.fileSize_mem {t : Transfer} {size : UInt64}
    {engine : Parameters → List Event → Option Result → Prop}
    (h : Course t (.send size) engine es r) : ⟨.fileSize, .ok size⟩ ∈ es := by
  cases h with
  | served prepared serves =>
    rw [prepared.trace]
    simp [openingTrace]

/-- The length that a sender announces is that of its file. -/
theorem transferSize_of_negotiate {requested : List OptionEntry} {size value : UInt64}
    {timeout : Int} {p : Parameters} (h : negotiate requested (.send size) timeout = .ok p)
    (announced : announced? .transferSize p.acknowledged = some value) : value = size :=
  (settled_of_negotiate h).suits _ (mem_of_announced? announced) size rfl

/-- **What a transfer announces is true.** Whatever was requested, whatever its peer sends and
whatever fails, a run whose file was opened and whose socket was made ready announces options (see
`Announces`: the greeting, its contents and the deadline) such that

* when sending, all data come in blocks of the announced size, the announced length is that of the
  file, and a transfer that succeeds has counted all of it;
* when receiving, every wait has room for just one block of the announced size, and what is longer
  is refused. -/
theorem announced_true (t : Transfer) (setUp : SetUp es) :
    (∀ F rest, t.send.Does es r → Along Reads F es rest →
      (∀ size, ⟨.fileSize, .ok size⟩ ∈ es → size.toNat = F.length) →
      ∃ options, Announces t [] options es r ∧
        SendsBlocks F (announcedBlockSize options) es ∧
        (∀ size, announced? .transferSize options = some size → size.toNat = F.length) ∧
        ∀ result, r = some result → result.ok = true → result.transferred = F.length) ∧
      (t.receive.Does es r →
        ∃ options, Announces t [.ack 0] options es r ∧
          RefusesLonger (announcedBlockSize options) es) := by
  constructor
  · intro F rest run file length
    rcases does_transferSend run with hunserved | ⟨size, hcourse⟩
    · exact absurd setUp hunserved.notSetUp
    obtain ⟨p, hnegotiated, hannounces⟩ := announces_of_course
      (fun _ _ _ hsends => hsends.handed_beforeWait) (fun _ _ _ hsends => hsends.leavesOptions)
      hcourse
    obtain ⟨hblocks, hcounted⟩ := sendsBlocks_of_course hnegotiated hcourse file
    rw [(settled_of_negotiate hnegotiated).announcedBlockSize] at hblocks
    refine ⟨p.acknowledged, hannounces, hblocks, fun value hvalue => ?_, hcounted⟩
    rw [transferSize_of_negotiate hnegotiated hvalue]
    exact length size hcourse.fileSize_mem
  · intro run
    rcases does_transferReceive run with hunserved | hcourse
    · exact absurd setUp hunserved.notSetUp
    obtain ⟨p, hnegotiated, hannounces⟩ := announces_of_course
      (fun _ _ _ hreceives => hreceives.handed_beforeWait)
      (fun _ _ _ hreceives => hreceives.leavesOptions) hcourse
    have hrefuses := refusesLonger_of_course hnegotiated hcourse
    rw [(settled_of_negotiate hnegotiated).announcedBlockSize] at hrefuses
    exact ⟨p.acknowledged, hannounces, hrefuses⟩

/-- A transfer of which three options are requested. -/
def optionTransfer : Transfer :=
  ⟨.default, .unspecified, .unspecified, [102],
    [⟨.blockSize, 8⟩, ⟨.transferSize, 0⟩, ⟨.timeout, 1⟩]⟩

/-- The trace of a transfer that acknowledges options, after `opening`. -/
def optionTrace (opening : List Event) (options : List OptionEntry) (rest : List Event) :
    List Event :=
  ⟨.readClock, 0⟩ :: opening
    ++ [⟨.createSocket, .ok ()⟩, ⟨.bindSocket .unspecified, .ok .unspecified⟩,
      ⟨.connectSocket .unspecified, .ok ()⟩, ⟨.setReadDeadline ⟨1, 0⟩, .ok ()⟩,
      ⟨.setWriteDeadline ⟨1, 0⟩, .ok ()⟩, ⟨.sendDatagram (Packet.optionAck options).encode, .ok ()⟩]
    ++ rest

/-- A file of three bytes is sent. -/
def optionSendTrace : List Event :=
  optionTrace [⟨.openForReading [102], .ok ()⟩, ⟨.fileSize, .ok 3⟩]
    [⟨.blockSize, 8⟩, ⟨.transferSize, 3⟩, ⟨.timeout, 1⟩]
    [⟨.receiveDatagram datagramRoom, .ok ⟨.unspecified, [0, 4, 0, 0]⟩⟩,
      ⟨.readBytes 8, .ok [7, 8, 9]⟩, ⟨.pollCancelled, false⟩,
      ⟨.sendDatagram [0, 3, 0, 1, 7, 8, 9], .ok ()⟩]

/-- A block that is longer than announced is refused. -/
def optionReceiveTrace : List Event :=
  optionTrace [⟨.openForWriting [102], .ok ()⟩]
    [⟨.blockSize, 8⟩, ⟨.transferSize, 0⟩, ⟨.timeout, 1⟩]
    [⟨.pollCancelled, false⟩,
      ⟨.receiveDatagram 12, .ok ⟨.unspecified, [0, 3, 0, 1, 1, 2, 3, 4, 5, 6, 7, 8, 9]⟩⟩,
      ⟨.pollCancelled, false⟩]

theorem setUp_optionTrace {opening rest : List Event} {options : List OptionEntry}
    (opens : ∃ e ∈ opening, e.OpensFile) : SetUp (optionTrace opening options rest) := by
  obtain ⟨e, he, hopens⟩ := opens
  refine ⟨⟨e, by simp [optionTrace, he], hopens⟩, ⟨.setWriteDeadline ⟨1, 0⟩, .ok ()⟩, ?_, trivial⟩
  simp [optionTrace]

theorem optionTransfer_does_send : optionTransfer.send.Does optionSendTrace none := by
  repeat refine does_cons_iff.mpr ⟨_, rfl, ?_⟩
  exact does_nil_iff.mpr rfl

theorem optionTransfer_does_receive : optionTransfer.receive.Does optionReceiveTrace none := by
  repeat refine does_cons_iff.mpr ⟨_, rfl, ?_⟩
  exact does_nil_iff.mpr rfl

theorem along_optionSendTrace : Along Reads [7, 8, 9] optionSendTrace [] := by
  refine .cons rfl (.cons rfl (.cons rfl (.cons rfl (.cons rfl (.cons rfl (.cons rfl (.cons rfl
    (.cons rfl (.cons rfl (.cons ⟨rfl, rfl⟩ (.cons rfl (.cons rfl (.nil _)))))))))))))

/-- Both directions announce their options and refuse or send accordingly. -/
theorem optionTransfer_announced :
    SetUp optionSendTrace ∧ SetUp optionReceiveTrace ∧
      (optionTransfer.send.Does optionSendTrace none ∧ Along Reads [7, 8, 9] optionSendTrace [] ∧
        ∃ options, Announces optionTransfer [] options optionSendTrace none ∧
          SendsBlocks [7, 8, 9] (announcedBlockSize options) optionSendTrace ∧
          ∀ size, announced? .transferSize options = some size → size.toNat = 3) ∧
      (optionTransfer.receive.Does optionReceiveTrace none ∧
        ∃ options, Announces optionTransfer [.ack 0] options optionReceiveTrace none ∧
          RefusesLonger (announcedBlockSize options) optionReceiveTrace) := by
  have hsend : SetUp optionSendTrace :=
    setUp_optionTrace ⟨_, List.mem_cons_self, trivial⟩
  have hreceive : SetUp optionReceiveTrace :=
    setUp_optionTrace ⟨_, List.mem_cons_self, trivial⟩
  refine ⟨hsend, hreceive, ⟨optionTransfer_does_send, along_optionSendTrace, ?_⟩,
    optionTransfer_does_receive,
    (announced_true optionTransfer hreceive).2 optionTransfer_does_receive⟩
  have hlength : ∀ size, ⟨.fileSize, .ok size⟩ ∈ optionSendTrace →
      size.toNat = ([7, 8, 9] : Bytes).length := by
    intro size hmem
    simp [optionSendTrace, optionTrace] at hmem
    simp [hmem]
  obtain ⟨options, hannounces, hblocks, hsize, -⟩ := (announced_true optionTransfer hsend).1 _ _
    optionTransfer_does_send along_optionSendTrace hlength
  exact ⟨options, hannounces, hblocks, hsize⟩

end Tftp
