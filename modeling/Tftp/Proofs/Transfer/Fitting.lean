import Mathlib.Algebra.GroupWithZero.Nat
import Mathlib.Algebra.Order.BigOperators.Group.List
import Mathlib.Data.List.Perm.Subperm
import Tftp.Proofs.Transfer.Truthful
import Tftp.Proofs.Transfer.Unsent

/-!
# What is handed out fits

No datagram of a transfer is longer than a data packet of the largest block size, and all others are
short: the acknowledged options are of three kinds, each at most once.

* `Event.HandsShort` are the events that hand out no data, and nothing longer than the longest
  acknowledgement of options.
* `ShortOrRead` says this of an event, or that it hands out a block which was read. `Sender.Carries`
  is the invariant behind it: the block in flight was read.
* `Fits` is what holds of the datagrams of a run.

Results:
* `length_optionAck_le`: an acknowledgement of options is short, however many were requested.
* `shortOrRead_of_send` and `handsShort_of_receive`: what is handed out is short, or it is data and
  carries a block that was read.
* `room_of_receive`: a receiver has room for a whole block whenever it waits.
* **`datagrams_fit`**: every datagram fits, so no transfer fails because a packet is too long.

A datagram has at most 65507 bytes, and a data packet of the largest block size that a request may
ask for has 65468 (RFC 2348). Everything else is short because of what negotiation lets through:
each kind of option once, with a value of 64 bits (specification §10.7), however long the request
was. The reports and the acknowledgements are shorter still.

Out of scope: datagrams that are too long for some link on the way. They are taken apart and put
together by others, or lost.
-/

namespace Tftp

open Program

/-! ## Lengths -/

theorem length_encode_data (block : UInt16) (payload : Bytes) :
    (Packet.data block payload).encode.length = headerLength + payload.length :=
  Nat.add_comm payload.length headerLength

/-- The number of bytes that an option of a kind takes at most, with its value in range. -/
def optionRoom : OptionKind → Nat
  | .blockSize => 14
  | .transferSize => 27
  | .timeout => 12
  | .other _ => 0

variable {direction : Direction}

/-- An acknowledged option takes no more room than its kind has. -/
theorem length_option_le {entry : OptionEntry} (h : Suits direction entry) :
    entry.encode.length ≤ optionRoom entry.kind := by
  have hlength : entry.encode.length =
      entry.kind.name.length + 1 + ((Bytes.decimal entry.value.toNat).length + 1) := by
    simp only [OptionEntry.encode, Bytes.terminated, List.length_append, List.length_singleton]
  rw [hlength]
  obtain ⟨kind, value⟩ := entry
  cases kind with
  | other tag => exact h.elim
  | blockSize =>
    have hvalue : (Bytes.decimal value.toNat).length ≤ 5 :=
      length_decimal_le (by decide) ((validBlockSize_iff.mp h).2.trans_lt (by decide))
    have hname : (OptionKind.name .blockSize).length = 7 := rfl
    simp only [optionRoom, hname]
    omega
  | transferSize =>
    have hvalue : (Bytes.decimal value.toNat).length ≤ 20 :=
      length_decimal_le (by decide) (Nat.lt_trans value.toNat_lt (by decide))
    have hname : (OptionKind.name .transferSize).length = 5 := rfl
    simp only [optionRoom, hname]
    omega
  | timeout =>
    have hvalue : (Bytes.decimal value.toNat).length ≤ 3 :=
      length_decimal_le (by decide) ((validTimeout_iff.mp h).2.trans_lt (by decide))
    have hname : (OptionKind.name .timeout).length = 7 := rfl
    simp only [optionRoom, hname]
    omega

/-- Kinds with a meaning, each at most once, have room for 53 bytes in all. -/
theorem sum_optionRoom_le {kinds : List OptionKind} (distinct : kinds.Nodup)
    (known : ∀ kind ∈ kinds, kind.IsKnown) : (kinds.map optionRoom).sum ≤ 53 := by
  have hsub : kinds ⊆ [.blockSize, .transferSize, .timeout] := by
    intro kind hkind
    have hknown := known kind hkind
    cases kind with
    | other tag => exact hknown.elim
    | blockSize | transferSize | timeout => simp
  obtain ⟨permuted, hperm, hsublist⟩ := List.subperm_of_subset distinct hsub
  calc (kinds.map optionRoom).sum
      = (permuted.map optionRoom).sum := ((hperm.map optionRoom).sum_eq).symm
    _ ≤ (List.map optionRoom [.blockSize, .transferSize, .timeout]).sum :=
        (hsublist.map optionRoom).sum_le_sum fun _ _ => Nat.zero_le _
    _ = 53 := rfl

/-- **An acknowledgement of options** is at most 55 bytes long, however many were requested. -/
theorem length_optionAck_le {p : Parameters} {timeout : Int} (h : p.Settled direction timeout) :
    (Packet.optionAck p.acknowledged).encode.length ≤ 55 := by
  have hlengths : (encodeOptions p.acknowledged).length =
      (p.acknowledged.map fun entry => entry.encode.length).sum := List.length_flatMap
  have hentries : (p.acknowledged.map fun entry => entry.encode.length).sum ≤
      ((p.acknowledged.map OptionEntry.kind).map optionRoom).sum := by
    rw [List.map_map]
    exact List.sum_le_sum fun entry hentry => length_option_le (h.suits entry hentry)
  have hkinds : ((p.acknowledged.map OptionEntry.kind).map optionRoom).sum ≤ 53 := by
    refine sum_optionRoom_le h.distinct fun kind hkind => ?_
    obtain ⟨entry, hentry, rfl⟩ := List.mem_map.mp hkind
    exact (h.suits entry hentry).known
  have hpacket : (Packet.optionAck p.acknowledged).encode.length =
      2 + (encodeOptions p.acknowledged).length :=
    Nat.add_comm (encodeOptions p.acknowledged).length 2
  omega

theorem length_greeting_le {p : Parameters} {timeout : Int} {packet : Packet}
    (h : p.Settled direction timeout)
    (greets : Endpoint.greeting? p.acknowledged direction = some packet) :
    packet.encode.length ≤ 55 := by
  have hoptions := length_optionAck_le h
  cases hacknowledged : p.acknowledged with
  | nil =>
    rw [hacknowledged] at greets
    cases direction with
    | send total => cases greets
    | receive =>
      cases greets
      decide
  | cons option options =>
    rw [hacknowledged] at greets hoptions
    cases greets
    exact hoptions

/-! ## Short datagrams -/

/-- The event hands out no data, and nothing longer than the longest acknowledgement of options. -/
def Event.HandsShort (e : Event) : Prop :=
  ∀ bytes, e.handed? = some bytes → bytes.length ≤ 55 ∧ ¬ CarriesData bytes

theorem handsShort_of_silent {e : Event} (silent : e.handed? = none) : e.HandsShort := by
  intro bytes hhanded
  rw [silent] at hhanded
  cases hhanded

theorem handsShort_send {packet : Packet} (short : packet.encode.length ≤ 55)
    (other : packet.opcode ≠ .data) (answer : Except SystemError Unit) :
    Event.HandsShort ⟨.sendDatagram packet.encode, answer⟩ := by
  rintro bytes ⟨⟩
  exact ⟨short, fun hdata => other (opcode_of_carriesData hdata)⟩

/-- The packet that answers a request is short. -/
theorem handsShort_greeting {p : Parameters} {timeout : Int} {packet : Packet}
    (settled : p.Settled direction timeout)
    (greets : Endpoint.greeting? p.acknowledged direction = some packet)
    (answer : Except SystemError Unit) :
    Event.HandsShort ⟨.sendDatagram packet.encode, answer⟩ := by
  rintro bytes ⟨⟩
  exact ⟨length_greeting_le settled greets, not_carriesData_greeting greets⟩

theorem Event.PreparesSocket.handsShort {e : Event} (h : e.PreparesSocket) : e.HandsShort := by
  cases h <;> exact handsShort_of_silent rfl

theorem Event.Concludes.handsShort {e : Event} (h : e.Concludes) : e.HandsShort :=
  handsShort_of_silent h.handed?

theorem preparatory_handsShort : Preparatory Event.HandsShort := by
  refine ⟨fun _ _ => handsShort_of_silent rfl, fun _ _ => handsShort_of_silent rfl,
    fun _ => handsShort_of_silent rfl, fun _ h => h.handsShort, fun _ h => h.handsShort, ?_⟩
  intro code text answer hreports
  refine handsShort_send ?_ (fun h => by cases h) answer
  rcases hreports with rfl | rfl <;> exact Nat.le_of_ble_eq_true rfl

/-- A receiver hands out nothing but acknowledgements of blocks and its refusal. -/
theorem Receiver.Asks.handsShort {u : Receiver} {call : Call} {resume : call.Answer → Receiver}
    (asks : u.Asks call resume) (answer : call.Answer) : Event.HandsShort ⟨call, answer⟩ := by
  cases asks with
  | polling | awaiting | writing | flushing => exact handsShort_of_silent rfl
  | repeating | acknowledging =>
    exact handsShort_send (Nat.le_of_ble_eq_true rfl) (fun h => by cases h) answer
  | refusing => exact handsShort_send (by decide) (by decide) answer

theorem Sender.Confirming.handsShort {s u : Sender} {es : List Event} (h : s.Confirming es u) :
    ∀ e ∈ es, e.HandsShort := by
  cases h with
  | waiting => exact List.forall_mem_nil _
  | answered => exact List.forall_mem_singleton.mpr (handsShort_of_silent rfl)
  | rejected _ sent =>
    refine List.forall_mem_cons.mpr ⟨handsShort_of_silent rfl, List.forall_mem_singleton.mpr ?_⟩
    exact handsShort_send (by decide) (by decide) sent

/-! ## Data -/

/-- What the event hands out is short, or it is data that carries a block which was read. -/
def ShortOrRead (blockSize : Nat) (es : List Event) (e : Event) : Prop :=
  e.HandsShort ∨ ∃ block payload answer,
    e = ⟨.sendDatagram (Packet.data block payload).encode, answer⟩ ∧
      ⟨.readBytes blockSize, .ok payload⟩ ∈ es

theorem ShortOrRead.mono {blockSize : Nat} {es fs : List Event} {e : Event}
    (h : ShortOrRead blockSize es e) (sub : es ⊆ fs) : ShortOrRead blockSize fs e := by
  rcases h with hshort | ⟨block, payload, answer, he, hread⟩
  · exact Or.inl hshort
  · exact Or.inr ⟨block, payload, answer, he, sub hread⟩

namespace Sender

variable {s u : Sender} {es : List Event}

/-- The block in flight was read. -/
def Carries (s : Sender) (es : List Event) : Prop :=
  match s.phase with
  | .polling attempt | .sending attempt | .awaiting attempt =>
    ⟨.readBytes s.blockSize, .ok attempt.payload⟩ ∈ es
  | .confirming | .rejecting _ | .reading _ | .ended _ => True

theorem carries_miss {attempt : Attempt}
    (read : ⟨.readBytes s.blockSize, .ok attempt.payload⟩ ∈ es) : (s.miss attempt).Carries es := by
  unfold miss
  dsimp only
  split
  · trivial
  · exact read

theorem carries_advance (attempt : Attempt) : (s.advance attempt).Carries es := by
  unfold advance
  dsimp only
  split <;> trivial

theorem carries_afterFirstAnswer (answer : Except SystemError Datagram) :
    (s.afterFirstAnswer answer).Carries es := by
  unfold afterFirstAnswer
  dsimp only
  split
  · split <;> trivial
  all_goals trivial

theorem carries_afterAnswer {attempt : Attempt} (answer : Except SystemError Datagram)
    (read : ⟨.readBytes s.blockSize, .ok attempt.payload⟩ ∈ es) :
    (s.afterAnswer attempt answer).Carries es := by
  unfold afterAnswer
  dsimp only
  split
  · split
    · exact carries_advance attempt
    · exact carries_miss read
  · trivial
  · trivial
  · exact carries_miss read

/-- Each call and each answer leave the sender with a block that was read. -/
theorem Carries.next (h : s.Carries es) {call : Call} {resume : call.Answer → Sender}
    (asks : s.ask? = some ⟨call, resume⟩) (answer : call.Answer) :
    (resume answer).Carries (es ++ [⟨call, answer⟩]) := by
  have hkept : ∀ {payload : Bytes}, ⟨.readBytes s.blockSize, .ok payload⟩ ∈ es →
      (⟨.readBytes s.blockSize, .ok payload⟩ : Event) ∈ es ++ [⟨call, answer⟩] :=
    fun hread => List.mem_append_left _ hread
  unfold Carries at h
  cases asks_of_ask? asks with
  | confirming => exact carries_afterFirstAnswer answer
  | rejecting => cases answer <;> trivial
  | reading =>
    cases answer with
    | ok payload => exact List.mem_append_right _ (List.mem_singleton_self _)
    | error reason => trivial
  | polling hp =>
    rw [hp] at h
    cases answer with
    | true => trivial
    | false => exact hkept h
  | sending hp =>
    rw [hp] at h
    cases answer with
    | ok => exact hkept h
    | error reason => trivial
  | awaiting hp =>
    rw [hp] at h
    exact carries_afterAnswer answer (hkept h)

/-- What a sender hands out is short, or it is the block in flight. -/
theorem Carries.shortOrRead (h : s.Carries es) {call : Call} {resume : call.Answer → Sender}
    (asks : s.ask? = some ⟨call, resume⟩) (answer : call.Answer) :
    ShortOrRead s.blockSize es ⟨call, answer⟩ := by
  unfold Carries at h
  cases asks_of_ask? asks with
  | confirming | reading | polling | awaiting => exact Or.inl (handsShort_of_silent rfl)
  | rejecting => exact Or.inl (handsShort_send (by decide) (by decide) answer)
  | sending hp =>
    rw [hp] at h
    exact Or.inr ⟨_, _, answer, rfl, h⟩

theorem blockSize_miss (attempt : Attempt) : (s.miss attempt).blockSize = s.blockSize := by
  unfold miss
  dsimp only
  split <;> rfl

theorem blockSize_advance (attempt : Attempt) : (s.advance attempt).blockSize = s.blockSize := by
  unfold advance
  dsimp only
  split <;> rfl

theorem blockSize_afterAnswer (attempt : Attempt) (answer : Except SystemError Datagram) :
    (s.afterAnswer attempt answer).blockSize = s.blockSize := by
  unfold afterAnswer
  dsimp only
  split
  · split
    · exact blockSize_advance attempt
    · exact blockSize_miss attempt
  · rfl
  · rfl
  · exact blockSize_miss attempt

/-- No answer changes the block size. -/
theorem blockSize_of_asks {call : Call} {resume : call.Answer → Sender}
    (asks : s.ask? = some ⟨call, resume⟩) (answer : call.Answer) :
    (resume answer).blockSize = s.blockSize := by
  cases asks_of_ask? asks with
  | confirming => exact (afterFirstAnswer_keeps s answer).1
  | awaiting => exact blockSize_afterAnswer _ answer
  | polling | rejecting | reading | sending => cases answer <;> rfl

/-- **What a sender hands out** is short, or carries a block that was read before. -/
theorem shortOrRead_of_runs (run : Runs ask? s.sendFile es u) :
    ∀ e ∈ es, ShortOrRead s.blockSize es e := by
  have hinvariant : u.blockSize = s.blockSize ∧ u.Carries es ∧
      ∀ e ∈ es, ShortOrRead s.blockSize es e := by
    refine run.induction (P := fun es u => u.blockSize = s.blockSize ∧ u.Carries es ∧
      ∀ e ∈ es, ShortOrRead s.blockSize es e) ⟨rfl, trivial, List.forall_mem_nil _⟩ ?_
    rintro es u call resume answer ⟨hsize, hcarries, hevents⟩ asks
    have hsub : es ⊆ es ++ [⟨call, answer⟩] := List.subset_append_left _ _
    have hlast := hcarries.shortOrRead asks answer
    rw [hsize] at hlast
    refine ⟨(blockSize_of_asks asks answer).trans hsize, hcarries.next asks answer, ?_⟩
    exact List.forall_mem_append.mpr ⟨fun e he => (hevents e he).mono hsub,
      List.forall_mem_singleton.mpr (hlast.mono hsub)⟩
  exact hinvariant.2.2

end Sender

/-! ## Whole transfers -/

/-- The block size that a request leads to. -/
def Transfer.grantedBlockSize (t : Transfer) : Nat :=
  (lastRequested? .blockSize t.requested).elim defaultBlockSize UInt64.toNat

section Whole

variable {t : Transfer} {p : Parameters} {es : List Event} {r : Option Result}

theorem shortOrRead_of_sendsFile {blockSize maxRetries : Nat}
    (h : SendsFile blockSize maxRetries es r) : ∀ e ∈ es, ShortOrRead blockSize es e := by
  cases h with
  | @confirming _ conf tail _ _ run _ concluding =>
    have hconf := (Sender.confirming_of_runs run).handsShort
    exact List.forall_mem_append.mpr ⟨fun e he => Or.inl (hconf e he),
      fun e he => Or.inl (concluding.concludes e he).handsShort⟩
  | @sending _ conf sends tail s _ _ run _ run' concluding =>
    have hconfirming := Sender.confirming_of_runs run
    have hsize : s.blockSize = blockSize := hconfirming.keeps.1
    have hsends := Sender.shortOrRead_of_runs run'
    rw [hsize] at hsends
    have hsub : sends ⊆ conf ++ (sends ++ tail) :=
      List.Subset.trans (List.subset_append_left _ _) (List.subset_append_right _ _)
    rw [List.forall_mem_append, List.forall_mem_append]
    exact ⟨fun e he => Or.inl (hconfirming.handsShort e he), fun e he => (hsends e he).mono hsub,
      fun e he => Or.inl (concluding.concludes e he).handsShort⟩

theorem shortOrRead_of_serves {timeout : Int} {maxRetries : Nat}
    (settled : p.Settled direction timeout)
    (h : Serves (Endpoint.greeting? p.acknowledged direction) (SendsFile p.blockSize maxRetries)
      es r) : ∀ e ∈ es, ShortOrRead p.blockSize es e := by
  cases h with
  | greeting => exact List.forall_mem_nil _
  | unsent greets concluding =>
    exact List.forall_mem_cons.mpr
      ⟨Or.inl (handsShort_greeting settled greets _),
        fun e he => Or.inl (concluding.concludes e he).handsShort⟩
  | served sends =>
    refine List.forall_mem_append.mpr ⟨fun e he => Or.inl ?_,
      fun e he => (shortOrRead_of_sendsFile sends e he).mono (List.subset_append_right _ _)⟩
    obtain ⟨packet, hpacket, rfl⟩ := List.mem_map.mp he
    exact handsShort_greeting settled (Option.mem_toList.mp hpacket) _

/-- **What a sender hands out** is short, or it is data that carries a block which was read with the
negotiated block size. -/
theorem shortOrRead_of_send (h : t.send.Does es r) :
    (∀ e ∈ es, e.HandsShort) ∨
      8 ≤ t.grantedBlockSize ∧ t.grantedBlockSize ≤ 65464 ∧
        ∀ e ∈ es, ShortOrRead t.grantedBlockSize es e := by
  have hclock : ∀ start, Event.HandsShort ⟨.readClock, start⟩ := fun _ => handsShort_of_silent rfl
  rcases does_ask_bind h with ⟨rfl, rfl⟩ | ⟨start, rest, rfl, hrest⟩
  · exact Or.inl (List.forall_mem_nil _)
  rcases does_bind hrest with ⟨hprepare, rfl⟩ | ⟨before, rest, prepared, rfl, hprepare, hserve⟩
  · exact Or.inl (List.forall_mem_cons.mpr
      ⟨hclock start, makes_prepareSend preparatory_handsShort hprepare⟩)
  have hbefore := makes_prepareSend preparatory_handsShort hprepare
  rcases does_prepareSend hprepare with ⟨size, p, bound, hprepared, hr⟩ | hunprepared
  · cases hr
    have hsettled := settled_of_negotiate hprepared.negotiated
    have hsize : p.blockSize = t.grantedBlockSize := negotiated_blockSize hprepared.negotiated
    have hrange := hsettled.blockSize_range
    have hserves := shortOrRead_of_serves hsettled (does_serveSend rfl hserve)
    rw [hsize] at hrange hserves
    refine Or.inr ⟨hrange.1, hrange.2, List.forall_mem_cons.mpr ⟨Or.inl (hclock start), ?_⟩⟩
    refine List.forall_mem_append.mpr ⟨fun e he => Or.inl (hbefore e he), fun e he => ?_⟩
    exact (hserves e he).mono
      (List.Subset.trans (List.subset_append_right _ _) (List.subset_cons_self _ _))
  · cases prepared with
    | ok prepared => exact absurd rfl (hunprepared.fails prepared)
    | error failure =>
      refine Or.inl (List.forall_mem_cons.mpr ⟨hclock start, List.forall_mem_append.mpr
        ⟨hbefore, fun e he => ?_⟩⟩)
      exact (makes_failed hserve e he).handsShort

/-- **What a receiver hands out** is short. -/
theorem handsShort_of_receive : t.receive.Makes Event.HandsShort := by
  refine makes_bind (makes_ask fun _ => handsShort_of_silent rfl) fun start => ?_
  refine makes_bind_of_does (makes_prepareReceive preparatory_handsShort) fun es prepared h => ?_
  cases prepared with
  | error failure => exact makes_failed.mono fun _ he => he.handsShort
  | ok prepared =>
    obtain ⟨p, endpoint⟩ := prepared
    rcases does_prepareReceive h with ⟨q, bound, hprepared, hr⟩ | hunprepared
    · cases hr
      have hsettled := settled_of_negotiate hprepared.negotiated
      exact makes_serveReceive
        (fun _ greets answer => handsShort_greeting hsettled greets answer)
        (fun asks answer => asks.handsShort answer) fun _ he => he.handsShort
    · exact absurd rfl (hunprepared.fails _)

/-! ## Room -/

/-- A receiver has room for a block of its size whenever it waits. -/
theorem room_of_runs {u v : Receiver} (run : Runs Receiver.ask? u es v) {room : Nat}
    {answer : Except SystemError Datagram} (waits : ⟨.receiveDatagram room, answer⟩ ∈ es) :
    room = headerLength + u.blockSize := by
  obtain ⟨before, after, rfl⟩ := List.mem_iff_append.mp waits
  obtain ⟨w, hbefore, hrest⟩ := run.split
  cases hrest with
  | cons _ asks _ =>
    cases Receiver.asks_of_ask? asks
    rw [Receiver.blockSize_of_runs hbefore]

/-- **A transfer that receives its file** has room for a block of the negotiated size whenever it
waits. -/
theorem room_of_receive (h : t.receive.Does es r) {room : Nat}
    {answer : Except SystemError Datagram} (waits : ⟨.receiveDatagram room, answer⟩ ∈ es) :
    room = headerLength + t.grantedBlockSize := by
  -- Only the loop waits.
  have hother : ∀ {es : List Event}, (∀ e ∈ es, e.Prepares) →
      ⟨.receiveDatagram room, answer⟩ ∉ es := fun hprepares hwaits => hprepares _ hwaits
  rcases does_transferReceive h with hunserved | hcourse
  · exact absurd waits (hother hunserved.prepares)
  cases hcourse with
  | @served start p bound before rest _ prepared serves =>
    have hrest : ⟨.receiveDatagram room, answer⟩ ∈ rest := by
      rcases List.mem_cons.mp waits with hclock | hwaits
      · cases hclock
      · exact (List.mem_append.mp hwaits).resolve_left (hother prepared.prepares)
    have hconcludes : ∀ {tail : List Event}, (∀ e ∈ tail, e.Concludes) →
        ⟨.receiveDatagram room, answer⟩ ∉ tail :=
      fun hconcludes => hother fun e he => (hconcludes e he).prepares
    cases serves with
    | greeting => cases hrest
    | unsent _ concluding =>
      rcases List.mem_cons.mp hrest with hgreeting | htail
      · cases hgreeting
      · exact absurd htail (hconcludes concluding.concludes)
    | served receives =>
      rcases List.mem_append.mp hrest with hgreeting | hrest
      · obtain ⟨packet, -, hpacket⟩ := List.mem_map.mp hgreeting
        cases hpacket
      cases receives with
      | receiving run concluding =>
        rcases List.mem_append.mp hrest with hwaits | htail
        · have hsize : p.blockSize = t.grantedBlockSize := negotiated_blockSize prepared.negotiated
          rw [room_of_runs run hwaits, ← hsize]
          rfl
        · exact absurd htail (hconcludes concluding.concludes)

/-! ## Both directions -/

/-- **What a run hands out** fits, so nothing of it is refused for its length. -/
structure Fits (es : List Event) (r : Option Result) : Prop where
  length_le : ∀ bytes ∈ handed es, bytes.length ≤ 65468
  optionAck_le : ∀ bytes ∈ handed es, CarriesOptions bytes → bytes.length ≤ 55
  /-- A system that takes every datagram up to the limit of the protocol refuses none. -/
  taken : (∀ bytes, ⟨.sendDatagram bytes, .error .messageTooLong⟩ ∈ es → 65507 < bytes.length) →
    ∀ result, r = some result → result.failure? ≠ some (.socketFailed .send .messageTooLong)

/-- Short datagrams fit, and so do those that carry a block of at most the largest size. -/
theorem fits_of_shortOrRead {blockSize : Nat} (le : blockSize ≤ 65464)
    (reads : ∀ count bytes, ⟨.readBytes count, .ok bytes⟩ ∈ es → bytes.length ≤ count)
    (events : ∀ e ∈ es, ShortOrRead blockSize es e)
    (refused : ∀ result reason, r = some result →
      result.failure? = some (.socketFailed .send reason) → SendRefused reason es) : Fits es r := by
  have hlength : ∀ bytes ∈ handed es, bytes.length ≤ 65468 := by
    intro bytes hbytes
    obtain ⟨e, he, hhanded⟩ := mem_handed.mp hbytes
    rcases events e he with hshort | ⟨block, payload, answer, rfl, hread⟩
    · exact (hshort bytes hhanded).1.trans (by decide)
    · cases hhanded
      have hpayload := reads _ _ hread
      rw [length_encode_data, headerLength]
      omega
  refine ⟨hlength, fun bytes hbytes hoptions => ?_, ?_⟩
  · obtain ⟨e, he, hhanded⟩ := mem_handed.mp hbytes
    rcases events e he with hshort | ⟨block, payload, answer, rfl, -⟩
    · exact (hshort bytes hhanded).1
    · cases hhanded
      cases opcode_of_carriesOptions hoptions
  · intro limit result hr hfailed
    obtain ⟨bytes, hrefused⟩ := refused result .messageTooLong hr hfailed
    have hle := hlength bytes (mem_handed.mpr ⟨_, hrefused, rfl⟩)
    have hlt := limit bytes hrefused
    omega

/-- A data packet of a sender arrives whole at a receiver with the same block size. -/
theorem arrival_of_read {blockSize : Nat} {bytes : Bytes}
    (reads : ∀ count bytes, ⟨.readBytes count, .ok bytes⟩ ∈ es → bytes.length ≤ count)
    (events : ∀ e ∈ es, ShortOrRead blockSize es e) (hands : bytes ∈ handed es)
    (data : CarriesData bytes) (source : Address) :
    ∃ block payload, bytes = (Packet.data block payload).encode ∧
      Arrival.ofAnswer (headerLength + blockSize) (.ok ⟨source, bytes⟩) =
        .packet source (.data block payload) := by
  obtain ⟨e, he, hhanded⟩ := mem_handed.mp hands
  rcases events e he with hshort | ⟨block, payload, answer, rfl, hread⟩
  · exact absurd data (hshort bytes hhanded).2
  · cases hhanded
    refine ⟨block, payload, rfl, Arrival.ofAnswer_eq_packet_iff.mpr ⟨_, rfl, ?_, ?_⟩⟩
    · rw [length_encode_data]
      exact Nat.add_le_add_left (reads _ _ hread) _
    · exact Packet.decode_encode_data block payload

end Whole

/-- **Every datagram fits.** Whatever the configuration, the options, the file and the peer are, if
no read gives more than was asked for:

* what a sender or a receiver hands out is at most 65468 bytes long, an acknowledgement of options
  at most 55, and neither fails because a packet is too long;
* what a sender hands out as data arrives whole at every receiver with the same block size, whenever
  that one waits. -/
theorem datagrams_fit (t : Transfer) (es : List Event) (r : Option Result)
    (reads : ∀ count bytes, ⟨.readBytes count, .ok bytes⟩ ∈ es → bytes.length ≤ count) :
    (t.receive.Does es r → Fits es r) ∧ (t.send.Does es r → Fits es r ∧
      ∀ (t' : Transfer) (es' : List Event) (r' : Option Result), t'.receive.Does es' r' →
        t'.grantedBlockSize = t.grantedBlockSize →
          ∀ bytes ∈ handed es, CarriesData bytes →
            ∀ room answer, ⟨.receiveDatagram room, answer⟩ ∈ es' →
              ∀ source, ∃ block payload, bytes = (Packet.data block payload).encode ∧
                Arrival.ofAnswer room (.ok ⟨source, bytes⟩) =
                  .packet source (.data block payload)) := by
  constructor
  · intro hreceive
    refine fits_of_shortOrRead (Nat.zero_le _) reads
      (fun e he => Or.inl (handsShort_of_receive hreceive e he)) ?_
    rintro result reason rfl hfailed
    exact sendRefused_of_receive hreceive hfailed
  · intro hsend
    have hrefused : ∀ result reason, r = some result →
        result.failure? = some (.socketFailed .send reason) → SendRefused reason es := by
      rintro result reason rfl hfailed
      exact sendRefused_of_send hsend hfailed
    rcases shortOrRead_of_send hsend with hshort | ⟨-, hle, hevents⟩
    · refine ⟨fits_of_shortOrRead (Nat.zero_le _) reads (fun e he => Or.inl (hshort e he)) hrefused,
        fun _ _ _ _ _ bytes hbytes hdata => ?_⟩
      obtain ⟨e, he, hhanded⟩ := mem_handed.mp hbytes
      exact absurd hdata (hshort e he bytes hhanded).2
    · refine ⟨fits_of_shortOrRead hle reads hevents hrefused,
        fun t' es' r' hreceive hsame bytes hbytes hdata room answer hwaits source => ?_⟩
      rw [room_of_receive hreceive hwaits, hsame]
      exact arrival_of_read reads hevents hbytes hdata source

/-- A transfer that asks for the largest blocks. -/
def largestBlocks : Transfer :=
  ⟨⟨5, 1000⟩, .unspecified, .unspecified, [102], [⟨.blockSize, 65464⟩]⟩

/-- A full block of the largest size takes all the room there is, and it arrives whole. -/
theorem datagrams_fit_largestBlocks :
    ∃ es es' bytes, largestBlocks.send.Does es none ∧ largestBlocks.receive.Does es' none ∧
      bytes ∈ handed es ∧ bytes.length = 65468 ∧ (∀ bytes ∈ handed es, bytes.length ≤ 65468) ∧
      ∀ source, ∃ block payload, bytes = (Packet.data block payload).encode ∧
        Arrival.ofAnswer 65468 (.ok ⟨source, bytes⟩) = .packet source (.data block payload) := by
  -- The block stays a variable: nothing here computes with its bytes.
  obtain ⟨full, hfull⟩ : ∃ full : Bytes, full.length = 65464 :=
    ⟨List.replicate 65464 7, List.length_replicate⟩
  let sends := optionTrace [⟨.openForReading [102], .ok ()⟩, ⟨.fileSize, .ok 70000⟩]
    [⟨.blockSize, 65464⟩]
    [⟨.receiveDatagram datagramRoom, .ok ⟨.unspecified, [0, 4, 0, 0]⟩⟩,
      ⟨.readBytes 65464, .ok full⟩, ⟨.pollCancelled, false⟩,
      ⟨.sendDatagram (Packet.data 1 full).encode, .ok ()⟩]
  let receives := optionTrace [⟨.openForWriting [102], .ok ()⟩] [⟨.blockSize, 65464⟩]
    [⟨.pollCancelled, false⟩, ⟨.receiveDatagram 65468, .error .wouldBlock⟩]
  have hsend : largestBlocks.send.Does sends none := by
    repeat refine does_cons_iff.mpr ⟨_, rfl, ?_⟩
    exact does_nil_iff.mpr rfl
  have hreceive : largestBlocks.receive.Does receives none := by
    repeat refine does_cons_iff.mpr ⟨_, rfl, ?_⟩
    exact does_nil_iff.mpr rfl
  have reads : ∀ count bytes, ⟨.readBytes count, .ok bytes⟩ ∈ sends → bytes.length ≤ count := by
    intro count bytes hread
    simp only [sends, optionTrace, List.cons_append, List.nil_append, List.mem_cons,
      Event.mk.injEq, reduceCtorEq, false_and, false_or, List.not_mem_nil, or_false] at hread
    obtain ⟨hcall, hanswer⟩ := hread
    cases hcall
    cases hanswer
    exact hfull.le
  have hhands : (Packet.data 1 full).encode ∈ handed sends :=
    mem_handed.mpr ⟨⟨.sendDatagram (Packet.data 1 full).encode, .ok ()⟩,
      by simp [sends, optionTrace], rfl⟩
  have hwaits : ⟨.receiveDatagram 65468, .error .wouldBlock⟩ ∈ receives := by
    simp [receives, optionTrace]
  obtain ⟨hfits, harrives⟩ := (datagrams_fit largestBlocks sends none reads).2 hsend
  refine ⟨sends, receives, _, hsend, hreceive, hhands, ?_, hfits.length_le, ?_⟩
  · rw [length_encode_data, hfull]
    rfl
  · exact harrives largestBlocks receives none hreceive rfl _ hhands
      (carriesData_encode 1 full) 65468 _ hwaits

end Tftp
