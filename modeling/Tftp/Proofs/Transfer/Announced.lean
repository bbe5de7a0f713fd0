import Tftp.Proofs.Asks
import Tftp.Proofs.Negotiation
import Tftp.Proofs.Transfer

/-!
# What a transfer announces

A transfer that is set up answers its request with the acknowledged options, or else as it would
have done without options, and has put the deadline that they tell on its socket by then.

* `announcedBlockSize` and `announcedDeadline` read the options as the peer does.
* `Announces` says what the options and a run have to do with each other, in both directions.

Results:
* **`announces_of_course`**: the options that a transfer acknowledges are those it announces.

What is acknowledged must be what is used (specification §4.2 and §8, "TransferSize correctness";
§9). This module has the options and the deadline, which are settled before the first datagram, and
the next one (`Tftp.Proofs.Transfer.Truthful`) the blocks.

Out of scope: a peer that reads options in another way. `announcedBlockSize` and `announcedDeadline`
are what a reader of the acknowledgement takes for the parameters, with the defaults where it says
nothing.
-/

namespace Tftp

open Program

/-! ## Events of the engines -/

/-- The event sets a deadline. -/
def Event.SetsDeadline (e : Event) : Prop :=
  match e.call with
  | .setReadDeadline _ | .setWriteDeadline _ => True
  | _ => False

/-- The event sets no deadline and hands out no options. -/
def Event.LeavesOptions (e : Event) : Prop :=
  ¬ e.SetsDeadline ∧ ∀ bytes, e.handed? = some bytes → ¬ CarriesOptions bytes

theorem leavesOptions_of_silent {e : Event} (silent : e.handed? = none) (h : ¬ e.SetsDeadline) :
    e.LeavesOptions := by
  refine ⟨h, ?_⟩
  rintro bytes hhanded
  rw [silent] at hhanded
  cases hhanded

theorem leavesOptions_send {p : Packet} (h : p.opcode ≠ .optionAck)
    (answer : Except SystemError Unit) : Event.LeavesOptions ⟨.sendDatagram p.encode, answer⟩ := by
  refine ⟨id, ?_⟩
  rintro bytes hhanded hoptions
  cases hhanded
  exact h (opcode_of_carriesOptions hoptions)

theorem Event.Concludes.leavesOptions {e : Event} (h : e.Concludes) : e.LeavesOptions := by
  cases h <;> exact leavesOptions_of_silent rfl id

theorem Sender.leavesOptions_of_runs {s t : Sender} {es : List Event} (run : Runs ask? s es t) :
    ∀ e ∈ es, e.LeavesOptions := by
  rintro ⟨call, answer⟩ he
  obtain ⟨u, resume, asks⟩ := run.asked he
  cases asks_of_ask? asks with
  | confirming | reading | polling | awaiting => exact leavesOptions_of_silent rfl id
  | rejecting | sending =>
    refine leavesOptions_send ?_ answer
    nofun

theorem Receiver.leavesOptions_of_runs {s t : Receiver} {es : List Event} (run : Runs ask? s es t) :
    ∀ e ∈ es, e.LeavesOptions := by
  rintro ⟨call, answer⟩ he
  obtain ⟨u, resume, asks⟩ := run.asked he
  cases asks_of_ask? asks with
  | polling | awaiting | writing | flushing => exact leavesOptions_of_silent rfl id
  | repeating | refusing | acknowledging =>
    refine leavesOptions_send ?_ answer
    nofun

/-! ## What is announced -/

/-- The block size that options announce. -/
def announcedBlockSize (options : List OptionEntry) : Nat :=
  (announced? .blockSize options).elim defaultBlockSize UInt64.toNat

/-- The deadline that options announce, for a transfer that has `timeout` milliseconds without. -/
def announcedDeadline (timeout : Int) (options : List OptionEntry) : TimeSpan :=
  match announced? .timeout options with
  | some seconds => ⟨seconds.toNat, 0⟩
  | none => .ofMilliseconds timeout

/-- Before its first wait a run hands out the packets, or has not yet come to it. -/
def Greeted (packets : List Packet) (es : List Event) (r : Option Result) : Prop :=
  handed (beforeWait es) <+: packets.map Packet.encode ∧
    (outcomes es ≠ [] ∨ r.isSome → handed (beforeWait es) = packets.map Packet.encode)

/-- **The options tell what a run of the transfer does**; `bare` is how the transfer answers a
request without options. -/
structure Announces (t : Transfer) (bare : List Packet) (options : List OptionEntry)
    (es : List Event) (r : Option Result) : Prop where
  /-- They are of the requested kinds, each once, in the order in which they came first. -/
  kinds : options.map OptionEntry.kind = requestedKinds t.requested
  /-- The peer reads them as they are. -/
  readable : Packet.decode (Packet.optionAck options).encode = .ok (.optionAck options)
  /-- They are handed out before the first wait, if a requested kind has a meaning. -/
  acknowledged : (∃ option ∈ t.requested, option.kind.IsKnown) → Greeted [.optionAck options] es r
  /-- Without such a kind the request is answered as one without options. -/
  unasked : (¬ ∃ option ∈ t.requested, option.kind.IsKnown) → Greeted bare es r
  /-- The first datagram of the whole run acknowledges options exactly if there are such kinds. -/
  first : ∀ datagram rest, handed es = datagram :: rest →
    (CarriesOptions datagram ↔ ∃ option ∈ t.requested, option.kind.IsKnown)
  /-- Their deadline is set in both directions before anything is handed out, and never again. -/
  deadline : ∃ before after, es = before
      ++ [⟨.setReadDeadline (announcedDeadline t.config.timeout options), .ok ()⟩,
        ⟨.setWriteDeadline (announcedDeadline t.config.timeout options), .ok ()⟩] ++ after ∧
    handed before = [] ∧ ∀ e ∈ before ++ after, ¬ e.SetsDeadline

variable {p : Parameters} {direction : Direction} {timeout : Int}

theorem Parameters.Settled.announcedBlockSize (h : p.Settled direction timeout) :
    p.blockSize = Tftp.announcedBlockSize p.acknowledged := h.blockSize

theorem Parameters.Settled.announcedDeadline (h : p.Settled direction timeout) :
    TimeSpan.ofMilliseconds p.timeout = Tftp.announcedDeadline timeout p.acknowledged := by
  rw [h.timeout]
  unfold Tftp.announcedDeadline
  cases announced? .timeout p.acknowledged with
  | none => rfl
  | some seconds =>
    have hseconds : ((seconds.toNat : Int) * 1000).tdiv 1000 = seconds.toNat :=
      Int.mul_tdiv_cancel _ (by decide)
    simp [TimeSpan.ofMilliseconds, hseconds]

/-! ## The greeting -/

variable {options : List OptionEntry} {packet : Packet} {packets : List Packet}
  {front es : List Event} {r : Option Result} {engine : List Event → Option Result → Prop}

/-- How a request without options is answered. -/
def bareAnswer : Direction → List Packet
  | .send _ => []
  | .receive => [.ack 0]

theorem greeting?_eq (options : List OptionEntry) (direction : Direction) :
    (Endpoint.greeting? options direction).toList =
      if options = [] then bareAnswer direction else [.optionAck options] := by
  cases options with
  | nil => cases direction <;> rfl
  | cons option others => rfl

theorem carriesOptions_greeting (h : Endpoint.greeting? options direction = some packet)
    (readable : Packet.decode (Packet.optionAck options).encode = .ok (.optionAck options)) :
    CarriesOptions packet.encode ↔ options ≠ [] := by
  have hgreeting := greeting?_eq options direction
  rw [h] at hgreeting
  by_cases hoptions : options = []
  · have hack : packet = .ack 0 := by
      subst hoptions
      cases direction <;> cases h
      rfl
    rw [hack]
    exact iff_of_false (fun hcarries => nomatch opcode_of_carriesOptions hcarries)
      (fun hne => hne hoptions)
  · rw [if_neg hoptions] at hgreeting
    obtain rfl := List.singleton_injective hgreeting
    exact iff_of_true ⟨options, readable⟩ hoptions

/-- An event that neither waits nor hands out anything. -/
def Event.IsSilent (e : Event) : Prop := e.outcome? = none ∧ e.handed? = none

theorem Event.Concludes.isSilent {e : Event} (h : e.Concludes) : e.IsSilent := by
  cases h <;> exact ⟨rfl, rfl⟩

theorem Greeted.prepend (h : Greeted packets es r) (silent : ∀ e ∈ front, e.IsSilent) :
    Greeted packets (front ++ es) r := by
  have hhanded : handed (beforeWait (front ++ es)) = handed (beforeWait es) := by
    rw [beforeWait_append fun e he => (silent e he).1, handed_append,
      handed_eq_nil fun e he => (silent e he).2, List.nil_append]
  have houtcomes : outcomes (front ++ es) = outcomes es := by
    rw [outcomes_append, outcomes_eq_nil fun e he => (silent e he).1, List.nil_append]
  rwa [Greeted, hhanded, houtcomes]

theorem handed_greetingTrace (greeting? : Option Packet) :
    handed (Endpoint.greetingTrace greeting?) = greeting?.toList.map Packet.encode := by
  cases greeting? <;> rfl

theorem outcome?_of_mem_greetingTrace {greeting? : Option Packet} {e : Event}
    (he : e ∈ Endpoint.greetingTrace greeting?) : e.outcome? = none := by
  obtain ⟨packet, -, rfl⟩ := List.mem_map.mp he
  rfl

/-- A transfer greets before its first wait, if its engine hands out nothing before that. -/
theorem greeted_of_serves {greeting? : Option Packet}
    (waits : ∀ es r, engine es r → handed (beforeWait es) = [])
    (h : Serves greeting? engine es r) : Greeted greeting?.toList es r := by
  cases h with
  | greeting => exact ⟨List.nil_prefix, fun hdone => by simp [outcomes] at hdone⟩
  | @unsent packet reason tail _ hsome concluding =>
    have hsilent : ∀ e ∈ tail, e.IsSilent := fun e he => (concluding.concludes e he).isSilent
    have hhanded : handed (beforeWait (⟨.sendDatagram packet.encode, .error reason⟩ :: tail))
        = greeting?.toList.map Packet.encode := by
      rw [beforeWait_eq_self (List.forall_mem_cons.mpr ⟨rfl, fun e he => (hsilent e he).1⟩),
        handed_cons, handed_eq_nil fun e he => (hsilent e he).2, hsome]
      rfl
    exact ⟨hhanded ▸ List.prefix_rfl, fun _ => hhanded⟩
  | @served rest _ serving =>
    have hhanded : handed (beforeWait (Endpoint.greetingTrace greeting? ++ rest))
        = greeting?.toList.map Packet.encode := by
      rw [beforeWait_append fun e => outcome?_of_mem_greetingTrace, handed_append,
        waits _ _ serving, List.append_nil, handed_greetingTrace]
    exact ⟨hhanded ▸ List.prefix_rfl, fun _ => hhanded⟩

/-- The first datagram of a transfer is its greeting, or else its engine's. -/
theorem carriesOptions_of_serves (leaves : ∀ es r, engine es r → ∀ e ∈ es, e.LeavesOptions)
    (readable : Packet.decode (Packet.optionAck options).encode = .ok (.optionAck options))
    (h : Serves (Endpoint.greeting? options direction) engine es r) {datagram : Bytes}
    {rest : List Bytes} (hfirst : handed es = datagram :: rest) :
    CarriesOptions datagram ↔ options ≠ [] := by
  cases h with
  | greeting => cases hfirst
  | unsent hsome =>
    rw [handed_cons] at hfirst
    cases hfirst
    exact carriesOptions_greeting hsome readable
  | @served es' _ serving =>
    rw [handed_append, handed_greetingTrace] at hfirst
    cases hgreeting : Endpoint.greeting? options direction with
    | some packet =>
      rw [hgreeting] at hfirst
      cases hfirst
      exact carriesOptions_greeting hgreeting readable
    | none =>
      have hoptions : options = [] := by
        cases options with
        | nil => rfl
        | cons option others => cases hgreeting
      rw [hgreeting] at hfirst
      have hmem : datagram ∈ handed es' := by
        rw [show handed es' = datagram :: rest from hfirst]
        exact List.mem_cons_self
      obtain ⟨e, he, hhanded⟩ := mem_handed.mp hmem
      exact iff_of_false ((leaves _ _ serving e he).2 datagram hhanded) (fun hne => hne hoptions)

/-- No deadline is set any more once everything is prepared. -/
theorem not_setsDeadline_of_serves {greeting? : Option Packet}
    (leaves : ∀ es r, engine es r → ∀ e ∈ es, e.LeavesOptions) (h : Serves greeting? engine es r) :
    ∀ e ∈ es, ¬ e.SetsDeadline := by
  cases h with
  | greeting => exact List.forall_mem_nil _
  | unsent hsome concluding =>
    rw [List.forall_mem_cons]
    exact ⟨id, fun e he => (concluding.concludes e he).leavesOptions.1⟩
  | served serving =>
    rw [List.forall_mem_append]
    refine ⟨fun e he => ?_, fun e he => (leaves _ _ serving e he).1⟩
    obtain ⟨packet, -, rfl⟩ := List.mem_map.mp he
    exact id

theorem Prepared.isSilent {t : Transfer} {bound : Address} (h : Prepared t direction p bound es) :
    ∀ e ∈ es, e.IsSilent := by
  rw [h.trace]
  cases direction <;>
    simp [openingTrace, Endpoint.readyTrace, Event.IsSilent, Event.outcome?, Event.handed?]

theorem Prepared.isSilent_cons {t : Transfer} {bound : Address}
    (h : Prepared t direction p bound es) (start : Int) :
    ∀ e ∈ ⟨.readClock, start⟩ :: es, e.IsSilent :=
  List.forall_mem_cons.mpr ⟨⟨rfl, rfl⟩, h.isSilent⟩

/-- A prepared transfer has set its deadline last, in both directions. -/
theorem Prepared.deadline {t : Transfer} {bound : Address} (h : Prepared t direction p bound es) :
    ∃ opened, es = opened ++ [⟨.setReadDeadline (.ofMilliseconds p.timeout), .ok ()⟩,
        ⟨.setWriteDeadline (.ofMilliseconds p.timeout), .ok ()⟩] ∧
      ∀ e ∈ opened, e.IsSilent ∧ ¬ e.SetsDeadline := by
  refine ⟨openingTrace t direction ++ [⟨.createSocket, .ok ()⟩, ⟨.bindSocket t.here, .ok bound⟩,
    ⟨.connectSocket t.peer, .ok ()⟩], ?_, ?_⟩
  · rw [h.trace, List.append_assoc]
    rfl
  · cases direction <;>
      simp [openingTrace, Event.IsSilent, Event.outcome?, Event.handed?, Event.SetsDeadline]

/-- **A transfer that is set up announces the options that it acknowledges**, if its engine first
hands out nothing until it waits and leaves the options alone. -/
theorem announces_of_course {t : Transfer}
    {engine : Parameters → List Event → Option Result → Prop}
    (waits : ∀ p es r, engine p es r → handed (beforeWait es) = [])
    (leaves : ∀ p es r, engine p es r → ∀ e ∈ es, e.LeavesOptions)
    (h : Course t direction engine es r) :
    ∃ p, negotiate t.requested direction t.config.timeout = .ok p ∧
      Announces t (bareAnswer direction) p.acknowledged es r := by
  cases h with
  | @served start p bound before rest _ prepared serves =>
    have hsettled := settled_of_negotiate prepared.negotiated
    have hkinds := kinds_of_negotiate prepared.negotiated
    have hreadable := decode_encode_acknowledged hsettled
    have hknown : (∃ option ∈ t.requested, option.kind.IsKnown) ↔ p.acknowledged ≠ [] := by
      rw [Ne, ← List.map_eq_nil_iff (f := OptionEntry.kind), hkinds, requestedKinds_eq_nil_iff]
      simp
    have hsilent := prepared.isSilent_cons start
    have hgreeted := (greeted_of_serves (waits p) serves).prepend hsilent
    rw [greeting?_eq] at hgreeted
    refine ⟨p, prepared.negotiated, hkinds, hreadable, ?_, ?_, ?_, ?_⟩
    · intro hasked
      rwa [if_neg (hknown.mp hasked)] at hgreeted
    · intro hunasked
      rwa [if_pos (not_not.mp (mt hknown.mpr hunasked))] at hgreeted
    · intro datagram later hfirst
      rw [← List.cons_append, handed_append, handed_eq_nil fun e he => (hsilent e he).2] at hfirst
      rw [hknown]
      exact carriesOptions_of_serves (leaves p) hreadable serves hfirst
    · obtain ⟨opened, hbefore, hopened⟩ := prepared.deadline
      have hclock : ∀ e ∈ ⟨.readClock, start⟩ :: opened, e.IsSilent ∧ ¬ e.SetsDeadline :=
        List.forall_mem_cons.mpr ⟨⟨⟨rfl, rfl⟩, id⟩, hopened⟩
      refine ⟨⟨.readClock, start⟩ :: opened, rest, ?_,
        handed_eq_nil fun e he => (hclock e he).1.2, ?_⟩
      · rw [← hsettled.announcedDeadline, hbefore, List.cons_append, List.cons_append]
      · exact List.forall_mem_append.mpr ⟨fun e he => (hclock e he).2,
          not_setsDeadline_of_serves (leaves p) serves⟩

end Tftp
