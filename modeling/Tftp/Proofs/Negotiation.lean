import Mathlib.Data.List.Induction
import Mathlib.Data.List.Nodup
import Tftp.Negotiation
import Tftp.Proofs.RoundTrip

/-!
# What is negotiated

The acknowledged options say everything that was negotiated, so both ends of a transfer come to the
same parameters.

* `announced?` is the view of a list of options: the value it gives for a kind. `lastRequested?` is
  that of a request, where options may be repeated.
* `Suits` are the entries that are acknowledged as they stand, and `OptionEntry.OutOfRange` the
  options that are refused.
* `Parameters.Settled` ties the parameters to the acknowledged options.

Results:
* `negotiate_induction`: what negotiation keeps, option by option.
* `negotiate_ok_iff`: options are negotiated exactly if none is out of range.
* `kinds_of_negotiate`: every requested kind with a meaning is acknowledged once, in the order in
  which the kinds came first.
* `settled_of_negotiate`: the parameters are what the acknowledged options say.
* **`negotiate_acknowledged`**: the acknowledged options reach the peer as they are, and lead it to
  the same parameters.

In the specification the options to acknowledge are a part of what negotiation gives (§10.7), with
the true size put in where a file is sent (§4.2). Its open question (§9) was whether the peer might
be told something else than what is used. It is not: the acknowledgement alone leads to the
parameters again, on either side.

Out of scope: what a transfer does with the parameters, which is in `Tftp.Proofs.Transfer.Truthful`,
and a peer that does not accept what was acknowledged.
-/

namespace Tftp

/-! ## Lists of options -/

/-- The value that a list of options gives for a kind. -/
def announced? (kind : OptionKind) (options : List OptionEntry) : Option UInt64 :=
  (options.find? fun option => option.kind = kind).map OptionEntry.value

/-- The value that a request gives for a kind: the last one counts. -/
def lastRequested? (kind : OptionKind) (requested : List OptionEntry) : Option UInt64 :=
  announced? kind requested.reverse

/-- The kinds with a meaning that a list of options requests, each one where it comes first. -/
def requestedKinds (requested : List OptionEntry) : List OptionKind :=
  ((requested.map OptionEntry.kind).filter fun kind => kind.IsKnown).eraseDups

variable {option entry : OptionEntry} {requested options : List OptionEntry}

/-- Recording an option gives its value to its kind, and to no other. -/
theorem announced?_acknowledge (kind : OptionKind) (entry : OptionEntry)
    (options : List OptionEntry) :
    announced? kind (acknowledge entry options) =
      if entry.kind = kind then some entry.value else announced? kind options := by
  induction options with
  | nil => by_cases h : entry.kind = kind <;> simp [acknowledge, announced?, h]
  | cons earlier others ih =>
    unfold announced? at ih ⊢
    by_cases hsame : earlier.kind = entry.kind
    · by_cases h : entry.kind = kind <;> simp [acknowledge, hsame, h]
    · rw [acknowledge, if_neg hsame]
      by_cases h : earlier.kind = kind
      · have hne : entry.kind ≠ kind := fun heq => hsame (h.trans heq.symm)
        simp [h, hne]
      · simp [h, ih]

theorem lastRequested?_snoc (kind : OptionKind) (requested : List OptionEntry)
    (option : OptionEntry) :
    lastRequested? kind (requested ++ [option]) =
      if option.kind = kind then some option.value else lastRequested? kind requested := by
  unfold lastRequested? announced?
  by_cases h : option.kind = kind <;> simp [h]

/-- An option of a new kind comes last, and one of an old kind takes its place. -/
theorem kinds_acknowledge (entry : OptionEntry) (options : List OptionEntry) :
    (acknowledge entry options).map OptionEntry.kind =
      if entry.kind ∈ options.map OptionEntry.kind then options.map OptionEntry.kind
      else options.map OptionEntry.kind ++ [entry.kind] := by
  induction options with
  | nil => rfl
  | cons earlier others ih =>
    by_cases hsame : earlier.kind = entry.kind
    · simp [acknowledge, hsame]
    · rw [acknowledge, if_neg hsame, List.map_cons, ih]
      by_cases h : entry.kind ∈ others.map OptionEntry.kind <;> simp [h, Ne.symm hsame]

theorem mem_acknowledge (h : option ∈ acknowledge entry options) :
    option = entry ∨ option ∈ options := by
  induction options with
  | nil => exact Or.inl (List.mem_singleton.mp h)
  | cons earlier others ih =>
    rw [acknowledge] at h
    split at h
    · rcases List.mem_cons.mp h with rfl | hmem
      · exact Or.inl rfl
      · exact Or.inr (List.mem_cons_of_mem _ hmem)
    · rcases List.mem_cons.mp h with rfl | hmem
      · exact Or.inr List.mem_cons_self
      · exact (ih hmem).imp_right (List.mem_cons_of_mem _)

theorem acknowledge_of_notMem (h : entry.kind ∉ options.map OptionEntry.kind) :
    acknowledge entry options = options ++ [entry] := by
  induction options with
  | nil => rfl
  | cons earlier others ih =>
    rw [List.map_cons, List.mem_cons, not_or] at h
    rw [acknowledge, if_neg (Ne.symm h.1), ih h.2, List.cons_append]

theorem eraseDups_snoc {α : Type} [DecidableEq α] (l : List α) (a : α) :
    (l ++ [a]).eraseDups = if a ∈ l then l.eraseDups else l.eraseDups ++ [a] := by
  rw [List.eraseDups_append]
  by_cases h : a ∈ l <;> simp [List.removeAll, h, List.eraseDups_cons]

/-- One more option adds its kind, if that has a meaning and is new. -/
theorem requestedKinds_snoc (requested : List OptionEntry) (option : OptionEntry) :
    requestedKinds (requested ++ [option]) =
      if option.kind.IsKnown ∧ option.kind ∉ requestedKinds requested then
        requestedKinds requested ++ [option.kind]
      else requestedKinds requested := by
  unfold requestedKinds
  simp only [List.map_append, List.filter_append, List.mem_eraseDups]
  by_cases hknown : option.kind.IsKnown
  · rw [List.map_singleton, List.filter_singleton, decide_eq_true hknown, cond_true, eraseDups_snoc]
    by_cases hmem : option.kind ∈ (requested.map OptionEntry.kind).filter fun kind => kind.IsKnown
    · rw [if_pos hmem, if_neg fun hnew => hnew.2 hmem]
    · rw [if_neg hmem, if_pos ⟨hknown, hmem⟩]
  · simp [hknown]

theorem requestedKinds_eq_nil_iff :
    requestedKinds requested = [] ↔ ∀ option ∈ requested, ¬ option.kind.IsKnown := by
  simp [requestedKinds, List.eq_nil_iff_forall_not_mem]

/-! ## One option -/

/-- The option that a requested one is acknowledged as: a sender gives the length of its file. -/
def effective (direction : Direction) (option : OptionEntry) : OptionEntry :=
  match direction, option.kind with
  | .send total, .transferSize => ⟨.transferSize, total⟩
  | _, _ => option

/-- An entry that is acknowledged as it stands. -/
def Suits (direction : Direction) (entry : OptionEntry) : Prop :=
  match entry.kind with
  | .blockSize => ValidBlockSize entry.value
  | .transferSize => ∀ total, direction = .send total → entry.value = total
  | .timeout => ValidTimeout entry.value
  | .other _ => False

/-- An option that no transfer accepts. -/
def OptionEntry.OutOfRange (option : OptionEntry) : Prop :=
  match option.kind with
  | .blockSize => option.value.toNat < 8 ∨ 65464 < option.value.toNat
  | .timeout => option.value.toNat = 0 ∨ 255 < option.value.toNat
  | .transferSize | .other _ => False

namespace Parameters

/-- The parameters with one more acknowledged option. -/
def record (p : Parameters) (entry : OptionEntry) : Parameters :=
  match entry with
  | ⟨.blockSize, value⟩ =>
    { p with blockSize := value.toNat, acknowledged := acknowledge entry p.acknowledged }
  | ⟨.transferSize, value⟩ =>
    { p with transferSize := value, acknowledged := acknowledge entry p.acknowledged }
  | ⟨.timeout, value⟩ =>
    { p with timeout := value.toNat * 1000, acknowledged := acknowledge entry p.acknowledged }
  | ⟨.other _, _⟩ => p

end Parameters

variable {direction : Direction} {timeout : Int} {p q : Parameters}

theorem kind_effective (direction : Direction) (option : OptionEntry) :
    (effective direction option).kind = option.kind := by
  obtain ⟨kind, value⟩ := option
  cases direction <;> cases kind <;> rfl

theorem Suits.known (h : Suits direction entry) : entry.kind.IsKnown := by
  obtain ⟨kind, value⟩ := entry
  cases kind with
  | other tag => exact h.elim
  | blockSize | transferSize | timeout => trivial

/-- What suits a sender suits its peer, which knows nothing of the length of the file. -/
theorem Suits.receive (h : Suits direction entry) : Suits .receive entry := by
  obtain ⟨kind, value⟩ := entry
  cases kind with
  | transferSize => exact fun total hsend => nomatch hsend
  | blockSize | timeout | other => exact h

theorem Suits.effective_eq (h : Suits direction entry) : effective direction entry = entry := by
  obtain ⟨kind, value⟩ := entry
  cases direction with
  | receive => rfl
  | send total =>
    cases kind with
    | transferSize =>
      obtain rfl : value = total := h total rfl
      rfl
    | blockSize | timeout | other => rfl

theorem validBlockSize_iff {value : UInt64} :
    ValidBlockSize value ↔ 8 ≤ value.toNat ∧ value.toNat ≤ 65464 := by
  unfold ValidBlockSize
  rw [UInt64.le_iff_toNat_le, UInt64.le_iff_toNat_le]
  rfl

theorem validTimeout_iff {value : UInt64} :
    ValidTimeout value ↔ 1 ≤ value.toNat ∧ value.toNat ≤ 255 := by
  unfold ValidTimeout
  rw [UInt64.le_iff_toNat_le, UInt64.le_iff_toNat_le]
  rfl

theorem OptionEntry.OutOfRange.known (h : option.OutOfRange) : option.kind.IsKnown := by
  obtain ⟨kind, value⟩ := option
  cases kind with
  | other tag => exact h.elim
  | blockSize | transferSize | timeout => trivial

/-- What is acknowledged suits exactly if the option is in range. -/
theorem suits_effective_iff (known : option.kind.IsKnown) :
    Suits direction (effective direction option) ↔ ¬ option.OutOfRange := by
  obtain ⟨kind, value⟩ := option
  cases kind with
  | other tag => exact known.elim
  | blockSize =>
    have hrange : ValidBlockSize value ↔ ¬ OptionEntry.OutOfRange ⟨.blockSize, value⟩ := by
      rw [validBlockSize_iff, OptionEntry.OutOfRange, not_or, Nat.not_lt, Nat.not_lt]
    cases direction <;> exact hrange
  | transferSize =>
    refine iff_of_true ?_ id
    cases direction with
    | receive => exact fun total hsend => nomatch hsend
    | send size =>
      rintro total ⟨⟩
      rfl
  | timeout =>
    have hrange : ValidTimeout value ↔ ¬ OptionEntry.OutOfRange ⟨.timeout, value⟩ := by
      rw [validTimeout_iff, OptionEntry.OutOfRange, not_or, Nat.not_lt, Nat.one_le_iff_ne_zero]
    cases direction <;> exact hrange

theorem acknowledged_record (h : entry.kind.IsKnown) :
    (p.record entry).acknowledged = acknowledge entry p.acknowledged := by
  obtain ⟨kind, value⟩ := entry
  cases kind with
  | other tag => exact h.elim
  | blockSize | transferSize | timeout => rfl

theorem accept_of_unknown (h : ¬ option.kind.IsKnown) : p.accept direction option = .ok p := by
  obtain ⟨kind, value⟩ := option
  cases kind with
  | other tag => rfl
  | blockSize | transferSize | timeout => exact absurd trivial h

/-- An option with a meaning is recorded as it is effective, if that is in range. -/
theorem accept_eq_ok_iff (h : option.kind.IsKnown) :
    p.accept direction option = .ok q ↔
      Suits direction (effective direction option) ∧ q = p.record (effective direction option) := by
  obtain ⟨kind, value⟩ := option
  cases kind with
  | other tag => exact h.elim
  | blockSize =>
    by_cases hvalid : ValidBlockSize value <;> cases direction <;>
      simp [Parameters.accept, Parameters.record, effective, Suits, hvalid, eq_comm]
  | transferSize =>
    cases direction <;>
      simp [Parameters.accept, Parameters.record, effective, Suits, eq_comm]
  | timeout =>
    by_cases hvalid : ValidTimeout value <;> cases direction <;>
      simp [Parameters.accept, Parameters.record, effective, Suits, hvalid, eq_comm]

/-! ## All options -/

theorem negotiate_snoc_eq_ok_iff :
    negotiate (requested ++ [option]) direction timeout = .ok q ↔
      ∃ p, negotiate requested direction timeout = .ok p ∧ p.accept direction option = .ok q := by
  unfold negotiate
  rw [List.foldlM_append, bind_eq_ok_iff]
  simp

/-- **Induction over negotiation**: what holds at the start and is kept by every option that is
passed over or recorded holds of what is negotiated. -/
theorem negotiate_induction {P : List OptionEntry → Parameters → Prop}
    (h : negotiate requested direction timeout = .ok q) (start : P [] (.default timeout))
    (skip : ∀ {requested p option}, P requested p → ¬ option.kind.IsKnown →
      P (requested ++ [option]) p)
    (record : ∀ {requested p option}, P requested p → option.kind.IsKnown →
      Suits direction (effective direction option) →
      P (requested ++ [option]) (p.record (effective direction option))) : P requested q := by
  induction requested using List.reverseRecOn generalizing q with
  | nil =>
    cases h
    exact start
  | append_singleton requested option ih =>
    obtain ⟨p, hp, haccept⟩ := negotiate_snoc_eq_ok_iff.mp h
    by_cases hknown : option.kind.IsKnown
    · obtain ⟨hsuits, rfl⟩ := (accept_eq_ok_iff hknown).mp haccept
      exact record (ih hp) hknown hsuits
    · rw [accept_of_unknown hknown] at haccept
      cases haccept
      exact skip (ih hp) hknown

/-- **Options are negotiated** exactly if they are all in range. -/
theorem negotiate_ok_iff :
    (∃ p, negotiate requested direction timeout = .ok p) ↔
      ∀ option ∈ requested, ¬ option.OutOfRange := by
  induction requested using List.reverseRecOn with
  | nil => exact ⟨fun _ => List.forall_mem_nil _, fun _ => ⟨_, rfl⟩⟩
  | append_singleton requested option ih =>
    rw [List.forall_mem_append, List.forall_mem_singleton, ← ih]
    constructor
    · rintro ⟨q, hq⟩
      obtain ⟨p, hp, haccept⟩ := negotiate_snoc_eq_ok_iff.mp hq
      refine ⟨⟨p, hp⟩, fun hout => ?_⟩
      exact (suits_effective_iff hout.known).mp ((accept_eq_ok_iff hout.known).mp haccept).1 hout
    · rintro ⟨⟨p, hp⟩, hin⟩
      by_cases hknown : option.kind.IsKnown
      · have hsuits : Suits direction (effective direction option) :=
          (suits_effective_iff hknown).mpr hin
        have haccept := (accept_eq_ok_iff (p := p) hknown).mpr ⟨hsuits, rfl⟩
        exact ⟨_, negotiate_snoc_eq_ok_iff.mpr ⟨p, hp, haccept⟩⟩
      · exact ⟨p, negotiate_snoc_eq_ok_iff.mpr ⟨p, hp, accept_of_unknown hknown⟩⟩

theorem negotiate_error_iff :
    (∃ failure, negotiate requested direction timeout = .error failure) ↔
      ∃ option ∈ requested, option.OutOfRange := by
  have hok : (∃ p, negotiate requested direction timeout = .ok p) ↔ _ := negotiate_ok_iff
  cases hnegotiate : negotiate requested direction timeout with
  | ok p =>
    have hin := hok.mp ⟨p, hnegotiate⟩
    exact ⟨nofun, fun ⟨option, hmem, hout⟩ => absurd hout (hin option hmem)⟩
  | error failure =>
    refine ⟨fun _ => ?_, fun _ => ⟨failure, rfl⟩⟩
    by_contra hnone
    obtain ⟨p, hp⟩ := hok.mpr fun option hmem hout => hnone ⟨option, hmem, hout⟩
    rw [hnegotiate] at hp
    cases hp

/-- Every requested kind with a meaning is acknowledged once, in the order in which the kinds came
first. -/
theorem kinds_of_negotiate (h : negotiate requested direction timeout = .ok p) :
    p.acknowledged.map OptionEntry.kind = requestedKinds requested := by
  refine negotiate_induction (P := fun requested p =>
    p.acknowledged.map OptionEntry.kind = requestedKinds requested) h rfl ?_ ?_
  · intro requested p option ih hknown
    rw [requestedKinds_snoc, if_neg fun hnew => hknown hnew.1, ih]
  · intro requested p option ih hknown hsuits
    rw [acknowledged_record hsuits.known, kinds_acknowledge, kind_effective, requestedKinds_snoc,
      ih]
    by_cases hmem : option.kind ∈ requestedKinds requested <;> simp [hmem, hknown]

/-! ## The parameters and the acknowledged options -/

/-- **The parameters are what the acknowledged options say**: each sets its own parameter, and
without it the parameter has its default. -/
structure Parameters.Settled (direction : Direction) (timeout : Int) (p : Parameters) : Prop where
  blockSize : p.blockSize =
    (announced? .blockSize p.acknowledged).elim defaultBlockSize UInt64.toNat
  transferSize : p.transferSize = (announced? .transferSize p.acknowledged).getD 0
  timeout : p.timeout =
    (announced? .timeout p.acknowledged).elim timeout fun seconds => seconds.toNat * 1000
  suits : ∀ entry ∈ p.acknowledged, Suits direction entry
  distinct : (p.acknowledged.map OptionEntry.kind).Nodup

theorem Parameters.Settled.record (h : p.Settled direction timeout)
    (suits : Suits direction entry) :
    (p.record entry).Settled direction timeout := by
  have hack := acknowledged_record (p := p) suits.known
  refine ⟨?_, ?_, ?_, ?_, ?_⟩
  · rw [hack, announced?_acknowledge]
    obtain ⟨kind, value⟩ := entry
    cases kind <;> simp [Parameters.record, h.blockSize]
  · rw [hack, announced?_acknowledge]
    obtain ⟨kind, value⟩ := entry
    cases kind <;> simp [Parameters.record, h.transferSize]
  · rw [hack, announced?_acknowledge]
    obtain ⟨kind, value⟩ := entry
    cases kind <;> simp [Parameters.record, h.timeout]
  · intro option hmem
    rw [hack] at hmem
    rcases mem_acknowledge hmem with rfl | hearlier
    · exact suits
    · exact h.suits option hearlier
  · rw [hack, kinds_acknowledge]
    by_cases hmem : entry.kind ∈ p.acknowledged.map OptionEntry.kind
    · rw [if_pos hmem]
      exact h.distinct
    · rw [if_neg hmem, List.nodup_append]
      refine ⟨h.distinct, List.nodup_singleton _, ?_⟩
      intro kind hkind last hlast heq
      rw [heq, List.mem_singleton.mp hlast] at hkind
      exact hmem hkind

theorem settled_of_negotiate (h : negotiate requested direction timeout = .ok p) :
    p.Settled direction timeout := by
  refine negotiate_induction (P := fun _ p => p.Settled direction timeout) h ?_ ?_ ?_
  · exact ⟨rfl, rfl, rfl, fun entry hmem => absurd hmem List.not_mem_nil, List.nodup_nil⟩
  · intro requested p option ih _
    exact ih
  · intro requested p option ih _ hsuits
    exact ih.record hsuits

theorem effective_of_ne (h : option.kind ≠ .transferSize) :
    effective direction option = option := by
  obtain ⟨kind, value⟩ := option
  cases kind with
  | transferSize => exact absurd rfl h
  | blockSize | timeout | other => cases direction <;> rfl

/-- The last request for a kind is acknowledged, as it is effective. -/
theorem announced?_eq_effective (h : negotiate requested direction timeout = .ok p)
    {kind : OptionKind} (known : kind.IsKnown) :
    announced? kind p.acknowledged = (lastRequested? kind requested).map fun value =>
      (effective direction ⟨kind, value⟩).value := by
  refine negotiate_induction (P := fun requested p => announced? kind p.acknowledged =
    (lastRequested? kind requested).map fun value => (effective direction ⟨kind, value⟩).value)
    h rfl ?_ ?_
  · intro requested p option ih hknown
    have hother : option.kind ≠ kind := fun hkind => hknown (hkind ▸ known)
    rw [lastRequested?_snoc, if_neg hother, ih]
  · intro requested p option ih _ hsuits
    rw [acknowledged_record hsuits.known, announced?_acknowledge, kind_effective,
      lastRequested?_snoc, ih]
    by_cases hkind : option.kind = kind
    · obtain rfl := hkind
      rw [if_pos rfl, if_pos rfl, Option.map_some]
    · rw [if_neg hkind, if_neg hkind]

/-- The last request for a kind is acknowledged, except that a sender gives the length of its
file. -/
theorem announced?_of_negotiate (h : negotiate requested direction timeout = .ok p)
    (kind : OptionKind) (known : kind.IsKnown) (ne : kind ≠ .transferSize) :
    announced? kind p.acknowledged = lastRequested? kind requested := by
  have heffective : (fun value => (effective direction ⟨kind, value⟩).value) = id := by
    funext value
    rw [effective_of_ne ne]
    rfl
  rw [announced?_eq_effective h known, heffective, Option.map_id_fun, id_eq]

/-- **The deadline** is what the last timeout option asks for, otherwise that of the
configuration. -/
theorem negotiated_timeout (h : negotiate requested direction timeout = .ok p) :
    p.timeout =
      (lastRequested? .timeout requested).elim timeout fun seconds => seconds.toNat * 1000 := by
  rw [(settled_of_negotiate h).timeout, announced?_of_negotiate h .timeout trivial nofun]

/-- **The block size** is what the last such option asks for, otherwise the default one. -/
theorem negotiated_blockSize (h : negotiate requested direction timeout = .ok p) :
    p.blockSize = (lastRequested? .blockSize requested).elim defaultBlockSize UInt64.toNat := by
  rw [(settled_of_negotiate h).blockSize, announced?_of_negotiate h .blockSize trivial nofun]

theorem mem_of_announced? {kind : OptionKind} {value : UInt64}
    (h : announced? kind options = some value) : ⟨kind, value⟩ ∈ options := by
  obtain ⟨option, hfind, rfl⟩ := Option.map_eq_some_iff.mp h
  have hkind := List.find?_some hfind
  rw [decide_eq_true_eq] at hkind
  rw [← hkind]
  exact List.mem_of_find?_eq_some hfind

theorem Parameters.Settled.blockSize_range (h : p.Settled direction timeout) :
    8 ≤ p.blockSize ∧ p.blockSize ≤ 65464 := by
  rw [h.blockSize]
  cases hvalue : announced? .blockSize p.acknowledged with
  | none => decide
  | some value =>
    have hvalid : ValidBlockSize value := h.suits _ (mem_of_announced? hvalue)
    exact validBlockSize_iff.mp hvalid

theorem Parameters.Settled.blockSize_pos (h : p.Settled direction timeout) : 0 < p.blockSize :=
  Nat.lt_of_lt_of_le (by decide) h.blockSize_range.1

theorem Parameters.Settled.timeout_pos (h : p.Settled direction timeout) (pos : 0 < timeout) :
    0 < p.timeout := by
  rw [h.timeout]
  cases hvalue : announced? .timeout p.acknowledged with
  | none => exact pos
  | some value =>
    have hvalid : ValidTimeout value := h.suits _ (mem_of_announced? hvalue)
    have hpositive := (validTimeout_iff.mp hvalid).1
    show (0 : Int) < value.toNat * 1000
    omega

/-- The acknowledged options determine the parameters. -/
theorem Parameters.Settled.eq {direction' : Direction} (hp : p.Settled direction timeout)
    (hq : q.Settled direction' timeout) (same : p.acknowledged = q.acknowledged) : p = q := by
  have hblockSize := hp.blockSize
  have htransferSize := hp.transferSize
  have htimeout := hp.timeout
  rw [same, ← hq.blockSize] at hblockSize
  rw [same, ← hq.transferSize] at htransferSize
  rw [same, ← hq.timeout] at htimeout
  obtain ⟨blockSize, transferSize, deadline, acknowledged⟩ := p
  simp_all

/-- Entries that suit the direction are all acknowledged, as they stand. -/
theorem negotiate_of_suits (suits : ∀ entry ∈ options, Suits direction entry)
    (distinct : (options.map OptionEntry.kind).Nodup) :
    ∃ p, negotiate options direction timeout = .ok p ∧ p.acknowledged = options := by
  induction options using List.reverseRecOn with
  | nil => exact ⟨_, rfl, rfl⟩
  | append_singleton earlier entry ih =>
    rw [List.forall_mem_append, List.forall_mem_singleton] at suits
    obtain ⟨hearlier, hentry⟩ := suits
    rw [List.map_append, List.map_singleton, List.nodup_append] at distinct
    obtain ⟨hdistinct, -, hnew⟩ := distinct
    obtain ⟨p, hp, hacknowledged⟩ := ih hearlier hdistinct
    refine ⟨p.record entry, negotiate_snoc_eq_ok_iff.mpr ⟨p, hp, ?_⟩, ?_⟩
    · rw [accept_eq_ok_iff hentry.known, hentry.effective_eq]
      exact ⟨hentry, rfl⟩
    · rw [acknowledged_record hentry.known, hacknowledged]
      refine acknowledge_of_notMem fun hmem => ?_
      exact hnew _ hmem _ (List.mem_singleton_self _) rfl

/-- The acknowledged options reach the peer as they are. -/
theorem decode_encode_acknowledged (h : p.Settled direction timeout) :
    Packet.decode (Packet.optionAck p.acknowledged).encode = .ok (.optionAck p.acknowledged) :=
  decode_of_written (written_encode fun entry hentry => (h.suits entry hentry).known)

/-- The acknowledged options lead to the same parameters again, at an end for which they suit. -/
theorem negotiate_of_settled {direction' : Direction} (h : p.Settled direction timeout)
    (suits : ∀ entry ∈ p.acknowledged, Suits direction' entry) :
    negotiate p.acknowledged direction' timeout = .ok p := by
  obtain ⟨q, hq, hsame⟩ : ∃ q, negotiate p.acknowledged direction' timeout = .ok q ∧
      q.acknowledged = p.acknowledged := negotiate_of_suits suits h.distinct
  rw [hq, (settled_of_negotiate hq).eq h hsame]

/-- **Both ends agree after the exchange of options.** Whatever was requested, the acknowledged
options reach the peer as they are, and lead to the same parameters again, in every field, both at
the peer that receives the file and at this end. -/
theorem negotiate_acknowledged (h : negotiate requested direction timeout = .ok p) :
    Packet.decode (Packet.optionAck p.acknowledged).encode = .ok (.optionAck p.acknowledged) ∧
      negotiate p.acknowledged .receive timeout = .ok p ∧
      negotiate p.acknowledged direction timeout = .ok p := by
  have hsettled := settled_of_negotiate h
  refine ⟨decode_encode_acknowledged hsettled, ?_, ?_⟩
  · exact negotiate_of_settled hsettled fun entry hentry => (hsettled.suits entry hentry).receive
  · exact negotiate_of_settled hsettled hsettled.suits

/-- A request that asks for two block sizes, and for the length of the file. -/
def repeatedBlockSize : List OptionEntry :=
  [⟨.blockSize, 1024⟩, ⟨.transferSize, 0⟩, ⟨.blockSize, 512⟩]

/-- Both ends agree on the later block size and on the true length. -/
theorem repeatedBlockSize_acknowledged :
    Packet.decode (Packet.request .read [102] defaultMode repeatedBlockSize).encode
        = .ok (.request .read [102] defaultMode repeatedBlockSize) ∧
      negotiate repeatedBlockSize (.send 1500) 5000
        = .ok ⟨512, 1500, 5000, [⟨.blockSize, 512⟩, ⟨.transferSize, 1500⟩]⟩ ∧
      negotiate [⟨.blockSize, 512⟩, ⟨.transferSize, 1500⟩] .receive 5000
        = .ok ⟨512, 1500, 5000, [⟨.blockSize, 512⟩, ⟨.transferSize, 1500⟩]⟩ := by
  have hplain : (Packet.request .read [102] defaultMode repeatedBlockSize).Plain := by
    refine ⟨by decide, by decide, ?_⟩
    simp [repeatedBlockSize, OptionKind.IsKnown]
  have hnegotiated : negotiate repeatedBlockSize (.send 1500) 5000
      = .ok ⟨512, 1500, 5000, [⟨.blockSize, 512⟩, ⟨.transferSize, 1500⟩]⟩ := by decide
  exact ⟨decode_of_written (written_encode hplain), hnegotiated,
    (negotiate_acknowledged hnegotiated).2.1⟩

end Tftp
