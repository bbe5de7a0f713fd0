import Tftp.Proofs.Negotiation
import Tftp.Proofs.Wording

/-!
# What negotiation gives

Negotiation goes through the requested options once and updates the parameters as it goes. What
comes out can be said without the order of the updates: the first option that is out of range
refuses the request, and otherwise each parameter is determined by the last option of its kind.

* `OptionEntry.Refused` says for which failure an option is refused.
* `FirstRefused` finds the first such option of a request.
* `Parameters.Specified` is what a request that is not refused leads to.

Results:
* `negotiate_eq_error_iff`: a request is refused for its first option that is out of range.
* `specified_of_negotiate` and `Parameters.Specified.eq`: the parameters are the specified ones,
  and there are no others.
* **`negotiate_specified`**: what negotiation gives, for every request.

The ranges are those of the specification (§10.7) and of the options themselves: block sizes of RFC
2348 and timeouts of RFC 2349. §4.2 and §10.7 refuse only a timeout of 0. One of more than 255
seconds is refused here too, since no peer can mean it, and so the specification as stated here
differs from those lines in that point.

Out of scope: requests that are not lists of options. A request with an option value that is no
number is malformed, and no request at all (§10.6).
-/

namespace Tftp

open Bytes

/-! ## Refusals -/

/-- The option is out of range, and the failure names it. -/
inductive OptionEntry.Refused : OptionEntry → Failure → Prop where
  | blockSize {value : UInt64} (range : value.toNat < 8 ∨ 65464 < value.toNat) :
      Refused ⟨.blockSize, value⟩ (.invalidBlockSize value)
  | timeout {value : UInt64} (range : value.toNat = 0 ∨ 255 < value.toNat) :
      Refused ⟨.timeout, value⟩ (.invalidTimeout value)

/-- The failure names the first option of a request that is out of range. -/
def FirstRefused (requested : List OptionEntry) (failure : Failure) : Prop :=
  ∃ before option after, requested = before ++ option :: after ∧
    (∀ earlier ∈ before, ¬ earlier.OutOfRange) ∧ option.Refused failure

variable {option : OptionEntry} {requested : List OptionEntry} {direction : Direction}
  {timeout : Int} {p q : Parameters} {failure : Failure}

theorem OptionEntry.outOfRange_iff : option.OutOfRange ↔ ∃ failure, option.Refused failure := by
  constructor
  · obtain ⟨kind, value⟩ := option
    intro h
    cases kind with
    | blockSize => exact ⟨_, .blockSize h⟩
    | timeout => exact ⟨_, .timeout h⟩
    | transferSize | other => exact h.elim
  · rintro ⟨failure, h⟩
    cases h with
    | blockSize range | timeout range => exact range

/-- The message names the kind and the value of the option. -/
theorem OptionEntry.Refused.message (h : option.Refused failure) :
    failure.kind = .invalidOption ∧ failure.message =
      ascii "Invalid " ++ option.kind.name ++ ascii " value " ++ decimal option.value.toNat := by
  cases h with
  | blockSize | timeout =>
    refine ⟨rfl, Failure.message_of_zero_notMem ?_⟩
    rw [Failure.wording, List.mem_append, not_or]
    exact ⟨by decide, zero_notMem_decimal _⟩

/-- An option is refused exactly if it is out of range, whatever came before it. -/
theorem accept_eq_error_iff :
    p.accept direction option = .error failure ↔ option.Refused failure := by
  constructor
  · intro h
    obtain ⟨kind, value⟩ := option
    unfold Parameters.accept at h
    cases kind with
    | blockSize =>
      dsimp only at h
      split at h
      · cases h
      · rename_i hinvalid
        cases h
        rw [validBlockSize_iff] at hinvalid
        exact .blockSize (by omega)
    | timeout =>
      dsimp only at h
      split at h
      · cases h
      · rename_i hinvalid
        cases h
        rw [validTimeout_iff] at hinvalid
        exact .timeout (by omega)
    | transferSize | other => cases h
  · intro h
    unfold Parameters.accept
    cases h with
    | @blockSize value range =>
      have hinvalid : ¬ ValidBlockSize value := by
        rw [validBlockSize_iff]
        omega
      exact if_neg hinvalid
    | @timeout value range =>
      have hinvalid : ¬ ValidTimeout value := by
        rw [validTimeout_iff]
        omega
      exact if_neg hinvalid

/-- The rest of a request is refused for its first option that is out of range. -/
theorem foldlM_accept_eq_error_iff :
    requested.foldlM (Parameters.accept direction) p = .error failure ↔
      FirstRefused requested failure := by
  induction requested generalizing p with
  | nil => simp [FirstRefused, pure, Except.pure]
  | cons option rest ih =>
    rw [List.foldlM_cons]
    cases haccept : p.accept direction option with
    | error reason =>
      have hrefused := accept_eq_error_iff.mp haccept
      constructor
      · rintro ⟨⟩
        exact ⟨[], option, rest, rfl, List.forall_mem_nil _, hrefused⟩
      · rintro ⟨before, first, after, hsplit, hbefore, hfirst⟩
        cases before with
        | nil =>
          cases hsplit
          exact haccept.symm.trans (accept_eq_error_iff.mpr hfirst)
        | cons earlier before =>
          cases hsplit
          exact absurd (OptionEntry.outOfRange_iff.mpr ⟨reason, hrefused⟩)
            (hbefore _ List.mem_cons_self)
    | ok q =>
      have hinRange : ¬ option.OutOfRange := by
        intro hout
        obtain ⟨reason, hrefused⟩ := OptionEntry.outOfRange_iff.mp hout
        rw [accept_eq_error_iff.mpr hrefused] at haccept
        cases haccept
      refine (ih (p := q)).trans ⟨?_, ?_⟩
      · rintro ⟨before, first, after, rfl, hbefore, hfirst⟩
        exact ⟨option :: before, first, after, rfl,
          List.forall_mem_cons.mpr ⟨hinRange, hbefore⟩, hfirst⟩
      · rintro ⟨before, first, after, hsplit, hbefore, hfirst⟩
        cases before with
        | nil =>
          cases hsplit
          exact absurd (OptionEntry.outOfRange_iff.mpr ⟨failure, hfirst⟩) hinRange
        | cons earlier before =>
          cases hsplit
          exact ⟨before, first, after, rfl, (List.forall_mem_cons.mp hbefore).2, hfirst⟩

/-- **A request is refused** for its first option that is out of range. -/
theorem negotiate_eq_error_iff :
    negotiate requested direction timeout = .error failure ↔ FirstRefused requested failure :=
  foldlM_accept_eq_error_iff

/-! ## The parameters -/

/-- The value that is granted for a requested kind: the last request counts, except that a sender
gives the length of its file. -/
def grantedValue (requested : List OptionEntry) (direction : Direction) (kind : OptionKind) :
    UInt64 :=
  (lastRequested? kind requested).elim 0 fun value => (effective direction ⟨kind, value⟩).value

/-- What a request leads to that is not refused. -/
structure Parameters.Specified (requested : List OptionEntry) (direction : Direction)
    (timeout : Int) (p : Parameters) : Prop where
  blockSize : p.blockSize = (lastRequested? .blockSize requested).elim 512 UInt64.toNat
  timeout : p.timeout =
    (lastRequested? .timeout requested).elim timeout fun seconds => seconds.toNat * 1000
  transferSize : p.transferSize =
    (lastRequested? .transferSize requested).elim 0 fun value =>
      match direction with
      | .send total => total
      | .receive => value
  acknowledged : p.acknowledged =
    (requestedKinds requested).map fun kind => ⟨kind, grantedValue requested direction kind⟩

/-- What is specified determines the parameters. -/
theorem Parameters.Specified.eq (hp : p.Specified requested direction timeout)
    (hq : q.Specified requested direction timeout) : p = q := by
  obtain ⟨blockSize, transferSize, deadline, acknowledged⟩ := p
  obtain ⟨blockSize', transferSize', deadline', acknowledged'⟩ := q
  obtain rfl := hp.blockSize.trans hq.blockSize.symm
  obtain rfl := hp.transferSize.trans hq.transferSize.symm
  obtain rfl := hp.timeout.trans hq.timeout.symm
  obtain rfl := hp.acknowledged.trans hq.acknowledged.symm
  rfl

theorem announced?_of_mem {options : List OptionEntry} {entry : OptionEntry}
    (distinct : (options.map OptionEntry.kind).Nodup) (h : entry ∈ options) :
    announced? entry.kind options = some entry.value := by
  induction options with
  | nil => cases h
  | cons first rest ih =>
    rw [List.map_cons, List.nodup_cons] at distinct
    unfold announced? at ih ⊢
    rcases List.mem_cons.mp h with rfl | hrest
    · simp
    · have hne : first.kind ≠ entry.kind := fun heq =>
        distinct.1 (List.mem_map.mpr ⟨entry, hrest, heq.symm⟩)
      rw [List.find?_cons_of_neg (by simpa using hne)]
      exact ih distinct.2 hrest

/-- Every acknowledged option carries the value that is granted for its kind. -/
theorem value_of_negotiate (h : negotiate requested direction timeout = .ok p) {entry : OptionEntry}
    (mem : entry ∈ p.acknowledged) : entry.value = grantedValue requested direction entry.kind := by
  have hsettled := settled_of_negotiate h
  have hvalue := announced?_of_mem hsettled.distinct mem
  rw [announced?_eq_effective h (hsettled.suits entry mem).known] at hvalue
  obtain ⟨value, hlast, heffective⟩ := Option.map_eq_some_iff.mp hvalue
  rw [grantedValue, hlast, ← heffective]
  rfl

/-- Negotiated parameters are as specified. -/
theorem specified_of_negotiate (h : negotiate requested direction timeout = .ok p) :
    p.Specified requested direction timeout := by
  refine ⟨negotiated_blockSize h, negotiated_timeout h, ?_, ?_⟩
  · have hknown : OptionKind.transferSize.IsKnown := trivial
    rw [(settled_of_negotiate h).transferSize, announced?_eq_effective h hknown]
    cases lastRequested? .transferSize requested with
    | none => rfl
    | some value => cases direction <;> rfl
  · have hvalues : ∀ entry ∈ p.acknowledged,
        (⟨entry.kind, grantedValue requested direction entry.kind⟩ : OptionEntry) = id entry :=
      fun entry mem => congrArg (OptionEntry.mk entry.kind) (value_of_negotiate h mem).symm
    rw [← kinds_of_negotiate h, List.map_map]
    exact ((List.map_congr_left hvalues).trans (List.map_id _)).symm

/-- **What negotiation gives**, for every request, in either direction and with any default
deadline:

* a request is refused for its first option that is out of range, with a failure that names the kind
  and the value of that option; what comes later in the request does not matter;
* any other request is granted. The last block size, the last timeout and the last transfer size
  count, the last one replaced by the length of the file when sending; each kind with a meaning that
  is requested is acknowledged once, in the order in which the kinds came first, with the value that
  is granted. -/
theorem negotiate_specified (requested : List OptionEntry) (direction : Direction) (timeout : Int) :
    (∀ failure, negotiate requested direction timeout = .error failure ↔
        FirstRefused requested failure) ∧
      (∀ option failure, OptionEntry.Refused option failure → failure.kind = .invalidOption ∧
        failure.message = ascii "Invalid " ++ option.kind.name ++ ascii " value "
          ++ decimal option.value.toNat) ∧
      ((∃ failure, negotiate requested direction timeout = .error failure) ↔
        ∃ option ∈ requested, option.OutOfRange) ∧
      ∀ p, negotiate requested direction timeout = .ok p ↔
        (∀ option ∈ requested, ¬ option.OutOfRange) ∧
          p.Specified requested direction timeout := by
  refine ⟨fun _ => negotiate_eq_error_iff, fun _ _ => OptionEntry.Refused.message,
    negotiate_error_iff, fun p => ⟨fun h => ?_, ?_⟩⟩
  · exact ⟨negotiate_ok_iff.mp ⟨p, h⟩, specified_of_negotiate h⟩
  · rintro ⟨inRange, hp⟩
    obtain ⟨q, hq⟩ := negotiate_ok_iff.mpr inRange
    rw [hq, (specified_of_negotiate hq).eq hp]

/-- A request of three kinds, in which two block sizes are out of range. -/
def mixedRequest : List OptionEntry :=
  [⟨.other 7, 1⟩, ⟨.timeout, 2⟩, ⟨.blockSize, 4⟩, ⟨.blockSize, 512⟩, ⟨.blockSize, 65465⟩]

/-- It is refused for the first of them. Without them, the last timeout counts, and the kinds are
acknowledged in the order in which they came first. -/
theorem mixedRequest_specified :
    OptionEntry.Refused ⟨.blockSize, 4⟩ (.invalidBlockSize 4) ∧
      negotiate mixedRequest .receive 5000 = .error (.invalidBlockSize 4) ∧
      (Failure.invalidBlockSize 4).message = ascii "Invalid blksize value 4" ∧
      negotiate [⟨.timeout, 2⟩, ⟨.blockSize, 8⟩, ⟨.other 7, 1⟩, ⟨.timeout, 255⟩] .receive 5000
        = .ok ⟨8, 0, 255000, [⟨.timeout, 255⟩, ⟨.blockSize, 8⟩]⟩ := by
  have hrefused : OptionEntry.Refused ⟨.blockSize, 4⟩ (.invalidBlockSize 4) :=
    .blockSize (by decide)
  obtain ⟨herror, hmessage, -, -⟩ := negotiate_specified mixedRequest .receive 5000
  obtain ⟨-, -, -, hok⟩ := negotiate_specified
    [⟨.timeout, 2⟩, ⟨.blockSize, 8⟩, ⟨.other 7, 1⟩, ⟨.timeout, 255⟩] .receive 5000
  refine ⟨hrefused, (herror _).mpr ?_, (hmessage _ _ hrefused).2, (hok _).mpr ⟨?_, ?_⟩⟩
  · refine ⟨[⟨.other 7, 1⟩, ⟨.timeout, 2⟩], _, _, rfl, ?_, hrefused⟩
    simp [OptionEntry.OutOfRange]
  · simp [OptionEntry.OutOfRange]
  · exact ⟨rfl, rfl, rfl, by decide⟩

end Tftp
