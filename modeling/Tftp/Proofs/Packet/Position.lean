import Tftp.Arrival
import Tftp.Proofs.RoundTrip

/-!
# Reading by position

`Packet.decode` takes a datagram apart from its front. A reader that holds the datagram in one piece
keeps a position in it instead: each step looks at bytes from its position on, and leaves the
position behind what it has read. Every such look lies inside the datagram, and reading ends.

* `Look` is a look at a datagram, and `Look.Inside` says that it lies inside.
* `Reading` is what a reader looked at, and what it came to.
* `Packet.decodeAt` reads a datagram by position. It would read whatever follows the datagram, and
  give up if there were too many options.
* `Reading.Yields` says that all looks of a reading lie inside, and what it comes to;
  `Reading.Matches` that this is what a decoder comes to.

Results:
* `yields_bind_matches`: a reader follows a decoder step by step.
* `yields_textAt`: a text is looked for inside the datagram, and moves the position forward.
* `yields_optionsAt`: a pair takes two bytes, so half as many pairs as bytes are enough.
* **`decode_inside`**: reading by position stays inside the datagram, and comes to what
  `Packet.decode` gives.

A decoder must never fail on what a peer makes up (specification §4.1), and must not look beyond the
datagram in any case. `Packet.decode` is safe by its types, which also hide how a buffer is read.
`Packet.decodeAt` has the positions and the lengths that such a reader computes with, in whole
numbers and with a subtraction that is guarded where a reader has to guard it.

Out of scope: who owns the buffer, and the bytes behind the datagram, which are anything here.
-/

namespace Tftp

/-! ## Readings -/

/-- A look at a datagram. -/
inductive Look where
  /-- The byte at an index is read. -/
  | byte (index : Nat)
  /-- A text is looked for from a position on. -/
  | search (start : Nat)
  /-- A position is moved behind the text that was found. -/
  | move (start next : Nat)
  deriving DecidableEq, Repr

/-- The look lies inside a datagram of a given length. -/
def Look.Inside (length : Nat) : Look → Prop
  | byte index => index < length
  | search start => start ≤ length
  | move start next => start < next ∧ next ≤ length

/-- What a reader comes to. -/
inductive Conclusion (α : Type) where
  | read (a : α)
  | malformed (fault : Malformed)
  /-- There are more options than it was prepared for. -/
  | givenUp
  deriving DecidableEq, Repr

/-- What a reader comes to that has a result or a fault. -/
def Conclusion.ofExcept {α : Type} : Except Malformed α → Conclusion α
  | .ok a => .read a
  | .error fault => .malformed fault

/-- What a reader looked at, and what it came to. -/
structure Reading (α : Type) where
  looks : List Look
  conclusion : Conclusion α
  deriving Repr

namespace Reading

variable {α β : Type}

/-- Goes on with what was read. -/
protected def bind (x : Reading α) (f : α → Reading β) : Reading β :=
  match x.conclusion with
  | .read a => ⟨x.looks ++ (f a).looks, (f a).conclusion⟩
  | .malformed fault => ⟨x.looks, .malformed fault⟩
  | .givenUp => ⟨x.looks, .givenUp⟩

instance : Monad Reading where
  pure a := ⟨[], .read a⟩
  bind := Reading.bind

/-- Only looks. -/
def look (l : Look) : Reading Unit := ⟨[l], .read ()⟩

/-- Comes to a result or a fault without a look. -/
def ofExcept (r : Except Malformed α) : Reading α := ⟨[], .ofExcept r⟩

/-- Finds a fault. -/
def fail (fault : Malformed) : Reading α := ⟨[], .malformed fault⟩

/-- Gives up. -/
def giveUp : Reading α := ⟨[], .givenUp⟩

/-! ## The reader -/

/-- How many bytes are left behind a position: a number of 64 bits that wraps around if the position
lies beyond the end. -/
def left (length position : Nat) : Nat :=
  if position ≤ length then length - position else length + 18446744073709551616 - position

variable (d : Bytes)

/-- The byte at an index. What lies beyond the datagram reads as zero. -/
def byteAt (index : Nat) : Reading UInt8 := do
  look (.byte index)
  return d.getD index 0

/-- The number at an index. -/
def wordAt (index : Nat) : Reading UInt16 := do
  let high ← byteAt d index
  let low ← byteAt d (index + 1)
  return Bytes.toWord high low

/-- The place of the first zero byte among `count` bytes. -/
def zeroAt (position : Nat) : Nat → Reading (Option Nat)
  | 0 => return none
  | count + 1 => do
    if (← byteAt d position) = 0 then return some position
    else zeroAt (position + 1) count

/-- A copy of `count` bytes. -/
def copyAt (position : Nat) : Nat → Reading Bytes
  | 0 => return []
  | count + 1 => do
    let byte ← byteAt d position
    let bytes ← copyAt (position + 1) count
    return byte :: bytes

/-- A terminated text, and the position behind it. -/
def textAt (position : Nat) : Reading (Bytes × Nat) := do
  look (.search position)
  match ← zeroAt d position (left d.length position) with
  | none => fail .unterminatedText
  | some stop =>
    let text ← copyAt d position (stop - position)
    look (.move position (stop + 1))
    return (text, stop + 1)

/-- A pair of name and value, and the position behind it. -/
def pairAt (position : Nat) : Reading (Bytes × Bytes × Nat) := do
  let (name, position) ← textAt d position
  if d.length ≤ position then
    fail (.missingValue (Bytes.lower name))
  else
    let (value, position) ← textAt d position
    return (Bytes.lower name, value, position)

/-- The options up to the end of the datagram, as long as there are at most `limit` pairs. -/
def optionsAt (limit position : Nat) : Reading (List OptionEntry) :=
  if d.length ≤ position then return []
  else do
    let (name, value, position) ← pairAt d position
    match limit with
    | 0 => giveUp
    | limit + 1 =>
      match OptionKind.ofName? name with
      | none => optionsAt limit position
      | some kind =>
        let value ← ofExcept (readValue value)
        let options ← optionsAt limit position
        return ⟨kind, value⟩ :: options

/-- A data packet. -/
def dataAt : Reading Packet :=
  if d.length < headerLength then fail .truncatedData
  else do
    let block ← wordAt d 2
    let payload ← copyAt d headerLength (left d.length headerLength)
    return .data block payload

/-- An acknowledgement. -/
def ackAt : Reading Packet :=
  if d.length ≠ headerLength then fail .wrongAckSize
  else do
    let block ← wordAt d 2
    return .ack block

/-- An error packet. -/
def errorAt : Reading Packet :=
  if d.length < headerLength + 1 then fail .truncatedError
  else do
    let code ← wordAt d 2
    let (message, _) ← textAt d headerLength
    return .error (.ofWire code) message

variable (limit : Nat → Nat)

/-- A request; `limit` is the number of pairs that may follow from a position on. -/
def requestAt (access : Access) : Reading Packet := do
  let (filename, position) ← textAt d 2
  if d.length ≤ position then
    fail .missingMode
  else
    let (mode, position) ← textAt d position
    let options ← optionsAt d (limit position) position
    return .request access filename mode options

end Reading

open Reading in
/-- Reads a datagram by position. -/
def Packet.decodeAt (d : Bytes) (limit : Nat → Nat) : Reading Packet :=
  if d.length < 2 then fail .tooSmall
  else do
    let opcode ← wordAt d 0
    match Opcode.ofValue? opcode with
    | none => fail (.unknownOpcode opcode)
    | some .readRequest => requestAt d limit .read
    | some .writeRequest => requestAt d limit .write
    | some .data => dataAt d
    | some .ack => ackAt d
    | some .error => errorAt d
    | some .optionAck =>
      let options ← optionsAt d (limit 2) 2
      return .optionAck options

namespace Reading

variable {α β : Type}

/-! ## What a reading yields -/

/-- All looks of a reading lie inside a datagram of a given length, and it comes to a conclusion for
which `post` holds. -/
structure Yields (x : Reading α) (length : Nat) (post : Conclusion α → Prop) : Prop where
  inside : ∀ l ∈ x.looks, l.Inside length
  conclusion : post x.conclusion

/-- The conclusion is a result for which `post` holds. -/
def Reads (post : α → Prop) : Conclusion α → Prop
  | .read a => post a
  | _ => False

/-- The conclusion is that of a decoder which comes to `r`, with a result that corresponds to its
result. The reader gives up only if it is `unprepared`. -/
def Matches {γ : Type} (corresponds : α → γ → Prop) (r : Except Malformed γ) (unprepared : Prop) :
    Conclusion α → Prop
  | .read a => ∃ c, r = .ok c ∧ corresponds a c
  | .malformed fault => r = .error fault
  | .givenUp => unprepared

section Rules

variable {length : Nat} {x : Reading α} {f : α → Reading β} {post : Conclusion α → Prop}
  {after : Conclusion β → Prop}

theorem yields_pure {a : α} (h : post (.read a)) : (pure a : Reading α).Yields length post :=
  ⟨nofun, h⟩

theorem yields_fail {fault : Malformed} (h : post (.malformed fault)) :
    (fail fault).Yields length post :=
  ⟨nofun, h⟩

theorem yields_giveUp (h : post .givenUp) : giveUp.Yields length post := ⟨nofun, h⟩

theorem yields_look {l : Look} (h : l.Inside length) :
    (look l).Yields length (Reads fun _ => True) :=
  ⟨List.forall_mem_singleton.mpr h, trivial⟩

theorem Yields.mono {weaker : Conclusion α → Prop} (h : x.Yields length post)
    (le : ∀ c, post c → weaker c) : x.Yields length weaker :=
  ⟨h.inside, le _ h.conclusion⟩

/-- **Readings in sequence** stay inside if both do, the second one with the result of the first. -/
theorem yields_bind (first : x.Yields length post)
    (read : ∀ a, post (.read a) → (f a).Yields length after)
    (malformed : ∀ fault, post (.malformed fault) → after (.malformed fault))
    (givenUp : post .givenUp → after .givenUp) : (x >>= f).Yields length after := by
  obtain ⟨looks, conclusion⟩ := x
  obtain ⟨hinside, hpost⟩ := first
  cases conclusion with
  | read a =>
    obtain ⟨hinside', hafter⟩ := read a hpost
    exact ⟨List.forall_mem_append.mpr ⟨hinside, hinside'⟩, hafter⟩
  | malformed fault => exact ⟨hinside, malformed fault hpost⟩
  | givenUp => exact ⟨hinside, givenUp hpost⟩

theorem yields_bind_reads {result : α → Prop} (first : x.Yields length (Reads result))
    (read : ∀ a, result a → (f a).Yields length after) : (x >>= f).Yields length after :=
  yields_bind first read (fun _ => False.elim) False.elim

theorem yields_ofExcept {r : Except Malformed α} {unprepared : Prop} :
    (ofExcept r).Yields length (Matches Eq r unprepared) := by
  refine ⟨nofun, ?_⟩
  cases r with
  | ok a => exact ⟨a, rfl, rfl⟩
  | error fault => exact rfl

/-- **A reader follows a decoder** in sequence if it does so in both parts. -/
theorem yields_bind_matches {γ δ : Type} {corresponds : α → γ → Prop} {corresponds' : β → δ → Prop}
    {r : Except Malformed γ} {s : γ → Except Malformed δ} {unprepared : Prop}
    (first : x.Yields length (Matches corresponds r unprepared))
    (then_ : ∀ a c, r = .ok c → corresponds a c →
      (f a).Yields length (Matches corresponds' (s c) unprepared)) :
    (x >>= f).Yields length (Matches corresponds' (r >>= s) unprepared) := by
  refine yields_bind first ?_ ?_ id
  · rintro a ⟨c, rfl, ha⟩
    exact then_ a c rfl ha
  · rintro fault hfault
    obtain rfl : r = .error fault := hfault
    rfl

theorem Matches.mono {γ : Type} {corresponds : α → γ → Prop} {r : Except Malformed γ}
    {unprepared unprepared' : Prop} {c : Conclusion α} (h : Matches corresponds r unprepared c)
    (le : unprepared → unprepared') : Matches corresponds r unprepared' c := by
  cases c with
  | read | malformed => exact h
  | givenUp => exact le h

end Rules

variable {d : Bytes}

/-! ## Bytes -/

theorem left_of_le {length position : Nat} (h : position ≤ length) :
    left length position = length - position :=
  if_pos h

theorem yields_byteAt {index : Nat} (h : index < d.length) :
    (byteAt d index).Yields d.length (Reads fun c => d.drop index = c :: d.drop (index + 1)) := by
  refine yields_bind_reads (yields_look h) fun _ _ => yields_pure ?_
  have hbyte : d.getD index 0 = d[index] := by simp [h]
  rw [Reads, hbyte]
  exact List.drop_eq_getElem_cons h

theorem yields_wordAt {index : Nat} (h : index + 1 < d.length) :
    (wordAt d index).Yields d.length (Reads fun word => ∃ high low, word = Bytes.toWord high low ∧
      d.drop index = high :: low :: d.drop (index + 2)) := by
  refine yields_bind_reads (yields_byteAt (Nat.lt_of_succ_lt h)) fun high hhigh => ?_
  refine yields_bind_reads (yields_byteAt h) fun low hlow => yields_pure ?_
  exact ⟨high, low, rfl, by rw [hhigh, hlow]⟩

theorem yields_copyAt {position count : Nat} (h : position + count ≤ d.length) :
    (copyAt d position count).Yields d.length
      (Reads fun bytes => bytes = (d.drop position).take count) := by
  induction count generalizing position with
  | zero => exact yields_pure rfl
  | succ count ih =>
    refine yields_bind_reads (yields_byteAt (by omega)) fun byte hbyte => ?_
    refine yields_bind_reads (ih (by omega)) fun bytes hbytes => yields_pure ?_
    rw [Reads, hbyte, List.take_succ_cons, hbytes]

/-- A search up to the end of the datagram finds the end of the text, unless there is none. -/
theorem yields_zeroAt {position count : Nat} (h : position + count = d.length) :
    (zeroAt d position count).Yields d.length (Reads fun stop? =>
      match stop? with
      | none => 0 ∉ d.drop position
      | some stop => ∃ text, 0 ∉ text ∧ stop = position + text.length ∧
          d.drop position = Bytes.terminated text ++ d.drop (stop + 1)) := by
  induction count generalizing position with
  | zero =>
    refine yields_pure ?_
    show 0 ∉ d.drop position
    simp [List.drop_of_length_le, ← h]
  | succ count ih =>
    refine yields_bind_reads (yields_byteAt (by omega)) fun byte hbyte => ?_
    by_cases hzero : byte = 0
    · rw [if_pos hzero]
      exact yields_pure ⟨[], List.not_mem_nil, rfl, by rw [hbyte, hzero]; rfl⟩
    · rw [if_neg hzero]
      refine (ih (by omega)).mono fun c hc => ?_
      cases c with
      | read stop? =>
        cases stop? with
        | none =>
          show 0 ∉ d.drop position
          rw [hbyte, List.mem_cons, not_or]
          exact ⟨Ne.symm hzero, hc⟩
        | some stop =>
          obtain ⟨text, hplain, rfl, htext⟩ := hc
          refine ⟨byte :: text, ?_, ?_, ?_⟩
          · rw [List.mem_cons, not_or]
            exact ⟨Ne.symm hzero, hplain⟩
          · rw [List.length_cons]
            omega
          · rw [hbyte, htext]
            rfl
      | malformed fault => exact hc
      | givenUp => exact hc

/-! ## Texts and pairs -/

/-- What was read from a position on corresponds to what was decoded, and what follows the next
position to what is left; that position lies `least` bytes or more behind the first. -/
def Advances (d : Bytes) (position least : Nat) (a : α) (next : Nat) (a' : α) (rest : Bytes) :
    Prop :=
  a = a' ∧ rest = d.drop next ∧ position + least ≤ next ∧ next ≤ d.length

/-- **A text** is looked for inside the datagram, and the position is moved forward inside it. -/
theorem yields_textAt {position : Nat} {unprepared : Prop} (within : position ≤ d.length) :
    (textAt d position).Yields d.length
      (Matches (fun x y => Advances d position 1 x.1 x.2 y.1 y.2) (decodeText (d.drop position))
        unprepared) := by
  refine yields_bind_reads (yields_look within) fun _ _ => ?_
  rw [left_of_le within]
  refine yields_bind_reads (yields_zeroAt (Nat.add_sub_cancel' within)) fun stop? hstop => ?_
  cases stop? with
  | none => exact yields_fail (decodeText_of_zero_notMem hstop)
  | some stop =>
    obtain ⟨text, hplain, rfl, htext⟩ := hstop
    have hdecode := decodeText_eq_ok_iff.mpr ⟨htext, hplain⟩
    have hnext : position + text.length + 1 ≤ d.length := by
      have hlength := congrArg List.length htext
      simp only [Bytes.terminated, List.length_drop, List.length_append,
        List.length_singleton] at hlength
      omega
    refine yields_bind_reads (yields_copyAt (by omega)) fun copy hcopy => ?_
    refine yields_bind_reads (yields_look ⟨by omega, hnext⟩) fun _ _ => ?_
    have hcopied : copy = text := by
      rw [hcopy, htext, Nat.add_sub_cancel_left, Bytes.terminated, List.append_assoc,
        List.take_left]
    exact yields_pure ⟨_, hdecode, hcopied, rfl, by omega, hnext⟩

theorem yields_pairAt {position : Nat} {unprepared : Prop} (within : position ≤ d.length) :
    (pairAt d position).Yields d.length
      (Matches (fun x y => Advances d position 2 (x.1, x.2.1) x.2.2 (y.1, y.2.1) y.2.2)
        (decodePair (d.drop position)) unprepared) := by
  refine yields_bind_matches (yields_textAt within) ?_
  rintro ⟨name, middle⟩ ⟨_, _⟩ - ⟨rfl, rfl, hmove, hmiddle⟩
  dsimp only
  by_cases hend : d.length ≤ middle
  · rw [if_pos hend, if_pos (List.drop_eq_nil_iff.mpr hend)]
    exact yields_fail rfl
  · rw [if_neg hend, if_neg (mt List.drop_eq_nil_iff.mp hend)]
    refine yields_bind_matches (yields_textAt hmiddle) ?_
    rintro ⟨value, next⟩ ⟨_, _⟩ - ⟨rfl, rfl, hmove', hnext⟩
    exact yields_pure ⟨_, rfl, rfl, rfl, Nat.le_trans (Nat.succ_le_succ hmove) hmove', hnext⟩

/-! ## Options -/

theorem decodeOptions_of_malformed {b : Bytes} {fault : Malformed} (nonempty : b ≠ [])
    (h : decodePair b = .error fault) : decodeOptions b = .error fault := by
  rw [decodeOptions, if_neg nonempty]
  split
  · rename_i hfault
    rw [h] at hfault
    cases hfault
    rfl
  · rename_i hpair
    rw [h] at hpair
    cases hpair

/-- A round of the loop reads a pair, unless the datagram is at its end. -/
theorem yields_round {position : Nat} {unprepared : Prop}
    {rest : Bytes × Bytes × Nat → Reading (List OptionEntry)} (within : position ≤ d.length)
    (then_ : ∀ name value next, position + 2 ≤ next → next ≤ d.length →
      decodePair (d.drop position) = .ok (name, value, d.drop next) →
      (rest (name, value, next)).Yields d.length
        (Matches Eq (decodeOptions (d.drop position)) unprepared)) :
    (if d.length ≤ position then pure [] else pairAt d position >>= rest).Yields d.length
      (Matches Eq (decodeOptions (d.drop position)) unprepared) := by
  by_cases hend : d.length ≤ position
  · rw [if_pos hend, List.drop_eq_nil_iff.mpr hend]
    exact yields_pure ⟨[], decodeOptions_nil, rfl⟩
  · rw [if_neg hend]
    have hpairs : (pairAt d position).Yields d.length (Matches _ _ unprepared) :=
      yields_pairAt within
    refine yields_bind hpairs ?_ ?_ id
    · rintro ⟨name, value, next⟩ ⟨⟨_, _, _⟩, hpair, hsame, hrest, hmove, hnext⟩
      cases hsame
      obtain rfl := hrest
      exact then_ name value next hmove hnext hpair
    · exact fun fault => decodeOptions_of_malformed (mt List.drop_eq_nil_iff.mp hend)

/-- **Options** are read up to the end of the datagram. Each pair takes two bytes, so a reader is
prepared for all of them if it is prepared for half as many as there are bytes. -/
theorem yields_optionsAt {limit position : Nat} (within : position ≤ d.length) :
    (optionsAt d limit position).Yields d.length
      (Matches Eq (decodeOptions (d.drop position)) (limit < (d.length - position) / 2)) := by
  induction limit generalizing position with
  | zero =>
    unfold optionsAt
    refine yields_round within fun name value next hmove hnext hpair => yields_giveUp ?_
    show 0 < (d.length - position) / 2
    omega
  | succ limit ih =>
    unfold optionsAt
    refine yields_round within fun name value next hmove hnext hpair => ?_
    have hothers : (optionsAt d limit next).Yields d.length
        (Matches Eq (decodeOptions (d.drop next)) (limit + 1 < (d.length - position) / 2)) :=
      (ih hnext).mono fun c hc => hc.mono (by omega)
    rw [decodeOptions_of_pair hpair]
    dsimp only
    cases OptionKind.ofName? name with
    | none => exact hothers
    | some kind =>
      refine yields_bind_matches yields_ofExcept ?_
      rintro number _ - rfl
      refine yields_bind_matches hothers ?_
      rintro options _ - rfl
      exact yields_pure ⟨_, rfl, rfl⟩

/-! ## Packets -/

/-- The reader is not prepared for all the pairs that may follow some position. -/
def Unprepared (d : Bytes) (limit : Nat → Nat) : Prop :=
  ∃ start, limit start < (d.length - start) / 2

theorem yields_options {limit : Nat → Nat} {start : Nat} (within : start ≤ d.length) :
    (optionsAt d (limit start) start).Yields d.length
      (Matches Eq (decodeOptions (d.drop start)) (Unprepared d limit)) :=
  (yields_optionsAt within).mono fun _ hc => hc.mono fun hlimit => ⟨start, hlimit⟩

theorem yields_requestAt {limit : Nat → Nat} {access : Access} (within : 2 ≤ d.length) :
    (requestAt d limit access).Yields d.length
      (Matches Eq (decodeRequest access (d.drop 2)) (Unprepared d limit)) := by
  refine yields_bind_matches (yields_textAt within) ?_
  rintro ⟨filename, middle⟩ ⟨_, _⟩ - ⟨rfl, rfl, -, hmiddle⟩
  dsimp only
  by_cases hend : d.length ≤ middle
  · rw [if_pos hend, if_pos (List.drop_eq_nil_iff.mpr hend)]
    exact yields_fail rfl
  · rw [if_neg hend, if_neg (mt List.drop_eq_nil_iff.mp hend)]
    refine yields_bind_matches (yields_textAt hmiddle) ?_
    rintro ⟨mode, start⟩ ⟨_, _⟩ - ⟨rfl, rfl, -, hstart⟩
    refine yields_bind_matches (yields_options hstart) ?_
    rintro options _ - rfl
    exact yields_pure ⟨_, rfl, rfl⟩

section Kinds

variable {b₁ b₂ : UInt8} {rest : Bytes} {unprepared : Prop}

/-- Behind the header of a datagram is what follows the number in it. -/
theorem header_of_drop (h : d.drop 2 = b₁ :: b₂ :: rest) :
    d.length = headerLength + rest.length ∧ d.drop headerLength = rest := by
  have hlength := congrArg List.length h
  have hrest := congrArg (List.drop 2) h
  simp only [List.length_drop, List.length_cons] at hlength
  rw [List.drop_drop] at hrest
  exact ⟨by unfold headerLength; omega, hrest⟩

theorem yields_headerAt (h : d.drop 2 = b₁ :: b₂ :: rest) :
    (wordAt d 2).Yields d.length (Reads fun word => word = Bytes.toWord b₁ b₂) := by
  have hlength := (header_of_drop h).1
  unfold headerLength at hlength
  refine (yields_wordAt (by omega)).mono fun c hc => ?_
  cases c with
  | read word =>
    obtain ⟨high, low, rfl, hdrop⟩ := hc
    cases h.symm.trans hdrop
    exact rfl
  | malformed | givenUp => exact hc

theorem yields_dataAt (h : d.drop 2 = b₁ :: b₂ :: rest) :
    (dataAt d).Yields d.length
      (Matches Eq (.ok (.data (Bytes.toWord b₁ b₂) rest)) unprepared) := by
  obtain ⟨hlength, hrest⟩ := header_of_drop h
  have hheader : headerLength ≤ d.length := hlength ▸ Nat.le_add_right _ _
  unfold dataAt
  rw [if_neg (Nat.not_lt.mpr hheader), left_of_le hheader]
  refine yields_bind_reads (yields_headerAt h) ?_
  rintro block rfl
  refine yields_bind_reads (yields_copyAt (Nat.le_of_eq (Nat.add_sub_cancel' hheader))) ?_
  rintro payload rfl
  rw [hrest, hlength, Nat.add_sub_cancel_left, List.take_length]
  exact yields_pure ⟨_, rfl, rfl⟩

theorem yields_ackAt (h : d.drop 2 = [b₁, b₂]) :
    (ackAt d).Yields d.length (Matches Eq (.ok (.ack (Bytes.toWord b₁ b₂))) unprepared) := by
  have hlength : d.length = headerLength := (header_of_drop h).1
  unfold ackAt
  rw [if_neg (not_not_intro hlength)]
  refine yields_bind_reads (yields_headerAt h) ?_
  rintro block rfl
  exact yields_pure ⟨_, rfl, rfl⟩

theorem yields_errorAt {c : UInt8} (h : d.drop 2 = b₁ :: b₂ :: c :: rest) :
    (errorAt d).Yields d.length
      (Matches Eq (do
        let (message, _) ← decodeText (c :: rest)
        return .error (.ofWire (Bytes.toWord b₁ b₂)) message) unprepared) := by
  obtain ⟨hlength, hrest⟩ := header_of_drop h
  have hheader : headerLength + 1 ≤ d.length := hlength ▸ Nat.add_le_add_left (by simp) _
  unfold errorAt
  rw [if_neg (Nat.not_lt.mpr hheader)]
  refine yields_bind_reads (yields_headerAt h) ?_
  rintro code rfl
  rw [← hrest]
  refine yields_bind_matches (yields_textAt (Nat.le_of_succ_le hheader)) ?_
  rintro ⟨message, _⟩ ⟨_, _⟩ - ⟨rfl, -⟩
  exact yields_pure ⟨_, rfl, rfl⟩

end Kinds

/-- **A datagram** is read as it is decoded, unless there are more options than was prepared for. -/
theorem yields_decodeAt (d : Bytes) (limit : Nat → Nat) :
    (Packet.decodeAt d limit).Yields d.length
      (Matches Eq (Packet.decode d) (Unprepared d limit)) := by
  unfold Packet.decodeAt
  match d with
  | [] | [_] => exact yields_fail rfl
  | o₁ :: o₂ :: body =>
    have hheader : 2 ≤ (o₁ :: o₂ :: body).length := Nat.le_add_left 2 _
    rw [if_neg (Nat.not_lt.mpr hheader)]
    refine yields_bind_reads (yields_wordAt (Nat.lt_of_succ_le hheader)) ?_
    rintro opcode ⟨high, low, rfl, hopcode⟩
    cases hopcode
    unfold Packet.decode
    dsimp only
    cases Opcode.ofValue? (Bytes.toWord o₁ o₂) with
    | none => exact yields_fail rfl
    | some opcode =>
      cases opcode with
      | readRequest | writeRequest => exact yields_requestAt hheader
      | data =>
        match body with
        | [] | [_] => exact yields_fail rfl
        | _ :: _ :: payload => exact yields_dataAt rfl
      | ack =>
        match body with
        | [] | [_] | _ :: _ :: _ :: _ => exact yields_fail rfl
        | [_, _] => exact yields_ackAt rfl
      | error =>
        match body with
        | [] | [_] | [_, _] => exact yields_fail rfl
        | _ :: _ :: _ :: rest => exact yields_errorAt rfl
      | optionAck =>
        refine yields_bind_matches (yields_options hheader) ?_
        rintro options _ - rfl
        exact yields_pure ⟨_, rfl, rfl⟩

end Reading

open Reading

/-- **Reading a datagram by position.** For every datagram, and whatever number of pairs the reader
is prepared for behind each position:

* every byte that is read lies inside the datagram, every text is looked for from a position inside
  it, and its position is then moved forward inside it;
* a reader that is prepared for half as many pairs as there are bytes never gives up, and comes to
  what `Packet.decode` gives. -/
theorem decode_inside (d : Bytes) (limit : Nat → Nat) :
    (∀ look ∈ (Packet.decodeAt d limit).looks, look.Inside d.length) ∧
      ((∀ start, (d.length - start) / 2 ≤ limit start) →
        (Packet.decodeAt d limit).conclusion = .ofExcept (Packet.decode d)) := by
  obtain ⟨hinside, hmatches⟩ := yields_decodeAt d limit
  refine ⟨hinside, fun hprepared => ?_⟩
  cases hconclusion : (Packet.decodeAt d limit).conclusion with
  | read p =>
    rw [hconclusion] at hmatches
    obtain ⟨_, hdecode, rfl⟩ := hmatches
    rw [hdecode]
    rfl
  | malformed fault =>
    rw [hconclusion] at hmatches
    have hdecode : Packet.decode d = .error fault := hmatches
    rw [hdecode]
    rfl
  | givenUp =>
    rw [hconclusion] at hmatches
    obtain ⟨start, hlimit⟩ := hmatches
    exact absurd (hprepared start) (Nat.not_le.mpr hlimit)

/-- A request with one option, for which the reader is prepared. -/
theorem decode_inside_request :
    let bytes : Bytes := [0, 1, 102, 0, 111, 99, 116, 101, 116, 0, 98, 108, 107, 115, 105, 122, 101,
      0, 56, 0]
    let reading := Packet.decodeAt bytes fun start => (20 - start) / 2
    (∀ look ∈ reading.looks, look.Inside 20) ∧
      reading.conclusion =
        .read (.request .read (Bytes.ascii "f") defaultMode [⟨.blockSize, 8⟩]) := by
  intro bytes reading
  obtain ⟨hinside, hread⟩ := decode_inside bytes fun start => (20 - start) / 2
  refine ⟨hinside, ?_⟩
  have hdecode : Packet.decode bytes =
      .ok (.request .read (Bytes.ascii "f") defaultMode [⟨.blockSize, 8⟩]) := by
    have hbytes : bytes =
        (Packet.request .read (Bytes.ascii "f") defaultMode [⟨.blockSize, 8⟩]).encode := by decide
    rw [hbytes]
    exact (decode_encode_eq_ok_iff _).mpr ⟨by decide, by decide, by decide⟩
  exact (hread fun _ => Nat.le_refl _).trans (congrArg Conclusion.ofExcept hdecode)

-- The text of an error packet is searched and copied, and the position is moved to the end.
example : (Packet.decodeAt [0, 5, 0, 1, 33, 0] fun _ => 0).looks =
    [.byte 0, .byte 1, .byte 2, .byte 3, .search 4, .byte 4, .byte 5, .byte 4, .move 4 6] := rfl

-- Two empty pairs take four bytes, so a reader has to be prepared for half of them.
example : (Packet.decodeAt [0, 6, 0, 0, 0, 0] fun _ => 1).conclusion = .givenUp := rfl

end Tftp
