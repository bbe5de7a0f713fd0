import Tftp.Proofs.Trace

/-!
# Rounds

A trace that goes for one thing after the other falls into rounds: a round ends when its attempt
succeeds. `round` tells how many rounds are over after a trace, and two predicates on events tell
which of them are attempts and which make an attempt a miss.

* `occurrencesIn` counts the events of one round.
* `Rounds` says that no round had too many attempts, and what the counts of the present round are.

Results:
* `Rounds.stay` and `Rounds.next`: what an event inside a round and the last event of a round do to
  the counts.
* `Rounds.balance`, `Rounds.bound` and `Rounds.missed_eq_iff`: what the counts say about the whole
  trace.

A round is what the specification bounds: the attempts with one block (§4.5, §4.6 and §8, "Retry
bound"). Both engines have rounds, with other events for attempts and misses, so the arithmetic of
the counts is done once, here, and knows nothing of blocks.

Out of scope: misses outside of a round. Every event belongs to the round that is under way when it
happens.
-/

namespace Tftp

variable {round : List Event → Nat} {attempts misses : List Event → Event → Bool} {m c k n : Nat}
  {es : List Event} {e : Event}

/-- How many events of a trace are `p` while exactly `n` rounds are over. -/
def occurrencesIn (round : List Event → Nat) (n : Nat) (p : List Event → Event → Bool)
    (es : List Event) : Nat :=
  occurrences (fun before e => decide (round before = n) && p before e) es

theorem occurrencesIn_other {p : List Event → Event → Bool} (hn : round es ≠ n) :
    occurrencesIn round n p (es ++ [e]) = occurrencesIn round n p es := by
  simp [occurrencesIn, occurrences_snoc, hn]

theorem occurrencesIn_present (p : List Event → Event → Bool) :
    occurrencesIn round (round es) p (es ++ [e]) =
      occurrencesIn round (round es) p es + (p es e).toNat := by
  simp [occurrencesIn, occurrences_snoc]

/-- Events that are told by what they yield are as many as what they yield. -/
theorem occurrences_isSome {α : Type} (f : Event → Option α) (es : List Event) :
    occurrences (fun _ e => (f e).isSome) es = (es.filterMap f).length := by
  induction es using List.reverseRecOn with
  | nil => rfl
  | append_singleton es e ih =>
    rw [occurrences_snoc, ih, List.filterMap_append, List.length_append]
    cases h : f e <;> simp [h]

/-- The present round has had `c` attempts and `k` misses. Each round before had fewer than `m`
misses and then the attempt that succeeded. -/
structure Rounds (round : List Event → Nat) (attempts misses : List Event → Event → Bool)
    (m c k : Nat) (es : List Event) : Prop where
  attempts_eq : occurrencesIn round (round es) attempts es = c
  missed_eq : occurrencesIn round (round es) misses es = k
  earlier : ∀ n < round es, occurrencesIn round n misses es < m ∧
    occurrencesIn round n attempts es = occurrencesIn round n misses es + 1
  later : ∀ n > round es,
    occurrencesIn round n attempts es = 0 ∧ occurrencesIn round n misses es = 0
  /-- Each attempt succeeded, missed, or is still to be decided. -/
  balance : occurrences attempts es + k = round es + occurrences misses es + c
  bound : occurrences attempts es ≤ m * round es + c

theorem rounds_nil (start : round [] = 0) : Rounds round attempts misses m 0 0 [] := by
  refine ⟨rfl, rfl, ?_, fun _ _ => ⟨rfl, rfl⟩, ?_, Nat.zero_le _⟩
  · rw [start]
    exact fun n hn => absurd hn (Nat.not_lt_zero n)
  · rw [start]
    rfl

/-- Inside a round, attempts and misses count for the present round. -/
theorem Rounds.stay (h : Rounds round attempts misses m c k es)
    (same : round (es ++ [e]) = round es) :
    Rounds round attempts misses m (c + (attempts es e).toNat) (k + (misses es e).toNat)
      (es ++ [e]) := by
  have hbalance := h.balance
  have hbound := h.bound
  constructor
  · rw [same, occurrencesIn_present, h.attempts_eq]
  · rw [same, occurrencesIn_present, h.missed_eq]
  · rw [same]
    intro n hn
    rw [occurrencesIn_other (Nat.ne_of_gt hn), occurrencesIn_other (Nat.ne_of_gt hn)]
    exact h.earlier n hn
  · rw [same]
    intro n hn
    rw [occurrencesIn_other (Nat.ne_of_lt hn), occurrencesIn_other (Nat.ne_of_lt hn)]
    exact h.later n hn
  · rw [same, occurrences_snoc, occurrences_snoc]
    omega
  · rw [same, occurrences_snoc]
    omega

/-- A round ends with an attempt that did not miss. The counts start afresh. -/
theorem Rounds.next (h : Rounds round attempts misses m c k es) (limit : k < m)
    (hits : misses es e = false) (tried : c + (attempts es e).toNat = k + 1)
    (next : round (es ++ [e]) = round es + 1) :
    Rounds round attempts misses m 0 0 (es ++ [e]) := by
  have hbalance := h.balance
  have hbound := h.bound
  have hafter : round es < round es + 1 := Nat.lt_succ_self _
  constructor
  · rw [next, occurrencesIn_other (Nat.ne_of_lt hafter)]
    exact (h.later _ hafter).1
  · rw [next, occurrencesIn_other (Nat.ne_of_lt hafter)]
    exact (h.later _ hafter).2
  · rw [next]
    intro n hn
    rcases Nat.lt_succ_iff_lt_or_eq.mp hn with hlt | rfl
    · rw [occurrencesIn_other (Nat.ne_of_gt hlt), occurrencesIn_other (Nat.ne_of_gt hlt)]
      exact h.earlier n hlt
    · rw [occurrencesIn_present, occurrencesIn_present, h.attempts_eq, h.missed_eq, hits]
      exact ⟨limit, tried⟩
  · rw [next]
    intro n hn
    have hlt : round es < n := Nat.lt_of_succ_lt hn
    rw [occurrencesIn_other (Nat.ne_of_lt hlt), occurrencesIn_other (Nat.ne_of_lt hlt)]
    exact h.later n hlt
  · rw [next, occurrences_snoc, occurrences_snoc, hits, Bool.toNat_false]
    omega
  · rw [next, occurrences_snoc, Nat.mul_succ]
    omega

/-- No round has more than `m` attempts. -/
theorem Rounds.attempts_le (h : Rounds round attempts misses m c k es) (tried : c ≤ m) (n : Nat) :
    occurrencesIn round n attempts es ≤ m := by
  rcases Nat.lt_trichotomy n (round es) with hlt | rfl | hgt
  · obtain ⟨hmissed, hattempts⟩ := h.earlier n hlt
    omega
  · exact h.attempts_eq.le.trans tried
  · exact (h.later n hgt).1.le.trans (Nat.zero_le _)

/-- A round with `m` misses is the present one. -/
theorem Rounds.missed_eq_iff (h : Rounds round attempts misses m c k es) (hm : 0 < m) :
    (∃ n, occurrencesIn round n misses es = m) ↔ k = m := by
  constructor
  · rintro ⟨n, hn⟩
    rcases Nat.lt_trichotomy n (round es) with hlt | rfl | hgt
    · exact absurd hn (Nat.ne_of_lt (h.earlier n hlt).1)
    · rw [← hn, h.missed_eq]
    · rw [(h.later n hgt).2] at hn
      omega
  · rintro rfl
    exact ⟨_, h.missed_eq⟩

end Tftp
