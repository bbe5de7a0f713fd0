import Tftp.Proofs.Sending

/-!
# The order of what is sent

What a whole call that sends a file hands to the socket: the chunks of the file one after the other,
each one or more times, and a chunk only after the one before it was acknowledged.

Results:
* `InOrder.next`: one more event keeps a trace in order.
* **`sendFile_in_order`**: the datagrams handed out, the count of bytes and the outcome, after every
  run of `sendFile`.

The specification has blocks strictly sequenced (§5) and each one repeated unchanged until it is
acknowledged (§4.5). The statement is about the datagrams as they are handed to the socket, one
after the other, for a file of any length: numbers wrap, and it is the chunk that is in order,
whatever its number.

Out of scope: what the socket does with a datagram, and data that was acknowledged before it was
sent, which no sender waits for.
-/

namespace Tftp.Sender

/-! ## Traces in order -/

/-- `copies n` copies of chunk `n`, for the first `k` chunks. -/
def copied (F : Bytes) (B : Nat) (copies : Nat → Nat) (k : Nat) : List Bytes :=
  (List.range k).flatMap fun n => List.replicate (copies n) (chunkPacket F B n).encode

/-- The trace acknowledges chunk `n` when exactly the first `n + 1` chunks are handed out. -/
def AcknowledgedInTurn (F : Bytes) (B : Nat) (copies : Nat → Nat) (es : List Event) (n : Nat) :
    Prop :=
  ∃ before e after, es = before ++ e :: after ∧ e.acknowledged? = some (wireNumber (n + 1)) ∧
    handed before = copied F B copies (n + 1)

/-- A trace with progress `p` handed out `copies n` copies of chunk `n`, in order. -/
structure InOrder (F : Bytes) (B : Nat) (es : List Event) (p : Progress) (copies : Nat → Nat) :
    Prop where
  handed : handed es = copied F B copies (p.acknowledged + 1)
  earlier : ∀ n < p.acknowledged, 0 < copies n
  current : 0 < copies p.acknowledged ↔ p.handedOut = true
  later : ∀ n > p.acknowledged, copies n = 0
  inTurn : ∀ n < p.acknowledged, AcknowledgedInTurn F B copies es n

variable {F : Bytes} {B : Nat} {copies : Nat → Nat} {es : List Event} {p : Progress}

theorem copied_succ (k : Nat) : copied F B copies (k + 1)
    = copied F B copies k ++ List.replicate (copies k) (chunkPacket F B k).encode := by
  unfold copied
  rw [List.range_succ, List.flatMap_append, List.flatMap_singleton]

theorem copied_congr {copies' : Nat → Nat} {k : Nat} (h : ∀ n < k, copies n = copies' n) :
    copied F B copies k = copied F B copies' k := by
  induction k with
  | zero => rfl
  | succ k ih =>
    rw [copied_succ, copied_succ, ih fun n hn => h n (Nat.lt_succ_of_lt hn),
      h k (Nat.lt_succ_self k)]

theorem AcknowledgedInTurn.snoc {n : Nat} (h : AcknowledgedInTurn F B copies es n) (e : Event) :
    AcknowledgedInTurn F B copies (es ++ [e]) n := by
  obtain ⟨before, a, after, rfl, hack, hbefore⟩ := h
  exact ⟨before, a, after ++ [e], by rw [List.append_assoc, List.cons_append], hack, hbefore⟩

theorem AcknowledgedInTurn.congr {copies' : Nat → Nat} {n : Nat}
    (h : AcknowledgedInTurn F B copies es n) (heq : ∀ m ≤ n, copies m = copies' m) :
    AcknowledgedInTurn F B copies' es n := by
  obtain ⟨before, a, after, hes, hack, hbefore⟩ := h
  refine ⟨before, a, after, hes, hack, hbefore.trans (copied_congr fun m hm => heq m ?_)⟩
  exact Nat.le_of_lt_succ hm

theorem inOrder_nil (F : Bytes) (B : Nat) : InOrder F B [] ⟨0, false⟩ fun _ => 0 := by
  refine ⟨rfl, fun n hn => absurd hn (Nat.not_lt_zero n), ?_, fun _ _ => rfl,
    fun n hn => absurd hn (Nat.not_lt_zero n)⟩
  exact ⟨fun h => absurd h (Nat.lt_irrefl 0), nofun⟩

/-- An event that hands out nothing keeps a trace in order. -/
theorem InOrder.silent (h : InOrder F B es p copies) {e : Event} (silent : e.handed? = none) :
    InOrder F B (es ++ [e]) p copies := by
  refine ⟨?_, h.earlier, h.current, h.later, fun n hn => (h.inTurn n hn).snoc e⟩
  rw [handed_append, handed_singleton, silent, h.handed]
  exact List.append_nil _

/-- One more copy of the chunk that is due keeps a trace in order. -/
theorem InOrder.copy (h : InOrder F B es p copies) {e : Event}
    (copy : e.handed? = some (chunkPacket F B p.acknowledged).encode) :
    InOrder F B (es ++ [e]) ⟨p.acknowledged, true⟩
      (Function.update copies p.acknowledged (copies p.acknowledged + 1)) := by
  have hsame : ∀ n, n ≠ p.acknowledged →
      copies n = Function.update copies p.acknowledged (copies p.acknowledged + 1) n :=
    fun n hn => (Function.update_of_ne hn _ _).symm
  refine ⟨?_, fun n hn => ?_, ?_, fun n hn => ?_, fun n hn => ?_⟩
  · rw [handed_append, handed_singleton, copy, h.handed, copied_succ, copied_succ,
      Function.update_self, List.replicate_succ', ← List.append_assoc,
      copied_congr fun n hn => hsame n (Nat.ne_of_lt hn)]
    rfl
  · rw [← hsame n (Nat.ne_of_lt hn)]
    exact h.earlier n hn
  · rw [Function.update_self]
    exact ⟨fun _ => rfl, fun _ => Nat.succ_pos _⟩
  · rw [← hsame n (Nat.ne_of_gt hn)]
    exact h.later n hn
  · exact ((h.inTurn n hn).snoc e).congr fun m hm => hsame m (Nat.ne_of_lt (hm.trans_lt hn))

/-- The acknowledgement of the chunk that is due keeps a trace in order. -/
theorem InOrder.acknowledge (h : InOrder F B es p copies) {e : Event} (silent : e.handed? = none)
    (out : p.handedOut = true) (ack : e.acknowledged? = some (wireNumber (p.acknowledged + 1))) :
    InOrder F B (es ++ [e]) ⟨p.acknowledged + 1, false⟩ copies := by
  have hnext : copies (p.acknowledged + 1) = 0 := h.later _ (Nat.lt_succ_self _)
  have hsilent := h.silent silent
  refine ⟨?_, fun n hn => ?_, ?_, fun n hn => h.later n (Nat.lt_of_succ_lt hn), fun n hn => ?_⟩
  · rw [hsilent.handed, copied_succ (p.acknowledged + 1), hnext]
    exact (List.append_nil _).symm
  · rcases Nat.lt_succ_iff_lt_or_eq.mp hn with hlt | rfl
    · exact h.earlier n hlt
    · exact h.current.mpr out
  · rw [hnext]
    exact ⟨fun hlt => absurd hlt (Nat.lt_irrefl 0), nofun⟩
  · rcases Nat.lt_succ_iff_lt_or_eq.mp hn with hlt | rfl
    · exact hsilent.inTurn n hlt
    · exact ⟨es, e, [], rfl, ack, h.handed⟩

/-- **One more event keeps a trace in order**, if it hands out nothing but the chunk that is due. -/
theorem InOrder.next (h : InOrder F B es p copies) {e : Event}
    (sends : ∀ bytes, e.handed? = some bytes → bytes = (chunkPacket F B p.acknowledged).encode) :
    ∃ copies', InOrder F B (es ++ [e]) (p.next F B e) copies' := by
  unfold Progress.next
  split
  · rename_i hcopy
    exact ⟨_, h.copy hcopy⟩
  · rename_i hcopy
    have silent : e.handed? = none := by
      cases he : e.handed? with
      | none => rfl
      | some bytes => exact absurd (sends bytes he ▸ he) hcopy
    split
    · rename_i hack
      exact ⟨copies, h.acknowledge silent hack.1 hack.2⟩
    · exact ⟨copies, h.silent silent⟩

/-! ## Runs -/

/-- Every run of `sendFile` keeps the invariant and is in order. -/
theorem at_inOrder_of_runs {s t : Sender} {rest : Bytes} (hB : 0 < s.blockSize)
    (run : Runs ask? s.sendFile es t) (file : Along Reads F es rest) :
    At F s.blockSize s.transferred (progress F s.blockSize es) rest t ∧
      ∃ copies, InOrder F s.blockSize es (progress F s.blockSize es) copies := by
  refine run.induction_along (P := fun es t rest =>
    At F s.blockSize s.transferred (progress F s.blockSize es) rest t ∧
      ∃ copies, InOrder F s.blockSize es (progress F s.blockSize es) copies) file
    ⟨at_sendFile s, _, inOrder_nil F s.blockSize⟩ ?_
  rintro es u rest call resume answer rest' ⟨h, copies, horder⟩ asks reads
  rw [progress_snoc]
  exact ⟨h.next hB asks reads, horder.next fun bytes hbytes => (h.handed asks hbytes).1⟩

/-- Chunks are handed out up to the one that is due. -/
theorem InOrder.handed_started (h : InOrder F B es p copies) :
    Tftp.handed es = copied F B copies p.started := by
  rw [h.handed, Progress.started]
  cases hout : p.handedOut with
  | true => rfl
  | false =>
    have hzero : copies p.acknowledged = 0 := by
      have hnot := mt h.current.mp (by rw [hout]; exact Bool.false_ne_true)
      omega
    rw [copied_succ, hzero]
    exact List.append_nil _

theorem InOrder.pos_of_lt_started (h : InOrder F B es p copies) {n : Nat} (hn : n < p.started) :
    0 < copies n := by
  unfold Progress.started at hn
  cases hout : p.handedOut with
  | true =>
    rw [hout] at hn
    rcases Nat.lt_succ_iff_lt_or_eq.mp hn with hlt | rfl
    · exact h.earlier n hlt
    · exact h.current.mpr hout
  | false =>
    rw [hout] at hn
    exact h.earlier n hn

/-- **The trace of a sender.** After any run of `sendFile` on a file `F`, whatever the waits brought
and whichever calls failed:

* one or more copies of chunk 0, then of chunk 1, and so on were handed out, and nothing else;
* of all chunks only the last one is shorter than a block;
* a chunk was handed out only after the one before it was acknowledged;
* the count of bytes has grown by the payloads of the acknowledged chunks;
* the call has returned normally if and only if the last chunk is acknowledged, and then the whole
  file is counted and the sender is done. -/
theorem sendFile_in_order {s t : Sender} {rest : Bytes} (hB : 0 < s.blockSize)
    (run : Runs ask? s.sendFile es t) (file : Along Reads F es rest) :
    ∃ copies : Nat → Nat,
      handed es = copied F s.blockSize copies (progress F s.blockSize es).started ∧
      (∀ n < (progress F s.blockSize es).started, 0 < copies n) ∧
      (progress F s.blockSize es).started ≤ blockCount F s.blockSize ∧
      (∀ n < blockCount F s.blockSize,
        (chunk F s.blockSize n).length < s.blockSize ↔ n + 1 = blockCount F s.blockSize) ∧
      (∀ n, n + 1 < (progress F s.blockSize es).started →
        AcknowledgedInTurn F s.blockSize copies es n) ∧
      t.transferred = s.transferred
        + (chunks F s.blockSize (progress F s.blockSize es).acknowledged).flatten.length ∧
      (t.outcome? = some (.ok ()) ↔
        (progress F s.blockSize es).acknowledged = blockCount F s.blockSize) ∧
      (t.outcome? = some (.ok ()) →
        t.transferred = s.transferred + F.length ∧ t.stage = .done) := by
  obtain ⟨h, copies, horder⟩ := at_inOrder_of_runs hB run file
  refine ⟨copies, horder.handed_started, fun n => horder.pos_of_lt_started, h.started_le,
    fun n hn => length_chunk_lt_iff hB hn, fun n hn => horder.inTurn n ?_, h.transferred,
    h.outcome?_eq_ok_iff, fun hok => ⟨?_, h.done hok⟩⟩
  · have hbit := Bool.toNat_le (progress F s.blockSize es).handedOut
    unfold Progress.started at hn
    omega
  · rw [h.transferred, h.outcome?_eq_ok_iff.mp hok, flatten_chunks_blockCount hB]

/-- A trace of the two blocks of a file of three bytes; the first one is sent twice. -/
def twoBlockTrace : List Event :=
  [⟨.readBytes 2, .ok [7, 8]⟩, ⟨.pollCancelled, false⟩,
    ⟨.sendDatagram [0, 3, 0, 1, 7, 8], .ok ()⟩,
    ⟨.receiveDatagram datagramRoom, .error .wouldBlock⟩, ⟨.pollCancelled, false⟩,
    ⟨.sendDatagram [0, 3, 0, 1, 7, 8], .ok ()⟩,
    ⟨.receiveDatagram datagramRoom, .ok ⟨.unspecified, [0, 4, 0, 1]⟩⟩,
    ⟨.readBytes 2, .ok [9]⟩, ⟨.pollCancelled, false⟩,
    ⟨.sendDatagram [0, 3, 0, 2, 9], .ok ()⟩,
    ⟨.receiveDatagram datagramRoom, .ok ⟨.unspecified, [0, 4, 0, 2]⟩⟩]

theorem along_twoBlockTrace : Along Reads [7, 8, 9] twoBlockTrace [] := by
  repeat'
    first
      | exact .nil _
      | refine .cons rfl ?_
      | refine .cons (And.intro rfl rfl) ?_

theorem runs_twoBlockTrace :
    ∃ t, Runs ask? (Sender.new 2 3 .zero).sendFile twoBlockTrace t ∧
      t.outcome? = some (.ok ()) := by
  refine ⟨_, .cons _ rfl (.cons _ rfl (.cons _ rfl (.cons _ rfl (.cons _ rfl (.cons _ rfl
    (.cons _ rfl (.cons _ rfl (.cons _ rfl (.cons _ rfl (.cons _ rfl (.nil _))))))))))), ?_⟩
  rfl

/-- The trace of two blocks ends with all three bytes counted. -/
theorem twoBlockTrace_in_order :
    0 < 2 ∧ Along Reads [7, 8, 9] twoBlockTrace [] ∧
      ∃ t, Runs ask? (Sender.new 2 3 .zero).sendFile twoBlockTrace t ∧ t.transferred = 3 ∧
        t.stage = .done ∧ ∃ copies : Nat → Nat, 0 < copies 0 ∧ 0 < copies 1 ∧
          handed twoBlockTrace = copied [7, 8, 9] 2 copies 2 := by
  obtain ⟨t, run, hok⟩ := runs_twoBlockTrace
  obtain ⟨copies, hhanded, hpos, -, -, -, -, -, hdone⟩ :=
    sendFile_in_order (by decide) run along_twoBlockTrace
  have hstarted :
      (progress [7, 8, 9] (Sender.new 2 3 .zero).blockSize twoBlockTrace).started = 2 := by decide
  rw [hstarted] at hpos hhanded
  obtain ⟨htransferred, hstage⟩ := hdone hok
  exact ⟨by decide, along_twoBlockTrace, t, run, htransferred, hstage, copies,
    hpos 0 (by decide), hpos 1 (by decide), hhanded⟩

end Tftp.Sender
