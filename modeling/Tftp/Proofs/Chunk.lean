import Tftp.Packet.Basic
import Mathlib.Algebra.Order.Group.Nat

/-!
# The blocks of a file

A file `F` is sent in blocks of `B` bytes, of which the last one is shorter, and empty if the length
of the file is a multiple of `B`. Chunk `n` is the payload of block `n + 1`. On the wire a block is
numbered modulo 65536.

Results:
* `flatten_chunks`: the first `n` chunks are the first `n * B` bytes of the file.
* `length_chunk_lt_iff`: exactly the last chunk is shorter than `B`.
* `flatten_chunks_blockCount`: all chunks together are the file.

The framing is that of the specification (§3 and §8): a transfer ends with a block that is shorter
than the others, also if nothing is left for it, as in Scenario B. A file of `L` bytes has `L / B`
whole blocks and one that is shorter. Rounding up, as a line of §8 does, would give Scenario A four
blocks, and it has three.

Out of scope: how a file is read. `Reads` in `Tftp.Proofs.File` ties the chunks to the answers of
the reads.
-/

namespace Tftp

/-! ## Block numbers -/

/-- The number of block `n` on the wire. -/
def wireNumber (n : Nat) : UInt16 := UInt16.ofNat n

theorem nextBlock_wireNumber (n : Nat) : nextBlock (wireNumber n) = wireNumber (n + 1) :=
  (UInt16.ofNat_add n 1).symm

theorem wireNumber_eq_iff {m n : Nat} : wireNumber m = wireNumber n ↔ m % 65536 = n % 65536 := by
  rw [wireNumber, wireNumber, ← UInt16.toNat_inj]
  simp only [UInt16.toNat_ofNat', Nat.reducePow]

theorem wireNumber_ne_succ (n : Nat) : wireNumber n ≠ wireNumber (n + 1) := by
  rw [Ne, wireNumber_eq_iff]
  omega

/-! ## Chunks -/

variable (F : Bytes) (B : Nat)

/-- The number of blocks of a file. -/
def blockCount : Nat := F.length / B + 1

/-- The payload of block `n + 1`. -/
def chunk (n : Nat) : Bytes := (F.drop (n * B)).take B

/-- The payloads of the first `n` blocks. -/
def chunks (n : Nat) : List Bytes := (List.range n).map (chunk F B)

/-- The data packet of block `n + 1`. -/
def chunkPacket (n : Nat) : Packet := .data (wireNumber (n + 1)) (chunk F B n)

variable {F B}

theorem chunks_succ (n : Nat) : chunks F B (n + 1) = chunks F B n ++ [chunk F B n] := by
  unfold chunks
  rw [List.range_succ, List.map_append, List.map_singleton]

theorem length_chunks (n : Nat) : (chunks F B n).length = n := by
  rw [chunks, List.length_map, List.length_range]

theorem chunks_prefix {m n : Nat} (h : m ≤ n) : chunks F B m <+: chunks F B n := by
  induction h with
  | refl => exact List.prefix_refl _
  | step _ ih =>
    rw [chunks_succ]
    exact ih.trans (List.prefix_append _ _)

theorem take_succ_mul (n : Nat) : F.take ((n + 1) * B) = F.take (n * B) ++ chunk F B n := by
  rw [Nat.succ_mul, List.take_add, chunk]

theorem drop_succ_mul (n : Nat) : (F.drop (n * B)).drop B = F.drop ((n + 1) * B) := by
  rw [List.drop_drop, Nat.succ_mul]

/-- The first `n` chunks are the first `n * B` bytes of the file. -/
theorem flatten_chunks (n : Nat) : (chunks F B n).flatten = F.take (n * B) := by
  induction n with
  | zero => simp [chunks]
  | succ n ih => rw [chunks_succ, List.flatten_append, List.flatten_singleton, ih, take_succ_mul]

/-- Exactly the last chunk is shorter than the block size. -/
theorem length_chunk_lt_iff (hB : 0 < B) {n : Nat} (hn : n < blockCount F B) :
    (chunk F B n).length < B ↔ n + 1 = blockCount F B := by
  unfold blockCount at hn ⊢
  have hlow : n * B ≤ F.length := (Nat.le_div_iff_mul_le hB).mp (Nat.le_of_lt_succ hn)
  have hfull : B ≤ F.length - n * B ↔ n + 1 ≤ F.length / B := by
    rw [Nat.le_div_iff_mul_le hB, Nat.succ_mul]
    omega
  rw [chunk, List.length_take, List.length_drop]
  omega

/-- All chunks together are the file. -/
theorem flatten_chunks_blockCount (hB : 0 < B) : (chunks F B (blockCount F B)).flatten = F := by
  rw [flatten_chunks, List.take_of_length_le]
  exact (Nat.lt_mul_of_div_lt (Nat.lt_succ_self _) hB).le

end Tftp
