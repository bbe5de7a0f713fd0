import Tftp.Proofs.Trace

/-!
# The file of a transfer

What the calls of a trace do to the file of a transfer, for any file system:

* `Reads` follows a file that is read. A read gives all the bytes asked for, fewer only at the end
  of the file, or it fails.
* `Writes` follows a file that is written. Bytes handed to it may be stored at once or stay pending
  until a flush; a write or a flush that fails may have stored a part of them.

Results:
* `stored_prefix_of_along`: what is stored stays stored.

The specification reads a file in blocks and writes it block by block (§4.5 and §4.6), and leaves
the file system to others (§1). These two relations are all that the proofs ask of it. They allow
more than real systems do: a write may store nothing, all or a part of its bytes, whether it fails
or not, and so may a flush that fails; only a flush that succeeds has stored everything.

Out of scope: who else writes to the file meanwhile, and the length that the system tells of it,
which need not be the number of bytes that can be read.
-/

namespace Tftp

/-! ## Reading -/

/-- `Reads rest e rest'`: with `rest` left to read, `e` is possible and leaves `rest'`. A failed
read leaves the position anywhere. -/
def Reads (rest : Bytes) (e : Event) (rest' : Bytes) : Prop :=
  match e with
  | ⟨.readBytes count, .ok bytes⟩ => bytes = rest.take count ∧ rest' = rest.drop count
  | ⟨.readBytes _, .error _⟩ => True
  | _ => rest' = rest

/-- The event reads from the file. -/
def Event.IsRead (e : Event) : Prop :=
  match e.call with
  | .readBytes _ => True
  | _ => False

theorem eq_of_reads {rest rest' : Bytes} {e : Event} (h : Reads rest e rest') (other : ¬ e.IsRead) :
    rest' = rest := by
  unfold Reads at h
  split at h
  · exact absurd trivial other
  · exact absurd trivial other
  · exact h

/-- As much is left to read after events that do not read. -/
theorem eq_of_along_reads {rest rest' : Bytes} {es : List Event} (h : Along Reads rest es rest')
    (other : ∀ e ∈ es, ¬ e.IsRead) : rest' = rest := by
  induction h with
  | nil => rfl
  | cons first _ ih =>
    rw [List.forall_mem_cons] at other
    rw [ih other.2, eq_of_reads first other.1]

/-! ## Writing -/

/-- A file that is being written. -/
structure OutputFile where
  /-- What is on the disk. -/
  stored : Bytes
  /-- What was handed to the file and is not on the disk yet. -/
  pending : Bytes

/-- A file just created or emptied. -/
def OutputFile.empty : OutputFile := ⟨[], []⟩

/-- `Writes f e f'`: event `e` is possible with the file as in `f` and leaves it as in `f'`. -/
def Writes (f : OutputFile) (e : Event) (f' : OutputFile) : Prop :=
  match e with
  | ⟨.writeBytes bytes, .ok ()⟩ =>
    ∃ out rest, f.pending ++ bytes = out ++ rest ∧ f' = ⟨f.stored ++ out, rest⟩
  | ⟨.writeBytes bytes, .error _⟩ =>
    ∃ out rest, out ++ rest <+: f.pending ++ bytes ∧ f' = ⟨f.stored ++ out, rest⟩
  | ⟨.flush, .ok ()⟩ => f' = ⟨f.stored ++ f.pending, []⟩
  | ⟨.flush, .error _⟩ => ∃ out rest, out ++ rest <+: f.pending ∧ f' = ⟨f.stored ++ out, rest⟩
  | _ => f' = f

/-- The event hands bytes to the file. -/
def Event.IsWrite (e : Event) : Prop :=
  match e.call with
  | .writeBytes _ => True
  | _ => False

/-- The events that are failures to store something. -/
def Event.IsWriteFailure : Event → Prop
  | ⟨.writeBytes _, .error _⟩ => True
  | ⟨.flush, .error _⟩ => True
  | _ => False

theorem stored_prefix_of_writes {f f' : OutputFile} {e : Event} (h : Writes f e f') :
    f.stored <+: f'.stored := by
  unfold Writes at h
  split at h
  · obtain ⟨out, rest, -, rfl⟩ := h
    exact List.prefix_append _ _
  · obtain ⟨out, rest, -, rfl⟩ := h
    exact List.prefix_append _ _
  · subst h
    exact List.prefix_append _ _
  · obtain ⟨out, rest, -, rfl⟩ := h
    exact List.prefix_append _ _
  · subst h
    exact List.prefix_refl _

/-- What is stored stays stored. -/
theorem stored_prefix_of_along {f g : OutputFile} {es : List Event} (h : Along Writes f es g) :
    f.stored <+: g.stored := by
  induction h with
  | nil => exact List.prefix_refl _
  | cons first _ ih => exact (stored_prefix_of_writes first).trans ih

end Tftp
