import GpuSync.Span

/-!
# Shapes of slot pools

A pool consists of chunks of equal size, a power of two. The slots of a chunk are searched in
groups of sixty-four.

## Main definitions

* `GpuSync.Slot.Shape` is a chunk size and a number of chunks.
* `GpuSync.Slot.Shape.capacity`, `GpuSync.Slot.Shape.groups` and `GpuSync.Slot.Shape.start`.
* `GpuSync.Slot.Shape.ofSizes?` reads a shape off the two sizes, `GpuSync.Slot.Shape.ofText?` off
  its written form.
-/

namespace GpuSync.Slot

/-- How many slots one group has. -/
def groupSize : Nat := 64

/-- A pool has at most so many chunks. -/
def maxChunks : Nat := 64

/-- A pool of one chunk is small enough. -/
theorem one_le_maxChunks : 1 ≤ maxChunks := by decide

/-- The sizes of a pool. -/
structure Shape where
  /-- A chunk has `span bits` slots. -/
  bits : Nat
  /-- How many chunks the pool may fill. -/
  chunks : Nat
  /-- A chunk has at least one group. -/
  bits_ge : 6 ≤ bits
  /-- A chunk has at most sixty-four groups. -/
  bits_le : bits ≤ 12
  /-- A pool has a chunk. -/
  chunks_pos : 1 ≤ chunks
  /-- The chunks are not too many. -/
  chunks_le : chunks ≤ maxChunks
  deriving DecidableEq

namespace Shape

/-- The smallest shape: one chunk of one group. -/
def single : Shape where
  bits := 6
  chunks := 1
  bits_ge := by decide
  bits_le := by decide
  chunks_pos := by decide
  chunks_le := one_le_maxChunks

/-- How many slots one chunk has. -/
def chunkSize (shape : Shape) : Nat := span shape.bits

/-- How many groups one chunk has. -/
def groups (shape : Shape) : Nat := shape.chunkSize / groupSize

/-- How many slots the pool has. -/
def capacity (shape : Shape) : Nat := shape.chunkSize * shape.chunks

/-- The group of a chunk at which a search with this seed starts. -/
def start (shape : Shape) (seed : Nat) : Nat := seed % shape.groups

/-- A chunk consists of groups. -/
theorem groupSize_mul_groups (shape : Shape) : groupSize * shape.groups = shape.chunkSize := by
  obtain ⟨more, eq⟩ := Nat.exists_eq_add_of_le shape.bits_ge
  have whole : shape.chunkSize = groupSize * span more := by
    rw [chunkSize, eq, span_add]
    rfl
  rw [groups, whole, Nat.mul_div_cancel_left _ (by decide)]

/-- A chunk has at least one group. -/
theorem groups_pos (shape : Shape) : 0 < shape.groups := by
  have pos : 0 < shape.chunkSize := span_pos shape.bits
  rw [← groupSize_mul_groups] at pos
  exact Nat.pos_of_mul_pos_left pos

/-- A word has a bit for each group of a chunk. -/
theorem groups_le (shape : Shape) : shape.groups ≤ 64 := by
  obtain ⟨less, eq⟩ := Nat.exists_eq_add_of_le shape.bits_le
  have bound : shape.chunkSize * span less = groupSize * 64 := by
    rw [chunkSize, ← span_add, ← eq]
    rfl
  have pos : 0 < span less := span_pos less
  rw [← groupSize_mul_groups, Nat.mul_assoc] at bound
  have bound := Nat.eq_of_mul_eq_mul_left (by decide) bound
  exact Nat.le_trans (Nat.le_mul_of_pos_right _ pos) (Nat.le_of_eq bound)

/-- The shape with these sizes, if there is one. -/
def ofSizes? (chunkSize chunks : Nat) : Option Shape :=
  let bits := Nat.log2 chunkSize
  if h : span bits = chunkSize ∧ 6 ≤ bits ∧ bits ≤ 12 ∧ 1 ≤ chunks ∧ chunks ≤ maxChunks then
    some ⟨bits, chunks, h.2.1, h.2.2.1, h.2.2.2.1, h.2.2.2.2⟩
  else none

/-- The shape written as its chunk size and its number of chunks, as in `128x4`. -/
def ofText? (text : String) : Option Shape :=
  match text.splitOn "x" with
  | [chunkSize, chunks] => do ofSizes? (← chunkSize.toNat?) (← chunks.toNat?)
  | _ => none

end Shape

end GpuSync.Slot
