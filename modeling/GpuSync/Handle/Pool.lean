import GpuSync.Handle.Basic
import GpuSync.Slot.Pool

/-!
# Handle pools

Handles are the slots of a slot pool. The value of a slot is the generation that its next handle
gets, and freeing a handle moves its slot on to the next generation, so the handle is stale from
then on.

## Main definitions

* `GpuSync.Handle.Pool` with `alloc`, `free`, `isAlive` and `size`.
-/

namespace GpuSync.Handle

/-- A pool of handles: each slot has the generation of its current or next handle. -/
structure Pool (shape : Slot.Shape) where
  /-- The slots with their generations. -/
  slots : Slot.Pool shape UInt32

namespace Pool

variable {shape : Slot.Shape}

/-- A pool that never handed out a handle. -/
def empty : Pool shape := ⟨.empty⟩

/-- Hands out a handle to a free slot, which goes on with the generation it has. -/
def alloc (pool : Pool shape) (seed : Nat) : Except Slot.PoolError (Handle × Pool shape) := do
  let assigned ← pool.slots.assignWith seed (Slot.Pool.yielding 0) Slot.Pool.yielding
  let generation := (assigned.pool.values.find? assigned.index).getD 0
  return (.pack (UInt32.ofNat assigned.index) generation, ⟨assigned.pool⟩)

/-- Whether a handle was handed out and not freed since. -/
def isAlive (pool : Pool shape) (handle : Handle) : Bool :=
  pool.slots.get? handle.index.toNat == some handle.generation

/-- Frees a handle and moves its slot to the next generation. Tells whether it was alive; nothing
changes if it was not. -/
def free (pool : Pool shape) (handle : Handle) : Bool × Pool shape :=
  if pool.isAlive handle then
    let next := (handle.generation + 1) % generationCount
    let moved := pool.slots.modify handle.index.toNat fun _ => next
    (true, ⟨(moved.unassign handle.index.toNat).2⟩)
  else (false, pool)

/-- How many handles are alive. -/
def size (pool : Pool shape) : Nat := pool.slots.assignedCount

/-- The pool in words. -/
def describe (pool : Pool shape) : String :=
  Text.record "HandlePool" [("len", toString pool.size)]

end Pool

end GpuSync.Handle
