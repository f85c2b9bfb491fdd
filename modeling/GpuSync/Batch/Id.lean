import GpuSync.Queue
import GpuSync.Text.Record

/-!
# Batch identities

A batch lives in a slot that is used over and over. Its identity is the slot with a generation
that grows with every use.

## Main definitions

* `GpuSync.BatchId`, and `GpuSync.BatchUse` for a batch together with its queue.
-/

namespace GpuSync

/-- One use of a batch slot. -/
structure BatchId where
  /-- The slot. -/
  index : UInt32
  /-- How often the slot was used before. -/
  generation : UInt32
  deriving DecidableEq, Repr

namespace BatchId

/-- The next use of the same slot. -/
def next (id : BatchId) : BatchId := { id with generation := id.generation + 1 }

/-- Slot and generation, as in `3v1`. -/
def text (id : BatchId) : String := s!"{id.index}v{id.generation}"

/-- The identity in words. -/
def describe (id : BatchId) : String := Text.variant "BatchId" id.text

end BatchId

/-- A batch and the queue it runs on. -/
structure BatchUse where
  /-- The batch. -/
  batch : BatchId
  /-- Its queue. -/
  queue : Queue
  deriving DecidableEq, Repr

/-- The use in words. -/
def BatchUse.describe (user : BatchUse) : String :=
  Text.record "BatchUse" [("batch", user.batch.describe), ("queue", user.queue.name)]

end GpuSync
