import GpuSync.Batch.Id
import GpuSync.Resource.Usage

/-!
# What is known of a resource between batches

## Main definitions

* `GpuSync.Tracker.Entry`, with `isUndefined` and `lastUse`.
* `GpuSync.Tracker.Entry.fresh` for a resource that was just registered.
-/

namespace GpuSync.Tracker

/-- The state a tracked resource was left in. -/
structure Entry where
  /-- The usage the resource rests in while no batch uses it. -/
  resting : Usage
  /-- The usage the last committed batch left it in. -/
  current : Usage
  /-- That batch. -/
  lastBatch : Option BatchId
  /-- The queue of that batch. -/
  lastQueue : Option Queue
  /-- Whether the resource belongs to one queue at a time. -/
  exclusive : Bool
  deriving DecidableEq, Repr

namespace Entry

/-- A resource registered in some usage, left there by its owner if it has one. -/
def fresh (current resting : Usage) (owner : Option BatchUse) : Entry where
  resting := resting
  current := current
  lastBatch := owner.map (·.batch)
  lastQueue := owner.map (·.queue)
  exclusive := true

/-- No queue ever produced the contents, so the first use may discard them. -/
def isUndefined (entry : Entry) : Bool := entry.lastQueue.isNone

/-- The last batch with its queue, if both are known. -/
def lastUse (entry : Entry) : Option BatchUse := do
  return ⟨← entry.lastBatch, ← entry.lastQueue⟩

/-- The state after a batch left the resource in some usage, or at rest. -/
def leftBy (entry : Entry) (usage : Option Usage) (user : BatchUse) : Entry :=
  { entry with
    current := usage.getD entry.resting
    lastBatch := some user.batch
    lastQueue := some user.queue }

end Entry

end GpuSync.Tracker
