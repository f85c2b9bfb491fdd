import GpuSync.Batch.Basic

/-!
# Committing a batch

A batch is committed once. The tracker then knows every resource of the batch in its final usage,
left there by this batch on its queue.

## Main definitions

* `GpuSync.Batch.commit`, which yields a `GpuSync.Batch.Commit`.
* `GpuSync.Batch.publish` publishes one passage.
-/

namespace GpuSync.Batch

/-- What committing a batch yields. -/
structure Commit where
  /-- How many resources were updated, or why none. -/
  answer : Except BatchError Nat
  /-- The batch afterwards. -/
  batch : Batch
  /-- The tracker afterwards. -/
  tracker : Tracker
  /-- What was logged, in order. -/
  notes : List Log.Entry

/-- What publishing some passages has come to. -/
structure Publication where
  /-- The tracker so far. -/
  tracker : Tracker
  /-- How many resources were updated. -/
  updated : Nat := 0
  /-- What was logged, in order. -/
  notes : List Log.Entry := []

/-- What is logged if a resource was not left in the usage that the batch declared to find. -/
def mismatchNotes (batch : Batch) (key : Key) (passage : Passage) (old : Tracker.Entry) :
    List Log.Entry :=
  if !old.isUndefined && old.current != passage.initial then
    let lastBatch := Text.optional (old.lastBatch.map (·.describe))
    let lastQueue := Text.optional (old.lastQueue.map (·.name))
    [Log.warn (s!"batch {batch.id.text} on {batch.queue.name} expected {key.text} in " ++
      s!"{passage.initial.name}, but it was left in {old.current.name} by {lastBatch} on " ++
      lastQueue)]
  else []

/-- Publishes one passage. A resource that is not tracked is passed over. The tracker then has the
final usage and the batch as the last user of the resource. -/
def publish (batch : Batch) (publication : Publication) (entry : Key × Passage) : Publication :=
  let (key, passage) := entry
  let (old, tracker) := publication.tracker.update key (some passage.final) batch.user
  match old with
  | none =>
    { publication with
      notes := publication.notes ++
        [Log.debug s!"batch {batch.id.text} used {key.text}, which is not tracked"] }
  | some old =>
    { tracker
      updated := publication.updated + 1
      notes := publication.notes ++ batch.mismatchNotes key passage old }

/-- The batch marked as committed. -/
def markCommitted (batch : Batch) : Batch := { batch with committed := true }

/-- A batch that is committed already has the mark. -/
theorem markCommitted_of_committed {batch : Batch} (committed : batch.committed = true) :
    batch.markCommitted = batch := by
  unfold markCommitted
  rw [← committed]

/-- Commits a batch: publishes the final usage of every resource. One write marks the batch as
committed and reads the mark from before, so a commit that is refused writes it, too. -/
def commit (batch : Batch) (tracker : Tracker) : Commit :=
  if batch.committed then
    ⟨.error (.alreadyCommitted batch.id), batch.markCommitted, tracker, []⟩
  else
    let publication := batch.passages.entries.foldl batch.publish { tracker }
    let note := Log.debug
      s!"committed batch {batch.id.text} on {batch.queue.name} with {batch.resourceCount} resources"
    ⟨.ok publication.updated, batch.markCommitted, publication.tracker,
      publication.notes ++ [note]⟩

/-- All that a commit does to the batch itself is to set the mark, whether it is the first one or is
refused. -/
theorem commit_batch (batch : Batch) (tracker : Tracker) :
    (batch.commit tracker).batch = batch.markCommitted := by
  unfold commit
  split <;> rfl

/-- A second commit is refused and changes nothing. -/
theorem commit_of_committed {batch : Batch} (committed : batch.committed = true)
    (tracker : Tracker) :
    batch.commit tracker = ⟨.error (.alreadyCommitted batch.id), batch, tracker, []⟩ := by
  unfold commit
  rw [if_pos committed, markCommitted_of_committed committed]

end GpuSync.Batch
