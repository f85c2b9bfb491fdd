import GpuSync.Batch.Commit
import GpuSync.Batch.Record
import GpuSync.Completion
import GpuSync.Ring.FrameId
import GpuSync.Text.Quoted

/-!
# Submissions

A submission is a batch with its place in a frame: the label, the position among the batches of
the same queue, and the signal that the device has finished it.

## Main definitions

* `GpuSync.Submission`, with its `status`.
* `GpuSync.Submission.complete` is called when the device has finished.
-/

namespace GpuSync

/-- A batch submitted in a frame. -/
structure Submission where
  /-- How many submissions were begun before. Identities of batches come round, this does not. -/
  serial : Nat
  /-- The book-keeping of the batch. -/
  batch : Batch
  /-- Its label. -/
  label : String
  /-- How many batches of the frame were submitted to its queue before. -/
  position : Nat
  /-- The frame. -/
  frame : FrameId
  /-- Raised when the device has finished the batch. -/
  completion : Completion := {}
  /-- How many tasks were recorded or given up. -/
  finished : Nat := 0

namespace Submission

/-- How far a submission has come. -/
inductive Status where
  /-- Its tasks are being recorded. -/
  | recording
  /-- Its final usages are published. -/
  | committed
  /-- The device has finished it. -/
  | complete
  deriving DecidableEq, Repr

/-- The word a status is written with. -/
def Status.name : Status → String
  | .recording => "Recording"
  | .committed => "Committed"
  | .complete => "Complete"

/-- Which batch it is. -/
def id (submission : Submission) : BatchId := submission.batch.id

/-- Whether the device has finished it. -/
def isComplete (submission : Submission) : Bool := submission.completion.done

/-- How far the submission has come. -/
def status (submission : Submission) : Status :=
  if submission.isComplete then .complete
  else if submission.batch.committed then .committed
  else .recording

/-- The device has finished the submission. Yields the wakers to wake. -/
def complete (submission : Submission) : List Nat × Submission × List Log.Entry :=
  match submission.completion.raise with
  | (none, _) => ([], submission, [])
  | (some woken, completion) =>
    (woken, { submission with completion },
      [Log.trace s!"batch {submission.id.text} '{submission.label}' completed"])

/-- The submission in words. -/
def describe (submission : Submission) : String :=
  Text.record "CommandBatch"
    [("id", submission.id.describe), ("label", Text.quote submission.label),
      ("queue", submission.batch.queue.name), ("frame", submission.frame.describe),
      ("status", submission.status.name)]

end Submission

end GpuSync
