import GpuSync.Command.Transcript
import GpuSync.Submission.Basic

/-!
# Recording a submission

The tasks of a submission are created one by one. A task is finished once it was recorded, or was
given up, or had a declaration refused; so no task ever keeps its submission from being committed.
The submission is committed as soon as all its tasks are finished and one of them is the last.

## Main definitions

* `GpuSync.Recording` is a submission with all that recording it changes.
* `GpuSync.Recorder` is an action on a recording that may be refused.
* `GpuSync.Recording.createTask`, `GpuSync.Recording.declare`, `GpuSync.Recording.abandon` and
  `GpuSync.Recording.run` are the life of a task.
* `GpuSync.Recording.goThrough` takes the steps of a body one by one.
-/

namespace GpuSync

/-- A task that was created and is not finished. -/
structure Submission.Task where
  /-- Its index in the batch. -/
  index : Nat
  /-- Its label. -/
  label : String
  /-- Whether it is to be the last task of the batch. -/
  last : Bool := false
  deriving DecidableEq, Repr

/-- A submission and all that recording it changes. -/
structure Recording where
  /-- The submission. -/
  submission : Submission
  /-- The tracker it publishes to. -/
  tracker : Tracker
  /-- Where its commands go. -/
  transcript : Transcript
  /-- What was logged, in order. -/
  notes : List Log.Entry := []

/-- An action on a recording, with an answer unless it is refused. -/
abbrev Recorder (α : Type) := Recording → Except BatchError α × Recording

namespace Recording

open Submission (Task)

variable {α : Type}

/-- The book-keeping of the batch. -/
def batch (recording : Recording) : Batch := recording.submission.batch

/-- Adds to the log. -/
def log (recording : Recording) (notes : List Log.Entry) : Recording :=
  { recording with notes := recording.notes ++ notes }

/-- Carries commands out. -/
def carryOut (recording : Recording) (commands : List Command) : Recording :=
  { recording with transcript := recording.transcript.run commands }

/-- Makes an operation on the batch an action on the recording. -/
def onBatch (operation : Batch → Tracker → Batch.Outcome α) : Recorder α := fun recording =>
  let outcome := operation recording.batch recording.tracker
  (outcome.answer,
    ({ recording with
        submission := { recording.submission with batch := outcome.batch } }.carryOut
      outcome.commands).log outcome.notes)

/-- Publishes the final usages of the batch. -/
def commit : Recorder Nat := fun recording =>
  let result := recording.batch.commit recording.tracker
  (result.answer,
    { recording with
      submission := { recording.submission with batch := result.batch }
      tracker := result.tracker }.log result.notes)

/-! ## Finishing tasks

A task is counted as finished once, whether it was recorded, let go or lost to a refusal. The count
is what tells when to commit. -/

/-- Counts one more task as finished. With all tasks finished and the last one marked, the batch is
committed, unless it was committed before. -/
def settle (recording : Recording) : Recording :=
  let finished := recording.submission.finished + 1
  let counted := { recording with submission := { recording.submission with finished } }
  let batch := counted.batch
  if finished = batch.taskCount && batch.lastTask.isSome && !batch.committed then
    match counted.commit with
    | (.ok _, committed) => committed
    | (.error error, refused) =>
      refused.log
        [Log.warn s!"batch {batch.id.text} '{counted.submission.label}': {error.message}"]
  else counted

/-- Lets a task go, recorded or not. A task that never began is logged, and still marks the last
one if it was to be. -/
def abandon (recording : Recording) (task : Task) : Recording :=
  if recording.batch.isBegun task.index then recording.settle
  else
    let note := Log.warn (s!"task {task.index} '{task.label}' of batch " ++
      s!"{recording.batch.id.text} was dropped without running")
    let noted := recording.log [note]
    let marked :=
      if task.last then (onBatch (fun batch _ => batch.markLast task.index) noted).2 else noted
    marked.settle

/-! ## The life of a task

A task is created, declares its resources and is then run. If a step is refused before it is run,
the task is let go by that step. -/

/-- Creates the next task. -/
def createTask (label : String) : Recorder Task := fun recording =>
  let (answer, created) := onBatch (fun batch _ => batch.createTask) recording
  (answer.map fun index => { index, label }, created)

/-- Lets a task go if what was done for it was refused. -/
def keepIfDone (task : Task) (action : Recorder α) : Recorder α := fun recording =>
  match action recording with
  | (.ok answer, after) => (.ok answer, after)
  | (.error error, after) => (.error error, after.abandon task)

/-- Declares that a task finds a resource in one usage and leaves it in another. If that is refused
the task is let go. -/
def declare (task : Task) (key : Key) (initial final : Usage) : Recorder Batch.TaskUse :=
  keepIfDone task (onBatch fun batch tracker => batch.declare tracker task.index key initial final)

/-- Declares that a task uses a resource in the usage the task before leaves it in. If that is
refused the task is let go. -/
def declareDefault (task : Task) (key : Key) : Recorder Batch.TaskUse :=
  keepIfDone task (onBatch fun batch tracker => batch.declareDefault tracker task.index key)

/-- Labels and begins a task. If that is refused the task is let go. -/
def start (task : Task) : Recorder Unit := fun recording =>
  keepIfDone task (onBatch fun batch _ => batch.beginTask task.index task.last)
    (recording.carryOut [.label task.label])

/-- Finishes a task whose body had this answer, and lets it go. The task is finished also if its
body was refused, so the tasks after it find the resources as promised. -/
def close (task : Task) (answer : Except BatchError α) : Recorder α := fun recording =>
  let noted :=
    match answer with
    | .ok _ => recording
    | .error error =>
      recording.log [Log.warn (s!"task {task.index} '{task.label}' of batch " ++
        s!"{recording.batch.id.text} failed: {error.message}")]
  match onBatch (fun batch _ => batch.finish task.index) noted with
  | (.error error, refused) => (.error error, refused.abandon task)
  | (.ok (), finished) => (answer, finished.abandon task)

/-- Records a task: begins it, goes through its body and finishes it. -/
def run (task : Task) (body : Recorder α) : Recorder α := fun recording =>
  match start task recording with
  | (.error error, refused) => (.error error, refused)
  | (.ok (), started) =>
    let (answer, through) := body started
    close task answer through

/-! ## In the body of a task

The body of a task may move resources, ask for barriers and create further tasks. Each step is
answered, and what was recorded before a refused step stays recorded. -/

/-- Moves a resource to a usage. -/
def report (task : Nat) (key : Key) (usage : Usage) : Recorder Unit :=
  onBatch fun batch tracker => batch.report tracker task key usage

/-- Moves several resources in order, up to the first one refused. -/
def reportMany (task : Nat) : List (Key × Usage) → Recorder Unit
  | [] => fun recording => (.ok (), recording)
  | (key, usage) :: rest => fun recording =>
    match report task key usage recording with
    | (.ok (), after) => reportMany task rest after
    | (.error error, after) => (.error error, after)

/-- Gives the contents of a resource up. -/
def discard (task : Nat) (key : Key) : Recorder Bool :=
  onBatch fun batch _ => batch.discard task key

/-- Sets the usage of a resource without a barrier. -/
def override (task : Nat) (key : Key) (usage : Usage) : Recorder (Option Usage) :=
  onBatch fun batch tracker => batch.override tracker task key usage

/-- Whether a resource is in some usage. -/
def isIn (task : Nat) (key : Key) (usage : Usage) : Recorder Bool := fun recording =>
  (recording.batch.isIn recording.tracker task key usage, recording)

/-- Makes the writes of the task visible to the host. -/
def readback (task : Nat) : Recorder Bool :=
  onBatch fun batch _ => batch.readback task

/-- Makes the host's writes visible to the task. -/
def upload (task : Nat) (dst : Usage) : Recorder Bool :=
  onBatch fun batch _ => batch.upload task dst

/-- Records the barriers emitted so far as one group. -/
def flush : Recorder Unit := fun recording => (.ok (), recording.carryOut [.flush])

/-- Creates a task in the body of another, and lets it go at once. Answers its index. -/
def spawn (label : String) : Recorder Nat := fun recording =>
  match createTask label recording with
  | (.ok task, created) => (.ok task.index, created.abandon task)
  | (.error error, refused) => (.error error, refused)

/-- Goes through the steps of a body, which ends at the first one refused unless it is to keep
going. Yields the answers of the steps taken, and how the body ends. -/
def goThrough (keepGoing : Bool) :
    List (Recorder α) → Recording → List (Except BatchError α) × Except BatchError Unit × Recording
  | [], recording => ([], .ok (), recording)
  | step :: rest, recording =>
    match step recording with
    | (.ok answer, after) =>
      let (answers, ending, final) := goThrough keepGoing rest after
      (.ok answer :: answers, ending, final)
    | (.error error, after) =>
      if keepGoing then
        let (answers, ending, final) := goThrough keepGoing rest after
        (.error error :: answers, ending, final)
      else ([.error error], .error error, after)

end Recording

end GpuSync
