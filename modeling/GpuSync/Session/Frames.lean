import GpuSync.Session.Basic

/-!
# Frames and tasks of a session

## Main definitions

* `GpuSync.Session.adoptRing` takes over the outcome of an operation on the ring;
  `GpuSync.Session.submit` opens, declares and begins a batch.
* `GpuSync.Session.completeAll` completes batches, `GpuSync.Session.completeInFlight` all of them.
* `GpuSync.Session.createTask`, `GpuSync.Session.declareFor`, `GpuSync.Session.dropTask` and
  `GpuSync.Session.runTask` act on tasks.
-/

namespace GpuSync.Session

open Submission (Task)

variable {α : Type}

/-! ## The ring

A batch is held as long as it has a name or a task that is not finished. This is what decides
whether its slot may use its object again. -/

/-- Takes over the outcome of an operation on the ring. -/
def adoptRing (outcome : FrameRing.Outcome α) : Action (Except FrameRing.RingError α) := do
  setRing outcome.ring
  log outcome.notes
  return outcome.answer

/-- Whether a batch has a name or a task that is not finished. -/
def holds (session : Session) (id : BatchId) : Bool :=
  (session.tasks.entries.any fun entry => entry.2.1 == id) ||
    session.batches.entries.any fun entry =>
      match entry.2 with
      | .loose _ => false
      | .submitted other => other == id

/-- What submitting a batch has come to. -/
inductive Submitted where
  /-- The ring refused to open it. -/
  | notOpened (error : FrameRing.RingError)
  /-- One of its declarations was refused, and it was given up. -/
  | notDeclared (error : BatchError)
  /-- It was given up. -/
  | abandoned (id : BatchId)
  /-- It was begun. -/
  | begun (submission : Submission)

/-- Opens a batch on a queue, declares it, and begins it under a name unless it is to be given
up. -/
def submit (name label : String) (queue : Queue) (declarations : List Batch.Declaration)
    (abandon : Bool) : Action Submitted := do
  let held := (← get).holds
  match ← adoptRing ((← theRing).openBatch held queue) with
  | .error error => return .notOpened error
  | .ok draft => do
    let declared := draft.batch.declareAll (← get).tracker declarations
    log declared.notes
    match declared.answer with
    | .error error => return .notDeclared error
    | .ok () =>
      if abandon then return .abandoned declared.batch.id
      else do
        let (submission, ring, notes) :=
          (← theRing).beginBatch { draft with batch := declared.batch } label
        setRing ring
        log notes
        modify fun session => { session with
          batches := session.batches.insert name (.submitted submission.id)
          issued := session.issued.insert name submission.id }
        return .begun submission

/-- Lets a name of a batch go. Tells whether there was one. -/
def forget (name : String) : Action Bool := do
  let known := ((← get).batches.find? name).isSome
  modify fun session => { session with batches := session.batches.erase name }
  return known

/-! ## Completion

The device finishes batches in any order. Who watches a batch is woken then. -/

/-- The device has finished some batches. -/
def completeAll (ids : List BatchId) : Action Unit := do
  let (woken, ring, notes) := (← theRing).completeAll ids
  setRing ring
  log notes
  modify fun session => { session with wakes := session.wakes + woken.length }

/-- The device finishes everything in flight, and some more batches. -/
def completeInFlight (more : List BatchId) : Action Unit := do
  completeAll ((← theRing).inFlight ++ more)

/-- Watches a batch under a name. Tells whether the name was in use. -/
def watch (name : String) (id : BatchId) : Action Bool := do
  let known := ((← get).futures.find? name).isSome
  modify fun session => { session with futures := session.futures.insert name id }
  return known

/-- Polls a future. Tells whether it was done before, and whether it is ready. -/
def poll (name : String) : Action (Bool × Bool) := do
  let submission ← submission (← (← get).futures.find? name)
  let signal := some submission.completion
  let (ready, polled) := Completion.poll signal 0
  setSubmission { submission with completion := polled.getD submission.completion }
  return (Completion.isDone signal, ready)

/-! ## Tasks

A task is taken out of the session while it is run, and is let go when its body ends or is refused.
-/

/-- Records on a submission, into a transcript. -/
def record (id : BatchId) (transcript : Transcript) (recorder : Recording → α × Recording) :
    Action (α × Transcript) := do
  let (answer, after) :=
    recorder { submission := ← submission id, tracker := (← get).tracker, transcript }
  modify fun session => { session with tracker := after.tracker }
  setSubmission after.submission
  log after.notes
  return (answer, after.transcript)

/-- The task that a name stands for, with its batch. -/
def task (name : String) : Action (BatchId × Task) := do (← get).tasks.find? name

/-- Lets the name of a task go. -/
def forgetTask (name : String) : Action Unit :=
  modify fun session => { session with tasks := session.tasks.erase name }

/-- Gives a name to a task. -/
def nameTask (name : String) (id : BatchId) (task : Task) : Action Unit :=
  modify fun session => { session with tasks := session.tasks.insert name (id, task) }

/-- Creates a task under a name. A task that had the name is let go. -/
def createTask (name label : String) (id : BatchId) : Action (Except BatchError Nat) := do
  match ← record id {} (Recording.createTask label) with
  | (.error error, _) => return .error error
  | (.ok created, _) => do
    let former := (← get).tasks.find? name
    nameTask name id created
    match former with
    | none => return .ok created.index
    | some (other, old) => do
      let _ ← record other {} fun recording => ((), recording.abandon old)
      return .ok created.index

/-- Declares something for a task. If that is refused the task is gone. -/
def declareFor (name : String) (declaration : Task → Recorder α) :
    Action (Except BatchError α) := do
  let (id, task) ← task name
  let (answer, _) ← record id {} (declaration task)
  match answer with
  | .ok _ => return answer
  | .error _ => do
    forgetTask name
    return answer

/-- Lets a task go. Tells how far its submission has come then. -/
def dropTask (name : String) : Action Submission.Status := do
  let (id, task) ← task name
  forgetTask name
  let _ ← record id {} fun recording => ((), recording.abandon task)
  return (← submission id).status

/-- What running a task yields. -/
structure Run (α : Type) where
  /-- How it ended. -/
  ending : Except BatchError Unit
  /-- The answers of the steps taken. -/
  answers : List (Except BatchError α)
  /-- How far the submission has come then. -/
  status : Submission.Status

/-- Runs a task, step by step, into a transcript. -/
def runTask (name reelName : String) (keepGoing : Bool) (steps : List (Recorder α)) :
    Action (Run α) := do
  let (id, task) ← task name
  forgetTask name
  let reel ← reel reelName
  let ((ending, answers), transcript) ← record id reel.transcript fun recording =>
    match Recording.start task recording with
    | (.error error, refused) => ((.error error, []), refused)
    | (.ok (), started) =>
      let (answers, ending, through) := Recording.goThrough keepGoing steps started
      let (ending, closed) := Recording.close task ending through
      ((ending, answers), closed)
  setReel reelName { reel with transcript }
  return { ending, answers, status := (← submission id).status }

end GpuSync.Session
