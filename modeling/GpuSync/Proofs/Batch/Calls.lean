import GpuSync.Batch.Commit
import GpuSync.Batch.Declare
import GpuSync.Batch.Record

/-!
# Calls on a batch

A batch is used through calls. This file gives every call as data, so that a run of a batch is a
list of calls, and what is true of all runs can be proved by induction on that list. Other batches
commit to the same tracker in between, so every call of a run comes with the tracker it meets.

* `Batch.Call` is one call with its arguments, and `Batch.Reply` what an accepted call answers.
* `Batch.perform` carries a call out; its `Batch.Turn` has the batch and the tracker afterwards.
* `Batch.run` carries calls out in order and keeps a log of `Batch.Event`s.
* `Batch.Event.barriersOn` and `Batch.barriersBy` are the barriers on one resource that a call, or
  all calls on one task, emitted.
-/

namespace GpuSync.Batch

/-- A call on a batch, with its arguments. -/
inductive Call where
  /-- Declares a resource for the whole batch. -/
  | use (key : Key) (initial final : Usage)
  /-- Declares a resource at rest for the whole batch. -/
  | useAtRest (key : Key)
  /-- Declares the images of an output surface for the whole batch. -/
  | useTargets (targets : List Handle)
  /-- Makes the host's writes visible as the first task begins. -/
  | uploadMemory
  /-- Makes the device's writes visible to the host after the last task. -/
  | readbackMemory
  /-- Decides whether accesses in one and the same usage go without barriers. -/
  | setRelaxed (relaxed : Bool)
  /-- Creates the next task. -/
  | createTask
  /-- Declares a resource for the newest task. -/
  | declare (task : Nat) (key : Key) (initial final : Usage)
  /-- Declares a resource for the newest task as the tasks before leave it. -/
  | declareDefault (task : Nat) (key : Key)
  /-- Marks the last task. -/
  | markLast (task : Nat)
  /-- Begins a task, and marks it as the last one if told so. -/
  | beginTask (task : Nat) (last : Bool)
  /-- Moves a resource to a usage within a task. -/
  | report (task : Nat) (key : Key) (usage : Usage)
  /-- Gives the contents of a resource up within a task. -/
  | discard (task : Nat) (key : Key)
  /-- Sets the usage of a resource within a task without a barrier. -/
  | override (task : Nat) (key : Key) (usage : Usage)
  /-- Asks whether a resource is in some usage within a task. -/
  | isIn (task : Nat) (key : Key) (usage : Usage)
  /-- Makes the writes of a task visible to the host. -/
  | readback (task : Nat)
  /-- Makes the host's writes visible to a task. -/
  | upload (task : Nat) (dst : Usage)
  /-- Finishes a task. -/
  | finish (task : Nat)
  /-- Commits the batch. -/
  | commit
  deriving DecidableEq

/-- The task that a call records, if it does. -/
def Call.recorded? : Call → Option Nat
  | .beginTask task _ | .report task _ _ | .discard task _ | .override task _ _ | .isIn task _ _
  | .readback task | .upload task _ | .finish task => some task
  | _ => none

/-- What an accepted call answers. -/
inductive Reply where
  /-- Nothing but that it is done. -/
  | done
  /-- What is known of a resource in the batch. -/
  | passage (passage : Passage)
  /-- The index of a task. -/
  | task (index : Nat)
  /-- What is known of a resource in a task. -/
  | taskUse (use : TaskUse)
  /-- Yes or no. -/
  | flag (holds : Bool)
  /-- The usage before, if there was one. -/
  | before (usage : Option Usage)
  /-- How many resources were updated. -/
  | updated (count : Nat)
  deriving DecidableEq

/-- What a call comes to. -/
structure Turn where
  /-- The answer, or why there is none. -/
  answer : Except BatchError Reply
  /-- The batch afterwards. -/
  batch : Batch
  /-- The tracker afterwards. -/
  tracker : Tracker
  /-- The commands recorded, in order. -/
  commands : List Command := []
  /-- What was logged, in order. -/
  notes : List Log.Entry := []

/-- The turn of an operation that leaves the tracker as it is. -/
def Outcome.turn {α : Type} (outcome : Outcome α) (tracker : Tracker) (reply : α → Reply) :
    Turn where
  answer := outcome.answer.map reply
  batch := outcome.batch
  tracker := tracker
  commands := outcome.commands
  notes := outcome.notes

/-- The turn of a commit. -/
def Commit.turn (commit : Commit) : Turn where
  answer := commit.answer.map .updated
  batch := commit.batch
  tracker := commit.tracker
  notes := commit.notes

/-- Carries a call out. The operations of a batch under one head, so that what holds of all of them
can be stated as what holds of a call. -/
def perform (batch : Batch) (tracker : Tracker) : Call → Turn
  | .use key initial final => (batch.use tracker key initial final).turn tracker .passage
  | .useAtRest key => (batch.useAtRest tracker key).turn tracker .passage
  | .useTargets targets => (batch.useTargets tracker targets).turn tracker fun _ => .done
  | .uploadMemory => (batch.uploadMemory.answering ()).turn tracker fun _ => .done
  | .readbackMemory => (batch.readbackMemory.answering ()).turn tracker fun _ => .done
  | .setRelaxed relaxed => ((batch.setRelaxed relaxed).answering ()).turn tracker fun _ => .done
  | .createTask => batch.createTask.turn tracker .task
  | .declare task key initial final =>
    (batch.declare tracker task key initial final).turn tracker .taskUse
  | .declareDefault task key => (batch.declareDefault tracker task key).turn tracker .taskUse
  | .markLast task => (batch.markLast task).turn tracker .flag
  | .beginTask task last => (batch.beginTask task last).turn tracker fun _ => .done
  | .report task key usage => (batch.report tracker task key usage).turn tracker fun _ => .done
  | .discard task key => (batch.discard task key).turn tracker .flag
  | .override task key usage => (batch.override tracker task key usage).turn tracker .before
  | .isIn task key usage =>
    ⟨(batch.isIn tracker task key usage).map .flag, batch, tracker, [], []⟩
  | .readback task => (batch.readback task).turn tracker .flag
  | .upload task dst => (batch.upload task dst).turn tracker .flag
  | .finish task => (batch.finish task).turn tracker fun _ => .done
  | .commit => (batch.commit tracker).turn

/-! ## Runs

The log keeps the calls with their answers and commands, so that what was emitted can be sorted by
task and by resource afterwards. A refused call stays in the log, with its error and without
commands. -/

/-- A call that was carried out, with its answer and the commands it recorded. -/
structure Event where
  /-- The call. -/
  call : Call
  /-- Its answer. -/
  answer : Except BatchError Reply
  /-- The commands it recorded, in order. -/
  commands : List Command

/-- Whether the call was accepted. -/
def Event.accepted (event : Event) : Bool := event.answer.toBool

/-- A batch with the log of the calls on it. The log keeps refused calls as well, since a refusal
can be seen. -/
structure Run where
  /-- The batch. -/
  batch : Batch
  /-- The calls carried out so far, in order. -/
  log : List Event := []

/-- Goes on with one more call, which meets some tracker. -/
def Run.next (run : Run) (call : Tracker × Call) : Run where
  batch := (run.batch.perform call.1 call.2).batch
  log :=
    let turn := run.batch.perform call.1 call.2
    run.log ++ [⟨call.2, turn.answer, turn.commands⟩]

/-- Carries calls out in order. -/
def run (batch : Batch) (calls : List (Tracker × Call)) : Run :=
  calls.foldl Run.next { batch }

/-- The barriers on one resource among some barriers. -/
def onKey (key : Key) (barriers : List Barrier) : List Barrier :=
  barriers.filter (·.key = some key)

/-- The barriers on one resource that a call emitted. -/
def Event.barriersOn (key : Key) (event : Event) : List Barrier :=
  onKey key (Command.barriers event.commands)

/-- The calls that record one task, in order. Calls on other tasks and on the batch as a whole are
left out. -/
def recordingOf (task : Nat) (log : List Event) : List Event :=
  log.filter (·.call.recorded? = some task)

/-- The barriers on one resource that one task emitted, in order. -/
def barriersBy (log : List Event) (task : Nat) (key : Key) : List Barrier :=
  (recordingOf task log).flatMap (·.barriersOn key)

/-! ## One more call

All these functions of a log are defined entry by entry. So each is a monoid map, and a run is
followed by what its last call adds. -/

/-- A batch that was not called is left as it is. -/
@[simp] theorem run_nil (batch : Batch) : batch.run [] = { batch } := rfl

/-- A run goes on with the last call. -/
@[simp] theorem run_append (batch : Batch) (calls : List (Tracker × Call))
    (call : Tracker × Call) : batch.run (calls ++ [call]) = (batch.run calls).next call := by
  simp [run]

/-- No barrier is on a resource if there is none. -/
@[simp] theorem onKey_nil (key : Key) : onKey key [] = [] := rfl

/-- The barriers on a resource are told apart one by one. -/
@[simp] theorem onKey_append (key : Key) (a b : List Barrier) :
    onKey key (a ++ b) = onKey key a ++ onKey key b := by
  simp [onKey]

/-- A task that was not called emitted nothing. -/
@[simp] theorem barriersBy_nil (task : Nat) (key : Key) : barriersBy [] task key = [] := rfl

/-- What is recorded for a task is the sum of what the parts of a log recorded for it. -/
theorem recordingOf_append (task : Nat) (a b : List Event) :
    recordingOf task (a ++ b) = recordingOf task a ++ recordingOf task b := by
  simp [recordingOf]

/-- A further call adds its barriers to those of the task it records, and to no other. -/
theorem barriersBy_append (log : List Event) (event : Event) (task : Nat) (key : Key) :
    barriersBy (log ++ [event]) task key =
      barriersBy log task key ++
        if event.call.recorded? = some task then event.barriersOn key else [] := by
  unfold barriersBy
  rw [recordingOf_append, List.flatMap_append]
  congr 1
  by_cases h : event.call.recorded? = some task <;> simp [recordingOf, h]

end GpuSync.Batch
