import GpuSync.Batch.Id
import GpuSync.Resource.Key
import GpuSync.Resource.Usage

/-!
# What can go wrong with a batch

## Main definitions

* `GpuSync.BatchError`, with its name `GpuSync.BatchError.name` and its wording
  `GpuSync.BatchError.message`.
-/

namespace GpuSync

/-- Why an operation on a batch was refused. Every error names the batch, and most of them the task
or the resource that is at fault. -/
inductive BatchError where
  /-- A table of resources is full. -/
  | tooManyResources (batch : BatchId) (limit : Nat)
  /-- A batch has no task with this index. -/
  | taskOutOfRange (batch : BatchId) (task limit : Nat)
  /-- The task was begun before. -/
  | taskAlreadyBegun (batch : BatchId) (task : Nat)
  /-- The task was not begun yet. -/
  | taskNotBegun (batch : BatchId) (task : Nat)
  /-- The task does not exist yet. -/
  | taskNotCreated (batch : BatchId) (task : Nat)
  /-- Only the newest task may declare resources. -/
  | taskNotNewest (batch : BatchId) (task : Nat)
  /-- A task declares each resource once. -/
  | resourceAlreadyDeclared (batch : BatchId) (task : Nat) (key : Key)
  /-- A resource is declared again, to be found in another usage. -/
  | conflictingInitial (batch : BatchId) (key : Key) (declared requested : Usage)
  /-- Resources of the whole batch are declared before its first task. -/
  | alreadyStarted (batch : BatchId)
  /-- A batch is committed once. -/
  | alreadyCommitted (batch : BatchId)
  deriving DecidableEq, Repr

/-- The name an error goes by. -/
def BatchError.name : BatchError → String
  | .tooManyResources .. => "TooManyResources"
  | .taskOutOfRange .. => "TaskOutOfRange"
  | .taskAlreadyBegun .. => "TaskAlreadyBegun"
  | .taskNotBegun .. => "TaskNotBegun"
  | .taskNotCreated .. => "TaskNotCreated"
  | .taskNotNewest .. => "TaskNotNewest"
  | .resourceAlreadyDeclared .. => "ResourceAlreadyDeclared"
  | .conflictingInitial .. => "ConflictingInitialState"
  | .alreadyStarted .. => "BatchAlreadyStarted"
  | .alreadyCommitted .. => "AlreadyCommitted"

/-- The wording of an error. -/
def BatchError.message : BatchError → String
  | .tooManyResources batch limit =>
    s!"Batch {batch.text} uses more than the maximum of {limit} resources"
  | .taskOutOfRange batch task limit =>
    s!"Task {task} of batch {batch.text} is out of range, a batch may have at most {limit} tasks"
  | .taskAlreadyBegun batch task => s!"Task {task} of batch {batch.text} was already begun"
  | .taskNotBegun batch task => s!"Task {task} of batch {batch.text} was not begun"
  | .taskNotCreated batch task => s!"Task {task} of batch {batch.text} was not created"
  | .taskNotNewest batch task =>
    s!"Task {task} of batch {batch.text} can not declare resources, a later task was already " ++
      "created"
  | .resourceAlreadyDeclared batch task key =>
    s!"Resource {key.text} was already declared by task {task} of batch {batch.text}"
  | .conflictingInitial batch key declared requested =>
    s!"Resource {key.text} is already used by batch {batch.text} with initial state " ++
      s!"{declared.name}, can not redeclare it with initial state {requested.name}"
  | .alreadyStarted batch =>
    s!"Batch {batch.text} already created tasks, batch wide resources must be declared before"
  | .alreadyCommitted batch => s!"Batch {batch.text} was already committed"

end GpuSync
