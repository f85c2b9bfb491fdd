import GpuSync.Batch.Error
import GpuSync.Batch.KeyTable
import GpuSync.Batch.TaskSet
import GpuSync.Command.Basic
import GpuSync.Log
import GpuSync.Tracker.Basic

/-!
# Batches

A batch is a sequence of tasks on one queue, with the book-keeping of every resource they use.

1. Resources of the whole batch are declared: the usage each is found in and is left in.
2. Tasks are created one after another. Each starts with the usages in which the tasks before it
   leave the resources, and the newest may declare resources of its own.
3. Tasks are recorded, in any order, each on its own table: beginning a task brings the resources
   into their usages, reports move them within the task, and finishing it leaves them as promised.
4. Committing the batch publishes its final usages to the tracker.

## Main definitions

* `GpuSync.Batch`, with `new` and `reset`.
* `GpuSync.Batch.Passage`, `GpuSync.Batch.TaskUse` and `GpuSync.Batch.Scope` are what is known of
  a resource in the batch, of a resource in a task, and of a task.
* `GpuSync.Batch.Outcome` is what an operation on a batch yields.
-/

namespace GpuSync

namespace Batch

/-- How many tasks a batch may have. -/
def maxTasks : Nat := 32

/-- How many resources a batch, or a task, may use. -/
def maxResources : Nat := 1024

/-- The usages a resource passes through in a batch. The initial usage is that before the first
task, the current one that after the newest, and the final one that after the last. -/
structure Passage where
  /-- The usage the batch finds it in. -/
  initial : Usage
  /-- The usage the batch leaves it in. -/
  final : Usage
  /-- The usage in which the newest task leaves it. -/
  current : Usage
  deriving DecidableEq, Repr

/-- The usage of a resource in a task. -/
structure TaskUse where
  /-- The usage it is in. -/
  current : Usage
  /-- The usage in which the task has to leave it. -/
  final : Usage
  /-- Whether its contents are not needed any more, so the next barrier may discard them. -/
  discard : Bool
  deriving DecidableEq, Repr

/-- What is known of a task. The resources it knows and the barriers that are emitted as it begins.
Whether it has begun is kept here, too. -/
structure Scope where
  /-- The resources it uses. -/
  uses : KeyTable TaskUse
  /-- The resources it declared itself, in order. -/
  declared : List Key := []
  /-- The barriers to emit as it begins. -/
  opening : List Barrier := []
  /-- Whether it has begun. -/
  begun : Bool := false

end Batch

/-- The book-keeping of one batch. Its tables say what was declared and what is reached. The flags
say which of the tasks have begun, which one is the last, and whether the batch was committed. -/
structure Batch where
  /-- Which batch it is. -/
  id : BatchId
  /-- The queue it runs on. -/
  queue : Queue
  /-- Whether accesses in one and the same usage go without barriers. -/
  relaxed : Bool := true
  /-- The resources of the batch. -/
  passages : KeyTable Batch.Passage := .empty
  /-- The barriers to emit as the first task begins. -/
  opening : List Barrier := []
  /-- The tasks created so far, in order. -/
  scopes : List Batch.Scope := []
  /-- The task marked as the last one. -/
  lastTask : Option Nat := none
  /-- The tasks that asked for their writes to be visible to the host. -/
  readbacks : TaskSet := {}
  /-- The tasks that asked for the host's writes to be visible to them. -/
  uploads : TaskSet := {}
  /-- Whether the first task makes the host's writes visible. -/
  uploadsMemory : Bool := false
  /-- Whether the last task makes the device's writes visible to the host. -/
  readsBackMemory : Bool := false
  /-- Whether the batch was committed. -/
  committed : Bool := false

namespace Batch

/-- A batch nothing was declared for. -/
def new (id : BatchId) (queue : Queue) : Batch := { id, queue }

/-- Clears a batch for another use of its slot. Everything that was declared or recorded is gone
afterwards, and only the identity and the queue are given anew. -/
def reset (batch : Batch) (id : BatchId) (queue : Queue) : Batch :=
  { batch with
    id, queue
    relaxed := true
    passages := .empty
    opening := []
    scopes := []
    lastTask := none
    readbacks := {}
    uploads := {}
    uploadsMemory := false
    readsBackMemory := false
    committed := false }

/-- The batch with its queue. -/
def user (batch : Batch) : BatchUse := ⟨batch.id, batch.queue⟩

/-- Whether the first task was created. -/
def isStarted (batch : Batch) : Bool := !batch.scopes.isEmpty

/-- How many tasks were created. -/
def taskCount (batch : Batch) : Nat := batch.scopes.length

/-- Whether a task was begun. -/
def isBegun (batch : Batch) (task : Nat) : Bool :=
  match batch.scopes[task]? with
  | some scope => scope.begun
  | none => false

/-- The passage of a resource. -/
def passage? (batch : Batch) (key : Key) : Option Passage := batch.passages.find? key

/-- How many resources the batch uses. -/
def resourceCount (batch : Batch) : Nat := batch.passages.size

/-- Whether going from one usage to another takes a barrier in this batch. -/
def needsBarrier (batch : Batch) (key : Key) (src dst : Usage) : Bool :=
  !src.skipsBarrier dst &&
    if key.isImage then src.needsImageBarrier dst batch.relaxed
    else src.needsMemoryBarrier dst batch.relaxed

/-- The batch in words. -/
def describe (batch : Batch) : String :=
  Text.record "RgBatchData"
    [("id", batch.id.describe), ("queue", batch.queue.name),
      ("resources", toString batch.resourceCount), ("committed", Text.truth batch.committed)]

/-! ## Outcomes

Every operation yields an answer, the batch it leaves, the commands it recorded and what it logs.
One that is refused yields the batch as it was. -/

/-- What an operation on a batch yields. -/
structure Outcome (α : Type) where
  /-- The answer, or why there is none. -/
  answer : Except BatchError α
  /-- The batch afterwards. -/
  batch : Batch
  /-- The commands recorded, in order. -/
  commands : List Command := []
  /-- What was logged, in order. -/
  notes : List Log.Entry := []

/-- The operation is refused and the batch stays as it is. -/
def refuse {α : Type} (batch : Batch) (error : BatchError) (notes : List Log.Entry) :
    Outcome α where
  answer := .error error
  batch := batch
  notes := notes

/-- The operation is answered, and the batch becomes another. -/
def answering {α : Type} (batch : Batch) (answer : α) : Outcome α where
  answer := .ok answer
  batch := batch

/-- The commands that emit barriers. -/
def emitted (barriers : List Barrier) : List Command := barriers.map .barrier

/-- What is logged about the barriers a task emits. -/
def emissionNotes (batch : Batch) (task : Nat) (barriers : List Barrier) : List Log.Entry :=
  barriers.map fun barrier =>
    Log.trace s!"batch {batch.id.text} task {task}: {barrier.text}"

/-- The task index is no index of a batch. -/
def outOfRange (batch : Batch) (task : Nat) : BatchError :=
  .taskOutOfRange batch.id task maxTasks

/-- The table of the batch, or of a task, is full. -/
def tooMany (batch : Batch) : BatchError := .tooManyResources batch.id maxResources

/-- Changes what is known of a task. -/
def setScope (batch : Batch) (task : Nat) (scope : Scope) : Batch :=
  { batch with scopes := batch.scopes.set task scope }

end Batch

end GpuSync
