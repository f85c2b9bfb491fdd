import GpuSync.Batch.Basic

/-!
# Declarations

Resources are declared for the whole batch before its first task, or for the newest task before it
begins. Declaring a resource queues the barrier that its first use in the batch takes; a task that
declares one used before queues the barrier from the usage in which the tasks before leave it.

## Main definitions

* `GpuSync.Batch.use`, `GpuSync.Batch.useAtRest` and `GpuSync.Batch.useMany` declare for the batch.
* `GpuSync.Batch.createTask` creates the next task.
* `GpuSync.Batch.declare` and `GpuSync.Batch.declareDefault` declare for a task.
* `GpuSync.Batch.markLast` marks the last task.
-/

namespace GpuSync.Batch

/-! ## The whole batch

The resources of a batch are declared before its first task is created. The barriers that their
first uses take are queued until the first task begins. -/

/-- The barrier before the first use of a resource: an image with undefined contents is discarded,
and an exclusive resource last used on another queue is handed over to this one. -/
def firstUse (batch : Batch) (tracker : Tracker) (key : Key) (initial : Usage) : Option Barrier :=
  let barrier := Barrier.resource key initial initial
  match tracker.lookup key with
  | none => if key.isImage then some (barrier.withDiscard true) else none
  | some entry =>
    match entry.lastQueue with
    | none => if key.isImage then some (barrier.withDiscard true) else none
    | some last =>
      if entry.exclusive && last != batch.queue then some (barrier.withTransfer last batch.queue)
      else none

/-- Declares that the batch finds a resource in one usage and leaves it in another. Declared again
with the same initial usage, it gets another final usage. -/
def use (batch : Batch) (tracker : Tracker) (key : Key) (initial final : Usage) :
    Outcome Passage :=
  if batch.isStarted then batch.refuse (.alreadyStarted batch.id) []
  else
    match batch.passages.find? key with
    | some passage =>
      if passage.initial != initial then
        batch.refuse (.conflictingInitial batch.id key passage.initial initial) []
      else
        let changed := { passage with final }
        answering { batch with passages := batch.passages.insert key changed } changed
    | none =>
      if maxResources ≤ batch.passages.size then
        batch.refuse batch.tooMany
          [Log.warn s!"batch {batch.id.text} exceeds its resource table while declaring {key.text}"]
      else
        let passage : Passage := ⟨initial, final, initial⟩
        answering
          { batch with
            passages := batch.passages.insert key passage
            opening := batch.opening ++ (batch.firstUse tracker key initial).toList }
          passage

/-- Declares that the batch finds and leaves a resource at rest. -/
def useAtRest (batch : Batch) (tracker : Tracker) (key : Key) : Outcome Passage :=
  let resting := (tracker.restingUsage key).1
  batch.use tracker key resting resting

/-- Declares several resources in order, up to the first one refused. -/
def useMany (batch : Batch) (tracker : Tracker) : List (Key × Usage × Usage) → Outcome Unit
  | [] => batch.answering ()
  | (key, initial, final) :: rest =>
    let first := batch.use tracker key initial final
    match first.answer with
    | .error error => first.batch.refuse error first.notes
    | .ok _ =>
      let others := first.batch.useMany tracker rest
      { others with notes := first.notes ++ others.notes }

/-- Declares the images of an output surface, which are drawn to and left ready for presenting. -/
def useTargets (batch : Batch) (tracker : Tracker) (targets : List Handle) : Outcome Unit :=
  batch.useMany tracker
    (targets.map fun target => (⟨.image, target⟩, .colorAttachment, .present))

/-- Makes the host's writes visible as the first task begins. -/
def uploadMemory (batch : Batch) : Batch := { batch with uploadsMemory := true }

/-- Makes the device's writes visible to the host after the last task. -/
def readbackMemory (batch : Batch) : Batch := { batch with readsBackMemory := true }

/-- Decides whether accesses in one and the same usage go without barriers. -/
def setRelaxed (batch : Batch) (relaxed : Bool) : Batch := { batch with relaxed }

/-- One thing said about a batch while it is declared. -/
inductive Declaration where
  /-- The batch finds a resource in one usage and leaves it in another. -/
  | use (key : Key) (initial final : Usage)
  /-- The batch finds and leaves a resource at rest. -/
  | useAtRest (key : Key)
  /-- The batch uses several resources. -/
  | useMany (uses : List (Key × Usage × Usage))
  /-- The host's writes are made visible to the batch. -/
  | upload
  /-- The batch's writes are made visible to the host. -/
  | readback
  /-- Accesses in one and the same usage take barriers too. -/
  | strict

/-- Applies one declaration. -/
def declareOne (batch : Batch) (tracker : Tracker) : Declaration → Outcome Unit
  | .use key initial final => batch.useMany tracker [(key, initial, final)]
  | .useAtRest key =>
    let resting := (tracker.restingUsage key).1
    batch.useMany tracker [(key, resting, resting)]
  | .useMany uses => batch.useMany tracker uses
  | .upload => batch.uploadMemory.answering ()
  | .readback => batch.readbackMemory.answering ()
  | .strict => (batch.setRelaxed false).answering ()

/-- Applies declarations in order, up to the first one refused. -/
def declareAll (batch : Batch) (tracker : Tracker) : List Declaration → Outcome Unit
  | [] => batch.answering ()
  | declaration :: rest =>
    let first := batch.declareOne tracker declaration
    match first.answer with
    | .error error => first.batch.refuse error first.notes
    | .ok () =>
      let others := first.batch.declareAll tracker rest
      { others with notes := first.notes ++ others.notes }

/-! ## Tasks

Only the newest task may declare anything, and only before it begins, since the tasks before were
created without it. -/

/-- Creates the next task, which starts with the usages the task before leaves. -/
def createTask (batch : Batch) : Outcome Nat :=
  let task := batch.scopes.length
  if batch.committed then batch.refuse (.alreadyCommitted batch.id) []
  else if maxTasks ≤ task then batch.refuse (batch.outOfRange task) []
  else
    let scope : Scope := { uses := batch.passages.map fun _ p => ⟨p.current, p.current, false⟩ }
    answering { batch with scopes := batch.scopes ++ [scope] } task

/-- Enters a resource into the table of a task that declares it, with the barriers its opening
takes. -/
def Scope.declaring (scope : Scope) (key : Key) (use : TaskUse) (barriers : List Barrier) : Scope :=
  { scope with
    uses := scope.uses.insert key use
    declared := scope.declared ++ [key]
    opening := scope.opening ++ barriers }

/-- Declares that the newest task finds a resource in one usage and leaves it in another, in which
the next task starts with it. A resource new to the batch is left at rest by the batch. -/
def declare (batch : Batch) (tracker : Tracker) (task : Nat) (key : Key) (initial final : Usage) :
    Outcome TaskUse :=
  if maxTasks ≤ task then batch.refuse (batch.outOfRange task) []
  else if batch.scopes.length ≠ task + 1 then batch.refuse (.taskNotNewest batch.id task) []
  else
    match batch.scopes[task]? with
    | none => batch.refuse (.taskNotNewest batch.id task) []
    | some scope =>
      if scope.begun then batch.refuse (.taskAlreadyBegun batch.id task) []
      else if scope.declared.contains key then
        batch.refuse (.resourceAlreadyDeclared batch.id task key) []
      else
        let use : TaskUse := ⟨initial, final, false⟩
        match batch.passages.find? key with
        | some passage =>
          let barriers :=
            if batch.needsBarrier key passage.current initial then
              [Barrier.resource key passage.current initial]
            else []
          answering
            { batch.setScope task (scope.declaring key use barriers) with
              passages := batch.passages.insert key { passage with current := final } }
            use
        | none =>
          if maxResources ≤ batch.passages.size then
            batch.refuse batch.tooMany
              [Log.warn (s!"batch {batch.id.text} task {task} exceeds its resource table while " ++
                s!"declaring {key.text}")]
          else
            let barriers := (batch.firstUse tracker key initial).toList
            let passage : Passage := ⟨initial, (tracker.restingUsage key).1, final⟩
            answering
              { batch.setScope task (scope.declaring key use barriers) with
                passages := batch.passages.insert key passage }
              use

/-- Declares that the newest task uses a resource in the usage the task before leaves it in. A
resource new to the batch is found in its tracked usage and left at rest. -/
def declareDefault (batch : Batch) (tracker : Tracker) (task : Nat) (key : Key) :
    Outcome TaskUse :=
  match batch.passages.find? key with
  | some passage => batch.declare tracker task key passage.current passage.current
  | none =>
    let resting := (tracker.restingUsage key).1
    match tracker.lookup key with
    | some entry => batch.declare tracker task key entry.current resting
    | none => batch.declare tracker task key resting resting

/-- A task index that stands for no task at all: indices are words of 32 bits, and the highest one
is reserved. -/
def noTask : Nat := span 32 - 1

/-- Marks a task as the last one. Answers false, and changes nothing, if another one is. -/
def markLast (batch : Batch) (task : Nat) : Outcome Bool :=
  let word := task % span 32
  match batch.lastTask with
  | none => answering { batch with lastTask := if word = noTask then none else some word } true
  | some other =>
    let notes :=
      if other = word then []
      else
        [Log.warn (s!"batch {batch.id.text} task {task} is marked last, but task {other} " ++
          "already is")]
    { batch.answering (other == word) with notes }

end GpuSync.Batch
