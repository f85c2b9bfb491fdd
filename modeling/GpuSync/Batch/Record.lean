import GpuSync.Batch.Declare

/-!
# Recording tasks

A task is begun once, reports the usages it takes its resources to, and is finished. Each task
works on its own table, so the tasks of a batch may be recorded in any order.

## Main definitions

* `GpuSync.Batch.beginTask` and `GpuSync.Batch.finish`.
* `GpuSync.Batch.report` moves a resource to another usage; `GpuSync.Batch.discard` gives its
  contents up, and `GpuSync.Batch.override` sets its usage without a barrier.
* `GpuSync.Batch.readback` and `GpuSync.Batch.upload` are about memory as a whole.
-/

namespace GpuSync.Batch

/-! ## Beginning

The first task emits what is queued for the whole batch, and every task what is queued for itself.
All of it comes before anything that is recorded in the task. -/

/-- The barriers before anything else in the batch, emitted by its first task. -/
def openingBarriers (batch : Batch) (task : Nat) : List Barrier :=
  if task = 0 then
    batch.opening ++ if batch.uploadsMemory then [Barrier.memory .hostWrite .general] else []
  else []

/-- The table of a task as it begins: the last one leaves the batch's resources in the final usages
of the batch. -/
def usesAtBegin (batch : Batch) (scope : Scope) (last : Bool) : KeyTable TaskUse :=
  if last then
    scope.uses.map fun key use =>
      match batch.passages.find? key with
      | some passage => { use with final := passage.final }
      | none => use
  else scope.uses

/-- The batch with one of its tasks marked as begun. -/
def markBegun (batch : Batch) (task : Nat) : Batch :=
  match batch.scopes[task]? with
  | some scope => batch.setScope task { scope with begun := true }
  | none => batch

/-- A task that has begun already has the mark. -/
theorem markBegun_of_begun {batch : Batch} {task : Nat} {scope : Scope}
    (found : batch.scopes[task]? = some scope) (begun : scope.begun = true) :
    batch.markBegun task = batch := by
  obtain ⟨_, at'⟩ := List.getElem?_eq_some_iff.1 found
  have same : { scope with begun := true } = scope := by rw [← begun]
  unfold markBegun
  rw [found]
  show batch.setScope task { scope with begun := true } = batch
  rw [same, setScope, ← at', List.set_getElem_self]

/-- Begins a task that had not begun: emits the barriers between the tasks before it and this
one. -/
def enterTask (batch : Batch) (task : Nat) (scope : Scope) (last : Bool) : Outcome Unit :=
  let marked : Outcome Bool := if last then batch.markLast task else batch.answering true
  let barriers := batch.openingBarriers task ++ scope.opening
  let begun : Scope :=
    { scope with uses := batch.usesAtBegin scope last, opening := [], begun := true }
  { answer := .ok ()
    batch :=
      { marked.batch.setScope task begun with
        opening := if task = 0 then [] else batch.opening }
    commands := emitted barriers ++ [.flush]
    notes := marked.notes ++ batch.emissionNotes task barriers }

/-- Begins a task. One write marks it as begun and reads the mark from before, so by the time a
second beginning is refused it has marked the task, too. -/
def beginTask (batch : Batch) (task : Nat) (last : Bool) : Outcome Unit :=
  if maxTasks ≤ task then batch.refuse (batch.outOfRange task) []
  else
    match batch.scopes[task]? with
    | none => batch.refuse (.taskNotCreated batch.id task) []
    | some scope =>
      if scope.begun then (batch.markBegun task).refuse (.taskAlreadyBegun batch.id task) []
      else batch.enterTask task scope last

/-- The mark of a second beginning is no change. So a task that has begun is refused to begin again
without being changed, although the mark is written first. -/
theorem beginTask_eq (batch : Batch) (task : Nat) (last : Bool) :
    batch.beginTask task last =
      if maxTasks ≤ task then batch.refuse (batch.outOfRange task) []
      else
        match batch.scopes[task]? with
        | none => batch.refuse (.taskNotCreated batch.id task) []
        | some scope =>
          if scope.begun then batch.refuse (.taskAlreadyBegun batch.id task) []
          else batch.enterTask task scope last := by
  unfold beginTask
  cases found : batch.scopes[task]? with
  | none => rfl
  | some scope =>
    dsimp only
    by_cases begun : scope.begun = true
    · rw [markBegun_of_begun found begun]
    · rw [if_neg begun, if_neg begun]

/-! ## Within a task

A task goes by its own table. The barrier that a report takes leads from the usage in the table to
the one reported, and the table is written then. -/

/-- What is known of a task that has begun. -/
def begunScope (batch : Batch) (task : Nat) : Except BatchError Scope :=
  if maxTasks ≤ task then .error (batch.outOfRange task)
  else
    match batch.scopes[task]? with
    | none => .error (.taskNotBegun batch.id task)
    | some scope => if scope.begun then .ok scope else .error (.taskNotBegun batch.id task)

/-- Enters a resource into the table of a task. -/
def setUse (batch : Batch) (task : Nat) (scope : Scope) (key : Key) (use : TaskUse) : Batch :=
  batch.setScope task { scope with uses := scope.uses.insert key use }

/-- The barrier from one usage to another, if one is needed or the contents are given up. -/
def transition (batch : Batch) (key : Key) (src dst : Usage) (discard : Bool) : List Barrier :=
  if discard || batch.needsBarrier key src dst then
    [(Barrier.resource key src dst).withDiscard discard]
  else []

/-- Emits barriers within a task. -/
def emitting {α : Type} (batch : Batch) (task : Nat) (barriers : List Barrier) (answer : α) :
    Outcome α where
  answer := .ok answer
  batch := batch
  commands := emitted barriers
  notes := batch.emissionNotes task barriers

/-- Moves a resource to a usage. A resource the task does not know yet comes from its rest, to
which it returns as the task is finished; only reading one that is no image is not recorded. -/
def report (batch : Batch) (tracker : Tracker) (task : Nat) (key : Key) (usage : Usage) :
    Outcome Unit :=
  match batch.begunScope task with
  | .error error => batch.refuse error []
  | .ok scope =>
    match scope.uses.find? key with
    | some use =>
      let barriers := batch.transition key use.current usage (use.discard && key.isImage)
      (batch.setUse task scope key { use with current := usage, discard := false }).emitting
        task barriers ()
    | none =>
      if !key.isImage && usage.readOnly then batch.answering ()
      else if maxResources ≤ scope.uses.size then
        batch.refuse batch.tooMany
          [Log.warn (s!"batch {batch.id.text} task {task} exceeds its resource table with " ++
            key.text)]
      else
        let (resting, undefined) := tracker.restingUsage key
        let barriers := batch.transition key resting usage (undefined && key.isImage)
        (batch.setUse task scope key ⟨usage, resting, false⟩).emitting task barriers ()

/-- Gives the contents of a resource up, so the next barrier may discard them. Answers whether the
task uses the resource. -/
def discard (batch : Batch) (task : Nat) (key : Key) : Outcome Bool :=
  match batch.begunScope task with
  | .error error => batch.refuse error []
  | .ok scope =>
    match scope.uses.find? key with
    | some use => answering (batch.setUse task scope key { use with discard := true }) true
    | none => batch.answering false

/-- Sets the usage of a resource without a barrier. Answers the usage before, if the task uses the
resource. -/
def override (batch : Batch) (tracker : Tracker) (task : Nat) (key : Key) (usage : Usage) :
    Outcome (Option Usage) :=
  match batch.begunScope task with
  | .error error => batch.refuse error []
  | .ok scope =>
    match scope.uses.find? key with
    | some use =>
      answering (batch.setUse task scope key { use with current := usage }) (some use.current)
    | none =>
      if maxResources ≤ scope.uses.size then batch.refuse batch.tooMany []
      else
        let resting := (tracker.restingUsage key).1
        answering (batch.setUse task scope key ⟨usage, resting, false⟩) none

/-- The usage of a resource in a task, if the task uses it. -/
def usage? (batch : Batch) (task : Nat) (key : Key) : Except BatchError (Option Usage) :=
  (batch.begunScope task).map fun scope => (scope.uses.find? key).map (·.current)

/-- Whether a resource is in some usage in a task. A resource the task does not use is at rest. -/
def isIn (batch : Batch) (tracker : Tracker) (task : Nat) (key : Key) (usage : Usage) :
    Except BatchError Bool :=
  (batch.usage? task key).map fun current =>
    current.getD (tracker.restingUsage key).1 == usage

/-! ## Memory as a whole

These barriers are on no resource. The batch remembers in two words which tasks asked for one, and
emits another only if none of those serves the task that asks. -/

/-- Makes the writes of a task visible to the host, unless a later task did. Answers whether it
took a barrier. -/
def readback (batch : Batch) (task : Nat) : Outcome Bool :=
  if maxTasks ≤ task then batch.refuse (batch.outOfRange task) []
  else
    let asked := { batch with readbacks := batch.readbacks.insert task }
    if batch.readbacks.anyAfter task then asked.answering false
    else asked.emitting task [Barrier.memory .copyDst .hostRead] true

/-- Whether a task or a later one asked for its writes to be visible to the host. -/
def hasReadback (batch : Batch) (task : Nat) : Bool := batch.readbacks.anyFrom (task % span 32)

/-- Makes the host's writes visible to a task in some usage, unless an earlier task did. Answers
whether it took a barrier. -/
def upload (batch : Batch) (task : Nat) (dst : Usage) : Outcome Bool :=
  if maxTasks ≤ task then batch.refuse (batch.outOfRange task) []
  else
    let asked := { batch with uploads := batch.uploads.insert task }
    if batch.uploads.anyBefore task then asked.answering false
    else asked.emitting task [Barrier.memory .hostWrite dst] true

/-- Whether a task or an earlier one asked for the host's writes to be visible. -/
def hasUpload (batch : Batch) (task : Nat) : Bool := batch.uploads.anyUpTo task

/-! ## Finishing

A task leaves each resource of its table in the usage that it promised, which is where the task
after it expects the resource. -/

/-- The barriers that leave the resources of a task as it promised, in the order of their keys. -/
def closingBarriers (batch : Batch) (scope : Scope) : List Barrier :=
  scope.uses.entries.flatMap fun entry =>
    batch.transition entry.1 entry.2.current entry.2.final (entry.2.discard && entry.1.isImage)

/-- Finishes a task: every resource is left as promised, and the last task leaves the batch's
resources in the final usages of the batch. -/
def finish (batch : Batch) (task : Nat) : Outcome Unit :=
  match batch.begunScope task with
  | .error error => batch.refuse error []
  | .ok scope =>
    let last := batch.lastTask == some task
    let memory :=
      if last && batch.readsBackMemory then [Barrier.memory .general .hostRead] else []
    let barriers := batch.closingBarriers scope ++ memory
    let finished : Scope :=
      { scope with
        uses := scope.uses.map fun _ use => { use with current := use.final, discard := false } }
    let passages :=
      if last then batch.passages.map fun _ passage => { passage with current := passage.final }
      else batch.passages
    { answer := .ok ()
      batch := { batch.setScope task finished with passages }
      commands := emitted barriers ++ [.flush]
      notes := batch.emissionNotes task barriers }

end GpuSync.Batch
