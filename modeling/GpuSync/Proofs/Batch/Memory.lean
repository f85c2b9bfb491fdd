import GpuSync.Proofs.Batch.Refusal

/-!
# What a batch has in memory

A batch knows of its tasks what was created so far. In memory there is a cell for every task that a
batch may have, a count of those created and a word with those begun, and what an earlier batch left
in a cell or in the word stays there until it is cleared.

* `Batch.Memory` has the parts as they are in memory; `Batch.Memory.reset` clears them one by one.
* `Batch.Memory.shown` is the batch that they show, and `Batch.Memory.keep` writes a batch back.
* `Batch.Memory.Faithful` says that nothing but the tasks created is marked as begun. Then a batch
  that is written back is shown (`Batch.Memory.Faithful.shown_keep`).
* `Stage` is a `Scene` whose batch is in memory. **`Stage.watch_eq`** says that it looks the same,
  for all that is done to it, resets among it.
* `Batch.Memory.reset_eq_new`: nothing is left of the batch before.
-/

namespace GpuSync

namespace Batch

/-- What a task has in memory. -/
structure Cell where
  /-- The resources it uses. -/
  uses : KeyTable TaskUse := .empty
  /-- The resources it declared itself, in order. -/
  declared : List Key := []
  /-- The barriers to emit as it begins. -/
  opening : List Barrier := []

namespace Cell

/-- Clears what a task left. -/
def clear (cell : Cell) : Cell := { cell with uses := .empty, declared := [], opening := [] }

/-- What a cell says of a task, with what is known of its beginning elsewhere. -/
def scope (cell : Cell) (begun : Bool) : Scope := ⟨cell.uses, cell.declared, cell.opening, begun⟩

end Cell

/-- What is known of a task but for its beginning. -/
def Scope.cell (scope : Scope) : Cell := ⟨scope.uses, scope.declared, scope.opening⟩

/-- A batch as it is in memory. There is room for all tasks that a batch may have, laid out once.
Which of the cells count is said by the number of tasks created. -/
structure Memory where
  /-- Which batch it is. -/
  id : BatchId
  /-- The queue it runs on. -/
  queue : Queue
  /-- Whether accesses in one and the same usage go without barriers. -/
  relaxed : Bool := true
  /-- The resources of the batch. -/
  passages : KeyTable Passage := .empty
  /-- The barriers to emit as the first task begins. -/
  opening : List Barrier := []
  /-- A cell for every task that the batch may have. -/
  cells : Vector Cell maxTasks := .replicate maxTasks {}
  /-- How many tasks were created. -/
  created : Nat := 0
  /-- The tasks that have begun. -/
  begun : TaskSet := {}
  /-- The task marked as the last one. -/
  lastTask : Option Nat := none
  /-- The tasks that asked for their writes to be visible to the host. -/
  readbacks : TaskSet := {}
  /-- The tasks that asked for the host's writes to be visible to them. -/
  uploads : TaskSet := {}
  /-- Whether the first task makes the host's writes visible. -/
  uploadsMemory : Bool := false
  /-- Whether the last task makes the device's writes visible to the host. -/
  readsBackMemory : Bool := false
  /-- Whether the batch was committed. -/
  committed : Bool := false

namespace Memory

/-- The memory of a batch nothing was declared for. -/
def new (id : BatchId) (queue : Queue) : Memory := { id, queue }

/-- Clears the memory for another batch, part by part. The cells stay where they are and are cleared
one by one. -/
def reset (memory : Memory) (id : BatchId) (queue : Queue) : Memory :=
  { memory with
    id, queue
    relaxed := true
    passages := .empty
    opening := []
    cells := memory.cells.map Cell.clear
    created := 0
    begun := {}
    lastTask := none
    readbacks := {}
    uploads := {}
    uploadsMemory := false
    readsBackMemory := false
    committed := false }

/-- The batch that is shown: of the cells, those of the tasks created count. -/
def shown (memory : Memory) : Batch where
  id := memory.id
  queue := memory.queue
  relaxed := memory.relaxed
  passages := memory.passages
  opening := memory.opening
  scopes := (memory.cells.toList.take memory.created).mapIdx fun task cell =>
    cell.scope (memory.begun.word.getLsbD task)
  lastTask := memory.lastTask
  readbacks := memory.readbacks
  uploads := memory.uploads
  uploadsMemory := memory.uploadsMemory
  readsBackMemory := memory.readsBackMemory
  committed := memory.committed

/-- The tasks that have begun, once those of a batch were added. -/
def marking (begun : TaskSet) (batch : Batch) : TaskSet :=
  (List.range maxTasks).foldl
    (fun set task => if batch.isBegun task then set.insert task else set) begun

/-- Writes a batch back. Cells of tasks that it does not have stay as they are, and no task is
unmarked. -/
def keep (memory : Memory) (batch : Batch) : Memory where
  id := batch.id
  queue := batch.queue
  relaxed := batch.relaxed
  passages := batch.passages
  opening := batch.opening
  cells := memory.cells.mapFinIdx fun task cell _ => (batch.scopes[task]?.map Scope.cell).getD cell
  created := batch.scopes.length
  begun := marking memory.begun batch
  lastTask := batch.lastTask
  readbacks := batch.readbacks
  uploads := batch.uploads
  uploadsMemory := batch.uploadsMemory
  readsBackMemory := batch.readsBackMemory
  committed := batch.committed

/-! ## Clearing

The memory is cleared part by part and not laid out anew, so that its cells stay. A cell does not
say whether its task was created or has begun; the number of tasks and the word of begun tasks do,
and they are cleared as well. -/

/-- **Nothing is left of the batch before**, whatever it left. -/
theorem reset_eq_new (memory : Memory) (id : BatchId) (queue : Queue) :
    memory.reset id queue = new id queue := by
  have cleared : memory.cells.map Cell.clear = .replicate maxTasks {} := by
    refine Vector.ext fun task bound => ?_
    rw [Vector.getElem_map, Vector.getElem_replicate]
    rfl
  unfold reset new
  rw [cleared]

/-! ## Writing back

A batch that was computed has to be put into cells. Only the cells of its tasks are written, and the
word of begun tasks is built from the flags that the scopes have. -/

/-- The word of begun tasks that is built bit by bit has just the tasks that have begun. -/
theorem mem_foldl_insert (batch : Batch) (task : Nat) (tasks : List Nat)
    (few : ∀ other ∈ tasks, other < 32) (begun : TaskSet) :
    task ∈ tasks.foldl
        (fun set task => if batch.isBegun task then set.insert task else set) begun ↔
      task ∈ begun ∨ task ∈ tasks ∧ batch.isBegun task = true := by
  induction tasks generalizing begun with
  | nil => simp
  | cons other rest ih =>
    rw [List.foldl_cons, ih fun other mem => few other (List.mem_cons_of_mem _ mem)]
    by_cases started : batch.isBegun other = true
    · rw [if_pos started, TaskSet.mem_insert (few other List.mem_cons_self)]
      grind
    · rw [if_neg started]
      grind

/-- Tasks are marked as begun if they were, or if the batch has begun them. -/
theorem mem_marking {begun : TaskSet} {batch : Batch} {task : Nat} :
    task ∈ marking begun batch ↔
      task ∈ begun ∨ task < maxTasks ∧ batch.isBegun task = true := by
  have fold := mem_foldl_insert batch task (List.range maxTasks)
    (fun other mem => List.mem_range.1 mem) begun
  rwa [List.mem_range] at fold

/-- What the memory shows of a task. -/
theorem getElem?_shown (memory : Memory) (task : Nat) :
    memory.shown.scopes[task]? =
      if task < memory.created then
        memory.cells[task]?.map (·.scope (memory.begun.word.getLsbD task))
      else none := by
  unfold shown
  rw [List.getElem?_mapIdx, List.getElem?_take, Vector.getElem?_toList]
  split <;> rfl

/-- A batch that is written back is shown, if it has no more tasks than there are cells, and if all
of them that are marked as begun have. -/
theorem shown_keep {memory : Memory} {batch : Batch} (few : batch.scopes.length ≤ maxTasks)
    (stay : ∀ task ∈ memory.begun, task < batch.scopes.length → batch.isBegun task = true) :
    (memory.keep batch).shown = batch := by
  have scopes : (memory.keep batch).shown.scopes = batch.scopes := by
    refine List.ext_getElem? fun task => ?_
    rw [getElem?_shown]
    show (if task < batch.scopes.length then _ else _) = _
    split
    case isFalse beyond => exact (List.getElem?_eq_none (Nat.not_lt.1 beyond)).symm
    case isTrue bound =>
      have found : batch.scopes[task]? = some batch.scopes[task] := List.getElem?_eq_getElem bound
      have fits : task < maxTasks := Nat.lt_of_lt_of_le bound few
      have begun : (memory.keep batch).begun.word.getLsbD task = batch.scopes[task].begun := by
        have marked : task ∈ marking memory.begun batch ↔ batch.isBegun task = true := by
          rw [mem_marking]
          exact ⟨fun marked => marked.elim (stay task · bound) (·.2),
            fun begun => .inr ⟨fits, begun⟩⟩
        rw [Bool.eq_iff_iff]
        refine marked.trans ?_
        unfold isBegun
        rw [found]
      have cell : (memory.keep batch).cells[task]? = some batch.scopes[task].cell := by
        simp [keep, fits, found]
      rw [begun, cell, found]
      rfl
  show { (memory.keep batch).shown with scopes := (memory.keep batch).shown.scopes } = batch
  rw [scopes]
  rfl

/-! ## Calls

A call on the memory is defined as the call on the batch that is shown, followed by writing back.
That this is faithful needs that a batch never has more tasks than cells, and that no bit is set
beyond the tasks created. -/

/-- There are no more tasks than cells, and only tasks created are marked as begun. -/
structure Faithful (memory : Memory) : Prop where
  /-- Every task has a cell. -/
  few : memory.created ≤ maxTasks
  /-- No mark is left of other tasks. -/
  marks : ∀ task ∈ memory.begun, task < memory.created

/-- What is laid out in memory for a new batch shows that batch. -/
theorem faithful_new (id : BatchId) (queue : Queue) : (new id queue).Faithful where
  few := Nat.zero_le _
  marks := fun task mem => absurd mem (TaskSet.not_mem_empty task)

/-- Carries a call out on the batch that is shown, and writes the batch back. -/
def perform (memory : Memory) (tracker : Tracker) (call : Call) : Memory :=
  memory.keep (memory.shown.perform tracker call).batch

section

variable {memory : Memory}

/-- Memory shows as many tasks as were created since the last reset, not all of its cells. -/
theorem Faithful.length_shown (h : memory.Faithful) :
    memory.shown.scopes.length = memory.created := by
  simp [shown, h.few]

/-- The word of bits tells which of the tasks shown have begun. -/
theorem Faithful.isBegun_shown (h : memory.Faithful) {task : Nat} (mem : task ∈ memory.begun) :
    memory.shown.isBegun task = true := by
  have bound := h.marks task mem
  have fits : task < maxTasks := Nat.lt_of_lt_of_le bound h.few
  have found := memory.getElem?_shown task
  rw [if_pos bound, Vector.getElem?_eq_getElem fits] at found
  exact isBegun_eq_true.2 ⟨_, found, mem⟩

/-- A call neither takes tasks away nor adds more than a batch may have. -/
theorem perform_grows {batch : Batch} (few : batch.scopes.length ≤ maxTasks) (tracker : Tracker)
    (call : Call) :
    (batch.perform tracker call).batch.scopes.length ≤ maxTasks ∧
      batch.scopes.length ≤ (batch.perform tracker call).batch.scopes.length := by
  refine perform_induction (R := fun after _ => after.scopes.length ≤ maxTasks ∧
    batch.scopes.length ≤ after.scopes.length) tracker ⟨few, Nat.le_refl _⟩ ?_ call
  intro mid after call answer commands met effect
  exact ⟨effect.few met.1, Nat.le_trans met.2 effect.length_mono⟩

/-- **A call on the batch in memory is one on the batch that is shown**, and leaves no mark of other
tasks behind. -/
theorem Faithful.perform (h : memory.Faithful) (tracker : Tracker) (call : Call) :
    (memory.perform tracker call).shown = (memory.shown.perform tracker call).batch ∧
      (memory.perform tracker call).Faithful := by
  obtain ⟨few, more⟩ := perform_grows (h.length_shown ▸ h.few) tracker call
  have stay (task : Nat) (mem : task ∈ memory.begun) :
      (memory.shown.perform tracker call).batch.isBegun task = true :=
    isBegun_perform (h.isBegun_shown mem) tracker call
  refine ⟨shown_keep few fun task mem _ => stay task mem, few, ?_⟩
  intro task mem
  rcases mem_marking.1 mem with old | ⟨-, begun⟩
  · exact Nat.lt_of_lt_of_le (h.length_shown ▸ h.marks task old) more
  · obtain ⟨scope, found, -⟩ := isBegun_eq_true.1 begun
    exact (List.getElem?_eq_some_iff.1 found).1

end

end Memory

end Batch

/-! ## The batch in memory with its surroundings

A stage runs the same acts as a scene. What is watched on both is compared act by act, so that no
later call can bring to light what an earlier use of the memory left. -/

/-- A batch in memory, the tracker it shares and the command buffers it may record into. -/
structure Stage where
  /-- The batch in memory. -/
  memory : Batch.Memory
  /-- The tracker. -/
  tracker : Tracker
  /-- The command buffers. -/
  contexts : Nat → Transcript

namespace Stage

open Scene (Act Sight)

/-- The scene with the batch that is shown. -/
def shown (stage : Stage) : Scene := ⟨stage.memory.shown, stage.tracker, stage.contexts⟩

/-- Goes on with one more act. Only calls on the batch and clearing it reach the memory. -/
def next (stage : Stage) (act : Act) : Stage where
  memory :=
    match act with
    | .call _ call => stage.memory.perform stage.tracker call
    | .reset id queue => stage.memory.reset id queue
    | .track _ | .record _ _ => stage.memory
  tracker := (stage.shown.next act).tracker
  contexts := (stage.shown.next act).contexts

/-- Carries acts out in order. -/
def run (stage : Stage) (acts : List Act) : Stage := acts.foldl next stage

/-- What is to be seen while acts are carried out, in order. -/
def watch (stage : Stage) : List Act → List Sight
  | [] => []
  | act :: rest => stage.shown.see act :: (stage.next act).watch rest

section

variable {stage : Stage}

/-- One more act on the batch in memory is one on the batch that is shown. So whatever was left in
cells that do not count makes no difference. -/
theorem shown_next (h : stage.memory.Faithful) (act : Act) :
    (stage.next act).shown = stage.shown.next act ∧ (stage.next act).memory.Faithful := by
  cases act with
  | call context call =>
    obtain ⟨same, faithful⟩ := h.perform stage.tracker call
    exact ⟨congrArg (Scene.mk · _ _) same, faithful⟩
  | reset id queue =>
    have cleared := stage.memory.reset_eq_new id queue
    refine ⟨congrArg (Scene.mk · _ _) (congrArg Batch.Memory.shown cleared), ?_⟩
    show (stage.memory.reset id queue).Faithful
    rw [cleared]
    exact Batch.Memory.faithful_new id queue
  | track call => exact ⟨rfl, h⟩
  | record context command => exact ⟨rfl, h⟩

/-- Memory shows the batch after every run, so that the cells left over from before the last reset
are never seen. -/
theorem shown_run (h : stage.memory.Faithful) (acts : List Act) :
    (stage.run acts).shown = stage.shown.run acts ∧ (stage.run acts).memory.Faithful := by
  induction acts generalizing stage with
  | nil => exact ⟨rfl, h⟩
  | cons act rest ih =>
    obtain ⟨same, faithful⟩ := shown_next h act
    obtain ⟨same', faithful'⟩ := ih faithful
    exact ⟨same'.trans (congrArg (Scene.run · rest) same), faithful'⟩

/-- **A batch in memory looks like the batch that it shows**, whatever is done to it. -/
theorem watch_eq (h : stage.memory.Faithful) (acts : List Act) :
    stage.watch acts = stage.shown.watch acts := by
  induction acts generalizing stage with
  | nil => rfl
  | cons act rest ih =>
    obtain ⟨same, faithful⟩ := shown_next h act
    show _ :: (stage.next act).watch rest = _ :: (stage.shown.next act).watch rest
    rw [ih faithful, same]

end

end Stage

end GpuSync
