import GpuSync.Proofs.Batch.Calls

/-!
# What a call does

`Batch.Effect tracker batch call answer after commands` lists, one constructor per case, what a
call that meets a tracker does to a batch: its answer, the batch afterwards and the commands
recorded. `perform_effect` says that there is no other case, so a property of all runs is a case
analysis on `Effect`, and no proof about runs opens an operation.

Calls that are other calls with arguments read off the batch or the tracker (`useAtRest`,
`useTargets` and `declareDefault`) are not `Call.Basic` and have no case of their own.
-/

namespace GpuSync

/-- A list with one more entry has that entry and those it had. -/
theorem getElem?_concat_eq_some {α : Type} {list : List α} {new entry : α} {n : Nat} :
    (list ++ [new])[n]? = some entry ↔
      list[n]? = some entry ∨ n = list.length ∧ new = entry := by
  grind

namespace Batch

/-- The calls that are not made of other calls. -/
def Call.Basic : Call → Prop
  | .useAtRest _ | .useTargets _ | .declareDefault _ _ => False
  | _ => True

/-- The barrier with which a task that declares a known resource opens. -/
def openingOf (batch : Batch) (key : Key) (src dst : Usage) : List Barrier :=
  if batch.needsBarrier key src dst then [Barrier.resource key src dst] else []

/-- A declaration opens its task with one barrier at most. -/
theorem length_openingOf (batch : Batch) (key : Key) (src dst : Usage) :
    (batch.openingOf key src dst).length ≤ 1 := by
  unfold openingOf
  split <;> simp

/-- The barrier with which a declaration opens its task is on the resource declared. -/
theorem key_of_mem_openingOf {batch : Batch} {key : Key} {src dst : Usage} {barrier : Barrier}
    (mem : barrier ∈ batch.openingOf key src dst) : barrier.key = some key := by
  unfold openingOf at mem
  split at mem
  · rw [List.mem_singleton.1 mem]
    rfl
  · cases mem

/-- A task as it begins. -/
def Scope.started (scope : Scope) (batch : Batch) (last : Bool) : Scope :=
  { scope with uses := batch.usesAtBegin scope last, opening := [], begun := true }

/-- A task as it is finished: every resource is where it has to be left. -/
def Scope.finished (scope : Scope) : Scope :=
  { scope with
    uses := scope.uses.map fun _ use => { use with current := use.final, discard := false } }

/-- The last task after a task was marked, or not: the first mark stays. -/
def lastAfter (batch : Batch) (task : Nat) (last : Bool) : Option Nat :=
  if last && batch.lastTask.isNone then
    if task % span 32 = noTask then none else some (task % span 32)
  else batch.lastTask

/-- To mark a task as the last one changes nothing else of the batch. -/
theorem markLast_batch (batch : Batch) (task : Nat) :
    (batch.markLast task).batch = { batch with lastTask := batch.lastAfter task true } := by
  unfold markLast lastAfter
  dsimp only
  split
  · rename_i unmarked
    simp [answering, unmarked]
  · rename_i other marked
    simp only [marked, Option.isNone_some, Bool.and_false, Bool.false_eq_true, if_false]
    rw [← marked]
    rfl

/-- Marking a task that a batch may have marks that very task. -/
theorem lastAfter_of_lt (batch : Batch) {task : Nat} (inRange : task < maxTasks) (last : Bool) :
    batch.lastAfter task last =
      if last = true ∧ batch.lastTask = none then some task else batch.lastTask := by
  have word : task % span 32 = task := Nat.mod_eq_of_lt (Nat.lt_trans inRange (by decide))
  have real : task ≠ noTask := Nat.ne_of_lt (Nat.lt_trans inRange (by decide))
  unfold lastAfter
  rw [word, if_neg real]
  simp

/-- What a call does to a batch. There is one case for each way in which a call can change a batch,
with what is known of the batch then, and one case for all refusals. What a case does not mention is
as it was. -/
inductive Effect (tracker : Tracker) (batch : Batch) :
    Call → Except BatchError Reply → Batch → List Command → Prop where
  /-- A refused call does nothing. -/
  | refused (call : Call) (error : BatchError) : Effect tracker batch call (.error error) batch []
  /-- A question does nothing. -/
  | asked {task : Nat} {key : Key} {usage : Usage} (holds : Bool) :
    Effect tracker batch (.isIn task key usage) (.ok (.flag holds)) batch []
  /-- A resource declared again for the batch gets another final usage. -/
  | redeclared {key : Key} {initial final : Usage} {passage : Passage}
    (unstarted : batch.scopes = []) (known : batch.passages.find? key = some passage)
    (same : passage.initial = initial) :
    Effect tracker batch (.use key initial final) (.ok (.passage { passage with final }))
      { batch with passages := batch.passages.insert key { passage with final } } []
  /-- A resource new to the batch starts in its initial usage. -/
  | declared {key : Key} {initial final : Usage}
    (unstarted : batch.scopes = []) (unknown : batch.passages.find? key = none)
    (room : batch.passages.size < maxResources) :
    Effect tracker batch (.use key initial final) (.ok (.passage ⟨initial, final, initial⟩))
      { batch with
        passages := batch.passages.insert key ⟨initial, final, initial⟩
        opening := batch.opening ++ (batch.firstUse tracker key initial).toList } []
  /-- The host's writes are to be made visible. -/
  | uploads : Effect tracker batch .uploadMemory (.ok .done) { batch with uploadsMemory := true } []
  /-- The device's writes are to be made visible. -/
  | readsBack :
    Effect tracker batch .readbackMemory (.ok .done) { batch with readsBackMemory := true } []
  /-- Barriers are relaxed, or strict. -/
  | relaxes (relaxed : Bool) :
    Effect tracker batch (.setRelaxed relaxed) (.ok .done) { batch with relaxed } []
  /-- A new task finds every resource as the tasks before leave it. -/
  | created (open' : batch.committed = false) (room : batch.scopes.length < maxTasks) :
    Effect tracker batch .createTask (.ok (.task batch.scopes.length))
      { batch with
        scopes := batch.scopes ++
          [{ uses := batch.passages.map fun _ p => ⟨p.current, p.current, false⟩ }] } []
  /-- The newest task declares a resource that the batch knows. -/
  | joined {task : Nat} {key : Key} {initial final : Usage} {scope : Scope} {passage : Passage}
    (newest : batch.scopes.length = task + 1) (found : batch.scopes[task]? = some scope)
    (unbegun : scope.begun = false) (fresh : key ∉ scope.declared)
    (known : batch.passages.find? key = some passage) :
    Effect tracker batch (.declare task key initial final)
      (.ok (.taskUse ⟨initial, final, false⟩))
      { batch.setScope task (scope.declaring key ⟨initial, final, false⟩
          (batch.openingOf key passage.current initial)) with
        passages := batch.passages.insert key { passage with current := final } } []
  /-- The newest task declares a resource new to the batch. -/
  | introduced {task : Nat} {key : Key} {initial final : Usage} {scope : Scope}
    (newest : batch.scopes.length = task + 1) (found : batch.scopes[task]? = some scope)
    (unbegun : scope.begun = false) (fresh : key ∉ scope.declared)
    (unknown : batch.passages.find? key = none) (room : batch.passages.size < maxResources) :
    Effect tracker batch (.declare task key initial final)
      (.ok (.taskUse ⟨initial, final, false⟩))
      { batch.setScope task (scope.declaring key ⟨initial, final, false⟩
          (batch.firstUse tracker key initial).toList) with
        passages := batch.passages.insert key ⟨initial, (tracker.restingUsage key).1, final⟩ } []
  /-- The last task is marked, unless one is. -/
  | marked (task : Nat) (holds : Bool) :
    Effect tracker batch (.markLast task) (.ok (.flag holds))
      { batch with lastTask := batch.lastAfter task true } []
  /-- A task begins and emits the barriers between the tasks before and itself. -/
  | began {task : Nat} {last : Bool} {scope : Scope} (inRange : task < maxTasks)
    (found : batch.scopes[task]? = some scope) (unbegun : scope.begun = false) :
    Effect tracker batch (.beginTask task last) (.ok .done)
      { batch.setScope task (scope.started batch last) with
        lastTask := batch.lastAfter task last
        opening := if task = 0 then [] else batch.opening }
      (emitted (batch.openingBarriers task ++ scope.opening) ++ [.flush])
  /-- A resource of the task moves to another usage. -/
  | moved {task : Nat} {key : Key} {usage : Usage} {scope : Scope} {use : TaskUse}
    (found : batch.scopes[task]? = some scope) (begun : scope.begun = true)
    (known : scope.uses.find? key = some use) :
    Effect tracker batch (.report task key usage) (.ok .done)
      (batch.setUse task scope key { use with current := usage, discard := false })
      (emitted (batch.transition key use.current usage (use.discard && key.isImage)))
  /-- Only reading a resource that is no image and not known leaves no trace. -/
  | passedOver {task : Nat} {key : Key} {usage : Usage} {scope : Scope}
    (found : batch.scopes[task]? = some scope) (begun : scope.begun = true)
    (unknown : scope.uses.find? key = none) (memory : key.isImage = false)
    (reads : usage.readOnly = true) :
    Effect tracker batch (.report task key usage) (.ok .done) batch []
  /-- A resource not known to the task comes from its rest. -/
  | fetched {task : Nat} {key : Key} {usage : Usage} {scope : Scope}
    (found : batch.scopes[task]? = some scope) (begun : scope.begun = true)
    (unknown : scope.uses.find? key = none)
    (counts : key.isImage = true ∨ usage.readOnly = false)
    (room : scope.uses.size < maxResources) :
    Effect tracker batch (.report task key usage) (.ok .done)
      (batch.setUse task scope key ⟨usage, (tracker.restingUsage key).1, false⟩)
      (emitted (batch.transition key (tracker.restingUsage key).1 usage
        ((tracker.restingUsage key).2 && key.isImage)))
  /-- The contents of a resource of the task are given up. -/
  | discarded {task : Nat} {key : Key} {scope : Scope} {use : TaskUse}
    (found : batch.scopes[task]? = some scope) (begun : scope.begun = true)
    (known : scope.uses.find? key = some use) :
    Effect tracker batch (.discard task key) (.ok (.flag true))
      (batch.setUse task scope key { use with discard := true }) []
  /-- There is nothing to give up. -/
  | undiscarded {task : Nat} {key : Key} {scope : Scope}
    (found : batch.scopes[task]? = some scope) (begun : scope.begun = true)
    (unknown : scope.uses.find? key = none) :
    Effect tracker batch (.discard task key) (.ok (.flag false)) batch []
  /-- The usage of a resource of the task is set. -/
  | overridden {task : Nat} {key : Key} {usage : Usage} {scope : Scope} {use : TaskUse}
    (found : batch.scopes[task]? = some scope) (begun : scope.begun = true)
    (known : scope.uses.find? key = some use) :
    Effect tracker batch (.override task key usage) (.ok (.before (some use.current)))
      (batch.setUse task scope key { use with current := usage }) []
  /-- The usage of a resource not known to the task is set. -/
  | installed {task : Nat} {key : Key} {usage : Usage} {scope : Scope}
    (found : batch.scopes[task]? = some scope) (begun : scope.begun = true)
    (unknown : scope.uses.find? key = none) (room : scope.uses.size < maxResources) :
    Effect tracker batch (.override task key usage) (.ok (.before none))
      (batch.setUse task scope key ⟨usage, (tracker.restingUsage key).1, false⟩) []
  /-- The writes of a task are made visible, or were by a later task. -/
  | readBack {task : Nat} (inRange : task < maxTasks) :
    Effect tracker batch (.readback task) (.ok (.flag !(batch.readbacks.anyAfter task)))
      { batch with readbacks := batch.readbacks.insert task }
      (if batch.readbacks.anyAfter task then []
        else emitted [Barrier.memory .copyDst .hostRead])
  /-- The host's writes are made visible, or were by an earlier task. -/
  | uploaded {task : Nat} {dst : Usage} (inRange : task < maxTasks) :
    Effect tracker batch (.upload task dst) (.ok (.flag !(batch.uploads.anyBefore task)))
      { batch with uploads := batch.uploads.insert task }
      (if batch.uploads.anyBefore task then [] else emitted [Barrier.memory .hostWrite dst])
  /-- A task is finished and every resource left as promised. -/
  | ended {task : Nat} {scope : Scope}
    (found : batch.scopes[task]? = some scope) (begun : scope.begun = true) :
    Effect tracker batch (.finish task) (.ok .done)
      { batch.setScope task scope.finished with
        passages :=
          if batch.lastTask = some task then
            batch.passages.map fun _ passage => { passage with current := passage.final }
          else batch.passages }
      (emitted (batch.closingBarriers scope ++
        if batch.lastTask = some task ∧ batch.readsBackMemory = true then
          [Barrier.memory .general .hostRead]
        else []) ++ [.flush])
  /-- The batch is committed. -/
  | committed (open' : batch.committed = false) (updated : Nat) :
    Effect tracker batch .commit (.ok (.updated updated)) { batch with committed := true } []

namespace Effect

variable {tracker : Tracker} {batch : Batch}

/-- A use of a resource is refused, changes the final usage of one that is known, or adds one. -/
theorem of_use (key : Key) (initial final : Usage) :
    Effect tracker batch (.use key initial final)
      ((batch.use tracker key initial final).answer.map .passage)
      (batch.use tracker key initial final).batch
      (batch.use tracker key initial final).commands := by
  unfold Batch.use
  split
  · exact refused _ _
  · rename_i unstarted
    have empty : batch.scopes = [] := by simpa [isStarted] using unstarted
    split
    · rename_i passage known
      split
      · exact refused _ _
      · rename_i same
        exact redeclared empty known (by simpa using same)
    · rename_i unknown
      split
      · exact refused _ _
      · rename_i room
        exact declared empty unknown (by omega)

/-- A task is refused or is created with the usages reached so far. -/
theorem of_createTask :
    Effect tracker batch .createTask (batch.createTask.answer.map .task) batch.createTask.batch
      batch.createTask.commands := by
  unfold Batch.createTask
  dsimp only
  split
  · exact refused _ _
  · rename_i open'
    split
    · exact refused _ _
    · rename_i room
      exact created (by simpa using open') (by omega)

/-- A declaration for a task is refused, joins a resource that the batch knows, or introduces one
that is new to it. -/
theorem of_declare (task : Nat) (key : Key) (initial final : Usage) :
    Effect tracker batch (.declare task key initial final)
      ((batch.declare tracker task key initial final).answer.map .taskUse)
      (batch.declare tracker task key initial final).batch
      (batch.declare tracker task key initial final).commands := by
  unfold Batch.declare
  split
  · exact refused _ _
  split
  · exact refused _ _
  rename_i newest
  have newest : batch.scopes.length = task + 1 := by simpa using newest
  split
  · exact refused _ _
  rename_i scope found
  split
  · exact refused _ _
  rename_i unbegun
  split
  · exact refused _ _
  rename_i fresh
  have fresh : key ∉ scope.declared := by simpa using fresh
  dsimp only
  split
  · rename_i passage known
    exact joined newest found (by simpa using unbegun) fresh known
  · rename_i unknown
    split
    · exact refused _ _
    · rename_i room
      exact introduced newest found (by simpa using unbegun) fresh unknown (by omega)

/-- A mark is never refused, and the first one stays. -/
theorem of_markLast (task : Nat) :
    Effect tracker batch (.markLast task) ((batch.markLast task).answer.map .flag)
      (batch.markLast task).batch (batch.markLast task).commands := by
  rw [markLast_batch]
  unfold Batch.markLast
  dsimp only
  split <;> exact marked task _

/-- A task begins once, with its barriers, unless it is refused. A task that has begun is refused,
and so is one that does not exist. -/
theorem of_beginTask (task : Nat) (last : Bool) :
    Effect tracker batch (.beginTask task last)
      ((batch.beginTask task last).answer.map fun _ => .done)
      (batch.beginTask task last).batch (batch.beginTask task last).commands := by
  rw [beginTask_eq]
  split
  · exact refused _ _
  rename_i inRange
  split
  · exact refused _ _
  rename_i scope found
  split
  · exact refused _ _
  rename_i unbegun
  have marked : (if last then batch.markLast task else batch.answering true).batch =
      { batch with lastTask := batch.lastAfter task last } := by
    cases last with
    | false => rfl
    | true => exact markLast_batch batch task
  unfold Batch.enterTask
  dsimp only
  rw [marked]
  exact began (by omega) found (by simpa using unbegun)

end Effect

/-- Only a task that exists and has begun can be recorded. What recording a task needs is checked at
this one place. -/
theorem begunScope_eq_ok {batch : Batch} {task : Nat} {scope : Scope} :
    batch.begunScope task = .ok scope ↔
      task < maxTasks ∧ batch.scopes[task]? = some scope ∧ scope.begun = true := by
  unfold begunScope
  split
  · rename_i out
    simp [Nat.not_lt.2 out]
  · rename_i inRange
    split
    · rename_i missing
      simp [missing]
    · rename_i other found
      rw [found]
      split
      · rename_i begun
        constructor
        · rintro ⟨⟩
          exact ⟨by omega, rfl, begun⟩
        · rintro ⟨-, ⟨⟩, -⟩
          rfl
      · rename_i unbegun
        constructor
        · rintro ⟨⟩
        · rintro ⟨-, ⟨⟩, begun⟩
          exact absurd begun unbegun

namespace Effect

variable {tracker : Tracker} {batch : Batch}

/-- A report is refused, moves a resource of the task, fetches one from its rest, or is passed over:
a memory that is not in the table and is only read. -/
theorem of_report (task : Nat) (key : Key) (usage : Usage) :
    Effect tracker batch (.report task key usage)
      ((batch.report tracker task key usage).answer.map fun _ => .done)
      (batch.report tracker task key usage).batch
      (batch.report tracker task key usage).commands := by
  unfold Batch.report
  split
  · exact refused _ _
  rename_i scope opened
  obtain ⟨-, found, begun⟩ := begunScope_eq_ok.1 opened
  split
  · rename_i use known
    exact moved found begun known
  rename_i unknown
  split
  · rename_i passes
    simp only [Bool.and_eq_true, Bool.not_eq_true'] at passes
    exact passedOver found begun unknown passes.1 passes.2
  rename_i counts
  split
  · exact refused _ _
  rename_i room
  have counts : key.isImage = true ∨ usage.readOnly = false := by
    cases image : key.isImage <;> simp_all
  exact fetched found begun unknown counts (by omega)

/-- A discard is noted in the table of the task, if the resource is in it. -/
theorem of_discard (task : Nat) (key : Key) :
    Effect tracker batch (.discard task key) ((batch.discard task key).answer.map .flag)
      (batch.discard task key).batch (batch.discard task key).commands := by
  unfold Batch.discard
  split
  · exact refused _ _
  rename_i scope opened
  obtain ⟨-, found, begun⟩ := begunScope_eq_ok.1 opened
  split
  · rename_i use known
    exact discarded found begun known
  · rename_i unknown
    exact undiscarded found begun unknown

/-- An override writes the table of the task and records nothing. -/
theorem of_override (task : Nat) (key : Key) (usage : Usage) :
    Effect tracker batch (.override task key usage)
      ((batch.override tracker task key usage).answer.map .before)
      (batch.override tracker task key usage).batch
      (batch.override tracker task key usage).commands := by
  unfold Batch.override
  split
  · exact refused _ _
  rename_i scope opened
  obtain ⟨-, found, begun⟩ := begunScope_eq_ok.1 opened
  split
  · rename_i use known
    exact overridden found begun known
  rename_i unknown
  split
  · exact refused _ _
  rename_i room
  exact installed found begun unknown (by omega)

/-- A question changes nothing. -/
theorem of_isIn (task : Nat) (key : Key) (usage : Usage) :
    Effect tracker batch (.isIn task key usage)
      ((batch.isIn tracker task key usage).map .flag) batch [] := by
  cases batch.isIn tracker task key usage with
  | error error => exact refused _ error
  | ok holds => exact asked holds

/-- Memory is read back with one barrier, unless a later task did so before. -/
theorem of_readback (task : Nat) :
    Effect tracker batch (.readback task) ((batch.readback task).answer.map .flag)
      (batch.readback task).batch (batch.readback task).commands := by
  unfold Batch.readback
  split
  · exact refused _ _
  rename_i inRange
  have effect : Effect tracker batch (.readback task) _ _ _ := readBack (by omega)
  dsimp only
  split <;> rename_i later <;> simpa [later, answering, emitting, Except.map] using effect

/-- Memory is uploaded with one barrier, unless an earlier task did so before. -/
theorem of_upload (task : Nat) (dst : Usage) :
    Effect tracker batch (.upload task dst) ((batch.upload task dst).answer.map .flag)
      (batch.upload task dst).batch (batch.upload task dst).commands := by
  unfold Batch.upload
  split
  · exact refused _ _
  rename_i inRange
  have effect : Effect tracker batch (.upload task dst) _ _ _ := uploaded (by omega)
  dsimp only
  split <;> rename_i earlier <;>
    simpa [earlier, answering, emitting, Except.map] using effect

/-- A task that is finished takes every resource of its table to where it has to be left. -/
theorem of_finish (task : Nat) :
    Effect tracker batch (.finish task) ((batch.finish task).answer.map fun _ => .done)
      (batch.finish task).batch (batch.finish task).commands := by
  unfold Batch.finish
  split
  · exact refused _ _
  rename_i scope opened
  obtain ⟨-, found, begun⟩ := begunScope_eq_ok.1 opened
  have effect : Effect tracker batch (.finish task) _ _ _ := ended found begun
  simpa [Scope.finished, Except.map] using effect

/-- A commit sets the mark of the batch, records nothing and leaves the rest as it is. -/
theorem of_commit :
    Effect tracker batch .commit ((batch.commit tracker).answer.map .updated)
      (batch.commit tracker).batch [] := by
  cases state : batch.committed with
  | true =>
    rw [commit_of_committed state]
    exact refused _ _
  | false =>
    unfold Batch.commit
    rw [if_neg (by simp [state])]
    exact committed state _

end Effect

/-! ## What every case has in common

The following hold of each case, and are what most invariants are kept by: tasks are only added, one
scope at most is written, and what has begun stays begun. -/

/-- Writing the scope of a task that exists changes that scope only. -/
theorem getElem?_setScope {batch : Batch} {task : Nat} {scope : Scope}
    (found : batch.scopes[task]? = some scope) (changed : Scope) (other : Nat) :
    (batch.setScope task changed).scopes[other]? =
      if other = task then some changed else batch.scopes[other]? := by
  have bound : task < batch.scopes.length := (List.getElem?_eq_some_iff.1 found).1
  by_cases same : other = task
  · subst same
    simp [setScope, bound]
  · simp [setScope, same, Ne.symm same]

/-- A task has begun if it exists and has the mark. -/
theorem isBegun_eq_true {batch : Batch} {task : Nat} :
    batch.isBegun task = true ↔ ∃ scope, batch.scopes[task]? = some scope ∧ scope.begun = true := by
  unfold isBegun
  cases batch.scopes[task]? <;> simp

/-- Barriers are read back from what emits them. -/
theorem barriers_emitted (barriers : List Barrier) :
    Command.barriers (emitted barriers) = barriers := by
  induction barriers with
  | nil => rfl
  | cons barrier rest ih =>
    exact congrArg (barrier :: ·) ih

/-- A flush at the end adds no barrier. -/
theorem barriers_emitted_flush (barriers : List Barrier) :
    Command.barriers (emitted barriers ++ [.flush]) = barriers := by
  have h := barriers_emitted barriers
  unfold Command.barriers at h ⊢
  rw [List.filterMap_append, h]
  simp [Command.barrier?]

namespace Effect

variable {tracker : Tracker} {batch after : Batch} {call : Call}
  {answer : Except BatchError Reply} {commands : List Command}

/-- A call changes at most one scope of those that exist, and then keeps it begun if it was. -/
theorem scopes_mono (h : Effect tracker batch call answer after commands) {task : Nat}
    {scope : Scope} (found : batch.scopes[task]? = some scope) :
    ∃ changed, after.scopes[task]? = some changed ∧
      (scope.begun = true → changed.begun = true) := by
  have write {other : Nat} {was changed : Scope} (at' : batch.scopes[other]? = some was)
      (keeps : was.begun = true → changed.begun = true) :
      ∃ new, (batch.setScope other changed).scopes[task]? = some new ∧
        (scope.begun = true → new.begun = true) := by
    rw [getElem?_setScope at']
    by_cases same : task = other
    · subst same
      obtain rfl : scope = was := Option.some.inj (found.symm.trans at')
      exact ⟨changed, by simp, keeps⟩
    · exact ⟨scope, by simp [same, found], fun kept => kept⟩
  cases h with
  | created => exact ⟨scope, getElem?_concat_eq_some.2 (.inl found), fun kept => kept⟩
  | joined _ at' | introduced _ at' => exact write at' fun kept => kept
  | began _ at' => exact write at' fun _ => rfl
  | moved at' | fetched at' | discarded at' | overridden at' | installed at' | ended at' =>
    exact write at' fun kept => kept
  | _ => exact ⟨scope, found, fun kept => kept⟩

/-- A task stays begun. -/
theorem isBegun_mono (h : Effect tracker batch call answer after commands) {task : Nat}
    (begun : batch.isBegun task = true) : after.isBegun task = true := by
  obtain ⟨scope, found, begun⟩ := isBegun_eq_true.1 begun
  obtain ⟨changed, found', keeps⟩ := h.scopes_mono found
  exact isBegun_eq_true.2 ⟨changed, found', keeps begun⟩

/-- Tasks are only added. -/
theorem length_mono (h : Effect tracker batch call answer after commands) :
    batch.scopes.length ≤ after.scopes.length := by
  cases h with
  | created => simp
  | _ => first | exact Nat.le_refl _ | simp [setScope, setUse]

/-- There are never more tasks than a batch may have. -/
theorem few (h : Effect tracker batch call answer after commands)
    (few : batch.scopes.length ≤ maxTasks) : after.scopes.length ≤ maxTasks := by
  cases h with
  | created _ room =>
    simp only [List.length_append, List.length_singleton]
    omega
  | _ => first | exact few | simpa [setScope, setUse] using few

/-- Barriers on a resource come from a task that has begun. It is the one that the call records, as
no call emits anything for another task. -/
theorem isBegun_of_barriers (h : Effect tracker batch call answer after commands) {key : Key}
    (emits : onKey key (Command.barriers commands) ≠ []) :
    ∃ task, call.recorded? = some task ∧ after.isBegun task = true := by
  have write {task : Nat} {was changed : Scope} {b : Batch}
      (at' : batch.scopes[task]? = some was)
      (same : b.scopes = (batch.setScope task changed).scopes)
      (begun : changed.begun = true) : b.isBegun task = true := by
    refine isBegun_eq_true.2 ⟨changed, ?_, begun⟩
    rw [same, getElem?_setScope at', if_pos rfl]
  cases h with
  | began _ at' => exact ⟨_, rfl, write at' rfl rfl⟩
  | moved at' begun | fetched at' begun | ended at' begun => exact ⟨_, rfl, write at' rfl begun⟩
  | readBack =>
    split at emits <;>
      simp [Command.barriers, emitted, Command.barrier?, onKey, Barrier.memory] at emits
  | uploaded =>
    split at emits <;>
      simp [Command.barriers, emitted, Command.barrier?, onKey, Barrier.memory] at emits
  | _ => exact absurd rfl emits

end Effect

/-- **There is no other case.** Whatever call a batch meets, what becomes of it is one of the cases
of `Effect`. -/
theorem perform_effect (batch : Batch) (tracker : Tracker) {call : Call} (basic : call.Basic) :
    Effect tracker batch call (batch.perform tracker call).answer
      (batch.perform tracker call).batch (batch.perform tracker call).commands := by
  cases call with
  | use key initial final => exact .of_use key initial final
  | useAtRest key => exact basic.elim
  | useTargets targets => exact basic.elim
  | uploadMemory => exact .uploads
  | readbackMemory => exact .readsBack
  | setRelaxed relaxed => exact .relaxes relaxed
  | createTask => exact .of_createTask
  | declare task key initial final => exact .of_declare task key initial final
  | declareDefault task key => exact basic.elim
  | markLast task => exact .of_markLast task
  | beginTask task last => exact .of_beginTask task last
  | report task key usage => exact .of_report task key usage
  | discard task key => exact .of_discard task key
  | override task key usage => exact .of_override task key usage
  | isIn task key usage => exact .of_isIn task key usage
  | readback task => exact .of_readback task
  | upload task dst => exact .of_upload task dst
  | finish task => exact .of_finish task
  | commit => exact .of_commit

end Batch

end GpuSync
