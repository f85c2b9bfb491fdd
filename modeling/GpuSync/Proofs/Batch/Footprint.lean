import GpuSync.Proofs.Batch.Effect
import Mathlib.Tactic.Common

/-!
# What recording a task sees and changes

The tasks of a batch share its book-keeping, yet a call that records one of them sees and changes
only a part of it. `Alike task` relates two batches that agree in what such a call can see, and a
`Stroke` is all that such a call can change.

* `uniform_of_scripted`: a scripted call on a task comes to the same, with the same stroke, in all
  batches that look alike to the task.
* `Stroke.alike_apply`: what one task changes another one does not see.
* `Stroke.apply_comm`: the changes of two tasks may be made in either order.
* `perform_comm`: hence calls on two tasks may be exchanged, unless both tasks are to be the last.
-/

namespace GpuSync.Batch

/-- The calls of which the script of a task is made. -/
def Call.Scripted : Call → Prop
  | .beginTask _ _ | .report _ _ _ | .discard _ _ | .override _ _ _ | .isIn _ _ _ | .finish _ =>
    True
  | _ => False

/-- A call of a script is recorded for some task. -/
theorem Call.Scripted.exists_task {call : Call} (h : call.Scripted) :
    ∃ task, call.recorded? = some task := by
  cases call with
  | beginTask task | report task | discard task | override task | isIn task | finish task =>
    exact ⟨task, rfl⟩
  | _ => exact h.elim

/-- Whether a call begins a task as the last one. -/
def Call.beginsLast : Call → Bool
  | .beginTask _ last => last
  | _ => false

/-! ## What a task sees

Batches that look alike to a task agree in its scope, in the queue, in the final usages and, for the
first task, in what is queued for the batch. They may differ in everything about the other tasks.
-/

/-- The two batches agree in all that recording a task can see. It is an equivalence for the task in
question, and says nothing of what other tasks have in the two batches. -/
structure Alike (task : Nat) (a b : Batch) : Prop where
  /-- They are uses of the same batch. -/
  id : a.id = b.id
  /-- Both are relaxed about barriers, or neither is. -/
  relaxed : a.relaxed = b.relaxed
  /-- The host's writes are made visible in both, or in neither. -/
  uploads : a.uploadsMemory = b.uploadsMemory
  /-- The device's writes are made visible in both, or in neither. -/
  readsBack : a.readsBackMemory = b.readsBackMemory
  /-- The task is the same. -/
  scope : a.scopes[task]? = b.scopes[task]?
  /-- If it is the first one it opens with the same barriers. -/
  opening : task = 0 → a.opening = b.opening
  /-- The resources of the batch are left in the same usages. -/
  finals : ∀ key, (a.passage? key).map (·.final) = (b.passage? key).map (·.final)
  /-- The task is the last one in both, or in neither. -/
  last : a.lastTask = some task ↔ b.lastTask = some task

namespace Alike

variable {task : Nat} {a b : Batch}

/-- Every batch looks like itself. -/
theorem refl (task : Nat) (batch : Batch) : Alike task batch batch :=
  ⟨rfl, rfl, rfl, rfl, rfl, fun _ => rfl, fun _ => rfl, Iff.rfl⟩

/-- Batches that look alike to a task refuse to record it for the same reasons. -/
theorem begunScope (h : Alike task a b) : b.begunScope task = a.begunScope task := by
  unfold Batch.begunScope outOfRange
  rw [h.scope, h.id]

/-- Batches that look alike change a usage with the same barriers. -/
theorem transition (h : Alike task a b) (key : Key) (src dst : Usage) (discard : Bool) :
    b.transition key src dst discard = a.transition key src dst discard := by
  unfold Batch.transition needsBarrier
  rw [h.relaxed]

/-- Batches that look alike close a task with the same barriers. -/
theorem closingBarriers (h : Alike task a b) (scope : Scope) :
    b.closingBarriers scope = a.closingBarriers scope := by
  unfold Batch.closingBarriers
  simp only [h.transition]

/-- Batches that look alike open a task with the same barriers. -/
theorem openingBarriers (h : Alike task a b) : b.openingBarriers task = a.openingBarriers task := by
  unfold Batch.openingBarriers
  split
  · rename_i first
    rw [h.opening first, h.uploads]
  · rfl

/-- The table of a task as it begins takes nothing but final usages from the batch. -/
theorem usesAtBegin (h : Alike task a b) (scope : Scope) (last : Bool) :
    b.usesAtBegin scope last = a.usesAtBegin scope last := by
  unfold Batch.usesAtBegin
  cases last with
  | false => rfl
  | true =>
    rw [if_pos rfl, if_pos rfl]
    congr 1
    funext key use
    have finals := h.finals key
    unfold passage? at finals
    cases here : a.passages.find? key <;> cases there : b.passages.find? key <;>
      simp_all

/-- Batches that look alike begin a task in the same way. -/
theorem started (h : Alike task a b) (scope : Scope) (last : Bool) :
    scope.started b last = scope.started a last := by
  unfold Scope.started
  rw [h.usesAtBegin]

end Alike

/-! ## What a task changes

Changes are collected as data, a stroke, instead of as a function on batches. Two strokes of
different tasks then commute for a reason that can be seen: they write different scopes, and the
passages that one settles are written by no other. -/

/-- All that a call that records a task changes. It is data that does not refer to the batch it was
made in, so that it can be applied to another one. -/
structure Stroke where
  /-- What is known of the task from now on, if that changes. -/
  scope : Option Scope := none
  /-- Whether the task begins, and if it is the first one, takes the barriers of the batch along. -/
  begins : Bool := false
  /-- Whether the task is marked as the last one, unless one is. -/
  marks : Bool := false
  /-- Whether the resources of the batch are left in its final usages. -/
  settles : Bool := false

/-- Makes the changes. -/
def Stroke.apply (stroke : Stroke) (task : Nat) (batch : Batch) : Batch :=
  { batch with
    scopes := (stroke.scope.map (batch.scopes.set task)).getD batch.scopes
    opening := if stroke.begins ∧ task = 0 then [] else batch.opening
    lastTask := if stroke.marks ∧ batch.lastTask = none then some task else batch.lastTask
    passages :=
      if stroke.settles then
        batch.passages.map fun _ passage => { passage with current := passage.final }
      else batch.passages }

namespace Stroke

variable {t u : Nat}

/-- Another task does not see what one task changes. A stroke of another task writes that task's
scope and what no task reads. -/
theorem alike_apply (stroke : Stroke) (apart : t ≠ u) (batch : Batch) :
    Alike u batch (stroke.apply t batch) where
  id := rfl
  relaxed := rfl
  uploads := rfl
  readsBack := rfl
  scope := by
    cases changed : stroke.scope with
    | none => simp [apply, changed]
    | some scope => simp [apply, changed, List.getElem?_set_ne apart]
  opening := by
    intro first
    have : t ≠ 0 := first ▸ apart
    simp [apply, this]
  finals := by
    intro key
    unfold apply passage?
    dsimp only
    split
    · rw [KeyTable.find?_map, Option.map_map]
      rfl
    · rfl
  last := by
    unfold apply
    dsimp only
    split
    · rename_i marked
      simp [marked.2, apart]
    · rfl

/-- **Changes of two tasks** may be made in either order, unless both mark the last task. -/
theorem apply_comm (first second : Stroke) (apart : t ≠ u)
    (oneMarks : ¬ (first.marks = true ∧ second.marks = true)) (batch : Batch) :
    second.apply u (first.apply t batch) = first.apply t (second.apply u batch) := by
  have scopes :
      (second.apply u (first.apply t batch)).scopes =
        (first.apply t (second.apply u batch)).scopes := by
    cases one : first.scope <;> cases other : second.scope <;>
      simp [apply, one, other, List.set_comm _ _ apart]
  have opening :
      (second.apply u (first.apply t batch)).opening =
        (first.apply t (second.apply u batch)).opening := by
    unfold apply
    dsimp only
    split <;> split <;> rfl
  have lastTask :
      (second.apply u (first.apply t batch)).lastTask =
        (first.apply t (second.apply u batch)).lastTask := by
    unfold apply
    dsimp only
    cases one : first.marks <;> cases other : second.marks <;> simp_all
  have passages :
      (second.apply u (first.apply t batch)).passages =
        (first.apply t (second.apply u batch)).passages := by
    unfold apply
    dsimp only
    cases first.settles <;> cases second.settles <;> rfl
  unfold apply at *
  simp only at scopes opening lastTask passages
  rw [scopes, opening, lastTask, passages]

/-- A stroke without any change. -/
@[simp] theorem apply_idle (task : Nat) (batch : Batch) :
    ({} : Stroke).apply task batch = batch := by
  simp [apply]

/-- Entering a resource into the table of a task changes the task only. -/
theorem apply_setUse (task : Nat) (scope : Scope) (key : Key) (use : TaskUse) (batch : Batch) :
    ({ scope := some { scope with uses := scope.uses.insert key use } } : Stroke).apply task batch =
      batch.setUse task scope key use := by
  simp [apply, setUse, setScope]

end Stroke

/-! ## What a call comes to

The stroke, the answer and the commands of a call are the same in all batches that look alike. There
is one lemma for each kind of call, and most of them follow from the fact that the call reads the
scope of its task and writes it back. -/

/-- In a batch, a call on a task is answered, records commands and makes the changes of a stroke. -/
structure Strikes (tracker : Tracker) (call : Call) (task : Nat) (stroke : Stroke)
    (answer : Except BatchError Reply) (commands : List Command) (batch : Batch) : Prop where
  /-- The answer. -/
  answer : (batch.perform tracker call).answer = answer
  /-- The commands. -/
  commands : (batch.perform tracker call).commands = commands
  /-- The changes. -/
  batch : (batch.perform tracker call).batch = stroke.apply task batch

/-- A call that records a task comes to the same in all batches that look alike to the task. This is
what it means that recording a task is not disturbed by the recording of others. -/
def Uniform (batch : Batch) (tracker : Tracker) (call : Call) (task : Nat) : Prop :=
  ∃ (stroke : Stroke) (answer : Except BatchError Reply) (commands : List Command),
    (stroke.marks = true → call.beginsLast = true) ∧
    ∀ other, Alike task batch other → Strikes tracker call task stroke answer commands other

section

variable (batch : Batch) (tracker : Tracker) (task : Nat)

/-- A call is uniform if it is refused alike, or changes the table of its task alike. -/
theorem uniform_of_begunScope {call : Call}
    (refused : ∀ error other, other.begunScope task = .error error →
      Strikes tracker call task {} (.error error) [] other)
    (opened : ∀ scope, batch.begunScope task = .ok scope → Uniform batch tracker call task) :
    Uniform batch tracker call task := by
  cases found : batch.begunScope task with
  | error error =>
    refine ⟨{}, .error error, [], by simp, ?_⟩
    intro other alike
    exact refused error other (alike.begunScope.trans found)
  | ok scope => exact opened scope found

/-- A report reads the table of its task, the tracker and what batches that look alike have in
common. -/
theorem uniform_report (key : Key) (usage : Usage) :
    Uniform batch tracker (.report task key usage) task := by
  apply uniform_of_begunScope
  · intro error other found
    constructor <;> simp [perform, Batch.report, found, refuse, Outcome.turn, Except.map]
  · intro scope found
    -- Every branch names its stroke, answer and commands from the table of the task alone. What is
    -- left is to execute the call in another batch that looks alike.
    cases known : scope.uses.find? key with
    | some use =>
      refine ⟨{ scope := some { scope with
          uses := scope.uses.insert key { use with current := usage, discard := false } } },
        .ok .done,
        emitted (batch.transition key use.current usage (use.discard && key.isImage)), by simp, ?_⟩
      intro other alike
      have found' := alike.begunScope.trans found
      constructor <;>
        simp [perform, Batch.report, found', known, emitting, Outcome.turn, Except.map,
          alike.transition, Stroke.apply_setUse]
    | none =>
      by_cases passes : (!key.isImage && usage.readOnly) = true
      · refine ⟨{}, .ok .done, [], by simp, ?_⟩
        intro other alike
        have found' := alike.begunScope.trans found
        constructor <;>
          simp [perform, Batch.report, found', known, passes, answering, Outcome.turn, Except.map]
      · by_cases full : maxResources ≤ scope.uses.size
        · refine ⟨{}, .error batch.tooMany, [], by simp, ?_⟩
          intro other alike
          have found' := alike.begunScope.trans found
          constructor <;>
            simp [perform, Batch.report, found', known, passes, full, refuse, Outcome.turn,
              Except.map, tooMany, alike.id]
        · refine ⟨{ scope := some { scope with
              uses := scope.uses.insert key ⟨usage, (tracker.restingUsage key).1, false⟩ } },
            .ok .done,
            emitted (batch.transition key (tracker.restingUsage key).1 usage
              ((tracker.restingUsage key).2 && key.isImage)), by simp, ?_⟩
          intro other alike
          have found' := alike.begunScope.trans found
          constructor <;>
            simp [perform, Batch.report, found', known, passes, full, emitting, Outcome.turn,
              Except.map, alike.transition, Stroke.apply_setUse]

/-- A discard reads and writes nothing but the table of its task. -/
theorem uniform_discard (key : Key) : Uniform batch tracker (.discard task key) task := by
  apply uniform_of_begunScope
  · intro error other found
    constructor <;> simp [perform, Batch.discard, found, refuse, Outcome.turn, Except.map]
  · intro scope found
    cases known : scope.uses.find? key with
    | some use =>
      refine ⟨{ scope := some { scope with
          uses := scope.uses.insert key { use with discard := true } } },
        .ok (.flag true), [], by simp, ?_⟩
      intro other alike
      have found' := alike.begunScope.trans found
      constructor <;>
        simp [perform, Batch.discard, found', known, answering, Outcome.turn, Except.map,
          Stroke.apply_setUse]
    | none =>
      refine ⟨{}, .ok (.flag false), [], by simp, ?_⟩
      intro other alike
      have found' := alike.begunScope.trans found
      constructor <;>
        simp [perform, Batch.discard, found', known, answering, Outcome.turn, Except.map]

/-- An override reads the table of its task and the tracker. -/
theorem uniform_override (key : Key) (usage : Usage) :
    Uniform batch tracker (.override task key usage) task := by
  apply uniform_of_begunScope
  · intro error other found
    constructor <;> simp [perform, Batch.override, found, refuse, Outcome.turn, Except.map]
  · intro scope found
    cases known : scope.uses.find? key with
    | some use =>
      refine ⟨{ scope := some { scope with
          uses := scope.uses.insert key { use with current := usage } } },
        .ok (.before (some use.current)), [], by simp, ?_⟩
      intro other alike
      have found' := alike.begunScope.trans found
      constructor <;>
        simp [perform, Batch.override, found', known, answering, Outcome.turn, Except.map,
          Stroke.apply_setUse]
    | none =>
      -- A resource that is not in the table yet needs room in it.
      by_cases full : maxResources ≤ scope.uses.size
      · refine ⟨{}, .error batch.tooMany, [], by simp, ?_⟩
        intro other alike
        have found' := alike.begunScope.trans found
        constructor <;>
          simp [perform, Batch.override, found', known, full, refuse, Outcome.turn, Except.map,
            tooMany, alike.id]
      · refine ⟨{ scope := some { scope with
            uses := scope.uses.insert key ⟨usage, (tracker.restingUsage key).1, false⟩ } },
          .ok (.before none), [], by simp, ?_⟩
        intro other alike
        have found' := alike.begunScope.trans found
        constructor <;>
          simp [perform, Batch.override, found', known, full, answering, Outcome.turn, Except.map,
            Stroke.apply_setUse]

/-- A question reads the table of its task and the tracker. -/
theorem uniform_isIn (key : Key) (usage : Usage) :
    Uniform batch tracker (.isIn task key usage) task := by
  refine ⟨{}, (batch.isIn tracker task key usage).map .flag, [], by simp, ?_⟩
  intro other alike
  constructor <;> simp [perform, Batch.isIn, usage?, alike.begunScope]

/-- To finish a task reads its table and whether it is the last one, which settles the passages of
the batch, too. -/
theorem uniform_finish : Uniform batch tracker (.finish task) task := by
  apply uniform_of_begunScope
  · intro error other found
    constructor <;> simp [perform, Batch.finish, found, refuse, Outcome.turn, Except.map]
  · intro scope found
    refine ⟨{ scope := some scope.finished, settles := batch.lastTask = some task }, .ok .done,
      emitted (batch.closingBarriers scope ++
        if batch.lastTask = some task ∧ batch.readsBackMemory = true then
          [Barrier.memory .general .hostRead]
        else []) ++ [.flush], by simp, ?_⟩
    intro other alike
    have found' := alike.begunScope.trans found
    constructor <;>
      simp [perform, Batch.finish, found', Outcome.turn, Except.map, alike.closingBarriers,
        alike.last, alike.readsBack, Stroke.apply, setScope, Scope.finished]

/-- To begin a task reads what is queued for it and, for the first task, for the batch. The mark of
the last task is left to the stroke, since another task may set it in between. -/
theorem uniform_beginTask (last : Bool) : Uniform batch tracker (.beginTask task last) task := by
  -- Beginning does not go by `begunScope`, since the task must not have begun, so the checks are
  -- gone through here.
  by_cases out : maxTasks ≤ task
  · refine ⟨{}, .error (batch.outOfRange task), [], by simp, ?_⟩
    intro other alike
    constructor <;>
      simp [perform, beginTask_eq, out, refuse, Outcome.turn, Except.map, outOfRange, alike.id]
  cases found : batch.scopes[task]? with
  | none =>
    refine ⟨{}, .error (.taskNotCreated batch.id task), [], by simp, ?_⟩
    intro other alike
    have found' := alike.scope.symm.trans found
    constructor <;>
      simp [perform, beginTask_eq, out, found', refuse, Outcome.turn, Except.map, alike.id]
  | some scope =>
    cases begun : scope.begun with
    | true =>
      refine ⟨{}, .error (.taskAlreadyBegun batch.id task), [], by simp, ?_⟩
      intro other alike
      have found' := alike.scope.symm.trans found
      constructor <;>
        simp [perform, beginTask_eq, out, found', begun, refuse, Outcome.turn, Except.map,
          alike.id]
    | false =>
      refine ⟨{ scope := some (scope.started batch last), begins := true, marks := last },
        .ok .done, emitted (batch.openingBarriers task ++ scope.opening) ++ [.flush],
        fun marks => marks, ?_⟩
      intro other alike
      have found' := alike.scope.symm.trans found
      -- The mark depends on who set it before, which tasks may differ in. So the stroke says only
      -- that the task is to be marked.
      have marked : (if last then other.markLast task else other.answering true).batch =
          { other with lastTask := other.lastAfter task last } := by
        cases last with
        | false => rfl
        | true => exact markLast_batch other task
      rw [lastAfter_of_lt other (by omega)] at marked
      constructor
      · simp [perform, beginTask_eq, enterTask, out, found', begun, Outcome.turn, Except.map]
      · simp [perform, beginTask_eq, enterTask, out, found', begun, Outcome.turn,
          alike.openingBarriers]
      · have started := alike.started scope last
        unfold Scope.started at started
        simp only [perform, beginTask_eq, enterTask, out, found', begun, Outcome.turn, marked]
        simp [Stroke.apply, setScope, started, Scope.started]

end

/-- **A scripted call on a task** comes to the same in all batches that look alike to the task. -/
theorem uniform_of_scripted (batch : Batch) (tracker : Tracker) {call : Call} {task : Nat}
    (scripted : call.Scripted) (records : call.recorded? = some task) :
    Uniform batch tracker call task := by
  cases call with
  | beginTask t last =>
    obtain rfl : t = task := Option.some.inj records
    exact uniform_beginTask batch tracker t last
  | report t key usage =>
    obtain rfl : t = task := Option.some.inj records
    exact uniform_report batch tracker t key usage
  | discard t key =>
    obtain rfl : t = task := Option.some.inj records
    exact uniform_discard batch tracker t key
  | override t key usage =>
    obtain rfl : t = task := Option.some.inj records
    exact uniform_override batch tracker t key usage
  | isIn t key usage =>
    obtain rfl : t = task := Option.some.inj records
    exact uniform_isIn batch tracker t key usage
  | finish t =>
    obtain rfl : t = task := Option.some.inj records
    exact uniform_finish batch tracker t
  | _ => exact scripted.elim

/-! ## Calls on two tasks

What one task changes is not seen by another, so the stroke of the second call is what it would have
been without the first. Only the mark of the last task is shared, and it goes to the first who sets
it. -/

section

variable (batch : Batch) (tracker : Tracker) {c d : Call} {t u : Nat}

/-- A call on another task does not change what a scripted call comes to. -/
theorem perform_beside (scripted : c.Scripted ∧ d.Scripted) (on : c.recorded? = some t)
    (beside : d.recorded? = some u) (apart : t ≠ u) :
    ((batch.perform tracker c).batch.perform tracker d).answer = (batch.perform tracker d).answer ∧
    ((batch.perform tracker c).batch.perform tracker d).commands =
      (batch.perform tracker d).commands := by
  obtain ⟨first, _, _, -, strikes⟩ := uniform_of_scripted batch tracker scripted.1 on
  obtain ⟨second, _, _, -, strikes'⟩ := uniform_of_scripted batch tracker scripted.2 beside
  have here := strikes' batch (.refl u batch)
  have there := strikes' _ (first.alike_apply apart batch)
  rw [(strikes batch (.refl t batch)).batch]
  constructor
  · rw [there.answer, here.answer]
  · rw [there.commands, here.commands]

/-- **Scripted calls on two tasks may be exchanged**, unless both begin the last task. Both orders
come to the same batch, the same answers and the same commands. -/
theorem perform_comm (scripted : c.Scripted ∧ d.Scripted) (on : c.recorded? = some t)
    (beside : d.recorded? = some u) (apart : t ≠ u)
    (oneLast : ¬ (c.beginsLast = true ∧ d.beginsLast = true)) :
    ((batch.perform tracker c).batch.perform tracker d).batch =
      ((batch.perform tracker d).batch.perform tracker c).batch := by
  obtain ⟨first, _, _, marks, strikes⟩ := uniform_of_scripted batch tracker scripted.1 on
  obtain ⟨second, _, _, marks', strikes'⟩ := uniform_of_scripted batch tracker scripted.2 beside
  have oneMarks : ¬ (first.marks = true ∧ second.marks = true) := by
    intro both
    exact oneLast ⟨marks both.1, marks' both.2⟩
  calc ((batch.perform tracker c).batch.perform tracker d).batch
      = second.apply u (first.apply t batch) := by
        rw [(strikes batch (.refl t batch)).batch,
          (strikes' _ (first.alike_apply apart batch)).batch]
    _ = first.apply t (second.apply u batch) := first.apply_comm second apart oneMarks batch
    _ = ((batch.perform tracker d).batch.perform tracker c).batch := by
        rw [(strikes' batch (.refl u batch)).batch,
          (strikes _ (second.alike_apply apart.symm batch)).batch]

end

end GpuSync.Batch
