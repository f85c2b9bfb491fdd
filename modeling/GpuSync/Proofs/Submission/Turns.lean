import GpuSync.Proofs.Batch.Publication
import GpuSync.Submission.Recording

/-!
# What the operations on a recording do

A recording is a submission with the tracker it publishes to. Its operations are made of calls on
the batch, and of counting tasks as finished. This file says once what each of them does, so no
later proof opens one.

* `Batch.Stays`: no task was created, begun or marked, nothing was committed, and every resource
  keeps the usage it is to be left in. Declaring for a task and working in one are of this kind.
* `Recording.Turn`: what any operation may do about publishing, which is nothing, or all of it.
* `Recording.settle_submission`, `Recording.abandon_of_begun`, `Recording.abandon_of_unbegun` and
  `Recording.start_of_unbegun` are about the ends and the beginning of a task.
-/

namespace GpuSync

namespace Batch

/-! ## Calls that leave the tasks alone

What is needed to follow the stages of tasks is little: who has begun, which one is marked, how many
there are, and whether the batch was committed. Declarations for a task and reports in one leave all
of it alone. -/

/-- Which of the tasks were begun. -/
def begunFlags (batch : Batch) : List Bool := batch.scopes.map (·.begun)

/-- There is one flag for each task. -/
theorem length_begunFlags (batch : Batch) : batch.begunFlags.length = batch.taskCount :=
  List.length_map _

/-- Whether a task was begun is read off its flag. -/
theorem isBegun_eq_getElem? (batch : Batch) (task : Nat) :
    batch.isBegun task = batch.begunFlags[task]?.getD false := by
  unfold isBegun begunFlags
  rw [List.getElem?_map]
  cases batch.scopes[task]? <;> rfl

section

variable {batch after : Batch} (same : after.begunFlags = batch.begunFlags)
include same

/-- As many flags, as many tasks. -/
theorem taskCount_of_begunFlags : after.taskCount = batch.taskCount := by
  rw [← length_begunFlags, ← length_begunFlags, same]

/-- The same flags tell of the same tasks. -/
theorem isBegun_of_begunFlags (task : Nat) : after.isBegun task = batch.isBegun task := by
  rw [isBegun_eq_getElem?, isBegun_eq_getElem?, same]

end

/-- Every resource of a batch is there afterwards, to be left in the same usage. -/
def KeepsFinals (batch after : Batch) : Prop :=
  ∀ key passage, batch.passage? key = some passage →
    ∃ later, after.passage? key = some later ∧ later.final = passage.final

/-- A batch that is left alone keeps its final usages. -/
theorem KeepsFinals.refl (batch : Batch) : KeepsFinals batch batch :=
  fun _ passage known => ⟨passage, known, rfl⟩

/-- What is kept twice in turn is kept. -/
theorem KeepsFinals.trans {a b c : Batch} (h : KeepsFinals a b) (h' : KeepsFinals b c) :
    KeepsFinals a c := by
  intro key passage known
  obtain ⟨middle, known', same⟩ := h key passage known
  obtain ⟨later, known'', same'⟩ := h' key middle known'
  exact ⟨later, known'', same'.trans same⟩

/-- What a batch keeps while tasks are declared and worked on. What may change is the tables, the
barriers that are queued, and what is recorded. -/
structure Stays (batch after : Batch) : Prop extends Keeps batch after where
  /-- No task was created or begun. -/
  begun : after.begunFlags = batch.begunFlags
  /-- No task was marked. -/
  last : after.lastTask = batch.lastTask
  /-- No resource is to be left in another usage. -/
  finals : KeepsFinals batch after

/-- A batch that is left alone stays as it is. -/
theorem Stays.refl (batch : Batch) : Stays batch batch := ⟨.refl batch, rfl, rfl, .refl batch⟩

/-- What stays twice in turn stays. -/
theorem Stays.trans {a b c : Batch} (h : Stays a b) (h' : Stays b c) : Stays a c :=
  ⟨h.toKeeps.trans h'.toKeeps, h'.begun.trans h.begun, h'.last.trans h.last,
    h.finals.trans h'.finals⟩

/-- Changing a scope, but not whether it was begun. -/
theorem begunFlags_setScope {batch : Batch} {task : Nat} {scope : Scope}
    (found : batch.scopes[task]? = some scope) (changed : Scope)
    (same : changed.begun = scope.begun) :
    (batch.setScope task changed).begunFlags = batch.begunFlags := by
  obtain ⟨bound, rfl⟩ := List.getElem?_eq_some_iff.1 found
  have flag : batch.begunFlags.get ⟨task, by simpa [begunFlags] using bound⟩ = changed.begun := by
    rw [same]
    exact List.getElem_map _
  show (batch.scopes.set task changed).map (·.begun) = batch.begunFlags
  rw [List.map_set, ← flag]
  exact List.set_getElem_self _

/-- The calls that declare for a task, or are made while a task is recorded. -/
def Call.InTask : Call → Prop
  | .declare .. | .report .. | .discard .. | .override .. | .isIn .. | .readback _ | .upload ..
  | .finish _ => True
  | _ => False

/-- A call that declares for a task, or records it, neither begins nor marks one, by cases on its
effect. -/
theorem Effect.stays {tracker : Tracker} {batch after : Batch} {call : Call}
    {answer : Except BatchError Reply} {commands : List Command}
    (effect : Effect tracker batch call answer after commands) (inTask : call.InTask) :
    Stays batch after := by
  have keeps : Keeps batch after := by
    apply effect.keeps
    rintro rfl
    exact inTask
  have write {task : Nat} {scope changed : Scope} (found : batch.scopes[task]? = some scope)
      (same : changed.begun = scope.begun) :
      Stays batch (batch.setScope task changed) :=
    ⟨⟨rfl, rfl⟩, begunFlags_setScope found changed same, rfl, .refl batch⟩
  -- Calls on the whole batch are excluded. Writing a task leaves its flag alone, and of the
  -- passages a declaration and the end of a task may change one, but not what it ends in.
  cases effect with
  | refused | asked | passedOver | undiscarded => exact .refl batch
  | redeclared | declared | uploads | readsBack | relaxes | created | marked | began
  | committed => exact inTask.elim
  | moved found | fetched found | discarded found | overridden found | installed found =>
    exact write found rfl
  | readBack | uploaded => exact ⟨keeps, rfl, rfl, .refl batch⟩
  | @joined task key initial final scope passage newest found unbegun fresh known =>
    refine ⟨keeps, begunFlags_setScope found (scope.declaring key _ _) rfl, rfl, ?_⟩
    intro other old known'
    unfold passage? at known' ⊢
    rw [KeyTable.find?_insert]
    split
    · rename_i same
      rw [same, known] at known'
      cases known'
      exact ⟨_, rfl, rfl⟩
    · exact ⟨old, known', rfl⟩
  | @introduced task key initial final scope newest found unbegun fresh unknown room =>
    refine ⟨keeps, begunFlags_setScope found (scope.declaring key _ _) rfl, rfl, ?_⟩
    intro other old known'
    unfold passage? at known' ⊢
    rw [KeyTable.find?_insert]
    split
    · rename_i same
      rw [same, unknown] at known'
      cases known'
    · exact ⟨old, known', rfl⟩
  | @ended task scope found begun =>
    refine ⟨keeps, begunFlags_setScope found scope.finished rfl, rfl, ?_⟩
    intro key old known
    unfold passage? at known ⊢
    split
    · rw [KeyTable.find?_map, known]
      exact ⟨_, rfl, rfl⟩
    · exact ⟨old, known, rfl⟩

/-- So it is for calls that are made of others. -/
theorem stays_perform (batch : Batch) (tracker : Tracker) {call : Call} (inTask : call.InTask) :
    Stays batch (batch.perform tracker call).batch := by
  refine (perform_effect batch tracker ?_).stays inTask
  cases call <;> trivial

/-- So it is for a declaration with the usages by default. -/
theorem stays_declareDefault (batch : Batch) (tracker : Tracker) (task : Nat) (key : Key) :
    Stays batch (batch.declareDefault tracker task key).batch := by
  have declares (initial final : Usage) :
      Stays batch (batch.declare tracker task key initial final).batch :=
    (Effect.of_declare task key initial final).stays trivial
  unfold declareDefault
  split
  · exact declares _ _
  · dsimp only
    split
    · exact declares _ _
    · exact declares _ _

/-! ## Beginning a task

A task that waits was created and not begun, so beginning it cannot be refused. -/

/-- Beginning a task that was created and not begun. -/
theorem beginTask_of_unbegun {batch : Batch} {task : Nat} (inRange : task < maxTasks)
    (created : task < batch.taskCount) (unbegun : batch.isBegun task = false) (last : Bool) :
    (batch.beginTask task last).answer = .ok () ∧
      (batch.beginTask task last).batch.begunFlags = batch.begunFlags.set task true ∧
      (batch.beginTask task last).batch.lastTask = batch.lastAfter task last ∧
      (batch.beginTask task last).batch.passages = batch.passages ∧
      Keeps batch (batch.beginTask task last).batch := by
  have found : batch.scopes[task]? = some batch.scopes[task] :=
    List.getElem?_eq_getElem created
  have idle : batch.scopes[task].begun = false := by
    unfold isBegun at unbegun
    rw [found] at unbegun
    exact unbegun
  have keeps : Keeps batch (batch.beginTask task last).batch :=
    keeps_perform batch .empty (show Call.beginTask task last ≠ .commit from nofun)
  have marked : (if last then batch.markLast task else batch.answering true).batch =
      { batch with lastTask := batch.lastAfter task last } := by
    cases last with
    | false => rfl
    | true => exact markLast_batch batch task
  revert keeps
  rw [beginTask_eq, if_neg (Nat.not_le.2 inRange), found]
  dsimp only [enterTask]
  rw [if_neg (by simp [idle]), marked]
  intro keeps
  refine ⟨rfl, ?_, rfl, rfl, keeps⟩
  exact List.map_set

end Batch

namespace Recording

open Batch (KeepsFinals Keeps Stays)
open Submission (Task)

variable {before middle after : Recording} {α : Type}

/-! ## What an operation may do about publishing

An operation publishes the whole batch or nothing, and the first only by committing it. There is no
state in between. -/

/-- Nothing is committed or published. -/
structure Idle (before after : Recording) : Prop extends Keeps before.batch after.batch where
  /-- No resource is to be left in another usage. -/
  finals : KeepsFinals before.batch after.batch
  /-- The tracker stays as it is. -/
  tracker : after.tracker = before.tracker

/-- The batch is committed, which publishes it to the tracker. All passages that the batch has by
then are published to the tracker it meets. -/
def Commits (before after : Recording) : Prop :=
  ∃ batch : Batch, batch.committed = false ∧ batch.user = before.batch.user ∧
    after.batch = { batch with committed := true } ∧
    after.tracker = (batch.perform before.tracker .commit).tracker

/-- What any operation may do: it commits a batch that was open, or publishes nothing. -/
structure Advances (before after : Recording) : Prop where
  /-- It is the same batch on the same queue. -/
  user : after.batch.user = before.batch.user
  /-- No resource is to be left in another usage. -/
  finals : KeepsFinals before.batch after.batch
  /-- Nothing is published, or all of an open batch is. -/
  publishing : after.batch.committed = before.batch.committed ∧ after.tracker = before.tracker ∨
    before.batch.committed = false ∧ Commits before after

/-- A recording that is left alone publishes nothing. -/
theorem Idle.refl (recording : Recording) : Idle recording recording :=
  ⟨.refl _, .refl _, rfl⟩

/-- To publish nothing is one way to go on. -/
theorem Idle.advances (h : Idle before after) : Advances before after :=
  ⟨h.user, h.finals, .inl ⟨h.committed, h.tracker⟩⟩

/-- The tasks are left alone. -/
structure Leaves (before after : Recording) : Prop where
  /-- None was created, begun or marked. -/
  batch : Stays before.batch after.batch
  /-- None was finished. -/
  finished : after.submission.finished = before.submission.finished
  /-- The tracker stays as it is. -/
  tracker : after.tracker = before.tracker

/-- A recording that is left alone leaves its tasks alone. -/
theorem Leaves.refl (recording : Recording) : Leaves recording recording :=
  ⟨.refl _, rfl, rfl⟩

/-- What leaves the tasks alone twice in turn leaves them alone. -/
theorem Leaves.trans (h : Leaves before middle) (h' : Leaves middle after) : Leaves before after :=
  ⟨h.batch.trans h'.batch, h'.finished.trans h.finished, h'.tracker.trans h.tracker⟩

/-- An operation that leaves the tasks alone publishes nothing. -/
theorem Leaves.idle (h : Leaves before after) : Idle before after :=
  ⟨h.batch.toKeeps, h.batch.finals, h.tracker⟩

/-- An operation on the batch leaves the tasks alone if it does so in the batch. -/
theorem leaves_onBatch {operation : Batch → Tracker → Batch.Outcome α}
    (stays : Stays before.batch (operation before.batch before.tracker).batch) :
    Leaves before (onBatch operation before).2 :=
  ⟨stays, rfl, rfl⟩

/-- A commit is one way to go on: it publishes an open batch, and is refused otherwise. -/
theorem advances_commit (recording : Recording) : Advances recording (commit recording).2 := by
  cases state : recording.batch.committed with
  | true =>
    have same := Batch.commit_of_committed state recording.tracker
    refine ⟨?_, ?_, .inl ⟨?_, ?_⟩⟩
    · exact congrArg (fun result : Batch.Commit => result.batch.user) same
    · have batch : (commit recording).2.batch = recording.batch :=
        congrArg (fun result : Batch.Commit => result.batch) same
      rw [batch]
      exact .refl _
    · exact congrArg (fun result : Batch.Commit => result.batch.committed) same
    · exact congrArg (fun result : Batch.Commit => result.tracker) same
  | false =>
    have batch : (commit recording).2.batch = { recording.batch with committed := true } :=
      Batch.commit_batch recording.batch recording.tracker
    refine ⟨?_, ?_, .inr ⟨state, recording.batch, state, rfl, batch, rfl⟩⟩
    · rw [batch]
      rfl
    · rw [batch]
      exact .refl recording.batch

/-- A batch is committed after a commit, be it this one or one before. -/
theorem committed_commit (recording : Recording) :
    (commit recording).2.batch.committed = true := by
  show (recording.batch.commit recording.tracker).batch.committed = true
  rw [Batch.commit_batch]
  rfl

/-! ## Ends of a task

A task ends by being closed or by being let go, and both ways lead to settling it. A task that never
began is marked first if it was to be the last one, since its mark was to be set as it begins. -/

/-- Whether the task settled next completes an open batch. -/
def ripe (recording : Recording) : Bool :=
  recording.submission.finished + 1 = recording.batch.taskCount &&
    recording.batch.lastTask.isSome && !recording.batch.committed

/-- One more task is counted as finished. -/
def counted (recording : Recording) : Recording :=
  { recording with
    submission :=
      { recording.submission with finished := recording.submission.finished + 1 } }

/-- Settling counts a task and commits the batch if that completes it, which is never refused. Only
a batch that is open is committed, so the commit succeeds. -/
theorem settle_eq (recording : Recording) :
    recording.settle = if recording.ripe then (commit recording.counted).2
      else recording.counted := by
  cases due : recording.ripe with
  | false => exact if_neg (by rw [← Bool.not_eq_true] at due; exact due)
  | true =>
    have open' : recording.batch.committed = false := by
      simp only [ripe, Bool.and_eq_true, Bool.not_eq_true'] at due
      exact due.2
    refine (if_pos due).trans ?_
    have answer : ∃ n, (commit recording.counted).1 = .ok n := by
      show ∃ n, (recording.batch.commit recording.tracker).answer = .ok n
      unfold Batch.commit
      rw [if_neg (by simp [open'])]
      exact ⟨_, rfl⟩
    obtain ⟨n, ok⟩ := answer
    have pair : commit recording.counted = (.ok n, (commit recording.counted).2) :=
      Prod.ext ok rfl
    unfold counted at pair
    rw [pair]
    rfl

/-- Settling a task counts it. The one that completes the batch also commits it. -/
theorem settle_submission (recording : Recording) :
    recording.settle.submission =
      { recording.submission with
        finished := recording.submission.finished + 1
        batch :=
          if recording.ripe then { recording.batch with committed := true }
          else recording.batch } ∧
    recording.settle.tracker =
      if recording.ripe then (recording.batch.perform recording.tracker .commit).tracker
      else recording.tracker := by
  rw [settle_eq]
  cases due : recording.ripe with
  | false => exact ⟨rfl, rfl⟩
  | true =>
    have open' : recording.batch.committed = false := by
      simp only [ripe, Bool.and_eq_true, Bool.not_eq_true'] at due
      exact due.2
    refine ⟨?_, rfl⟩
    show { recording.counted.submission with
      batch := (recording.batch.commit recording.tracker).batch } = _
    rw [Batch.commit_batch]
    rfl

/-- Settling a task publishes nothing, or all of an open batch. -/
theorem Idle.settle (h : Idle before middle) : Advances before middle.settle := by
  obtain ⟨submission, tracker⟩ := settle_submission middle
  have batch : middle.settle.batch =
      if middle.ripe then { middle.batch with committed := true } else middle.batch :=
    congrArg Submission.batch submission
  -- A batch that is not ripe is only counted. A ripe one is open, and is published as it is.
  cases due : middle.ripe with
  | false =>
    simp only [due, Bool.false_eq_true, if_false] at batch tracker
    refine ⟨?_, ?_, .inl ⟨?_, ?_⟩⟩
    · rw [batch, h.user]
    · rw [batch]
      exact h.finals
    · rw [batch, h.committed]
    · rw [tracker, h.tracker]
  | true =>
    have open' : middle.batch.committed = false := by
      simp only [ripe, Bool.and_eq_true, Bool.not_eq_true'] at due
      exact due.2
    simp only [due, if_true] at batch tracker
    refine ⟨?_, ?_, .inr ⟨?_, middle.batch, open', h.user, batch, ?_⟩⟩
    · rw [batch]
      exact h.user
    · rw [batch]
      exact h.finals
    · rw [← h.committed, open']
    · rw [tracker, h.tracker]

/-- A task that was begun and is let go is counted as finished, and nothing is logged. -/
theorem abandon_of_begun {recording : Recording} {task : Task}
    (begun : recording.batch.isBegun task.index = true) :
    recording.abandon task = recording.settle :=
  if_pos begun

/-- A task that never began is marked before it is settled, if it was to be the last one. -/
theorem abandon_of_unbegun {recording : Recording} {task : Task}
    (unbegun : recording.batch.isBegun task.index = false) :
    ∃ marked : Recording, recording.abandon task = marked.settle ∧
      marked.submission =
        { recording.submission with
          batch :=
            { recording.batch with
              lastTask := recording.batch.lastAfter task.index task.last } } ∧
      marked.tracker = recording.tracker := by
  refine ⟨_, if_neg (by simp [unbegun]), ?_, ?_⟩
  · cases flag : task.last with
    | false => rfl
    | true =>
      show { recording.submission with batch := (recording.batch.markLast task.index).batch } = _
      rw [Batch.markLast_batch]
  · cases task.last <;> rfl

/-! ## Creating and beginning a task

If beginning or declaring is refused, the task is let go then and there, and is counted as one that
is finished. -/

/-- A task that is created is the next one and not begun. If none is, nothing happens. -/
theorem createTask_cases (label : String) (recording : Recording) :
    ((createTask label recording).1 = .ok { index := recording.batch.taskCount, label } ∧
      recording.batch.taskCount < Batch.maxTasks ∧
      Idle recording (createTask label recording).2 ∧
      (createTask label recording).2.submission.finished = recording.submission.finished ∧
      (createTask label recording).2.batch.begunFlags = recording.batch.begunFlags ++ [false] ∧
      (createTask label recording).2.batch.lastTask = recording.batch.lastTask) ∨
    ((∃ error, (createTask label recording).1 = .error error) ∧
      Leaves recording (createTask label recording).2) := by
  unfold createTask onBatch Batch.createTask
  dsimp only
  split
  · exact .inr ⟨⟨_, rfl⟩, .refl _, rfl, rfl⟩
  split
  · exact .inr ⟨⟨_, rfl⟩, .refl _, rfl, rfl⟩
  · rename_i room
    refine .inl ⟨rfl, Nat.not_le.1 room, ⟨⟨rfl, rfl⟩, .refl _, rfl⟩, rfl, ?_, rfl⟩
    exact List.map_append

/-- No task is created once the batch is committed. -/
theorem createTask_of_committed (label : String) {recording : Recording}
    (done : recording.batch.committed = true) :
    (createTask label recording).1 = .error (.alreadyCommitted recording.batch.id) := by
  unfold createTask onBatch Batch.createTask
  dsimp only
  rw [if_pos done]
  rfl

/-- An action that succeeds keeps its task. -/
theorem keepIfDone_of_ok {task : Task} {action : Recorder α} {recording : Recording} {answer : α}
    (ok : (action recording).1 = .ok answer) :
    keepIfDone task action recording = action recording := by
  have pair : action recording = (.ok answer, (action recording).2) := Prod.ext ok rfl
  unfold keepIfDone
  rw [pair]

/-- An action that is refused loses its task, which is let go. -/
theorem keepIfDone_of_error {task : Task} {action : Recorder α} {recording : Recording}
    {error : BatchError} (refused : (action recording).1 = .error error) :
    keepIfDone task action recording = (.error error, (action recording).2.abandon task) := by
  have pair : action recording = (.error error, (action recording).2) := Prod.ext refused rfl
  unfold keepIfDone
  rw [pair]

/-- A task that was created and did not begin is begun, and marked if it is to be the last one. -/
theorem start_of_unbegun {recording : Recording} {task : Task}
    (inRange : task.index < Batch.maxTasks)
    (created : task.index < recording.batch.taskCount)
    (unbegun : recording.batch.isBegun task.index = false) :
    (start task recording).1 = .ok () ∧
      Idle recording (start task recording).2 ∧
      (start task recording).2.submission.finished = recording.submission.finished ∧
      (start task recording).2.batch.begunFlags =
        recording.batch.begunFlags.set task.index true ∧
      (start task recording).2.batch.lastTask =
        recording.batch.lastAfter task.index task.last := by
  obtain ⟨answer, begun, last, passages, keeps⟩ :=
    Batch.beginTask_of_unbegun inRange created unbegun task.last
  have done : start task recording =
      onBatch (fun batch _ => batch.beginTask task.index task.last)
        (recording.carryOut [.label task.label]) :=
    keepIfDone_of_ok answer
  rw [done]
  refine ⟨answer, ⟨keeps, ?_, rfl⟩, rfl, begun, last⟩
  intro key passage known
  refine ⟨passage, ?_, rfl⟩
  show (recording.batch.beginTask task.index task.last).batch.passages.find? key = _
  rw [passages]
  exact known

/-! ## The end of a body

What a body answered makes no difference to how its task ends, and is at most logged. -/

/-- Closing a task finishes it on the batch and lets it go, whatever its body answered. -/
theorem close_eq_abandon (task : Task) (answer : Except BatchError α) (recording : Recording) :
    ∃ finished : Recording, (close task answer recording).2 = finished.abandon task ∧
      Leaves recording finished := by
  have finishes (noted : Recording) :
      Leaves noted (onBatch (fun batch _ => batch.finish task.index) noted).2 := by
    apply leaves_onBatch
    exact Batch.stays_perform noted.batch noted.tracker
      (show Batch.Call.InTask (.finish task.index) from trivial)
  have logged (notes : List Log.Entry) : Leaves recording (recording.log notes) :=
    ⟨.refl _, rfl, rfl⟩
  unfold close
  cases answer with
  | ok value =>
    refine ⟨_, ?_, finishes recording⟩
    dsimp only
    split <;> simp [*]
  | error error =>
    refine ⟨_, ?_, (logged ?_).trans (finishes _)⟩
    dsimp only
    split
    · rename_i finished
      exact congrArg (·.2.abandon task) finished.symm
    · rename_i finished
      exact congrArg (·.2.abandon task) finished.symm

end Recording

end GpuSync
