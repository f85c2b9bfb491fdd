import GpuSync.Proofs.Submission.Turns
import Mathlib.Data.List.Nodup

/-!
# The tasks of a submission at work

A bench is a submission with all tasks ever created for it: those that wait to be recorded, those
that are being recorded, and those that are finished. A `Deed` is anything that may be done to it
through its tasks. Tasks may wait in any number and be recorded inside one another, so deeds come
in any order; a deed on a task that is not where the deed needs it is a deed that nobody can do,
and changes nothing.

* `Bench.step` does one deed and `Bench.run` does several in order.
* `Bench.Due`: all tasks created so far are finished and one of them is a last one.
* `Bench.Tallied` ties the counters and flags of the submission to the three stages, and
  `Bench.Proceeds` says what one deed does (`Bench.Sound.proceeds`).
-/

namespace GpuSync

open Submission (Task)

/-- Something done within a task while it is recorded. -/
inductive Work where
  /-- Moves a resource to a usage. -/
  | report (key : Key) (usage : Usage)
  /-- Moves several resources in order, up to the first one refused. -/
  | reportMany (uses : List (Key × Usage))
  /-- Gives the contents of a resource up. -/
  | discard (key : Key)
  /-- Sets the usage of a resource without a barrier. -/
  | override (key : Key) (usage : Usage)
  /-- Asks whether a resource is in some usage. -/
  | isIn (key : Key) (usage : Usage)
  /-- Makes the writes of the task visible to the host. -/
  | readback
  /-- Makes the host's writes visible to the task. -/
  | upload (dst : Usage)
  /-- Records the barriers emitted so far as one group. -/
  | flush

/-- Does the work, whatever the answer. -/
def Work.record (task : Nat) (work : Work) (recording : Recording) : Recording :=
  match work with
  | .report key usage => (Recording.report task key usage recording).2
  | .reportMany uses => (Recording.reportMany task uses recording).2
  | .discard key => (Recording.discard task key recording).2
  | .override key usage => (Recording.override task key usage recording).2
  | .isIn key usage => (Recording.isIn task key usage recording).2
  | .readback => (Recording.readback task recording).2
  | .upload dst => (Recording.upload task dst recording).2
  | .flush => (Recording.flush recording).2

/-- A submission with all tasks ever created for it. A task that was created is on the bench in one
of three lists, by its stage. -/
structure Bench where
  /-- The submission, and all that recording it changes. -/
  recording : Recording
  /-- The tasks that wait to be recorded. -/
  waiting : List Task := []
  /-- The tasks that are being recorded. -/
  running : List Task := []
  /-- The tasks that are finished: recorded, given up, or lost by a refusal. -/
  finished : List Task := []

namespace Bench

/-- Something done to a submission through its tasks. A task goes by its index. -/
inductive Deed where
  /-- Creates the next task. -/
  | createTask (label : String)
  /-- Declares a resource for a waiting task, which is lost if that is refused. -/
  | declare (task : Nat) (key : Key) (initial final : Usage)
  /-- Declares a resource for a waiting task as the tasks before leave it. -/
  | declareDefault (task : Nat) (key : Key)
  /-- Asks for a waiting task to be the last one. -/
  | last (task : Nat)
  /-- Begins to run a waiting task, which is lost if that is refused. -/
  | start (task : Nat)
  /-- Works within a running task. -/
  | work (task : Nat) (work : Work)
  /-- The body of a running task comes to its end, with this answer. -/
  | close (task : Nat) (answer : Except BatchError Unit)
  /-- Lets a waiting task go without running it. -/
  | drop (task : Nat)
  /-- Commits the batch. -/
  | commit
  /-- The tracker is used by somebody else. -/
  | elsewhere (call : Tracker.Call)

/-- A task of some tasks. -/
def pick? (tasks : List Task) (index : Nat) : Option Task := tasks.find? (·.index = index)

/-- A waiting task is finished. -/
def forgo (bench : Bench) (task : Task) (recording : Recording) : Bench :=
  { bench with
    recording
    waiting := bench.waiting.erase task
    finished := bench.finished ++ [task] }

/-- A waiting task is begun. -/
def launch (bench : Bench) (task : Task) (recording : Recording) : Bench :=
  { bench with
    recording
    waiting := bench.waiting.erase task
    running := bench.running ++ [task] }

/-- A running task is finished. -/
def land (bench : Bench) (task : Task) (recording : Recording) : Bench :=
  { bench with
    recording
    running := bench.running.erase task
    finished := bench.finished ++ [task] }

/-- Declares something for a waiting task, which is finished if that is refused. -/
def declaring (bench : Bench) (task : Task) (declaration : Recorder Batch.TaskUse) : Bench :=
  match declaration bench.recording with
  | (.ok _, recording) => { bench with recording }
  | (.error _, recording) => bench.forgo task recording

/-- Does one deed. -/
def step (bench : Bench) : Deed → Bench
  | .createTask label =>
    match Recording.createTask label bench.recording with
    | (.ok task, recording) => { bench with recording, waiting := bench.waiting ++ [task] }
    | (.error _, recording) => { bench with recording }
  | .declare index key initial final =>
    match pick? bench.waiting index with
    | none => bench
    | some task => bench.declaring task (Recording.declare task key initial final)
  | .declareDefault index key =>
    match pick? bench.waiting index with
    | none => bench
    | some task => bench.declaring task (Recording.declareDefault task key)
  | .last index =>
    { bench with
      waiting := bench.waiting.map fun task =>
        if task.index = index then { task with last := true } else task }
  | .start index =>
    match pick? bench.waiting index with
    | none => bench
    | some task =>
      match Recording.start task bench.recording with
      | (.ok (), recording) => bench.launch task recording
      | (.error _, recording) => bench.forgo task recording
  | .work index work =>
    match pick? bench.running index with
    | none => bench
    | some task => { bench with recording := work.record task.index bench.recording }
  | .close index answer =>
    match pick? bench.running index with
    | none => bench
    | some task => bench.land task (Recording.close task answer bench.recording).2
  | .drop index =>
    match pick? bench.waiting index with
    | none => bench
    | some task => bench.forgo task (bench.recording.abandon task)
  | .commit => { bench with recording := (Recording.commit bench.recording).2 }
  | .elsewhere call =>
    { bench with
      recording :=
        { bench.recording with tracker := (bench.recording.tracker.perform call).2 } }

/-- Does deeds in order. -/
def run (bench : Bench) (deeds : List Deed) : Bench := deeds.foldl step bench

/-- The batch. -/
def batch (bench : Bench) : Batch := bench.recording.batch

/-- All tasks created so far are finished, and one of them is a last one. It is a property of the
tasks, and does not refer to the counter that the submission goes by. -/
def Due (bench : Bench) : Prop :=
  bench.waiting = [] ∧ bench.running = [] ∧ ∃ task ∈ bench.finished, task.last = true

/-- Nothing is done on a bench without a deed. -/
@[simp] theorem run_nil (bench : Bench) : bench.run [] = bench := rfl

/-- A run goes on with the last deed. -/
@[simp] theorem run_append (bench : Bench) (deeds : List Deed) (deed : Deed) :
    bench.run (deeds ++ [deed]) = (bench.run deeds).step deed := by
  simp [run]

/-- A task that is picked is one of those to pick from. -/
theorem mem_of_pick? {tasks : List Task} {index : Nat} {task : Task}
    (found : pick? tasks index = some task) : task ∈ tasks :=
  List.mem_of_find?_eq_some found

/-- A bench with a task that is not finished is not due. -/
theorem not_due_of_waiting {bench : Bench} {task : Task} (mem : task ∈ bench.waiting) :
    ¬bench.Due := by
  rintro ⟨none, -⟩
  rw [none] at mem
  cases mem

/-- Nothing is due while a task is being recorded. -/
theorem not_due_of_running {bench : Bench} {task : Task} (mem : task ∈ bench.running) :
    ¬bench.Due := by
  rintro ⟨-, none, -⟩
  rw [none] at mem
  cases mem

/-! ## Counters and stages

The submission counts how many of its tasks are finished and does not know which. The tasks on the
bench know their stage, and the invariant says that the two agree but for a task that is about to be
settled, which is owed. -/

/-- The counters and flags of the submission are those of the tasks on the bench. So many of the
finished tasks are `owed`: they are not counted yet. During a deed one task may be off the count,
between its end and its being settled. -/
structure Tallied (bench : Bench) (owed : Nat) : Prop where
  /-- Finished tasks are counted. -/
  counted : bench.recording.submission.finished + owed = bench.finished.length
  /-- Every task created is in one of the stages. -/
  created : bench.batch.taskCount =
    bench.waiting.length + bench.running.length + bench.finished.length
  /-- There are not too many. -/
  few : bench.batch.taskCount ≤ Batch.maxTasks
  /-- A waiting task was created and not begun. -/
  unbegun : ∀ task ∈ bench.waiting,
    task.index < bench.batch.taskCount ∧ bench.batch.isBegun task.index = false
  /-- A running task was begun. -/
  begun : ∀ task ∈ bench.running, bench.batch.isBegun task.index = true
  /-- No two waiting tasks have the same index. -/
  distinct : (bench.waiting.map (·.index)).Nodup
  /-- A task is marked as soon as a last one was begun or let go. -/
  marked : bench.batch.lastTask.isSome = true ↔
    ∃ task ∈ bench.running ++ bench.finished, task.last = true

section

variable {bench : Bench} {owed : Nat}

/-- Only so much of the submission counts. -/
theorem Tallied.of_same (h : bench.Tallied owed) {recording : Recording} {left : Nat}
    (counted : recording.submission.finished + left = bench.finished.length)
    (begun : recording.batch.begunFlags = bench.batch.begunFlags)
    (last : recording.batch.lastTask = bench.batch.lastTask) :
    { bench with recording }.Tallied left := by
  have count := Batch.taskCount_of_begunFlags begun
  have flags := Batch.isBegun_of_begunFlags begun
  refine {
    counted
    created := count.trans h.created
    few := count ▸ h.few
    unbegun := ?unbegun
    begun := ?begun
    distinct := h.distinct
    marked := ?marked }
  case unbegun =>
    intro task mem
    obtain ⟨created, idle⟩ := h.unbegun task mem
    exact ⟨count ▸ created, (flags _).trans idle⟩
  case begun =>
    intro task mem
    exact (flags _).trans (h.begun task mem)
  case marked => exact last ▸ h.marked

/-- The counters stay right while the tasks are left alone. -/
theorem Tallied.leave (h : bench.Tallied owed) {recording : Recording}
    (leaves : Recording.Leaves bench.recording recording) :
    { bench with recording }.Tallied owed :=
  h.of_same (leaves.finished ▸ h.counted) leaves.batch.begun leaves.batch.last

/-- Other waiting tasks have other indices. -/
theorem Tallied.index_ne (h : bench.Tallied owed) {task other : Task} (mem : task ∈ bench.waiting)
    (mem' : other ∈ bench.waiting.erase task) : other.index ≠ task.index := by
  have perm := (List.perm_cons_erase mem).map (·.index)
  have nodup := perm.nodup_iff.1 h.distinct
  rw [List.map_cons, List.nodup_cons] at nodup
  intro same
  exact nodup.1 (same ▸ List.mem_map_of_mem mem')

/-- Marking a task that is to be the last one, among all that are not waiting. -/
theorem Tallied.marked_after (h : bench.Tallied owed) {task : Task} (mem : task ∈ bench.waiting) :
    (bench.batch.lastAfter task.index task.last).isSome = true ↔
      ∃ other ∈ bench.running ++ bench.finished ++ [task], other.last = true := by
  have inRange : task.index < Batch.maxTasks := Nat.lt_of_lt_of_le (h.unbegun task mem).1 h.few
  have split : (∃ other ∈ bench.running ++ bench.finished ++ [task], other.last = true) ↔
      bench.batch.lastTask.isSome = true ∨ task.last = true := by
    rw [h.marked]
    simp only [List.mem_append, List.mem_singleton]
    grind
  rw [split, Batch.lastAfter_of_lt bench.batch inRange]
  cases bench.batch.lastTask <;> cases task.last <;> simp

/-- The tasks that still wait after one of them went have indices of their own. -/
theorem Tallied.distinct_erase (h : bench.Tallied owed) (task : Task) :
    ((bench.waiting.erase task).map (·.index)).Nodup :=
  h.distinct.sublist (List.erase_sublist.map _)

/-- Settling pays a task that is owed. It commits the batch if that is due. -/
theorem Tallied.settle (h : bench.Tallied 1) :
    { bench with recording := bench.recording.settle }.Tallied 0 ∧
      (bench.recording.settle.batch.committed = true ↔
        bench.batch.committed = true ∨ bench.Due) := by
  obtain ⟨submission, -⟩ := Recording.settle_submission bench.recording
  have batch : bench.recording.settle.batch =
      if bench.recording.ripe then { bench.batch with committed := true } else bench.batch :=
    congrArg Submission.batch submission
  have finished : bench.recording.settle.submission.finished =
      bench.recording.submission.finished + 1 :=
    congrArg Submission.finished submission
  constructor
  · apply h.of_same
    · rw [finished]
      exact h.counted
    · rw [batch]
      split <;> rfl
    · rw [batch]
      split <;> rfl
  · have ripe : bench.recording.ripe = true ↔ bench.batch.committed = false ∧ bench.Due := by
      -- With one task more finished, the counter agrees with the number of tasks exactly if none
      -- waits and none runs.
      have all : bench.recording.submission.finished + 1 = bench.batch.taskCount ↔
          bench.waiting = [] ∧ bench.running = [] := by
        rw [h.counted, h.created, ← List.length_eq_zero_iff, ← List.length_eq_zero_iff]
        omega
      simp only [Recording.ripe, Bool.and_eq_true, decide_eq_true_eq, Bool.not_eq_true']
      show (bench.recording.submission.finished + 1 = bench.batch.taskCount ∧
        bench.batch.lastTask.isSome = true) ∧ bench.batch.committed = false ↔ _
      rw [all, h.marked]
      constructor
      · rintro ⟨⟨⟨none, none'⟩, marked⟩, open'⟩
        rw [none', List.nil_append] at marked
        exact ⟨open', none, none', marked⟩
      · rintro ⟨open', none, none', marked⟩
        refine ⟨⟨⟨none, none'⟩, ?_⟩, open'⟩
        rw [none', List.nil_append]
        exact marked
    rw [batch]
    by_cases due : bench.recording.ripe = true
    · simp [due, (ripe.1 due).2]
    · rw [if_neg due]
      constructor
      · exact .inl
      · rintro (done | done)
        · exact done
        · by_contra open'
          exact due (ripe.2 ⟨eq_false_of_ne_true open', done⟩)

/-- A task that is let go without having begun, and is yet to be settled. If it was to be the last
one the batch is marked, as it would have been when the task began. -/
theorem Tallied.forgo (h : bench.Tallied 0) {task : Task} (mem : task ∈ bench.waiting)
    {marked : Recording}
    (same : marked.submission.finished = bench.recording.submission.finished)
    (begun : marked.batch.begunFlags = bench.batch.begunFlags)
    (last : marked.batch.lastTask = bench.batch.lastAfter task.index task.last) :
    (bench.forgo task marked).Tallied 1 := by
  have count := Batch.taskCount_of_begunFlags begun
  have flags := Batch.isBegun_of_begunFlags begun
  have shorter := List.length_erase_of_mem mem
  have some := List.length_pos_of_mem mem
  refine {
    counted := ?counted
    created := ?created
    few := ?few
    unbegun := ?unbegun
    begun := ?begun
    distinct := h.distinct_erase task
    marked := ?marked }
  case counted =>
    show marked.submission.finished + 1 = (bench.finished ++ [task]).length
    rw [same, List.length_append, ← h.counted]
    rfl
  case created =>
    show marked.batch.taskCount = (bench.waiting.erase task).length + bench.running.length +
      (bench.finished ++ [task]).length
    rw [count, h.created, shorter, List.length_append, List.length_singleton]
    omega
  case few => exact count ▸ h.few
  case unbegun =>
    intro other mem'
    obtain ⟨created, idle⟩ := h.unbegun other (List.mem_of_mem_erase mem')
    exact ⟨count ▸ created, (flags _).trans idle⟩
  case begun =>
    intro other mem'
    exact (flags _).trans (h.begun other mem')
  case marked =>
    show marked.batch.lastTask.isSome = true ↔
      ∃ other ∈ bench.running ++ (bench.finished ++ [task]), other.last = true
    rw [last, ← List.append_assoc]
    exact h.marked_after mem

/-- A task that was begun and comes to its end, and is yet to be settled. It is moved to the
finished ones, and the count follows when it is settled. -/
theorem Tallied.land (h : bench.Tallied 0) {task : Task} (mem : task ∈ bench.running)
    {recording : Recording} (leaves : Recording.Leaves bench.recording recording) :
    (bench.land task recording).Tallied 1 := by
  have left := h.leave leaves
  have shorter := List.length_erase_of_mem mem
  have some := List.length_pos_of_mem mem
  refine {
    counted := ?counted
    created := ?created
    few := left.few
    unbegun := left.unbegun
    begun := ?begun
    distinct := left.distinct
    marked := ?marked }
  case counted =>
    show recording.submission.finished + 1 = (bench.finished ++ [task]).length
    rw [List.length_append, ← left.counted]
    rfl
  case created =>
    show recording.batch.taskCount = bench.waiting.length + (bench.running.erase task).length +
      (bench.finished ++ [task]).length
    have created : recording.batch.taskCount = _ := left.created
    rw [created, shorter, List.length_append, List.length_singleton]
    dsimp only
    omega
  case begun =>
    intro other mem'
    exact left.begun other (List.mem_of_mem_erase mem')
  case marked =>
    refine left.marked.trans ?_
    have perm : (bench.running ++ bench.finished).Perm
        (bench.running.erase task ++ (bench.finished ++ [task])) := by
      rw [← List.append_assoc]
      refine ((List.perm_cons_erase mem).append_right _).trans ?_
      rw [List.cons_append]
      exact (List.perm_append_singleton task _).symm
    simp only [perm.mem_iff]
    rfl

/-- A waiting task that is begun. -/
theorem Tallied.launch (h : bench.Tallied 0) {task : Task} (mem : task ∈ bench.waiting)
    {recording : Recording}
    (same : recording.submission.finished = bench.recording.submission.finished)
    (begun : recording.batch.begunFlags = bench.batch.begunFlags.set task.index true)
    (last : recording.batch.lastTask = bench.batch.lastAfter task.index task.last) :
    (bench.launch task recording).Tallied 0 := by
  have count : recording.batch.taskCount = bench.batch.taskCount := by
    rw [← Batch.length_begunFlags, ← Batch.length_begunFlags, begun, List.length_set]
  have created := (h.unbegun task mem).1
  -- One flag is set, that of the task, and it moves from the waiting tasks to the running ones.
  have others {index : Nat} (other : index ≠ task.index) :
      recording.batch.isBegun index = bench.batch.isBegun index := by
    rw [Batch.isBegun_eq_getElem?, Batch.isBegun_eq_getElem?, begun,
      List.getElem?_set_ne other.symm]
  have itself : recording.batch.isBegun task.index = true := by
    rw [Batch.isBegun_eq_getElem?, begun, List.getElem?_set_self]
    · rfl
    · rw [Batch.length_begunFlags]
      exact created
  have shorter := List.length_erase_of_mem mem
  have some := List.length_pos_of_mem mem
  refine {
    counted := ?counted
    created := ?created
    few := count ▸ h.few
    unbegun := ?unbegun
    begun := ?begun
    distinct := h.distinct_erase task
    marked := ?marked }
  case counted => exact same ▸ h.counted
  case created =>
    show recording.batch.taskCount = (bench.waiting.erase task).length +
      (bench.running ++ [task]).length + bench.finished.length
    rw [count, h.created, shorter, List.length_append, List.length_singleton]
    omega
  case unbegun =>
    intro other mem'
    obtain ⟨created, idle⟩ := h.unbegun other (List.mem_of_mem_erase mem')
    exact ⟨count ▸ created, (others (h.index_ne mem mem')).trans idle⟩
  case begun =>
    intro other mem'
    by_cases same : other.index = task.index
    · exact same ▸ itself
    · refine (others same).trans ?_
      rcases List.mem_append.1 mem' with mem' | mem'
      · exact h.begun other mem'
      · cases List.mem_singleton.1 mem'
        exact absurd rfl same
  case marked =>
    show recording.batch.lastTask.isSome = true ↔
      ∃ other ∈ bench.running ++ [task] ++ bench.finished, other.last = true
    rw [last, h.marked_after mem]
    -- Whether one of the begun tasks is a last one does not depend on the order in which they are
    -- listed.
    have perm : (bench.running ++ bench.finished ++ [task]).Perm
        (bench.running ++ [task] ++ bench.finished) := by
      rw [List.append_assoc, List.append_assoc]
      exact List.perm_append_comm.append_left _
    simp only [perm.mem_iff]

/-- A task that is created waits. -/
theorem Tallied.create (h : bench.Tallied 0) (label : String) {recording : Recording}
    (room : bench.batch.taskCount < Batch.maxTasks)
    (same : recording.submission.finished = bench.recording.submission.finished)
    (begun : recording.batch.begunFlags = bench.batch.begunFlags ++ [false])
    (last : recording.batch.lastTask = bench.batch.lastTask) :
    ({ bench with
      recording
      waiting := bench.waiting ++ [{ index := bench.batch.taskCount, label }] } : Bench).Tallied
      0 := by
  have count : recording.batch.taskCount = bench.batch.taskCount + 1 := by
    rw [← Batch.length_begunFlags, ← Batch.length_begunFlags, begun, List.length_append]
    rfl
  -- The new task has an index of its own, so the flags of the others are where they were.
  have before {index : Nat} (created : index < bench.batch.taskCount) :
      recording.batch.isBegun index = bench.batch.isBegun index := by
    rw [Batch.isBegun_eq_getElem?, Batch.isBegun_eq_getElem?, begun, List.getElem?_append_left]
    rw [Batch.length_begunFlags]
    exact created
  have itself : recording.batch.isBegun bench.batch.taskCount = false := by
    rw [Batch.isBegun_eq_getElem?, begun, ← Batch.length_begunFlags]
    simp
  refine {
    counted := same ▸ h.counted
    created := ?created
    few := ?few
    unbegun := ?unbegun
    begun := ?begun
    distinct := ?distinct
    marked := last ▸ h.marked }
  case created =>
    refine count.trans ?_
    show bench.batch.taskCount + 1 = (bench.waiting ++ [_]).length + bench.running.length +
      bench.finished.length
    rw [h.created, List.length_append, List.length_singleton]
    omega
  case few => exact count ▸ room
  case unbegun =>
    intro other mem
    show other.index < recording.batch.taskCount ∧ recording.batch.isBegun other.index = false
    rw [count]
    rcases List.mem_append.1 mem with mem | mem
    · obtain ⟨created, idle⟩ := h.unbegun other mem
      exact ⟨Nat.lt_succ_of_lt created, (before created).trans idle⟩
    · cases List.mem_singleton.1 mem
      exact ⟨Nat.lt_succ_self _, itself⟩
  case begun =>
    intro other mem
    have begun' := h.begun other mem
    obtain ⟨scope, found, -⟩ := Batch.isBegun_eq_true.1 begun'
    exact (before (List.getElem?_eq_some_iff.1 found).1).trans begun'
  case distinct =>
    rw [List.map_append, List.nodup_append]
    refine ⟨h.distinct, List.nodup_singleton _, ?_⟩
    intro index mem new mem' same'
    obtain ⟨other, waits, rfl⟩ := List.mem_map.1 mem
    have created := (h.unbegun other waits).1
    rw [same', List.mem_singleton.1 mem'] at created
    exact Nat.lt_irrefl _ created

/-- A task that is asked to be the last one keeps waiting. -/
theorem Tallied.last (h : bench.Tallied 0) (index : Nat) :
    (bench.step (.last index)).Tallied 0 := by
  have indices :
      (bench.step (.last index)).waiting.map (·.index) = bench.waiting.map (·.index) := by
    show (bench.waiting.map _).map _ = _
    rw [List.map_map]
    refine List.map_congr_left fun task _ => ?_
    show (if task.index = index then { task with last := true } else task).index = task.index
    split <;> rfl
  refine ⟨h.counted, ?_, h.few, ?_, h.begun, indices ▸ h.distinct, h.marked⟩
  · show bench.batch.taskCount = (bench.waiting.map _).length + bench.running.length +
      bench.finished.length
    rw [List.length_map]
    exact h.created
  · intro task mem
    have mem' : task.index ∈ bench.waiting.map (·.index) := indices ▸ List.mem_map_of_mem mem
    obtain ⟨other, waits, same⟩ := List.mem_map.1 mem'
    exact same ▸ h.unbegun other waits

end

/-! ## What a deed does

Every deed is followed through what it does to the counters and whether it commits. A deed that ends
a task settles it, and a batch that is due afterwards is committed by that deed. -/

/-- A bench with its counters right, and committed if that is due. -/
structure Sound (bench : Bench) : Prop where
  /-- The counters are right. -/
  tallied : bench.Tallied 0
  /-- What is due was done. -/
  settled : bench.Due → bench.batch.committed = true

/-- A deed keeps the counters right, publishes all or nothing, and commits what is due. The three
parts are kept together, since that nothing is published twice depends on the counters being
right. -/
structure Proceeds (bench after : Bench) : Prop where
  /-- The counters are right. -/
  tallied : after.Tallied 0
  /-- It publishes all or nothing. -/
  advances : Recording.Advances bench.recording after.recording
  /-- It commits the batch if that is due, and only then. -/
  committed : after.batch.committed = true ↔ bench.batch.committed = true ∨ after.Due

section

variable {bench after : Bench}

/-- A deed that publishes nothing and leaves the counters right proceeds, unless it makes something
due. -/
theorem Sound.idle (h : bench.Sound) (tallied : after.Tallied 0)
    (idle : Recording.Idle bench.recording after.recording) (due : after.Due → bench.Due) :
    Proceeds bench after := by
  refine ⟨tallied, idle.advances, ?_⟩
  show after.recording.batch.committed = true ↔ _
  rw [idle.committed]
  constructor
  · exact .inl
  · rintro (done | done)
    · exact done
    · exact h.settled (due done)

/-- Deeds that only work on the batch. -/
theorem Sound.leave (h : bench.Sound) {recording : Recording}
    (leaves : Recording.Leaves bench.recording recording) :
    Proceeds bench { bench with recording } :=
  h.idle (h.tallied.leave leaves) leaves.idle id

/-- Deeds that end with settling a task. -/
theorem Tallied.proceeds (h : after.Tallied 1)
    (idle : Recording.Idle bench.recording after.recording) :
    Proceeds bench { after with recording := after.recording.settle } := by
  obtain ⟨tallied, committed⟩ := h.settle
  refine ⟨tallied, idle.settle, committed.trans ?_⟩
  show after.recording.batch.committed = true ∨ _ ↔ _
  rw [idle.committed]
  rfl

/-- A waiting task is let go, after something that left the tasks alone. -/
theorem Sound.forgo (h : bench.Sound) {task : Task} (mem : task ∈ bench.waiting)
    {middle : Recording} (leaves : Recording.Leaves bench.recording middle) :
    Proceeds bench (bench.forgo task (middle.abandon task)) := by
  have unbegun : middle.batch.isBegun task.index = false :=
    (Batch.isBegun_of_begunFlags leaves.batch.begun _).trans (h.tallied.unbegun task mem).2
  obtain ⟨marked, abandoned, submission, tracker⟩ := Recording.abandon_of_unbegun unbegun
  have batch : marked.batch =
      { middle.batch with lastTask := middle.batch.lastAfter task.index task.last } :=
    congrArg Submission.batch submission
  -- The task was not begun, so it is marked if it is the last one, and is owed until it is settled.
  have owed : (bench.forgo task marked).Tallied 1 := by
    apply h.tallied.forgo mem
    · rw [submission]
      exact leaves.finished
    · rw [batch]
      exact leaves.batch.begun
    · rw [batch]
      show middle.batch.lastAfter task.index task.last = _
      unfold Batch.lastAfter
      rw [leaves.batch.last]
      rfl
  have idle : Recording.Idle bench.recording marked := by
    refine ⟨⟨?_, ?_⟩, ?_, tracker.trans leaves.tracker⟩
    · rw [batch]
      exact leaves.batch.user
    · rw [batch]
      exact leaves.batch.committed
    · rw [batch]
      exact leaves.batch.finals
  rw [abandoned]
  exact Tallied.proceeds owed idle

/-- A declaration that leaves the tasks alone, for a waiting task. -/
theorem Sound.declaring (h : bench.Sound) {task : Task} (mem : task ∈ bench.waiting)
    {action : Recorder Batch.TaskUse}
    (leaves : Recording.Leaves bench.recording (action bench.recording).2) :
    Proceeds bench (bench.declaring task (Recording.keepIfDone task action)) := by
  unfold Bench.declaring
  cases answer : (action bench.recording).1 with
  | ok use =>
    rw [Recording.keepIfDone_of_ok answer]
    have pair : action bench.recording = (.ok use, (action bench.recording).2) :=
      Prod.ext answer rfl
    rw [pair]
    exact h.leave leaves
  | error reason =>
    rw [Recording.keepIfDone_of_error answer]
    exact h.forgo mem leaves

/-- A waiting task is begun. Beginning it cannot fail, because it was created and did not begin. -/
theorem Sound.start (h : bench.Sound) {index : Nat} {task : Task}
    (found : pick? bench.waiting index = some task) :
    Proceeds bench (bench.step (.start index)) := by
  have mem := mem_of_pick? found
  obtain ⟨created, unbegun⟩ := h.tallied.unbegun task mem
  obtain ⟨answer, idle, finished, begun, last⟩ :=
    Recording.start_of_unbegun (Nat.lt_of_lt_of_le created h.tallied.few) created unbegun
  have step : bench.step (.start index) =
      bench.launch task (Recording.start task bench.recording).2 := by
    have pair : Recording.start task bench.recording =
        (.ok (), (Recording.start task bench.recording).2) := Prod.ext answer rfl
    unfold Bench.step
    dsimp only
    rw [found]
    dsimp only
    rw [pair]
  rw [step]
  refine h.idle (h.tallied.launch mem finished begun last) idle fun due => ?_
  have runs : task ∈ (bench.launch task (Recording.start task bench.recording).2).running :=
    List.mem_append_right _ List.mem_cons_self
  exact absurd due (not_due_of_running runs)

/-- A running task comes to its end. -/
theorem Sound.close (h : bench.Sound) {task : Task} (mem : task ∈ bench.running)
    (answer : Except BatchError Unit) :
    Proceeds bench (bench.land task (Recording.close task answer bench.recording).2) := by
  obtain ⟨finished, closed, leaves⟩ := Recording.close_eq_abandon task answer bench.recording
  have begun : finished.batch.isBegun task.index = true :=
    (Batch.isBegun_of_begunFlags leaves.batch.begun _).trans (h.tallied.begun task mem)
  rw [closed, Recording.abandon_of_begun begun]
  exact Tallied.proceeds (h.tallied.land mem leaves) leaves.idle

/-- Another task waits, unless creating it was refused. -/
theorem Sound.createTask (h : bench.Sound) (label : String) :
    Proceeds bench (bench.step (.createTask label)) := by
  unfold Bench.step
  dsimp only
  rcases Recording.createTask_cases label bench.recording with
    ⟨answer, room, idle, finished, begun, last⟩ | ⟨⟨error, answer⟩, leaves⟩
  · have pair : Recording.createTask label bench.recording =
        (.ok _, (Recording.createTask label bench.recording).2) := Prod.ext answer rfl
    rw [pair]
    refine h.idle (h.tallied.create label room finished begun last) idle fun due => ?_
    exact absurd due (not_due_of_waiting (List.mem_append_right _ List.mem_cons_self))
  · have pair : Recording.createTask label bench.recording =
        (.error error, (Recording.createTask label bench.recording).2) := Prod.ext answer rfl
    rw [pair]
    exact h.leave leaves

end

/-- Several reports in a row leave the tasks alone. -/
theorem leaves_reportMany (task : Nat) (uses : List (Key × Usage)) (recording : Recording) :
    Recording.Leaves recording (Recording.reportMany task uses recording).2 := by
  induction uses generalizing recording with
  | nil => exact .refl recording
  | cons use rest ih =>
    obtain ⟨key, usage⟩ := use
    have first : Recording.Leaves recording (Recording.report task key usage recording).2 :=
      Recording.leaves_onBatch (Batch.stays_perform recording.batch recording.tracker
        (show Batch.Call.InTask (.report task key usage) from trivial))
    unfold Recording.reportMany
    split
    · rename_i answer after done
      rw [done] at first
      exact first.trans (ih after)
    · rename_i error after refused
      rw [refused] at first
      exact first

/-- Work within a task leaves the tasks alone. -/
theorem leaves_work (task : Nat) (work : Work) (recording : Recording) :
    Recording.Leaves recording (work.record task recording) := by
  have call {call : Batch.Call} (inTask : call.InTask) :
      Batch.Stays recording.batch (recording.batch.perform recording.tracker call).batch :=
    Batch.stays_perform recording.batch recording.tracker inTask
  cases work with
  | report key usage =>
    exact Recording.leaves_onBatch (call (show Batch.Call.InTask (.report ..) from trivial))
  | reportMany uses => exact leaves_reportMany task uses recording
  | discard key =>
    exact Recording.leaves_onBatch (call (show Batch.Call.InTask (.discard ..) from trivial))
  | override key usage =>
    exact Recording.leaves_onBatch (call (show Batch.Call.InTask (.override ..) from trivial))
  | isIn key usage => exact .refl recording
  | readback =>
    exact Recording.leaves_onBatch (call (show Batch.Call.InTask (.readback _) from trivial))
  | upload dst =>
    exact Recording.leaves_onBatch (call (show Batch.Call.InTask (.upload ..) from trivial))
  | flush => exact ⟨.refl _, rfl, rfl⟩

/-- The deeds done through tasks. -/
def Deed.OnTask : Deed → Prop
  | .commit | .elsewhere _ => False
  | _ => True

/-- **One deed.** Whatever is done through a task keeps the counters right, publishes all or
nothing, and commits the batch exactly if that is due. -/
theorem Sound.proceeds {bench : Bench} (h : bench.Sound) {deed : Deed} (onTask : deed.OnTask) :
    Proceeds bench (bench.step deed) := by
  -- A deed on a task that is not there does nothing.
  have nothing : Proceeds bench bench := h.idle h.tallied (.refl _) id
  cases deed with
  | createTask label => exact h.createTask label
  | declare index key initial final =>
    unfold Bench.step
    dsimp only
    split
    · exact nothing
    · rename_i task found
      refine h.declaring (mem_of_pick? found) (Recording.leaves_onBatch ?_)
      exact Batch.stays_perform bench.batch bench.recording.tracker
        (show Batch.Call.InTask (.declare task.index key initial final) from trivial)
  | declareDefault index key =>
    unfold Bench.step
    dsimp only
    split
    · exact nothing
    · rename_i task found
      refine h.declaring (mem_of_pick? found) (Recording.leaves_onBatch ?_)
      exact Batch.stays_declareDefault bench.batch bench.recording.tracker task.index key
  -- Marking a task that waits makes nothing due as long as it waits.
  | last index =>
    refine h.idle (h.tallied.last index) (.refl _) ?_
    rintro ⟨none, due⟩
    exact ⟨List.map_eq_nil_iff.1 none, due⟩
  | start index =>
    cases found : pick? bench.waiting index with
    | some task => exact h.start found
    | none =>
      unfold Bench.step
      dsimp only
      rw [found]
      exact nothing
  | work index work =>
    unfold Bench.step
    dsimp only
    split
    · exact nothing
    · exact h.leave (leaves_work _ work bench.recording)
  | close index answer =>
    unfold Bench.step
    dsimp only
    split
    · exact nothing
    · rename_i task found
      exact h.close (mem_of_pick? found) answer
  | drop index =>
    unfold Bench.step
    dsimp only
    split
    · exact nothing
    · rename_i task found
      exact h.forgo (mem_of_pick? found) (.refl _)
  | commit | elsewhere => exact onTask.elim

/-- A deed commits the batch if it is told to or that is due, and else leaves it as it is. -/
theorem Sound.committed_step {bench : Bench} (h : bench.Sound) (deed : Deed) :
    (bench.step deed).batch.committed = true ↔
      bench.batch.committed = true ∨ deed = .commit ∨ (bench.step deed).Due := by
  cases deed with
  | commit =>
    have done : (bench.step .commit).batch.committed = true :=
      Recording.committed_commit bench.recording
    simp [done]
  | elsewhere call =>
    show bench.batch.committed = true ↔ bench.batch.committed = true ∨ _ ∨ bench.Due
    constructor
    · exact .inl
    · rintro (done | told | due)
      · exact done
      · cases told
      · exact h.settled due
  | _ =>
    refine (h.proceeds (by trivial)).committed.trans ?_
    simp

/-- Every deed keeps a bench sound. -/
theorem Sound.step {bench : Bench} (h : bench.Sound) (deed : Deed) : (bench.step deed).Sound := by
  refine ⟨?_, fun due => (h.committed_step deed).2 (.inr (.inr due))⟩
  cases deed with
  | commit =>
    have same : (Recording.commit bench.recording).2.batch.begunFlags = bench.batch.begunFlags ∧
        (Recording.commit bench.recording).2.batch.lastTask = bench.batch.lastTask := by
      show (bench.batch.commit bench.recording.tracker).batch.begunFlags = _ ∧
        (bench.batch.commit bench.recording.tracker).batch.lastTask = _
      rw [Batch.commit_batch]
      exact ⟨rfl, rfl⟩
    exact h.tallied.of_same h.tallied.counted same.1 same.2
  | elsewhere call => exact h.tallied.of_same h.tallied.counted rfl rfl
  | _ => exact (h.proceeds (by trivial)).tallied

/-- A deed of the batch's own publishes all or nothing. -/
theorem Sound.advances {bench : Bench} (h : bench.Sound) {deed : Deed}
    (own : ∀ call, deed ≠ .elsewhere call) :
    Recording.Advances bench.recording (bench.step deed).recording := by
  cases deed with
  | commit => exact Recording.advances_commit bench.recording
  | elsewhere call => exact absurd rfl (own call)
  | _ => exact (h.proceeds (by trivial)).advances

/-- Every run leaves the counters right and commits what is due, by induction on the deeds. -/
theorem Sound.run {bench : Bench} (h : bench.Sound) (deeds : List Deed) :
    (bench.run deeds).Sound := by
  induction deeds using List.reverseRecOn with
  | nil => exact h
  | append_singleton deeds deed ih =>
    rw [run_append]
    exact ih.step deed

end Bench

end GpuSync
