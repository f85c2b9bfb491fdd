import GpuSync.Proofs.Submission.AutoCommit
import GpuSync.Proofs.Submission.Baggage

/-!
# What prepares a batch

Declaring a resource for a whole batch may queue a barrier, which is to be emitted before anything
else: one that discards an image with undefined contents, or one that hands a resource over from
another queue. Host writes are made visible by one more. All these leave with task 0.

* `Bench.step_blind`: any other deed comes to the same whatever is queued, and leaves it there
  (`Bench.Blind`).
* `Bench.step_first`: the deed that begins task 0 emits all of it.
* **`Bench.prepared_by_first_task`** follows a batch through any deeds. Once task 0 began, what
  prepares the batch was emitted once, by that task. If it never does, all of it stays queued; and
  as tasks that are let go do not keep a batch from being committed, it is then never emitted,
  though other tasks were recorded (`Bench.lost_with_first_task`).
-/

namespace GpuSync

open Submission (Task)

/-- What prepares a batch is no matter of whether it is blank. -/
theorem Batch.Blank.prepared {user : BatchUse} {batch : Batch} (h : Batch.Blank user batch)
    (opening : List Barrier) (uploadsMemory : Bool) :
    Batch.Blank user (batch.prepared opening uploadsMemory) :=
  ⟨h.user, h.open', h.scopes, h.last⟩

/-- Beginning task 0 emits what prepares the batch, and then what is between the tasks. -/
theorem Batch.beginTask_first {batch : Batch} (unbegun : batch.isBegun 0 = false)
    (created : 0 < batch.taskCount) (last : Bool) :
    ∃ (own : List Barrier) (notes : List Barrier → List Log.Entry), ∀ baggage : Baggage,
      (batch.prepared baggage.opening baggage.uploadsMemory).beginTask 0 last =
        { answer := .ok ()
          batch := (batch.beginTask 0 last).batch.prepared [] baggage.uploadsMemory
          commands := emitted (baggage.preparing ++ own) ++ [.flush]
          notes := notes baggage.preparing } := by
  have found : batch.scopes[0]? = some batch.scopes[0] := List.getElem?_eq_getElem created
  have idle : ¬batch.scopes[0].begun = true := by
    unfold isBegun at unbegun
    rw [found] at unbegun
    simpa using unbegun
  refine ⟨batch.scopes[0].opening, fun preparing =>
    (if last then batch.markLast 0 else batch.answering true).notes ++
      batch.emissionNotes 0 (preparing ++ batch.scopes[0].opening), fun baggage => ?_⟩
  have marked :
      (if last then (batch.prepared baggage.opening baggage.uploadsMemory).markLast 0
        else (batch.prepared baggage.opening baggage.uploadsMemory).answering true) =
      { if last then batch.markLast 0 else batch.answering true with
        batch := (if last then batch.markLast 0
          else batch.answering true).batch.prepared baggage.opening baggage.uploadsMemory } := by
    cases last with
    | false => rfl
    | true => exact oblivious_markLast 0 batch .empty baggage.opening baggage.uploadsMemory
  have inRange : ¬maxTasks ≤ 0 := by decide
  have same : (batch.prepared baggage.opening baggage.uploadsMemory).scopes = batch.scopes := rfl
  rw [beginTask_eq, beginTask_eq, if_neg inRange, if_neg inRange, same, found]
  dsimp only [enterTask]
  rw [if_neg idle, if_neg idle, marked]
  rfl

namespace Recording

/-! ## Tasks that were begun

Finishing, letting go and settling begin no task. So whether task 0 has begun is decided by the deed
that begins it. -/

/-- To count a task as finished begins none. -/
theorem begunFlags_settle (recording : Recording) :
    recording.settle.batch.begunFlags = recording.batch.begunFlags := by
  have batch := congrArg Submission.batch (settle_submission recording).1
  rw [show recording.settle.batch = _ from batch]
  dsimp only
  split <;> rfl

/-- To let a task go begins none. -/
theorem begunFlags_abandon (recording : Recording) (task : Task) :
    (recording.abandon task).batch.begunFlags = recording.batch.begunFlags := by
  cases begun : recording.batch.isBegun task.index with
  | true => rw [abandon_of_begun begun, begunFlags_settle]
  | false =>
    obtain ⟨marked, abandoned, submission, -⟩ := abandon_of_unbegun begun
    rw [abandoned, begunFlags_settle,
      show marked.batch = _ from congrArg Submission.batch submission]
    rfl

/-- To end a body begins no task. -/
theorem begunFlags_close {α : Type} (task : Task) (answer : Except BatchError α)
    (recording : Recording) :
    (close task answer recording).2.batch.begunFlags = recording.batch.begunFlags := by
  obtain ⟨finished, closed, leaves⟩ := close_eq_abandon task answer recording
  rw [closed, begunFlags_abandon]
  exact leaves.batch.begun

/-- An action that leaves the tasks alone begins none, even if a task is lost by it. -/
theorem begunFlags_keepIfDone {α : Type} {task : Task} {action : Recorder α}
    {recording : Recording} (leaves : Leaves recording (action recording).2) :
    (keepIfDone task action recording).2.batch.begunFlags = recording.batch.begunFlags := by
  cases answer : (action recording).1 with
  | ok value =>
    rw [keepIfDone_of_ok answer]
    exact leaves.batch.begun
  | error error =>
    rw [keepIfDone_of_error answer]
    exact (begunFlags_abandon _ task).trans leaves.batch.begun

/-- Beginning task 0 labels it, and leaves nothing queued. The label is written first, then come the
barriers that prepare the batch and those of the task. -/
theorem start_first {recording : Recording} {task : Task} (first : task.index = 0)
    (created : 0 < recording.batch.taskCount) (unbegun : recording.batch.isBegun 0 = false) :
    ∃ (own : List Barrier) (notes : List Barrier → List Log.Entry), ∀ baggage : Baggage,
      start task (recording.carrying baggage) =
        (.ok (), (start task recording).2.carrying
          { baggage with
            opening := []
            transcript := baggage.transcript.run
              (.label task.label :: Batch.emitted (baggage.preparing ++ own) ++ [.flush])
            notes := baggage.notes ++ notes baggage.preparing }) := by
  obtain ⟨own, notes, begins⟩ := Batch.beginTask_first unbegun created task.last
  have begun {recording : Recording}
      (ok : (recording.batch.beginTask 0 task.last).answer = .ok ()) :
      start task recording = onBatch (fun batch _ => batch.beginTask 0 task.last)
        (recording.carryOut [.label task.label]) := by
    unfold start
    rw [first]
    exact keepIfDone_of_ok ok
  have plain := (Batch.beginTask_of_unbegun (show 0 < Batch.maxTasks by decide) created unbegun
    task.last).1
  refine ⟨own, notes, fun baggage => ?_⟩
  have carried : (recording.carrying baggage).batch =
      recording.batch.prepared baggage.opening baggage.uploadsMemory := rfl
  have ok : ((recording.carrying baggage).batch.beginTask 0 task.last).answer = .ok () := by
    rw [carried, begins]
  rw [begun ok, begun plain]
  unfold onBatch
  dsimp only
  rw [show ((recording.carrying baggage).carryOut [.label task.label]).batch =
    recording.batch.prepared baggage.opening baggage.uploadsMemory from rfl, begins]
  rfl

end Recording

namespace Bench

/-- The bench, carrying other baggage. -/
def carrying (bench : Bench) (baggage : Baggage) : Bench :=
  { bench with recording := bench.recording.carrying baggage }

/-- The deed begins task 0. -/
def StartsFirst (bench : Bench) (deed : Deed) : Prop :=
  deed = .start 0 ∧ (pick? bench.waiting 0).isSome = true

/-- Deeds come to the same whatever the bench carries, and add the same to it. -/
def Blind (bench : Bench) (deeds : List Deed) : Prop :=
  ∃ commands notes, ∀ baggage, (bench.carrying baggage).run deeds =
    (bench.run deeds).carrying (baggage.add commands notes)

section

variable {bench : Bench}

/-- A task is picked by its index. -/
theorem index_of_pick? {tasks : List Task} {index : Nat} {task : Task}
    (found : pick? tasks index = some task) : task.index = index := by
  simpa using List.find?_some found

/-- A task that is begun later than the first is not the first. -/
theorem index_ne_zero {index : Nat} {task : Task} (later : ¬bench.StartsFirst (.start index))
    (found : pick? bench.waiting index = some task) : task.index ≠ 0 := by
  rintro first
  obtain rfl : index = 0 := (index_of_pick? found).symm.trans first
  exact later ⟨rfl, by rw [found]; rfl⟩

/-! ## Deeds that do not look at what is carried

A bench that carries other barriers goes the same way under every deed but the one that begins task
0. This holds by what was shown for operations and actions, deed by deed. -/

/-- A deed is an action on the recording, and then something becomes of the tasks. -/
theorem blind_of_action {β : Type} {deed : Deed} {action : Recording → β × Recording}
    (blind : Recording.Blind action) (place : β → Recording → Bench)
    (places : ∀ answer recording baggage,
      place answer (recording.carrying baggage) = (place answer recording).carrying baggage)
    (steps : ∀ recording, ({ bench with recording } : Bench).step deed =
      place (action recording).1 (action recording).2) : bench.Blind [deed] := by
  obtain ⟨commands, notes, same⟩ := blind bench.recording
  refine ⟨commands, notes, fun baggage => ?_⟩
  show ({ bench with recording := bench.recording.carrying baggage } : Bench).step deed =
    (({ bench with recording := bench.recording } : Bench).step deed).carrying _
  rw [steps, steps, same, places]

/-- Nobody can do the deed. -/
theorem blind_of_idle {deed : Deed}
    (idle : ∀ recording, ({ bench with recording } : Bench).step deed = { bench with recording }) :
    bench.Blind [deed] :=
  blind_of_action (Recording.blind_answer ()) (fun _ recording => { bench with recording })
    (fun _ _ _ => rfl) idle

/-- The bench after something was declared for a waiting task. -/
def declared {α : Type} (bench : Bench) (task : Task) (answer : Except BatchError α)
    (recording : Recording) : Bench :=
  if answer.toBool then { bench with recording } else bench.forgo task recording

/-- A declaration that does not look at what is carried is a deed that does not. -/
theorem blind_declaring {deed : Deed} {task : Task} {action : Recorder Batch.TaskUse}
    (blind : Recording.Blind action)
    (steps : ∀ recording, ({ bench with recording } : Bench).step deed =
      ({ bench with recording } : Bench).declaring task (Recording.keepIfDone task action)) :
    bench.Blind [deed] := by
  refine blind_of_action (Recording.blind_keepIfDone task blind) (bench.declared task) ?_
    fun recording => ?_
  · intro answer recording baggage
    cases answer <;> rfl
  · rw [steps]
    unfold declaring
    dsimp only
    rcases Recording.keepIfDone task action recording with ⟨_ | _, _⟩ <;> rfl

/-- **Any deed but the one that begins task 0** comes to the same whatever the bench carries. -/
theorem step_blind {deed : Deed} (later : ¬bench.StartsFirst deed) : bench.Blind [deed] := by
  cases deed with
  | createTask label =>
    refine blind_of_action (Recording.blind_createTask label)
      (fun answer recording => match answer with
        | .ok task => { bench with recording, waiting := bench.waiting ++ [task] }
        | .error _ => { bench with recording }) ?_ fun recording => ?_
    · intro answer recording baggage
      cases answer <;> rfl
    · unfold step
      dsimp only
      rcases Recording.createTask label recording with ⟨_ | _, _⟩ <;> rfl
  -- From here on the deed is about a task picked from the bench. If there is none, nothing is done,
  -- and if there is one, the action on the recording is blind.
  | declare index key initial final =>
    cases found : pick? bench.waiting index with
    | none => exact blind_of_idle fun recording => by simp only [step, found]
    | some task =>
      exact blind_declaring
        (Recording.blind_onBatch (Batch.oblivious_declare task.index key initial final))
        fun recording => by simp only [step, found]; rfl
  | declareDefault index key =>
    cases found : pick? bench.waiting index with
    | none => exact blind_of_idle fun recording => by simp only [step, found]
    | some task =>
      exact blind_declaring
        (Recording.blind_onBatch (Batch.oblivious_declareDefault task.index key))
        fun recording => by simp only [step, found]; rfl
  -- To ask for a last task is noted on the bench only.
  | last index =>
    exact blind_of_action (Recording.blind_answer ())
      (fun _ recording => ({ bench with recording } : Bench).step (.last index))
      (fun _ _ _ => rfl) fun _ => rfl
  | start index =>
    cases found : pick? bench.waiting index with
    | none => exact blind_of_idle fun recording => by simp only [step, found]
    | some task =>
      -- Beginning is blind unless the task is task 0, and that is the deed excluded here.
      have other : task.index ≠ 0 := index_ne_zero later found
      refine blind_of_action (Recording.blind_start other)
        (fun answer recording =>
          if answer.toBool then bench.launch task recording else bench.forgo task recording)
        ?_ fun recording => ?_
      · intro answer recording baggage
        cases answer <;> rfl
      · simp only [step, found]
        rcases Recording.start task recording with ⟨_ | _, _⟩ <;> rfl
  | work index work =>
    cases found : pick? bench.running index with
    | none => exact blind_of_idle fun recording => by simp only [step, found]
    | some task =>
      exact blind_of_action (Recording.blind_record task.index work)
        (fun _ recording => { bench with recording }) (fun _ _ _ => rfl)
        fun recording => by simp only [step, found]
  | close index answer =>
    cases found : pick? bench.running index with
    | none => exact blind_of_idle fun recording => by simp only [step, found]
    | some task =>
      exact blind_of_action (Recording.blind_close task answer)
        (fun _ recording => bench.land task recording) (fun _ _ _ => rfl)
        fun recording => by simp only [step, found]; rfl
  | drop index =>
    cases found : pick? bench.waiting index with
    | none => exact blind_of_idle fun recording => by simp only [step, found]
    | some task =>
      exact blind_of_action (Recording.blind_abandon task)
        (fun _ recording => bench.forgo task recording) (fun _ _ _ => rfl)
        fun recording => by simp only [step, found]; rfl
  | commit =>
    exact blind_of_action Recording.blind_commit (fun _ recording => { bench with recording })
      (fun _ _ _ => rfl) fun _ => rfl
  | elsewhere call =>
    exact blind_of_action (Recording.blind_answer ())
      (fun _ recording => ({ bench with recording } : Bench).step (.elsewhere call))
      (fun _ _ _ => rfl) fun _ => rfl

/-- Deeds that do not look at what is carried do not do so in a row. -/
theorem Blind.append {deeds deeds' : List Deed} (h : bench.Blind deeds)
    (h' : (bench.run deeds).Blind deeds') : bench.Blind (deeds ++ deeds') := by
  obtain ⟨commands, notes, same⟩ := h
  obtain ⟨commands', notes', same'⟩ := h'
  have split (bench : Bench) : bench.run (deeds ++ deeds') = (bench.run deeds).run deeds' :=
    List.foldl_append
  refine ⟨commands ++ commands', notes ++ notes', fun baggage => ?_⟩
  rw [split, split, same, same', Baggage.add_add]

/-! ## The deed that begins task 0

This deed emits what is carried, ahead of everything else that the task emits. -/

/-- Beginning task 0 labels it and emits all that prepares the batch, and then what is between the
tasks. Nothing is left queued. -/
theorem step_first (h : bench.Sound) (first : bench.StartsFirst (.start 0)) :
    (bench.step (.start 0)).batch.isBegun 0 = true ∧
    ∃ (name : String) (own : List Barrier) (notes : List Barrier → List Log.Entry),
      ∀ baggage, (bench.carrying baggage).step (.start 0) = (bench.step (.start 0)).carrying
        { baggage with
          opening := []
          transcript := baggage.transcript.run
            (.label name :: Batch.emitted (baggage.preparing ++ own) ++ [.flush])
          notes := baggage.notes ++ notes baggage.preparing } := by
  obtain ⟨task, found⟩ := Option.isSome_iff_exists.1 first.2
  have named : task.index = 0 := index_of_pick? found
  obtain ⟨created, unbegun⟩ := h.tallied.unbegun task (mem_of_pick? found)
  rw [named] at created unbegun
  have bound : task.index < Batch.maxTasks := by
    rw [named]
    decide
  -- Task 0 waits, so it was created and not begun, and to begin it is not refused.
  obtain ⟨answer, -, -, begun, -⟩ :=
    Recording.start_of_unbegun bound (named ▸ created) (named ▸ unbegun)
  obtain ⟨own, notes, starts⟩ := Recording.start_first named created unbegun
  have steps {recording after : Recording} (ok : Recording.start task recording = (.ok (), after)) :
      ({ bench with recording } : Bench).step (.start 0) = bench.launch task after := by
    simp only [step, found, ok]
    rfl
  have plain : bench.step (.start 0) =
      bench.launch task (Recording.start task bench.recording).2 :=
    steps (Prod.ext answer rfl)
  constructor
  · rw [plain]
    show (Recording.start task bench.recording).2.batch.isBegun 0 = true
    rw [Batch.isBegun_eq_getElem?, begun, named, List.getElem?_set_self]
    · rfl
    · rw [Batch.length_begunFlags]
      exact created
  · refine ⟨task.label, own, notes, fun baggage => ?_⟩
    rw [plain]
    exact steps (starts baggage)

/-! ## Whether task 0 was begun

Either some deed began task 0, and the deeds before and after it are blind, or none did and all of
them are. In the second case what prepares the batch is still carried at the end, and is never
emitted. -/

/-- A declaration may lose its task, which counts as finished by that, but begins none. -/
theorem begunFlags_declaring {task : Task} {action : Recorder Batch.TaskUse}
    (leaves : Recording.Leaves bench.recording (action bench.recording).2) :
    (bench.declaring task (Recording.keepIfDone task action)).batch.begunFlags =
      bench.batch.begunFlags := by
  have same : (Recording.keepIfDone task action bench.recording).2.batch.begunFlags =
      bench.batch.begunFlags := Recording.begunFlags_keepIfDone leaves
  refine Eq.trans ?_ same
  unfold declaring
  rcases Recording.keepIfDone task action bench.recording with ⟨_ | _, _⟩ <;> rfl

/-- A task that is created has not begun, be it task 0 or a later one. -/
theorem isBegun_createTask (bench : Bench) (label : String) :
    (bench.step (.createTask label)).batch.isBegun 0 = bench.batch.isBegun 0 := by
  have created : (bench.step (.createTask label)).recording =
      (Recording.createTask label bench.recording).2 := by
    unfold step
    dsimp only
    rcases Recording.createTask label bench.recording with ⟨_ | _, _⟩ <;> rfl
  rw [show (bench.step (.createTask label)).batch = _ from congrArg Recording.batch created]
  rcases Recording.createTask_cases label bench.recording with
    ⟨-, -, -, -, begun, -⟩ | ⟨-, leaves⟩
  · rw [Batch.isBegun_eq_getElem?, Batch.isBegun_eq_getElem?, begun]
    show _ = (bench.recording.batch.begunFlags[0]?).getD false
    cases bench.recording.batch.begunFlags <;> rfl
  · exact Batch.isBegun_of_begunFlags leaves.batch.begun 0

/-- A task other than task 0 sets its own flag as it begins. -/
theorem isBegun_start (h : bench.Sound) {index : Nat} {task : Task}
    (found : pick? bench.waiting index = some task) (other : task.index ≠ 0) :
    (bench.step (.start index)).batch.isBegun 0 = bench.batch.isBegun 0 := by
  obtain ⟨created, unbegun⟩ := h.tallied.unbegun task (mem_of_pick? found)
  obtain ⟨answer, -, -, begun, -⟩ :=
    Recording.start_of_unbegun (Nat.lt_of_lt_of_le created h.tallied.few) created unbegun
  have pair : Recording.start task bench.recording =
      (.ok (), (Recording.start task bench.recording).2) := Prod.ext answer rfl
  simp only [step, found]
  rw [pair]
  show (Recording.start task bench.recording).2.batch.isBegun 0 = _
  rw [Batch.isBegun_eq_getElem?, begun, List.getElem?_set_ne other, ← Batch.isBegun_eq_getElem?]
  rfl

/-- No other deed begins task 0: none of them touches its flag. -/
theorem isBegun_step (h : bench.Sound) {deed : Deed} (later : ¬bench.StartsFirst deed) :
    (bench.step deed).batch.isBegun 0 = bench.batch.isBegun 0 := by
  have kept {after : Bench} (same : after.batch.begunFlags = bench.batch.begunFlags) :
      after.batch.isBegun 0 = bench.batch.isBegun 0 := Batch.isBegun_of_begunFlags same 0
  have nothing : bench.batch.isBegun 0 = bench.batch.isBegun 0 := rfl
  cases deed with
  | createTask label => exact isBegun_createTask bench label
  | declare index key initial final =>
    unfold step
    dsimp only
    split
    · exact nothing
    · refine kept (begunFlags_declaring (Recording.leaves_onBatch ?_))
      exact Batch.stays_perform bench.batch bench.recording.tracker
        (show Batch.Call.InTask (.declare _ key initial final) from trivial)
  | declareDefault index key =>
    unfold step
    dsimp only
    split
    · exact nothing
    · exact kept (begunFlags_declaring (Recording.leaves_onBatch
        (Batch.stays_declareDefault bench.batch bench.recording.tracker _ key)))
  | last index => exact nothing
  | start index =>
    cases found : pick? bench.waiting index with
    | none => simp only [step, found]
    | some task => exact isBegun_start h found (index_ne_zero later found)
  | work index work =>
    unfold step
    dsimp only
    split
    · exact nothing
    · exact kept (leaves_work _ work bench.recording).batch.begun
  | close index answer =>
    unfold step
    dsimp only
    split
    · exact nothing
    · exact kept (Recording.begunFlags_close _ answer bench.recording)
  | drop index =>
    unfold step
    dsimp only
    split
    · exact nothing
    · exact kept (Recording.begunFlags_abandon bench.recording _)
  -- A commit marks the batch and leaves the tasks.
  | commit =>
    show (bench.batch.commit bench.recording.tracker).batch.isBegun 0 = _
    rw [Batch.commit_batch]
    rfl
  | elsewhere call => exact nothing

/-- A task that is begun does not wait to begin. -/
theorem unbegun_of_startsFirst (h : bench.Sound) {deed : Deed} (first : bench.StartsFirst deed) :
    bench.batch.isBegun 0 = false := by
  obtain ⟨task, found⟩ := Option.isSome_iff_exists.1 first.2
  have named : task.index = 0 := index_of_pick? found
  rw [← named]
  exact (h.tallied.unbegun task (mem_of_pick? found)).2

/-- A task that has begun stays begun. -/
theorem begun_run (h : bench.Sound) (begun : bench.batch.isBegun 0 = true) (deeds : List Deed) :
    (bench.run deeds).batch.isBegun 0 = true := by
  induction deeds generalizing bench with
  | nil => exact begun
  | cons deed rest ih =>
    have later : ¬bench.StartsFirst deed := fun first => by
      rw [unbegun_of_startsFirst h first] at begun
      cases begun
    exact ih (h.step deed) ((isBegun_step h later).trans begun)

/-- **Deeds that do not begin task 0** come to the same whatever the bench carries. -/
theorem run_blind (h : bench.Sound) (deeds : List Deed)
    (same : (bench.run deeds).batch.isBegun 0 = bench.batch.isBegun 0) : bench.Blind deeds := by
  induction deeds generalizing bench with
  | nil => exact ⟨[], [], fun baggage => by rw [Baggage.add_nil]; rfl⟩
  | cons deed rest ih =>
    -- Had task 0 been begun here, it would be begun at the end and not now.
    have later : ¬bench.StartsFirst deed := by
      rintro ⟨rfl, waits⟩
      have begun := begun_run (h.step (.start 0)) (step_first h ⟨rfl, waits⟩).1 rest
      rw [show (bench.step (.start 0)).run rest = bench.run (.start 0 :: rest) from rfl, same,
        unbegun_of_startsFirst h ⟨rfl, waits⟩] at begun
      cases begun
    have kept := isBegun_step h later
    have after : (bench.run [deed]).Blind rest := ih (h.step deed) (same.trans kept.symm)
    exact (step_blind later).append after

/-- If task 0 was begun, some deed began it. -/
theorem exists_start (h : bench.Sound) {deeds : List Deed}
    (unbegun : bench.batch.isBegun 0 = false) (begun : (bench.run deeds).batch.isBegun 0 = true) :
    ∃ before after, deeds = before ++ .start 0 :: after ∧
      (bench.run before).batch.isBegun 0 = false ∧ (bench.run before).StartsFirst (.start 0) := by
  induction deeds generalizing bench with
  | nil =>
    rw [run_nil, unbegun] at begun
    cases begun
  | cons deed rest ih =>
    by_cases first : bench.StartsFirst deed
    · obtain ⟨rfl, waits⟩ := first
      exact ⟨[], rest, rfl, unbegun, rfl, waits⟩
    · obtain ⟨before, after, split, idle, starts⟩ :=
        ih (h.step deed) ((isBegun_step h first).trans unbegun) begun
      exact ⟨deed :: before, after, congrArg _ split, idle, starts⟩

end

/-- **What prepares a batch leaves with task 0, or not at all.** Take a batch that was declared and
begun, and any deeds done to it through its tasks. What is emitted is a function of what is queued
to prepare the batch, and no more than this.

If task 0 was not begun, what was emitted is the same whatever is queued, and all of it is queued
still, even if the batch is committed by now. If it was, then one deed began it: until then, what
was emitted is the same whatever is queued; then that task emits all of it, in order and before its
own barriers; and what is emitted from then on is again the same, with nothing queued. -/
theorem prepared_by_first_task (ring : FrameRing) (id : BatchId) (queue : Queue)
    (declaredWith : Tracker) (declarations : List Batch.Declaration) (position : Nat)
    (label : String) (tracker : Tracker) (transcript : Transcript) (deeds : List Deed) :
    let batch := ((Batch.new id queue).declareAll declaredWith declarations).batch
    let begun (opening : List Barrier) (uploads : Bool) : Bench :=
      opened ring ⟨batch.prepared opening uploads, position⟩ label tracker transcript
    let bench := (begun batch.opening batch.uploadsMemory).run deeds
    (bench.batch.isBegun 0 = false → ∃ commands, ∀ opening uploads,
      let other := (begun opening uploads).run deeds
      other.recording.transcript = transcript.run commands ∧ other.batch.opening = opening ∧
        other.batch.committed = bench.batch.committed) ∧
    (bench.batch.isBegun 0 = true →
      ∃ before after, deeds = before ++ .start 0 :: after ∧
      ∃ name own commands commands', ∀ opening uploads,
        let preparing := opening ++ if uploads then [Barrier.memory .hostWrite .general] else []
        let other := begun opening uploads
        (other.run before).recording.transcript = transcript.run commands ∧
        (other.run (before ++ [.start 0])).recording.transcript =
          (transcript.run commands).run
            (.label name :: Batch.emitted (preparing ++ own) ++ [.flush]) ∧
        (other.run deeds).recording.transcript =
          (other.run (before ++ [.start 0])).recording.transcript.run commands' ∧
        (other.run deeds).batch.opening = []) := by
  intro batch begun bench
  have new : Batch.Blank ⟨id, queue⟩ (.new id queue) := ⟨rfl, rfl, rfl, rfl⟩
  have blank : Batch.Blank ⟨id, queue⟩ batch := new.declareAll declaredWith declarations
  let plain := begun batch.opening batch.uploadsMemory
  have sound : plain.Sound := sound_opened ring (blank.prepared _ _) label tracker transcript
  have idle : plain.batch.isBegun 0 = false := by
    rw [Batch.isBegun_eq_getElem?]
    show ((batch.scopes.map _)[0]?).getD false = false
    rw [blank.scopes]
    rfl
  -- The benches differ in what they carry only.
  have carries (opening : List Barrier) (uploads : Bool) :
      begun opening uploads = plain.carrying ⟨opening, uploads, transcript, []⟩ := rfl
  constructor
  -- Without the deed that begins task 0, all deeds are blind.
  · intro unbegun
    obtain ⟨commands, notes, same⟩ := run_blind sound deeds (unbegun.trans idle.symm)
    refine ⟨commands, fun opening uploads => ?_⟩
    dsimp only
    rw [carries, same]
    exact ⟨rfl, rfl, rfl⟩
  -- That deed is done once and splits the others: those before and those after it are blind.
  · intro started
    obtain ⟨before, after, rfl, unbegun, starts⟩ := exists_start sound idle started
    obtain ⟨commands, notes, same⟩ := run_blind sound before (unbegun.trans idle.symm)
    obtain ⟨nowBegun, name, own, notes', emits⟩ := step_first (sound.run before) starts
    obtain ⟨commands', notes'', same'⟩ := run_blind ((sound.run before).step (.start 0)) after
      ((begun_run ((sound.run before).step (.start 0)) nowBegun after).trans nowBegun.symm)
    refine ⟨before, after, rfl, name, own, commands, commands', fun opening uploads => ?_⟩
    have all : (begun opening uploads).run (before ++ .start 0 :: after) =
        (((begun opening uploads).run before).step (.start 0)).run after := List.foldl_append
    dsimp only
    rw [all, run_append, carries, same, emits, same']
    exact ⟨rfl, rfl, rfl, rfl⟩

/-- An image. -/
def canvas : Key := ⟨.image, ⟨0⟩⟩

/-- A tracker of an image with undefined contents. -/
def untouched : Tracker := (Tracker.perform .empty (.add 0 canvas .general .general none)).2

/-- A batch that uses the image, and what the host wrote. -/
def painting : Batch :=
  ((Batch.new ⟨0, 0⟩ .graphics).declareAll untouched
    [.use canvas .general .general, .upload]).batch

/-- Of two tasks, the first is let go and the last is recorded. -/
def skipFirst : List Deed :=
  [.createTask "clear", .createTask "draw", .last 1, .drop 0, .start 1, .close 1 (.ok ())]

/-- **A task that is let go takes what prepares the batch with it.** The image is to be discarded
and the host's writes are to be made visible, and then a task is recorded and the batch commits
itself; but nothing was emitted, and the barrier is queued still. -/
theorem lost_with_first_task :
    let begun := opened (.new {} []) ⟨painting, 0⟩ "frame" untouched {}
    let bench := begun.run skipFirst
    painting.opening = [(Barrier.resource canvas .general .general).withDiscard true] ∧
      painting.uploadsMemory = true ∧ bench.Due ∧ bench.batch.committed = true ∧
      bench.batch.isBegun 1 = true ∧ bench.recording.transcript = { labels := ["draw"] } ∧
      bench.batch.opening = painting.opening := by
  refine ⟨rfl, rfl, ⟨rfl, rfl, _, List.mem_cons_of_mem _ List.mem_cons_self, rfl⟩,
    rfl, rfl, rfl, rfl⟩

end Bench

end GpuSync
