import GpuSync.Proofs.Submission.Bench

/-!
# What a recording carries along

The barriers that prepare a batch are queued on it as it is declared, and emitted as its task 0
begins. Until then the recording carries them along with what was written to its transcript and its
log, and nothing it does looks at any of this.

* `Baggage` is what is carried, and `Recording.carrying` a recording with other baggage.
* `Recording.Blind`: an action comes to the same whatever the recording carries, and adds the same
  commands and notes.
* `Recording.blind_onBatch` reduces that to operations on batches (`Batch.Oblivious`), and
  `Recording.Blind.andThen` to the actions of which an action is made.
* Everything done through a task is blind, except for beginning task 0 (`Recording.blind_start`,
  `Recording.blind_close`, `Recording.blind_record`).
-/

namespace GpuSync

open Submission (Task)

/-- What a recording carries along. -/
structure Baggage where
  /-- The barriers queued to prepare the resources of the batch. -/
  opening : List Barrier
  /-- Whether the host's writes are to be made visible. -/
  uploadsMemory : Bool
  /-- What was carried out so far. -/
  transcript : Transcript
  /-- What was logged so far. -/
  notes : List Log.Entry

namespace Baggage

/-- The barriers that prepare the batch. -/
def preparing (baggage : Baggage) : List Barrier :=
  baggage.opening ++ if baggage.uploadsMemory then [Barrier.memory .hostWrite .general] else []

/-- Carries commands out and writes to the log. -/
def add (baggage : Baggage) (commands : List Command) (notes : List Log.Entry) : Baggage :=
  { baggage with
    transcript := baggage.transcript.run commands
    notes := baggage.notes ++ notes }

/-- Nothing is carried out and nothing logged. -/
theorem add_nil (baggage : Baggage) : baggage.add [] [] = baggage := by
  simp [add, Transcript.run]

/-- What is carried out and logged in turn may be so at once. -/
theorem add_add (baggage : Baggage) (commands commands' : List Command)
    (notes notes' : List Log.Entry) :
    (baggage.add commands notes).add commands' notes' =
      baggage.add (commands ++ commands') (notes ++ notes') := by
  simp [add, Transcript.run]

end Baggage

/-! ## Operations on batches

What prepares a batch are the barriers queued for it and the wish for an upload barrier. They are
read when task 0 begins, and every other operation is shown not to look, one lemma for each. -/

namespace Batch

variable {α : Type}

/-- A batch that is prepared by other barriers. -/
def prepared (batch : Batch) (opening : List Barrier) (uploadsMemory : Bool) : Batch :=
  { batch with opening, uploadsMemory }

/-- An operation comes to the same whatever prepares the batch, and leaves that as it is. It also
leaves the preparation to the batch that comes after it. -/
def Oblivious (operation : Batch → Tracker → Outcome α) : Prop :=
  ∀ (batch : Batch) (tracker : Tracker) (opening : List Barrier) (uploadsMemory : Bool),
    operation (batch.prepared opening uploadsMemory) tracker =
      { operation batch tracker with
        batch := (operation batch tracker).batch.prepared opening uploadsMemory }

/-- To create a task does not look at what prepares the batch. -/
theorem oblivious_createTask : Oblivious fun batch _ => batch.createTask := by
  intro batch tracker opening uploadsMemory
  dsimp only [createTask, prepared]
  repeat' split
  all_goals rfl

/-- Nor does a declaration for a task. It queues its barriers for the task. -/
theorem oblivious_declare (task : Nat) (key : Key) (initial final : Usage) :
    Oblivious fun batch tracker => batch.declare tracker task key initial final := by
  intro batch tracker opening uploadsMemory
  dsimp only [declare, prepared]
  repeat' split
  all_goals first | rfl | contradiction

/-- Nor does one with the usages by default. -/
theorem oblivious_declareDefault (task : Nat) (key : Key) :
    Oblivious fun batch tracker => batch.declareDefault tracker task key := by
  intro batch tracker opening uploadsMemory
  have declares (initial final : Usage) :=
    oblivious_declare task key initial final batch tracker opening uploadsMemory
  have same : (batch.prepared opening uploadsMemory).passages = batch.passages := rfl
  dsimp only [declareDefault]
  rw [same]
  split
  · exact declares _ _
  · split
    · exact declares _ _
    · exact declares _ _

/-- Nor does the mark of the last task. -/
theorem oblivious_markLast (task : Nat) : Oblivious fun batch _ => batch.markLast task := by
  intro batch tracker opening uploadsMemory
  dsimp only [markLast, prepared]
  repeat' split
  all_goals rfl

/-- Only task 0 emits what prepares the batch. -/
theorem oblivious_beginTask {task : Nat} (later : task ≠ 0) (last : Bool) :
    Oblivious fun batch _ => batch.beginTask task last := by
  intro batch tracker opening uploadsMemory
  have marked :
      (if last then (batch.prepared opening uploadsMemory).markLast task
        else (batch.prepared opening uploadsMemory).answering true) =
      { if last then batch.markLast task else batch.answering true with
        batch := (if last then batch.markLast task
          else batch.answering true).batch.prepared opening uploadsMemory } := by
    cases last with
    | false => rfl
    | true => exact oblivious_markLast task batch tracker opening uploadsMemory
  have none (batch : Batch) : batch.openingBarriers task = [] := if_neg later
  have same : (batch.prepared opening uploadsMemory).scopes = batch.scopes := rfl
  dsimp only
  rw [beginTask_eq, beginTask_eq]
  dsimp only [enterTask]
  rw [marked, none, none, if_neg later, if_neg later, same]
  repeat' split
  all_goals rfl

section

variable (task : Nat) (key : Key) (usage : Usage)

/-- Nor does a report. -/
theorem oblivious_report :
    Oblivious fun batch tracker => batch.report tracker task key usage := by
  intro batch tracker opening uploadsMemory
  have same : (batch.prepared opening uploadsMemory).begunScope task = batch.begunScope task := rfl
  dsimp only [report]
  rw [same]
  repeat' split
  all_goals rfl

/-- Nor does a discard. -/
theorem oblivious_discard : Oblivious fun batch _ => batch.discard task key := by
  intro batch tracker opening uploadsMemory
  have same : (batch.prepared opening uploadsMemory).begunScope task = batch.begunScope task := rfl
  dsimp only [discard]
  rw [same]
  repeat' split
  all_goals rfl

/-- Nor does an override. -/
theorem oblivious_override :
    Oblivious fun batch tracker => batch.override tracker task key usage := by
  intro batch tracker opening uploadsMemory
  have same : (batch.prepared opening uploadsMemory).begunScope task = batch.begunScope task := rfl
  dsimp only [override]
  rw [same]
  repeat' split
  all_goals rfl

/-- Nor does reading memory back. -/
theorem oblivious_readback : Oblivious fun batch _ => batch.readback task := by
  intro batch tracker opening uploadsMemory
  dsimp only [readback, prepared]
  repeat' split
  all_goals rfl

/-- Nor does uploading memory from within a task. It is no matter of what was asked for the batch.
-/
theorem oblivious_upload (dst : Usage) : Oblivious fun batch _ => batch.upload task dst := by
  intro batch tracker opening uploadsMemory
  dsimp only [upload, prepared]
  repeat' split
  all_goals rfl

/-- Nor does finishing a task. -/
theorem oblivious_finish : Oblivious fun batch _ => batch.finish task := by
  intro batch tracker opening uploadsMemory
  have same : (batch.prepared opening uploadsMemory).begunScope task = batch.begunScope task := rfl
  dsimp only [finish]
  rw [same]
  split
  all_goals rfl

end

end Batch

/-! ## Actions on recordings

An action takes a recording and gives an answer and a recording. Actions that are blind to what is
carried can be done one after the other and by cases, and from these the actions on recordings are
made. -/

namespace Recording

variable {α β γ : Type}

/-- A recording that carries other baggage. -/
def carrying (recording : Recording) (baggage : Baggage) : Recording :=
  { recording with
    submission :=
      { recording.submission with
        batch := recording.batch.prepared baggage.opening baggage.uploadsMemory }
    transcript := baggage.transcript
    notes := baggage.notes }

/-- An action comes to the same whatever the recording carries, and adds the same to it. Two
recordings that differ in what they carry come to the same answer, and still differ in just that. -/
def Blind (action : Recording → β × Recording) : Prop :=
  ∀ recording, ∃ commands notes, ∀ baggage, action (recording.carrying baggage) =
    ((action recording).1, (action recording).2.carrying (baggage.add commands notes))

/-- Nothing is done. -/
theorem blind_answer (answer : β) : Blind fun recording => (answer, recording) :=
  fun recording => ⟨[], [], fun baggage => by rw [Baggage.add_nil]⟩

/-- Commands are carried out. -/
theorem blind_carryOut (answer : β) (commands : List Command) :
    Blind fun recording => (answer, recording.carryOut commands) := by
  intro recording
  refine ⟨commands, [], fun baggage => ?_⟩
  simp only [Baggage.add, List.append_nil]
  rfl

/-- What is logged may depend on the submission. -/
theorem blind_log (answer : β) (notes : Submission → List Log.Entry)
    (same : ∀ submission opening uploadsMemory,
      notes { submission with batch := submission.batch.prepared opening uploadsMemory } =
        notes submission) :
    Blind fun recording => (answer, recording.log (notes recording.submission)) := by
  intro recording
  refine ⟨[], notes recording.submission, fun baggage => ?_⟩
  have same := same recording.submission baggage.opening baggage.uploadsMemory
  show (answer, (recording.carrying baggage).log (notes { recording.submission with
    batch := recording.batch.prepared baggage.opening baggage.uploadsMemory })) = _
  rw [show recording.batch = recording.submission.batch from rfl, same]
  rfl

/-- One action after another, which may depend on its answer. -/
theorem Blind.andThen {first : Recording → β × Recording} {second : β → Recording → γ × Recording}
    (h : Blind first) (h' : ∀ answer, Blind (second answer)) :
    Blind fun recording => second (first recording).1 (first recording).2 := by
  intro recording
  obtain ⟨commands, notes, same⟩ := h recording
  obtain ⟨commands', notes', same'⟩ := h' (first recording).1 (first recording).2
  refine ⟨commands ++ commands', notes ++ notes', fun baggage => ?_⟩
  dsimp only
  rw [same, same', Baggage.add_add]

/-- An action and then one of two others, as it was accepted or refused. -/
theorem Blind.cases {first : Recorder α} {both : Recording → γ × Recording}
    {done : α → Recording → γ × Recording} {failed : BatchError → Recording → γ × Recording}
    (h : Blind first) (ok : ∀ answer, Blind (done answer)) (error : ∀ reason, Blind (failed reason))
    (goesOn : ∀ recording answer after, first recording = (.ok answer, after) →
      both recording = done answer after)
    (turnsBack : ∀ recording reason after, first recording = (.error reason, after) →
      both recording = failed reason after) : Blind both := by
  intro recording
  obtain ⟨commands, notes, same⟩ := h recording
  cases result : (first recording).1 with
  | ok answer =>
    obtain ⟨commands', notes', same'⟩ := ok answer (first recording).2
    refine ⟨commands ++ commands', notes ++ notes', fun baggage => ?_⟩
    rw [goesOn recording answer _ (Prod.ext result rfl),
      goesOn (recording.carrying baggage) answer _ (by rw [same, result]), same', Baggage.add_add]
  | error reason =>
    obtain ⟨commands', notes', same'⟩ := error reason (first recording).2
    refine ⟨commands ++ commands', notes ++ notes', fun baggage => ?_⟩
    rw [turnsBack recording reason _ (Prod.ext result rfl),
      turnsBack (recording.carrying baggage) reason _ (by rw [same, result]), same',
      Baggage.add_add]

/-- One action or another. -/
theorem Blind.ite {first second : Recording → β × Recording} (h : Blind first) (h' : Blind second)
    (which : Recording → Bool)
    (same : ∀ recording baggage, which (recording.carrying baggage) = which recording) :
    Blind fun recording => if which recording then first recording else second recording := by
  intro recording
  dsimp only
  simp only [same]
  cases which recording with
  | true => exact h recording
  | false => exact h' recording

/-- An operation that does not look at what prepares the batch is a blind action. -/
theorem blind_onBatch {operation : Batch → Tracker → Batch.Outcome α}
    (h : Batch.Oblivious operation) : Blind (onBatch operation) := by
  intro recording
  refine ⟨(operation recording.batch recording.tracker).commands,
    (operation recording.batch recording.tracker).notes, fun baggage => ?_⟩
  have same := h recording.batch recording.tracker baggage.opening baggage.uploadsMemory
  unfold onBatch
  dsimp only
  rw [show (recording.carrying baggage).batch =
    recording.batch.prepared baggage.opening baggage.uploadsMemory from rfl,
    show (recording.carrying baggage).tracker = recording.tracker from rfl, same]
  rfl

/-- A commit does not look at what the recording carries. -/
theorem blind_commit : Blind commit := by
  intro recording
  refine ⟨[], (recording.batch.commit recording.tracker).notes, fun baggage => ?_⟩
  have same : (recording.carrying baggage).batch.commit (recording.carrying baggage).tracker =
      { recording.batch.commit recording.tracker with
        batch := (recording.batch.commit recording.tracker).batch.prepared baggage.opening
          baggage.uploadsMemory } := by
    unfold Batch.commit
    split
    · rename_i done
      rw [if_pos (show recording.batch.committed = true from done)]
      rfl
    · rename_i open'
      rw [if_neg (show ¬ recording.batch.committed = true from open')]
      rfl
  unfold commit
  rw [same]
  rfl

/-! ### The life of a task -/

/-- Nor does counting a task as finished, which may commit. -/
theorem blind_settle : Blind fun recording => ((), recording.settle) := by
  have count : Blind fun recording => ((), recording.counted) :=
    fun recording => ⟨[], [], fun baggage => by rw [Baggage.add_nil]; rfl⟩
  have both := (count.andThen fun _ => blind_commit).andThen fun _ => blind_answer ()
  have settles : (fun recording : Recording => ((), recording.settle)) =
      fun recording => if recording.ripe then ((), (commit recording.counted).2)
        else ((), recording.counted) := by
    funext recording
    rw [settle_eq]
    split <;> rfl
  rw [settles]
  exact both.ite count ripe fun _ _ => rfl

/-- What is logged when a task is let go that never began. -/
def dropNotes (task : Task) (submission : Submission) : List Log.Entry :=
  [Log.warn (s!"task {task.index} '{task.label}' of batch " ++
    s!"{submission.batch.id.text} was dropped without running")]

/-- What is logged when the body of a task is refused. -/
def failNotes (task : Task) (error : BatchError) (submission : Submission) : List Log.Entry :=
  [Log.warn (s!"task {task.index} '{task.label}' of batch " ++
    s!"{submission.batch.id.text} failed: {error.message}")]

/-- Nor does letting a task go. -/
theorem blind_abandon (task : Task) : Blind fun recording => ((), recording.abandon task) := by
  have logs := blind_log () (dropNotes task) fun _ _ _ => rfl
  have marks : Blind fun recording => ((),
      if task.last then (onBatch (fun batch _ => batch.markLast task.index) recording).2
      else recording) := by
    cases task.last with
    | false => exact blind_answer ()
    | true =>
      exact (blind_onBatch (Batch.oblivious_markLast task.index)).andThen fun _ => blind_answer ()
  have lost := (logs.andThen fun _ => marks).andThen fun _ => blind_settle
  convert blind_settle.ite lost (fun recording => recording.batch.isBegun task.index)
    (fun _ _ => rfl) using 2 with recording
  unfold abandon
  split <;> rfl

/-- Nor does creating one. -/
theorem blind_createTask (label : String) : Blind (createTask label) :=
  (blind_onBatch Batch.oblivious_createTask).andThen fun answer =>
    blind_answer (answer.map fun index => ({ index, label } : Task))

/-- Nor does an action after which a task is lost, if the action itself does not. -/
theorem blind_keepIfDone (task : Task) {action : Recorder α} (h : Blind action) :
    Blind (keepIfDone task action) := by
  have kept (answer : α) :
      Blind fun recording => (Except.ok (ε := BatchError) answer, recording) := blind_answer _
  have lost (error : BatchError) :
      Blind fun recording => (Except.error (α := α) error, recording.abandon task) :=
    (blind_abandon task).andThen fun _ => blind_answer _
  refine h.cases kept lost ?_ ?_
  all_goals
    intro recording result after found
    unfold keepIfDone
    rw [found]

/-- Beginning a task is blind, unless it is task 0. -/
theorem blind_start {task : Task} (later : task.index ≠ 0) : Blind (start task) :=
  (blind_carryOut () [.label task.label]).andThen fun _ =>
    blind_keepIfDone task (blind_onBatch (Batch.oblivious_beginTask later task.last))

/-- Nor does the end of a body. -/
theorem blind_close (task : Task) (answer : Except BatchError α) : Blind (close task answer) := by
  have lets (answer : Except BatchError α) :
      Blind fun recording => (answer, recording.abandon task) :=
    (blind_abandon task).andThen fun _ => blind_answer answer
  have finishes := blind_onBatch (Batch.oblivious_finish task.index)
  cases answer with
  | ok value =>
    refine finishes.cases (fun _ => lets (.ok value)) (fun error => lets (.error error)) ?_ ?_
    all_goals
      intro recording result after found
      unfold close
      dsimp only
      rw [found]
  | error error =>
    have fails := (blind_log () (failNotes task error) fun _ _ _ => rfl).andThen fun _ => finishes
    refine fails.cases (fun _ => lets (.error error)) (fun error => lets (.error error)) ?_ ?_
    all_goals
      intro recording result after found
      unfold close
      dsimp only [failNotes] at found ⊢
      rw [show recording.batch = recording.submission.batch from rfl, found]

/-! ### In the body of a task -/

/-- Nor do several reports in a row. -/
theorem blind_reportMany (task : Nat) (uses : List (Key × Usage)) :
    Blind (reportMany task uses) := by
  induction uses with
  | nil => exact blind_answer _
  | cons use rest ih =>
    obtain ⟨key, usage⟩ := use
    refine (blind_onBatch (Batch.oblivious_report task key usage)).cases (fun _ => ih)
      (fun error => blind_answer (.error error)) ?_ ?_
    all_goals
      intro recording result after found
      rw [reportMany]
      dsimp only [report]
      rw [found]

/-- Nor does any work within a task. -/
theorem blind_record (task : Nat) (work : Work) :
    Blind fun recording => ((), work.record task recording) := by
  have quiet {α : Type} {action : Recorder α} (h : Blind action) :
      Blind fun recording => ((), (action recording).2) := h.andThen fun _ => blind_answer ()
  cases work with
  | report key usage => exact quiet (blind_onBatch (Batch.oblivious_report task key usage))
  | reportMany uses => exact quiet (blind_reportMany task uses)
  | discard key => exact quiet (blind_onBatch (Batch.oblivious_discard task key))
  | override key usage => exact quiet (blind_onBatch (Batch.oblivious_override task key usage))
  | isIn key usage => exact blind_answer ()
  | readback => exact quiet (blind_onBatch (Batch.oblivious_readback task))
  | upload dst => exact quiet (blind_onBatch (Batch.oblivious_upload task dst))
  | flush => exact blind_carryOut () [.flush]

end Recording

end GpuSync
