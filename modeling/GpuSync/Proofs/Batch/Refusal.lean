import GpuSync.Command.Transcript
import GpuSync.Proofs.Batch.Compound
import GpuSync.Proofs.Batch.Publication
import Mathlib.Logic.Function.Basic

/-!
# Calls that are refused

A call that is refused leaves everything as it was: the batch, the tracker, and the command buffer
it was to record into.

* `Batch.Effect.of_error`: a call with a case in `Effect` changes nothing when it is refused, and
  `perform_of_error` reaches the calls made of one other call. Declaring the images of a surface is
  left out, since it keeps the images declared before the one that is refused.
* `Batch.marking` is what a call writes before it looks whether it is refused: a task is marked as
  begun and a batch as committed by the write that also reads the mark from before. A refused call
  finds its mark set already (`marking_of_error`).
* `Scene` is a batch with the tracker and the command buffers around it. `Scene.run` carries out
  what is done to them by anyone, and `Scene.watch` lists what was to be seen of it.
* **`Scene.refused_leaves_no_trace`** is the result for all runs: without the refused call, the run
  would have gone the same way, and everything else in it would have looked the same.
-/

namespace GpuSync.Batch

/-! ## One call

Refusals are cases of their own in `Effect`, in which the batch is what it was. A call that is made
of one other is refused just if that one is. Using several targets is the exception: it may be
refused at the second one, when it has used the first, and is left out. -/

/-- A call that has a case of its own and is refused did nothing. -/
theorem Effect.of_error {tracker : Tracker} {batch after : Batch} {call : Call}
    {error : BatchError} {commands : List Command}
    (effect : Effect tracker batch call (.error error) after commands) :
    after = batch ∧ commands = [] := by
  cases effect with
  | refused => exact ⟨rfl, rfl⟩

/-- A commit is refused if the batch was committed, and not otherwise. -/
theorem committed_of_commit_error {batch : Batch} {tracker : Tracker} {error : BatchError}
    (refused : (batch.perform tracker .commit).answer = .error error) :
    batch.committed = true := by
  by_contra open'
  have refused : (batch.commit tracker).answer.map Reply.updated = .error error := refused
  unfold commit at refused
  rw [if_neg open'] at refused
  cases refused

/-- A call that is refused changes neither the batch nor the tracker, and records nothing. -/
theorem perform_of_error {batch : Batch} {tracker : Tracker} {call : Call} {error : BatchError}
    (single : ∀ targets, call ≠ .useTargets targets)
    (refused : (batch.perform tracker call).answer = .error error) :
    (batch.perform tracker call).batch = batch ∧
      (batch.perform tracker call).tracker = tracker ∧
      (batch.perform tracker call).commands = [] := by
  obtain ⟨basic, stands, same⟩ := exists_standsFor batch tracker single
  have effect := perform_effect batch tracker stands.isBasic
  rw [← same, refused] at effect
  obtain ⟨unchanged, silent⟩ := effect.of_error
  refine ⟨unchanged, ?_, silent⟩
  by_cases commits : call = .commit
  · subst commits
    show (batch.commit tracker).tracker = tracker
    rw [commit_of_committed (committed_of_commit_error refused)]
  · exact perform_tracker batch tracker commits

/-! ## Marks that are written first

Two calls set a bit before they look at it. If they are refused then the bit was set already, so
setting it was no change; the operations are written with the bit first, and this is where it is
shown to make no difference. -/

/-- What a call writes before it looks whether it is refused: beginning a task sets the mark of the
task, and committing a batch that of the batch, and the mark from before decides. -/
def marking (batch : Batch) : Call → Batch
  | .beginTask task _ => if task < maxTasks then batch.markBegun task else batch
  | .commit => batch.markCommitted
  | _ => batch

/-- A task of the batch that cannot be begun was begun before. -/
theorem isBegun_of_beginTask_error {batch : Batch} {tracker : Tracker} {task : Nat} {last : Bool}
    {error : BatchError} (inRange : task < maxTasks) (created : task < batch.scopes.length)
    (refused : (batch.perform tracker (.beginTask task last)).answer = .error error) :
    batch.isBegun task = true := by
  have found : batch.scopes[task]? = some batch.scopes[task] := List.getElem?_eq_getElem created
  refine isBegun_eq_true.2 ⟨_, found, ?_⟩
  by_contra unbegun
  have refused : (batch.beginTask task last).answer.map (fun _ => Reply.done) = .error error :=
    refused
  rw [beginTask_eq, if_neg (Nat.not_le.2 inRange), found] at refused
  dsimp only at refused
  rw [if_neg unbegun] at refused
  cases refused

/-- **A mark that is written first is no change if the call is refused**: it was set before. -/
theorem marking_of_error {batch : Batch} {tracker : Tracker} {call : Call} {error : BatchError}
    (refused : (batch.perform tracker call).answer = .error error) :
    batch.marking call = batch := by
  cases call with
  | beginTask task last =>
    unfold marking
    dsimp only
    split
    · rename_i inRange
      by_cases created : task < batch.scopes.length
      · obtain ⟨scope, found, begun⟩ :=
          isBegun_eq_true.1 (isBegun_of_beginTask_error inRange created refused)
        exact markBegun_of_begun found begun
      · unfold markBegun
        rw [List.getElem?_eq_none (Nat.not_lt.1 created)]
    · rfl
  | commit =>
    exact markCommitted_of_committed (committed_of_commit_error refused)
  | _ => rfl

end Batch

/-! ## A batch with its surroundings

That nothing is left is said of everything that can be seen from then on: all answers to any later
acts, with the logs and the command buffers. It follows from the equality of the scenes, for what is
seen is a function of the scene. -/

/-- A batch, the tracker it shares and the command buffers it may record into. The command buffers
are not part of the batch: the commands of a call are recorded into one that the caller chooses. -/
structure Scene where
  /-- The batch. -/
  batch : Batch
  /-- The tracker. -/
  tracker : Tracker
  /-- The command buffers. -/
  contexts : Nat → Transcript

namespace Scene

/-- What may be done to a batch or its surroundings. -/
inductive Act where
  /-- A call on the batch, which records into one of the command buffers. -/
  | call (context : Nat) (call : Batch.Call)
  /-- The batch is cleared for another use. -/
  | reset (id : BatchId) (queue : Queue)
  /-- A call on the tracker by somebody else. -/
  | track (call : Tracker.Call)
  /-- A command that somebody else records. -/
  | record (context : Nat) (command : Command)

/-- What is to be seen of an act. -/
inductive Sight where
  /-- A call on the batch answers, records commands and writes to the log. -/
  | called (answer : Except BatchError Batch.Reply) (commands : List Command)
    (notes : List Log.Entry)
  /-- A call on the tracker answers. -/
  | tracked (answer : Except Slot.PoolError Tracker.Reply)
  /-- There is nothing to be seen. -/
  | nothing

/-- What a call on the batch comes to. -/
def turn (scene : Scene) (call : Batch.Call) : Batch.Turn :=
  scene.batch.perform scene.tracker call

/-- Records commands into one of the command buffers. -/
def recording (scene : Scene) (context : Nat) (commands : List Command) : Nat → Transcript :=
  Function.update scene.contexts context ((scene.contexts context).run commands)

/-- Goes on with one more act. -/
def next (scene : Scene) : Act → Scene
  | .call context call =>
    ⟨(scene.turn call).batch, (scene.turn call).tracker,
      scene.recording context (scene.turn call).commands⟩
  | .reset id queue => { scene with batch := scene.batch.reset id queue }
  | .track call => { scene with tracker := (scene.tracker.perform call).2 }
  | .record context command => { scene with contexts := scene.recording context [command] }

/-- What is to be seen of one more act. -/
def see (scene : Scene) : Act → Sight
  | .call _ call =>
    .called (scene.turn call).answer (scene.turn call).commands (scene.turn call).notes
  | .track call => .tracked (scene.tracker.perform call).1
  | .reset _ _ | .record _ _ => .nothing

/-- Carries acts out in order. -/
def run (scene : Scene) (acts : List Act) : Scene := acts.foldl next scene

/-- What is to be seen while acts are carried out, in order. -/
def watch (scene : Scene) : List Act → List Sight
  | [] => []
  | act :: rest => scene.see act :: (scene.next act).watch rest

/-- What is done in two parts is done one after the other. -/
theorem run_append (scene : Scene) (before after : List Act) :
    scene.run (before ++ after) = (scene.run before).run after :=
  List.foldl_append ..

/-- What is seen of two parts is seen of the second from where the first one led. -/
theorem watch_append (scene : Scene) (before after : List Act) :
    scene.watch (before ++ after) = scene.watch before ++ (scene.run before).watch after := by
  induction before generalizing scene with
  | nil => rfl
  | cons act rest ih => exact congrArg (scene.see act :: ·) (ih (scene.next act))

/-- A call that is refused leaves the batch, the tracker and every command buffer as they were. Its
answer and what it logs can be seen, and nothing else of it. -/
theorem next_of_error {scene : Scene} {call : Batch.Call} {error : BatchError}
    (single : ∀ targets, call ≠ .useTargets targets)
    (refused : (scene.turn call).answer = .error error) (context : Nat) :
    scene.next (.call context call) = scene := by
  obtain ⟨batch, tracker, commands⟩ := Batch.perform_of_error single refused
  show Scene.mk (scene.turn call).batch (scene.turn call).tracker
    (scene.recording context (scene.turn call).commands) = scene
  unfold turn recording
  rw [batch, tracker, commands, Transcript.run, List.foldl_nil, Function.update_eq_self]

/-- **A call that is refused leaves no trace.** Take a batch, its tracker and its command buffers
after any acts, a call on the batch that is refused there, and any acts after it. The call leaves
the batch, the tracker and every command buffer as they were, also if the marks that it writes
before it knows are counted. Without the call the run would have ended the same way, and all that
was to be seen before and after would have been the same.

Declaring the images of a surface is several declarations, each of which is one such call. -/
theorem refused_leaves_no_trace (scene : Scene) (before after : List Act) (context : Nat)
    {call : Batch.Call} (single : ∀ targets, call ≠ .useTargets targets) {error : BatchError}
    (refused : ((scene.run before).turn call).answer = .error error) :
    let met := scene.run before
    let left := scene.run (before ++ [.call context call])
    (left.batch = met.batch ∧ left.tracker = met.tracker ∧ left.contexts = met.contexts ∧
        met.batch.marking call = met.batch) ∧
      scene.run (before ++ .call context call :: after) = scene.run (before ++ after) ∧
      scene.watch (before ++ .call context call :: after) =
        scene.watch before ++ met.see (.call context call) :: met.watch after ∧
      scene.watch (before ++ after) = scene.watch before ++ met.watch after := by
  intro met left
  have stays : met.next (.call context call) = met := next_of_error single refused context
  have same : left = met := by
    show scene.run (before ++ [.call context call]) = met
    rw [run_append]
    exact stays
  refine ⟨⟨?_, ?_, ?_, Batch.marking_of_error refused⟩, ?_, ?_, watch_append scene before after⟩
  · rw [same]
  · rw [same]
  · rw [same]
  · rw [run_append, run_append]
    show (met.next (.call context call)).run after = met.run after
    rw [stays]
  · rw [watch_append]
    show _ ++ met.see (.call context call) :: (met.next (.call context call)).watch after = _
    rw [stays]

/-- A batch nothing was declared for, with a tracker that knows nothing and empty command
buffers. -/
def bare : Scene := ⟨.new ⟨0, 0⟩ .graphics, .empty, fun _ => {}⟩

/-- Beginning a task once more does not mark it as the last one either. -/
theorem refused_leaves_no_trace_begun :
    let before : List Act := [.call 0 .createTask, .call 0 (.beginTask 0 false)]
    ((bare.run before).turn (.beginTask 0 true)).answer =
        .error (.taskAlreadyBegun ⟨0, 0⟩ 0) ∧
      (bare.run (before ++ [.call 0 (.beginTask 0 true)])).batch.lastTask = none := by
  intro before
  have refused : ((bare.run before).turn (.beginTask 0 true)).answer =
      .error (.taskAlreadyBegun ⟨0, 0⟩ 0) := rfl
  have single (targets : List Handle) : Batch.Call.beginTask 0 true ≠ .useTargets targets := nofun
  obtain ⟨⟨batch, -, -, -⟩, -⟩ :=
    refused_leaves_no_trace bare before [] 0 single refused
  refine ⟨refused, ?_⟩
  rw [batch]
  rfl

end Scene

end GpuSync
