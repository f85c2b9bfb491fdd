import GpuSync.Proofs.Batch.Refusal
import GpuSync.Proofs.Batch.Thread
import Mathlib.Tactic.Common

/-!
# Relaxed barriers are strict barriers without the redundant ones

Strict or relaxed, a batch keeps the same books: whether a barrier is emitted influences nothing
that comes after it. So a strict batch and a relaxed one that meet the same calls differ in the
barriers they have queued and emit, and in nothing else.

* `Barrier.isRedundant` tells which barriers a relaxed batch goes without, and `Barrier.essential`
  drops them.
* `Batch.eased` is a batch as it would be had it been relaxed all along.
* `Outcome.Eases`: an operation on the eased batch comes to the same, without redundant barriers.
  There is one lemma for each operation, and `Batch.eases_perform` for all calls.
* **`Scene.relaxed_emits_essential`** puts this together for two runs, side by side, of all calls
  on a batch and whatever others do to its surroundings.
-/

namespace GpuSync

/-! ## Redundant barriers

A redundant barrier is told from its own fields. It leads from a usage to the same one, keeps the
contents, and hands nothing over. -/

/-- A barrier on a resource that goes from a usage to the same one, and neither gives contents up
nor hands the resource over. -/
def Barrier.isRedundant (barrier : Barrier) : Bool :=
  barrier.key.isSome && barrier.src == barrier.dst && !barrier.discard && barrier.transfer.isNone

/-- The barriers that are not redundant. -/
def Barrier.essential (barriers : List Barrier) : List Barrier :=
  barriers.filter fun barrier => !barrier.isRedundant

/-- No barrier, none that is essential. -/
@[simp] theorem Barrier.essential_nil : essential [] = [] := rfl

/-- Redundant barriers are left out one by one. -/
@[simp] theorem Barrier.essential_append (a b : List Barrier) :
    essential (a ++ b) = essential a ++ essential b :=
  List.filter_append ..

/-- A barrier on all memory is essential: nothing is known of the usages it stands between. -/
@[simp] theorem Barrier.essential_memory (src dst : Usage) :
    essential [Barrier.memory src dst] = [Barrier.memory src dst] := rfl

/-- Whether a command queues a redundant barrier. -/
def Command.isRedundant : Command → Bool
  | .barrier queued => queued.isRedundant
  | .flush | .label _ => false

/-- The commands that queue no redundant barrier. -/
def Command.essential (commands : List Command) : List Command :=
  commands.filter fun command => !command.isRedundant

/-- Commands are left out one by one. -/
@[simp] theorem Command.essential_append (a b : List Command) :
    Command.essential (a ++ b) = Command.essential a ++ Command.essential b :=
  List.filter_append ..

/-- To emit the essential barriers is to leave out the commands that queue the redundant ones. -/
@[simp] theorem Command.essential_emitted (barriers : List Barrier) :
    Command.essential (Batch.emitted barriers) = Batch.emitted (Barrier.essential barriers) :=
  List.filter_map

namespace Batch

open Barrier (essential)

/-! ## Batches that were relaxed all along

The barriers that wait in a strict batch include redundant ones. Leaving those out gives a batch as
it would be if it had been relaxed from the beginning, and the comparison is with that batch, not
with one that is made relaxed now. -/

/-- A task as it would be had its batch been relaxed all along. -/
def Scope.eased (scope : Scope) : Scope := { scope with opening := essential scope.opening }

/-- A batch as it would be had it been relaxed all along. -/
def eased (batch : Batch) : Batch :=
  { batch with
    relaxed := true
    opening := essential batch.opening
    scopes := batch.scopes.map Scope.eased }

variable (batch : Batch)

/-- The strictness of a batch shows in its barriers, never in its passages. -/
@[simp] theorem passages_eased : batch.eased.passages = batch.passages := rfl

/-- A relaxed batch has as many tasks. -/
@[simp] theorem length_scopes_eased : batch.eased.scopes.length = batch.scopes.length :=
  List.length_map _

/-- A relaxed batch has tasks exactly if the strict one does. -/
@[simp] theorem isStarted_eased : batch.eased.isStarted = batch.isStarted := by
  simp [isStarted, eased]

/-- A relaxed batch has the same tasks, each without its redundant barriers. -/
theorem getElem?_scopes_eased (task : Nat) :
    batch.eased.scopes[task]? = (batch.scopes[task]?).map Scope.eased :=
  List.getElem?_map ..

/-- A task may be written before or after the redundant barriers are left out. -/
theorem setScope_eased (task : Nat) (scope : Scope) :
    (batch.setScope task scope).eased = batch.eased.setScope task scope.eased := by
  simp [setScope, eased, List.map_set]

/-- A relaxed batch refuses to record a task for the same reasons. -/
theorem begunScope_eased (task : Nat) :
    batch.eased.begunScope task = (batch.begunScope task).map Scope.eased := by
  unfold begunScope
  rw [getElem?_scopes_eased]
  split
  · rfl
  · cases batch.scopes[task]? with
    | none => rfl
    | some scope =>
      dsimp only [Option.map_some]
      show (if scope.begun then _ else _) = _
      split <;> rfl

/-- A relaxed batch goes without the barriers from a usage to the same one. -/
theorem needsBarrier_eased (key : Key) (src dst : Usage) :
    batch.eased.needsBarrier key src dst = (batch.needsBarrier key src dst && src != dst) := by
  unfold needsBarrier Usage.needsImageBarrier Usage.needsMemoryBarrier
  by_cases same : src = dst
  · subst same
    simp [eased]
  · have apart : (src == dst) = false := by simp [same]
    simp [eased, bne, apart]

/-- The barrier between two usages, without the redundant ones. -/
theorem transition_eased (key : Key) (src dst : Usage) (discard : Bool) :
    batch.eased.transition key src dst discard =
      essential (batch.transition key src dst discard) := by
  unfold transition
  rw [needsBarrier_eased]
  cases discard with
  | true => simp [essential, Barrier.isRedundant, Barrier.withDiscard]
  | false =>
    cases batch.needsBarrier key src dst with
    | false => rfl
    | true =>
      by_cases same : src = dst
      · simp [same, essential, Barrier.isRedundant, Barrier.withDiscard, Barrier.resource]
      · simp [same, essential, Barrier.isRedundant, Barrier.withDiscard, Barrier.resource]

/-- A first use gives contents up or hands the resource over. -/
theorem essential_firstUse (tracker : Tracker) (key : Key) (initial : Usage) :
    essential (batch.firstUse tracker key initial).toList =
      (batch.firstUse tracker key initial).toList := by
  unfold firstUse
  repeat' split
  all_goals simp [essential, Barrier.isRedundant, Barrier.withDiscard, Barrier.withTransfer]

/-- The first use of a resource is not a matter of strictness. It discards or hands over, or takes
no barrier in either batch. -/
theorem firstUse_eased (tracker : Tracker) (key : Key) (initial : Usage) :
    batch.eased.firstUse tracker key initial = batch.firstUse tracker key initial := rfl

/-- The barrier with which a task opens, without the redundant ones. -/
theorem openingOf_eased (key : Key) (src dst : Usage) :
    batch.eased.openingOf key src dst = essential (batch.openingOf key src dst) := by
  rw [openingOf_eq_transition, openingOf_eq_transition, transition_eased]

/-- A relaxed batch opens a task with the essential barriers. -/
theorem openingBarriers_eased (task : Nat) :
    batch.eased.openingBarriers task = essential (batch.openingBarriers task) := by
  unfold openingBarriers
  split
  · rw [Barrier.essential_append]
    show essential batch.opening ++ (if batch.uploadsMemory then _ else _) = _
    split <;> rfl
  · rfl

/-- A relaxed batch closes a task with the essential barriers. -/
theorem closingBarriers_eased (scope : Scope) :
    batch.eased.closingBarriers scope.eased = essential (batch.closingBarriers scope) := by
  show scope.uses.entries.flatMap _ = essential (scope.uses.entries.flatMap _)
  rw [essential, List.filter_flatMap]
  refine List.flatMap_congr fun entry _ => ?_
  exact batch.transition_eased ..

/-- Strictness does not show in the table of a task. -/
@[simp] theorem uses_eased (scope : Scope) : scope.eased.uses = scope.uses := rfl

/-- A task declares a resource. -/
theorem declaring_eased (task : Nat) (scope : Scope) (key : Key) (use : TaskUse)
    {barriers barriers' : List Barrier} (same : barriers' = essential barriers)
    (passages : KeyTable Passage) :
    { batch.eased.setScope task (scope.eased.declaring key use barriers') with passages } =
      eased { batch.setScope task (scope.declaring key use barriers) with passages } := by
  subst same
  simp [setScope, eased, Scope.declaring, Scope.eased, List.map_set]

/-- A table may be written before or after the redundant barriers are left out. -/
theorem setUse_eased (task : Nat) (scope : Scope) (key : Key) (use : TaskUse) :
    (batch.setUse task scope key use).eased = batch.eased.setUse task scope.eased key use :=
  batch.setScope_eased task _

/-! ## Operations

Each operation is compared with itself on the eased batch, check by check. All checks come out the
same because none of them reads the queued barriers. -/

variable {α : Type} {batch}

/-- An outcome is another one without the redundant barriers. The answers are the same, and the
batch and the commands are those without the redundant barriers. -/
structure Outcome.Eases (light full : Outcome α) : Prop where
  /-- The answer is the same. -/
  answer : light.answer = full.answer
  /-- The batch is as it would be had it been relaxed all along. -/
  batch : light.batch = full.batch.eased
  /-- The commands that queue redundant barriers are left out. -/
  commands : light.commands = Command.essential full.commands

/-- Both batches refuse with the same error. Their logs may differ. -/
theorem Outcome.Eases.refuse (error : BatchError) (notes notes' : List Log.Entry) :
    (batch.eased.refuse error notes : Outcome α).Eases (batch.refuse error notes') :=
  ⟨rfl, rfl, rfl⟩

/-- Operations that check the same condition may be compared branch by branch. -/
theorem Outcome.Eases.ite {condition : Prop} [Decidable condition]
    {light full light' full' : Outcome α} (yes : light.Eases full) (no : light'.Eases full') :
    (if condition then light else light').Eases (if condition then full else full') := by
  split
  · exact yes
  · exact no

/-- Both batches answer the same and emit nothing. -/
theorem Outcome.Eases.answering {after : Batch} (same : after = batch.eased) (answer : α) :
    (after.answering answer).Eases (batch.answering answer) :=
  ⟨rfl, same, rfl⟩

/-- Both batches answer the same, and the relaxed one emits the essential barriers. -/
theorem Outcome.Eases.emitting {after : Batch} (same : after = batch.eased)
    {barriers barriers' : List Barrier} (same' : barriers' = essential barriers) (task : Nat)
    (answer : α) :
    (after.emitting task barriers' answer).Eases (batch.emitting task barriers answer) := by
  subst same'
  exact ⟨rfl, same, (Command.essential_emitted barriers).symm⟩

open Outcome (Eases)

section

variable (batch) (tracker : Tracker) (task : Nat) (key : Key) (initial final usage : Usage)

/-- A relaxed batch uses a resource like a strict one. -/
theorem eases_use :
    (batch.eased.use tracker key initial final).Eases (batch.use tracker key initial final) := by
  unfold use
  simp only [isStarted_eased, passages_eased, firstUse_eased]
  refine .ite (.refuse ..) ?_
  cases batch.passages.find? key with
  | some passage => exact .ite (.refuse ..) ⟨rfl, rfl, rfl⟩
  | none =>
    refine .ite (.refuse ..) ⟨rfl, ?_, rfl⟩
    simp [answering, eased, essential_firstUse]

/-- So it does with several of them, one after the other. -/
theorem eases_useMany (uses : List (Key × Usage × Usage)) :
    (batch.eased.useMany tracker uses).Eases (batch.useMany tracker uses) := by
  induction uses generalizing batch with
  | nil => exact ⟨rfl, rfl, rfl⟩
  | cons use rest ih =>
    obtain ⟨key, initial, final⟩ := use
    have first := batch.eases_use tracker key initial final
    rw [useMany, useMany, first.answer, first.batch]
    cases (batch.use tracker key initial final).answer with
    | error error => exact .refuse ..
    | ok passage =>
      have others := ih (batch.use tracker key initial final).batch
      exact ⟨others.answer, others.batch, others.commands⟩

/-- A relaxed batch creates a task like a strict one. -/
theorem eases_createTask : batch.eased.createTask.Eases batch.createTask := by
  unfold createTask
  simp only [length_scopes_eased]
  refine .ite (.refuse ..) (.ite (.refuse ..) ⟨rfl, ?_, rfl⟩)
  simp [answering, eased, Scope.eased]

/-- A relaxed batch declares a resource for a task like a strict one, and queues the barrier if it
is essential. -/
theorem eases_declare :
    (batch.eased.declare tracker task key initial final).Eases
      (batch.declare tracker task key initial final) := by
  unfold declare
  simp only [length_scopes_eased, getElem?_scopes_eased, passages_eased, firstUse_eased]
  refine .ite (.refuse ..) (.ite (.refuse ..) ?_)
  cases batch.scopes[task]? with
  | none => exact .refuse ..
  | some scope =>
    refine .ite (.refuse ..) (.ite (.refuse ..) ?_)
    cases batch.passages.find? key with
    | some passage => exact .answering (declaring_eased _ _ _ _ _ (openingOf_eased ..) _) _
    | none =>
      refine .ite (.refuse ..) (.answering (declaring_eased _ _ _ _ _ ?_ _) _)
      exact (batch.essential_firstUse tracker key initial).symm

/-- So it does with the usages by default, which it takes from the same passages. -/
theorem eases_declareDefault :
    (batch.eased.declareDefault tracker task key).Eases
      (batch.declareDefault tracker task key) := by
  unfold declareDefault
  rw [passages_eased]
  cases batch.passages.find? key with
  | some passage => exact batch.eases_declare ..
  | none =>
    cases tracker.lookup key with
    | some entry => exact batch.eases_declare ..
    | none => exact batch.eases_declare ..

/-- A relaxed batch marks the last task like a strict one. -/
theorem eases_markLast : (batch.eased.markLast task).Eases (batch.markLast task) := by
  have same : batch.eased.lastTask = batch.lastTask := rfl
  unfold markLast
  rw [same]
  cases batch.lastTask with
  | none => exact ⟨rfl, rfl, rfl⟩
  | some other => exact ⟨rfl, rfl, rfl⟩

/-- A relaxed batch begins a task like a strict one, with the essential barriers of those queued. -/
theorem eases_beginTask (last : Bool) :
    (batch.eased.beginTask task last).Eases (batch.beginTask task last) := by
  have marked : Eases
      (if last then batch.eased.markLast task else batch.eased.answering true)
      (if last then batch.markLast task else batch.answering true) :=
    .ite (batch.eases_markLast task) (.answering rfl true)
  rw [beginTask_eq, beginTask_eq, getElem?_scopes_eased]
  unfold enterTask
  -- Both make the same checks, and neither is about barriers.
  refine .ite (.refuse ..) ?_
  cases batch.scopes[task]? with
  | none => exact .refuse ..
  | some scope =>
    refine .ite (.refuse ..) ⟨rfl, ?_, ?_⟩
    · dsimp only [Option.map_some]
      rw [marked.batch]
      simp only [setScope, eased, List.map_set, apply_ite essential]
      rfl
    · dsimp only [Option.map_some]
      rw [openingBarriers_eased, Command.essential_append, Command.essential_emitted,
        Barrier.essential_append]
      rfl

/-- A relaxed batch takes a report like a strict one, with the barrier if it is essential. -/
theorem eases_report :
    (batch.eased.report tracker task key usage).Eases (batch.report tracker task key usage) := by
  unfold report
  rw [begunScope_eased]
  cases batch.begunScope task with
  | error error => exact .refuse ..
  | ok scope =>
    dsimp only [Except.map]
    rw [uses_eased]
    cases scope.uses.find? key with
    | some use =>
      exact .emitting (setUse_eased ..).symm (transition_eased ..) task ()
    | none =>
      refine .ite (.answering rfl _) (.ite (.refuse ..) ?_)
      exact .emitting (setUse_eased ..).symm (transition_eased ..) task ()

/-- A relaxed batch takes a discard like a strict one. -/
theorem eases_discard : (batch.eased.discard task key).Eases (batch.discard task key) := by
  unfold discard
  rw [begunScope_eased]
  cases batch.begunScope task with
  | error error => exact .refuse ..
  | ok scope =>
    dsimp only [Except.map]
    rw [uses_eased]
    cases scope.uses.find? key with
    | some use => exact .answering (setUse_eased ..).symm _
    | none => exact .answering rfl _

/-- A relaxed batch takes an override like a strict one. -/
theorem eases_override :
    (batch.eased.override tracker task key usage).Eases
      (batch.override tracker task key usage) := by
  unfold override
  rw [begunScope_eased]
  cases batch.begunScope task with
  | error error => exact .refuse ..
  | ok scope =>
    dsimp only [Except.map]
    rw [uses_eased]
    cases scope.uses.find? key with
    | some use => exact .answering (setUse_eased ..).symm _
    | none => exact .ite (.refuse ..) (.answering (setUse_eased ..).symm _)

/-- A relaxed batch reads memory back with the same barrier, which is on no resource. -/
theorem eases_readback : (batch.eased.readback task).Eases (batch.readback task) := by
  unfold readback
  exact .ite (.refuse ..) (.ite ⟨rfl, rfl, rfl⟩ ⟨rfl, rfl, rfl⟩)

/-- A relaxed batch uploads memory with the same barrier, which is on no resource. -/
theorem eases_upload : (batch.eased.upload task usage).Eases (batch.upload task usage) := by
  unfold upload
  exact .ite (.refuse ..) (.ite ⟨rfl, rfl, rfl⟩ ⟨rfl, rfl, rfl⟩)

/-- A relaxed batch finishes a task like a strict one, with the essential barriers. -/
theorem eases_finish : (batch.eased.finish task).Eases (batch.finish task) := by
  have same : batch.eased.lastTask = batch.lastTask := rfl
  have same' : batch.eased.readsBackMemory = batch.readsBackMemory := rfl
  unfold finish
  rw [begunScope_eased, same, same']
  cases batch.begunScope task with
  | error error => exact .refuse ..
  | ok scope =>
    dsimp only [Except.map]
    refine ⟨rfl, ?_, ?_⟩
    · simp only [setScope, eased, List.map_set]
      rfl
    · rw [closingBarriers_eased]
      simp only [Command.essential_append, Command.essential_emitted, Barrier.essential_append,
        apply_ite essential, Barrier.essential_memory, Barrier.essential_nil]
      rfl

/-- Both batches tell the same of the usage of a resource. -/
theorem usage?_eased : batch.eased.usage? task key = batch.usage? task key := by
  unfold usage?
  rw [begunScope_eased]
  cases batch.begunScope task <;> rfl

/-- A relaxed batch publishes what a strict one does. -/
theorem commit_eased :
    batch.eased.commit tracker =
      { batch.commit tracker with batch := (batch.commit tracker).batch.eased } := by
  unfold commit
  show (if batch.committed then _ else _) = _
  split <;> rfl

end

/-! ## Calls

A call is even if it does not itself set the strictness. Even calls on an eased batch come to the
eased outcome, with the same answer. -/

/-- The turn of a call is another one without the redundant barriers. -/
structure Turn.Eases (light full : Turn) : Prop where
  /-- The answer is the same. -/
  answer : light.answer = full.answer
  /-- The batch is as it would be had it been relaxed all along. -/
  batch : light.batch = full.batch.eased
  /-- The tracker is the same. -/
  tracker : light.tracker = full.tracker
  /-- The commands that queue redundant barriers are left out. -/
  commands : light.commands = Command.essential full.commands

/-- What holds of the outcome of an operation holds of the turn of the call for it. -/
theorem Outcome.Eases.turn {light full : Outcome α} (eases : light.Eases full) (tracker : Tracker)
    (reply : α → Reply) : (light.turn tracker reply).Eases (full.turn tracker reply) where
  answer := congrArg (Except.map reply) eases.answer
  batch := eases.batch
  tracker := rfl
  commands := eases.commands

/-- Whatever call an eased batch meets that leaves it relaxed, it comes to the same without the
redundant barriers. -/
theorem eases_perform (batch : Batch) (tracker : Tracker) {call : Call}
    (even : ∀ relaxed, call ≠ .setRelaxed relaxed) :
    (batch.eased.perform tracker call).Eases (batch.perform tracker call) := by
  cases call with
  | use key initial final => exact (batch.eases_use ..).turn ..
  | useAtRest key => exact (batch.eases_use ..).turn ..
  | useTargets targets => exact (batch.eases_useMany ..).turn ..
  | uploadMemory | readbackMemory => exact ⟨rfl, rfl, rfl, rfl⟩
  | setRelaxed relaxed => exact absurd rfl (even relaxed)
  | createTask => exact batch.eases_createTask.turn ..
  | declare task key initial final => exact (batch.eases_declare ..).turn ..
  | declareDefault task key => exact (batch.eases_declareDefault ..).turn ..
  | markLast task => exact (batch.eases_markLast task).turn ..
  | beginTask task last => exact (batch.eases_beginTask task last).turn ..
  | report task key usage => exact (batch.eases_report ..).turn ..
  | discard task key => exact (batch.eases_discard task key).turn ..
  | override task key usage => exact (batch.eases_override ..).turn ..
  | isIn task key usage =>
    refine ⟨?_, rfl, rfl, rfl⟩
    simp only [perform, isIn, usage?_eased]
  | readback task => exact (batch.eases_readback task).turn ..
  | upload task dst => exact (batch.eases_upload task dst).turn ..
  | finish task => exact (batch.eases_finish task).turn ..
  | commit =>
    simp only [perform, commit_eased]
    exact ⟨rfl, rfl, rfl, rfl⟩

end Batch

/-! ## Command buffers

Queued barriers are recorded at a flush, and a flush of none records nothing. So it can happen that
a strict batch records a group where the relaxed one records none, and the transcripts are compared
by all their barriers in order, whatever the groups. -/

open Barrier (essential)

/-- A transcript is another one without the redundant barriers. -/
structure Transcript.Eases (light full : Transcript) : Prop where
  /-- The barriers queued. -/
  pending : light.pending = essential full.pending
  /-- The barriers recorded. -/
  barriers : light.barriers = essential full.barriers
  /-- The labels are the same. -/
  labels : light.labels = full.labels

/-- Recording the queued barriers, of which there may be none. -/
theorem Transcript.apply_flush (transcript : Transcript) :
    (transcript.apply .flush).pending = [] ∧
      (transcript.apply .flush).barriers = transcript.barriers ++ transcript.pending ∧
      (transcript.apply .flush).labels = transcript.labels := by
  cases queued : transcript.pending with
  | nil => simp [apply, queued]
  | cons barrier rest => simp [apply, queued, Transcript.barriers]

namespace Transcript.Eases

variable {light full : Transcript}

/-- Both carry out a command, or the one leaves it out that queues a redundant barrier. -/
theorem apply (eases : light.Eases full) (command : Command) :
    (light.run (Command.essential [command])).Eases (full.apply command) := by
  obtain ⟨pending, barriers, labels⟩ := eases
  cases command with
  | barrier queued =>
    cases redundant : queued.isRedundant with
    | true =>
      have none : Command.essential [.barrier queued] = [] := by
        simp [Command.essential, Command.isRedundant, redundant]
      rw [none]
      refine ⟨?_, barriers, labels⟩
      simp [run, Transcript.apply, pending, essential, redundant]
    | false =>
      have same : Command.essential [.barrier queued] = [.barrier queued] := by
        simp [Command.essential, Command.isRedundant, redundant]
      rw [same]
      refine ⟨?_, barriers, labels⟩
      simp [run, Transcript.apply, pending, essential, redundant]
  | flush =>
    obtain ⟨lightPending, lightBarriers, lightLabels⟩ := light.apply_flush
    obtain ⟨fullPending, fullBarriers, fullLabels⟩ := full.apply_flush
    refine ⟨?_, ?_, ?_⟩
    · rw [fullPending]
      exact lightPending
    · rw [fullBarriers, Barrier.essential_append, ← barriers, ← pending]
      exact lightBarriers
    · rw [fullLabels, ← labels]
      exact lightLabels
  | label text =>
    refine ⟨pending, barriers, ?_⟩
    exact congrArg (· ++ [text]) labels

/-- A command buffer that gets the essential commands holds the essential barriers. -/
theorem run (eases : light.Eases full) (commands : List Command) :
    (light.run (Command.essential commands)).Eases (full.run commands) := by
  induction commands generalizing light full with
  | nil => exact eases
  | cons command rest ih =>
    have split : Command.essential (command :: rest) =
        Command.essential [command] ++ Command.essential rest :=
      Command.essential_append [command] rest
    rw [split, Transcript.run, List.foldl_append]
    exact ih (eases.apply command)

end Transcript.Eases

/-! ## Two runs side by side

The two scenes are run on the same acts. The relation between them is an equality up to redundant
barriers, and every act that is even in the sense above keeps it. -/

namespace Scene

/-- Whether an act is as good for a relaxed batch as for a strict one: it does not decide which it
is, and no redundant barrier is recorded by others. -/
def Act.Even : Act → Prop
  | .call _ (.setRelaxed _) => False
  | .record _ command => command.isRedundant = false
  | _ => True

/-- What is answered, of all that is to be seen. -/
def Sight.answered : Sight → Sight
  | .called answer _ _ => .called answer [] []
  | .tracked answer => .tracked answer
  | .nothing => .nothing

/-- A scene is another one without the redundant barriers. The trackers are the same, so that what
one batch publishes and reads, the other does. -/
structure Eases (light full : Scene) : Prop where
  /-- The batch is as it would be had it been relaxed all along. -/
  batch : light.batch = full.batch.eased
  /-- The tracker is the same. -/
  tracker : light.tracker = full.tracker
  /-- The command buffers hold the same barriers but for the redundant ones. -/
  contexts : ∀ context, (light.contexts context).Eases (full.contexts context)

variable {light full : Scene}

/-- The command buffers of two scenes stay as alike when both record what a call emits. -/
theorem Eases.recording (eases : light.Eases full) (context : Nat) (commands : List Command)
    (other : Nat) :
    (light.recording context (Command.essential commands) other).Eases
      (full.recording context commands other) := by
  unfold Scene.recording
  by_cases same : other = context
  · subst same
    rw [Function.update_self, Function.update_self]
    exact (eases.contexts other).run commands
  · rw [Function.update_of_ne same, Function.update_of_ne same]
    exact eases.contexts other

/-- One more act, done in both scenes. An act that is even either is a call, which comes to the
eased outcome, or is the same in both. -/
theorem Eases.next (eases : light.Eases full) {act : Act} (even : act.Even) :
    (light.next act).Eases (full.next act) ∧
      (light.see act).answered = (full.see act).answered := by
  obtain ⟨batch, tracker, contexts⟩ := eases
  -- Acts that are not calls do the same to both scenes, since the contexts get the same command.
  cases act with
  | call context call =>
    have turn : (light.turn call).Eases (full.turn call) := by
      unfold Scene.turn
      rw [batch, tracker]
      refine full.batch.eases_perform full.tracker ?_
      rintro relaxed rfl
      exact even
    refine ⟨⟨turn.batch, turn.tracker, fun other => ?_⟩, ?_⟩
    · have recorded := Eases.recording ⟨batch, tracker, contexts⟩ context (full.turn call).commands
      rw [← turn.commands] at recorded
      exact recorded other
    · simp only [see, Sight.answered, turn.answer]
  | reset id queue =>
    refine ⟨⟨?_, tracker, contexts⟩, rfl⟩
    show light.batch.reset id queue = (full.batch.reset id queue).eased
    rw [batch]
    rfl
  | track call =>
    refine ⟨⟨batch, ?_, contexts⟩, ?_⟩
    · simp only [Scene.next, tracker]
    · simp only [see, Sight.answered, tracker]
  | record context command =>
    refine ⟨⟨batch, tracker, fun other => ?_⟩, rfl⟩
    have same : Command.essential [command] = [command] := by
      have essential : command.isRedundant = false := even
      simp [Command.essential, essential]
    have recorded := Eases.recording ⟨batch, tracker, contexts⟩ context [command] other
    rw [same] at recorded
    exact recorded

/-- All acts, done in both scenes. -/
theorem Eases.run (eases : light.Eases full) {acts : List Act} (even : ∀ act ∈ acts, act.Even) :
    (light.run acts).Eases (full.run acts) ∧
      (light.watch acts).map Sight.answered = (full.watch acts).map Sight.answered := by
  induction acts generalizing light full with
  | nil => exact ⟨eases, rfl⟩
  | cons act rest ih =>
    rw [List.forall_mem_cons] at even
    obtain ⟨next, seen⟩ := eases.next even.1
    obtain ⟨ends, others⟩ := ih next even.2
    refine ⟨ends, ?_⟩
    show (light.see act).answered :: _ = (full.see act).answered :: _
    rw [seen, others]

/-- **Relaxed barriers are strict barriers without the redundant ones.** Take a batch nothing was
declared for, with any tracker and empty command buffers, and do the same things to it and its
surroundings twice, once as it is and once after it was made strict. All answers are the same, and
in the end so are the tracker and the batch, but for the mode and the redundant barriers among those
queued; and each command buffer holds the barriers of the strict run that are not redundant. -/
theorem relaxed_emits_essential (id : BatchId) (queue : Queue) (tracker : Tracker)
    (acts : List Act) (even : ∀ act ∈ acts, act.Even) :
    let start : Scene := ⟨.new id queue, tracker, fun _ => {}⟩
    let strict := start.next (.call 0 (.setRelaxed false))
    (start.watch acts).map Sight.answered = (strict.watch acts).map Sight.answered ∧
      (start.run acts).tracker = (strict.run acts).tracker ∧
      (start.run acts).batch.passages = (strict.run acts).batch.passages ∧
      (start.run acts).batch = (strict.run acts).batch.eased ∧
      ∀ context,
        ((start.run acts).contexts context).barriers =
            essential ((strict.run acts).contexts context).barriers ∧
          ((start.run acts).contexts context).pending =
            essential ((strict.run acts).contexts context).pending := by
  intro start strict
  have eases : start.Eases strict := by
    refine ⟨rfl, rfl, fun context => ?_⟩
    have same : strict.contexts = start.contexts := Function.update_eq_self 0 start.contexts
    rw [same]
    exact ⟨rfl, rfl, rfl⟩
  obtain ⟨ends, answers⟩ := eases.run even
  refine ⟨answers, ends.tracker, ?_, ends.batch, fun context => ?_⟩
  · rw [ends.batch]
    rfl
  · exact ⟨(ends.contexts context).barriers, (ends.contexts context).pending⟩

/-- A buffer that shaders write twice and a copy reads, each time in the same task. -/
def stored : Key := ⟨.buffer, ⟨0⟩⟩

/-- What shaders write in a row takes a barrier only if the batch is strict. -/
theorem relaxed_emits_essential_storing :
    let acts : List Act :=
      [.call 0 (.use stored .shaderReadWrite .shaderReadWrite), .call 0 .createTask,
        .call 0 (.beginTask 0 false), .call 0 (.report 0 stored .shaderReadWrite),
        .call 0 (.report 0 stored .copySrc), .call 0 (.finish 0)]
    let strict := bare.next (.call 0 (.setRelaxed false))
    ((strict.run acts).contexts 0).barriers =
        [Barrier.resource stored .shaderReadWrite .shaderReadWrite,
          Barrier.resource stored .shaderReadWrite .copySrc,
          Barrier.resource stored .copySrc .shaderReadWrite] ∧
      ((bare.run acts).contexts 0).barriers =
        [Barrier.resource stored .shaderReadWrite .copySrc,
          Barrier.resource stored .copySrc .shaderReadWrite] := by
  intro acts strict
  have all : ((strict.run acts).contexts 0).barriers =
      [Barrier.resource stored .shaderReadWrite .shaderReadWrite,
        Barrier.resource stored .shaderReadWrite .copySrc,
        Barrier.resource stored .copySrc .shaderReadWrite] := by
    decide +kernel
  have even : ∀ act ∈ acts, act.Even := by simp [acts, Act.Even]
  obtain ⟨-, -, -, -, contexts⟩ :=
    relaxed_emits_essential ⟨0, 0⟩ .graphics .empty acts even
  refine ⟨all, (contexts 0).1.trans ?_⟩
  exact (congrArg essential all).trans (by decide)

end Scene

end GpuSync
