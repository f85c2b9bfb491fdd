import GpuSync.Proofs.Batch.Compound
import GpuSync.Proofs.Batch.Publication

/-!
# Batches that are committed

Committing a batch publishes what it promises: the usage in which it leaves each of its resources.
From then on no task is created and the batch is not committed again, but no other call looks at
whether the batch was committed.

* `Batch.sealed` is a batch, committed. `Batch.perform_sealed` and `Batch.perform_of_committed` say
  which calls that makes a difference to, and `Batch.run_sealed` what becomes of a run.
* `Batch.promise?` is what a batch promises. `Batch.Vows` lists what a call may do to that, and
  `Batch.perform_vows` says that there is nothing else.
* `Batch.Settled`: no declaration is accepted any more. A committed batch stays so
  (`Batch.settled_run`).
* **`Batch.promises_after_commit`** puts this together for all runs. It leaves room for promises
  that are never published: `Batch.promised_after_commit` is one.
-/

namespace GpuSync.Batch

/-! ## What a commit closes

Two operations look at the mark of the commit, which are another commit and the creation of a task.
Each of the other operations is shown not to look, by going through with the mark set and not set.
-/

/-- The batch, committed. -/
def sealed (batch : Batch) : Batch := { batch with committed := true }

/-- The outcome of an operation, with the batch committed. -/
def Outcome.sealed {α : Type} (outcome : Outcome α) : Outcome α :=
  { outcome with batch := outcome.batch.sealed }

/-- What a call comes to, with the batch committed. -/
def Turn.sealed (turn : Turn) : Turn := { turn with batch := turn.batch.sealed }

/-- Whether a call looks at whether the batch was committed. -/
def Call.looks : Call → Bool
  | .createTask | .commit => true
  | _ => false

/-- Operations that check the same condition seal branch by branch. -/
theorem Outcome.sealed_ite {α : Type} {condition : Prop} [Decidable condition]
    {yes no yes' no' : Outcome α} (same : yes' = yes.sealed) (same' : no' = no.sealed) :
    (if condition then yes' else no') = (if condition then yes else no).sealed := by
  split
  · exact same
  · exact same'

open Outcome (sealed_ite)

section

variable (batch : Batch) (tracker : Tracker) (task : Nat) (key : Key)

/-- A seal leaves the passages alone. -/
@[simp] theorem passages_sealed : batch.sealed.passages = batch.passages := rfl

/-- A seal leaves the tasks alone. -/
@[simp] theorem scopes_sealed : batch.sealed.scopes = batch.scopes := rfl

/-- A seal leaves the mark of the last task alone. -/
@[simp] theorem lastTask_sealed : batch.sealed.lastTask = batch.lastTask := rfl

/-- Whether a task can be recorded does not depend on the seal. -/
@[simp] theorem begunScope_sealed : batch.sealed.begunScope task = batch.begunScope task := rfl

/-- A resource is used in a committed batch as in an open one. Nothing here asks whether it was
committed. -/
theorem use_sealed (initial final : Usage) :
    batch.sealed.use tracker key initial final = (batch.use tracker key initial final).sealed := by
  unfold use
  refine sealed_ite rfl ?_
  rw [passages_sealed]
  cases batch.passages.find? key with
  | some passage => exact sealed_ite rfl rfl
  | none => exact sealed_ite rfl rfl

/-- So are several of them, one after the other. -/
theorem useMany_sealed (uses : List (Key × Usage × Usage)) :
    batch.sealed.useMany tracker uses = (batch.useMany tracker uses).sealed := by
  induction uses generalizing batch with
  | nil => rfl
  | cons use rest ih =>
    obtain ⟨key, initial, final⟩ := use
    rw [useMany, useMany, use_sealed]
    dsimp only [Outcome.sealed]
    cases (batch.use tracker key initial final).answer with
    | error reason => rfl
    | ok passage =>
      dsimp only
      rw [ih]
      rfl

/-- A resource is declared for a task of a committed batch as of an open one. Here, too, nothing
asks. -/
theorem declare_sealed (initial final : Usage) :
    batch.sealed.declare tracker task key initial final =
      (batch.declare tracker task key initial final).sealed := by
  unfold declare
  rw [scopes_sealed, passages_sealed]
  refine sealed_ite rfl (sealed_ite rfl ?_)
  cases batch.scopes[task]? with
  | none => rfl
  | some scope =>
    refine sealed_ite rfl (sealed_ite rfl ?_)
    cases batch.passages.find? key with
    | some passage => rfl
    | none => exact sealed_ite rfl rfl

/-- So it is with the usages by default. -/
theorem declareDefault_sealed :
    batch.sealed.declareDefault tracker task key =
      (batch.declareDefault tracker task key).sealed := by
  unfold declareDefault
  rw [passages_sealed]
  cases batch.passages.find? key with
  | some passage => exact batch.declare_sealed ..
  | none =>
    cases tracker.lookup key with
    | some entry => exact batch.declare_sealed ..
    | none => exact batch.declare_sealed ..

/-- The last task is marked in a committed batch as in an open one. -/
theorem markLast_sealed : batch.sealed.markLast task = (batch.markLast task).sealed := by
  unfold markLast
  rw [lastTask_sealed]
  cases batch.lastTask with
  | none => rfl
  | some other => rfl

/-- A task is begun in a committed batch as in an open one. -/
theorem beginTask_sealed (last : Bool) :
    batch.sealed.beginTask task last = (batch.beginTask task last).sealed := by
  rw [beginTask_eq, beginTask_eq]
  unfold enterTask
  rw [scopes_sealed, markLast_sealed]
  refine sealed_ite rfl ?_
  cases batch.scopes[task]? with
  | none => rfl
  | some scope =>
    refine sealed_ite rfl ?_
    cases last <;> rfl

/-- A report is taken in a committed batch as in an open one. -/
theorem report_sealed (usage : Usage) :
    batch.sealed.report tracker task key usage = (batch.report tracker task key usage).sealed := by
  unfold report
  rw [begunScope_sealed]
  cases batch.begunScope task with
  | error error => rfl
  | ok scope =>
    dsimp only
    cases scope.uses.find? key with
    | some use => rfl
    | none => exact sealed_ite rfl (sealed_ite rfl rfl)

/-- A discard is taken in a committed batch as in an open one. -/
theorem discard_sealed : batch.sealed.discard task key = (batch.discard task key).sealed := by
  unfold discard
  rw [begunScope_sealed]
  cases batch.begunScope task with
  | error error => rfl
  | ok scope =>
    dsimp only
    cases scope.uses.find? key <;> rfl

/-- An override is taken in a committed batch as in an open one. -/
theorem override_sealed (usage : Usage) :
    batch.sealed.override tracker task key usage =
      (batch.override tracker task key usage).sealed := by
  unfold override
  rw [begunScope_sealed]
  cases batch.begunScope task with
  | error error => rfl
  | ok scope =>
    dsimp only
    cases scope.uses.find? key with
    | some use => rfl
    | none => exact sealed_ite rfl rfl

/-- Memory is read back in a committed batch as in an open one. -/
theorem readback_sealed : batch.sealed.readback task = (batch.readback task).sealed :=
  sealed_ite rfl (sealed_ite rfl rfl)

/-- Memory is uploaded in a committed batch as in an open one. -/
theorem upload_sealed (dst : Usage) :
    batch.sealed.upload task dst = (batch.upload task dst).sealed :=
  sealed_ite rfl (sealed_ite rfl rfl)

/-- A task is finished in a committed batch as in an open one. -/
theorem finish_sealed : batch.sealed.finish task = (batch.finish task).sealed := by
  unfold finish
  rw [begunScope_sealed]
  cases batch.begunScope task with
  | error error => rfl
  | ok scope => rfl

end

/-- What holds of the outcome of an operation holds of the turn of the call for it. -/
theorem Outcome.turn_sealed {α : Type} {outcome outcome' : Outcome α}
    (same : outcome' = outcome.sealed) (tracker : Tracker) (reply : α → Reply) :
    outcome'.turn tracker reply = (outcome.turn tracker reply).sealed := by
  subst same
  rfl

/-- **No other call looks at whether the batch was committed.** It answers and records the same as
in the open batch, and leaves the same batch but for the mark. -/
theorem perform_sealed (batch : Batch) (tracker : Tracker) {call : Call}
    (blind : call.looks = false) :
    batch.sealed.perform tracker call = (batch.perform tracker call).sealed := by
  cases call with
  | use key initial final => exact Outcome.turn_sealed (batch.use_sealed ..) tracker _
  | useAtRest key => exact Outcome.turn_sealed (batch.use_sealed ..) tracker _
  | useTargets targets => exact Outcome.turn_sealed (batch.useMany_sealed ..) tracker _
  | uploadMemory | readbackMemory | setRelaxed relaxed => rfl
  | createTask | commit => cases blind
  | declare task key initial final =>
    exact Outcome.turn_sealed (batch.declare_sealed ..) tracker _
  | declareDefault task key => exact Outcome.turn_sealed (batch.declareDefault_sealed ..) tracker _
  | markLast task => exact Outcome.turn_sealed (batch.markLast_sealed ..) tracker _
  | beginTask task last => exact Outcome.turn_sealed (batch.beginTask_sealed ..) tracker _
  | report task key usage => exact Outcome.turn_sealed (batch.report_sealed ..) tracker _
  | discard task key => exact Outcome.turn_sealed (batch.discard_sealed ..) tracker _
  | override task key usage => exact Outcome.turn_sealed (batch.override_sealed ..) tracker _
  | isIn task key usage => rfl
  | readback task => exact Outcome.turn_sealed (batch.readback_sealed ..) tracker _
  | upload task dst => exact Outcome.turn_sealed (batch.upload_sealed ..) tracker _
  | finish task => exact Outcome.turn_sealed (batch.finish_sealed ..) tracker _

/-- The calls that look at it are refused. -/
theorem perform_of_committed {batch : Batch} (done : batch.committed = true) (tracker : Tracker)
    {call : Call} (looks : call.looks = true) :
    batch.perform tracker call =
      ⟨.error (.alreadyCommitted batch.id), batch, tracker, [], []⟩ := by
  cases call with
  | createTask =>
    show batch.createTask.turn tracker .task = _
    unfold createTask
    dsimp only
    rw [if_pos done]
    rfl
  | commit => exact congrArg Commit.turn (commit_of_committed done tracker)
  | _ => cases looks

/-! ## Promises

The promise of a batch for a resource is the final usage in its table. An accepted declaration makes
one, and nothing else changes it: recording moves what is reached, not what is promised. -/

/-- The usage in which the batch leaves a resource, if it is one of the batch. -/
def promise? (batch : Batch) (key : Key) : Option Usage := (batch.passage? key).map (·.final)

/-- Whether a call declares a resource, by itself or among others. -/
def Call.declares (key : Key) : Call → Bool
  | .use on _ _ | .useAtRest on | .declare _ on _ _ | .declareDefault _ on => on == key
  | .useTargets targets => targets.any fun target => (⟨.image, target⟩ : Key) == key
  | _ => false

section

variable {tracker : Tracker} {batch after : Batch} {call : Call} {key : Key}
  {answer : Except BatchError Reply} {commands : List Command}

/-- Entering a passage makes its promise, and no other. -/
theorem promise?_of_insert {on : Key} {passage : Passage}
    (entered : after.passages = batch.passages.insert on passage) (key : Key) :
    after.promise? key = if key = on then some passage.final else batch.promise? key := by
  unfold promise? passage?
  rw [entered, KeyTable.find?_insert]
  split <;> rfl

/-- Where a declaration is accepted that makes a promise: for the whole batch as long as it has no
tasks, and for the newest task, before that has begun, of a resource new to the batch. -/
def Admits (batch : Batch) (key : Key) : Call → Prop
  | .use .. | .useAtRest _ | .useTargets _ => batch.scopes = []
  | .declare task .. | .declareDefault task _ =>
    batch.scopes.length = task + 1 ∧ batch.isBegun task = false ∧ batch.promise? key = none
  | _ => False

/-- What a call may do to a promise: it leaves it, or it is a declaration that makes it. -/
def Vows (batch : Batch) (call : Call) (after : Batch) (key : Key) : Prop :=
  after.promise? key = batch.promise? key ∨
    call.declares key = true ∧ (∃ final, after.promise? key = some final) ∧ batch.Admits key call

/-- A declaration that writes one passage makes a promise for that resource and leaves the others.
-/
theorem vows_of_insert {on : Key} {passage : Passage}
    (entered : after.passages = batch.passages.insert on passage)
    (declares : call.declares on = true) (admits : batch.Admits on call) (key : Key) :
    Vows batch call after key := by
  have made := promise?_of_insert entered key
  by_cases own : key = on
  · subst own
    exact .inr ⟨declares, ⟨passage.final, made.trans (if_pos rfl)⟩, admits⟩
  · exact .inl (made.trans (if_neg own))

/-- **What one call promises**, if it is not made of others. Each declaration makes the promise that
it names, and it makes it only where it is accepted. -/
theorem Effect.vows (effect : Effect tracker batch call answer after commands) (key : Key) :
    Vows batch call after key ∧
      (answer.toBool = false → after.promise? key = batch.promise? key) := by
  -- three cases enter a passage, two change one but not its promise, and the others do neither
  cases effect with
  | refused => exact ⟨.inl rfl, fun _ => rfl⟩
  | @redeclared on initial final _ unstarted | @declared on initial final unstarted =>
    have admits : batch.Admits on (.use on initial final) := unstarted
    exact ⟨vows_of_insert rfl (by simp [Call.declares]) admits key, nofun⟩
  | @introduced task on initial final scope newest found unbegun fresh unknown room =>
    have idle : batch.isBegun task = false := by
      unfold isBegun
      rw [found]
      exact unbegun
    have admits : batch.Admits on (.declare task on initial final) :=
      ⟨newest, idle, congrArg (Option.map _) unknown⟩
    exact ⟨vows_of_insert rfl (by simp [Call.declares]) admits key, nofun⟩
  -- A task that joins changes where the resource is for the next one, not where the batch leaves
  -- it.
  | @joined task on initial final scope passage newest found unbegun fresh known =>
    refine ⟨.inl ((promise?_of_insert rfl key).trans ?_), nofun⟩
    split
    case isTrue own =>
      subst own
      show some passage.final = (batch.passages.find? key).map (·.final)
      rw [known]
      rfl
    case isFalse => rfl
  | ended =>
    refine ⟨.inl ?_, nofun⟩
    unfold promise? passage?
    dsimp only
    split
    case isTrue =>
      rw [KeyTable.find?_map, Option.map_map]
      rfl
    case isFalse => rfl
  | _ => exact ⟨.inl rfl, fun _ => rfl⟩

/-- Several declarations make promises of the resources that are declared, if the batch has no
tasks. -/
theorem useMany_vows (batch : Batch) (tracker : Tracker) (uses : List (Key × Usage × Usage))
    (key : Key) :
    (batch.useMany tracker uses).batch.promise? key = batch.promise? key ∨
      key ∈ uses.map (·.1) ∧
      (∃ final, (batch.useMany tracker uses).batch.promise? key = some final) ∧
      batch.scopes = [] := by
  induction uses generalizing batch with
  | nil => exact .inl rfl
  | cons use rest ih =>
    obtain ⟨on, initial, final⟩ := use
    have one : (batch.use tracker on initial final).batch.promise? key = batch.promise? key ∨
        key ∈ on :: rest.map (·.1) ∧
        (∃ left, (batch.use tracker on initial final).batch.promise? key = some left) ∧
        batch.scopes = [] := by
      have effect : Effect tracker batch _ _ _ _ := .of_use on initial final
      obtain ⟨same | ⟨declares, made, admits⟩, -⟩ := effect.vows key
      · exact .inl same
      · have own : key = on := (beq_iff_eq.1 declares).symm
        exact .inr ⟨own ▸ List.mem_cons_self, made, admits⟩
    obtain ⟨scopes, -⟩ := batch.use_keeps tracker on initial final
    unfold useMany
    dsimp only
    cases (batch.use tracker on initial final).answer with
    | error reason => exact one
    | ok passage =>
      rcases ih (batch.use tracker on initial final).batch with same | ⟨mem, made, unstarted⟩
      · rw [same]
        exact one
      · exact .inr ⟨List.mem_cons_of_mem _ mem, made, scopes ▸ unstarted⟩

/-- **What any call promises.** If it is refused and not several declarations, it promises
nothing. -/
theorem perform_vows (batch : Batch) (tracker : Tracker) (call : Call) (key : Key) :
    Vows batch call (batch.perform tracker call).batch key ∧
      ((∀ targets, call ≠ .useTargets targets) →
        (batch.perform tracker call).answer.toBool = false →
          (batch.perform tracker call).batch.promise? key = batch.promise? key) := by
  by_cases several : ∃ targets, call = .useTargets targets
  · obtain ⟨targets, rfl⟩ := several
    refine ⟨?_, fun single => absurd rfl (single targets)⟩
    obtain same | ⟨mem, made, unstarted⟩ := batch.useMany_vows tracker _ key
    · exact .inl same
    · rw [List.map_map] at mem
      obtain ⟨target, mem, own⟩ := List.mem_map.1 mem
      exact .inr ⟨List.any_eq_true.2 ⟨target, mem, beq_iff_eq.2 own⟩, made, unstarted⟩
  · have single : ∀ targets, call ≠ .useTargets targets := fun targets is => several ⟨targets, is⟩
    obtain ⟨basic, stands, same⟩ := exists_standsFor batch tracker single
    have vows := (perform_effect batch tracker stands.isBasic).vows key
    rw [same]
    refine ⟨?_, fun _ => vows.2⟩
    cases stands with
    | self | atRest | default => exact vows.1

/-! ## Committed batches

A commit alone does not end declarations, for they look at the tasks and not at the mark. What ends
them is that the newest task has begun, as no newer one can be created after a commit. -/

/-- A committed batch stays committed and gets no more tasks. The creation of a task is refused from
then on, which is what closes the batch. -/
theorem perform_closed (done : batch.committed = true) (tracker : Tracker) (call : Call) :
    let after := (batch.perform tracker call).batch
    after.committed = true ∧ after.scopes.length = batch.scopes.length := by
  refine perform_induction (R := fun after _ => after.committed = true ∧
    after.scopes.length = batch.scopes.length) tracker ⟨done, rfl⟩ ?_ call
  intro mid after call answer commands ⟨done, length⟩ effect
  refine ⟨?_, ?_⟩
  · cases effect with
    | committed => rfl
    | _ => exact done
  · cases effect with
    | created open' =>
      rw [done] at open'
      cases open'
    | _ => first | exact length | simpa [setScope, setUse] using length

/-- Nothing can be declared any more: there is a newest task, and it has begun. It is a property of
the batch that no call takes back once the batch is committed. -/
def Settled (batch : Batch) : Prop :=
  ∃ task, batch.scopes.length = task + 1 ∧ batch.isBegun task = true

namespace Settled

/-- A batch in which nothing can be declared any more has tasks. -/
theorem started (h : batch.Settled) : batch.scopes ≠ [] := by
  obtain ⟨task, newest, -⟩ := h
  intro none
  rw [none] at newest
  cases newest

/-- Once the newest task has begun, no declaration is accepted that makes a promise. -/
theorem not_admits (h : batch.Settled) (key : Key) (call : Call) : ¬ batch.Admits key call := by
  have started := h.started
  obtain ⟨task, newest, begun⟩ := h
  intro admits
  cases call with
  | use | useAtRest | useTargets => exact started admits
  | declare other | declareDefault other =>
    obtain ⟨newest', unbegun, -⟩ := admits
    cases Nat.succ.inj (newest.symm.trans newest')
    rw [begun] at unbegun
    cases unbegun
  | _ => exact admits

/-- No call makes a promise. -/
theorem promise?_perform (h : batch.Settled) (tracker : Tracker) (call : Call) (key : Key) :
    (batch.perform tracker call).batch.promise? key = batch.promise? key := by
  obtain ⟨same | ⟨-, -, admits⟩, -⟩ := batch.perform_vows tracker call key
  · exact same
  · exact absurd admits (h.not_admits key call)

/-- Nothing is declared for the whole batch. -/
theorem use_eq (h : batch.Settled) (tracker : Tracker) (key : Key) (initial final : Usage) :
    batch.use tracker key initial final = batch.refuse (.alreadyStarted batch.id) [] := by
  have started : batch.isStarted = true := by
    unfold isStarted
    rw [List.isEmpty_eq_false_iff.2 h.started]
    rfl
  unfold use
  exact if_pos started

/-- Nothing is declared for a task. -/
theorem declare_refuses (h : batch.Settled) (tracker : Tracker) (task : Nat) (key : Key)
    (initial final : Usage) :
    ∃ error, (batch.perform tracker (.declare task key initial final)).answer = .error error := by
  obtain ⟨last, newest, begun⟩ := h
  obtain ⟨scope, found, begun⟩ := isBegun_eq_true.1 begun
  show ∃ error, (batch.declare tracker task key initial final).answer.map Reply.taskUse = _
  unfold declare
  split
  · exact ⟨_, rfl⟩
  split
  · exact ⟨_, rfl⟩
  rename_i same
  have same : last = task := Nat.succ.inj (newest.symm.trans (not_not.1 same))
  rw [← same, found]
  dsimp only
  rw [if_pos begun]
  exact ⟨_, rfl⟩

/-- Every declaration is refused. -/
theorem refuses (h : batch.Settled) (tracker : Tracker) (declares : call.declares key = true) :
    ∃ error, (batch.perform tracker call).answer = .error error := by
  cases call with
  | use on initial final =>
    exact ⟨_, congrArg (fun outcome : Outcome Passage => outcome.answer.map Reply.passage)
      (h.use_eq tracker on initial final)⟩
  | useAtRest on =>
    exact ⟨_, congrArg (fun outcome : Outcome Passage => outcome.answer.map Reply.passage)
      (h.use_eq tracker on _ _)⟩
  | useTargets targets =>
    cases targets with
    | nil => cases declares
    | cons target rest =>
      show ∃ error, (batch.useTargets tracker (target :: rest)).answer.map (fun _ => Reply.done) = _
      unfold useTargets
      rw [List.map_cons, useMany, h.use_eq tracker]
      exact ⟨_, rfl⟩
  | declare task on initial final => exact h.declare_refuses tracker task on initial final
  | declareDefault task on =>
    obtain ⟨initial, final, same⟩ := exists_perform_declareDefault batch tracker task on
    rw [same]
    exact h.declare_refuses tracker task on initial final
  | _ => cases declares

/-- A committed batch in which nothing can be declared stays so. -/
theorem perform (h : batch.Settled) (done : batch.committed = true) (tracker : Tracker)
    (call : Call) : (batch.perform tracker call).batch.Settled := by
  obtain ⟨task, newest, begun⟩ := h
  obtain ⟨-, length⟩ := perform_closed done tracker call
  exact ⟨task, length.trans newest, isBegun_perform begun tracker call⟩

end Settled

end

/-! ## Runs

A run after a commit is compared with the same run without it. The calls that look at the mark are
refused and change nothing, so they can be left out of the other run. -/

/-- A declaration of a resource that may have counted: one that was accepted, or several, of which
those before the refused one count. -/
def Event.MayDeclare (key : Key) (event : Event) : Prop :=
  event.call.declares key = true ∧
    (event.accepted = true ∨ ∃ targets, event.call = .useTargets targets)

/-- Without declarations of a resource that count, its promise stays. -/
theorem promise?_run (batch : Batch) (calls : List (Tracker × Call)) (key : Key)
    (none : ∀ event ∈ (batch.run calls).log, ¬ event.MayDeclare key) :
    (batch.run calls).batch.promise? key = batch.promise? key := by
  induction calls using List.reverseRecOn with
  | nil => rfl
  | append_singleton calls call ih =>
    rw [run_append] at none ⊢
    have earlier := ih fun event mem => none event (List.mem_append_left _ mem)
    refine Eq.trans ?_ earlier
    have last := none _ (List.mem_append_right _ List.mem_cons_self)
    obtain ⟨same | ⟨declares, -, -⟩, refused⟩ :=
      (batch.run calls).batch.perform_vows call.1 call.2 key
    · exact same
    · refine refused (fun targets is => last ⟨declares, .inr ⟨targets, is⟩⟩) ?_
      exact eq_false_of_ne_true fun accepted => last ⟨declares, .inl accepted⟩

/-- A committed batch goes the way it would have gone had it not been committed, but for the calls
that look at that. -/
theorem run_sealed (batch : Batch) (calls : List (Tracker × Call)) :
    let blind := calls.filter fun call => !call.2.looks
    (batch.sealed.run calls).batch = (batch.run blind).batch.sealed ∧
      (batch.sealed.run calls).log.filter (fun event => !event.call.looks) =
        (batch.run blind).log := by
  induction calls using List.reverseRecOn with
  | nil => exact ⟨rfl, rfl⟩
  | append_singleton calls call ih =>
    obtain ⟨tracker, call⟩ := call
    obtain ⟨same, logged⟩ := ih
    dsimp only
    rw [run_append, List.filter_append]
    -- A call that looks at the mark is refused and leaves the committed batch as it is. Any other
    -- one does the same in both.
    cases looks : call.looks with
    | true =>
      have done : (batch.sealed.run calls).batch.committed = true := by
        rw [same]
        rfl
      have refused := perform_of_committed done tracker looks
      rw [List.filter_cons_of_neg (by simp [looks]), List.filter_nil, List.append_nil]
      refine ⟨(congrArg Turn.batch refused).trans same, ?_⟩
      show List.filter _ (_ ++ [_]) = _
      rw [List.filter_append, List.filter_cons_of_neg (by simp [looks]), List.filter_nil,
        List.append_nil, logged]
    | false =>
      have goes := perform_sealed (batch.run (calls.filter fun call => !call.2.looks)).batch tracker
        looks
      rw [List.filter_cons_of_pos (by simp [looks]), List.filter_nil, run_append]
      unfold Run.next
      dsimp only
      rw [same, goes, List.filter_append, logged, List.filter_cons_of_pos (by simp [looks])]
      exact ⟨rfl, rfl⟩

/-- A committed batch stays committed in all runs, and gets no more tasks. -/
theorem closed_run {batch : Batch} (done : batch.committed = true)
    (calls : List (Tracker × Call)) :
    (batch.run calls).batch.committed = true ∧
      (batch.run calls).batch.scopes.length = batch.scopes.length := by
  induction calls using List.reverseRecOn with
  | nil => exact ⟨done, rfl⟩
  | append_singleton calls call ih =>
    rw [run_append]
    obtain ⟨done, length⟩ := perform_closed ih.1 call.1 call.2
    exact ⟨done, length.trans ih.2⟩

/-- A committed batch in which nothing can be declared stays so in all runs, and keeps its
promises. -/
theorem settled_run {batch : Batch} (h : batch.Settled) (done : batch.committed = true)
    (calls : List (Tracker × Call)) :
    (batch.run calls).batch.Settled ∧
      ∀ key, (batch.run calls).batch.promise? key = batch.promise? key := by
  induction calls using List.reverseRecOn with
  | nil => exact ⟨h, fun _ => rfl⟩
  | append_singleton calls call ih =>
    obtain ⟨settled, same⟩ := ih
    rw [run_append]
    exact ⟨settled.perform (closed_run done calls).1 call.1 call.2, fun key =>
      (settled.promise?_perform call.1 call.2 key).trans (same key)⟩

/-- **What a commit closes.** Take a batch after any calls without a commit, a tracker after any
calls, and any calls after the batch is committed.

The commit publishes all promises of the batch and changes none. From then on there are no more
tasks; creating one and committing again are refused, and every other call goes as if there had been
no commit, so a declaration is still accepted where it was before. A promise changes only with one
of them: of a resource for the whole batch, if it has no tasks, or of one new to the batch for the
newest task, if that has not begun. Such a promise is published to nobody.

Once the newest task has begun, nothing can be declared: every declaration is refused, and the
promises stay those that they are. -/
theorem promises_after_commit (id : BatchId) (queue : Queue)
    (before later : List (Tracker × Call)) (trackerCalls : List Tracker.Call)
    (first : ∀ earlier ∈ before, earlier.2 ≠ .commit) :
    let batch := ((new id queue).run before).batch
    let tracker := (Tracker.runWith Tracker.perform .empty trackerCalls).2
    let run := (batch.perform tracker .commit).batch.run later
    let blind := later.filter fun call => !call.2.looks
    (Publishes batch ⟨id, queue⟩ tracker ∧
      ∀ key, (batch.perform tracker .commit).batch.promise? key = batch.promise? key) ∧
    (run.batch.scopes.length = batch.scopes.length ∧
      run.batch = (batch.run blind).batch.sealed ∧
      run.log.filter (fun event => !event.call.looks) = (batch.run blind).log ∧
      ∀ (met : Tracker) (call : Call), call.looks = true →
        run.batch.perform met call = ⟨.error (.alreadyCommitted id), run.batch, met, [], []⟩) ∧
    (∀ key, (∀ event ∈ run.log, ¬ event.MayDeclare key) →
      run.batch.promise? key = batch.promise? key) ∧
    (∀ met call key, Vows run.batch call (run.batch.perform met call).batch key) ∧
    (run.batch.Settled → ∀ (more : List (Tracker × Call)) (key : Key),
      let last := (run.batch.run more).batch
      last.promise? key = run.batch.promise? key ∧
        ∀ (met : Tracker) (call : Call), call.declares key = true →
          ∃ error, (last.perform met call).answer = .error error) := by
  intro batch tracker run blind
  have wellFormed : tracker.WellFormed :=
    (Tracker.represents_empty.runWith trackerCalls).2.wellFormed
  have user : batch.user = ⟨id, queue⟩ := user_run (new id queue) before
  have open' : batch.committed = false := by
    refine eq_false_of_ne_true fun done => ?_
    obtain ⟨earlier, mem, commits⟩ := (committed_run id queue before).1 done
    exact first earlier mem commits
  have closed : (batch.perform tracker .commit).batch = batch.sealed := by
    show (batch.commit tracker).batch = _
    rw [commit_batch]
    rfl
  have same : run = batch.sealed.run later := congrArg (Batch.run · later) closed
  have done : batch.sealed.committed = true := rfl
  obtain ⟨goes, logged⟩ := batch.run_sealed later
  obtain ⟨done', length⟩ := closed_run done later
  rw [same, closed]
  refine ⟨⟨user ▸ publishes_of_open batch wellFormed open', fun _ => rfl⟩,
    ⟨length, goes, logged, fun met call looks => ?_⟩, fun key none => ?_, ?_, ?_⟩
  · have known : (batch.sealed.run later).batch.user = ⟨id, queue⟩ :=
      (user_run batch.sealed later).trans user
    have refused := perform_of_committed done' met looks
    rwa [show (batch.sealed.run later).batch.id = id from congrArg BatchUse.batch known] at refused
  · exact batch.sealed.promise?_run later key none
  · intro met call key
    exact (perform_vows _ met call key).1
  · intro settled more key last
    obtain ⟨settled', promises⟩ := settled_run settled done' more
    exact ⟨promises key, fun met call declares => settled'.refuses met declares⟩

/-- A batch that is committed without anything promises a buffer afterwards, and nobody hears. -/
theorem promised_after_commit :
    let key : Key := ⟨.buffer, ⟨0⟩⟩
    let turn := (new ⟨0, 0⟩ .graphics).perform .empty .commit
    let late := turn.batch.perform turn.tracker (.use key .copyDst .shaderRead)
    turn.answer = .ok (.updated 0) ∧
      (turn.batch.perform turn.tracker .createTask).answer = .error (.alreadyCommitted ⟨0, 0⟩) ∧
      late.answer = .ok (.passage ⟨.copyDst, .shaderRead, .copyDst⟩) ∧
      turn.batch.promise? key = none ∧ late.batch.promise? key = some .shaderRead ∧
      (late.batch.perform turn.tracker .commit).answer = .error (.alreadyCommitted ⟨0, 0⟩) := by
  decide +kernel

/-- A batch with a task that has begun promises nothing more once it is committed. -/
theorem promises_after_commit_begun :
    let key : Key := ⟨.buffer, ⟨0⟩⟩
    let before : List (Tracker × Call) :=
      [(.empty, .use key .copyDst .shaderRead), (.empty, .createTask),
        (.empty, .beginTask 0 true)]
    let closed := (((new ⟨0, 0⟩ .graphics).run before).batch.perform .empty .commit).batch
    let late : List (Tracker × Call) :=
      [(.empty, .use key .copyDst .general),
        (.empty, .declare 0 ⟨.buffer, ⟨1⟩⟩ .general .general), (.empty, .finish 0)]
    closed.promise? key = some .shaderRead ∧ ∀ other,
      (closed.run late).batch.promise? other = closed.promise? other := by
  intro key before closed late
  have first : ∀ earlier ∈ before, earlier.2 ≠ .commit := by decide +kernel
  have settled : closed.Settled := ⟨0, by decide +kernel, by decide +kernel⟩
  obtain ⟨-, -, -, -, stays⟩ := promises_after_commit ⟨0, 0⟩ .graphics before [] [] first
  exact ⟨by decide +kernel, fun other => (stays settled late other).1⟩

end GpuSync.Batch
