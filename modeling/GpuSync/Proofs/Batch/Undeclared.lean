import GpuSync.Proofs.Batch.Handover
import GpuSync.Proofs.Batch.Hazards
import GpuSync.Proofs.Batch.Publication

/-!
# Resources that nobody declared

A task may use a resource that it does not know as it begins. The task takes it from its rest as it
first reports it in a usage that counts, and returns it there as it is finished, so that nobody else
has to know. This is so in a strict batch as well as in a relaxed one, and in the last task as in
any other.

* `Visits.comes` and `Visits.path` are what a report does to such a resource, and what every call
  after it does; neither looks at whether the batch is relaxed.
* `FirstTouches` points out the report by which the task gets to know the resource, and `Undeclared`
  is what holds before it and from then on (`undeclared_run`). `LeadsAlong` is that the barriers
  follow the reports.
* `Effect.keeps_aside`: recording a task leaves the other tasks alone, and which resources the
  batch knows.
* **`undeclared_use_transparent`** puts this together, for all calls that may come between the
  beginning of the task and its finish.
-/

namespace GpuSync.Batch

section

variable {tracker : Tracker} {batch after : Batch} {call : Call} {task : Nat} {key : Key}
  {known : Option TaskUse}

/-! ## One call

As long as the task does not know the resource, nothing but a report can make it known. From then on
the resource goes on by legs, and the usage in which it has to be left is its rest and stays so. -/

/-- A resource that the task knows goes on from where it is, to be left where it was to be left. -/
theorem Visits.path {use : TaskUse} {barriers : List Barrier} {left : Option TaskUse}
    (visits : Visits tracker batch task key call (some use) barriers left)
    (within : call.recorded? = some task → call.Within) :
    ∃ next, left = some next ∧ next.final = use.final ∧
      Path key use.current barriers next.current := by
  cases visits with
  | elsewhere => exact ⟨use, rfl, rfl, .refl key use.current⟩
  | moved => exact ⟨_, rfl, rfl, path_transition batch key _ _ _⟩
  | discarded => exact ⟨_, rfl, rfl, .refl key use.current⟩
  | overridden | ended => exact (within rfl).elim

/-- A resource that the task does not know stays away, or comes from its rest. -/
theorem Visits.comes {barriers : List Barrier} {left : Option TaskUse}
    (visits : Visits tracker batch task key call none barriers left)
    (within : call.recorded? = some task → call.Within) :
    (left = none ∧ barriers = []) ∨
      ∃ usage, call = .report task key usage ∧ (key.isImage = true ∨ usage.readOnly = false) ∧
        left = some ⟨usage, (tracker.restingUsage key).1, false⟩ ∧
        Path key (tracker.restingUsage key).1 barriers usage := by
  cases visits with
  | elsewhere => exact .inl ⟨rfl, rfl⟩
  | fetched usage counts => exact .inr ⟨usage, rfl, counts, rfl, path_transition batch key _ _ _⟩
  | overridden => exact (within rfl).elim

/-- **A task that is finished has returned the resource.** The closing barrier leads to the usage
that the entry was made with, which is the rest of the resource. -/
theorem Sees.finish (sees : batch.Sees task key known) (tracker : Tracker) :
    (batch.perform tracker (.finish task)).batch.Sees task key
        (known.map fun use => { use with current := use.final, discard := false }) ∧
      (Call.finish task).emits (batch.perform tracker (.finish task)).commands task key =
        known.toList.flatMap fun use =>
          batch.transition key use.current use.final (use.discard && key.isImage) := by
  have ⟨scope, opened, _⟩ := sees
  obtain ⟨-, found, begun⟩ := begunScope_eq_ok.1 opened
  show (batch.finish task).batch.Sees _ _ _ ∧
    (Call.finish task).emits (batch.finish task).commands task key = _
  unfold Batch.finish
  rw [opened]
  dsimp only
  refine ⟨sees.finished found begun rfl, ?_⟩
  rw [Call.emits_of_eq rfl, barriers_emitted_flush, onKey_append, sees.onKey_closingBarriers found]
  split <;> exact List.append_nil _

/-- Recording a task leaves the other tasks alone, and which resources the batch knows. -/
theorem Effect.keeps_aside {answer : Except BatchError Reply} {commands : List Command}
    (effect : Effect tracker batch call answer after commands)
    (own : call.Within ∨ call = .finish task) (records : call.recorded? = some task) :
    (∀ key, after.knows key = batch.knows key) ∧
      ∀ other ≠ task, after.scopes[other]? = batch.scopes[other]? := by
  have write {scope changed : Scope} (found : batch.scopes[task]? = some scope) :
      ∀ other ≠ task, (batch.setScope task changed).scopes[other]? = batch.scopes[other]? := by
    intro other apart
    rw [getElem?_setScope found, if_neg apart]
  cases effect with
  | refused | passedOver | undiscarded => exact ⟨fun _ => rfl, fun _ _ => rfl⟩
  | moved found | fetched found | discarded found =>
    cases records
    exact ⟨fun _ => rfl, write found⟩
  | ended found =>
    cases records
    exact ⟨fun _ => knows_of_ended rfl, write found⟩
  | _ =>
    -- no other call records a task in this way
    rcases own with within | finishes
    · exact within.elim
    · cases finishes

/-- So does the call, and it leaves the tracker alone. -/
theorem perform_aside (batch : Batch) (tracker : Tracker) (own : call.Within ∨ call = .finish task)
    (records : call.recorded? = some task) :
    (batch.perform tracker call).tracker = tracker ∧
      (∀ key, (batch.perform tracker call).batch.knows key = batch.knows key) ∧
      ∀ other ≠ task,
        (batch.perform tracker call).batch.scopes[other]? = batch.scopes[other]? := by
  have commits : call ≠ .commit := by
    rintro rfl
    cases records
  have basic : call.Basic := by
    cases call with
    | useAtRest | useTargets | declareDefault => cases records
    | _ => trivial
  exact ⟨perform_tracker batch tracker commits,
    (perform_effect batch tracker basic).keeps_aside own records⟩

/-- A report that is accepted has nothing to answer. -/
theorem report_answer {usage : Usage}
    (accepted : (batch.perform tracker (.report task key usage)).answer.toBool = true) :
    (batch.perform tracker (.report task key usage)).answer = .ok .done := by
  have same : (batch.perform tracker (.report task key usage)).answer =
    (batch.report tracker task key usage).answer.map fun _ => Reply.done := rfl
  rw [same] at accepted ⊢
  cases answer : (batch.report tracker task key usage).answer with
  | ok done => rfl
  | error reason =>
    rw [answer] at accepted
    cases accepted

/-- An accepted report by which a task does not get to know the resource only reads one that is no
image. -/
theorem Sees.passed_over {usage : Usage}
    (accepted : (batch.perform tracker (.report task key usage)).answer.toBool = true)
    (unseen : (batch.perform tracker (.report task key usage)).batch.Sees task key none) :
    key.isImage = false ∧ usage.readOnly = true := by
  rcases report_cases (report_answer accepted) with ⟨use, seen, -⟩ | ⟨memory, reads, -⟩
  · cases unseen.unique seen
  · exact ⟨memory, reads⟩

/-- An accepted report of a resource that the task knows then has left it in the usage. -/
theorem Sees.current_of_report {usage : Usage} {use : TaskUse}
    (seen : (batch.perform tracker (.report task key usage)).batch.Sees task key (some use))
    (accepted : (batch.perform tracker (.report task key usage)).answer.toBool = true) :
    use.current = usage := by
  rcases report_cases (report_answer accepted) with ⟨use', seen', current⟩ | ⟨-, -, unseen, same⟩
  · cases seen.unique seen'
    exact current
  · rw [same] at seen
    cases unseen.unique seen

end

/-! ## Several calls

A run has a first part in which the resource is away and a second one in which it is taken. What
happens at the border is one report, which is remembered with the tracker that it met, as the
resting usage is read from there. -/

/-- In a run a task gets to know a resource by a report that meets some tracker, and enters it into
its table with the usage in which it rests. -/
def FirstTouches (start : Batch) (calls : List (Tracker × Call)) (task : Nat) (key : Key)
    (tracker : Tracker) : Prop :=
  ∃ before usage after, calls = before ++ (tracker, .report task key usage) :: after ∧
    (key.isImage = true ∨ usage.readOnly = false) ∧
    (start.run before).batch.Sees task key none ∧
    (start.run (before ++ [(tracker, .report task key usage)])).batch.Sees task key
      (some ⟨usage, (tracker.restingUsage key).1, false⟩)

/-- The accepted reports of a resource in a task leave no trace: they only read a resource that is
no image. -/
def Traceless (log : List Event) (task : Nat) (key : Key) : Prop :=
  ∀ event ∈ log, ∀ usage, event.call = .report task key usage → event.accepted = true →
    key.isImage = false ∧ usage.readOnly = true

/-- From a usage, the barriers on a resource lead to every usage that is reported, in the task that
knows the resource. -/
def LeadsAlong (start : Batch) (calls : List (Tracker × Call)) (task : Nat) (key : Key)
    (origin : Usage) : Prop :=
  ∀ before tracker usage use, before ++ [(tracker, .report task key usage)] <+: calls →
    let turn := (start.run before).batch.perform tracker (.report task key usage)
    turn.answer.toBool = true → turn.batch.Sees task key (some use) →
    Path key origin (start.emissions (before ++ [(tracker, .report task key usage)]) task key)
      usage

/-- What holds of a resource that a task did not know as it began. The second case remembers the
report by which the resource was taken, and the usage in which it rested then. -/
inductive Undeclared (start : Batch) (calls : List (Tracker × Call)) (task : Nat) (key : Key) :
    Prop where
  /-- The task never knew it, and emitted no barriers on it. -/
  | away (unseen : ∀ before, before <+: calls → (start.run before).batch.Sees task key none)
    (traceless : Traceless (start.run calls).log task key)
    (silent : start.emissions calls task key = [])
  /-- The task knows it since some report, took it from its rest, and is to return it there. -/
  | taken {tracker : Tracker} {use : TaskUse} (first : FirstTouches start calls task key tracker)
    (seen : (start.run calls).batch.Sees task key (some use))
    (final : use.final = (tracker.restingUsage key).1)
    (path : ∀ before use, before <+: calls → (start.run before).batch.Sees task key (some use) →
      Path key (tracker.restingUsage key).1 (start.emissions before task key) use.current)

section

variable {start : Batch} {calls : List (Tracker × Call)} {task : Nat} {key : Key}

/-- The first touch lies in the past and is not undone by another call. -/
theorem FirstTouches.append {tracker : Tracker} (h : FirstTouches start calls task key tracker)
    (call : Tracker × Call) : FirstTouches start (calls ++ [call]) task key tracker := by
  obtain ⟨before, usage, after, rfl, counts, unseen, seen⟩ := h
  exact ⟨before, usage, after ++ [call], by simp, counts, unseen, seen⟩

/-- In every run a resource that was not declared is away or taken, by induction on the calls. -/
theorem undeclared_run (sees : start.Sees task key none)
    (within : ∀ call ∈ calls, call.2.recorded? = some task → call.2.Within) :
    Undeclared start calls task key := by
  induction calls using List.reverseRecOn with
  | nil =>
    refine .away (fun before initial => ?_) (by simp [Traceless]) rfl
    obtain rfl := List.prefix_nil.1 initial
    exact sees
  | append_singleton calls last ih =>
    obtain ⟨tracker, call⟩ := last
    have own : call.recorded? = some task → call.Within := within (tracker, call) (by simp)
    have run : (start.run (calls ++ [(tracker, call)])).batch =
        ((start.run calls).batch.perform tracker call).batch := by
      rw [run_append]
      rfl
    have emits := start.emissions_append calls (tracker, call) task key
    -- Until now the task does not know the resource, or it took it at some report before.
    cases ih fun call mem => within call (List.mem_append_left _ mem) with
    | away unseen traceless silent =>
      have unknown := unseen calls (List.prefix_refl _)
      obtain ⟨left, sees', visits⟩ := visits_perform tracker call unknown
      rw [silent, List.nil_append] at emits
      -- This call leaves it so, or it is the report by which the task gets to know the resource.
      rcases visits.comes own with ⟨rfl, quiet⟩ | ⟨usage, rfl, counts, rfl, path⟩
      · refine .away (fun before initial => ?_)
          (fun event mem usage reports accepted => ?_) (emits.trans quiet)
        · rcases List.prefix_concat_iff.1 initial with rfl | initial
          · rw [run]
            exact sees'
          · exact unseen before initial
        · rw [run_append] at mem
          rcases List.mem_append.1 mem with mem | mem
          · exact traceless event mem usage reports accepted
          · obtain rfl := List.mem_singleton.1 mem
            obtain rfl : call = .report task key usage := reports
            exact Sees.passed_over accepted sees'
      · rw [← run] at sees'
        refine .taken ⟨calls, usage, [], rfl, counts, unknown, sees'⟩ sees' rfl
          fun before use initial seen => ?_
        rcases List.prefix_concat_iff.1 initial with rfl | initial
        · cases sees'.unique seen
          rw [emits]
          exact path
        · cases (unseen before initial).unique seen
    | @taken _ use first seen final path =>
      -- The path goes on from where the resource is, and where it is to be returned stays the same.
      obtain ⟨left, sees', visits⟩ := visits_perform tracker call seen
      obtain ⟨next, rfl, same, onwards⟩ := visits.path own
      rw [← run] at sees'
      refine .taken (first.append _) sees' (same.trans final) fun before use' initial seen' => ?_
      rcases List.prefix_concat_iff.1 initial with rfl | initial
      · cases sees'.unique seen'
        rw [emits]
        exact (path calls use (List.prefix_refl _) seen).trans onwards
      · exact path before use' initial seen'

end

/-- **Undeclared use is transparent.** Take a task that has begun and a resource that it does not
know, any calls after that, of which those that record the task only move resources and give up
contents, and then the finish of the task. Every call may meet another tracker.

* Either the task never gets to know the resource and emits no barriers on it, and then the accepted
  reports of it only read a resource that is no image. Or it gets to know the resource by some
  report, and all barriers that it emits on it are a path from the usage in which the resource
  rests, by the tracker which that report meets, to that same usage. On the way they lead to every
  usage that is reported from then on.
* No call that records the task makes a resource known to the batch, touches another task or changes
  the tracker.
* A resource that is no image and only read stays unknown to the task and takes no barriers. -/
theorem undeclared_use_transparent {start : Batch} {task : Nat} {key : Key}
    (sees : start.Sees task key none) {calls : List (Tracker × Call)}
    (within : ∀ call ∈ calls, call.2.recorded? = some task → call.2.Within) (closing : Tracker) :
    let all := calls ++ [(closing, .finish task)]
    let emitted := start.emissions all task key
    let left := (start.run all).batch
    ((left.Sees task key none ∧ emitted = [] ∧ Traceless (start.run calls).log task key) ∨
        ∃ tracker, FirstTouches start calls task key tracker ∧
          Path key (tracker.restingUsage key).1 emitted (tracker.restingUsage key).1 ∧
          LeadsAlong start calls task key (tracker.restingUsage key).1) ∧
      (∀ before tracker call after, all = before ++ (tracker, call) :: after →
        call.recorded? = some task →
        let met := (start.run before).batch
        let turn := met.perform tracker call
        turn.tracker = tracker ∧ (∀ other, turn.batch.knows other = met.knows other) ∧
          ∀ other ≠ task, turn.batch.scopes[other]? = met.scopes[other]?) ∧
      (key.isImage = false →
        (∀ call ∈ calls, ∀ usage, call.2 = .report task key usage → usage.readOnly = true) →
        left.Sees task key none ∧ emitted = []) := by
  intro all emitted left
  have undeclared : Undeclared start calls task key := undeclared_run sees within
  have run : left = ((start.run calls).batch.perform closing (.finish task)).batch := by
    show (start.run all).batch = _
    rw [run_append]
    rfl
  have emits : emitted = start.emissions calls task key ++ _ :=
    start.emissions_append calls (closing, .finish task) task key
  -- To finish a task emits nothing on a resource that it does not know.
  have unknown (unseen : (start.run calls).batch.Sees task key none)
      (silent : start.emissions calls task key = []) : left.Sees task key none ∧ emitted = [] := by
    obtain ⟨unseen', quiet⟩ := unseen.finish closing
    rw [emits, silent, run]
    exact ⟨unseen', quiet⟩
  refine ⟨?_, fun before tracker call after split records => ?_, fun memory reads => ?_⟩
  · cases undeclared with
    | away unseen traceless silent =>
      obtain ⟨unseen', quiet⟩ := unknown (unseen calls (List.prefix_refl _)) silent
      exact .inl ⟨unseen', quiet, traceless⟩
    | @taken tracker use first seen final path =>
      refine .inr ⟨tracker, first, ?_, ?_⟩
      -- The finish returns the resource to its rest, which closes the path.
      · obtain ⟨-, returns⟩ := seen.finish closing
        rw [emits, returns, Option.toList_some, List.flatMap_singleton, final]
        exact (path calls use (List.prefix_refl _) seen).trans (path_transition _ key _ _ _)
      · intro before met usage use initial turn accepted known
        obtain rfl := known.current_of_report accepted
        refine path _ use initial ?_
        rw [run_append]
        exact known
  · refine perform_aside _ tracker ?_ records
    have mem : (tracker, call) ∈ all := by simp [split]
    rcases List.mem_append.1 mem with mem | mem
    · exact .inl (within _ mem records)
    · simp only [List.mem_singleton, Prod.mk.injEq] at mem
      exact .inr mem.2
  · cases undeclared with
    | away unseen _ silent => exact unknown (unseen calls (List.prefix_refl _)) silent
    | @taken tracker _ first =>
      obtain ⟨before, usage, after, rfl, counts, -⟩ := first
      have only := reads (tracker, .report task key usage) (by simp) usage rfl
      rw [memory, only] at counts
      rcases counts with image | writes
      · cases image
      · cases writes

/-- An image that nobody declared. -/
def mirror : Key := ⟨.image, ⟨0⟩⟩

/-- The last task of a batch has begun, which declared another image. -/
def lastBegun : Batch :=
  ((new ⟨0, 0⟩ .graphics).run
    [(.empty, .use ⟨.image, ⟨1⟩⟩ .colorAttachment .present), (.empty, .createTask),
      (.empty, .beginTask 0 true)]).batch

/-- An image that is drawn to and then sampled goes back to where it rests. -/
theorem undeclared_use_transparent_mirror :
    let calls : List (Tracker × Call) :=
      [(.empty, .report 0 mirror .colorAttachment), (.empty, .report 0 mirror .shaderSample)]
    let emitted := lastBegun.emissions (calls ++ [(.empty, .finish 0)]) 0 mirror
    emitted =
        [(Barrier.resource mirror .general .colorAttachment).withDiscard true,
          Barrier.resource mirror .colorAttachment .shaderSample,
          Barrier.resource mirror .shaderSample .general] ∧
      ∃ tracker, FirstTouches lastBegun calls 0 mirror tracker ∧
        Path mirror (tracker.restingUsage mirror).1 emitted (tracker.restingUsage mirror).1 ∧
        LeadsAlong lastBegun calls 0 mirror (tracker.restingUsage mirror).1 := by
  intro calls emitted
  have emits : emitted =
      [(Barrier.resource mirror .general .colorAttachment).withDiscard true,
        Barrier.resource mirror .colorAttachment .shaderSample,
        Barrier.resource mirror .shaderSample .general] := by
    decide +kernel
  have sees : lastBegun.Sees 0 mirror none := ⟨_, rfl, rfl⟩
  have within : ∀ call ∈ calls, call.2.recorded? = some 0 → call.2.Within := by
    simp [calls, Call.Within]
  obtain ⟨chain, -⟩ := undeclared_use_transparent sees within .empty
  refine ⟨emits, chain.resolve_left fun away => ?_⟩
  have none : emitted = [] := away.2.1
  rw [emits] at none
  cases none

end GpuSync.Batch
