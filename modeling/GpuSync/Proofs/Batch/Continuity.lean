import GpuSync.Proofs.Batch.Weave
import Mathlib.Tactic.Common

/-!
# The barriers of a batch carry on from one another

A batch whose tasks are each recorded once emits, for every resource, barriers that carry on from
one another when read task by task, whatever the order in which the tasks were recorded: the first
comes from the usage the batch was said to find the resource in, and the last leads to the usage
the batch was said to leave it in (`barriers_continuous`).
-/

namespace GpuSync.Batch

/-! ## Runs

The invariants of a batch, of its threads and of the resources that are followed are kept together,
since a step of one uses the others. The log of an orderly run is known in advance only as a whole:
that a call fits where it comes is read off the log that the run will have in the end. -/

/-- The plain calls are among those that have a case of their own in `Effect`. -/
theorem Call.Plain.basic {call : Call} (plain : call.Plain) : call.Basic := by
  cases call with
  | useAtRest | useTargets | declareDefault => exact plain.elim
  | _ => trivial

/-- Going on only adds to the log. -/
theorem log_foldl_next (calls : List (Tracker × Call)) (run : Run) :
    ∃ rest, (calls.foldl Run.next run).log = run.log ++ rest := by
  induction calls generalizing run with
  | nil => exact ⟨[], by simp⟩
  | cons call calls ih =>
    obtain ⟨rest, eq⟩ := ih (run.next call)
    exact ⟨_ :: rest, by rw [List.foldl_cons, eq, Run.next, List.append_assoc]; rfl⟩

/-- Going on only adds tasks. -/
theorem length_foldl_next (calls : List (Tracker × Call)) (run : Run)
    (plain : ∀ event ∈ (calls.foldl Run.next run).log, event.call.Plain) :
    run.batch.scopes.length ≤ (calls.foldl Run.next run).batch.scopes.length := by
  induction calls generalizing run with
  | nil => exact Nat.le_refl _
  | cons call calls ih =>
    obtain ⟨tracker, call⟩ := call
    obtain ⟨rest, log⟩ := log_foldl_next calls (run.next (tracker, call))
    have basic : call.Basic := by
      have mem : ⟨call, (run.batch.perform tracker call).answer,
          (run.batch.perform tracker call).commands⟩ ∈
          (((tracker, call) :: calls).foldl Run.next run).log := by
        rw [List.foldl_cons, log, Run.next]
        simp
      exact (plain _ mem).basic
    exact Nat.le_trans (perform_effect run.batch tracker basic).length_mono
      (ih (run.next (tracker, call)) plain)

/-- A task that has begun can be finished. -/
theorem finish_accepted {batch : Batch} {task : Nat} (begun : batch.isBegun task = true)
    (few : batch.scopes.length ≤ maxTasks) :
    (batch.finish task).answer = .ok () := by
  obtain ⟨scope, found, begun⟩ := isBegun_eq_true.1 begun
  have bound : task < batch.scopes.length := (List.getElem?_eq_some_iff.1 found).1
  have opened : batch.begunScope task = .ok scope :=
    begunScope_eq_ok.2 ⟨Nat.lt_of_lt_of_le bound few, found, begun⟩
  unfold finish
  rw [opened]

/-- What holds of an orderly run. -/
structure Sound (n : Nat) (run : Run) : Prop where
  /-- What holds of the batch as a whole. -/
  steady : Steady n run
  /-- What holds of every resource. -/
  followed : ∀ key, Followed n run key
  /-- No task was refused its finish. -/
  finished : ∀ event ∈ run.log, ∀ task < n, event.call = .finish task → event.accepted = true

/-- A batch starts out without a resource, so that its tables are sound whatever the number of its
tasks will be. -/
theorem sound_nil (n : Nat) (id : BatchId) (queue : Queue) :
    Sound n { batch := new id queue } where
  steady := steady_nil n id queue
  followed := fun _ => rfl
  finished := by simp

/-- One call of an orderly run. The parts are kept by the step lemmas of their modules, and each of
those may use the other parts of what held before. -/
theorem Sound.next {n : Nat} {run : Run} (h : Sound n run) {tracker : Tracker} {call : Call}
    (fits : Fits n run.log ⟨call, (run.batch.perform tracker call).answer,
      (run.batch.perform tracker call).commands⟩)
    (bounded : (run.next (tracker, call)).batch.scopes.length ≤ n) :
    Sound n (run.next (tracker, call)) := by
  have effect := perform_effect run.batch tracker fits.plain.basic
  refine ⟨h.steady.next effect fits bounded,
    fun key => (h.followed key).next h.steady effect fits bounded, ?_⟩
  intro event mem task bound finishes
  rcases List.mem_append.1 mem with mem | mem
  · exact h.finished event mem task bound finishes
  · obtain rfl := List.mem_singleton.1 mem
    obtain rfl : call = .finish task := finishes
    obtain ⟨earlier, mem, last, begins⟩ := fits.begun task bound rfl
    have accepted := finish_accepted (h.steady.begun earlier mem task last begins) h.steady.few
    simp [Event.accepted, perform, Outcome.turn, accepted, Except.map, Except.toBool]

/-- Every orderly run is sound. The run may have begun before, with a log that is known. -/
theorem Sound.foldl {n : Nat} (calls : List (Tracker × Call)) {run : Run} (h : Sound n run)
    (orderly : Orderly n (calls.foldl Run.next run).log)
    (bounded : (calls.foldl Run.next run).batch.scopes.length ≤ n) :
    Sound n (calls.foldl Run.next run) := by
  induction calls generalizing run with
  | nil => exact h
  | cons call calls ih =>
    obtain ⟨tracker, call⟩ := call
    obtain ⟨rest, log⟩ := log_foldl_next calls (run.next (tracker, call))
    rw [Run.next, List.append_assoc] at log
    -- The call fits because the whole log is orderly, the calls to come included.
    refine ih (h.next ?_ ?_) orderly bounded
    · rw [List.foldl_cons, Run.next, log] at orderly
      exact orderly.fits
    · exact Nat.le_trans (length_foldl_next calls _ orderly.plain) bounded

/-! ## The chain of a resource

Once all tasks are finished, each of them from the first one with the resource has a closed thread.
Putting the threads together by the index of the task, in which nothing depends on the order of
recording any more, gives the chain. -/

/-- Paths through consecutive tasks make a path through all of them. -/
theorem path_flatMap {key : Key} (barriers : Nat → List Barrier) (states : Nat → Usage)
    (first count : Nat) (step : ∀ task, first ≤ task → task < first + count →
      Path key (states task) (barriers task) (states (task + 1))) :
    Path key (states first) ((List.range' first count).flatMap barriers)
      (states (first + count)) := by
  induction count with
  | zero => exact .refl key _
  | succ count ih =>
    rw [List.range'_1_concat, List.flatMap_append, List.flatMap_singleton]
    refine (ih fun task le lt => step task le (by omega)).trans ?_
    exact step (first + count) (by omega) (by omega)

/-- A finished task has taken a resource from where it found it to where it leaves it. -/
theorem Thread.path_of_finished {n : Nat} {run : Run} {key : Key} {passage : Passage} {task : Nat}
    {start next : Usage} {scope : Scope} {use : TaskUse}
    (h : Thread n run key passage task start next scope use) (steady : Steady n run)
    {event : Event} (mem : event ∈ run.log) (finishes : event.call = .finish task)
    (accepted : event.accepted = true) :
    Path key start (barriersBy run.log task key)
      (if task + 1 = n then passage.final else next) := by
  obtain ⟨other, found, begun⟩ :=
    isBegun_eq_true.1 (steady.ended event mem task finishes accepted)
  obtain rfl : scope = other := Option.some.inj (h.found.symm.trans found)
  have path := h.path
  rw [steady.pending_eq_nil found begun, onKey_nil, List.append_nil,
    h.closed event mem finishes accepted, h.leaves] at path
  simpa [begun] using path

/-- **The barriers of a batch carry on from one another.** A batch has `n` tasks, each recorded
once. Then the barriers on a resource, read task by task from the first task with the resource on,
lead from the usage in which the batch finds it to the usage in which the batch leaves it. -/
theorem barriers_continuous (id : BatchId) (queue : Queue) (calls : List (Tracker × Call)) {n : Nat}
    (nonempty : 1 ≤ n) (created : ((new id queue).run calls).batch.taskCount = n)
    (orderly : Orderly n ((new id queue).run calls).log) {key : Key} {passage : Passage}
    (known : ((new id queue).run calls).batch.passage? key = some passage) :
    ∃ first, firstTask? key ((new id queue).run calls).log = some first ∧ first < n ∧
      Path key passage.initial (walk ((new id queue).run calls).log key first n)
        passage.final := by
  have sound : Sound n ((new id queue).run calls) :=
    (sound_nil n id queue).foldl calls orderly (Nat.le_of_eq created)
  generalize (new id queue).run calls = run at *
  have followed := sound.followed key
  unfold Followed at followed
  -- Known to the batch in the end, the resource was woven in by some task.
  cases joined : firstTask? key run.log with
  | none =>
    rw [joined] at followed
    rw [passage?, followed] at known
    cases known
  | some first =>
    rw [joined] at followed
    obtain ⟨other, states, found, woven⟩ := followed
    obtain rfl : passage = other := Option.some.inj (known.symm.trans found)
    have length : run.batch.scopes.length = n := created
    have bound : first < n := by
      rcases woven.bound with zero | bound
      · omega
      · exact length ▸ bound
    refine ⟨first, rfl, bound, ?_⟩
    -- Every task from there on was finished, which closes its thread.
    have step : ∀ task, first ≤ task → task < first + (n - first) →
        Path key (states task) (barriersBy run.log task key)
          (if task + 1 = n then passage.final else states (task + 1)) := by
      intro task le lt
      obtain ⟨scope, use, thread⟩ := woven.threads task le (by omega)
      obtain ⟨within, -, recorded⟩ := orderly.scripts task (by omega)
      have mem : Call.finish task ∈ callsOn task run.log := by simp [recorded]
      obtain ⟨event, mem, -, finishes⟩ := mem_callsOn.1 mem
      have accepted := sound.finished event mem task (by omega) finishes
      exact thread.path_of_finished sound.steady mem finishes accepted
    -- the highest task leaves the resource in the final usage of the batch
    have path := path_flatMap (fun task => barriersBy run.log task key)
      (fun task => if task = n then passage.final else states task) first (n - first)
      fun task le lt => by rw [if_neg (by omega)]; exact step task le lt
    simp only [Nat.ne_of_lt bound, Nat.add_sub_cancel' (Nat.le_of_lt bound), if_true, if_false,
      woven.starts] at path
    exact path

/-- An image that is filled by one task and sampled by the next, which is recorded first. -/
def sideBySide : List (Tracker × Call) :=
  [.use ⟨.image, ⟨0⟩⟩ .shaderSample .shaderSample, .createTask,
    .declare 0 ⟨.image, ⟨0⟩⟩ .copyDst .copyDst, .createTask,
    .declare 1 ⟨.image, ⟨0⟩⟩ .shaderSample .copySrc, .beginTask 1 true, .beginTask 0 false,
    .report 1 ⟨.image, ⟨0⟩⟩ .copySrc, .report 0 ⟨.image, ⟨0⟩⟩ .clearDst, .finish 1,
    .finish 0].map (Tracker.empty, ·)

/-- The barriers on that image carry on from one another. -/
theorem barriers_continuous_sideBySide :
    ∃ first, firstTask? ⟨.image, ⟨0⟩⟩ ((new ⟨0, 0⟩ .graphics).run sideBySide).log = some first ∧
      first < 2 ∧
      Path ⟨.image, ⟨0⟩⟩ .shaderSample
        (walk ((new ⟨0, 0⟩ .graphics).run sideBySide).log ⟨.image, ⟨0⟩⟩ first 2) .shaderSample := by
  have calls : ((new ⟨0, 0⟩ .graphics).run sideBySide).log.map (·.call) = sideBySide.map (·.2) :=
    rfl
  have accepted : ((new ⟨0, 0⟩ .graphics).run sideBySide).log.all (·.accepted) = true := rfl
  have first : callsOn 0 ((new ⟨0, 0⟩ .graphics).run sideBySide).log =
      [.beginTask 0 false, .report 0 ⟨.image, ⟨0⟩⟩ .clearDst, .finish 0] := rfl
  have second : callsOn 1 ((new ⟨0, 0⟩ .graphics).run sideBySide).log =
      [.beginTask 1 true, .report 1 ⟨.image, ⟨0⟩⟩ .copySrc, .finish 1] := rfl
  have passage : ((new ⟨0, 0⟩ .graphics).run sideBySide).batch.passage? ⟨.image, ⟨0⟩⟩ =
      some ⟨.shaderSample, .shaderSample, .shaderSample⟩ := rfl
  have created : ((new ⟨0, 0⟩ .graphics).run sideBySide).batch.taskCount = 2 := rfl
  refine barriers_continuous ⟨0, 0⟩ .graphics sideBySide (by decide) created ⟨?_, ?_, ?_⟩ passage
  · intro event mem
    have plain : ∀ call ∈ sideBySide.map (·.2), call.Plain := by simp [sideBySide, Call.Plain]
    exact plain event.call (calls ▸ List.mem_map_of_mem mem)
  · intro event mem _ _ _
    exact List.all_eq_true.1 accepted event mem
  · intro task bound
    rcases (by omega : task = 0 ∨ task = 1) with rfl | rfl
    · exact ⟨[.report 0 ⟨.image, ⟨0⟩⟩ .clearDst], by simp [Call.Within], by simp [first]⟩
    · exact ⟨[.report 1 ⟨.image, ⟨0⟩⟩ .copySrc], by simp [Call.Within], by simp [second]⟩

example :
    (walk ((new ⟨0, 0⟩ .graphics).run sideBySide).log ⟨.image, ⟨0⟩⟩ 0 2).map
        (fun barrier => (barrier.src, barrier.dst)) =
      [(.shaderSample, .shaderSample), (.shaderSample, .copyDst), (.copyDst, .clearDst),
        (.clearDst, .copyDst), (.copyDst, .shaderSample), (.shaderSample, .copySrc),
        (.copySrc, .shaderSample)] := by
  decide

end GpuSync.Batch
