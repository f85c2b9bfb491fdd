import GpuSync.Proofs.Batch.Chain
import GpuSync.Proofs.Batch.Effect
import GpuSync.Proofs.Batch.Script
import Mathlib.Tactic.Common

/-!
# What holds of a batch throughout a run

`Steady n run` collects what an orderly run keeps true of the batch as a whole, apart from the
usages of any resource: which barriers are queued where, which task is marked as the last one, and
that only tasks that have begun emitted barriers. Each field is kept by every call, and
`Steady.next` puts them together.
-/

namespace GpuSync.Batch

/-- A barrier on a resource of the batch. -/
def Known (batch : Batch) (barrier : Barrier) : Prop :=
  ∃ key, barrier.key = some key ∧ (batch.passages.find? key).isSome = true

/-- A task that has begun has no barriers queued, and the first one then leaves none for the
batch. -/
def Emptied (batch : Batch) : Prop :=
  ∀ (task : Nat) (scope : Scope), batch.scopes[task]? = some scope → scope.begun = true →
    scope.opening = [] ∧ (task = 0 → batch.opening = [])

/-- What holds of the batch as a whole after every call. It says nothing of single resources, and is
used by what does. -/
structure Steady (n : Nat) (run : Run) : Prop where
  /-- There are not too many tasks. -/
  few : run.batch.scopes.length ≤ maxTasks
  /-- The barriers queued for the first task are on resources of the batch. -/
  opening : ∀ barrier ∈ run.batch.opening, run.batch.Known barrier
  /-- So are those queued for a task that opens with them. -/
  openings : ∀ (task : Nat) (scope : Scope), run.batch.scopes[task]? = some scope →
    ∀ barrier ∈ scope.opening, run.batch.Known barrier
  /-- A task that has begun has no barriers queued. -/
  emptied : ∀ (task : Nat) (scope : Scope), run.batch.scopes[task]? = some scope →
    scope.begun = true → scope.opening = [] ∧ (task = 0 → run.batch.opening = [])
  /-- A task that has not begun emitted no barriers. -/
  silent : ∀ task key, run.batch.isBegun task = false → barriersBy run.log task key = []
  /-- Only the highest task is marked as the last one, and as it begins. -/
  last : ∀ task, run.batch.lastTask = some task → task + 1 = n ∧ run.batch.isBegun task = true
  /-- What was begun is begun. -/
  begun : ∀ event ∈ run.log, ∀ task last, event.call = .beginTask task last →
    run.batch.isBegun task = true
  /-- What was finished had begun. -/
  ended : ∀ event ∈ run.log, ∀ task, event.call = .finish task → event.accepted = true →
    run.batch.isBegun task = true

/-- The last task was marked before or is the one that begins as the last. -/
theorem eq_of_lastAfter {batch : Batch} {task other : Nat} {last : Bool}
    (inRange : task < maxTasks) (h : batch.lastAfter task last = some other) :
    batch.lastTask = some other ∨ (last = true ∧ other = task) := by
  have word : task % span 32 = task := Nat.mod_eq_of_lt (Nat.lt_trans inRange (by decide))
  unfold lastAfter at h
  split at h
  · rename_i marks
    simp only [Bool.and_eq_true] at marks
    split at h
    · exact absurd h (by simp)
    · rw [word] at h
      exact .inr ⟨marks.1, (Option.some.inj h).symm⟩
  · exact .inl h

/-- A batch never forgets a resource. Passages are added and written, never removed. -/
theorem Effect.passages_mono {tracker : Tracker} {batch after : Batch} {call : Call}
    {answer : Except BatchError Reply} {commands : List Command}
    (h : Effect tracker batch call answer after commands) {key : Key}
    (known : (batch.passages.find? key).isSome = true) :
    (after.passages.find? key).isSome = true := by
  have write {other : Key} {passage : Passage} :
      ((batch.passages.insert other passage).find? key).isSome = true := by
    rw [KeyTable.find?_insert]
    split
    · rfl
    · exact known
  cases h with
  | redeclared | declared | joined | introduced => exact write
  | ended =>
    dsimp only
    split
    · rw [KeyTable.find?_map, Option.isSome_map]
      exact known
    · exact known
  | _ => exact known

/-- So a barrier on a resource of the batch stays one. -/
theorem Known.mono {tracker : Tracker} {batch after : Batch} {call : Call}
    {answer : Except BatchError Reply} {commands : List Command} {barrier : Barrier}
    (effect : Effect tracker batch call answer after commands) (h : batch.Known barrier) :
    after.Known barrier := by
  obtain ⟨key, on, known⟩ := h
  exact ⟨key, on, effect.passages_mono known⟩

/-- A batch without tasks is steady, whatever the number of its tasks will be. -/
theorem steady_nil (n : Nat) (id : BatchId) (queue : Queue) :
    Steady n { batch := new id queue } where
  few := Nat.zero_le _
  opening := by simp [new]
  openings := by simp [new]
  emptied := by simp [new]
  silent := by simp
  last := by simp [new]
  begun := by simp
  ended := by simp

section

variable {n : Nat} {run : Run} {tracker : Tracker} {call : Call} {after : Batch}
  {answer : Except BatchError Reply} {commands : List Command}

/-- The run after one more call. -/
def Run.extend (run : Run) (call : Call) (answer : Except BatchError Reply) (after : Batch)
    (commands : List Command) : Run :=
  ⟨after, run.log ++ [⟨call, answer, commands⟩]⟩

/-- A call leaves no more tasks than a batch can have: one is created only while there is room. -/
theorem Steady.few_next (h : Steady n run)
    (effect : Effect tracker run.batch call answer after commands) :
    after.scopes.length ≤ maxTasks :=
  effect.few h.few

/-- A call queues barriers for the first task on resources of the batch only. -/
theorem Steady.opening_next (h : Steady n run)
    (effect : Effect tracker run.batch call answer after commands) :
    ∀ barrier ∈ after.opening, after.Known barrier := by
  have old : ∀ barrier ∈ run.batch.opening, after.Known barrier :=
    fun barrier mem => (h.opening barrier mem).mono effect
  cases effect with
  | @declared key initial final =>
    intro barrier mem
    rcases List.mem_append.1 mem with mem | mem
    · exact old barrier mem
    · refine ⟨key, key_of_mem_firstUse mem, ?_⟩
      simp [KeyTable.find?_insert]
  | began =>
    intro barrier mem
    dsimp only at mem
    split at mem
    · simp at mem
    · exact old barrier mem
  | _ => exact old

/-- A call queues barriers for a task on resources of the batch only. A declaration adds the
resource to the batch in the same step, and beginning a task empties what it opens with. -/
theorem Steady.openings_next (h : Steady n run)
    (effect : Effect tracker run.batch call answer after commands) :
    ∀ (task : Nat) (scope : Scope), after.scopes[task]? = some scope →
      ∀ barrier ∈ scope.opening, after.Known barrier := by
  have old : ∀ (task : Nat) (scope : Scope), run.batch.scopes[task]? = some scope →
      ∀ barrier ∈ scope.opening, after.Known barrier :=
    fun task scope found barrier mem => (h.openings task scope found barrier mem).mono effect
  -- a scope that was written has barriers it had before, or some that are known
  have write {task : Nat} {was changed : Scope} (at' : run.batch.scopes[task]? = some was)
      (fine : ∀ barrier ∈ changed.opening, barrier ∈ was.opening ∨ after.Known barrier) :
      ∀ (other : Nat) (scope : Scope),
        (run.batch.setScope task changed).scopes[other]? = some scope →
        ∀ barrier ∈ scope.opening, after.Known barrier := by
    intro other scope found barrier mem
    rw [getElem?_setScope at'] at found
    split at found
    · obtain rfl := Option.some.inj found
      rcases fine barrier mem with mem | known
      · exact old task was at' barrier mem
      · exact known
    · exact old other scope found barrier mem
  -- Only declarations queue barriers for a task, and the resource they are on is entered by the
  -- same call.
  cases effect with
  | created =>
    intro task scope found barrier mem
    rw [List.getElem?_append] at found
    split at found
    · exact old task scope found barrier mem
    · rw [List.getElem?_singleton] at found
      split at found
      · obtain rfl := Option.some.inj found
        simp at mem
      · simp at found
  | @joined task key initial final was passage _ at' =>
    refine write at' fun barrier mem => ?_
    rcases List.mem_append.1 mem with mem | mem
    · exact .inl mem
    · exact .inr ⟨key, key_of_mem_openingOf mem, by simp [KeyTable.find?_insert]⟩
  | @introduced task key initial final was _ at' =>
    refine write at' fun barrier mem => ?_
    rcases List.mem_append.1 mem with mem | mem
    · exact .inl mem
    · exact .inr ⟨key, key_of_mem_firstUse mem, by simp [KeyTable.find?_insert]⟩
  | began _ at' => exact write at' fun barrier mem => by simp [Scope.started] at mem
  | moved at' | fetched at' | discarded at' | overridden at' | installed at' | ended at' =>
    exact write at' fun barrier mem => .inl mem
  | _ => exact old

/-- A task that has not begun after a call emitted nothing until then, since what a task emits is
emitted as it begins and from then on. -/
theorem Steady.silent_next (h : Steady n run)
    (effect : Effect tracker run.batch call answer after commands) (task : Nat) (key : Key)
    (unbegun : after.isBegun task = false) :
    barriersBy (run.extend call answer after commands).log task key = [] := by
  have before : run.batch.isBegun task = false := by
    by_contra begun
    rw [effect.isBegun_mono (eq_true_of_ne_false begun)] at unbegun
    exact absurd unbegun (by decide)
  rw [Run.extend, barriersBy_append, h.silent task key before, List.nil_append]
  split
  · rename_i records
    by_contra emits
    obtain ⟨other, records', begun⟩ := effect.isBegun_of_barriers emits
    obtain rfl : task = other := Option.some.inj (records.symm.trans records')
    rw [begun] at unbegun
    exact absurd unbegun (by decide)
  · rfl

/-- A begin that fits is accepted, and no call takes the mark of the task back. -/
theorem Steady.begun_next (h : Steady n run)
    (effect : Effect tracker run.batch call answer after commands)
    (fits : Fits n run.log ⟨call, answer, commands⟩) :
    ∀ event ∈ (run.extend call answer after commands).log, ∀ task last,
      event.call = .beginTask task last → after.isBegun task = true := by
  intro event mem task last begins
  rcases List.mem_append.1 mem with mem | mem
  · exact effect.isBegun_mono (h.begun event mem task last begins)
  · obtain rfl := List.mem_singleton.1 mem
    obtain ⟨accepted, -⟩ := fits.begins task last begins
    cases effect with
    | refused => simp [Event.accepted, Except.toBool] at accepted
    | @began other _ was _ found =>
      obtain rfl : other = task := by injection begins
      exact isBegun_eq_true.2 ⟨_, by rw [getElem?_setScope found, if_pos rfl], rfl⟩
    | _ => cases begins

/-- A task that was finished had begun, and no call takes the mark back. -/
theorem Steady.ended_next (h : Steady n run)
    (effect : Effect tracker run.batch call answer after commands) :
    ∀ event ∈ (run.extend call answer after commands).log, ∀ task,
      event.call = .finish task → event.accepted = true → after.isBegun task = true := by
  intro event mem task finishes accepted
  rcases List.mem_append.1 mem with mem | mem
  · exact effect.isBegun_mono (h.ended event mem task finishes accepted)
  · obtain rfl := List.mem_singleton.1 mem
    cases effect with
    | refused => simp [Event.accepted, Except.toBool] at accepted
    | @ended other scope found begun =>
      obtain rfl : other = task := by injection finishes
      exact isBegun_eq_true.2 ⟨scope.finished, by rw [getElem?_setScope found, if_pos rfl], begun⟩
    | _ => cases finishes

/-- Only the highest task is marked as the last one. A call that marks it begins it, too, since a
mark by itself does not fit. -/
theorem Steady.last_next (h : Steady n run)
    (effect : Effect tracker run.batch call answer after commands)
    (fits : Fits n run.log ⟨call, answer, commands⟩) (bounded : after.scopes.length ≤ n) :
    ∀ task, after.lastTask = some task → task + 1 = n ∧ after.isBegun task = true := by
  have old : ∀ task, run.batch.lastTask = some task →
      task + 1 = n ∧ after.isBegun task = true :=
    fun task marked => ⟨(h.last task marked).1, effect.isBegun_mono (h.last task marked).2⟩
  have plain := fits.plain
  cases effect with
  | marked => exact plain.elim
  | @began task last was inRange found =>
    intro other marked
    rcases eq_of_lastAfter inRange marked with marked | ⟨isLast, rfl⟩
    · exact old other marked
    · have bound : other < n := by
        refine Nat.lt_of_lt_of_le (List.getElem?_eq_some_iff.1 found).1 (Nat.le_trans ?_ bounded)
        simp [setScope]
      have highest := (fits.begins other last rfl).2 bound
      rw [isLast] at highest
      refine ⟨by simpa using highest.symm, ?_⟩
      exact isBegun_eq_true.2 ⟨_, by rw [getElem?_setScope found, if_pos rfl], rfl⟩
  | _ => exact old

/-- A task that has begun stays without barriers queued. Only declarations queue barriers for a
task, and they are refused once it has begun. -/
theorem Effect.emptied {batch : Batch} (old : batch.Emptied)
    (effect : Effect tracker batch call answer after commands) : after.Emptied := by
  -- a scope that was written and has begun was begun before, with the same barriers queued
  have write {task : Nat} {was changed : Scope} (at' : batch.scopes[task]? = some was)
      (same : changed.begun = true → was.begun = true ∧ changed.opening = was.opening) :
      ∀ (other : Nat) (scope : Scope),
        (batch.setScope task changed).scopes[other]? = some scope → scope.begun = true →
        scope.opening = [] ∧ (other = 0 → batch.opening = []) := by
    intro other scope found begun
    rw [getElem?_setScope at'] at found
    split at found
    · rename_i eq
      obtain rfl := Option.some.inj found
      obtain ⟨begun, opening⟩ := same begun
      rw [opening, eq]
      exact old task was at' begun
    · exact old other scope found begun
  -- Declarations queue barriers only for tasks that have not begun, and a task that begins clears
  -- its own and, as the first one, those of the batch.
  cases effect with
  | declared unstarted =>
    intro task scope found
    simp [unstarted] at found
  | created =>
    intro task scope found begun
    rw [List.getElem?_append] at found
    split at found
    · exact old task scope found begun
    · rw [List.getElem?_singleton] at found
      split at found
      · obtain rfl := Option.some.inj found
        simp at begun
      · simp at found
  | joined _ at' unbegun =>
    exact write at' fun begun => absurd (unbegun.symm.trans begun) (by decide)
  | introduced _ at' unbegun =>
    exact write at' fun begun => absurd (unbegun.symm.trans begun) (by decide)
  | @began task last was _ at' =>
    intro other scope found begun
    rw [getElem?_setScope at'] at found
    dsimp only
    split at found
    · rename_i eq
      obtain rfl := Option.some.inj found
      exact ⟨rfl, fun first => by rw [if_pos (eq.symm.trans first)]⟩
    · refine ⟨(old other scope found begun).1, fun first => ?_⟩
      split
      · rfl
      · exact (old other scope found begun).2 first
  | moved at' begun | fetched at' begun | discarded at' begun | overridden at' begun
  | installed at' begun | ended at' begun => exact write at' fun _ => ⟨begun, rfl⟩
  | _ => exact old

/-- What holds of the batch as a whole is kept by every call of the run. -/
theorem Steady.next (h : Steady n run)
    (effect : Effect tracker run.batch call answer after commands)
    (fits : Fits n run.log ⟨call, answer, commands⟩) (bounded : after.scopes.length ≤ n) :
    Steady n (run.extend call answer after commands) where
  few := h.few_next effect
  opening := h.opening_next effect
  openings := h.openings_next effect
  emptied := effect.emptied h.emptied
  silent := h.silent_next effect
  last := h.last_next effect fits bounded
  begun := h.begun_next effect fits
  ended := h.ended_next effect

end

end GpuSync.Batch
