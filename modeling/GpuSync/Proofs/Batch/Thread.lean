import GpuSync.Proofs.Batch.KeyTable
import GpuSync.Proofs.Batch.Steady
import Mathlib.Tactic.Common

/-!
# One resource throughout a run

The usages of a resource are kept in several places: in the passage of the batch, in the table of
every task, and in the barriers queued for tasks that have not begun. Here they are tied together.

* `Thread` says what becomes of the resource in one task: the barriers emitted so far and those
  still queued are a path from the usage in which the task finds it to the usage it is in.
* `Woven` strings the threads together: each task finds the resource where the one before leaves
  it, and the passage says where the next one would find it.
* `Woven.write`, `Woven.keep` and `Woven.beside` are the frames, by what a call writes;
  `Thread.go`, `Thread.begin`, `Woven.create` and `Woven.join` are the calls that concern the
  resource.
-/

namespace GpuSync.Batch

/-- The barriers that a task opens with and has not emitted yet. -/
def pending (batch : Batch) (task : Nat) (scope : Scope) : List Barrier :=
  (if task = 0 then batch.opening else []) ++ scope.opening

/-- Once a task has begun it has emitted what it opens with. -/
theorem Steady.pending_eq_nil {n : Nat} {run : Run} (steady : Steady n run) {task : Nat}
    {scope : Scope} (found : run.batch.scopes[task]? = some scope) (begun : scope.begun = true) :
    run.batch.pending task scope = [] := by
  obtain ⟨queued, opening⟩ := steady.emptied task scope found begun
  unfold pending
  split
  · rename_i zero
    rw [queued, opening zero, List.append_nil]
  · rw [queued, List.append_nil]

/-- What becomes of a resource in a task that finds it in the usage `start` and leaves it to the
next task in the usage `next`. -/
structure Thread (n : Nat) (run : Run) (key : Key) (passage : Passage) (task : Nat)
    (start next : Usage) (scope : Scope) (use : TaskUse) : Prop where
  /-- The task exists. -/
  found : run.batch.scopes[task]? = some scope
  /-- It knows the resource. -/
  known : scope.uses.find? key = some use
  /-- The barriers emitted so far, then those it opens with, lead to the usage it is in. -/
  path : Path key start
    (barriersBy run.log task key ++ onKey key (run.batch.pending task scope)) use.current
  /-- Before it begins a resource it did not declare is where it is left. -/
  idle : scope.begun = false → key ∉ scope.declared → use.current = use.final
  /-- The next task finds it where this one leaves it; the highest leaves it as promised. -/
  leaves : use.final =
    if task + 1 = n ∧ scope.begun = true then passage.final else next
  /-- A finished task has left it. -/
  closed : ∀ event ∈ run.log, event.call = .finish task → event.accepted = true →
    use.current = use.final

/-- A resource in the batch: each task from `first` on finds it where the one before leaves it,
`states task` being the usage in which a task finds it. -/
structure Woven (n : Nat) (run : Run) (key : Key) (passage : Passage) (first : Nat)
    (states : Nat → Usage) : Prop where
  /-- The first task with the resource finds it in its initial usage. -/
  starts : states first = passage.initial
  /-- That task exists, unless the resource belongs to the batch from the beginning. -/
  bound : first = 0 ∨ first < run.batch.scopes.length
  /-- Every task from there on carries the resource on. -/
  threads : ∀ task, first ≤ task → task < run.batch.scopes.length → ∃ scope use,
    Thread n run key passage task (states task) (states (task + 1)) scope use
  /-- A new task would find it where the newest one leaves it, until the highest begins. -/
  current : run.batch.isBegun (n - 1) = false →
    passage.current = states run.batch.scopes.length
  /-- What is queued before there is a task leaves the resource where it is. -/
  opening : run.batch.scopes = [] →
    Path key passage.initial (onKey key run.batch.opening) passage.initial

/-- What holds of a resource after every call: it is not known, or it is woven into the batch from
the task on that declared it first. -/
def Followed (n : Nat) (run : Run) (key : Key) : Prop :=
  match firstTask? key run.log with
  | none => run.batch.passages.find? key = none
  | some first => ∃ passage states, run.batch.passages.find? key = some passage ∧
    Woven n run key passage first states

section

variable {n : Nat} {run : Run} {key : Key} {passage : Passage} {first : Nat}
  {states : Nat → Usage}

/-- What a task has pending on a resource depends only on what is queued for it on that resource. -/
theorem onKey_pending {batch after : Batch} {task : Nat} {scope changed : Scope}
    (opening : task = 0 → onKey key after.opening = onKey key batch.opening)
    (queued : onKey key changed.opening = onKey key scope.opening) :
    onKey key (after.pending task changed) = onKey key (batch.pending task scope) := by
  unfold pending
  rw [onKey_append, onKey_append, queued]
  split
  · rename_i zero
    rw [opening zero]
  · rfl

/-- A call that does not touch a resource in a task leaves the task carrying it on as before. -/
theorem Thread.frame {task : Nat} {start next : Usage} {scope : Scope} {use : TaskUse}
    (h : Thread n run key passage task start next scope use) {after : Batch} {event : Event}
    {changed : Scope} (found : after.scopes[task]? = some changed)
    (uses : changed.uses.find? key = scope.uses.find? key) (begun : changed.begun = scope.begun)
    (declared : key ∈ scope.declared → key ∈ changed.declared)
    (pending : onKey key (after.pending task changed) = onKey key (run.batch.pending task scope))
    (silent : event.call.recorded? = some task → event.barriersOn key = [])
    (unfinished : event.call = .finish task → event.accepted = false)
    {passage' : Passage} (final : passage'.final = passage.final) :
    Thread n ⟨after, run.log ++ [event]⟩ key passage' task start next changed use where
  found := found
  known := uses.trans h.known
  path := by
    have quiet : (if event.call.recorded? = some task then event.barriersOn key else []) = [] := by
      split
      · exact silent (by assumption)
      · rfl
    dsimp only
    rw [barriersBy_append, quiet, List.append_nil, pending]
    exact h.path
  idle := fun unbegun undeclared =>
    h.idle (begun.symm.trans unbegun) fun mem => undeclared (declared mem)
  leaves := by rw [final, begun]; exact h.leaves
  closed := by
    intro earlier mem finishes accepted
    rcases List.mem_append.1 mem with mem | mem
    · exact h.closed earlier mem finishes accepted
    · obtain rfl := List.mem_singleton.1 mem
      rw [unfinished finishes] at accepted
      exact absurd accepted (by decide)

/-- A call that writes the scope of one task only, and may move the usage in which the next task is
to find the resource, keeps the resource woven if that task carries it on. -/
theorem Woven.write (h : Woven n run key passage first states) {after : Batch} (event : Event)
    (passage' : Passage) (states' : Nat → Usage) {task : Nat} {was changed : Scope}
    (found : run.batch.scopes[task]? = some was)
    (scopes : after.scopes = (run.batch.setScope task changed).scopes)
    (opening : task ≠ 0 → onKey key after.opening = onKey key run.batch.opening)
    (records : ∀ other, event.call.recorded? = some other → other = task)
    (initial : passage'.initial = passage.initial) (final : passage'.final = passage.final)
    (same : ∀ i, i ≠ task + 1 ∨ task + 1 < run.batch.scopes.length → states' i = states i)
    (current : after.isBegun (n - 1) = false →
      passage'.current = states' run.batch.scopes.length)
    (thread : first ≤ task → ∃ use, Thread n ⟨after, run.log ++ [event]⟩ key passage' task
      (states' task) (states' (task + 1)) changed use) :
    Woven n ⟨after, run.log ++ [event]⟩ key passage' first states' := by
  have bound : task < run.batch.scopes.length := (List.getElem?_eq_some_iff.1 found).1
  have length : after.scopes.length = run.batch.scopes.length := by simp [scopes, setScope]
  have firstBound : first = 0 ∨ first < run.batch.scopes.length := h.bound
  refine {
    starts := ?starts
    bound := by simpa only [length] using firstBound
    threads := ?threads
    current := ?current
    opening := ?opening }
  case starts =>
    rw [initial, ← h.starts]
    exact same first (by omega)
  case threads =>
    intro other le lt
    simp only [length] at lt
    by_cases eq : other = task
    · subst eq
      obtain ⟨use, thread⟩ := thread le
      exact ⟨changed, use, thread⟩
    · obtain ⟨scope, use, thread⟩ := h.threads other le lt
      refine ⟨scope, use, ?_⟩
      rw [same other (by omega), same (other + 1) (by omega)]
      refine thread.frame ?_ rfl rfl (fun mem => mem) (onKey_pending ?_ rfl) ?_ ?_ final
      · rw [scopes, getElem?_setScope found, if_neg eq]
        exact thread.found
      · intro zero
        exact opening fun eq' => eq (zero.trans eq'.symm)
      · intro records'
        exact absurd (records other records') eq
      · intro finishes
        exact absurd (records other (by rw [finishes]; rfl)) eq
  case current => simpa only [length] using current
  case opening =>
    intro empty
    simp only [scopes, setScope, List.set_eq_nil_iff] at empty
    rw [empty] at bound
    exact absurd bound (Nat.not_lt_zero _)

/-- A call that writes no scope and emits nothing on a resource keeps it woven. -/
theorem Woven.keep (h : Woven n run key passage first states) {after : Batch} {event : Event}
    {passage' : Passage} (scopes : after.scopes = run.batch.scopes)
    (opening : onKey key after.opening = onKey key run.batch.opening)
    (silent : event.barriersOn key = [])
    (unfinished : ∀ task, event.call = .finish task → event.accepted = false)
    (initial : passage'.initial = passage.initial) (current : passage'.current = passage.current)
    (final : passage'.final = passage.final ∨ run.batch.scopes = []) :
    Woven n ⟨after, run.log ++ [event]⟩ key passage' first states where
  starts := h.starts.trans initial.symm
  bound := by simpa only [scopes] using h.bound
  threads := by
    intro task le lt
    simp only [scopes] at lt
    have final : passage'.final = passage.final := by
      rcases final with final | empty
      · exact final
      · simp [empty] at lt
    obtain ⟨scope, use, thread⟩ := h.threads task le lt
    refine ⟨scope, use, thread.frame (scopes ▸ thread.found) rfl rfl (fun mem => mem)
      (onKey_pending (fun _ => opening) rfl) (fun _ => silent) (unfinished task) final⟩
  current := by
    intro unbegun
    have same : after.isBegun (n - 1) = run.batch.isBegun (n - 1) := by
      unfold isBegun
      rw [scopes]
    dsimp only at unbegun ⊢
    rw [current, scopes]
    exact h.current (same.symm.trans unbegun)
  opening := by
    intro empty
    dsimp only
    rw [initial, opening]
    exact h.opening (scopes.symm.trans empty)

/-- A call that writes the scope of one task, but does not touch a resource there, keeps the
resource woven. -/
theorem Woven.beside (h : Woven n run key passage first states) {after : Batch} {event : Event}
    {task : Nat} {was changed : Scope} (found : run.batch.scopes[task]? = some was)
    (scopes : after.scopes = (run.batch.setScope task changed).scopes)
    (opening : onKey key after.opening = onKey key run.batch.opening)
    (uses : first ≤ task → changed.uses.find? key = was.uses.find? key)
    (begun : changed.begun = was.begun) (declared : key ∈ was.declared → key ∈ changed.declared)
    (queued : onKey key changed.opening = onKey key was.opening)
    (records : ∀ other, event.call.recorded? = some other → other = task)
    (silent : first ≤ task → event.barriersOn key = [])
    (unfinished : ∀ other, event.call ≠ .finish other) :
    Woven n ⟨after, run.log ++ [event]⟩ key passage first states := by
  refine h.write event passage states found scopes (fun _ => opening) records rfl rfl
    (fun _ _ => rfl) ?_ fun le => ?_
  · intro unbegun
    refine h.current ?_
    rw [← unbegun]
    unfold isBegun
    rw [scopes, getElem?_setScope found]
    by_cases same : n - 1 = task
    · rw [if_pos same, same, found]
      exact begun.symm
    · rw [if_neg same]
  · obtain ⟨scope, use, thread⟩ := h.threads task le (List.getElem?_eq_some_iff.1 found).1
    obtain rfl : was = scope := Option.some.inj (found.symm.trans thread.found)
    refine ⟨use, thread.frame ?_ (uses le) begun declared (onKey_pending (fun _ => opening) queued)
      (fun _ => silent le) (fun finishes => absurd finishes (unfinished task)) rfl⟩
    rw [scopes, getElem?_setScope found, if_pos rfl]

/-- A task that has begun carries a resource on by the barriers of one more call. -/
theorem Thread.go {task : Nat} {start next : Usage} {scope : Scope} {use : TaskUse}
    (h : Thread n run key passage task start next scope use) (steady : Steady n run)
    (begun : scope.begun = true) {after : Batch} {event : Event} {changed : Scope}
    {use' : TaskUse} (found : after.scopes[task]? = some changed)
    (known : changed.uses.find? key = some use') (begun' : changed.begun = true)
    (opening : changed.opening = scope.opening) (same : after.opening = run.batch.opening)
    (records : event.call.recorded? = some task)
    (step : Path key use.current (event.barriersOn key) use'.current)
    (final : use'.final = use.final)
    (closed : ∀ earlier ∈ run.log ++ [event], earlier.call = .finish task →
      earlier.accepted = true → use'.current = use'.final)
    {passage' : Passage} (final' : passage'.final = passage.final) :
    Thread n ⟨after, run.log ++ [event]⟩ key passage' task start next changed use' where
  found := found
  known := known
  path := by
    have idle : run.batch.pending task scope = [] := steady.pending_eq_nil h.found begun
    have idle' : after.pending task changed = [] := by
      unfold pending at idle ⊢
      rw [opening, same]
      exact idle
    have before := h.path
    rw [idle, onKey_nil, List.append_nil] at before
    dsimp only
    rw [idle', onKey_nil, List.append_nil, barriersBy_append, if_pos records]
    exact before.trans step
  idle := fun unbegun => absurd (unbegun.symm.trans begun') (by decide)
  leaves := by
    rw [final, final', h.leaves, begun, begun']
  closed := closed

/-- Beginning a task emits what it opens with. Afterwards the thread starts where the task before
leaves the resource, with the barriers of the opening as its first ones. -/
theorem Thread.begin {task : Nat} {start next : Usage} {scope : Scope} {use : TaskUse}
    (h : Thread n run key passage task start next scope use)
    (silent : barriersBy run.log task key = [])
    (known : run.batch.passages.find? key = some passage) {last : Bool}
    (highest : last = decide (task + 1 = n)) {after : Batch} {event : Event}
    (found : after.scopes[task]? = some (scope.started run.batch last))
    (opening : task = 0 → after.opening = []) (calls : event.call = .beginTask task last)
    (emits : event.commands =
      emitted (run.batch.openingBarriers task ++ scope.opening) ++ [.flush])
    (unfinished : ∀ earlier ∈ run.log, earlier.call ≠ .finish task) :
    ∃ use', Thread n ⟨after, run.log ++ [event]⟩ key passage task start next
      (scope.started run.batch last) use' := by
  have path := h.path
  rw [silent, List.nil_append] at path
  -- What the task had pending on the resource is just what it emits now, and nothing is pending
  -- then. So the path is the same, only that its barriers are emitted.
  have opens : event.barriersOn key = onKey key (run.batch.pending task scope) := by
    unfold Event.barriersOn pending
    rw [emits, barriers_emitted_flush]
    unfold openingBarriers
    split
    · simp only [onKey_append]
      split <;> simp [onKey, Barrier.memory]
    · rfl
  have emptied : after.pending task (scope.started run.batch last) = [] := by
    unfold pending Scope.started
    split
    · rename_i zero
      rw [opening zero, List.append_nil]
    · rfl
  have closed : ∀ earlier ∈ run.log ++ [event], earlier.call = .finish task → False := by
    intro earlier mem finishes
    rcases List.mem_append.1 mem with mem | mem
    · exact unfinished earlier mem finishes
    · rw [List.mem_singleton.1 mem, calls] at finishes
      cases finishes
  have records : event.call.recorded? = some task := by
    rw [calls]
    rfl
  have emission : barriersBy (run.log ++ [event]) task key =
      onKey key (run.batch.pending task scope) := by
    rw [barriersBy_append, silent, List.nil_append, if_pos records, opens]
  -- Begun as the last task, it has to leave the resource as the batch does. Any other task keeps
  -- its own promise.
  by_cases top : task + 1 = n
  · have isLast : last = true := by simpa [top] using highest
    refine ⟨{ use with final := passage.final }, found, ?_, ?_, ?_, ?_, ?_⟩
    · simp [Scope.started, usesAtBegin, isLast, KeyTable.find?_map, h.known, known]
    · dsimp only
      rw [emission, emptied, onKey_nil, List.append_nil]
      exact path
    · intro unbegun
      simp [Scope.started] at unbegun
    · simp [Scope.started, top]
    · exact fun earlier mem finishes => (closed earlier mem finishes).elim
  · have isLast : last = false := by simpa [top] using highest
    have leaves := h.leaves
    rw [if_neg fun both => top both.1] at leaves
    refine ⟨use, found, ?_, ?_, ?_, ?_, ?_⟩
    · simp [Scope.started, usesAtBegin, isLast, h.known]
    · dsimp only
      rw [emission, emptied, onKey_nil, List.append_nil]
      exact path
    · intro unbegun
      simp [Scope.started] at unbegun
    · rw [if_neg fun both => top both.1]
      exact leaves
    · exact fun earlier mem finishes => (closed earlier mem finishes).elim

/-- A new task carries on every resource that the batch knows. The new task starts from where the
newest one leaves the resource, which is what the passage has as reached. -/
theorem Woven.create (h : Woven n run key passage first states) (steady : Steady n run)
    (known : run.batch.passages.find? key = some passage) (room : run.batch.scopes.length < n)
    {after : Batch} {event : Event} (calls : event.call = .createTask)
    (silent : event.barriersOn key = []) {created : Scope}
    (uses : created.uses = run.batch.passages.map fun _ p => ⟨p.current, p.current, false⟩)
    (unbegun : created.begun = false) (unqueued : created.opening = [])
    (scopes : after.scopes = run.batch.scopes ++ [created])
    (opening : after.opening = run.batch.opening) :
    ∃ states', Woven n ⟨after, run.log ++ [event]⟩ key passage first states' := by
  have missing : ∀ task, run.batch.scopes.length ≤ task → run.batch.isBegun task = false := by
    intro task le
    unfold isBegun
    rw [List.getElem?_eq_none le]
  have current : passage.current = states run.batch.scopes.length :=
    h.current (missing _ (by omega))
  have bound : first = 0 ∨ first < run.batch.scopes.length := h.bound
  have length : after.scopes.length = run.batch.scopes.length + 1 := by simp [scopes]
  have quiet : ∀ task, barriersBy (run.log ++ [event]) task key = barriersBy run.log task key := by
    intro task
    rw [barriersBy_append, silent]
    simp
  -- The new task finds the resource in the current usage of the passage, and so does, for now, the
  -- one after it.
  refine ⟨fun i => if i = run.batch.scopes.length + 1 then passage.current else states i,
    ?_, ?_, ?_, ?_, ?_⟩
  · rw [if_neg (by omega)]
    exact h.starts
  · simp only [length]
    omega
  · intro task le lt
    simp only [length] at lt
    rw [if_neg (by omega)]
    by_cases old : task < run.batch.scopes.length
    · obtain ⟨scope, use, thread⟩ := h.threads task le old
      rw [if_neg (by omega)]
      refine ⟨scope, use, thread.frame ?_ rfl rfl (fun mem => mem)
        (onKey_pending (fun _ => by rw [opening]) rfl) (fun _ => silent) ?_ rfl⟩
      · rw [scopes, List.getElem?_append_left old]
        exact thread.found
      · intro finishes
        rw [calls] at finishes
        cases finishes
    -- The new task has nothing pending, unless it is the first one, which opens with what is queued
    -- for the batch.
    · obtain rfl : task = run.batch.scopes.length := by omega
      rw [if_pos rfl]
      refine ⟨created, ⟨passage.current, passage.current, false⟩, ?_, ?_, ?_, ?_, ?_, ?_⟩
      · simp [scopes]
      · rw [uses, KeyTable.find?_map, known]
        rfl
      · dsimp only
        rw [quiet, steady.silent _ key (missing _ (Nat.le_refl _)), List.nil_append, pending,
          unqueued, List.append_nil, opening, current]
        by_cases zero : run.batch.scopes.length = 0
        · have same : states run.batch.scopes.length = passage.initial := by
            rw [← h.starts]
            congr 1
            omega
          rw [if_pos zero, same]
          exact h.opening (List.length_eq_zero_iff.1 zero)
        · rw [if_neg zero]
          exact .refl key _
      · exact fun _ _ => rfl
      · rw [if_neg fun both => absurd (unbegun.symm.trans both.2) (by decide)]
      · exact fun _ _ _ _ => rfl
  · intro _
    simp only [length, if_true]
  · intro empty
    simp [scopes] at empty

/-- The barrier with which a declaration opens its task is that of a transition that keeps the
contents. -/
theorem openingOf_eq_transition (batch : Batch) (key : Key) (src dst : Usage) :
    batch.openingOf key src dst = batch.transition key src dst false := by
  unfold openingOf transition
  rfl

/-- A task that declares a resource finds it in its own initial usage, and the next one in its final
usage. -/
theorem Woven.join (h : Woven n run key passage first states) (steady : Steady n run)
    {task : Nat} {scope : Scope} {initial final : Usage} {after : Batch} {event : Event}
    (bounded : run.batch.scopes.length ≤ n) (newest : run.batch.scopes.length = task + 1)
    (found : run.batch.scopes[task]? = some scope) (unbegun : scope.begun = false)
    (fresh : key ∉ scope.declared) (calls : event.call = .declare task key initial final)
    (silent : event.barriersOn key = [])
    (scopes : after.scopes = (run.batch.setScope task (scope.declaring key ⟨initial, final, false⟩
      (run.batch.openingOf key passage.current initial))).scopes)
    (opening : after.opening = run.batch.opening) :
    ∃ states', Woven n ⟨after, run.log ++ [event]⟩ key { passage with current := final } first
      states' := by
  have idle : run.batch.isBegun (n - 1) = false := by
    unfold isBegun
    by_cases top : n - 1 = task
    · rw [top, found]
      exact unbegun
    · rw [List.getElem?_eq_none (by omega)]
  have current : passage.current = states (task + 1) := newest ▸ h.current idle
  -- Until it declares the resource the task had it pass through, from where it finds it to where it
  -- leaves it. Now one more barrier is pending, and the next task is to find it in the final usage.
  refine ⟨fun i => if i = task + 1 then final else states i, h.write event _ _ found scopes
    (fun _ => by rw [opening]) ?_ rfl rfl ?_ ?_ fun le => ⟨⟨initial, final, false⟩, ?_⟩⟩
  · intro other records
    rw [calls] at records
    cases records
  · intro i apart
    rw [if_neg (by omega)]
  · intro _
    rw [if_pos newest]
  · obtain ⟨was, use, thread⟩ := h.threads task le (by omega)
    obtain rfl : scope = was := Option.some.inj (found.symm.trans thread.found)
    have leaves := thread.leaves
    rw [if_neg fun both => absurd (unbegun.symm.trans both.2) (by decide)] at leaves
    refine ⟨?_, ?_, ?_, ?_, ?_, ?_⟩
    · rw [scopes, getElem?_setScope found, if_pos rfl]
    · simp [Scope.declaring, KeyTable.find?_insert]
    -- The path so far ends in the usage that the passage has, and the declaration goes on from
    -- there.
    · have before := thread.path
      rw [thread.idle unbegun fresh, leaves, ← current] at before
      have quiet : barriersBy (run.log ++ [event]) task key = barriersBy run.log task key := by
        rw [barriersBy_append, silent]
        simp
      have more : onKey key (after.pending task (scope.declaring key ⟨initial, final, false⟩
            (run.batch.openingOf key passage.current initial))) =
          onKey key (run.batch.pending task scope) ++
            run.batch.openingOf key passage.current initial := by
        rw [openingOf_eq_transition]
        simp [pending, Scope.declaring, opening, onKey_transition_self]
      dsimp only
      rw [if_neg (by omega), quiet, more, ← List.append_assoc, openingOf_eq_transition]
      exact before.trans (path_transition run.batch key passage.current initial false)
    · intro _ undeclared
      simp [Scope.declaring] at undeclared
    · dsimp only
      rw [if_pos rfl, if_neg]
      rintro ⟨-, begun⟩
      exact absurd (unbegun.symm.trans begun) (by decide)
    · intro earlier mem finishes accepted
      rcases List.mem_append.1 mem with mem | mem
      · obtain ⟨other, found', begun⟩ :=
          isBegun_eq_true.1 (steady.ended earlier mem task finishes accepted)
        obtain rfl : scope = other := Option.some.inj (found.symm.trans found')
        exact absurd (unbegun.symm.trans begun) (by decide)
      · rw [List.mem_singleton.1 mem, calls] at finishes
        cases finishes

end

end GpuSync.Batch
