import GpuSync.Proofs.Batch.Thread
import Mathlib.Tactic.Common

/-!
# One more call for one resource

A resource that is woven into a batch stays so whatever is called next (`Woven.next`): the calls
that concern it are those that begin and finish a task, take the resource to another usage or
declare it for a task, and each carries it on. A resource is woven in as it joins the batch
(`woven_declared`, `woven_introduced`), so what `Followed` says of it is kept from the empty batch
on (`Followed.next`).
-/

namespace GpuSync.Batch

/-! ## The barriers of a call on one resource

The barriers of a call are on the resource that the call is on, except when a task begins or is
finished. Then all resources of the task are gone through, and each of them has its own part. -/

/-- A declaration of one resource opens its task with no barrier on another. -/
theorem onKey_openingOf_of_ne (batch : Batch) {key other : Key} (apart : other ≠ key)
    (src dst : Usage) : onKey key (batch.openingOf other src dst) = [] := by
  rw [openingOf_eq_transition]
  exact onKey_transition_of_ne batch apart src dst false

/-- The first use of one resource takes no barrier on another. -/
theorem onKey_firstUse_of_ne (batch : Batch) (tracker : Tracker) {key other : Key}
    (apart : other ≠ key) (initial : Usage) :
    onKey key (batch.firstUse tracker other initial).toList = [] := by
  refine List.filter_eq_nil_iff.2 fun barrier mem => ?_
  rw [key_of_mem_firstUse mem]
  simpa using apart

/-- As a task is finished, one of its resources makes one transition. -/
theorem onKey_closingBarriers (batch : Batch) {scope : Scope} {key : Key} {use : TaskUse}
    (known : scope.uses.find? key = some use) :
    onKey key (batch.closingBarriers scope) =
      batch.transition key use.current use.final (use.discard && key.isImage) := by
  unfold onKey closingBarriers
  rw [KeyTable.filter_flatMap_entries _ key _ _ fun entry apart =>
    onKey_transition_of_ne batch apart _ _ _, known, Option.toList_some, List.flatMap_singleton]
  exact onKey_transition_self batch key use.current use.final (use.discard && key.isImage)

section

variable {n : Nat} {run : Run} {key : Key} {passage : Passage} {first : Nat}
  {states : Nat → Usage} {tracker : Tracker} {after : Batch}

/-! ## One more call

There is one lemma for each way in which a call can touch a resource that is woven in. The thread of
the recorded task is the only one that changes. -/

/-- A resource stays woven as another is declared for a task. -/
theorem Woven.declareOther (h : Woven n run key passage first states) {event : Event}
    {task : Nat} {other : Key} (apart : other ≠ key) {scope : Scope}
    (found : run.batch.scopes[task]? = some scope) {use : TaskUse} {barriers : List Barrier}
    (scopes : after.scopes = (run.batch.setScope task (scope.declaring other use barriers)).scopes)
    (opening : after.opening = run.batch.opening) (elsewhere : onKey key barriers = [])
    {initial final : Usage} (calls : event.call = .declare task other initial final)
    (silent : event.barriersOn key = []) :
    Woven n ⟨after, run.log ++ [event]⟩ key passage first states := by
  refine h.beside found scopes (by rw [opening]) (fun _ => ?_) rfl (fun mem => ?_) ?_ ?_
    (fun _ => silent) fun task' finishes => ?_
  · simp [Scope.declaring, KeyTable.find?_insert, apart.symm]
  · exact List.mem_append_left _ mem
  · simp [Scope.declaring, elsewhere]
  · intro task' records
    rw [calls] at records
    cases records
  · rw [calls] at finishes
    cases finishes

/-- A resource stays woven as a task begins. The first task emits what is queued for the batch on
the resource, and each task what is queued for itself. -/
theorem Woven.begin (h : Woven n run key passage first states) (steady : Steady n run)
    (known : run.batch.passages.find? key = some passage) {task : Nat} {last : Bool}
    {scope : Scope} (found : run.batch.scopes[task]? = some scope) (unbegun : scope.begun = false)
    (bounded : run.batch.scopes.length ≤ n) {event : Event} (fits : Fits n run.log event)
    (calls : event.call = .beginTask task last)
    (emits : event.commands =
      emitted (run.batch.openingBarriers task ++ scope.opening) ++ [.flush])
    (scopes : after.scopes = (run.batch.setScope task (scope.started run.batch last)).scopes)
    (opening : after.opening = if task = 0 then [] else run.batch.opening) :
    Woven n ⟨after, run.log ++ [event]⟩ key passage first states := by
  have bound : task < n :=
    Nat.lt_of_lt_of_le (List.getElem?_eq_some_iff.1 found).1 bounded
  have idle : run.batch.isBegun task = false := by
    unfold isBegun
    rw [found]
    exact unbegun
  refine h.write event passage states found scopes ?_ ?_ rfl rfl (fun _ _ => rfl) ?_ fun le => ?_
  · intro later
    rw [opening, if_neg later]
  · intro other records
    rw [calls] at records
    exact (Option.some.inj records).symm
  -- As long as the highest task has not begun it had not before, so the usages for the next task
  -- are still those of the newest.
  · intro rest
    refine h.current ?_
    rw [← rest]
    unfold isBegun
    rw [scopes, getElem?_setScope found]
    by_cases same : n - 1 = task
    · -- the highest task begins, so it has begun afterwards
      have begun : after.isBegun (n - 1) = true := by
        refine isBegun_eq_true.2 ⟨scope.started run.batch last, ?_, rfl⟩
        rw [scopes, getElem?_setScope found, if_pos same]
      rw [begun] at rest
      exact absurd rest (by decide)
    · rw [if_neg same]
  -- The task itself has emitted nothing yet, and now emits what was pending.
  · obtain ⟨was, use, thread⟩ := h.threads task le (List.getElem?_eq_some_iff.1 found).1
    obtain rfl : scope = was := Option.some.inj (found.symm.trans thread.found)
    refine thread.begin (steady.silent task key idle) known ((fits.begins task last calls).2 bound)
      ?_ ?_ calls emits ?_
    · rw [scopes, getElem?_setScope found, if_pos rfl]
    · intro zero
      rw [opening, if_pos zero]
    · refine fits.unfinished task bound ?_
      rw [calls]
      rfl

/-- A resource stays woven as a task that has begun takes a resource on. The thread of the task gets
longer by what was emitted, and no other thread is touched. -/
theorem Woven.go (h : Woven n run key passage first states) {event : Event} {passage' : Passage}
    (steady : Steady n run) {task : Nat} {scope changed : Scope}
    (found : run.batch.scopes[task]? = some scope) (begun : scope.begun = true)
    (scopes : after.scopes = (run.batch.setScope task changed).scopes)
    (begun' : changed.begun = true) (opening : changed.opening = scope.opening)
    (same : after.opening = run.batch.opening) (records : event.call.recorded? = some task)
    (initial : passage'.initial = passage.initial)
    (final : passage'.final = passage.final)
    (current : run.batch.isBegun (n - 1) = false → passage'.current = passage.current)
    (step : ∀ use, scope.uses.find? key = some use → ∃ use', changed.uses.find? key = some use' ∧
      Path key use.current (event.barriersOn key) use'.current ∧ use'.final = use.final ∧
      ((∃ earlier ∈ run.log ++ [event], earlier.call = .finish task ∧ earlier.accepted = true) →
        use'.current = use'.final)) :
    Woven n ⟨after, run.log ++ [event]⟩ key passage' first states := by
  refine h.write event passage' states found scopes (fun _ => by rw [same]) ?_ initial final
    (fun _ _ => rfl) ?_ fun le => ?_
  · intro other records'
    exact Option.some.inj (records'.symm.trans records)
  · intro rest
    have before : run.batch.isBegun (n - 1) = false := by
      rw [← rest]
      unfold isBegun
      rw [scopes, getElem?_setScope found]
      by_cases highest : n - 1 = task
      · rw [if_pos highest, highest, found]
        exact begun.trans begun'.symm
      · rw [if_neg highest]
    rw [current before]
    exact h.current before
  · obtain ⟨was, use, thread⟩ := h.threads task le (List.getElem?_eq_some_iff.1 found).1
    obtain rfl : scope = was := Option.some.inj (found.symm.trans thread.found)
    obtain ⟨use', known, path, left, closed⟩ := step use thread.known
    refine ⟨use', thread.go steady begun ?_ known begun' opening same records path left ?_ final⟩
    · rw [scopes, getElem?_setScope found, if_pos rfl]
    · exact fun earlier mem finishes accepted => closed ⟨earlier, mem, finishes, accepted⟩

/-- A task that moves a resource, or gives its contents up, takes it on. -/
theorem Woven.setUse (h : Woven n run key passage first states) (steady : Steady n run)
    {event : Event} {task : Nat} {other : Key} {scope : Scope} {use : TaskUse}
    (found : run.batch.scopes[task]? = some scope) (begun : scope.begun = true)
    (known : first ≤ task → other = key → ∃ old, scope.uses.find? key = some old ∧
      Path key old.current (event.barriersOn key) use.current ∧ use.final = old.final)
    (silent : other ≠ key → event.barriersOn key = [])
    (records : event.call.recorded? = some task) (goes : ∀ task, event.call ≠ .finish task)
    (unfinished : ∀ earlier ∈ run.log, earlier.call ≠ .finish task) :
    Woven n ⟨run.batch.setUse task scope other use, run.log ++ [event]⟩ key passage first
      states := by
  have records' : ∀ task', event.call.recorded? = some task' → task' = task :=
    fun task' eq => Option.some.inj (eq.symm.trans records)
  by_cases touches : first ≤ task ∧ other = key
  · obtain ⟨le, rfl⟩ := touches
    obtain ⟨old, was, path, left⟩ := known le rfl
    refine h.go steady found begun rfl begun rfl rfl records rfl rfl (fun _ => rfl) ?_
    intro use' found'
    obtain rfl : old = use' := Option.some.inj (was.symm.trans found')
    refine ⟨use, by simp [KeyTable.find?_insert], path, left, ?_⟩
    rintro ⟨earlier, mem, finishes, -⟩
    rcases List.mem_append.1 mem with mem | mem
    · exact absurd finishes (unfinished earlier mem)
    · rw [List.mem_singleton.1 mem] at finishes
      exact absurd finishes (goes task)
  · have apart : first ≤ task → other ≠ key := fun le eq => touches ⟨le, eq⟩
    refine h.beside found rfl rfl (fun le => ?_) rfl (fun mem => mem) rfl records'
      (fun le => silent (apart le)) goes
    rw [KeyTable.find?_insert, if_neg (apart le).symm]

/-- A task leaves its resources as promised as it is finished. The thread is closed, and the passage
moves on if the task is the last one. -/
theorem Woven.finish (h : Woven n run key passage first states) {event : Event}
    {passage' : Passage} (steady : Steady n run) {task : Nat} {scope : Scope}
    (found : run.batch.scopes[task]? = some scope) (begun : scope.begun = true)
    (calls : event.call = .finish task) {memory : List Barrier} (aside : onKey key memory = [])
    (emits : event.commands = emitted (run.batch.closingBarriers scope ++ memory) ++ [.flush])
    (scopes : after.scopes = (run.batch.setScope task scope.finished).scopes)
    (opening : after.opening = run.batch.opening) (initial : passage'.initial = passage.initial)
    (final : passage'.final = passage.final)
    (current : run.batch.lastTask ≠ some task → passage'.current = passage.current) :
    Woven n ⟨after, run.log ++ [event]⟩ key passage' first states := by
  refine h.go steady found begun scopes begun rfl opening (by rw [calls]; rfl) initial final ?_ ?_
  · intro unbegun
    refine current fun marked => ?_
    -- the task marked as the last one is the highest, and it has begun
    obtain ⟨highest, begun⟩ := steady.last task marked
    rw [← highest, Nat.add_sub_cancel, begun] at unbegun
    exact absurd unbegun (by decide)
  · intro use known
    refine ⟨{ use with current := use.final, discard := false }, ?_, ?_, rfl, fun _ => rfl⟩
    · rw [Scope.finished, KeyTable.find?_map, known]
      rfl
    · rw [Event.barriersOn, emits, barriers_emitted_flush, onKey_append, aside, List.append_nil,
        onKey_closingBarriers run.batch known]
      exact path_transition run.batch key use.current use.final (use.discard && key.isImage)

/-- **A resource stays woven whatever is called.** The calls on other resources, and those on no
resource, are shown to leave the table and the queue of this one alone. -/
theorem Woven.next (h : Woven n run key passage first states) (steady : Steady n run)
    (known : run.batch.passages.find? key = some passage) {call : Call}
    {answer : Except BatchError Reply} {commands : List Command}
    (effect : Effect tracker run.batch call answer after commands)
    (fits : Fits n run.log ⟨call, answer, commands⟩) (bounded : after.scopes.length ≤ n) :
    ∃ passage' states', after.passages.find? key = some passage' ∧
      Woven n (run.extend call answer after commands) key passage' first states' := by
  -- One case for each effect. What does not concern the resource keeps the thread of every task,
  -- and the five calls that do have a lemma each.
  have before : run.batch.scopes.length ≤ n := Nat.le_trans effect.length_mono bounded
  have plain := fits.plain
  cases effect with
  | refused call error =>
    exact ⟨passage, states, known, h.keep rfl rfl rfl (fun _ _ => rfl) rfl rfl (.inl rfl)⟩
  -- Declared again for the batch, the resource gets another final usage. No task can tell, since
  -- there is none.
  | @redeclared other initial final was unstarted found same =>
    by_cases eq : other = key
    · subst eq
      obtain rfl : passage = was := Option.some.inj (known.symm.trans found)
      refine ⟨{ passage with final }, states, by simp [KeyTable.find?_insert], ?_⟩
      exact h.keep rfl rfl rfl nofun rfl rfl (.inr unstarted)
    · refine ⟨passage, states, ?_, ?_⟩
      · simpa [KeyTable.find?_insert, Ne.symm eq] using known
      · exact h.keep rfl rfl rfl nofun rfl rfl (.inl rfl)
  | @declared other initial final unstarted unknown room =>
    have apart : other ≠ key := KeyTable.ne_of_find? unknown known
    refine ⟨passage, states, ?_, ?_⟩
    · simpa [KeyTable.find?_insert, apart.symm] using known
    · refine h.keep rfl ?_ rfl nofun rfl rfl (.inl rfl)
      rw [onKey_append, onKey_firstUse_of_ne run.batch tracker apart, List.append_nil]
  | relaxes | passedOver | undiscarded =>
    exact ⟨passage, states, known, h.keep rfl rfl rfl nofun rfl rfl (.inl rfl)⟩
  | created open' room =>
    have more : run.batch.scopes.length < n := by
      rw [List.length_append, List.length_singleton] at bounded
      exact bounded
    refine ⟨passage, exists_and_left.2 ⟨known, ?_⟩⟩
    exact h.create steady known more rfl rfl rfl rfl rfl rfl rfl
  | @joined task other initial final scope was newest found unbegun fresh found' =>
    by_cases eq : other = key
    · subst eq
      obtain rfl : passage = was := Option.some.inj (known.symm.trans found')
      refine ⟨{ passage with current := final }, exists_and_left.2 ⟨?_, ?_⟩⟩
      · simp [KeyTable.find?_insert]
      · exact h.join steady before newest found unbegun fresh rfl rfl rfl rfl
    · refine ⟨passage, states, ?_, ?_⟩
      · simpa [KeyTable.find?_insert, Ne.symm eq] using known
      · exact h.declareOther eq found rfl rfl (onKey_openingOf_of_ne run.batch eq _ _) rfl rfl
  -- A task that introduces another resource leaves the thread of this one alone.
  | @introduced task other initial final scope newest found unbegun fresh unknown room =>
    have apart : other ≠ key := KeyTable.ne_of_find? unknown known
    refine ⟨passage, states, ?_, ?_⟩
    · simpa [KeyTable.find?_insert, apart.symm] using known
    · exact h.declareOther apart found rfl rfl (onKey_firstUse_of_ne run.batch tracker apart _)
        rfl rfl
  | began inRange found unbegun =>
    exact ⟨passage, states, known, h.begin steady known found unbegun before fits rfl rfl rfl rfl⟩
  | @moved task other usage scope use found begun found' =>
    have bound : task < n := Nat.lt_of_lt_of_le (List.getElem?_eq_some_iff.1 found).1 before
    refine ⟨passage, states, known, h.setUse steady found begun ?_ ?_ rfl (fun _ => nofun)
      (fits.unfinished task bound rfl)⟩
    · rintro - rfl
      refine ⟨use, found', ?_, rfl⟩
      rw [Event.barriersOn, barriers_emitted, onKey_transition_self]
      exact path_transition run.batch other use.current usage _
    · intro apart
      rw [Event.barriersOn, barriers_emitted, onKey_transition_of_ne run.batch apart]
  | @fetched task other usage scope found begun unknown counts room =>
    have bound : task < n := Nat.lt_of_lt_of_le (List.getElem?_eq_some_iff.1 found).1 before
    refine ⟨passage, states, known, h.setUse steady found begun ?_ ?_ rfl (fun _ => nofun)
      (fits.unfinished task bound rfl)⟩
    · rintro le rfl
      -- a task from the first one on knows the resource
      obtain ⟨was, use, thread⟩ := h.threads task le (List.getElem?_eq_some_iff.1 found).1
      obtain rfl : scope = was := Option.some.inj (found.symm.trans thread.found)
      rw [thread.known] at unknown
      cases unknown
    · intro apart
      rw [Event.barriersOn, barriers_emitted, onKey_transition_of_ne run.batch apart]
  | @discarded task other scope use found begun found' =>
    have bound : task < n := Nat.lt_of_lt_of_le (List.getElem?_eq_some_iff.1 found).1 before
    refine ⟨passage, states, known, h.setUse steady found begun ?_ (fun _ => rfl) rfl
      (fun _ => nofun) (fits.unfinished task bound rfl)⟩
    rintro - rfl
    exact ⟨use, found', .refl other _, rfl⟩
  | @ended task scope found begun =>
    have aside : onKey key
        (if run.batch.lastTask = some task ∧ run.batch.readsBackMemory = true then
          [Barrier.memory .general .hostRead] else []) = [] := by
      split <;> simp [onKey, Barrier.memory]
    -- The last task settles the passage, any other one does not. Either way the task leaves the
    -- resource where the next one finds it.
    by_cases marked : run.batch.lastTask = some task
    · refine ⟨{ passage with current := passage.final }, states, ?_, ?_⟩
      · simp [marked, KeyTable.find?_map, known]
      · exact h.finish steady found begun rfl aside rfl rfl rfl rfl rfl
          fun unmarked => absurd marked unmarked
    · refine ⟨passage, states, by simpa [marked] using known, ?_⟩
      exact h.finish steady found begun rfl aside rfl rfl rfl rfl rfl fun _ => rfl
  | asked | uploads | readsBack | marked | overridden | installed | readBack | uploaded
  | committed => exact plain.elim

/-! ## How a resource joins a batch

A resource joins with a declaration. One for the whole batch weaves it in from the first task on,
and one for a task from that task on; nothing was emitted on it before, since no barrier is emitted
on a resource that no task has. -/

/-- No barriers are queued on a resource that the batch does not know. -/
theorem onKey_eq_nil_of_unknown {batch : Batch} {key : Key}
    (unknown : batch.passages.find? key = none) {barriers : List Barrier}
    (known : ∀ barrier ∈ barriers, batch.Known barrier) : onKey key barriers = [] := by
  refine List.filter_eq_nil_iff.2 fun barrier mem on => ?_
  obtain ⟨other, on', isKnown⟩ := known barrier mem
  obtain rfl : other = key := Option.some.inj (on'.symm.trans (by simpa using on))
  rw [unknown] at isKnown
  cases isKnown

/-- The barrier at the first use of a resource is on that resource. -/
theorem onKey_firstUse_self (batch : Batch) (tracker : Tracker) (key : Key) (initial : Usage) :
    onKey key (batch.firstUse tracker key initial).toList =
      (batch.firstUse tracker key initial).toList :=
  List.filter_eq_self.2 fun _ mem => by simpa using key_of_mem_firstUse mem

/-- A resource declared for the whole batch is woven in from the first task on. -/
theorem woven_declared (steady : Steady n run) (unknown : run.batch.passages.find? key = none)
    (unstarted : run.batch.scopes = []) {event : Event} (initial final : Usage)
    (scopes : after.scopes = run.batch.scopes)
    (opening : after.opening =
      run.batch.opening ++ (run.batch.firstUse tracker key initial).toList) :
    Woven n ⟨after, run.log ++ [event]⟩ key ⟨initial, final, initial⟩ 0 fun _ => initial where
  starts := rfl
  bound := .inl rfl
  threads := by
    intro task _ bound
    simp [scopes, unstarted] at bound
  current := fun _ => rfl
  opening := by
    intro _
    dsimp only
    rw [opening, onKey_append, onKey_eq_nil_of_unknown unknown steady.opening, List.nil_append,
      onKey_firstUse_self]
    exact path_firstUse run.batch tracker key initial

/-- A resource that the newest task declares first is woven in from that task on. -/
theorem woven_introduced (steady : Steady n run) (unknown : run.batch.passages.find? key = none)
    {task : Nat} {scope : Scope} (newest : run.batch.scopes.length = task + 1)
    (found : run.batch.scopes[task]? = some scope) (unbegun : scope.begun = false) {event : Event}
    {initial final rest : Usage} (calls : event.call = .declare task key initial final)
    (scopes : after.scopes = (run.batch.setScope task (scope.declaring key ⟨initial, final, false⟩
      (run.batch.firstUse tracker key initial).toList)).scopes)
    (opening : after.opening = run.batch.opening) :
    Woven n ⟨after, run.log ++ [event]⟩ key ⟨initial, rest, final⟩ task
      fun i => if i = task then initial else final := by
  have idle : run.batch.isBegun task = false := by
    unfold isBegun
    rw [found]
    exact unbegun
  -- There is one task to look at, the newest: the tasks before do not know the resource.
  have length : after.scopes.length = task + 1 := by
    simp [scopes, setScope, newest]
  refine ⟨if_pos rfl, .inr (by simp [length]), fun other le lt => ?_, fun _ => ?_, fun empty => ?_⟩
  · obtain rfl : other = task := by
      simp only [length] at lt
      omega
    rw [if_pos rfl, if_neg (by omega)]
    refine ⟨scope.declaring key ⟨initial, final, false⟩
      (run.batch.firstUse tracker key initial).toList, ⟨initial, final, false⟩, ?_, ?_, ?_, ?_, ?_,
      ?_⟩
    · rw [scopes, getElem?_setScope found, if_pos rfl]
    · simp [Scope.declaring, KeyTable.find?_insert]
    -- The task emitted nothing so far and opens with the barrier of the first use alone, since
    -- nothing else was queued on a resource that was not known.
    · have quiet : barriersBy (run.log ++ [event]) other key = [] := by
        rw [barriersBy_append, steady.silent other key idle, List.nil_append, if_neg]
        rw [calls]
        intro reports
        cases reports
      have own : onKey key (after.pending other (scope.declaring key ⟨initial, final, false⟩
          (run.batch.firstUse tracker key initial).toList)) =
          (run.batch.firstUse tracker key initial).toList := by
        have before : onKey key (if other = 0 then run.batch.opening else []) = [] := by
          split
          · exact onKey_eq_nil_of_unknown unknown steady.opening
          · rfl
        rw [pending, Scope.declaring, opening, onKey_append, onKey_append, before,
          onKey_eq_nil_of_unknown unknown (steady.openings other scope found),
          onKey_firstUse_self]
        rfl
      dsimp only
      rw [quiet, own, List.nil_append]
      exact path_firstUse run.batch tracker key initial
    · intro _ undeclared
      simp [Scope.declaring] at undeclared
    · rw [if_neg]
      rintro ⟨-, begun⟩
      exact absurd (unbegun.symm.trans begun) (by decide)
    · intro earlier mem finishes accepted
      rcases List.mem_append.1 mem with mem | mem
      · rw [steady.ended earlier mem other finishes accepted] at idle
        cases idle
      · rw [List.mem_singleton.1 mem, calls] at finishes
        cases finishes
  · simp [length]
  · rw [show after.scopes = [] from empty] at length
    cases length

/-- A call that was refused introduces nothing. -/
theorem Event.introduces?_error (key : Key) (call : Call) (error : BatchError)
    (commands : List Command) : (Event.mk call (.error error) commands).introduces? key = none := by
  unfold Event.introduces?
  split <;> simp [Event.accepted, Except.toBool]

/-- A call that does not introduce a resource leaves it unknown. -/
theorem Effect.find?_eq_none {call : Call} {answer : Except BatchError Reply}
    {commands : List Command} (effect : Effect tracker run.batch call answer after commands)
    (unknown : run.batch.passages.find? key = none)
    (silent : (Event.mk call answer commands).introduces? key = none) :
    after.passages.find? key = none := by
  have write {other : Key} {value : Passage} (apart : other ≠ key) :
      (run.batch.passages.insert other value).find? key = none := by
    rw [KeyTable.find?_insert, if_neg apart.symm]
    exact unknown
  cases effect with
  | redeclared | declared =>
    refine write fun eq => ?_
    simp [Event.introduces?, Event.accepted, Except.toBool, eq] at silent
  | joined | introduced =>
    refine write fun eq => ?_
    simp [Event.introduces?, Event.accepted, Except.toBool, eq] at silent
  | ended =>
    dsimp only
    split
    · rw [KeyTable.find?_map, unknown]
      rfl
    · exact unknown
  | _ => exact unknown

/-- What holds of a resource is kept by every call of the run. Before the first declaration nothing
is queued or emitted on the resource; that declaration weaves it in, and it stays woven. -/
theorem Followed.next (h : Followed n run key) (steady : Steady n run) {call : Call}
    {answer : Except BatchError Reply} {commands : List Command}
    (effect : Effect tracker run.batch call answer after commands)
    (fits : Fits n run.log ⟨call, answer, commands⟩) (bounded : after.scopes.length ≤ n) :
    Followed n (run.extend call answer after commands) key := by
  have log : firstTask? key (run.extend call answer after commands).log =
      (firstTask? key run.log).or ((Event.mk call answer commands).introduces? key) := by
    unfold firstTask? Run.extend
    rw [List.findSome?_append]
    simp
  unfold Followed at h ⊢
  rw [log]
  -- Either the resource was woven in before, and stays so, or this call is the one that weaves it
  -- in, or it stays unknown.
  cases earlier : firstTask? key run.log with
  | some first =>
    rw [earlier] at h
    obtain ⟨passage, states, known, woven⟩ := h
    exact woven.next steady known effect fits bounded
  | none =>
    rw [earlier] at h
    rw [Option.none_or]
    cases joins : (Event.mk call answer commands).introduces? key with
    | none => exact effect.find?_eq_none h joins
    | some first =>
      cases effect with
      | refused => simp [Event.introduces?_error] at joins
      | @declared other initial final unstarted unknown room =>
        obtain ⟨rfl, rfl⟩ : other = key ∧ 0 = first := by
          simpa [Event.introduces?, Event.accepted, Except.toBool] using joins
        refine ⟨⟨initial, final, initial⟩, fun _ => initial, ?_, ?_⟩
        · simp [Run.extend, KeyTable.find?_insert]
        · exact woven_declared steady h unstarted initial final rfl rfl
      | @introduced task other initial final scope newest found unbegun fresh unknown room =>
        obtain ⟨rfl, rfl⟩ : other = key ∧ task = first := by
          simpa [Event.introduces?, Event.accepted, Except.toBool] using joins
        refine ⟨⟨initial, (tracker.restingUsage other).1, final⟩,
          fun i => if i = task then initial else final, ?_, ?_⟩
        · simp [Run.extend, KeyTable.find?_insert]
        · exact woven_introduced steady h newest found unbegun rfl rfl rfl
      -- These declare what is known already, so the resource would have been woven in before.
      | @redeclared other _ _ _ _ known | @joined _ other _ _ _ _ _ _ _ _ known =>
        have eq : other = key := by
          by_contra apart
          simp [Event.introduces?, apart] at joins
        rw [eq, h] at known
        cases known
      | _ => cases joins

end

end GpuSync.Batch
