import GpuSync.Proofs.Batch.Effect
import Mathlib.Data.List.Nodup

/-!
# What is on record of the tasks of a batch

Once a task has begun, its table changes as it is recorded. What it was told before that no longer
shows in it, and yet the task created after it goes by it. So this is kept beside the batch, from
the calls and their answers alone.

* `Batch.Brief` is what is on record of a task: the table it was created with, and what it declared.
* `Batch.Briefing` is a batch with the briefs of its tasks, `Batch.Briefing.next` goes on with one
  call, and `Batch.briefingOf` with all of them.
* `Batch.Briefing.found?` is the usage in which a task finds a resource, by the briefs alone.
* `Batch.Briefing.created` and `Batch.Briefing.declared` are the two ways in which there comes to be
  more on record, with what tasks find then.
-/

namespace GpuSync.Batch

/-! ## What is on record of a task

A brief has two kinds of entries for a resource: the usages with which the task was created, and the
terms of what it declared itself. A term counts before the creation, since it is the later one.
There is at most one term for a resource, because a task that declares a resource twice is refused;
this is what makes the order of the terms irrelevant. -/

/-- What a task says of a resource that it declares. -/
structure Term where
  /-- The resource. -/
  key : Key
  /-- The usage in which the task expects it. -/
  initial : Usage
  /-- The usage in which the task leaves it. -/
  final : Usage

/-- What is on record of a task. -/
structure Brief where
  /-- The index that the task was given. -/
  index : Nat
  /-- The table that it was created with. -/
  seed : KeyTable TaskUse
  /-- What it declared, in order. -/
  terms : List Term := []
  /-- Whether a task that was marked as the last one was finished before it was created. -/
  afterLast : Bool

namespace Brief

/-- Adds what the task declares. -/
def declaring (brief : Brief) (term : Term) : Brief := { brief with terms := brief.terms ++ [term] }

/-- What the task declared of a resource. -/
def term? (brief : Brief) (key : Key) : Option Term := brief.terms.find? (·.key = key)

/-- The entry of a resource in the table of the task until it begins: as declared or else as
created. -/
def use? (brief : Brief) (key : Key) : Option TaskUse :=
  match brief.term? key with
  | some term => some ⟨term.initial, term.final, false⟩
  | none => brief.seed.find? key

/-- The usage in which the task leaves a resource: the one that it declared or else the one that it
was created with. -/
def leaves? (brief : Brief) (key : Key) : Option Usage :=
  match brief.term? key with
  | some term => some term.final
  | none => (brief.seed.find? key).map (·.current)

section

variable {brief : Brief} {term : Term} {key : Key}

/-- A resource that no term is about has no term. -/
theorem term?_eq_none (fresh : key ∉ brief.terms.map (·.key)) : brief.term? key = none := by
  refine List.find?_eq_none.2 fun term mem same => fresh ?_
  exact List.mem_map.2 ⟨term, mem, by simpa using same⟩

/-- With one term for each resource, the search by resource finds every term again. -/
theorem term?_of_mem (nodup : (brief.terms.map (·.key)).Nodup) (mem : term ∈ brief.terms) :
    brief.term? term.key = some term := by
  cases found : brief.term? term.key with
  | none => exact absurd (List.find?_eq_none.1 found term mem) (by simp)
  | some other =>
    have same : other.key = term.key := by simpa using List.find?_some found
    rw [List.inj_on_of_nodup_map nodup (List.mem_of_find?_eq_some found) mem same]

/-- A declaration counts for its resource if nothing was declared twice. -/
theorem use?_of_mem (nodup : (brief.terms.map (·.key)).Nodup) (mem : term ∈ brief.terms) :
    brief.use? term.key = some ⟨term.initial, term.final, false⟩ := by
  unfold use?
  rw [term?_of_mem nodup mem]

/-- A declaration counts for its resource if there is none before. -/
theorem term?_declaring (fresh : brief.term? term.key = none) (key : Key) :
    (brief.declaring term).term? key = if key = term.key then some term else brief.term? key := by
  show (brief.terms ++ [term]).find? (·.key = key) = _
  rw [List.find?_append, List.find?_singleton]
  by_cases same : key = term.key
  · subst same
    replace fresh : brief.terms.find? (·.key = term.key) = none := fresh
    simp [fresh]
  · simp [term?, same, Ne.symm same]

/-- A new term changes the entry of its own resource only. -/
theorem use?_declaring (fresh : brief.term? term.key = none) (key : Key) :
    (brief.declaring term).use? key =
      if key = term.key then some ⟨term.initial, term.final, false⟩ else brief.use? key := by
  unfold use?
  rw [term?_declaring fresh]
  by_cases same : key = term.key
  · rw [if_pos same, if_pos same]
  · rw [if_neg same, if_neg same]
    rfl

/-- A new term changes where the task leaves its own resource only. -/
theorem leaves?_declaring (fresh : brief.term? term.key = none) (key : Key) :
    (brief.declaring term).leaves? key =
      if key = term.key then some term.final else brief.leaves? key := by
  unfold leaves?
  rw [term?_declaring fresh]
  by_cases same : key = term.key
  · rw [if_pos same, if_pos same]
  · rw [if_neg same, if_neg same]
    rfl

end

end Brief

/-! ## The briefs of all tasks

What a task declares is seen by the tasks after it and by no task before, so where a task finds a
resource is read off the brief of the task before it. A run is carried along with the briefs it
leaves, and the briefs are changed by accepted calls only. -/

/-- A batch with the briefs of its tasks. -/
structure Briefing where
  /-- The batch. -/
  batch : Batch
  /-- The briefs of its tasks, in the order in which these were created. -/
  briefs : List Brief := []
  /-- Whether a task that was marked as the last one was finished. -/
  lastFinished : Bool := false

/-- The usages in which a task expects and leaves a resource by default: as the task before leaves
it or, if it is new to the batch, as it is tracked and then at rest. -/
def defaultUsages (batch : Batch) (tracker : Tracker) (key : Key) : Usage × Usage :=
  match batch.passages.find? key with
  | some passage => (passage.current, passage.current)
  | none =>
    let resting := (tracker.restingUsage key).1
    (((tracker.lookup key).map (·.current)).getD resting, resting)

/-- Declaring a resource for a task by default is declaring it. -/
theorem declareDefault_eq (batch : Batch) (tracker : Tracker) (task : Nat) (key : Key) :
    let usages := batch.defaultUsages tracker key
    batch.declareDefault tracker task key = batch.declare tracker task key usages.1 usages.2 := by
  unfold declareDefault defaultUsages
  cases batch.passages.find? key with
  | some passage => rfl
  | none =>
    dsimp only
    cases tracker.lookup key <;> rfl

/-- The task that a call declares a resource for and what it says of the resource, if it does. -/
def termOf? (batch : Batch) (tracker : Tracker) : Call → Option (Nat × Term)
  | .declare task key initial final => some (task, ⟨key, initial, final⟩)
  | .declareDefault task key =>
    let usages := batch.defaultUsages tracker key
    some (task, ⟨key, usages.1, usages.2⟩)
  | _ => none

/-- Whether a call is to finish the task that is marked as the last one. -/
def finishesLast (batch : Batch) : Call → Bool
  | .finish task => batch.lastTask == some task
  | _ => false

namespace Briefing

/-- The briefs once a call had some answer and left the batch as another. -/
def briefsAfter (briefing : Briefing) (tracker : Tracker) (call : Call) (after : Batch) :
    Except BatchError Reply → List Brief
  | .ok (.task index) =>
    briefing.briefs ++ (after.scopes[index]?).toList.map fun scope =>
      { index, seed := scope.uses, afterLast := briefing.lastFinished }
  | .ok (.taskUse _) =>
    match briefing.batch.termOf? tracker call with
    | some (task, term) => briefing.briefs.modify task (·.declaring term)
    | none => briefing.briefs
  | _ => briefing.briefs

/-- The briefing once a call had some answer and left the batch as another. -/
def after (briefing : Briefing) (tracker : Tracker) (call : Call)
    (answer : Except BatchError Reply) (after : Batch) : Briefing where
  batch := after
  briefs := briefing.briefsAfter tracker call after answer
  lastFinished := answer.toBool && briefing.batch.finishesLast call || briefing.lastFinished

/-- Goes on with one more call, which meets some tracker. -/
def next (briefing : Briefing) (call : Tracker × Call) : Briefing :=
  let turn := briefing.batch.perform call.1 call.2
  briefing.after call.1 call.2 turn.answer turn.batch

/-- The usage in which a task finds a resource that it does not declare itself: the one in which the
task before leaves it or, if there is none before, the initial one of the batch. -/
def found? (briefing : Briefing) (key : Key) : Nat → Option Usage
  | 0 => (briefing.batch.passages.find? key).map (·.initial)
  | task + 1 => briefing.briefs[task]?.bind (·.leaves? key)

end Briefing

/-- Carries calls out in order, with what is on record of the tasks. -/
def briefingOf (start : Batch) (calls : List (Tracker × Call)) : Briefing :=
  calls.foldl Briefing.next { batch := start }

/-- A briefing goes on with the last call. -/
@[simp] theorem briefingOf_append (start : Batch) (calls : List (Tracker × Call))
    (call : Tracker × Call) :
    briefingOf start (calls ++ [call]) = (briefingOf start calls).next call := by
  simp [briefingOf]

namespace Briefing

variable {briefing other : Briefing} {task : Nat} {key : Key} {usage : Usage}

/-- A task finds a resource as before if the task before leaves it as before, and the batch finds it
as before. -/
theorem found?_congr (found : briefing.found? key task = some usage)
    (initial : ∀ passage, briefing.batch.passages.find? key = some passage →
      (other.batch.passages.find? key).map (·.initial) = some passage.initial)
    (briefs : ∀ before, before + 1 = task → other.briefs[before]? = briefing.briefs[before]?) :
    other.found? key task = some usage := by
  cases task with
  | zero =>
    obtain ⟨passage, known, rfl⟩ := Option.map_eq_some_iff.1 found
    exact initial passage known
  | succ before =>
    show other.briefs[before]?.bind _ = _
    rw [briefs before rfl]
    exact found

/-! ## One more task

A task is created with the usages that the batch has reached, which are those in which the newest
task leaves the resources. So its table at creation can be said in terms of the briefs alone. -/

/-- The table with which a task is created. -/
def seed (briefing : Briefing) : KeyTable TaskUse :=
  briefing.batch.passages.map fun _ passage => ⟨passage.current, passage.current, false⟩

/-- One more task is created. -/
def created (briefing : Briefing) : Briefing :=
  { briefing with
    batch :=
      { briefing.batch with scopes := briefing.batch.scopes ++ [{ uses := briefing.seed }] }
    briefs := briefing.briefs ++
      [{ index := briefing.batch.scopes.length, seed := briefing.seed
         afterLast := briefing.lastFinished }] }

/-- A new task finds every resource of the batch in the table, at the usage reached by then. -/
theorem find?_seed (briefing : Briefing) (key : Key) :
    briefing.seed.find? key = (briefing.batch.passages.find? key).map fun passage =>
      ⟨passage.current, passage.current, false⟩ :=
  KeyTable.find?_map _ _ key

/-- One more task is on record. -/
theorem length_created (briefing : Briefing) :
    briefing.created.batch.scopes.length = briefing.batch.scopes.length + 1 :=
  List.length_append

/-- What the tasks find that were created before, and the new one. -/
theorem found?_created (old : task ≤ briefing.briefs.length)
    (found : briefing.found? key task = some usage) :
    briefing.created.found? key task = some usage := by
  refine found?_congr found (fun passage on => ?_) fun before is => ?_
  · exact congrArg (Option.map _) on
  · exact List.getElem?_append_left (by omega)

/-! ## One more declaration

Only the newest task can declare, and only before it begins. Its brief gets a term; for the tasks
that were there before nothing changes, and the one that may be created next finds the resource in
the declared final usage. -/

/-- A task declares a resource, which opens it with some barriers. -/
def declared (briefing : Briefing) (task : Nat) (scope : Scope) (term : Term)
    (barriers : List Barrier) (passage : Passage) : Briefing :=
  { briefing with
    batch :=
      { briefing.batch.setScope task
          (scope.declaring term.key ⟨term.initial, term.final, false⟩ barriers) with
        passages := briefing.batch.passages.insert term.key passage }
    briefs := briefing.briefs.modify task (·.declaring term) }

section

variable {scope : Scope} {brief : Brief} {term : Term} {barriers : List Barrier}
  {passage : Passage}

/-- A declaration creates no task. -/
theorem length_declared (briefing : Briefing) (task : Nat) (scope : Scope) (term : Term)
    (barriers : List Barrier) (passage : Passage) :
    (briefing.declared task scope term barriers passage).batch.scopes.length =
      briefing.batch.scopes.length :=
  List.length_set

/-- A declaration adds its term to the brief of its own task and leaves the other briefs alone. -/
theorem getElem?_declared (recorded : briefing.briefs[task]? = some brief) (other : Nat) :
    (briefing.declared task scope term barriers passage).briefs[other]? =
      if other = task then some (brief.declaring term) else briefing.briefs[other]? := by
  show (briefing.briefs.modify _ _)[other]? = _
  rw [List.getElem?_modify]
  by_cases same : other = task
  · subst same
    simp [recorded]
  · simp [same, Ne.symm same]

/-- The tasks keep their indices. -/
theorem map_index_declared (recorded : briefing.briefs[task]? = some brief) :
    (briefing.declared task scope term barriers passage).briefs.map (·.index) =
      briefing.briefs.map (·.index) := by
  refine List.ext_getElem? fun other => ?_
  rw [List.getElem?_map, List.getElem?_map, getElem?_declared recorded]
  split
  · rename_i same
    rw [same, recorded]
    rfl
  · rfl

/-- Nothing that is on record of the creation of a task changes. -/
theorem exists_of_getElem?_declared (recorded : briefing.briefs[task]? = some brief) {other : Nat}
    {later : Brief}
    (has : (briefing.declared task scope term barriers passage).briefs[other]? = some later) :
    ∃ former, briefing.briefs[other]? = some former ∧ later.seed = former.seed ∧
      later.afterLast = former.afterLast := by
  rw [getElem?_declared recorded] at has
  split at has
  · rename_i same
    cases has
    exact ⟨brief, same ▸ recorded, rfl, rfl⟩
  · exact ⟨later, has, rfl, rfl⟩

/-- What the tasks find that were not created after the one that declares. -/
theorem found?_declared (recorded : briefing.briefs[task]? = some brief)
    (initial : ∀ former, briefing.batch.passages.find? term.key = some former →
      passage.initial = former.initial) {other : Nat} (old : other ≤ task)
    (found : briefing.found? key other = some usage) :
    (briefing.declared task scope term barriers passage).found? key other = some usage := by
  refine found?_congr found (fun former on => ?_) fun before is => ?_
  · show ((briefing.batch.passages.insert term.key passage).find? key).map _ = _
    rw [KeyTable.find?_insert]
    by_cases same : key = term.key
    · subst same
      rw [if_pos rfl, Option.map_some, initial former on]
    · rw [if_neg same, on]
      rfl
  · rw [getElem?_declared recorded, if_neg (by omega)]

/-- What the task created after it finds. -/
theorem found?_declared_succ (recorded : briefing.briefs[task]? = some brief)
    (fresh : brief.term? term.key = none) (key : Key) :
    (briefing.declared task scope term barriers passage).found? key (task + 1) =
      if key = term.key then some term.final else briefing.found? key (task + 1) := by
  show (briefing.declared task scope term barriers passage).briefs[task]?.bind _ =
    if _ then _ else briefing.briefs[task]?.bind _
  rw [getElem?_declared recorded, if_pos rfl, recorded]
  exact Brief.leaves?_declaring fresh key

end

end Briefing

end GpuSync.Batch
