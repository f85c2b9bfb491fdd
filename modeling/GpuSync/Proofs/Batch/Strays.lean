import GpuSync.Proofs.Batch.Handover
import GpuSync.Proofs.Batch.Stations

/-!
# The tables of the tasks

A task has a resource in its table because it declared the resource, because the resource was known
to the batch as the task was created, or because the task used it without either. The last is called
straying here.

This file follows one resource through the tables of all tasks. As long as no task strays, the
tables agree: a task has what every task before it has, and nothing that the batch does not know.
What is queued with a discard is queued before any task has the resource.

* `Batch.Holds`: a task has a resource in its table. `Batch.Strays`: a call puts it there.
* `Batch.Tidy` is what holds of the tables, but for what the tasks that strayed have in theirs.
* **`Batch.tidy_run`**: it holds after any calls, but for those that discard the resource.
-/

namespace GpuSync.Batch

/-- A task has a resource in its table. -/
def Holds (batch : Batch) (task : Nat) (key : Key) : Prop :=
  ∃ scope use, batch.scopes[task]? = some scope ∧ scope.uses.find? key = some use

/-- A call uses a resource in a task that does not have it. The report then fetches the resource
from its rest, in which the task will leave it. -/
def Strays (batch : Batch) (call : Call) (answer : Except BatchError Reply) (task : Nat)
    (key : Key) : Prop :=
  (∃ usage, call = .report task key usage ∨ call = .override task key usage) ∧
    answer.toBool = true ∧ ¬batch.Holds task key

/-- Some call of a run did. -/
def Strayed (batch : Batch) (calls : List (Tracker × Call)) (task : Nat) (key : Key) : Prop :=
  ∃ before tracker call after, calls = before ++ (tracker, call) :: after ∧
    let met := (batch.run before).batch
    met.Strays call (met.perform tracker call).answer task key

/-- What strayed in a run strayed in every longer run. -/
theorem Strayed.append {batch : Batch} {calls : List (Tracker × Call)} {task : Nat} {key : Key}
    (h : batch.Strayed calls task key) (call : Tracker × Call) :
    batch.Strayed (calls ++ [call]) task key := by
  obtain ⟨before, tracker, strays, after, rfl, met⟩ := h
  exact ⟨before, tracker, strays, after ++ [call], by simp, met⟩

/-- What a task opens with. -/
structure Scope.Opens (key : Key) (scope : Scope) (excused : Prop) : Prop where
  /-- Nothing on a resource that it did not declare. -/
  fresh : key ∉ scope.declared → onKey key scope.opening = []
  /-- One barrier on a resource. -/
  single : (onKey key scope.opening).length ≤ 1
  /-- Only on resources that it has. -/
  held : onKey key scope.opening ≠ [] → ∃ use, scope.uses.find? key = some use
  /-- A barrier that discards has its reasons. -/
  discards : ∀ barrier ∈ onKey key scope.opening, barrier.discard = true → excused

/-- A discard that is excused stays excused under a weaker excuse. -/
theorem Scope.Opens.mono {key : Key} {scope : Scope} {excused excused' : Prop}
    (h : scope.Opens key excused) (more : excused → excused') : scope.Opens key excused' :=
  ⟨h.fresh, h.single, h.held, fun barrier mem discards => more (h.discards barrier mem discards)⟩

/-- Where a resource is, but for the tasks that strayed. Tasks that strayed are excused from the
clauses on tables and on what opens a task. -/
structure Tidy (key : Key) (strayed : Nat → Prop) (batch : Batch) : Prop where
  /-- A task has the resource if the batch knows it. -/
  known : ∀ task, batch.Holds task key → batch.knows key = true ∨ strayed task
  /-- The tasks after have it too. -/
  shared : ∀ task later, task < later → later < batch.scopes.length → batch.Holds task key →
    batch.Holds later key ∨ strayed task
  /-- Its contents are not given up. -/
  kept : ∀ (task : Nat) (scope : Scope) (use : TaskUse), batch.scopes[task]? = some scope →
    scope.uses.find? key = some use → use.discard = false
  /-- One barrier is queued for the batch. -/
  single : (onKey key batch.opening).length ≤ 1
  /-- Then the batch knows the resource, and all tasks have it. -/
  opening : onKey key batch.opening ≠ [] →
    batch.knows key = true ∧ ∀ task < batch.scopes.length, batch.Holds task key
  /-- A discard is queued for a task only if none is for the batch and no task before has the
  resource. -/
  opens : ∀ (task : Nat) (scope : Scope), batch.scopes[task]? = some scope →
    scope.Opens key (onKey key batch.opening = [] ∧
      ∀ earlier < task, batch.Holds earlier key → strayed earlier)

section

variable {batch after : Batch} {key : Key} {strayed strayed' : Nat → Prop}

/-- A task that has a resource exists. -/
theorem Holds.lt {task : Nat} (holds : batch.Holds task key) : task < batch.scopes.length := by
  obtain ⟨scope, use, found, -⟩ := holds
  exact (List.getElem?_eq_some_iff.1 found).1

/-- A task that has a resource has it in the table of its scope. -/
theorem Holds.eq_of_found {task : Nat} {scope : Scope} (holds : batch.Holds task key)
    (found : batch.scopes[task]? = some scope) : ∃ use, scope.uses.find? key = some use := by
  obtain ⟨other, use, found', known⟩ := holds
  obtain rfl := Option.some.inj (found.symm.trans found')
  exact ⟨use, known⟩

/-- A task has what is written into its table. -/
theorem holds_of_written {task : Nat} {scope changed : Scope} {use : TaskUse}
    (found : batch.scopes[task]? = some scope) (has : changed.uses.find? key = some use)
    (scopes : after.scopes = (batch.setScope task changed).scopes) : after.Holds task key :=
  ⟨changed, use, by rw [scopes, getElem?_setScope found, if_pos rfl], has⟩

/-- A batch stays tidy if more tasks may have strayed. -/
theorem Tidy.mono (h : Tidy key strayed batch) (more : ∀ task, strayed task → strayed' task) :
    Tidy key strayed' batch where
  known := fun task holds => (h.known task holds).imp_right (more task)
  shared := fun task later less bound holds =>
    (h.shared task later less bound holds).imp_right (more task)
  kept := h.kept
  single := h.single
  opening := h.opening
  opens := fun task scope found => (h.opens task scope found).mono fun ⟨empty, all⟩ =>
    ⟨empty, fun earlier less holds => more earlier (all earlier less holds)⟩

/-- A new batch is tidy: it has neither tasks nor barriers. -/
theorem tidy_new (id : BatchId) (queue : Queue) (key : Key) (strayed : Nat → Prop) :
    Tidy key strayed (new id queue) where
  known := fun _ ⟨_, _, found, _⟩ => nomatch found
  shared := fun _ _ _ bound => absurd bound (Nat.not_lt_zero _)
  kept := fun _ _ _ found => nomatch found
  single := Nat.zero_le _
  opening := fun some => absurd rfl some
  opens := fun _ _ found => nomatch found

/-! ## Calls that leave the resource in the same tables

Most calls neither put the resource into a table nor queue anything on it. For these it is enough
that each task has the resource afterwards just if it had it before, and opens with no more than it
did. -/

/-- A task has the resource afterwards if it had it before. -/
structure Scope.Resembles (key : Key) (scope later : Scope) : Prop where
  /-- The resource is in the table or not. -/
  table : (later.uses.find? key).isSome = (scope.uses.find? key).isSome
  /-- Its contents are not given up. -/
  kept : (∀ use, scope.uses.find? key = some use → use.discard = false) →
    ∀ use, later.uses.find? key = some use → use.discard = false
  /-- What was declared stays declared. -/
  declared : key ∈ scope.declared → key ∈ later.declared
  /-- The task opens with the same barriers, or did already. -/
  opening : onKey key later.opening = onKey key scope.opening ∨ onKey key later.opening = []

/-- A task that is left alone resembles itself. -/
theorem Scope.Resembles.refl (key : Key) (scope : Scope) : scope.Resembles key scope :=
  ⟨rfl, fun kept => kept, fun declared => declared, .inl rfl⟩

/-- A task that resembles one before opens with no more than that one does. -/
theorem Scope.Resembles.opens {scope later : Scope} {excused : Prop}
    (h : scope.Resembles key later) (opens : scope.Opens key excused) :
    later.Opens key excused := by
  have nothing (none : onKey key later.opening = []) : later.Opens key excused := by
    refine ⟨fun _ => none, ?_, ?_, ?_⟩
    · rw [none]
      exact Nat.zero_le _
    · exact fun some => absurd none some
    · rw [none]
      exact fun _ mem => absurd mem List.not_mem_nil
  rcases h.opening with same | none
  · refine ⟨fun undeclared => ?_, ?_, ?_, ?_⟩
    · rw [same]
      exact opens.fresh fun declared => undeclared (h.declared declared)
    · rw [same]
      exact opens.single
    · rw [same, ← Option.isSome_iff_exists, h.table, Option.isSome_iff_exists]
      exact opens.held
    · rw [same]
      exact opens.discards
  · exact nothing none

/-- A call that leaves the resource in the same tables, and queues nothing on it, leaves the batch
tidy. -/
theorem Tidy.carry (h : Tidy key strayed batch)
    (length : after.scopes.length = batch.scopes.length)
    (scopes : ∀ (task : Nat) (later : Scope), after.scopes[task]? = some later →
      ∃ scope : Scope, batch.scopes[task]? = some scope ∧ scope.Resembles key later)
    (knows : after.knows key = batch.knows key)
    (opening : onKey key after.opening = onKey key batch.opening ∨ onKey key after.opening = []) :
    Tidy key strayed after := by
  have holds (task : Nat) : after.Holds task key ↔ batch.Holds task key := by
    constructor
    · rintro ⟨later, use, found, has⟩
      obtain ⟨scope, found', alike⟩ := scopes task later found
      have some : (scope.uses.find? key).isSome = true := by rw [← alike.table, has]; rfl
      obtain ⟨use', has'⟩ := Option.isSome_iff_exists.1 some
      exact ⟨scope, use', found', has'⟩
    · intro held
      have bound : task < after.scopes.length := length ▸ held.lt
      have found := List.getElem?_eq_getElem bound
      obtain ⟨scope, found', alike⟩ := scopes task _ found
      obtain ⟨use, has⟩ := held.eq_of_found found'
      have some : ((after.scopes[task]).uses.find? key).isSome = true := by
        rw [alike.table, has]
        rfl
      obtain ⟨use', has'⟩ := Option.isSome_iff_exists.1 some
      exact ⟨_, use', found, has'⟩
  -- What is queued for the batch may have been emitted by the call, but nothing was added to it.
  have onlyFewer (some : onKey key after.opening ≠ []) :
      onKey key after.opening = onKey key batch.opening :=
    opening.resolve_right some
  refine {
    known := ?known
    shared := ?shared
    kept := ?kept
    single := ?single
    opening := ?opening
    opens := ?opens }
  case known =>
    intro task held
    rw [knows]
    exact h.known task ((holds task).1 held)
  case shared =>
    intro task later less bound held
    rw [holds]
    exact h.shared task later less (length ▸ bound) ((holds task).1 held)
  case kept =>
    intro task later use found has
    obtain ⟨scope, found', alike⟩ := scopes task later found
    exact alike.kept (fun use has => h.kept task scope use found' has) use has
  case single =>
    rcases opening with same | none
    · exact same ▸ h.single
    · rw [none]
      exact Nat.zero_le _
  case opening =>
    intro some
    rw [onlyFewer some] at some
    obtain ⟨known, all⟩ := h.opening some
    exact ⟨knows.trans known, fun task bound => (holds task).2 (all task (length ▸ bound))⟩
  case opens =>
    intro task later found
    obtain ⟨scope, found', alike⟩ := scopes task later found
    refine (alike.opens (h.opens task scope found')).mono fun ⟨empty, all⟩ => ⟨?_, ?_⟩
    · rcases opening with same | none'
      · exact same.trans empty
      · exact none'
    · exact fun earlier less held => all earlier less ((holds earlier).1 held)

/-- A call that does not touch the tasks. -/
theorem Tidy.beside (h : Tidy key strayed batch) (scopes : after.scopes = batch.scopes)
    (knows : after.knows key = batch.knows key)
    (opening : onKey key after.opening = onKey key batch.opening) : Tidy key strayed after :=
  h.carry (congrArg List.length scopes)
    (fun _ later found => ⟨later, scopes ▸ found, .refl key later⟩) knows (.inl opening)

/-- A call that writes one task. -/
theorem Tidy.write (h : Tidy key strayed batch) {task : Nat} {scope changed : Scope}
    (found : batch.scopes[task]? = some scope) (alike : scope.Resembles key changed)
    (scopes : after.scopes = (batch.setScope task changed).scopes)
    (knows : after.knows key = batch.knows key)
    (opening : onKey key after.opening = onKey key batch.opening ∨ onKey key after.opening = []) :
    Tidy key strayed after := by
  refine h.carry (by rw [scopes]; exact List.length_set) (fun other later found' => ?_) knows
    opening
  rw [scopes, getElem?_setScope found] at found'
  split at found'
  · rename_i same
    cases found'
    exact ⟨scope, same ▸ found, alike⟩
  · exact ⟨later, found', .refl key later⟩

/-- Writing another resource, or this one where it is. -/
theorem Scope.resembles_insert {scope : Scope} {other : Key} {use : TaskUse}
    (same : other = key → (∃ former, scope.uses.find? key = some former) ∧
      ((∀ former, scope.uses.find? key = some former → former.discard = false) →
        use.discard = false)) :
    scope.Resembles key { scope with uses := scope.uses.insert other use } := by
  by_cases it : other = key
  · obtain ⟨⟨former, has⟩, kept⟩ := same it
    subst it
    have has' : (scope.uses.insert other use).find? other = some use := by
      rw [KeyTable.find?_insert, if_pos rfl]
    refine ⟨?_, fun before after found => ?_, fun declared => declared, .inl rfl⟩
    · show ((scope.uses.insert other use).find? other).isSome = _
      rw [has', has]
      rfl
    · cases has'.symm.trans found
      exact kept before
  · have same' : (scope.uses.insert other use).find? key = scope.uses.find? key := by
      rw [KeyTable.find?_insert, if_neg (Ne.symm it)]
    refine ⟨congrArg Option.isSome same', fun before after found => ?_, fun declared => declared,
      .inl rfl⟩
    exact before after (same'.symm.trans found)

/-- To declare another resource makes no difference to this one. -/
theorem Scope.resembles_declaring {scope : Scope} {other : Key} (apart : other ≠ key)
    (use : TaskUse) {barriers : List Barrier} (quiet : onKey key barriers = []) :
    scope.Resembles key (scope.declaring other use barriers) := by
  have table : (scope.uses.insert other use).find? key = scope.uses.find? key := by
    rw [KeyTable.find?_insert, if_neg (Ne.symm apart)]
  refine ⟨congrArg Option.isSome table, fun kept use' has => kept use' (table.symm.trans has),
    fun declared => List.mem_append_left _ declared, .inl ?_⟩
  show onKey key (scope.opening ++ barriers) = _
  rw [onKey_append, quiet, List.append_nil]

/-- A task writes a resource that it has, be it this one or another. -/
theorem Tidy.setUse (h : Tidy key strayed batch) {task : Nat} {scope : Scope} {other : Key}
    {use former : TaskUse} (found : batch.scopes[task]? = some scope)
    (known : scope.uses.find? other = some former)
    (kept : other = key → former.discard = false → use.discard = false) :
    Tidy key strayed (batch.setUse task scope other use) := by
  refine h.write found (Scope.resembles_insert fun same => ?_) rfl rfl (.inl rfl)
  subst same
  exact ⟨⟨former, known⟩, fun all => kept rfl (all former known)⟩

/-- A task that begins keeps its resources, and has emitted what it opens with. -/
theorem Scope.resembles_started (scope : Scope) (batch : Batch) (last : Bool) (key : Key) :
    scope.Resembles key (scope.started batch last) := by
  refine ⟨?_, fun kept use has => ?_, fun declared => declared, .inr rfl⟩
  · show ((batch.usesAtBegin scope last).find? key).isSome = _
    unfold usesAtBegin
    split
    · rw [KeyTable.find?_map, Option.isSome_map]
    · rfl
  · replace has : (batch.usesAtBegin scope last).find? key = some use := has
    unfold usesAtBegin at has
    split at has
    · rw [KeyTable.find?_map, Option.map_eq_some_iff] at has
      obtain ⟨former, known, rfl⟩ := has
      split
      · exact kept former known
      · exact kept former known
    · exact kept use has

/-- A task that is finished keeps its resources. A discard that was noted is carried out by then. -/
theorem Scope.resembles_finished (scope : Scope) (key : Key) :
    scope.Resembles key scope.finished := by
  refine ⟨?_, fun _ use has => ?_, fun declared => declared, .inl rfl⟩
  · rw [finished, KeyTable.find?_map, Option.isSome_map]
  · rw [finished, KeyTable.find?_map, Option.map_eq_some_iff] at has
    obtain ⟨former, -, rfl⟩ := has
    rfl

/-! ## Calls that put the resource into a table

There are two ways into a table other than that of the creation of the task. A declaration is for
the newest task, so no later task misses it. A report in a task without the resource is what
straying means, and is excused. -/

/-- The resource is put into the table of a task, by straying or by declaring it. -/
theorem Tidy.enter (h : Tidy key strayed batch) (more : ∀ task, strayed task → strayed' task)
    {task : Nat} {scope changed : Scope} {use : TaskUse}
    (found : batch.scopes[task]? = some scope) (has : changed.uses.find? key = some use)
    (kept : use.discard = false)
    (scopes : after.scopes = (batch.setScope task changed).scopes)
    (opening : after.opening = batch.opening)
    (knows : batch.knows key = true → after.knows key = true)
    (excused : strayed' task ∨ after.knows key = true ∧ batch.scopes.length = task + 1)
    (opens : changed.Opens key (onKey key batch.opening = [] ∧
      ∀ earlier < task, batch.Holds earlier key → strayed earlier)) :
    Tidy key strayed' after := by
  have read (other : Nat) : after.scopes[other]? =
      if other = task then some changed else batch.scopes[other]? := by
    rw [scopes, getElem?_setScope found]
  have length : after.scopes.length = batch.scopes.length := by
    rw [scopes]
    exact List.length_set
  have here : after.Holds task key := holds_of_written found has scopes
  -- That task gains the resource, and no other table changes.
  have gains {other : Nat} (held : batch.Holds other key) : after.Holds other key := by
    by_cases same : other = task
    · exact same ▸ here
    · obtain ⟨scope, use, found', has'⟩ := held
      exact ⟨scope, use, (read other).trans ((if_neg same).trans found'), has'⟩
  have onlyHere {other : Nat} (apart : other ≠ task) (held : after.Holds other key) :
      batch.Holds other key := by
    obtain ⟨scope, use, found', has'⟩ := held
    exact ⟨scope, use, (if_neg apart).symm.trans ((read other).symm.trans found'), has'⟩
  refine {
    known := ?known
    shared := ?shared
    kept := ?kept
    single := ?single
    opening := ?opening
    opens := ?opens }
  case known =>
    intro other held
    by_cases same : other = task
    · exact excused.symm.imp And.left fun strays => same ▸ strays
    · exact (h.known other (onlyHere same held)).imp knows (more other)
  -- A task that strays owes nothing to the tasks after it, and one that declares is the newest.
  case shared =>
    intro other later less bound held
    by_cases same : other = task
    · refine .inr (excused.elim (fun strays => same ▸ strays) fun ⟨_, newest⟩ => ?_)
      omega
    · exact (h.shared other later less (length ▸ bound) (onlyHere same held)).imp gains (more other)
  case kept =>
    intro other later use' found' has'
    rw [read] at found'
    split at found'
    · cases found'
      cases has.symm.trans has'
      exact kept
    · exact h.kept other later use' found' has'
  case single => exact opening ▸ h.single
  case opening =>
    intro some
    rw [opening] at some
    obtain ⟨known, all⟩ := h.opening some
    exact ⟨knows known, fun other bound => gains (all other (length ▸ bound))⟩
  case opens =>
    intro other later found'
    rw [opening]
    rw [read] at found'
    split at found'
    · rename_i same
      cases found'
      refine opens.mono fun ⟨empty, all⟩ => ⟨empty, fun earlier less held => more earlier ?_⟩
      rw [same] at less
      exact all earlier less (onlyHere (Nat.ne_of_lt less) held)
    · refine (h.opens other later found').mono fun ⟨empty, all⟩ =>
        ⟨empty, fun earlier less held => ?_⟩
      by_cases same : earlier = task
      · refine excused.elim (fun strays => same ▸ strays) fun ⟨_, newest⟩ => ?_
        have bound := (List.getElem?_eq_some_iff.1 found').1
        omega
      · exact more earlier (all earlier less (onlyHere same held))

/-- A task uses a resource that it does not have. -/
theorem Tidy.stray (h : Tidy key strayed batch) (more : ∀ task, strayed task → strayed' task)
    {task : Nat} {scope : Scope} {use : TaskUse} (found : batch.scopes[task]? = some scope)
    (kept : use.discard = false) (strays : strayed' task) :
    Tidy key strayed' (batch.setUse task scope key use) := by
  have has : (scope.uses.insert key use).find? key = some use := by
    rw [KeyTable.find?_insert, if_pos rfl]
  obtain ⟨fresh, single, -, discards⟩ := h.opens task scope found
  exact h.enter more found has kept rfl rfl (fun known => known) (.inl strays)
    ⟨fresh, single, fun _ => ⟨use, has⟩, discards⟩

/-- The newest task declares a resource. Only if that is new to the batch its contents may be given
up. -/
theorem Tidy.declare (h : Tidy key strayed batch) {task : Nat} {scope : Scope}
    {initial final : Usage} {barriers : List Barrier} {passage : Passage}
    (newest : batch.scopes.length = task + 1) (found : batch.scopes[task]? = some scope)
    (fresh : key ∉ scope.declared) (single : (onKey key barriers).length ≤ 1)
    (discards : ∀ barrier ∈ onKey key barriers, barrier.discard = true →
      batch.knows key = false) :
    Tidy key strayed
      { batch.setScope task (scope.declaring key ⟨initial, final, false⟩ barriers) with
        passages := batch.passages.insert key passage } := by
  have has : (scope.declaring key ⟨initial, final, false⟩ barriers).uses.find? key =
      some ⟨initial, final, false⟩ := by
    show (scope.uses.insert key _).find? key = _
    rw [KeyTable.find?_insert, if_pos rfl]
  have knows : Batch.knows
      { batch.setScope task (scope.declaring key ⟨initial, final, false⟩ barriers) with
        passages := batch.passages.insert key passage } key = true := by
    rw [knows_insert (show _ = batch.passages.insert _ _ from rfl)]
    simp
  have opening : onKey key (scope.declaring key ⟨initial, final, false⟩ barriers).opening =
      onKey key barriers := by
    show onKey key (scope.opening ++ barriers) = _
    rw [onKey_append, (h.opens task scope found).fresh fresh, List.nil_append]
  refine h.enter (fun _ strays => strays) found has rfl rfl rfl (fun _ => knows)
    (.inr ⟨knows, newest⟩) ⟨?_, opening ▸ single, fun _ => ⟨_, has⟩, ?_⟩
  · exact fun undeclared => absurd (List.mem_append_right _ List.mem_cons_self) undeclared
  · rw [opening]
    intro barrier mem discards'
    -- The batch does not know the resource yet, so whoever has it strayed.
    have unknown := discards barrier mem discards'
    constructor
    · by_contra some
      rw [(h.opening some).1] at unknown
      cases unknown
    · intro earlier less held
      refine (h.known earlier held).resolve_left fun known => ?_
      rw [known] at unknown
      cases unknown

/-- A task adds a resource that it does not have. It strays by that if it is this one. -/
theorem Tidy.addUse (h : Tidy key strayed batch) (more : ∀ task, strayed task → strayed' task)
    {task : Nat} {scope : Scope} {other : Key} {use : TaskUse}
    (found : batch.scopes[task]? = some scope) (unknown : scope.uses.find? other = none)
    (kept : use.discard = false) (strays : other = key → ¬batch.Holds task key → strayed' task) :
    Tidy key strayed' (batch.setUse task scope other use) := by
  by_cases same : other = key
  · subst same
    refine h.stray more found kept (strays rfl fun held => ?_)
    obtain ⟨use', has⟩ := held.eq_of_found found
    rw [unknown] at has
    cases has
  · exact (h.mono more).write found (Scope.resembles_insert fun it => absurd it same) rfl rfl
      (.inl rfl)

/-- The newest task declares a resource, be it this one or another. -/
theorem Tidy.declareAny (h : Tidy key strayed batch) {task : Nat} {scope : Scope} {other : Key}
    {initial final : Usage} {barriers : List Barrier} {passage : Passage}
    (newest : batch.scopes.length = task + 1) (found : batch.scopes[task]? = some scope)
    (fresh : other ∉ scope.declared) (only : other ≠ key → onKey key barriers = [])
    (single : barriers.length ≤ 1)
    (discards : ∀ barrier ∈ barriers, barrier.discard = true → batch.knows other = false) :
    Tidy key strayed
      { batch.setScope task (scope.declaring other ⟨initial, final, false⟩ barriers) with
        passages := batch.passages.insert other passage } := by
  by_cases same : other = key
  · subst same
    exact h.declare newest found fresh (Nat.le_trans (List.length_filter_le _ _) single)
      fun barrier mem => discards barrier (List.mem_of_mem_filter mem)
  · refine h.write found (Scope.resembles_declaring same _ (only same)) rfl ?_ (.inl rfl)
    rw [knows_insert (show _ = batch.passages.insert _ _ from rfl)]
    simp [Ne.symm same]

/-- A task that is created has what the batch knows. Of a resource that the batch knows, all later
tasks have an entry from the start, and none of them can stray on it. -/
theorem Tidy.create (h : Tidy key strayed batch) :
    Tidy key strayed
      { batch with
        scopes := batch.scopes ++
          [{ uses := batch.passages.map fun _ p => ⟨p.current, p.current, false⟩ }] } := by
  let new : Scope := { uses := batch.passages.map fun _ p => ⟨p.current, p.current, false⟩ }
  let after : Batch := { batch with scopes := batch.scopes ++ [new] }
  have read {task : Nat} {scope : Scope} : after.scopes[task]? = some scope ↔
      batch.scopes[task]? = some scope ∨ task = batch.scopes.length ∧ new = scope :=
    getElem?_concat_eq_some
  -- The new task has a copy of what the batch knows, so a resource that is known reaches all tasks.
  have knownHas (known : batch.knows key = true) : ∃ use, new.uses.find? key = some use := by
    obtain ⟨passage, known⟩ := Option.isSome_iff_exists.1 known
    exact ⟨⟨passage.current, passage.current, false⟩, by
      rw [KeyTable.find?_map, show batch.passages.find? key = some passage from known]
      rfl⟩
  have gains {task : Nat} (held : batch.Holds task key) : after.Holds task key := by
    obtain ⟨scope, use, found, has⟩ := held
    exact ⟨scope, use, read.2 (.inl found), has⟩
  have newest (known : batch.knows key = true) : after.Holds batch.scopes.length key := by
    obtain ⟨use, has⟩ := knownHas known
    exact ⟨new, use, read.2 (.inr ⟨rfl, rfl⟩), has⟩
  -- Nothing was queued for the new task, so all that counts is who has the resource.
  have before {task : Nat} (held : after.Holds task key) :
      batch.Holds task key ∨ task = batch.scopes.length ∧ batch.knows key = true := by
    obtain ⟨scope, use, found, has⟩ := held
    rcases read.1 found with found | ⟨same, rfl⟩
    · exact .inl ⟨scope, use, found, has⟩
    · refine .inr ⟨same, ?_⟩
      rw [KeyTable.find?_map, Option.map_eq_some_iff] at has
      obtain ⟨passage, known, -⟩ := has
      exact Option.isSome_iff_exists.2 ⟨passage, known⟩
  have length : after.scopes.length = batch.scopes.length + 1 := List.length_append
  refine {
    known := ?known
    shared := ?shared
    kept := ?kept
    single := h.single
    opening := ?opening
    opens := ?opens }
  case known =>
    intro task held
    rcases before held with held | ⟨-, known⟩
    · exact h.known task held
    · exact .inl known
  -- The later task may be the new one. Then whoever has the resource and did not stray has it from
  -- the batch, and so does the new task.
  case shared =>
    intro task later less bound held
    have bound : later < after.scopes.length := bound
    rcases before held with held | ⟨same, -⟩
    · by_cases old : later < batch.scopes.length
      · exact (h.shared task later less old held).imp_left gains
      · have last : later = batch.scopes.length := by omega
        exact (h.known task held).imp_left fun known => last ▸ newest known
    · omega
  case kept =>
    intro task scope use found has
    rcases read.1 found with found | ⟨-, rfl⟩
    · exact h.kept task scope use found has
    · rw [KeyTable.find?_map, Option.map_eq_some_iff] at has
      obtain ⟨passage, -, rfl⟩ := has
      rfl
  case opening =>
    intro some
    obtain ⟨known, all⟩ := h.opening some
    refine ⟨known, fun task bound => ?_⟩
    have bound : task < after.scopes.length := bound
    by_cases old : task < batch.scopes.length
    · exact gains (all task old)
    · have last : task = batch.scopes.length := by omega
      exact last ▸ newest known
  case opens =>
    intro task scope found
    rcases read.1 found with found | ⟨-, rfl⟩
    · refine (h.opens task scope found).mono fun ⟨empty, all⟩ =>
        ⟨empty, fun earlier less held => ?_⟩
      have bound := (List.getElem?_eq_some_iff.1 found).1
      rcases before held with held | ⟨same, -⟩
      · exact all earlier less held
      · omega
    · exact ⟨fun _ => rfl, Nat.zero_le _, fun some => absurd rfl some,
        fun _ mem => absurd mem List.not_mem_nil⟩

/-- Nothing but what is queued for the batch counts before its first task. There are no tables yet,
and what is queued is on each resource once. -/
theorem tidy_of_unstarted (unstarted : batch.scopes = [])
    (single : (onKey key batch.opening).length ≤ 1)
    (opening : onKey key batch.opening ≠ [] → batch.knows key = true) :
    Tidy key strayed batch := by
  have nowhere {task : Nat} {scope : Scope} : batch.scopes[task]? ≠ some scope := by
    rw [unstarted]
    exact nofun
  refine ⟨fun _ ⟨_, _, found, _⟩ => absurd found nowhere, fun _ _ _ bound => ?_,
    fun _ _ _ found => absurd found nowhere, single, fun some => ⟨opening some, fun _ bound => ?_⟩,
    fun _ _ found => absurd found nowhere⟩
  all_goals
    rw [unstarted] at bound
    exact absurd bound (Nat.not_lt_zero _)

end

/-! ## One call

The clause that carries the induction is that a task with the resource which did not stray shares it
with all later tasks. It is what keeps an opening discard from coming after a use. -/

section

variable {batch after : Batch} {key : Key} {strayed : Nat → Prop} {tracker : Tracker} {call : Call}
  {answer : Except BatchError Reply} {commands : List Command}

/-- The first use of a resource takes one barrier at most. -/
theorem length_firstUse (batch : Batch) (tracker : Tracker) (key : Key) (initial : Usage) :
    (batch.firstUse tracker key initial).toList.length ≤ 1 := by
  cases batch.firstUse tracker key initial <;> simp

/-- A resource that is new to the batch is declared before there is a task. Only what is queued for
the batch has to be looked at: one barrier on a resource, since a second declaration finds it
known. -/
theorem Tidy.useFirst (h : Tidy key strayed batch) {other : Key} {initial : Usage}
    {passage : Passage} (unstarted : batch.scopes = [])
    (unknown : batch.passages.find? other = none) (tracker : Tracker) :
    Tidy key strayed'
      { batch with
        passages := batch.passages.insert other passage
        opening := batch.opening ++ (batch.firstUse tracker other initial).toList } := by
  refine tidy_of_unstarted unstarted ?_ fun some => ?_
  · show (onKey key (batch.opening ++ _)).length ≤ 1
    rw [onKey_append]
    by_cases same : other = key
    · subst same
      have idle : onKey other batch.opening = [] := by
        by_contra some
        have known := (h.opening some).1
        rw [knows_eq_false.2 unknown] at known
        cases known
      rw [idle, List.nil_append, onKey_firstUse_self]
      exact length_firstUse batch tracker other initial
    · rw [onKey_firstUse_of_ne batch tracker same, List.append_nil]
      exact h.single
  · rw [knows_insert (show _ = batch.passages.insert _ _ from rfl)]
    by_cases same : other = key
    · simp [same]
    · rw [show onKey key (batch.opening ++ (batch.firstUse tracker other initial).toList) = _
        from onKey_append key _ _, onKey_firstUse_of_ne batch tracker same,
        List.append_nil] at some
      rw [(h.opening some).1, Bool.or_true]

/-- **One call** keeps the tables tidy, but for the task that strays by it. -/
theorem Effect.tidy (effect : Effect tracker batch call answer after commands)
    (h : Tidy key strayed batch) (keeps : ∀ task, call ≠ .discard task key) :
    Tidy key (fun task => strayed task ∨ batch.Strays call answer task key) after := by
  have more (task : Nat) (strays : strayed task) :
      strayed task ∨ batch.Strays call answer task key := .inl strays
  -- Only declarations, reports of what is not in the table and overrides of it put a resource into
  -- a table. All other calls carry.
  cases effect with
  | refused | asked | passedOver | undiscarded => exact h.mono more
  | uploads | readsBack | relaxes | marked | readBack | uploaded | committed =>
    exact (h.mono more).beside rfl rfl rfl
  | redeclared _ known => exact (h.mono more).beside rfl (knows_insert_of_known rfl known) rfl
  | declared unstarted unknown => exact h.useFirst unstarted unknown tracker
  | created => exact (h.mono more).create
  | @joined task other initial final scope passage newest found unbegun fresh known =>
    -- The resource is known to the batch, so that the task opens with a transition, which keeps the
    -- contents.
    refine (h.mono more).declareAny newest found fresh (fun apart => ?_)
      (length_openingOf batch other _ _) fun barrier mem discards => ?_
    · rw [openingOf_eq_transition, onKey_transition_of_ne batch apart]
    · unfold openingOf at mem
      split at mem
      · rw [List.mem_singleton.1 mem] at discards
        cases discards
      · cases mem
  | @introduced task other initial final scope newest found unbegun fresh unknown room =>
    exact (h.mono more).declareAny newest found fresh
      (fun apart => onKey_firstUse_of_ne batch tracker apart _)
      (length_firstUse batch tracker other initial) fun _ _ _ => knows_eq_false.2 unknown
  | @began task last scope inRange found unbegun =>
    refine (h.mono more).write found (scope.resembles_started batch last key) rfl rfl ?_
    by_cases first : task = 0
    · exact .inr (by rw [if_pos first]; rfl)
    · exact .inl (by rw [if_neg first])
  | moved found begun known => exact (h.mono more).setUse found known fun _ _ => rfl
  | fetched found begun unknown =>
    exact h.addUse more found unknown rfl fun same lacks =>
      .inr ⟨⟨_, .inl (by rw [same])⟩, rfl, lacks⟩
  | @discarded task other scope use found begun known =>
    exact (h.mono more).setUse found known fun same => absurd (same ▸ rfl) (keeps task)
  | overridden found begun known => exact (h.mono more).setUse found known fun _ kept => kept
  | installed found begun unknown =>
    exact h.addUse more found unknown rfl fun same lacks =>
      .inr ⟨⟨_, .inr (by rw [same])⟩, rfl, lacks⟩
  | @ended task scope found begun =>
    exact (h.mono more).write found (scope.resembles_finished key) rfl (knows_of_ended rfl)
      (.inl rfl)

end

/-- Every call keeps the tables tidy, but for the task that strays by it. -/
theorem tidy_perform {batch : Batch} {key : Key} {strayed : Nat → Prop} (tracker : Tracker)
    (h : Tidy key strayed batch) {call : Call} (keeps : ∀ task, call ≠ .discard task key) :
    Tidy key (fun task => strayed task ∨
        batch.Strays call (batch.perform tracker call).answer task key)
      (batch.perform tracker call).batch := by
  -- Several declarations in a row stray no task, and all other calls come to one with a case of its
  -- own.
  by_cases several : ∃ targets, call = .useTargets targets
  · obtain ⟨targets, rfl⟩ := several
    refine Tidy.mono ?_ fun task => .inl
    exact useMany_induction (P := Tidy key strayed) tracker (fun mid other initial final h =>
      ((Effect.of_use other initial final).tidy h fun _ => nofun).mono fun task strays =>
        strays.resolve_right fun ⟨⟨_, called⟩, _⟩ => by cases called <;> contradiction) _ h
  · obtain ⟨basic, stands, same⟩ :=
      exists_standsFor batch tracker fun targets is => several ⟨targets, is⟩
    have keeps' (task : Nat) : basic ≠ .discard task key := by
      rintro rfl
      cases stands
      exact keeps task rfl
    rw [same]
    refine ((perform_effect batch tracker stands.isBasic).tidy h keeps').mono fun task strays =>
      strays.imp_right fun ⟨⟨usage, called⟩, rest⟩ => ⟨⟨usage, ?_⟩, rest⟩
    cases stands with
    | self => exact called
    | atRest | default => cases called <;> contradiction

/-- **A run keeps the tables tidy**, but for the tasks that strayed in it. -/
theorem tidy_run (id : BatchId) (queue : Queue) {key : Key} {calls : List (Tracker × Call)}
    (keeps : ∀ call ∈ calls, ∀ task, call.2 ≠ .discard task key) :
    Tidy key ((new id queue).Strayed calls · key) ((new id queue).run calls).batch := by
  -- On the calls, the last one taken off. A task that strayed by then is excused from then on.
  induction calls using List.reverseRecOn with
  | nil => exact tidy_new id queue key _
  | append_singleton calls call ih =>
    have before := ih fun call mem => keeps call (List.mem_append_left _ mem)
    rw [run_append]
    refine (tidy_perform call.1 before
      (keeps call (List.mem_append_right _ List.mem_cons_self))).mono fun task strays => ?_
    rcases strays with strayed | strays
    · exact strayed.append call
    · exact ⟨calls, call.1, call.2, [], rfl, strays⟩

end GpuSync.Batch
