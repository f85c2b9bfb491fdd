import GpuSync.Proofs.Batch.Briefs
import GpuSync.Proofs.Batch.Memory
import GpuSync.Proofs.Batch.Steady
import Mathlib.Data.List.Induction

/-!
# The tables of a batch and of its tasks

A batch has a table of its resources, and every task has one of its own. The table of a task is
written when the task is created, when it declares a resource, and as it is recorded; that of the
batch when a resource is declared. Each of these looks for room in one table at most, and declaring
a resource for a task never looks for room in the table of the task. So the tables have to be
followed together.

What they have in common shows by what is on record of the tasks.

* `Batch.Scope.Follows` says that a task is as its brief says, with one lemma for each way in which
  its table is written.
* `Batch.Briefing.Sound` says that all tables go by the briefs, and `Batch.Briefing.Sound.effect` is
  its step lemma: `carry` and `write` are for the calls that declare nothing, `used`, `created` and
  `declared` for the others.
* **`Batch.tables_in_step`** is what holds of the tables after any calls.
-/

namespace GpuSync.Batch

/-! ## Tables that go by the briefs

A task follows its brief exactly until it begins. From then on it is recorded, and all that is kept
is which resources it has at least, and that it stays within the bound. -/

/-- Barriers that are queued are on resources of the batch, at most one on each. -/
structure QueuedOnce (batch : Batch) (barriers : List Barrier) : Prop where
  /-- No resource has two of them. -/
  single : (barriers.map (·.key)).Nodup
  /-- All are on resources of the batch. -/
  known : ∀ barrier ∈ barriers, batch.Known barrier

/-- A task is as its brief says. Before it begins its entries are just those of the brief;
afterwards, they are among what it has. -/
structure Scope.Follows (batch : Batch) (scope : Scope) (brief : Brief) : Prop where
  /-- Its table is not too large. -/
  room : scope.uses.size ≤ maxResources
  /-- It declared what is on record. -/
  declared : scope.declared = brief.terms.map (·.key)
  /-- It declared nothing twice. -/
  nodup : scope.declared.Nodup
  /-- What is on record is in its table. -/
  holds : ∀ key, (brief.use? key).isSome = true → scope.uses.contains key = true
  /-- Until it begins, its table is what is on record. -/
  table : scope.begun = false → ∀ key, scope.uses.find? key = brief.use? key
  /-- The barriers it opens with are on resources that it declared. -/
  opens : ∀ barrier ∈ scope.opening, ∃ key ∈ scope.declared, barrier.key = some key
  /-- They are queued once. -/
  queued : batch.QueuedOnce scope.opening

/-- The tables of a batch go by the briefs of its tasks. The batch has what its newest task knew
before it began, and so there is room in both tables or in none. -/
structure Briefing.Sound (briefing : Briefing) : Prop where
  /-- There are not too many tasks. -/
  few : briefing.batch.scopes.length ≤ maxTasks
  /-- Every task has a brief, and its place is its index. -/
  indexed : briefing.briefs.map (·.index) = List.range briefing.batch.scopes.length
  /-- The table of the batch is not too large. -/
  room : briefing.batch.passages.size ≤ maxResources
  /-- The barriers for the first task to emit are queued once. -/
  queued : briefing.batch.QueuedOnce briefing.batch.opening
  /-- Every task is as its brief says. -/
  follows : ∀ (task : Nat) (scope : Scope) (brief : Brief),
    briefing.batch.scopes[task]? = some scope → briefing.briefs[task]? = some brief →
    scope.Follows briefing.batch brief
  /-- A task was created with the usages in which it was to find resources, unless the last task was
  finished before. -/
  seeded : ∀ (task : Nat) (brief : Brief) (key : Key) (use : TaskUse),
    briefing.briefs[task]? = some brief → brief.seed.find? key = some use →
    use.current = use.final ∧
      (task = 0 ∨ brief.afterLast = false → briefing.found? key task = some use.current)
  /-- So would be the next one. -/
  current : briefing.batch.scopes = [] ∨ briefing.lastFinished = false →
    ∀ (key : Key) (passage : Passage), briefing.batch.passages.find? key = some passage →
      briefing.found? key briefing.batch.scopes.length = some passage.current
  /-- On record of the newest task is every resource of the batch, and nothing else. -/
  newest : ∀ (task : Nat) (brief : Brief), briefing.batch.scopes.length = task + 1 →
    briefing.briefs[task]? = some brief →
    ∀ key, (brief.use? key).isSome = briefing.batch.passages.contains key

section

variable {batch after : Batch} {scope : Scope} {brief : Brief} {barriers : List Barrier}

/-- Nothing is queued, and nothing twice. -/
theorem queuedOnce_nil (batch : Batch) : batch.QueuedOnce [] :=
  ⟨List.nodup_nil, fun _ mem => absurd mem List.not_mem_nil⟩

/-- What is queued stays queued once while the batch gets to know more resources. -/
theorem QueuedOnce.mono (h : batch.QueuedOnce barriers)
    (more : ∀ key, batch.passages.contains key = true → after.passages.contains key = true) :
    after.QueuedOnce barriers := by
  refine ⟨h.single, fun barrier mem => ?_⟩
  obtain ⟨key, on, known⟩ := h.known barrier mem
  exact ⟨key, on, more key known⟩

/-- One more barrier may be queued on a resource that has none. A resource that is new to the task,
or to the batch, has no barrier queued there. -/
theorem QueuedOnce.append {more : List Barrier} {key : Key} (h : batch.QueuedOnce barriers)
    (known : batch.passages.contains key = true) (one : more.length ≤ 1)
    (on : ∀ barrier ∈ more, barrier.key = some key)
    (idle : ∀ barrier ∈ barriers, barrier.key ≠ some key) :
    batch.QueuedOnce (barriers ++ more) := by
  refine ⟨?_, fun barrier mem => ?_⟩
  · rw [List.map_append]
    refine List.nodup_append.2 ⟨h.single, ?_, ?_⟩
    · rcases more with _ | ⟨barrier, rest⟩
      · exact List.nodup_nil
      · rw [List.length_cons] at one
        rw [List.length_eq_zero_iff.1 (by omega : rest.length = 0)]
        exact List.pairwise_singleton _ _
    · rintro _ old _ new same
      obtain ⟨barrier, mem, rfl⟩ := List.mem_map.1 old
      obtain ⟨other, mem', rfl⟩ := List.mem_map.1 new
      exact idle barrier mem (same.trans (on other mem'))
  · rcases List.mem_append.1 mem with mem | mem
    · exact h.known barrier mem
    · exact ⟨key, on barrier mem, known⟩

namespace Scope.Follows

/-- A task goes by its brief if the batch gains resources. -/
theorem mono (h : scope.Follows batch brief)
    (more : ∀ key, batch.passages.contains key = true → after.passages.contains key = true) :
    scope.Follows after brief :=
  { h with queued := h.queued.mono more }

/-- A task goes by its brief if its table gains resources once it has begun. -/
theorem grow (h : scope.Follows batch brief) {changed : Scope}
    (room : changed.uses.size ≤ maxResources)
    (grows : ∀ key, scope.uses.contains key = true → changed.uses.contains key = true)
    (declared : changed.declared = scope.declared) (begun : changed.begun = true)
    (opening : changed.opening = scope.opening ∨ changed.opening = []) :
    changed.Follows batch brief where
  room := room
  declared := declared.trans h.declared
  nodup := declared ▸ h.nodup
  holds := fun key on => grows key (h.holds key on)
  table := fun unbegun => absurd (begun.symm.trans unbegun) nofun
  opens := by
    rcases opening with same | none
    · rw [same, declared]
      exact h.opens
    · rw [none]
      exact fun _ mem => absurd mem List.not_mem_nil
  queued := by
    rcases opening with same | none
    · exact same ▸ h.queued
    · exact none ▸ queuedOnce_nil batch

/-- A task that has begun writes a resource that it has, or one for which it has room. -/
theorem insert (h : scope.Follows batch brief) (begun : scope.begun = true) {key : Key}
    {use : TaskUse} (room : scope.uses.contains key = true ∨ scope.uses.size < maxResources) :
    Follows batch { scope with uses := scope.uses.insert key use } brief := by
  refine h.grow (KeyTable.size_insert_le h.room room) (fun other has => ?_) rfl begun (.inl rfl)
  exact (scope.uses.contains_insert key other use).2 (.inr has)

/-- A task begins, or writes the resources that it has. -/
theorem rewrite (h : scope.Follows batch brief) {changed : Scope}
    (same : ∀ key, changed.uses.contains key = scope.uses.contains key)
    (declared : changed.declared = scope.declared) (begun : changed.begun = true)
    (opening : changed.opening = scope.opening ∨ changed.opening = []) :
    changed.Follows batch brief := by
  refine h.grow (Nat.le_trans ?_ h.room) (fun key has => (same key).trans has) declared begun
    opening
  exact KeyTable.size_le_of_contains fun key has => (same key).symm.trans has

/-- A task that has not begun declares a resource. What it has then is what the batch has, so there
is room for it. -/
theorem declare (h : scope.Follows batch brief) (unbegun : scope.begun = false) {term : Term}
    (fresh : term.key ∉ scope.declared)
    (keys : ∀ key, (brief.use? key).isSome = batch.passages.contains key) {passage : Passage}
    (passages : after.passages = batch.passages.insert term.key passage)
    (room : after.passages.size ≤ maxResources) (one : barriers.length ≤ 1)
    (on : ∀ barrier ∈ barriers, barrier.key = some term.key) :
    (scope.declaring term.key ⟨term.initial, term.final, false⟩ barriers).Follows after
      (brief.declaring term) := by
  have undeclared : brief.term? term.key = none := Brief.term?_eq_none (h.declared ▸ fresh)
  have has (key : Key) : after.passages.contains key = true ↔
      key = term.key ∨ batch.passages.contains key = true := by
    rw [passages, KeyTable.contains_insert]
  have table (key : Key) :
      (scope.uses.insert term.key ⟨term.initial, term.final, false⟩).find? key =
        (brief.declaring term).use? key := by
    rw [KeyTable.find?_insert, Brief.use?_declaring undeclared, h.table unbegun]
  have queued := h.queued.mono fun key known => (has key).2 (.inr known)
  refine {
    room := ?room
    declared := ?declared
    nodup := ?nodup
    holds := fun key entered => ?holds
    table := fun _ => table
    opens := fun barrier mem => ?opens
    queued := queued.append ((has _).2 (.inl rfl)) one on fun barrier mem same => ?queued }
  -- The task has no resource that the batch has not, and there was room for this one in the batch.
  case room =>
    refine Nat.le_trans (KeyTable.size_le_of_contains fun key entered => (has key).2 ?_) room
    refine ((scope.uses.contains_insert _ _ _).1 entered).imp_right fun entered => ?_
    rw [← keys, ← h.table unbegun]
    exact entered
  case declared =>
    show scope.declared ++ [term.key] = (brief.terms ++ [term]).map (·.key)
    rw [List.map_append, h.declared]
    rfl
  case nodup =>
    refine List.nodup_append.2 ⟨h.nodup, List.pairwise_singleton _ _, ?_⟩
    rintro _ mem _ new rfl
    exact fresh (List.mem_singleton.1 new ▸ mem)
  case holds => exact (congrArg Option.isSome (table key)).trans entered
  case opens =>
    rcases List.mem_append.1 mem with mem | mem
    · obtain ⟨key, declared, same⟩ := h.opens barrier mem
      exact ⟨key, List.mem_append_left _ declared, same⟩
    · exact ⟨term.key, List.mem_append_right _ List.mem_cons_self, on barrier mem⟩
  case queued =>
    obtain ⟨key, declared, is⟩ := h.opens barrier mem
    obtain rfl := Option.some.inj (is.symm.trans same)
    exact fresh declared

end Scope.Follows

/-- To begin as the last task changes the entries of a table, not which there are. -/
theorem contains_usesAtBegin (batch : Batch) (scope : Scope) (last : Bool) (key : Key) :
    (batch.usesAtBegin scope last).contains key = scope.uses.contains key := by
  unfold usesAtBegin
  split
  · exact scope.uses.contains_map _ key
  · rfl

end

namespace Briefing

section

variable {briefing : Briefing} {after : Batch} {scope : Scope}

/-- A new batch has neither tasks nor briefs. -/
theorem sound_new (id : BatchId) (queue : Queue) : Sound { batch := new id queue } where
  few := Nat.zero_le _
  indexed := rfl
  room := Nat.zero_le _
  queued := queuedOnce_nil _
  follows := fun _ _ _ found => nomatch found
  seeded := fun _ _ _ _ recorded => nomatch recorded
  current := fun _ _ _ known => nomatch known
  newest := fun _ _ _ recorded => nomatch recorded

/-- There are as many briefs as tasks. -/
theorem Sound.length_eq (h : briefing.Sound) :
    briefing.briefs.length = briefing.batch.scopes.length := by
  simpa using congrArg List.length h.indexed

/-- Before the first task, resources are in the usages in which the batch finds them. -/
theorem Sound.current_eq_initial (h : briefing.Sound) (unstarted : briefing.batch.scopes = [])
    {key : Key} {passage : Passage}
    (known : briefing.batch.passages.find? key = some passage) :
    passage.current = passage.initial := by
  have found := h.current (.inl unstarted) key passage known
  rw [unstarted] at found
  replace found : (briefing.batch.passages.find? key).map (·.initial) = some passage.current :=
    found
  rw [known] at found
  exact (Option.some.inj found).symm

/-! ## Calls that declare nothing

To record a task writes one table, in which it may add a resource that strayed there. The bound is
checked then, against that one table. -/

/-- A call that leaves the tasks as their briefs say, and the batch with the resources it had. -/
theorem Sound.carry (h : briefing.Sound) {finished : Bool}
    (length : after.scopes.length = briefing.batch.scopes.length)
    (scopes : ∀ (task : Nat) (later : Scope), after.scopes[task]? = some later →
      ∃ scope, briefing.batch.scopes[task]? = some scope ∧
        ∀ brief, scope.Follows briefing.batch brief → later.Follows briefing.batch brief)
    (initials : ∀ key, (after.passages.find? key).map (·.initial) =
      (briefing.batch.passages.find? key).map (·.initial))
    (opening : after.opening = briefing.batch.opening ∨ after.opening = [])
    (same : after.scopes = [] ∨ finished = false → after.passages = briefing.batch.passages)
    (unfinished : finished = false → briefing.lastFinished = false) :
    Sound { briefing with batch := after, lastFinished := finished } := by
  have contains (key : Key) :
      after.passages.contains key = briefing.batch.passages.contains key := by
    have initial := congrArg Option.isSome (initials key)
    rwa [Option.isSome_map, Option.isSome_map] at initial
  have known (key : Key) (has : briefing.batch.passages.contains key = true) :
      after.passages.contains key = true := (contains key).trans has
  have finds {key : Key} {task : Nat} {usage : Usage}
      (found : briefing.found? key task = some usage) :
      found? { briefing with batch := after, lastFinished := finished } key task = some usage :=
    found?_congr found (fun passage on => by rw [initials, on]; rfl) fun _ _ => rfl
  refine
    { few := length ▸ h.few
      indexed := length ▸ h.indexed
      room := ?room
      queued := ?queued
      follows := ?follows
      seeded := ?seeded
      current := ?current
      newest := ?newest }
  case room =>
    refine Nat.le_trans (KeyTable.size_le_of_contains fun key has => ?_) h.room
    exact (contains key).symm.trans has
  case queued =>
    show after.QueuedOnce after.opening
    rcases opening with same | none
    · exact same ▸ h.queued.mono known
    · exact none ▸ queuedOnce_nil after
  case follows =>
    intro task later brief found recorded
    obtain ⟨scope, before, follows⟩ := scopes task later found
    exact (follows brief (h.follows task scope brief before recorded)).mono known
  case seeded =>
    intro task brief key use recorded seeded
    obtain ⟨level, found⟩ := h.seeded task brief key use recorded seeded
    exact ⟨level, fun early => finds (found early)⟩
  -- The passages may have changed only if the last task was finished, and then there is nothing to
  -- show. Otherwise they are as before, and so is the newest task.
  case current =>
    intro early key passage on
    replace on : after.passages.find? key = some passage := on
    rw [same early] at on
    show found? _ key after.scopes.length = _
    rw [length]
    refine finds (h.current (early.imp (fun none => ?_) unfinished) key passage on)
    exact List.length_eq_zero_iff.1 (length.symm.trans (List.length_eq_zero_iff.2 none))
  case newest =>
    intro task brief newest recorded key
    exact (h.newest task brief (length ▸ newest) recorded key).trans (contains key).symm

/-- A call that does not touch the tables. -/
theorem Sound.beside (h : briefing.Sound) (scopes : after.scopes = briefing.batch.scopes)
    (passages : after.passages = briefing.batch.passages)
    (opening : after.opening = briefing.batch.opening) : Sound { briefing with batch := after } :=
  h.carry (congrArg List.length scopes)
    (fun _ later found => ⟨later, scopes ▸ found, fun _ follows => follows⟩)
    (fun key => by rw [passages]) (.inl opening) (fun _ => passages) fun unfinished => unfinished

/-- A call that writes the table of one task. -/
theorem Sound.write (h : briefing.Sound) {finished : Bool} {task : Nat} {changed : Scope}
    (found : briefing.batch.scopes[task]? = some scope)
    (scopes : after.scopes = (briefing.batch.setScope task changed).scopes)
    (follows : ∀ brief, scope.Follows briefing.batch brief → changed.Follows briefing.batch brief)
    (initials : ∀ key, (after.passages.find? key).map (·.initial) =
      (briefing.batch.passages.find? key).map (·.initial))
    (opening : after.opening = briefing.batch.opening ∨ after.opening = [])
    (same : finished = false → after.passages = briefing.batch.passages)
    (unfinished : finished = false → briefing.lastFinished = false) :
    Sound { briefing with batch := after, lastFinished := finished } := by
  have length : after.scopes.length = briefing.batch.scopes.length := by
    rw [scopes]
    exact List.length_set
  have bound : task < briefing.batch.scopes.length := (List.getElem?_eq_some_iff.1 found).1
  refine h.carry length (fun other later found' => ?_) initials opening (fun early => ?_) unfinished
  · rw [scopes, getElem?_setScope found] at found'
    split at found'
    · rename_i same
      cases found'
      exact ⟨scope, same ▸ found, follows⟩
    · exact ⟨later, found', fun _ follows => follows⟩
  · refine same (early.resolve_left fun none => ?_)
    rw [none] at length
    exact absurd (length ▸ bound) (Nat.not_lt_zero _)

/-- A resource is declared for the whole batch. Nothing is on record of tasks then. -/
theorem Sound.used (h : briefing.Sound) (unstarted : briefing.batch.scopes = []) {key : Key}
    {passage : Passage} (scopes : after.scopes = [])
    (passages : after.passages = briefing.batch.passages.insert key passage)
    (room : briefing.batch.passages.contains key = true ∨
      briefing.batch.passages.size < maxResources)
    (level : passage.current = passage.initial) (queued : after.QueuedOnce after.opening) :
    Sound { briefing with batch := after } := by
  -- There are no tasks and hence no briefs, so that only the table of the batch has to be looked
  -- at.
  have none : briefing.briefs = [] :=
    List.length_eq_zero_iff.1 (by rw [h.length_eq, unstarted]; rfl)
  have nowhere {task : Nat} {brief : Brief} : briefing.briefs[task]? ≠ some brief := by
    rw [none]
    exact nofun
  have current (other : Key) (later : Passage) (on : after.passages.find? other = some later) :
      later.current = later.initial := by
    rw [passages, KeyTable.find?_insert] at on
    split at on
    · cases on
      exact level
    · exact h.current_eq_initial unstarted on
  refine
    { few := ?few
      indexed := ?indexed
      room := ?room
      queued := queued
      follows := fun task scope brief _ recorded => absurd recorded nowhere
      seeded := fun task brief key use recorded => absurd recorded nowhere
      current := fun _ other later on => ?current
      newest := fun task brief _ recorded => absurd recorded nowhere }
  case few =>
    show after.scopes.length ≤ maxTasks
    rw [scopes]
    exact Nat.zero_le _
  case indexed =>
    show briefing.briefs.map _ = List.range after.scopes.length
    rw [none, scopes]
    rfl
  case room =>
    show after.passages.size ≤ maxResources
    rw [passages]
    exact KeyTable.size_insert_le h.room room
  case current =>
    show found? _ other after.scopes.length = _
    rw [scopes, current other later on]
    exact congrArg (Option.map _) on

/-! ## One more task

The table of a new task is a copy of what the batch has, so that it has room for it because the
batch has. -/

/-- A new task starts with what the batch has, and finds it as the task before leaves it. -/
theorem Sound.created (h : briefing.Sound) (room : briefing.batch.scopes.length < maxTasks) :
    briefing.created.Sound := by
  have length := h.length_eq
  refine
    { few := briefing.length_created ▸ room
      indexed := ?indexed
      room := h.room
      queued := h.queued.mono fun _ has => has
      follows := ?follows
      seeded := ?seeded
      current := ?current
      newest := ?newest }
  case indexed =>
    rw [briefing.length_created, List.range_succ, ← h.indexed]
    exact List.map_append
  -- The new scope and the new brief come last, in the same place. Mixed cases have no such place.
  case follows =>
    intro task scope brief found recorded
    rcases getElem?_concat_eq_some.1 found with found | ⟨rfl, rfl⟩ <;>
      rcases getElem?_concat_eq_some.1 recorded with recorded | ⟨last, rfl⟩
    · exact (h.follows task scope brief found recorded).mono fun _ has => has
    · have bound := (List.getElem?_eq_some_iff.1 found).1
      omega
    · have bound := (List.getElem?_eq_some_iff.1 recorded).1
      omega
    · refine ⟨Nat.le_trans (KeyTable.size_le_of_contains fun key has => ?_) h.room, rfl,
        List.nodup_nil, fun _ on => on, fun _ _ => rfl, fun _ mem => absurd mem List.not_mem_nil,
        queuedOnce_nil _⟩
      exact (KeyTable.contains_map _ _ key).symm.trans has
  -- The table of the new task is a copy of that of the batch, about which `current` says that it is
  -- what the task is to find.
  case seeded =>
    intro task brief key use recorded on
    rcases getElem?_concat_eq_some.1 recorded with recorded | ⟨last, rfl⟩
    · obtain ⟨level, found⟩ := h.seeded task brief key use recorded on
      have old := (List.getElem?_eq_some_iff.1 recorded).1
      exact ⟨level, fun early => found?_created (by omega) (found early)⟩
    · replace on : briefing.seed.find? key = some use := on
      rw [find?_seed] at on
      obtain ⟨passage, known, rfl⟩ := Option.map_eq_some_iff.1 on
      refine ⟨rfl, fun early => found?_created (Nat.le_of_eq last) ?_⟩
      rw [last, length]
      refine h.current (early.imp_left fun first => ?_) key passage known
      exact List.length_eq_zero_iff.1 (by rw [← length, ← last, first])
  case current =>
    intro _ key passage known
    rw [briefing.length_created]
    show (briefing.briefs ++ [_])[briefing.batch.scopes.length]?.bind _ = _
    rw [← length, List.getElem?_concat_length]
    show (briefing.seed.find? key).map _ = _
    rw [find?_seed, show briefing.batch.passages.find? key = some passage from known]
    rfl
  case newest =>
    intro task brief newest recorded key
    rw [briefing.length_created] at newest
    rcases getElem?_concat_eq_some.1 recorded with recorded | ⟨-, rfl⟩
    · have bound := (List.getElem?_eq_some_iff.1 recorded).1
      omega
    · show (briefing.seed.find? key).isSome = (briefing.batch.passages.find? key).isSome
      rw [find?_seed, Option.isSome_map]

/-! ## One more declaration

This is the call that writes two tables and looks for room in one. It fits in the other because a
task that has not begun has nothing that the batch does not have. -/

section

variable {task : Nat} {barriers : List Barrier} {passage : Passage}

/-- The newest task declares a resource, and the next one is to find it so. -/
theorem Sound.declared (h : briefing.Sound) (term : Term)
    (newest : briefing.batch.scopes.length = task + 1)
    (found : briefing.batch.scopes[task]? = some scope) (unbegun : scope.begun = false)
    (fresh : term.key ∉ scope.declared) (leaves : passage.current = term.final)
    (initial : ∀ former, briefing.batch.passages.find? term.key = some former →
      passage.initial = former.initial)
    (room : (briefing.batch.passages.insert term.key passage).size ≤ maxResources)
    (one : barriers.length ≤ 1) (on : ∀ barrier ∈ barriers, barrier.key = some term.key) :
    (briefing.declared task scope term barriers passage).Sound := by
  have bound : task < briefing.briefs.length := by
    rw [h.length_eq, newest]
    exact Nat.lt_succ_self task
  obtain ⟨brief, recorded⟩ : ∃ brief, briefing.briefs[task]? = some brief :=
    ⟨_, List.getElem?_eq_getElem bound⟩
  have follows := h.follows task scope brief found recorded
  have undeclared : brief.term? term.key = none := Brief.term?_eq_none (follows.declared ▸ fresh)
  have read (other : Nat) : (briefing.declared task scope term barriers passage).briefs[other]? =
      if other = task then some (brief.declaring term) else briefing.briefs[other]? :=
    getElem?_declared recorded other
  have length := briefing.length_declared task scope term barriers passage
  have known (key : Key) (has : briefing.batch.passages.contains key = true) :
      (briefing.batch.passages.insert term.key passage).contains key = true :=
    (KeyTable.contains_insert _ _ _ _).2 (.inr has)
  refine
    { few := length ▸ h.few
      indexed := ?indexed
      room := room
      queued := h.queued.mono known
      follows := ?follows
      seeded := ?seeded
      current := ?current
      newest := ?newest }
  case indexed =>
    rw [length, ← h.indexed]
    exact map_index_declared recorded
  -- The newest task and its brief get the same declaration, and the others stay.
  case follows =>
    intro other scope' brief' found' recorded'
    replace found' := (getElem?_setScope found _ other).symm.trans found'
    rw [read] at recorded'
    by_cases same : other = task
    · rw [if_pos same] at found' recorded'
      cases found'
      cases recorded'
      exact follows.declare unbegun fresh (h.newest task brief newest recorded) rfl room one on
    · rw [if_neg same] at found' recorded'
      exact (h.follows other scope' brief' found' recorded').mono known
  -- A task that was created before goes by earlier tasks, none of which declares any more.
  case seeded =>
    intro other later key use recorded' seeded
    obtain ⟨former, old, same, early⟩ := exists_of_getElem?_declared recorded recorded'
    obtain ⟨level, found⟩ := h.seeded other former key use old (same ▸ seeded)
    have upTo := (List.getElem?_eq_some_iff.1 old).1
    rw [h.length_eq] at upTo
    rw [early]
    exact ⟨level, fun early => found?_declared recorded initial (by omega) (found early)⟩
  case current =>
    intro early key later on'
    -- There is a task, so the condition says that the last one was not finished.
    have unfinished : briefing.lastFinished = false := early.resolve_left fun none => by
      rw [none, newest] at length
      exact Nat.succ_ne_zero _ length.symm
    replace on' : (briefing.batch.passages.insert term.key passage).find? key = some later := on'
    rw [KeyTable.find?_insert] at on'
    rw [length, newest, found?_declared_succ recorded undeclared]
    by_cases same : key = term.key
    · rw [if_pos same] at on' ⊢
      cases on'
      rw [leaves]
    · rw [if_neg same] at on' ⊢
      rw [← newest]
      exact h.current (.inr unfinished) key later on'
  -- Only the newest task is looked at, and both its brief and the batch get the resource.
  case newest =>
    intro other brief' newest' recorded' key
    rw [length] at newest'
    obtain rfl : other = task := by omega
    rw [read, if_pos rfl] at recorded'
    cases recorded'
    show _ = (briefing.batch.passages.insert term.key passage).contains key
    rw [Brief.use?_declaring undeclared, Bool.eq_iff_iff, KeyTable.contains_insert,
      ← h.newest other brief newest recorded]
    by_cases same : key = term.key <;> simp [same]

end

end

/-! ## One call

The cases are sorted by what they do to the briefs. Only declarations and the creation of a task
change those. -/

section

variable {briefing : Briefing} {tracker : Tracker} {call : Call} {answer : Except BatchError Reply}
  {after : Batch} {commands : List Command}

/-- **One call** leaves the tables as the briefs say. -/
theorem Sound.effect (h : briefing.Sound)
    (effect : Effect tracker briefing.batch call answer after commands) :
    (briefing.after tracker call answer after).Sound := by
  have has {ν : Type} {table : KeyTable ν} {key : Key} {value : ν}
      (known : table.find? key = some value) : table.contains key = true :=
    Option.isSome_iff_exists.2 ⟨value, known⟩
  -- A task that has begun writes a resource that it has, or one for which there is room.
  have writes {task : Nat} {scope : Scope} {key : Key} {use : TaskUse}
      (found : briefing.batch.scopes[task]? = some scope) (begun : scope.begun = true)
      (room : scope.uses.contains key = true ∨ scope.uses.size < maxResources) :
      Sound { briefing with batch := briefing.batch.setUse task scope key use } :=
    h.write found rfl (fun _ follows => follows.insert begun room) (fun _ => rfl) (.inl rfl)
      (fun _ => rfl) fun unfinished => unfinished
  -- Most calls leave the tables alone. The rest writes one task, creates one, or declares.
  cases effect with
  | refused | asked | uploads | readsBack | relaxes | marked | passedOver | undiscarded
  | readBack | uploaded | committed => exact h.beside rfl rfl rfl
  | redeclared unstarted known same =>
    have level := h.current_eq_initial unstarted known
    refine h.used unstarted unstarted rfl (.inl (has known)) level (h.queued.mono fun _ has => ?_)
    exact (KeyTable.contains_insert _ _ _ _).2 (.inr has)
  -- The barrier of the first use is queued once, since nothing is queued on a resource that the
  -- batch does not know.
  | declared unstarted unknown room =>
    refine h.used unstarted unstarted rfl (.inr room) rfl ((h.queued.mono fun _ has => ?_).append
      ((KeyTable.contains_insert _ _ _ _).2 (.inl rfl)) Option.length_toList_le
      (fun _ mem => key_of_mem_firstUse mem) fun barrier mem same => ?_)
    · exact (KeyTable.contains_insert _ _ _ _).2 (.inr has)
    · obtain ⟨other, on, known⟩ := h.queued.known barrier mem
      obtain rfl := Option.some.inj (on.symm.trans same)
      rw [unknown] at known
      cases known
  | created open' room =>
    have created := h.created room
    unfold Briefing.after briefsAfter
    dsimp only
    rw [List.getElem?_concat_length]
    exact created
  | @joined task key initial final scope passage newest found unbegun fresh known =>
    refine h.declared ⟨key, initial, final⟩ newest found unbegun fresh rfl
      (fun former on => ?_) (KeyTable.size_insert_le h.room (.inl (has known)))
      (length_openingOf _ _ _ _) fun _ mem => key_of_mem_openingOf mem
    rw [Option.some.inj (on.symm.trans known)]
  | @introduced task key initial final scope newest found unbegun fresh unknown room =>
    refine h.declared ⟨key, initial, final⟩ newest found unbegun fresh rfl
      (fun former on => ?_) (KeyTable.size_insert_le h.room (.inr room))
      Option.length_toList_le fun _ mem => key_of_mem_firstUse mem
    rw [unknown] at on
    cases on
  | @began task last scope inRange found unbegun =>
    refine h.write found rfl (fun _ follows => ?_) (fun _ => rfl) ?_ (fun _ => rfl)
      fun unfinished => unfinished
    · exact follows.rewrite (contains_usesAtBegin _ scope last) rfl rfl (.inr rfl)
    · by_cases first : task = 0
      · exact .inr (if_pos first)
      · exact .inl (if_neg first)
  | moved found begun known | discarded found begun known | overridden found begun known =>
    exact writes found begun (.inl (has known))
  | fetched found begun unknown counts room => exact writes found begun (.inr room)
  | installed found begun unknown room => exact writes found begun (.inr room)
  -- Passages settle if the task is the last one, and that is when the briefing notes it as
  -- finished.
  | @ended task scope found begun =>
    refine h.write found rfl (fun _ follows => ?_) (fun key => ?_) (.inl rfl)
      (fun unfinished => if_neg fun marked => ?_)
      fun unfinished => (Bool.or_eq_false_iff.1 unfinished).2
    · exact follows.rewrite (scope.uses.contains_map _) rfl begun (.inl rfl)
    · show ((if _ then _ else _ : KeyTable Passage).find? key).map _ = _
      split
      · rw [KeyTable.find?_map, Option.map_map]
        rfl
      · rfl
    · have other := (Bool.or_eq_false_iff.1 unfinished).1
      simp [finishesLast, marked, Except.toBool] at other

/-- Declaring a resource for the whole batch leaves the tables as the briefs say. -/
theorem Sound.use (h : briefing.Sound) (tracker : Tracker) (key : Key) (initial final : Usage) :
    Sound { briefing with batch := (briefing.batch.use tracker key initial final).batch } := by
  have effect : Effect tracker briefing.batch (.use key initial final) _ _ _ :=
    .of_use key initial final
  have declared := h.effect effect
  cases answer : (briefing.batch.use tracker key initial final).answer with
  | error error =>
    rw [answer] at declared
    exact declared
  | ok passage =>
    rw [answer] at declared
    exact declared

/-- **Every call** leaves the tables as the briefs say. Declaring several resources comes to
declaring them one by one; declaring by default comes to one declaration. -/
theorem Sound.next (h : briefing.Sound) (call : Tracker × Call) : (briefing.next call).Sound := by
  obtain ⟨tracker, call⟩ := call
  -- Three calls stand for others; `Effect` says what the rest does.
  cases call with
  | useAtRest key =>
    let resting := (tracker.restingUsage key).1
    have declared : (briefing.next (tracker, .use key resting resting)).Sound :=
      h.effect (perform_effect briefing.batch tracker trivial)
    exact declared
  | useTargets targets =>
    have declared : Sound
        { briefing with batch := (briefing.batch.useTargets tracker targets).batch } :=
      useMany_induction (P := fun batch => Sound { briefing with batch }) tracker
        (fun batch key initial final h => h.use tracker key initial final) _ h
    show Sound (briefing.after _ _ ((briefing.batch.useTargets tracker targets).answer.map _) _)
    cases (briefing.batch.useTargets tracker targets).answer with
    | error error => exact declared
    | ok answer => exact declared
  | declareDefault task key =>
    let usages := briefing.batch.defaultUsages tracker key
    have declared : (briefing.next (tracker, .declare task key usages.1 usages.2)).Sound :=
      h.effect (perform_effect briefing.batch tracker trivial)
    have same : briefing.batch.perform tracker (.declareDefault task key) =
        briefing.batch.perform tracker (.declare task key usages.1 usages.2) :=
      congrArg (·.turn tracker .taskUse) (declareDefault_eq briefing.batch tracker task key)
    unfold Briefing.next
    dsimp only
    rw [same]
    exact declared
  | _ => exact h.effect (perform_effect briefing.batch tracker trivial)

/-- **All calls** do. -/
theorem sound_run (id : BatchId) (queue : Queue) (calls : List (Tracker × Call)) :
    (briefingOf (new id queue) calls).Sound := by
  induction calls using List.reverseRecOn with
  | nil => exact sound_new id queue
  | append_singleton calls call ih =>
    rw [briefingOf_append]
    exact ih.next call

/-- Until a task begins, its table has what it declared as it declared it, and every other resource
in one usage, in which it finds it and leaves it. -/
theorem Sound.table (h : briefing.Sound) {task : Nat} {scope : Scope} {brief : Brief}
    (found : briefing.batch.scopes[task]? = some scope)
    (recorded : briefing.briefs[task]? = some brief) (unbegun : scope.begun = false) :
    (∀ term ∈ brief.terms,
      scope.uses.find? term.key = some ⟨term.initial, term.final, false⟩) ∧
    ∀ key use, key ∉ scope.declared → scope.uses.find? key = some use →
      use.current = use.final ∧
        (task = 0 ∨ brief.afterLast = false → briefing.found? key task = some use.current) := by
  have follows := h.follows task scope brief found recorded
  refine ⟨fun term mem => ?_, fun key use undeclared has => ?_⟩
  · rw [follows.table unbegun]
    exact Brief.use?_of_mem (follows.declared ▸ follows.nodup) mem
  · rw [follows.table unbegun] at has
    unfold Brief.use? at has
    rw [Brief.term?_eq_none (follows.declared ▸ undeclared)] at has
    exact h.seeded task brief key use recorded has

/-- Every task has what it declared, and the newest one what the batch has. -/
theorem Sound.holds (h : briefing.Sound) {task : Nat} {scope : Scope} {brief : Brief}
    (found : briefing.batch.scopes[task]? = some scope)
    (recorded : briefing.briefs[task]? = some brief) :
    (∀ key ∈ scope.declared, scope.uses.contains key = true) ∧
    (briefing.batch.scopes.length = task + 1 →
      (∀ key, briefing.batch.passages.contains key = true → scope.uses.contains key = true) ∧
      (scope.begun = false →
        ∀ key, scope.uses.contains key = briefing.batch.passages.contains key)) := by
  have follows := h.follows task scope brief found recorded
  refine ⟨fun key declared => ?_, fun newest => ?_⟩
  · rw [follows.declared] at declared
    obtain ⟨term, mem, rfl⟩ := List.mem_map.1 declared
    refine follows.holds term.key ?_
    rw [Brief.use?_of_mem (follows.declared ▸ follows.nodup) mem]
    rfl
  · have same := h.newest task brief newest recorded
    refine ⟨fun key known => follows.holds key ((same key).trans known), fun unbegun key => ?_⟩
    rw [← same key, ← follows.table unbegun]
    rfl

end

end Briefing

/-! ## All runs

The result is stated for a batch in memory, in which tables of former uses are still there. It shows
the batch of the briefing, so that nothing of these is ever in a table. -/

namespace Memory

/-- Carries calls out in order on a batch in memory. -/
def run (memory : Memory) (calls : List (Tracker × Call)) : Memory :=
  calls.foldl (fun memory call => memory.perform call.1 call.2) memory

/-- A batch in memory shows the batch of the briefing throughout. -/
theorem Faithful.run {memory : Memory} (h : memory.Faithful) (calls : List (Tracker × Call)) :
    (memory.run calls).shown = (briefingOf memory.shown calls).batch ∧
      (memory.run calls).Faithful := by
  induction calls using List.reverseRecOn with
  | nil => exact ⟨rfl, h⟩
  | append_singleton calls call ih =>
    obtain ⟨same, faithful⟩ := ih
    have last : memory.run (calls ++ [call]) = (memory.run calls).perform call.1 call.2 := by
      simp [Memory.run]
    obtain ⟨shown, faithful⟩ := faithful.perform call.1 call.2
    rw [last, briefingOf_append]
    exact ⟨shown.trans (by rw [same]; rfl), faithful⟩

end Memory

/-- **The tables of a batch and of its tasks are in step.** Take a batch in memory that is new or
was cleared, whatever there was before, and any calls on it.

The tasks created are numbered from zero on, in order and no more than there may be, and only they
are marked as begun. No table has more resources than there may be. The newest task has all
resources of the batch and, until it begins, no others. Every task has what it declared, and it
declared nothing twice.

Until a task begins, its table has what it declared as it declared it. Every other resource is to be
left as it is found: in the usage in which the task before leaves it, as that one declared or was
created with, and for the first task in the initial one of the batch. This takes that no task that
was marked as the last one was finished before the task was created.

The barriers that are queued for the batch and for every task are on resources of the batch, at most
one on each. -/
theorem tables_in_step {start : Memory} {id : BatchId} {queue : Queue}
    (fresh : start = Memory.new id queue ∨ ∃ former : Memory, start = former.reset id queue)
    (calls : List (Tracker × Call)) :
    let memory := start.run calls
    let briefing := briefingOf start.shown calls
    let batch := briefing.batch
    memory.shown = batch ∧
    (batch.scopes.length = memory.created ∧ memory.created ≤ maxTasks ∧
      briefing.briefs.map (·.index) = List.range memory.created ∧
      ∀ task ∈ memory.begun, task < memory.created) ∧
    (batch.passages.size ≤ maxResources ∧
      ∀ scope ∈ batch.scopes, scope.uses.size ≤ maxResources) ∧
    (∀ scope, batch.scopes.getLast? = some scope →
      (∀ key, batch.passages.contains key = true → scope.uses.contains key = true) ∧
      (scope.begun = false →
        ∀ key, scope.uses.contains key = batch.passages.contains key)) ∧
    (∀ (task : Nat) (scope : Scope), batch.scopes[task]? = some scope →
      ∃ brief, briefing.briefs[task]? = some brief ∧
        scope.declared = brief.terms.map (·.key) ∧ scope.declared.Nodup ∧
        (∀ key ∈ scope.declared, scope.uses.contains key = true) ∧
        (scope.begun = false →
          (∀ term ∈ brief.terms,
            scope.uses.find? term.key = some ⟨term.initial, term.final, false⟩) ∧
          ∀ key use, key ∉ scope.declared → scope.uses.find? key = some use →
            use.current = use.final ∧
              (task = 0 ∨ brief.afterLast = false →
                briefing.found? key task = some use.current))) ∧
    batch.QueuedOnce batch.opening ∧ ∀ scope ∈ batch.scopes, batch.QueuedOnce scope.opening := by
  intro memory briefing batch
  have cleared : start = Memory.new id queue := by
    obtain new | ⟨former, reset⟩ := fresh
    · exact new
    · exact reset.trans (former.reset_eq_new id queue)
  have whole : start.Faithful := cleared ▸ Memory.faithful_new id queue
  have empty : start.shown = new id queue := by
    rw [cleared]
    rfl
  have sound : briefing.Sound := by
    have run := Briefing.sound_run id queue calls
    rwa [← empty] at run
  obtain ⟨shown, faithful⟩ := whole.run calls
  have length : batch.scopes.length = memory.created := by
    rw [← faithful.length_shown, shown]
  have recorded {task : Nat} {scope : Scope} (found : batch.scopes[task]? = some scope) :
      ∃ brief, briefing.briefs[task]? = some brief ∧ scope.Follows batch brief := by
    have bound := (List.getElem?_eq_some_iff.1 found).1
    have recorded := List.getElem?_eq_getElem (sound.length_eq ▸ bound)
    exact ⟨_, recorded, sound.follows task scope _ found recorded⟩
  have follows {scope : Scope} (mem : scope ∈ batch.scopes) :
      ∃ brief, scope.Follows batch brief := by
    obtain ⟨task, found⟩ := List.getElem?_of_mem mem
    obtain ⟨brief, -, follows⟩ := recorded found
    exact ⟨brief, follows⟩
  refine ⟨shown, ⟨length, faithful.few, length ▸ sound.indexed, faithful.marks⟩,
    ⟨sound.room, fun scope mem => ?_⟩, fun scope last => ?_, fun task scope found => ?_,
    sound.queued, fun scope mem => ?_⟩
  · obtain ⟨brief, follows⟩ := follows mem
    exact follows.room
  · rw [List.getLast?_eq_getElem?] at last
    have bound := (List.getElem?_eq_some_iff.1 last).1
    obtain ⟨brief, recorded, -⟩ := recorded last
    refine (sound.holds last recorded).2 (Nat.succ_pred_eq_of_pos ?_).symm
    exact Nat.zero_lt_of_lt bound
  · obtain ⟨brief, recorded, follows⟩ := recorded found
    exact ⟨brief, recorded, follows.declared, follows.nodup, (sound.holds found recorded).1,
      sound.table found recorded⟩
  · obtain ⟨brief, follows⟩ := follows mem
    exact follows.queued

/-- A buffer that is copied to before the batch. -/
def mesh : Key := ⟨.buffer, ⟨0⟩⟩

/-- An image that is new to the batch. -/
def sheet : Key := ⟨.image, ⟨1⟩⟩

/-- What a batch leaves in memory that had a task, begun as the last one. -/
def worn : Memory :=
  (Memory.new ⟨0, 0⟩ .asyncCompute).run ([.createTask, .beginTask 0 true].map (.empty, ·))

/-- A task writes the buffer and introduces an image, and records another buffer. The next one draws
to the image. -/
def handedOn : List (Tracker × Call) :=
  [.use mesh .copyDst .shaderRead, .createTask, .declare 0 mesh .shaderRead .shaderReadWrite,
    .declareDefault 0 sheet, .createTask, .declare 1 sheet .colorAttachment .present,
    .beginTask 0 false, .report 0 ⟨.buffer, ⟨2⟩⟩ .copyDst, .markLast 40].map (.empty, ·)

/-- The second task finds the buffer as the first one leaves it, and the image as it declared. What
was left in memory does not count. -/
theorem tables_in_step_handedOn :
    let start := worn.reset ⟨0, 1⟩ .graphics
    let memory := start.run handedOn
    let briefing := briefingOf start.shown handedOn
    memory.created = 2 ∧ (∀ task ∈ memory.begun, task < 2) ∧
      ∃ scope, briefing.batch.scopes[1]? = some scope ∧
        (scope.uses.find? mesh).map (fun use => (use.current, use.final)) =
          some (.shaderReadWrite, .shaderReadWrite) ∧
        scope.uses.find? sheet = some ⟨.colorAttachment, .present, false⟩ := by
  intro start memory briefing
  have reset : start = worn.reset ⟨0, 1⟩ .graphics := rfl
  have empty : start.shown = new ⟨0, 1⟩ .graphics := by
    rw [reset, worn.reset_eq_new]
    rfl
  have same : briefing = briefingOf (new ⟨0, 1⟩ .graphics) handedOn := by
    rw [← empty]
  have created : memory.created = 2 := by decide +kernel
  have told : briefing.briefs[1]?.map (fun brief => (brief.terms, brief.afterLast)) =
      some ([⟨sheet, .colorAttachment, .present⟩], false) := by
    rw [same]
    rfl
  have left : briefing.found? mesh 1 = some .shaderReadWrite := by
    rw [same]
    rfl
  obtain ⟨scope, found, unbegun, undeclared, known⟩ : ∃ scope,
      briefing.batch.scopes[1]? = some scope ∧ scope.begun = false ∧ mesh ∉ scope.declared ∧
        (scope.uses.find? mesh).isSome = true := by
    rw [same]
    exact ⟨_, rfl, rfl, by decide +kernel, rfl⟩
  obtain ⟨-, ⟨-, -, -, begun⟩, -, -, tables, -⟩ := tables_in_step (.inr ⟨worn, reset⟩) handedOn
  obtain ⟨brief, recorded, -, -, -, table⟩ := tables 1 scope found
  obtain ⟨declared, others⟩ := table unbegun
  obtain ⟨use, has⟩ := Option.isSome_iff_exists.1 known
  obtain ⟨level, finds⟩ := others mesh use undeclared has
  rw [recorded] at told
  obtain ⟨terms, early⟩ := Prod.mk.inj (Option.some.inj told)
  have current := Option.some.inj ((finds (.inr early)).symm.trans left)
  refine ⟨created, fun task mem => created ▸ begun task mem, scope, found, ?_, ?_⟩
  · rw [has, Option.map_some, ← level, current]
  · exact declared ⟨sheet, .colorAttachment, .present⟩ (terms ▸ List.mem_singleton_self _)

end GpuSync.Batch
