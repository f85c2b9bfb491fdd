import GpuSync.Proofs.Batch.Compound
import GpuSync.Proofs.Batch.Weave
import Mathlib.Data.List.Induction

/-!
# Which task leaves resources as the batch does

The last task of a batch leaves the resources in the final usages of the batch, every other task as
it promised. A task is told to be the last in two places: by marking it, which is what
finishing and committing go by, and as it begins, which is what its table goes by. This file is
about how the two meet.

* `Batch.Diary` is a batch with what its tasks promised and which of them were begun as the last.
* `Batch.Diary.Honest` says that the tables of the tasks keep those promises.
* **`Batch.finish_leaves`**: a task that is finished leaves a resource in the final usage of the
  batch if it was begun as the last, whether or not it is the one that is marked. The two agree if
  tasks are marked only as they begin, and only one of them is.
* `Batch.mark_without_begin` has a task that is marked and not begun as the last, and one that is
  begun as the last and not marked.
-/

namespace GpuSync.Batch

/-- The task that a call declares something for, if it does. -/
def Call.declaresFor? : Call → Option (Nat × Key)
  | .declare task key _ _ | .declareDefault task key => some (task, key)
  | _ => none

/-- A batch with what happened to its tasks. -/
structure Diary where
  /-- The batch. -/
  batch : Batch
  /-- The usages that every task has to leave its resources in, as it declared them or, without a
  declaration, as it found them when it was created. -/
  promised : List (KeyTable Usage) := []
  /-- The tasks that were begun as the last one. -/
  begunLast : List Nat := []

/-- What is promised once a call had some answer. -/
def Diary.promisedAfter (diary : Diary) (call : Call) :
    Except BatchError Reply → List (KeyTable Usage)
  | .ok (.task _) => diary.promised ++ [diary.batch.passages.map fun _ passage => passage.current]
  | .ok (.taskUse use) =>
    match call.declaresFor? with
    | some (task, key) => diary.promised.modify task (·.insert key use.final)
    | none => diary.promised
  | _ => diary.promised

/-- The tasks begun as the last one once a call had some answer. -/
def Diary.begunLastAfter (diary : Diary) (call : Call) : Except BatchError Reply → List Nat
  | .ok _ =>
    match call with
    | .beginTask task true => diary.begunLast ++ [task]
    | _ => diary.begunLast
  | .error _ => diary.begunLast

/-- Goes on with one more call, which meets some tracker. -/
def Diary.next (diary : Diary) (call : Tracker × Call) : Diary :=
  let turn := diary.batch.perform call.1 call.2
  { batch := turn.batch
    promised := diary.promisedAfter call.2 turn.answer
    begunLast := diary.begunLastAfter call.2 turn.answer }

/-- Carries calls out in order, on a batch that is new. -/
def diaryOf (id : BatchId) (queue : Queue) (calls : List (Tracker × Call)) : Diary :=
  calls.foldl Diary.next { batch := new id queue }

/-- A diary goes on with the last call. -/
@[simp] theorem diaryOf_append (id : BatchId) (queue : Queue) (calls : List (Tracker × Call))
    (call : Tracker × Call) :
    diaryOf id queue (calls ++ [call]) = (diaryOf id queue calls).next call := by
  simp [diaryOf]

/-! ## Promises are kept

What a task promised has to be found in its table when it is finished. For a task that was begun as
the last one the table has the final usages of the batch instead, and this is decided as the task
begins, not as it is finished. -/

/-- The resources of a batch with their final usages carry on in another. -/
def FinalsKept (batch after : Batch) : Prop :=
  ∀ key passage, batch.passages.find? key = some passage →
    ∃ later, after.passages.find? key = some later ∧ later.final = passage.final

/-- A batch that is left alone keeps its final usages. -/
theorem FinalsKept.refl (batch : Batch) : FinalsKept batch batch :=
  fun _ passage known => ⟨passage, known, rfl⟩

/-- Writing one passage keeps the final usages if it keeps that one. -/
theorem finalsKept_insert {batch after : Batch} {key : Key} {new : Passage}
    (passages : after.passages = batch.passages.insert key new)
    (same : ∀ passage, batch.passages.find? key = some passage → new.final = passage.final) :
    FinalsKept batch after := by
  intro other passage known
  rw [passages, KeyTable.find?_insert]
  by_cases it : other = key
  · subst it
    exact ⟨new, if_pos rfl, same passage known⟩
  · exact ⟨passage, (if_neg it).trans known, rfl⟩

/-- A task's resources, with the usages it has to leave them in, carry on. -/
def Scope.EndsKept (scope later : Scope) : Prop :=
  ∀ key use, scope.uses.find? key = some use →
    ∃ use', later.uses.find? key = some use' ∧ use'.final = use.final

/-- A task that is left alone keeps the usages it declared to end in. -/
theorem Scope.EndsKept.refl (scope : Scope) : scope.EndsKept scope :=
  fun _ use known => ⟨use, known, rfl⟩

/-- Writing one resource keeps the usages to be left if it keeps that one. -/
theorem Scope.endsKept_insert {scope : Scope} {key : Key} {new : TaskUse}
    (same : ∀ use, scope.uses.find? key = some use → new.final = use.final) :
    scope.EndsKept { scope with uses := scope.uses.insert key new } := by
  intro other use known
  rw [KeyTable.find?_insert]
  by_cases it : other = key
  · subst it
    exact ⟨new, if_pos rfl, same use known⟩
  · exact ⟨use, (if_neg it).trans known, rfl⟩

/-- To finish a task changes where its resources are, not where they had to be left. -/
theorem Scope.endsKept_finished (scope : Scope) : scope.EndsKept scope.finished := by
  intro key use known
  refine ⟨{ use with current := use.final, discard := false }, ?_, rfl⟩
  rw [finished, KeyTable.find?_map, known]
  rfl

/-- The tables of the tasks keep what the tasks promised. The clause on resources has two cases, for
a task that was begun as the last one and for one that was not. -/
structure Diary.Honest (diary : Diary) : Prop where
  /-- Every task has promised something. -/
  counted : diary.promised.length = diary.batch.scopes.length
  /-- The tasks begun as the last one have begun. -/
  begun : ∀ task ∈ diary.begunLast, diary.batch.isBegun task = true
  /-- A resource is to be left as promised, or as the batch leaves it. -/
  ends : ∀ {task : Nat} {scope : Scope} {promises : KeyTable Usage} {key : Key} {usage : Usage},
    diary.batch.scopes[task]? = some scope → diary.promised[task]? = some promises →
    promises.find? key = some usage →
    ∃ use passage, scope.uses.find? key = some use ∧
      diary.batch.passages.find? key = some passage ∧
      use.final = if task ∈ diary.begunLast then passage.final else usage

section

variable {diary : Diary}

/-- The diary of a new batch has nothing to tell. -/
theorem Diary.honest_new (id : BatchId) (queue : Queue) : Honest { batch := new id queue } :=
  ⟨rfl, nofun, fun found => nomatch found⟩

/-- Nothing is promised to a batch without tasks. -/
theorem Diary.Honest.unstarted (h : diary.Honest) (unstarted : diary.batch.scopes = [])
    {after : Batch} (same : after.scopes = []) : Honest { diary with batch := after } := by
  refine ⟨h.counted.trans (by rw [unstarted]; exact congrArg List.length same.symm), ?_, ?_⟩
  · intro task mem
    have begun := h.begun task mem
    unfold isBegun at begun
    rw [unstarted] at begun
    cases begun
  · intro task scope promises key usage found
    rw [show Diary.batch _ = after from rfl, same] at found
    cases found

/-- Promises outlive calls that leave them in the tables. -/
theorem Diary.Honest.carry (h : diary.Honest) {after : Batch}
    (length : after.scopes.length = diary.batch.scopes.length)
    (begun : ∀ task, diary.batch.isBegun task = true → after.isBegun task = true)
    (scopes : ∀ (task : Nat) (later : Scope), after.scopes[task]? = some later →
      ∃ scope : Scope, diary.batch.scopes[task]? = some scope ∧ scope.EndsKept later)
    (finals : FinalsKept diary.batch after) : Honest { diary with batch := after } := by
  refine ⟨h.counted.trans length.symm, fun task mem => begun task (h.begun task mem), ?_⟩
  intro task later promises key usage found promised due
  obtain ⟨scope, before, ends⟩ := scopes task later found
  obtain ⟨use, passage, known, joined, final⟩ := h.ends before promised due
  obtain ⟨use', known', same⟩ := ends key use known
  obtain ⟨passage', joined', same'⟩ := finals key passage joined
  refine ⟨use', passage', known', joined', ?_⟩
  rw [same, same', final]

/-- A call that does not touch the tasks. -/
theorem Diary.Honest.beside (h : diary.Honest) {after : Batch}
    (scopes : after.scopes = diary.batch.scopes) (finals : FinalsKept diary.batch after) :
    Honest { diary with batch := after } := by
  refine h.carry (by rw [scopes]) (fun task begun => ?_) (fun task later found => ?_) finals
  · unfold isBegun at begun ⊢
    rw [scopes]
    exact begun
  · exact ⟨later, scopes ▸ found, .refl later⟩

/-- A call that writes the table of one task. -/
theorem Diary.Honest.write (h : diary.Honest) {task : Nat} {scope changed : Scope} {after : Batch}
    (found : diary.batch.scopes[task]? = some scope)
    (scopes : after.scopes = (diary.batch.setScope task changed).scopes)
    (begun : scope.begun = true → changed.begun = true) (ends : scope.EndsKept changed)
    (finals : FinalsKept diary.batch after) : Honest { diary with batch := after } := by
  have read (other : Nat) : after.scopes[other]? =
      if other = task then some changed else diary.batch.scopes[other]? := by
    rw [scopes, getElem?_setScope found]
  refine h.carry ?_ (fun other before => ?_) (fun other later found' => ?_) finals
  · rw [scopes]
    exact List.length_set
  · obtain ⟨was, at', before⟩ := isBegun_eq_true.1 before
    refine isBegun_eq_true.2 ?_
    rw [read]
    by_cases it : other = task
    · subst it
      obtain rfl := Option.some.inj (found.symm.trans at')
      exact ⟨changed, if_pos rfl, begun before⟩
    · exact ⟨was, (if_neg it).trans at', before⟩
  · rw [read] at found'
    by_cases it : other = task
    · subst it
      rw [if_pos rfl] at found'
      cases found'
      exact ⟨scope, found, ends⟩
    · rw [if_neg it] at found'
      exact ⟨later, found', .refl later⟩

/-- A resource of a task is written, or one is added. -/
theorem Diary.Honest.setUse (h : diary.Honest) {task : Nat} {scope : Scope} {key : Key}
    {use : TaskUse} (found : diary.batch.scopes[task]? = some scope)
    (same : ∀ former, scope.uses.find? key = some former → use.final = former.final) :
    Honest { diary with batch := diary.batch.setUse task scope key use } :=
  h.write found rfl (fun begun => begun) (Scope.endsKept_insert same) (.refl _)

/-- A task is created, and promises to leave every resource as it is. Its table is a copy of where
the resources are, and so are its promises. -/
theorem Diary.Honest.create (h : diary.Honest) :
    Honest
      { diary with
        batch :=
          { diary.batch with
            scopes := diary.batch.scopes ++
              [{ uses := diary.batch.passages.map fun _ p => ⟨p.current, p.current, false⟩ }] }
        promised := diary.promised ++ [diary.batch.passages.map fun _ p => p.current] } := by
  have counted := h.counted
  refine {
    counted := ?counted
    begun := fun task mem => ?begun
    ends := ?ends }
  case counted =>
    show (_ ++ [_]).length = (_ ++ [_]).length
    rw [List.length_append, List.length_append, counted]
    rfl
  case begun =>
    obtain ⟨scope, found, begun⟩ := isBegun_eq_true.1 (h.begun task mem)
    exact isBegun_eq_true.2 ⟨scope, getElem?_concat_eq_some.2 (.inl found), begun⟩
  case ends =>
    intro task scope promises key usage found promised due
    rcases getElem?_concat_eq_some.1 found with old | ⟨new, rfl⟩ <;>
      rcases getElem?_concat_eq_some.1 promised with kept | ⟨last, rfl⟩
    · exact h.ends old kept due
    -- the two lists are of one length, so a task is the new one in both or in none
    · have bound := (List.getElem?_eq_some_iff.1 old).1
      omega
    · have bound := (List.getElem?_eq_some_iff.1 kept).1
      omega
    -- The new task has the copy of the passages in its table and in its promises, and has not
    -- begun.
    · have none : task ∉ diary.begunLast := by
        intro mem
        obtain ⟨scope, found, -⟩ := isBegun_eq_true.1 (h.begun task mem)
        exact Nat.ne_of_lt (List.getElem?_eq_some_iff.1 found).1 new
      rw [KeyTable.find?_map, Option.map_eq_some_iff] at due
      obtain ⟨passage, known, rfl⟩ := due
      refine ⟨⟨passage.current, passage.current, false⟩, passage, ?_, known, (if_neg none).symm⟩
      rw [KeyTable.find?_map, known]
      rfl

/-- A task that has not begun was not begun as the last one. -/
theorem Diary.Honest.notMem_begunLast (h : diary.Honest) {task : Nat} {scope : Scope}
    (found : diary.batch.scopes[task]? = some scope) (unbegun : scope.begun = false) :
    task ∉ diary.begunLast := by
  intro mem
  obtain ⟨other, found', begun⟩ := isBegun_eq_true.1 (h.begun task mem)
  obtain rfl := Option.some.inj (found.symm.trans found')
  rw [unbegun] at begun
  cases begun

/-- A task declares a resource, and promises to leave it so. The later tasks, of which there are
none yet, would find the resource so. -/
theorem Diary.Honest.declare (h : diary.Honest) {task : Nat} {scope : Scope} {key : Key}
    {use : TaskUse} {barriers : List Barrier} {passage : Passage}
    (found : diary.batch.scopes[task]? = some scope) (unbegun : scope.begun = false)
    (same : ∀ former, diary.batch.passages.find? key = some former →
      passage.final = former.final) :
    Honest
      { diary with
        batch :=
          { diary.batch.setScope task (scope.declaring key use barriers) with
            passages := diary.batch.passages.insert key passage }
        promised := diary.promised.modify task (·.insert key use.final) } := by
  have read (other : Nat) := getElem?_setScope found (scope.declaring key use barriers) other
  have finals : FinalsKept diary.batch
      { diary.batch.setScope task (scope.declaring key use barriers) with
        passages := diary.batch.passages.insert key passage } := finalsKept_insert rfl same
  have outside := h.notMem_begunLast found unbegun
  refine {
    counted := ?counted
    begun := fun other mem => ?begun
    ends := ?ends }
  case counted =>
    show (diary.promised.modify _ _).length = (diary.batch.scopes.set _ _).length
    rw [List.length_modify, List.length_set, h.counted]
  case begun =>
    obtain ⟨was, at', begun⟩ := isBegun_eq_true.1 (h.begun other mem)
    refine isBegun_eq_true.2 ⟨was, (read other).trans ?_, begun⟩
    rw [if_neg (fun it : other = task => outside (it ▸ mem)), at']
  case ends =>
    intro other later promises key' usage found' promised due
    rw [show Diary.batch _ = _ from rfl] at found'
    rw [show Diary.promised _ = diary.promised.modify task (·.insert key use.final) from rfl,
      List.getElem?_modify] at promised
    have found' := (read other).symm.trans found'
    by_cases it : other = task
    · subst it
      rw [if_pos rfl] at found'
      cases found'
      obtain ⟨former, before, rfl⟩ := Option.map_eq_some_iff.1 promised
      rw [if_pos rfl, KeyTable.find?_insert] at due
      show ∃ use' passage', (scope.uses.insert key use).find? key' = some use' ∧
        (diary.batch.passages.insert key passage).find? key' = some passage' ∧ _
      rw [KeyTable.find?_insert, KeyTable.find?_insert]
      -- The resource declared is promised as its entry says. For the others nothing changed.
      by_cases this' : key' = key
      · rw [if_pos this'] at due ⊢
        rw [if_pos this']
        cases due
        exact ⟨use, passage, rfl, rfl, (if_neg outside).symm⟩
      · rw [if_neg this'] at due ⊢
        rw [if_neg this']
        exact h.ends found before due
    -- Another task promised before, and the final usages of the batch are kept by the insertion.
    · rw [if_neg it] at found'
      obtain ⟨former, before, rfl⟩ := Option.map_eq_some_iff.1 promised
      rw [if_neg (Ne.symm it)] at due
      obtain ⟨use', former', known, joined, final⟩ := h.ends found' before due
      obtain ⟨passage', joined', kept⟩ := finals key' former' joined
      exact ⟨use', passage', known, joined', by rw [kept]; exact final⟩

/-- A task begins, maybe as the last one. As the last one it takes the final usages of the batch
over, whatever it promised before. -/
theorem Diary.Honest.begin (h : diary.Honest) {task : Nat} {last : Bool} {scope : Scope}
    {after : Batch} (found : diary.batch.scopes[task]? = some scope) (unbegun : scope.begun = false)
    (scopes : after.scopes = (diary.batch.setScope task (scope.started diary.batch last)).scopes)
    (passages : after.passages = diary.batch.passages) :
    Honest
      { diary with
        batch := after
        begunLast := diary.begunLast ++ if last then [task] else [] } := by
  have read (other : Nat) : after.scopes[other]? =
      if other = task then some (scope.started diary.batch last)
      else diary.batch.scopes[other]? := by
    rw [scopes, getElem?_setScope found]
  have outside := h.notMem_begunLast found unbegun
  have lasts (other : Nat) : other ∈ diary.begunLast ++ (if last then [task] else []) ↔
      other ∈ diary.begunLast ∨ last = true ∧ other = task := by
    rw [List.mem_append]
    cases last <;> simp
  refine {
    counted := ?counted
    begun := fun other mem => ?begun
    ends := ?ends }
  case counted =>
    rw [show Diary.batch _ = after from rfl, scopes]
    exact h.counted.trans List.length_set.symm
  case begun =>
    refine isBegun_eq_true.2 ?_
    rw [read]
    by_cases it : other = task
    · exact ⟨_, if_pos it, rfl⟩
    · rw [if_neg it]
      rcases (lasts other).1 mem with mem | ⟨-, same⟩
      · exact isBegun_eq_true.1 (h.begun other mem)
      · exact absurd same it
  case ends =>
    intro other later promises key usage found' promised due
    rw [show Diary.batch _ = after from rfl] at found' ⊢
    rw [read] at found'
    rw [passages]
    by_cases it : other = task
    · subst it
      rw [if_pos rfl] at found'
      cases found'
      obtain ⟨use, passage, known, joined, final⟩ := h.ends found promised due
      rw [if_neg outside] at final
      -- This is where the argument of the call counts: begun as the last, the table takes over the
      -- final usages of the batch. Whether the task is marked is not looked at.
      cases last with
      | false =>
        refine ⟨use, passage, known, joined, ?_⟩
        rw [if_neg (by simpa using outside)]
        exact final
      | true =>
        refine ⟨{ use with final := passage.final }, passage, ?_, joined, ?_⟩
        · show (diary.batch.usesAtBegin scope true).find? key = _
          unfold usesAtBegin
          rw [if_pos rfl, KeyTable.find?_map, known, Option.map_some, joined]
        · rw [if_pos (by simp)]
    · rw [if_neg it] at found'
      obtain ⟨use, passage, known, joined, final⟩ := h.ends found' promised due
      refine ⟨use, passage, known, joined, final.trans ?_⟩
      simp only [lasts, it, and_false, or_false]

/-- Every call keeps promises, case by case. -/
theorem Diary.Honest.effect (h : diary.Honest) {tracker : Tracker} {call : Call}
    {answer : Except BatchError Reply} {after : Batch} {commands : List Command}
    (effect : Effect tracker diary.batch call answer after commands) :
    Honest
      { batch := after
        promised := diary.promisedAfter call answer
        begunLast := diary.begunLastAfter call answer } := by
  -- Promises are made as tasks are created and declare; from then on final usages are only copied.
  cases effect with
  | refused => exact h
  | created => exact h.create
  | joined _ found unbegun _ known =>
    exact h.declare found unbegun fun former known' => by
      cases known.symm.trans known'
      rfl
  | introduced _ found unbegun _ unknown =>
    exact h.declare found unbegun fun former known => by
      rw [unknown] at known
      cases known
  | @began task last scope _ found unbegun =>
    have same : diary.begunLastAfter (.beginTask task last) (.ok .done) =
        diary.begunLast ++ if last then [task] else [] := by
      cases last with
      | false => exact (List.append_nil _).symm
      | true => rfl
    rw [same]
    exact h.begin found unbegun rfl rfl
  | redeclared unstarted | declared unstarted =>
    exact h.unstarted unstarted unstarted
  | moved found _ known | discarded found _ known | overridden found _ known =>
    exact h.setUse found fun former known' => by
      cases known.symm.trans known'
      rfl
  | fetched found _ unknown | installed found _ unknown =>
    exact h.setUse found fun former known => by
      rw [unknown] at known
      cases known
  -- The finish of the marked task settles where the passages are, not where they end.
  | @ended task scope found begun =>
    refine h.write found rfl (fun begun => begun) scope.endsKept_finished ?_
    intro key passage known
    by_cases marked : diary.batch.lastTask = some task
    · refine ⟨{ passage with current := passage.final }, ?_, rfl⟩
      rw [if_pos marked, KeyTable.find?_map, known]
      rfl
    · exact ⟨passage, by rw [if_neg marked, known], rfl⟩
  | _ =>
    exact h.beside rfl (.refl _)

/-- Declaring a resource for the whole batch keeps promises. -/
theorem Diary.Honest.use (h : diary.Honest) (tracker : Tracker) (key : Key)
    (initial final : Usage) :
    Honest { diary with batch := (diary.batch.use tracker key initial final).batch } := by
  have effect : Effect tracker diary.batch (.use key initial final) _ _ _ :=
    .of_use key initial final
  have declared := h.effect effect
  cases answer : (diary.batch.use tracker key initial final).answer with
  | error error =>
    rw [answer] at declared
    exact declared
  | ok passage =>
    rw [answer] at declared
    exact declared

/-- Every call keeps promises. The calls that are made of others come to calls with a case of their
own. -/
theorem Diary.Honest.next (h : diary.Honest) (call : Tracker × Call) :
    (diary.next call).Honest := by
  obtain ⟨tracker, call⟩ := call
  cases call with
  | useAtRest key =>
    let resting := (tracker.restingUsage key).1
    have declared : (diary.next (tracker, .use key resting resting)).Honest :=
      h.effect (perform_effect diary.batch tracker trivial)
    exact declared
  | useTargets targets =>
    have declared : Honest
        { diary with batch := (diary.batch.useTargets tracker targets).batch } :=
      useMany_induction (P := fun batch => Honest { diary with batch }) tracker
        (fun batch key initial final h => h.use tracker key initial final) _ h
    show Honest ⟨_, diary.promisedAfter _ ((diary.batch.useTargets tracker targets).answer.map _),
      diary.begunLastAfter _ ((diary.batch.useTargets tracker targets).answer.map _)⟩
    cases (diary.batch.useTargets tracker targets).answer with
    | error error => exact declared
    | ok answer => exact declared
  | declareDefault task key =>
    obtain ⟨initial, final, same⟩ := exists_perform_declareDefault diary.batch tracker task key
    have basic : (Call.declare task key initial final).Basic := trivial
    have declared := h.effect (perform_effect diary.batch tracker basic)
    rw [← same] at declared
    exact declared
  | _ => exact h.effect (perform_effect diary.batch tracker trivial)

/-- Every diary is honest, by induction on the calls. -/
theorem Diary.honest_diaryOf (id : BatchId) (queue : Queue) (calls : List (Tracker × Call)) :
    (diaryOf id queue calls).Honest := by
  induction calls using List.reverseRecOn with
  | nil => exact honest_new id queue
  | append_singleton calls call ih =>
    rw [diaryOf_append]
    exact ih.next call

/-! ## The task that is marked

There are two ways to be marked, as the task begins and by hand, and the first mark stays. If nobody
marks by hand, the marked task is among those begun as the last; if only one was begun so, it is
that one. -/

/-- Only beginning a task, and marking one by hand, marks a last task; the first mark stays. -/
theorem Diary.marks_effect {tracker : Tracker} {call : Call} {answer : Except BatchError Reply}
    {after : Batch} {commands : List Command}
    (effect : Effect tracker diary.batch call answer after commands)
    (other : ∀ task, call ≠ .markLast task) :
    (after.lastTask = diary.batch.lastTask ∧
        diary.begunLastAfter call answer = diary.begunLast) ∨
      ∃ task, diary.begunLastAfter call answer = diary.begunLast ++ [task] ∧
        after.lastTask =
          if diary.batch.lastTask = none then some task else diary.batch.lastTask := by
  cases effect with
  | marked task => exact absurd rfl (other task)
  | @began task last _ inRange =>
    have marked := diary.batch.lastAfter_of_lt inRange last
    cases last with
    | false => exact .inl ⟨marked.trans (if_neg nofun), rfl⟩
    | true => exact .inr ⟨task, rfl, marked.trans (by simp only [true_and])⟩
  | _ => exact .inl ⟨rfl, rfl⟩

/-- To use resources with the batch marks no task. -/
theorem lastTask_useMany (batch : Batch) (tracker : Tracker) (uses : List (Key × Usage × Usage)) :
    (batch.useMany tracker uses).batch.lastTask = batch.lastTask := by
  refine useMany_induction (P := fun after => after.lastTask = batch.lastTask) tracker
    (fun former key initial final h => ?_) uses rfl
  rw [← h]
  have effect : Effect tracker former (.use key initial final) _ _ _ :=
    .of_use key initial final
  generalize former.use tracker key initial final = used at effect ⊢
  obtain ⟨answer, after, commands, notes⟩ := used
  cases answer <;> cases effect <;> rfl

/-- Among the calls other than the mark itself, one that begins a task as the last sets the mark of
the batch unless there is one, and no other call touches it. -/
theorem Diary.marks_next (diary : Diary) (call : Tracker × Call)
    (other : ∀ task, call.2 ≠ .markLast task) :
    ((diary.next call).batch.lastTask = diary.batch.lastTask ∧
        (diary.next call).begunLast = diary.begunLast) ∨
      ∃ task, (diary.next call).begunLast = diary.begunLast ++ [task] ∧
        (diary.next call).batch.lastTask =
          if diary.batch.lastTask = none then some task else diary.batch.lastTask := by
  obtain ⟨tracker, call⟩ := call
  cases call with
  | useAtRest key =>
    let resting := (tracker.restingUsage key).1
    have basic : (Call.use key resting resting).Basic := trivial
    exact diary.marks_effect (perform_effect diary.batch tracker basic) nofun
  | useTargets targets =>
    refine .inl ⟨lastTask_useMany diary.batch tracker _, ?_⟩
    show diary.begunLastAfter (.useTargets targets)
      ((diary.batch.useTargets tracker targets).answer.map fun _ => .done) = _
    cases (diary.batch.useTargets tracker targets).answer <;> rfl
  | declareDefault task key =>
    obtain ⟨initial, final, same⟩ := exists_perform_declareDefault diary.batch tracker task key
    have basic : (Call.declare task key initial final).Basic := trivial
    have declared := diary.marks_effect (perform_effect diary.batch tracker basic) nofun
    rw [← same] at declared
    exact declared
  | _ =>
    refine diary.marks_effect (perform_effect diary.batch tracker ?_) other
    trivial

/-- If tasks are marked only as they begin, the one that is marked was begun as the last. -/
theorem mem_begunLast_of_lastTask (id : BatchId) (queue : Queue) {calls : List (Tracker × Call)}
    (unmarked : ∀ call ∈ calls, ∀ task, call.2 ≠ .markLast task) :
    (∀ task, (diaryOf id queue calls).batch.lastTask = some task →
      task ∈ (diaryOf id queue calls).begunLast) ∧
    ((diaryOf id queue calls).batch.lastTask = none → (diaryOf id queue calls).begunLast = []) := by
  induction calls using List.reverseRecOn with
  | nil => exact ⟨nofun, fun _ => rfl⟩
  | append_singleton calls call ih =>
    obtain ⟨marked, unbegun⟩ := ih fun call mem => unmarked call (List.mem_append_left _ mem)
    rw [diaryOf_append]
    rcases (diaryOf id queue calls).marks_next call (unmarked call (by simp)) with
      ⟨same, begun⟩ | ⟨task, begun, same⟩
    · rw [same, begun]
      exact ⟨marked, unbegun⟩
    · rw [same, begun]
      by_cases first : (diaryOf id queue calls).batch.lastTask = none
      · rw [if_pos first]
        refine ⟨fun other it => ?_, nofun⟩
        cases it
        exact List.mem_append_right _ (List.mem_singleton_self _)
      · rw [if_neg first]
        exact ⟨fun other it => List.mem_append_left _ (marked other it),
          fun none => absurd none first⟩

/-! ## Finishing a task

Both parts are combined: a finished task leaves a resource as its table says, and the table says
what the batch promised if the task was begun as the last. The batch itself goes by the mark, which
is a different question. -/

/-- What finishing a task does, if it is accepted. All resources of its table are in their final
usages then, with the barriers that this takes. -/
theorem finish_of_accepted {batch : Batch} {task : Nat}
    (accepted : (batch.finish task).answer = .ok ()) :
    ∃ scope, batch.begunScope task = .ok scope ∧
      (batch.finish task).batch.begunScope task = .ok scope.finished ∧
      (batch.finish task).batch.passages =
        (if batch.lastTask = some task then
          batch.passages.map fun _ passage => { passage with current := passage.final }
        else batch.passages) ∧
      ∀ key, onKey key (Command.barriers (batch.finish task).commands) =
        onKey key (batch.closingBarriers scope) := by
  cases opened : batch.begunScope task with
  | error error =>
    unfold finish at accepted
    rw [opened] at accepted
    cases accepted
  | ok scope =>
    obtain ⟨inRange, found, begun⟩ := begunScope_eq_ok.1 opened
    have after : (batch.finish task).batch.scopes[task]? = some scope.finished := by
      unfold finish
      rw [opened]
      exact (getElem?_setScope found _ task).trans (if_pos rfl)
    refine ⟨scope, rfl, begunScope_eq_ok.2 ⟨inRange, after, begun⟩, ?_, fun key => ?_⟩
    · unfold finish
      rw [opened]
      simp only [beq_iff_eq]
    · unfold finish
      rw [opened]
      dsimp only
      rw [barriers_emitted_flush, onKey_append]
      have memory : onKey key (if (batch.lastTask == some task && batch.readsBackMemory) = true
          then [Barrier.memory .general .hostRead] else []) = [] := by
        split <;> rfl
      rw [memory, List.append_nil]

/-- **Which task leaves a resource as the batch does.** Take a batch after any calls, and a task
that is finished. A resource that the task declared, or found when it was created, is brought from
where it is to the final usage of the batch if the task was begun as the last, and else to the usage
the task promised. What the batch remembers, and publishes, is its final usage if the task is the
one that is marked.

The two agree if tasks are marked only as they begin and no two of them are begun as the last. -/
theorem finish_leaves (id : BatchId) (queue : Queue) (calls : List (Tracker × Call)) {task : Nat}
    (accepted : ((diaryOf id queue calls).batch.finish task).answer = .ok ())
    {promises : KeyTable Usage}
    (promised : (diaryOf id queue calls).promised[task]? = some promises)
    {key : Key} {usage : Usage} (due : promises.find? key = some usage) :
    let diary := diaryOf id queue calls
    let done := diary.batch.finish task
    ∃ passage before left, diary.batch.passage? key = some passage ∧
      left = (if task ∈ diary.begunLast then passage.final else usage) ∧
      diary.batch.usage? task key = .ok (some before) ∧
      Path key before (onKey key (Command.barriers done.commands)) left ∧
      done.batch.usage? task key = .ok (some left) ∧
      done.batch.passage? key = some
        { passage with
          current := if diary.batch.lastTask = some task then passage.final
            else passage.current } ∧
      ((∀ call ∈ calls, ∀ other, call.2 ≠ .markLast other) →
        (∀ a ∈ diary.begunLast, ∀ b ∈ diary.begunLast, a = b) →
        done.batch.usage? task key =
          .ok (some (if diary.batch.lastTask = some task then passage.final else usage))) := by
  intro diary done
  have honest : diary.Honest := Diary.honest_diaryOf id queue calls
  obtain ⟨scope, opened, finished, passages, barriers⟩ := finish_of_accepted accepted
  obtain ⟨-, found, -⟩ := begunScope_eq_ok.1 opened
  -- The entry in the table says where the resource has to be left. That it says so is what the
  -- diary is honest about.
  obtain ⟨use, passage, known, joined, final⟩ := honest.ends found promised due
  have left : done.batch.usage? task key = .ok (some use.final) := by
    unfold usage?
    rw [finished]
    show Except.ok ((scope.finished.uses.find? key).map _) = _
    rw [Scope.finished, KeyTable.find?_map, known]
    rfl
  refine ⟨passage, use.current, use.final, joined, final, ?_, ?_, left, ?_,
    fun unmarked alone => ?_⟩
  · unfold usage?
    rw [opened]
    show Except.ok ((scope.uses.find? key).map _) = _
    rw [known]
    rfl
  · rw [barriers key, onKey_closingBarriers diary.batch known]
    exact path_transition diary.batch key _ _ _
  · unfold passage?
    rw [passages]
    by_cases marked : diary.batch.lastTask = some task
    · rw [if_pos marked, if_pos marked, KeyTable.find?_map, joined]
      rfl
    · rw [if_neg marked, if_neg marked, joined]
  -- If tasks are marked only as they begin, the mark is one of those begun as the last, and there
  -- is but one.
  · obtain ⟨marked, unbegun⟩ := mem_begunLast_of_lastTask id queue unmarked
    have agree : diary.batch.lastTask = some task ↔ task ∈ diary.begunLast := by
      refine ⟨marked task, fun mem => ?_⟩
      cases last : diary.batch.lastTask with
      | none =>
        rw [unbegun last] at mem
        cases mem
      | some other => rw [alone task mem other (marked other last)]
    rw [left, final]
    simp only [agree]

end

/-- A buffer that the batch finds written by a copy and leaves to be read by shaders. -/
def filled : Key := ⟨.buffer, ⟨0⟩⟩

/-- Two tasks, the second of which is told to be the last as it begins. -/
def toldOnce : List (Tracker × Call) :=
  [.use filled .copyDst .shaderRead, .createTask, .createTask, .beginTask 0 false,
    .beginTask 1 true].map (Tracker.empty, ·)

/-- That task leaves the buffer as the batch does. -/
theorem finish_leaves_toldOnce :
    ((diaryOf ⟨0, 0⟩ .graphics toldOnce).batch.finish 1).batch.usage? 1 filled =
      .ok (some .shaderRead) := by
  have accepted : ((diaryOf ⟨0, 0⟩ .graphics toldOnce).batch.finish 1).answer = .ok () := rfl
  have promised : (diaryOf ⟨0, 0⟩ .graphics toldOnce).promised[1]? =
      some (KeyTable.empty.insert filled .copyDst) := rfl
  have due : (KeyTable.empty.insert filled .copyDst).find? filled = some Usage.copyDst := rfl
  obtain ⟨passage, before, left, known, rfl, -, -, leaves, -, -⟩ :=
    finish_leaves ⟨0, 0⟩ .graphics toldOnce accepted promised due
  have joined : (diaryOf ⟨0, 0⟩ .graphics toldOnce).batch.passage? filled =
      some ⟨.copyDst, .shaderRead, .copyDst⟩ := rfl
  cases joined.symm.trans known
  rw [leaves, if_pos (by decide)]

/-- A task that is marked, but not told so as it begins. -/
def markedOnly : List (Tracker × Call) :=
  [.use filled .copyDst .shaderRead, .createTask, .markLast 0, .beginTask 0 false].map
    (Tracker.empty, ·)

/-- Two tasks that are both told to be the last as they begin. -/
def toldTwice : List (Tracker × Call) :=
  [.use filled .copyDst .shaderRead, .createTask, .createTask, .beginTask 0 true,
    .beginTask 1 true].map (Tracker.empty, ·)

/-- **Marking and beginning may not agree.** A task that is marked and not begun as the last leaves
the buffer as it found it, though the batch goes on as if it were in its final usage; and a task
that is begun as the last but not marked leaves the buffer in the final usage of the batch. -/
theorem mark_without_begin :
    let batch := (diaryOf ⟨0, 0⟩ .graphics markedOnly).batch
    let other := diaryOf ⟨0, 0⟩ .graphics toldTwice
    (batch.lastTask = some 0 ∧ (batch.finish 0).answer = .ok () ∧
        (batch.finish 0).batch.usage? 0 filled = .ok (some .copyDst) ∧
        (batch.finish 0).batch.passage? filled = some ⟨.copyDst, .shaderRead, .shaderRead⟩) ∧
      other.batch.lastTask = some 0 ∧ (other.batch.finish 1).answer = .ok () ∧
        other.promised[1]? = some (KeyTable.empty.insert filled .copyDst) ∧
        (other.batch.finish 1).batch.usage? 1 filled = .ok (some .shaderRead) :=
  ⟨⟨rfl, rfl, rfl, rfl⟩, rfl, rfl, rfl, rfl⟩

end GpuSync.Batch
