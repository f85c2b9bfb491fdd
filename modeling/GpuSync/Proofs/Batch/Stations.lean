import GpuSync.Proofs.Batch.Compound
import GpuSync.Proofs.Batch.KeyTable
import GpuSync.Proofs.Batch.Weave
import Mathlib.Data.List.Induction
import Mathlib.Tactic.Common

/-!
# One resource within one task

Once a task has begun and knows a resource, the usages it takes the resource through form a trail,
and the barriers it emits on the resource are those due along the trail.

* `Batch.Sees` says that a task has begun, and what it knows of a resource.
* `Visits` is what one call does to a resource in such a task, one case for each way it is used;
  every call does one of these things (`Effect.visits`, `visits_perform`).
* `Leg` is what a call does in a relaxed batch to a resource that is known: it goes to a usage that
  agrees with the one before without a barrier, or it takes one barrier there (`Visits.leg`). The
  only calls left out are those that set the usage of the resource without a barrier. A resource
  that is not known stays so if it is only read (`Visits.unseen`).
* `Batch.stations` are the usages after each of several calls, and `Trail` the barriers along them
  (`trail_run`; `unseen_run` for a resource that stays unknown).
* `Trail.departs` and `Trail.arrives`: where the resource leaves a usage for good, and where it
  comes to one last, there is a barrier unless the usages agree.
-/

namespace GpuSync

/-- Two usages agree or not. -/
instance Key.decidableAgrees (key : Key) (a b : Usage) : Decidable (key.Agrees a b) :=
  inferInstanceAs (Decidable (_ ∨ _))

/-- Two different usages agree unless one of them writes, or an image changes its layout. -/
theorem Key.not_agrees_iff {key : Key} {a b : Usage} (apart : a ≠ b) :
    ¬ key.Agrees a b ↔
      a.writes = true ∨ b.writes = true ∨ (key.isImage = true ∧ a.layout ≠ b.layout) := by
  unfold Key.Agrees Usage.readOnly
  cases a.writes <;> cases b.writes <;> simp [apart]

namespace Batch

/-! ## What one call does

A task that has begun knows a resource in some usage or does not know it. A call is a leg from what
the task knew to what it knows afterwards, and what the other tasks do is no leg of this one. -/

/-- A task has begun, and this is what it knows of a resource. -/
def Sees (batch : Batch) (task : Nat) (key : Key) (known : Option TaskUse) : Prop :=
  ∃ scope, batch.begunScope task = .ok scope ∧ scope.uses.find? key = known

/-- A task knows one thing of a resource. -/
theorem Sees.unique {batch : Batch} {task : Nat} {key : Key} {known other : Option TaskUse}
    (sees : batch.Sees task key known) (sees' : batch.Sees task key other) : known = other := by
  obtain ⟨scope, opened, rfl⟩ := sees
  obtain ⟨scope', opened', rfl⟩ := sees'
  cases opened.symm.trans opened'
  rfl

/-- A task answers what it knows of a resource. -/
theorem usage?_eq_ok {batch : Batch} {task : Nat} {key : Key} {known : Option TaskUse}
    (sees : batch.Sees task key known) :
    batch.usage? task key = .ok (known.map (·.current)) := by
  obtain ⟨scope, opened, rfl⟩ := sees
  unfold usage?
  rw [opened]
  rfl

/-- What becomes of a resource in one call: it stays where no barrier is due, or it takes one. A
barrier that keeps the contents is between usages that do not agree. With a barrier, the two usages
need not agree. Without one they do, and the contents are kept. -/
inductive Leg (key : Key) (src : Usage) : List Barrier → Usage → Prop where
  /-- There is no barrier. -/
  | quiet {dst : Usage} (agree : key.Agrees src dst) : Leg key src [] dst
  /-- There is one. -/
  | barrier {dst : Usage} (discard : Bool) (due : discard = false → ¬ key.Agrees src dst) :
    Leg key src [(Barrier.resource key src dst).withDiscard discard] dst

/-- A resource that goes nowhere takes no barrier. -/
theorem Leg.refl (key : Key) (a : Usage) : Leg key a [] a := .quiet (.refl key a)

/-- Relaxed, usages that agree have no barrier between them. -/
theorem not_agrees_of_needsBarrier {batch : Batch} {key : Key} {src dst : Usage}
    (relaxed : batch.relaxed = true) (needs : batch.needsBarrier key src dst = true) :
    ¬ key.Agrees src dst := by
  rintro (rfl | ⟨reads, reads', layouts⟩)
  · simp [needsBarrier, Usage.needsImageBarrier, Usage.needsMemoryBarrier, relaxed] at needs
  · unfold needsBarrier Usage.needsImageBarrier Usage.needsMemoryBarrier at needs
    cases image : key.isImage with
    | true => simp [image, reads, reads', layouts image] at needs
    | false => simp [image, reads, reads'] at needs

/-- A transition is a leg. -/
theorem leg_transition {batch : Batch} (relaxed : batch.relaxed = true) (key : Key)
    (src dst : Usage) (discard : Bool) :
    Leg key src (batch.transition key src dst discard) dst := by
  unfold transition
  split
  · rename_i taken
    refine .barrier discard fun keeps => ?_
    rw [keeps, Bool.false_or] at taken
    exact not_agrees_of_needsBarrier relaxed taken
  · rename_i idle
    simp only [Bool.or_eq_true, not_or, Bool.not_eq_true] at idle
    exact .quiet (agrees_of_needsBarrier_eq_false idle.2)

section

variable {batch after : Batch} {task other : Nat} {key : Key} {known left : Option TaskUse}
  {was : Scope}

/-- A task that is not written knows what it knew. -/
theorem Sees.keep (sees : batch.Sees task key known)
    (same : after.scopes[task]? = batch.scopes[task]?) : after.Sees task key known := by
  obtain ⟨scope, opened, knows⟩ := sees
  obtain ⟨inRange, found, begun⟩ := begunScope_eq_ok.1 opened
  exact ⟨scope, begunScope_eq_ok.2 ⟨inRange, same.trans found, begun⟩, knows⟩

/-- A task that is written knows what was written, if it stays begun. -/
theorem Sees.write (sees : batch.Sees task key known) (changed : Scope)
    (found : batch.scopes[task]? = some was)
    (scopes : after.scopes = (batch.setScope task changed).scopes)
    (begun : changed.begun = true) (knows : changed.uses.find? key = left) :
    after.Sees task key left := by
  obtain ⟨scope, opened, -⟩ := sees
  have written : after.scopes[task]? = some changed := by
    rw [scopes, getElem?_setScope found, if_pos rfl]
  exact ⟨changed, begunScope_eq_ok.2 ⟨(begunScope_eq_ok.1 opened).1, written, begun⟩, knows⟩

/-- To write another task leaves alone what a task knows of a resource. -/
theorem Sees.beside (sees : batch.Sees task key known) (changed : Scope)
    (found : batch.scopes[other]? = some was)
    (scopes : after.scopes = (batch.setScope other changed).scopes) (apart : task ≠ other) :
    after.Sees task key known :=
  sees.keep (by rw [scopes, getElem?_setScope found, if_neg apart])

/-- What a task sees of a resource is what its scope has. -/
theorem Sees.eq_of_found {scope : Scope} (sees : batch.Sees task key known)
    (found : batch.scopes[task]? = some scope) :
    scope.begun = true ∧ scope.uses.find? key = known := by
  obtain ⟨other, opened, knows⟩ := sees
  obtain ⟨-, found', begun⟩ := begunScope_eq_ok.1 opened
  obtain rfl : scope = other := Option.some.inj (found.symm.trans found')
  exact ⟨begun, knows⟩

/-- A task that has not begun is another one. -/
theorem Sees.beside_unbegun (sees : batch.Sees task key known)
    (found : batch.scopes[other]? = some was) (unbegun : was.begun = false) {changed : Scope}
    (scopes : after.scopes = (batch.setScope other changed).scopes) :
    after.Sees task key known := by
  refine sees.beside changed found scopes fun mine => ?_
  subst mine
  rw [(sees.eq_of_found found).1] at unbegun
  cases unbegun

/-- Entering a resource into the table of a task changes what that task knows of it. -/
theorem Sees.setUse (sees : batch.Sees task key known) {scope : Scope}
    (found : batch.scopes[other]? = some scope) (on : Key) (new : TaskUse) :
    (batch.setUse other scope on new).Sees task key
      (if other = task ∧ on = key then some new else known) := by
  by_cases mine : other = task
  · subst mine
    obtain ⟨begun, knows⟩ := sees.eq_of_found found
    refine sees.write { scope with uses := scope.uses.insert on new } found rfl begun ?_
    show (scope.uses.insert on new).find? key = _
    rw [KeyTable.find?_insert]
    by_cases same : on = key
    · rw [if_pos same.symm, if_pos ⟨rfl, same⟩]
    · rw [if_neg (Ne.symm same), if_neg (fun both => same both.2), knows]
  · rw [if_neg fun both => mine both.1]
    exact sees.beside { scope with uses := scope.uses.insert on new } found rfl (Ne.symm mine)

end

/-- The barriers on a resource that a call emitted for one task. -/
def Call.emits (call : Call) (commands : List Command) (task : Nat) (key : Key) : List Barrier :=
  if call.recorded? = some task then onKey key (Command.barriers commands) else []

/-- A call without commands emits nothing. -/
@[simp] theorem Call.emits_nil (call : Call) (task : Nat) (key : Key) :
    call.emits [] task key = [] := by
  unfold Call.emits
  split <;> rfl

/-- What a call on a task emits is for that task. -/
theorem Call.emits_of_eq {call : Call} {task : Nat} (records : call.recorded? = some task)
    (commands : List Command) (key : Key) :
    call.emits commands task key = onKey key (Command.barriers commands) :=
  if_pos records

/-- A call on another task, or on none, emits nothing for a task. -/
theorem Call.emits_of_ne {call : Call} {task : Nat} (records : call.recorded? ≠ some task)
    (commands : List Command) (key : Key) : call.emits commands task key = [] :=
  if_neg records

/-- What one call does to a resource in a task: what the task knows of it before, the barriers it
emits on it, and what it knows after. The tracker is part of it, since a resource that the task does
not know comes from its resting usage. -/
inductive Visits (tracker : Tracker) (batch : Batch) (task : Nat) (key : Key) :
    Call → Option TaskUse → List Barrier → Option TaskUse → Prop where
  /-- The call is about something else, is refused, or leaves no trace. -/
  | elsewhere (call : Call) (known : Option TaskUse) :
    Visits tracker batch task key call known [] known
  /-- The resource moves to another usage. -/
  | moved (usage : Usage) (use : TaskUse) :
    Visits tracker batch task key (.report task key usage) (some use)
      (batch.transition key use.current usage (use.discard && key.isImage))
      (some { use with current := usage, discard := false })
  /-- It comes from its rest. -/
  | fetched (usage : Usage) (counts : key.isImage = true ∨ usage.readOnly = false) :
    Visits tracker batch task key (.report task key usage) none
      (batch.transition key (tracker.restingUsage key).1 usage
        ((tracker.restingUsage key).2 && key.isImage))
      (some ⟨usage, (tracker.restingUsage key).1, false⟩)
  /-- Its contents are given up. -/
  | discarded (use : TaskUse) :
    Visits tracker batch task key (.discard task key) (some use) []
      (some { use with discard := true })
  /-- Its usage is set. -/
  | overridden (usage : Usage) (known : Option TaskUse) (new : TaskUse) :
    Visits tracker batch task key (.override task key usage) known [] (some new)
  /-- It goes where the task has to leave it. -/
  | ended (use : TaskUse) :
    Visits tracker batch task key (.finish task) (some use)
      (batch.transition key use.current use.final (use.discard && key.isImage))
      (some { use with current := use.final, discard := false })

/-- A call that enters a resource of a task is about that resource only, and has no barriers on
others. -/
theorem Sees.visits_setUse {tracker : Tracker} {batch : Batch} {task other : Nat} {key on : Key}
    {known : Option TaskUse} {new : TaskUse} {scope : Scope} (sees : batch.Sees task key known)
    (found : batch.scopes[other]? = some scope) {call : Call} {commands : List Command}
    (records : call.recorded? = some other)
    (elsewhere : on ≠ key → onKey key (Command.barriers commands) = [])
    (here : other = task → on = key → scope.uses.find? key = known →
      Visits tracker batch task key call known (onKey key (Command.barriers commands))
        (some new)) :
    ∃ left, (batch.setUse other scope on new).Sees task key left ∧
      Visits tracker batch task key call known (call.emits commands task key) left := by
  have keeps := sees.setUse found on new
  by_cases mine : other = task
  · by_cases same : on = key
    · rw [if_pos ⟨mine, same⟩] at keeps
      refine ⟨some new, keeps, ?_⟩
      rw [Call.emits_of_eq (records.trans (congrArg some mine))]
      subst mine
      exact here rfl same (sees.eq_of_found found).2
    · rw [if_neg fun both => same both.2] at keeps
      have silent : call.emits commands task key = [] := by
        rw [Call.emits, elsewhere same, ite_self]
      exact ⟨known, keeps, silent ▸ .elsewhere call known⟩
  · rw [if_neg fun both => mine both.1] at keeps
    have silent : call.emits commands task key = [] :=
      Call.emits_of_ne (by rw [records]; simpa using mine) commands key
    exact ⟨known, keeps, silent ▸ .elsewhere call known⟩

/-- As a task is finished, it has no barrier on a resource it does not know. -/
theorem onKey_closingBarriers_eq_nil (batch : Batch) {scope : Scope} {key : Key}
    (unknown : scope.uses.find? key = none) : onKey key (batch.closingBarriers scope) = [] := by
  unfold onKey closingBarriers
  rw [KeyTable.filter_flatMap_entries _ key _ _ fun entry apart =>
    onKey_transition_of_ne batch apart _ _ _, unknown]
  rfl

section

variable {tracker : Tracker} {batch after : Batch} {call : Call}
  {answer : Except BatchError Reply} {commands : List Command} {task : Nat} {key : Key}
  {known : Option TaskUse}

/-- As a task is finished, its resources are where it has to leave them. -/
theorem Sees.finished (sees : batch.Sees task key known) {scope : Scope}
    (found : batch.scopes[task]? = some scope) (begun : scope.begun = true)
    (scopes : after.scopes = (batch.setScope task scope.finished).scopes) :
    after.Sees task key
      (known.map fun use => { use with current := use.final, discard := false }) := by
  refine sees.write scope.finished found scopes begun ?_
  rw [Scope.finished, KeyTable.find?_map, (sees.eq_of_found found).2]

/-- As a task is finished, it takes the resource there, if it knows it. -/
theorem Sees.onKey_closingBarriers (sees : batch.Sees task key known) {scope : Scope}
    (found : batch.scopes[task]? = some scope) :
    onKey key (batch.closingBarriers scope) = known.toList.flatMap fun use =>
      batch.transition key use.current use.final (use.discard && key.isImage) := by
  obtain ⟨-, knows⟩ := sees.eq_of_found found
  cases known with
  | none => exact onKey_closingBarriers_eq_nil batch knows
  | some use =>
    rw [Batch.onKey_closingBarriers batch knows, Option.toList_some, List.flatMap_singleton]

/-- **What one call does to a resource in a task that has begun** is one of the cases of
`Visits`. -/
theorem Effect.visits (effect : Effect tracker batch call answer after commands)
    (sees : batch.Sees task key known) :
    ∃ left, after.Sees task key left ∧
      Visits tracker batch task key call known (call.emits commands task key) left := by
  have silent (keeps : after.Sees task key known) (quiet : call.emits commands task key = []) :
      ∃ left, after.Sees task key left ∧
        Visits tracker batch task key call known (call.emits commands task key) left :=
    ⟨known, keeps, quiet ▸ .elsewhere call known⟩
  have same (scopes : after.scopes = batch.scopes) : after.Sees task key known :=
    sees.keep (by rw [scopes])
  -- A task that has begun sees only the calls that write its own table, and of those only what is
  -- on the resource.
  cases effect with
  | created open' room =>
    refine silent (sees.keep ?_) (Call.emits_nil _ _ _)
    obtain ⟨scope, opened, -⟩ := sees
    obtain ⟨-, found, -⟩ := begunScope_eq_ok.1 opened
    exact (getElem?_concat_eq_some.2 (.inl found)).trans found.symm
  -- A task that has not begun is declared for, and that is another one.
  | joined newest found unbegun | introduced newest found unbegun =>
    exact silent (sees.beside_unbegun found unbegun rfl) (Call.emits_nil _ _ _)
  | @began other last scope inRange found unbegun =>
    refine silent (sees.beside_unbegun found unbegun rfl)
      (Call.emits_of_ne (fun records => ?_) _ _)
    obtain rfl : other = task := Option.some.inj records
    rw [(sees.eq_of_found found).1] at unbegun
    cases unbegun
  | moved found begun knows =>
    refine sees.visits_setUse found rfl (fun apart => ?_) fun mine on' knows' => ?_
    · rw [barriers_emitted, onKey_transition_of_ne batch apart]
    · subst mine on'
      obtain rfl := knows.symm.trans knows'
      rw [barriers_emitted, onKey_transition_self]
      exact .moved _ _
  | fetched found begun unknown counts =>
    refine sees.visits_setUse found rfl (fun apart => ?_) fun mine on' knows' => ?_
    · rw [barriers_emitted, onKey_transition_of_ne batch apart]
    · subst mine on'
      obtain rfl := unknown.symm.trans knows'
      rw [barriers_emitted, onKey_transition_self]
      exact .fetched _ counts
  | discarded found begun knows =>
    refine sees.visits_setUse found rfl (fun _ => rfl) fun mine on' knows' => ?_
    subst mine on'
    obtain rfl := knows.symm.trans knows'
    exact .discarded _
  | overridden found | installed found =>
    refine sees.visits_setUse found rfl (fun _ => rfl) fun mine on' _ => ?_
    subst mine on'
    exact .overridden _ _ _
  -- A barrier on all memory is on no resource.
  | readBack | uploaded =>
    refine silent (same rfl) ?_
    unfold Call.emits
    repeat' split
    all_goals rfl
  | @ended other scope found begun =>
    by_cases mine : other = task
    · subst mine
      refine ⟨_, sees.finished found begun rfl, ?_⟩
      have memory : onKey key (if batch.lastTask = some other ∧ batch.readsBackMemory = true then
          [Barrier.memory .general .hostRead] else []) = [] := by
        split <;> rfl
      rw [Call.emits_of_eq rfl, barriers_emitted_flush, onKey_append, memory, List.append_nil,
        sees.onKey_closingBarriers found]
      cases known with
      | none => exact .elsewhere _ none
      | some use =>
        rw [Option.toList_some, List.flatMap_singleton]
        exact .ended use
    · refine silent (sees.beside scope.finished found rfl (Ne.symm mine))
        (Call.emits_of_ne ?_ _ _)
      simpa [Call.recorded?] using mine
  | _ => exact silent (same rfl) (Call.emits_nil _ _ _)

/-- A relaxed batch stays so unless it is told to be strict. -/
theorem Effect.relaxed (effect : Effect tracker batch call answer after commands)
    (relaxed : batch.relaxed = true) (stays : call ≠ .setRelaxed false) :
    after.relaxed = true := by
  cases effect with
  | relaxes strict =>
    cases strict with
    | false => exact absurd rfl stays
    | true => rfl
  | _ => exact relaxed

/-- Declaring resources for the whole batch writes no task and leaves a batch relaxed. -/
theorem useMany_keeps (batch : Batch) (tracker : Tracker) (uses : List (Key × Usage × Usage)) :
    (batch.useMany tracker uses).batch.scopes = batch.scopes ∧
      (batch.useMany tracker uses).batch.relaxed = batch.relaxed := by
  refine useMany_induction (P := fun after =>
    after.scopes = batch.scopes ∧ after.relaxed = batch.relaxed) tracker ?_ _ ⟨rfl, rfl⟩
  intro mid key initial final kept
  obtain ⟨scopes, relaxed⟩ := mid.use_keeps tracker key initial final
  exact ⟨scopes.trans kept.1, relaxed.trans kept.2⟩

/-- **Every call does one of these things**, also those made of others. Several declarations do
nothing to a task that has begun. -/
theorem visits_perform (tracker : Tracker) (call : Call) (sees : batch.Sees task key known) :
    ∃ left, (batch.perform tracker call).batch.Sees task key left ∧
      Visits tracker batch task key call known
        (call.emits (batch.perform tracker call).commands task key) left := by
  by_cases several : ∃ targets, call = .useTargets targets
  · obtain ⟨targets, rfl⟩ := several
    obtain ⟨scopes, -⟩ := useMany_keeps batch tracker
      (targets.map fun target => (⟨.image, target⟩, .colorAttachment, .present))
    exact ⟨known, sees.keep (congrArg (·[task]?) scopes), .elsewhere _ known⟩
  · obtain ⟨basic, stands, same⟩ :=
      exists_standsFor batch tracker fun targets is => several ⟨targets, is⟩
    have emits (commands : List Command) :
        basic.emits commands task key = call.emits commands task key := by
      unfold Call.emits
      rw [stands.recorded?]
    obtain ⟨left, keeps, visits⟩ := (perform_effect batch tracker stands.isBasic).visits sees
    rw [same]
    refine ⟨left, keeps, ?_⟩
    rw [emits] at visits
    cases stands with
    | self => exact visits
    | atRest | default =>
      -- a declaration is about something else
      cases visits
      exact .elsewhere _ known

/-- A relaxed batch stays so in every call that does not make it strict. -/
theorem relaxed_perform (tracker : Tracker) (relaxed : batch.relaxed = true)
    (stays : call ≠ .setRelaxed false) : (batch.perform tracker call).batch.relaxed = true := by
  by_cases several : ∃ targets, call = .useTargets targets
  · obtain ⟨targets, rfl⟩ := several
    exact (useMany_keeps batch tracker _).2.trans relaxed
  · obtain ⟨basic, stands, same⟩ :=
      exists_standsFor batch tracker fun targets is => several ⟨targets, is⟩
    have effect := perform_effect batch tracker stands.isBasic
    rw [same]
    cases stands with
    | self => exact effect.relaxed relaxed stays
    | atRest | default => exact effect.relaxed relaxed nofun

/-- **Every call is one leg.** A task that knows a resource goes on knowing it, and what a call
emits for the task on the resource leads from the usage before to the one after, unless the call
sets the usage without a barrier. -/
theorem Visits.leg {use : TaskUse} {barriers : List Barrier} {left : Option TaskUse}
    (visits : Visits tracker batch task key call (some use) barriers left)
    (relaxed : batch.relaxed = true) (unset : ∀ usage, call ≠ .override task key usage) :
    ∃ after, left = some after ∧ Leg key use.current barriers after.current := by
  cases visits with
  | elsewhere => exact ⟨use, rfl, .refl key use.current⟩
  | moved => exact ⟨_, rfl, leg_transition relaxed _ _ _ _⟩
  | discarded => exact ⟨_, rfl, .refl key use.current⟩
  | overridden usage => exact absurd rfl (unset usage)
  | ended => exact ⟨_, rfl, leg_transition relaxed _ _ _ _⟩

/-- A resource that is no image and not known to a task stays so while it is only read. -/
theorem Visits.unseen {barriers : List Barrier} {left : Option TaskUse}
    (visits : Visits tracker batch task key call none barriers left)
    (unset : ∀ usage, call ≠ .override task key usage) (memory : key.isImage = false)
    (reads : ∀ usage, call = .report task key usage → usage.readOnly = true) :
    barriers = [] ∧ left = none := by
  cases visits with
  | elsewhere => exact ⟨rfl, rfl⟩
  | fetched usage counts =>
    -- it would have been entered as it is an image, or not only read
    rw [memory, reads usage rfl] at counts
    rcases counts with image | writes
    · cases image
    · cases writes
  | overridden usage => exact absurd rfl (unset usage)

end

/-! ## Several calls

The legs of a run make a trail. Overrides are excluded, because they set a usage without a barrier,
and then what the table says is no longer where the barriers lead. -/

/-- The usages of a resource in a task, after each of several calls. -/
def stations (batch : Batch) (task : Nat) (key : Key) : List (Tracker × Call) → List Usage
  | [] => []
  | call :: rest =>
    let after := (batch.perform call.1 call.2).batch
    ((after.usage? task key).toOption.join).toList ++ after.stations task key rest

/-- The barriers on a resource that a task emits in several calls. -/
def emissions (batch : Batch) (calls : List (Tracker × Call)) (task : Nat) (key : Key) :
    List Barrier :=
  barriersBy (batch.run calls).log task key

/-- The barriers along several usages: each leg leads from one to the next. -/
inductive Trail (key : Key) : Usage → List Barrier → List Usage → Prop where
  /-- The resource stays. -/
  | nil (a : Usage) : Trail key a [] []
  /-- It goes one leg first. -/
  | cons {a b : Usage} {first rest : List Barrier} {stations : List Usage}
    (leg : Leg key a first b) (onwards : Trail key b rest stations) :
    Trail key a (first ++ rest) (b :: stations)

/-- The calls after the first one go on from where it leaves the batch. -/
theorem run_cons (batch : Batch) (call : Tracker × Call) (rest : List (Tracker × Call)) :
    (batch.run (call :: rest)).batch =
        ((batch.perform call.1 call.2).batch.run rest).batch ∧
      (batch.run (call :: rest)).log =
        ⟨call.2, (batch.perform call.1 call.2).answer, (batch.perform call.1 call.2).commands⟩ ::
          ((batch.perform call.1 call.2).batch.run rest).log := by
  induction rest using List.reverseRecOn with
  | nil => exact ⟨rfl, rfl⟩
  | append_singleton rest last ih =>
    obtain ⟨batches, logs⟩ := ih
    rw [← List.cons_append, run_append, run_append]
    unfold Run.next
    rw [batches, logs]
    exact ⟨rfl, rfl⟩

/-- Several calls emit what the first one does and then what the rest does from where the first one
led. -/
theorem emissions_cons (batch : Batch) (call : Tracker × Call) (rest : List (Tracker × Call))
    (task : Nat) (key : Key) :
    batch.emissions (call :: rest) task key =
      call.2.emits (batch.perform call.1 call.2).commands task key ++
        (batch.perform call.1 call.2).batch.emissions rest task key := by
  unfold emissions
  rw [(run_cons batch call rest).2]
  unfold barriersBy recordingOf Call.emits Event.barriersOn
  by_cases records : call.2.recorded? = some task <;> simp [records]

/-- Several calls emit what all but the last do and then what the last one does. -/
theorem emissions_append (batch : Batch) (calls : List (Tracker × Call)) (last : Tracker × Call)
    (task : Nat) (key : Key) :
    batch.emissions (calls ++ [last]) task key =
      batch.emissions calls task key ++
        last.2.emits ((batch.run calls).batch.perform last.1 last.2).commands task key := by
  unfold emissions
  rw [run_append]
  exact barriersBy_append ..

section

variable {batch : Batch} (calls : List (Tracker × Call)) {task : Nat} {key : Key}

/-- **The calls of a task that knows a resource are a trail**, if none of them sets the usage of
the resource without a barrier. -/
theorem trail_run {use : TaskUse} (relaxed : batch.relaxed = true)
    (stays : ∀ call ∈ calls, call.2 ≠ .setRelaxed false)
    (sees : batch.Sees task key (some use))
    (unset : ∀ call ∈ calls, ∀ usage, call.2 ≠ .override task key usage) :
    (batch.run calls).batch.relaxed = true ∧
      Trail key use.current (batch.emissions calls task key) (batch.stations task key calls) ∧
      ∃ left, (batch.run calls).batch.Sees task key (some left) := by
  induction calls generalizing batch use with
  | nil => exact ⟨relaxed, .nil _, use, sees⟩
  | cons call rest ih =>
    have relaxed' := relaxed_perform call.1 relaxed (stays call List.mem_cons_self)
    obtain ⟨left, sees', visits⟩ := visits_perform call.1 call.2 sees
    obtain ⟨left, rfl, leg⟩ := visits.leg relaxed (unset call List.mem_cons_self)
    obtain ⟨kept, onwards, known⟩ := ih relaxed'
      (fun later mem => stays later (List.mem_cons_of_mem _ mem)) sees'
      fun later mem => unset later (List.mem_cons_of_mem _ mem)
    rw [(run_cons batch call rest).1, emissions_cons]
    refine ⟨kept, ?_, known⟩
    unfold stations
    dsimp only
    rw [usage?_eq_ok sees']
    exact .cons leg onwards

/-- A resource that is no image and not known to a task stays so while it is only read, and takes
no barrier. -/
theorem unseen_run (relaxed : batch.relaxed = true)
    (stays : ∀ call ∈ calls, call.2 ≠ .setRelaxed false)
    (sees : batch.Sees task key none)
    (unset : ∀ call ∈ calls, ∀ usage, call.2 ≠ .override task key usage)
    (memory : key.isImage = false)
    (reads : ∀ call ∈ calls, ∀ usage, call.2 = .report task key usage → usage.readOnly = true) :
    (batch.run calls).batch.relaxed = true ∧ batch.emissions calls task key = [] ∧
      (batch.run calls).batch.Sees task key none := by
  induction calls generalizing batch with
  | nil => exact ⟨relaxed, rfl, sees⟩
  | cons call rest ih =>
    have tail {P : Tracker × Call → Prop} (all : ∀ later ∈ call :: rest, P later) :
        ∀ later ∈ rest, P later := fun later mem => all later (List.mem_cons_of_mem _ mem)
    have relaxed' := relaxed_perform call.1 relaxed (stays call List.mem_cons_self)
    obtain ⟨left, sees', visits⟩ := visits_perform call.1 call.2 sees
    obtain ⟨emits, rfl⟩ := visits.unseen (unset call List.mem_cons_self) memory
      (reads call List.mem_cons_self)
    obtain ⟨kept, silent, unknown⟩ := ih relaxed' (tail stays) sees' (tail unset) (tail reads)
    rw [(run_cons batch call rest).1, emissions_cons, emits, silent]
    exact ⟨kept, rfl, unknown⟩

end

/-! ## Where a resource leaves a usage, and where it arrives in one

A trail may stay for a while in usages that agree. To leave the first usage means to go to one that
does not agree with it, and there a barrier stands between just these two. -/

namespace Trail

variable {key : Key} {a b next prev : Usage} {barriers : List Barrier} {stations : List Usage}

/-- **Where a resource leaves its first usage** for one that does not agree, there is a barrier. -/
theorem departs (trail : Trail key a barriers stations)
    (leaves : stations.find? (· ≠ a) = some next) (due : ¬ key.Agrees a next) :
    ∃ barrier ∈ barriers, barrier.key = some key ∧ barrier.src = a ∧ barrier.dst = next := by
  induction trail with
  | nil => cases leaves
  | @cons a b first rest stations leg onwards ih =>
    by_cases stays : b = a
    · subst stays
      rw [List.find?_cons_of_neg (by simp)] at leaves
      obtain ⟨barrier, mem, found⟩ := ih leaves due
      exact ⟨barrier, List.mem_append_right _ mem, found⟩
    · rw [List.find?_cons_of_pos (by simpa using stays)] at leaves
      obtain rfl := Option.some.inj leaves
      cases leg with
      | quiet agree => exact absurd agree due
      | barrier discard =>
        exact ⟨_, List.mem_append_left _ (List.mem_singleton_self _), rfl, rfl, rfl⟩

/-- **Where a resource comes to its last usage** from one that does not agree, there is a
barrier. -/
theorem arrives (trail : Trail key a barriers stations) (ends : stations.getLast? = some b)
    (enters : (a :: stations).findRev? (· ≠ b) = some prev) (due : ¬ key.Agrees prev b) :
    ∃ barrier ∈ barriers, barrier.key = some key ∧ barrier.src = prev ∧ barrier.dst = b := by
  -- On the legs: the last usage is entered in this one or further on.
  induction trail with
  | nil => cases ends
  | @cons a mid first rest stations leg onwards ih =>
    unfold List.findRev? at enters
    cases later : (mid :: stations).findRev? (· ≠ b) with
    | some other =>
      -- the last other usage is further on
      rw [later] at enters
      obtain rfl := Option.some.inj enters
      cases stations with
      | nil =>
        obtain rfl := Option.some.inj ends
        simp [List.findRev?] at later
      | cons usage others =>
        rw [List.getLast?_cons_cons] at ends
        obtain ⟨barrier, mem, found⟩ := ih ends later
        exact ⟨barrier, List.mem_append_right _ mem, found⟩
    | none =>
      -- it is the first usage, and the next one is the last
      rw [later] at enters
      rw [List.findRev?_eq_find?_reverse, List.find?_eq_none] at later
      obtain rfl : mid = b := by simpa using later mid (by simp)
      have first' : prev = a := by
        by_cases apart : a = mid
        · simp [apart] at enters
        · simpa [apart] using enters.symm
      subst first'
      cases leg with
      | quiet agree => exact absurd agree due
      | barrier discard =>
        exact ⟨_, List.mem_append_left _ (List.mem_singleton_self _), rfl, rfl, rfl⟩

end Trail

end Batch

end GpuSync
