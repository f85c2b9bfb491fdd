import GpuSync.Proofs.Batch.Strays
import GpuSync.Proofs.Tracker.Refinement

/-!
# When contents are discarded

A barrier may discard the contents of an image. Besides images that are given up on purpose, this
is done to images whose contents the tracker says were never produced, as a batch first uses them.
The tracker is told what a batch did only as the batch is committed, so within the batch it is the
tables of the tasks that tell a first use from others.

* `Batch.Effect.discards`: a discard comes before any other barrier of its call, from a task that
  did not begin or does not have the image; and tasks before it have it only if they strayed.
* **`Batch.discards_come_first`**: with the tasks recorded in order, an image is used before it is
  discarded only by tasks that strayed.
* `Batch.produced_and_discarded`: two tasks stray, and the second discards what the first drew.
-/

namespace GpuSync.Batch

/-- An accepted report on a resource, or a call with a barrier on it. -/
def Event.Uses (key : Key) (event : Event) : Prop :=
  (event.accepted = true ∧ ∃ task usage, event.call = .report task key usage) ∨
    event.barriersOn key ≠ []

/-- Tasks are recorded in the order of their indices. -/
def InIndexOrder (log : List Event) : Prop :=
  log.Pairwise fun event later => event.accepted = true → later.accepted = true →
    ∀ task ∈ event.call.recorded?, ∀ other ∈ later.call.recorded?, task ≤ other

/-- Whether tasks were recorded in the order of their indices can be read off a log. -/
instance (log : List Event) : Decidable (InIndexOrder log) :=
  inferInstanceAs (Decidable (log.Pairwise _))

section

variable {batch after : Batch} {tracker : Tracker} {call : Call}
  {answer : Except BatchError Reply} {commands : List Command} {key : Key}
  {strayed : Nat → Prop}

/-! ## Who uses an image

A use is a report that was accepted or a barrier that was emitted. Both need the image in the table
of a task that has begun, so uses can be looked for among the tasks that hold the image. -/

/-- A resource stays in the tables. No call takes an entry out of the table of a task. -/
theorem Effect.holds_mono (effect : Effect tracker batch call answer after commands) {task : Nat}
    (holds : batch.Holds task key) : after.Holds task key := by
  have write {other : Nat} {was changed : Scope} {next : Batch}
      (found : batch.scopes[other]? = some was)
      (keeps : (was.uses.find? key).isSome = true → (changed.uses.find? key).isSome = true)
      (scopes : next.scopes = (batch.setScope other changed).scopes) : next.Holds task key := by
    obtain ⟨scope, use, at', has⟩ := holds
    have read := getElem?_setScope found changed task
    by_cases same : task = other
    · subst same
      obtain rfl := Option.some.inj (found.symm.trans at')
      obtain ⟨use', has'⟩ := Option.isSome_iff_exists.1 (keeps (by rw [has]; rfl))
      exact holds_of_written found has' scopes
    · exact ⟨scope, use, by rw [scopes, read, if_neg same, at'], has⟩
  have inserts {table : KeyTable TaskUse} {other : Key} {use : TaskUse}
      (some : (table.find? key).isSome = true) :
      ((table.insert other use).find? key).isSome = true := by
    rw [KeyTable.find?_insert]
    split
    · rfl
    · exact some
  -- Tables are written by inserting, or entry by entry, and no call takes an entry out.
  cases effect with
  | created =>
    obtain ⟨scope, use, found, has⟩ := holds
    exact ⟨scope, use, getElem?_concat_eq_some.2 (.inl found), has⟩
  | joined _ found | introduced _ found => exact write found inserts rfl
  | @began _ last scope _ found =>
    exact write found (fun some => (scope.resembles_started batch last key).table.trans some) rfl
  | moved found | fetched found | discarded found | overridden found | installed found =>
    exact write found inserts rfl
  | @ended _ scope found =>
    exact write found (fun some => (scope.resembles_finished key).table.trans some) rfl
  | _ => exact holds

/-- Barriers on memory as a whole are on no resource. -/
theorem onKey_memory (key : Key) (asked : Prop) [Decidable asked] (src dst : Usage) :
    onKey key (if asked then [Barrier.memory src dst] else []) = [] := by
  split <;> rfl

/-- A barrier of the memory at large is on no resource. -/
theorem onKey_emitted_memory (key : Key) (done : Prop) [Decidable done] (src dst : Usage) :
    onKey key (Command.barriers (if done then [] else emitted [Barrier.memory src dst])) = [] := by
  split <;> rfl

/-- The barriers of the batch open its first task. No other task opens with one. -/
theorem onKey_openingBarriers (batch : Batch) (task : Nat) (key : Key) :
    onKey key (batch.openingBarriers task) = if task = 0 then onKey key batch.opening else [] := by
  unfold openingBarriers
  split
  · rw [onKey_append, onKey_memory, List.append_nil]
  · rfl

/-- A barrier on a resource comes from a task that has it. The barriers that are queued for the
batch are emitted by the first task, which has all resources of the batch. -/
theorem Effect.holds_of_barriers (effect : Effect tracker batch call answer after commands)
    (h : Tidy key strayed batch) (emits : onKey key (Command.barriers commands) ≠ []) :
    answer.toBool = true ∧ ∃ task, call.recorded? = some task ∧ after.Holds task key := by
  have moves {task : Nat} {scope : Scope} {other : Key} {use : TaskUse} {src dst : Usage}
      {discard : Bool} (found : batch.scopes[task]? = some scope)
      (emits : onKey key (Command.barriers
        (emitted (batch.transition other src dst discard))) ≠ []) :
      (batch.setUse task scope other use).Holds task key := by
    rw [barriers_emitted] at emits
    have same : other = key := by
      by_contra apart
      exact emits (onKey_transition_of_ne batch apart _ _ _)
    exact holds_of_written found (by rw [← same, KeyTable.find?_insert, if_pos rfl]) rfl
  cases effect with
  | @began task last scope inRange found unbegun =>
    refine ⟨rfl, task, rfl, ?_⟩
    rw [barriers_emitted_flush, onKey_append, onKey_openingBarriers] at emits
    -- What the task opens with is its own, or it is the first one and all tasks have the resource.
    have held : ∃ use, scope.uses.find? key = some use := by
      by_cases own : onKey key scope.opening = []
      · rw [own, List.append_nil] at emits
        split at emits
        · exact ((h.opening emits).2 task (List.getElem?_eq_some_iff.1 found).1).eq_of_found found
        · exact absurd rfl emits
      · exact (h.opens task scope found).held own
    have alike := scope.resembles_started batch last key
    rw [← Option.isSome_iff_exists, ← alike.table, Option.isSome_iff_exists] at held
    obtain ⟨use, has⟩ := held
    exact holds_of_written found has rfl
  | moved found | fetched found => exact ⟨rfl, _, rfl, moves found emits⟩
  | @ended task scope found begun =>
    refine ⟨rfl, task, rfl, ?_⟩
    rw [barriers_emitted_flush, onKey_append, onKey_memory, List.append_nil] at emits
    cases known : scope.uses.find? key with
    | none => exact absurd (onKey_closingBarriers_eq_nil batch known) emits
    | some use =>
      have has : scope.finished.uses.find? key =
          some { use with current := use.final, discard := false } := by
        rw [Scope.finished, KeyTable.find?_map, known]
        rfl
      exact holds_of_written found has rfl
  | readBack | uploaded => exact absurd (onKey_emitted_memory key _ _ _) emits
  | _ => exact absurd rfl emits

/-- A task has the image that it reports. -/
theorem Effect.holds_of_report {task : Nat} {usage : Usage}
    (effect : Effect tracker batch (.report task key usage) answer after commands)
    (image : key.isImage = true) (accepted : answer.toBool = true) :
    after.Holds task key ∧ after.isBegun task = true := by
  have written {scope : Scope} {use : TaskUse} (found : batch.scopes[task]? = some scope)
      (begun : scope.begun = true) :
      (batch.setUse task scope key use).Holds task key ∧
        (batch.setUse task scope key use).isBegun task = true := by
    have read : (batch.setUse task scope key use).scopes[task]? =
        some { scope with uses := scope.uses.insert key use } :=
      (getElem?_setScope found _ _).trans (if_pos rfl)
    exact ⟨holds_of_written found (by rw [KeyTable.find?_insert, if_pos rfl]) rfl,
      isBegun_eq_true.2 ⟨_, read, begun⟩⟩
  cases effect with
  | refused => cases accepted
  | passedOver _ _ _ memory =>
    rw [image] at memory
    cases memory
  | moved found begun | fetched found begun => exact written found begun

/-! ## Who discards an image

A table remembers that contents are to be given up only until the first transition. So a discard is
the first barrier of its call on the image, and the task that emits it has either just begun or just
fetched the image from its resting usage. -/

/-- A transition is one barrier or none. -/
theorem length_transition (batch : Batch) (key : Key) (src dst : Usage) (discard : Bool) :
    (batch.transition key src dst discard).length ≤ 1 := by
  unfold transition
  split <;> simp

/-- A barrier of a transition discards just if the transition does. -/
theorem discard_of_mem_transition {src dst : Usage} {discard : Bool} {barrier : Barrier}
    (mem : barrier ∈ batch.transition key src dst discard) : barrier.discard = discard := by
  rw [(mem_transition.1 mem).2]
  rfl

/-- A discard as a task begins comes first. It is queued for the batch, or else for the task. -/
theorem Tidy.discards_first (h : Tidy key strayed batch) {task : Nat} {scope : Scope}
    (found : batch.scopes[task]? = some scope) {before rest : List Barrier} {barrier : Barrier}
    (emits : onKey key (batch.openingBarriers task ++ scope.opening) = before ++ barrier :: rest)
    (discards : barrier.discard = true) :
    before = [] ∧ ∀ earlier < task, batch.Holds earlier key → strayed earlier := by
  have opens := h.opens task scope found
  rw [onKey_append, onKey_openingBarriers] at emits
  cases shared : (if task = 0 then onKey key batch.opening else []) with
  | nil =>
    rw [shared, List.nil_append] at emits
    have mem : barrier ∈ onKey key scope.opening := by simp [emits]
    have single := opens.single
    rw [emits, List.length_append, List.length_cons] at single
    exact ⟨List.length_eq_zero_iff.1 (by omega), (opens.discards barrier mem discards).2⟩
  | cons first more =>
    by_cases begins : task = 0
    · rw [if_pos begins] at shared
      have one := h.single
      rw [shared, List.length_cons] at one
      obtain rfl : more = [] := List.length_eq_zero_iff.1 (by omega)
      rw [if_pos begins, shared] at emits
      refine ⟨?_, fun earlier less => absurd (begins ▸ less) (Nat.not_lt_zero _)⟩
      cases before with
      | nil => rfl
      | cons other before =>
        -- The discard would be the task's own, which excludes one for the batch.
        have own : onKey key scope.opening = before ++ barrier :: rest := (List.cons.inj emits).2
        have mem : barrier ∈ onKey key scope.opening := by simp [own]
        rw [(opens.discards barrier mem discards).1] at shared
        cases shared
    · rw [if_neg begins] at shared
      cases shared

/-- **A discard** is the first barrier of its call. The task did not begin before, or does not have
the image; and the tasks before have it only if they strayed. -/
theorem Effect.discards (effect : Effect tracker batch call answer after commands)
    (h : Tidy key strayed batch) {before rest : List Barrier} {barrier : Barrier}
    (emits : onKey key (Command.barriers commands) = before ++ barrier :: rest)
    (discards : barrier.discard = true) :
    before = [] ∧ ∃ task, call.recorded? = some task ∧
      (batch.isBegun task = false ∨ ¬batch.Holds task key) ∧
      ∀ earlier < task, batch.Holds earlier key → strayed earlier := by
  cases effect with
  | @began task last scope inRange found unbegun =>
    rw [barriers_emitted_flush] at emits
    obtain ⟨first, strays⟩ := h.discards_first found emits discards
    refine ⟨first, task, rfl, .inl ?_, strays⟩
    unfold isBegun
    rw [found]
    exact unbegun
  -- A task that has the image moves it. The barrier would keep the contents, since the table does
  -- not say to give them up.
  | @moved task other usage scope use found begun known =>
    rw [barriers_emitted] at emits
    by_cases same : other = key
    · subst same
      have mem : barrier ∈ onKey other
          (batch.transition other use.current usage (use.discard && other.isImage)) := by
        simp [emits]
      have kept := discard_of_mem_transition (List.mem_of_mem_filter mem)
      rw [h.kept task scope use found known, discards] at kept
      cases kept
    · rw [onKey_transition_of_ne batch same] at emits
      simp at emits
  -- A task that does not have the image strays. By `Tidy`, tasks before it that have the image
  -- strayed too, as otherwise this one would have it.
  | @fetched task other usage scope found begun unknown counts room =>
    rw [barriers_emitted] at emits
    by_cases same : other = key
    · subst same
      have single := length_transition batch other (tracker.restingUsage other).1 usage
        ((tracker.restingUsage other).2 && other.isImage)
      rw [onKey_transition_self] at emits
      rw [emits, List.length_append, List.length_cons] at single
      have without : ¬batch.Holds task other := by
        intro held
        obtain ⟨use, has⟩ := held.eq_of_found found
        rw [unknown] at has
        cases has
      refine ⟨List.length_eq_zero_iff.1 (by omega), task, rfl, .inr without, ?_⟩
      intro earlier less held
      exact (h.shared earlier task less (List.getElem?_eq_some_iff.1 found).1 held).resolve_left
        without
    · rw [onKey_transition_of_ne batch same] at emits
      simp at emits
  -- To close a task moves what it has, again keeping the contents.
  | @ended task scope found begun =>
    rw [barriers_emitted_flush, onKey_append, onKey_memory, List.append_nil] at emits
    cases known : scope.uses.find? key with
    | none =>
      rw [onKey_closingBarriers_eq_nil batch known] at emits
      simp at emits
    | some use =>
      rw [onKey_closingBarriers batch known] at emits
      have mem : barrier ∈ batch.transition key use.current use.final
          (use.discard && key.isImage) := by
        simp [emits]
      have kept := discard_of_mem_transition mem
      rw [h.kept task scope use found known, discards] at kept
      cases kept
  | readBack | uploaded => simp [onKey_emitted_memory] at emits
  | _ => simp [Command.barriers] at emits

end

/-! ## Runs

A discarding task comes after all tasks that hold the image, unless those strayed. That tasks are
recorded in the order of their indices is used here and nowhere before: it says that who began
earlier is also the earlier task. -/

/-- A call on a resource comes from a task that has it, and began. -/
theorem perform_uses {batch : Batch} {key : Key} {strayed : Nat → Prop} {tracker : Tracker}
    (h : Tidy key strayed batch) (image : key.isImage = true) {call : Call}
    (uses : Event.Uses key
      ⟨call, (batch.perform tracker call).answer, (batch.perform tracker call).commands⟩) :
    (batch.perform tracker call).answer.toBool = true ∧ ∃ task, call.recorded? = some task ∧
      (batch.perform tracker call).batch.Holds task key ∧
      (batch.perform tracker call).batch.isBegun task = true := by
  rcases uses with ⟨accepted, task, usage, rfl⟩ | emits
  · exact ⟨accepted, task, rfl, (perform_effect batch tracker
      (show Call.Basic (.report task key usage) from trivial)).holds_of_report image accepted⟩
  · have single : ∀ targets, call ≠ .useTargets targets := by
      rintro targets rfl
      refine emits ?_
      show onKey key (Command.barriers (batch.useTargets tracker targets).commands) = []
      unfold useTargets
      rw [commands_useMany]
      rfl
    obtain ⟨basic, stands, same⟩ := exists_standsFor batch tracker single
    have effect := perform_effect batch tracker stands.isBasic
    rw [Event.barriersOn] at emits
    dsimp only at emits
    rw [same] at emits ⊢
    obtain ⟨accepted, task, records, holds⟩ := effect.holds_of_barriers h emits
    obtain ⟨task', records', begun⟩ := effect.isBegun_of_barriers emits
    cases records.symm.trans records'
    exact ⟨accepted, task, stands.recorded? ▸ records, holds, begun⟩

/-- What a task has it keeps. -/
theorem holds_perform {batch : Batch} {task : Nat} {key : Key} (tracker : Tracker) (call : Call)
    (holds : batch.Holds task key) (begun : batch.isBegun task = true) :
    (batch.perform tracker call).batch.Holds task key ∧
      (batch.perform tracker call).batch.isBegun task = true :=
  ⟨perform_induction (R := fun after _ => after.Holds task key) tracker holds
    (fun holds effect => effect.holds_mono holds) call, isBegun_perform begun tracker call⟩

/-- Whoever used an image has it, and began. It is a statement about the past, and is kept because
tables only grow and tasks stay begun. -/
theorem uses_run (id : BatchId) (queue : Queue) {key : Key} (image : key.isImage = true)
    {calls : List (Tracker × Call)} (keeps : ∀ call ∈ calls, ∀ task, call.2 ≠ .discard task key) :
    ∀ event ∈ ((new id queue).run calls).log, event.Uses key →
      event.accepted = true ∧ ∃ task, event.call.recorded? = some task ∧
        ((new id queue).run calls).batch.Holds task key ∧
        ((new id queue).run calls).batch.isBegun task = true := by
  induction calls using List.reverseRecOn with
  | nil => exact fun _ mem => absurd mem List.not_mem_nil
  | append_singleton calls call ih =>
    have keeps' : ∀ call ∈ calls, ∀ task, call.2 ≠ .discard task key :=
      fun call mem => keeps call (List.mem_append_left _ mem)
    rw [run_append]
    intro event mem uses
    rcases List.mem_append.1 mem with mem | mem
    · obtain ⟨accepted, task, records, holds, begun⟩ := ih keeps' event mem uses
      exact ⟨accepted, task, records, holds_perform call.1 call.2 holds begun⟩
    · obtain rfl := List.mem_singleton.1 mem
      exact perform_uses (tidy_run id queue keeps') image uses

/-- **An image is used before it is discarded only by tasks that strayed.** Take a batch after any
calls that record its tasks in the order of their indices and do not give up the contents of an
image, whatever the trackers say. If the next call emits a barrier that discards the image, that
barrier is its first one on the image; and if the image was used before, by a report or by any
barrier, then in a task before the one that the call records, which used the image without having it
in its table.

So as long as every task declares the image that it uses, or finds it declared, nothing that was
done with the image is discarded later. -/
theorem discards_come_first (id : BatchId) (queue : Queue) {calls : List (Tracker × Call)}
    {tracker : Tracker} {call : Call} {key : Key} (image : key.isImage = true)
    (keeps : ∀ call ∈ calls, ∀ task, call.2 ≠ .discard task key)
    (ordered : InIndexOrder ((new id queue).run (calls ++ [(tracker, call)])).log)
    {before rest : List Barrier} {barrier : Barrier}
    (emits : onKey key (Command.barriers
        (((new id queue).run calls).batch.perform tracker call).commands) =
      before ++ barrier :: rest)
    (discards : barrier.discard = true) :
    before = [] ∧ ∃ task, call.recorded? = some task ∧
      ∀ event ∈ ((new id queue).run calls).log, event.Uses key →
        ∃ other < task, event.call.recorded? = some other ∧
          (new id queue).Strayed calls other key := by
  let met := (new id queue).run calls
  have tidy : Tidy key ((new id queue).Strayed calls · key) met.batch := tidy_run id queue keeps
  have some : onKey key (Command.barriers (met.batch.perform tracker call).commands) ≠ [] := by
    rw [emits]
    simp
  -- The barrier is on the image, so that the call was accepted and records a task.
  obtain ⟨accepted, task, records, -⟩ := perform_uses tidy image (.inr some)
  have single : ∀ targets, call ≠ .useTargets targets := by
    rintro targets rfl
    cases records
  obtain ⟨basic, stands, same⟩ := exists_standsFor met.batch tracker single
  rw [show ((new id queue).run calls).batch = met.batch from rfl, same] at emits
  obtain ⟨first, task', records', outside, strays⟩ :=
    (perform_effect met.batch tracker stands.isBasic).discards tidy emits discards
  rw [stands.recorded?] at records'
  cases records.symm.trans records'
  refine ⟨first, task, records, fun event mem uses => ?_⟩
  obtain ⟨accepted', other, records'', holds, begun⟩ :=
    uses_run id queue image keeps event mem uses
  rw [InIndexOrder, run_append] at ordered
  -- The user comes before the task that discards, for that one did not begin or has no such image.
  have order := (List.pairwise_append.1 ordered).2.2 event mem _ List.mem_cons_self accepted'
    accepted other records'' task records
  have apart : other ≠ task := by
    rintro rfl
    rcases outside with unbegun | without
    · rw [begun] at unbegun
      cases unbegun
    · exact without holds
  have less : other < task := Nat.lt_of_le_of_ne order apart
  exact ⟨other, less, records'', strays other less holds⟩

/-- An image. -/
def sketch : Key := ⟨.image, ⟨0⟩⟩

/-- A tracker in which its contents are undefined. -/
def unpainted : Tracker := (Tracker.perform .empty (.add 0 sketch .general .general none)).2

/-- A task that draws to the image and is finished, before another is begun. -/
def drawn : List (Tracker × Call) :=
  [.createTask, .createTask, .beginTask 0 false, .report 0 sketch .colorAttachment, .finish 0,
    .beginTask 1 true].map (unpainted, ·)

/-- If the other task then discards the image, the first one had strayed. -/
theorem discards_come_first_drawn : (new ⟨0, 0⟩ .graphics).Strayed drawn 0 sketch := by
  have keeps : ∀ call ∈ drawn, ∀ task, call.2 ≠ .discard task sketch := by
    simp [drawn]
  have ordered : InIndexOrder ((new ⟨0, 0⟩ .graphics).run
      (drawn ++ [(unpainted, .report 1 sketch .shaderSample)])).log := by
    decide
  have emits : onKey sketch (Command.barriers (((new ⟨0, 0⟩ .graphics).run drawn).batch.perform
        unpainted (.report 1 sketch .shaderSample)).commands) =
      [] ++ (Barrier.resource sketch .general .shaderSample).withDiscard true :: [] := rfl
  obtain ⟨-, task, -, used⟩ :=
    discards_come_first ⟨0, 0⟩ .graphics rfl keeps ordered emits rfl
  have mem : ∃ event ∈ ((new ⟨0, 0⟩ .graphics).run drawn).log,
      event.call = .report 0 sketch .colorAttachment ∧ event.accepted = true :=
    ⟨_, List.mem_of_getElem? (i := 3) rfl, rfl, rfl⟩
  obtain ⟨event, mem, called, accepted⟩ := mem
  obtain ⟨other, -, records, strayed⟩ := used event mem (.inl ⟨accepted, 0, _, called⟩)
  rw [called] at records
  cases records
  exact strayed

/-- **What was produced is discarded.** A task draws to an image that nobody declared, and the next
task, which samples it, discards what was drawn. -/
theorem produced_and_discarded :
    let met := (new ⟨0, 0⟩ .graphics).run drawn
    let turn := met.batch.perform unpainted (.report 1 sketch .shaderSample)
    (unpainted.lookup sketch).isSome = true ∧ (∀ event ∈ met.log, event.accepted = true) ∧
      InIndexOrder met.log ∧ Usage.colorAttachment.writes = true ∧
      barriersBy met.log 0 sketch =
        [(Barrier.resource sketch .general .colorAttachment).withDiscard true,
          Barrier.resource sketch .colorAttachment .general] ∧
      turn.answer = .ok .done ∧
      Command.barriers turn.commands =
        [(Barrier.resource sketch .general .shaderSample).withDiscard true] := by
  refine ⟨rfl, by decide, by decide, rfl, rfl, rfl, rfl⟩

end GpuSync.Batch
