import GpuSync.Proofs.Batch.Compound
import GpuSync.Proofs.Batch.Steady
import GpuSync.Proofs.Batch.Weave
import GpuSync.Proofs.Slot.Pool
import Mathlib.Data.List.Perm.Basic

/-!
# Handing a resource over

A resource that belongs to one queue at a time has to be handed over before another queue uses it.
The barrier that does so is decided when a batch first declares the resource, from what the tracker
says then (`Batch.handover?`). It is queued, and emitted as a task begins.

* `Batch.queued` are all barriers that are queued, and `Batch.transfers` the changes of queue among
  barriers on one resource.
* `Effect.transfers`: a call adds the hand-over of the resource that it makes known to the batch,
  and beyond that only moves transfers from the queue to the device.
* `Emptied.queued_eq_nil`: once all tasks have begun, nothing is queued.
-/

namespace GpuSync.Batch

/-- The change of queue that a tracker asks for as a batch on some queue first declares a
resource. -/
def handover? (tracker : Tracker) (key : Key) (queue : Queue) : Option QueueTransfer := do
  let entry ← tracker.lookup key
  let last ← entry.lastQueue
  if entry.exclusive && last != queue then some ⟨last, queue⟩ else none

/-- The changes of queue among some barriers on one resource. -/
def transfers (key : Key) (barriers : List Barrier) : List QueueTransfer :=
  (onKey key barriers).filterMap (·.transfer)

/-- The barriers queued for the tasks of a batch. For the batch first and then by task. Only the
transfers among them are followed. -/
def queued (batch : Batch) : List Barrier := batch.opening ++ batch.scopes.flatMap (·.opening)

/-- Whether a batch uses a resource. -/
def knows (batch : Batch) (key : Key) : Bool := (batch.passage? key).isSome

/-- A batch that does not know a resource has no passage for it. -/
theorem knows_eq_false {batch : Batch} {key : Key} :
    batch.knows key = false ↔ batch.passages.find? key = none := by
  simp [knows, passage?]

/-- A batch that has a passage for a resource knows it. -/
theorem knows_of_find? {batch : Batch} {key : Key} {passage : Passage}
    (known : batch.passages.find? key = some passage) : batch.knows key = true := by
  simp [knows, passage?, known]

/-- The hand-over of a resource that a batch uses afterwards and did not before. At most one, and
only in the step in which the resource becomes known. -/
def newly (tracker : Tracker) (key : Key) (batch after : Batch) : List QueueTransfer :=
  if batch.knows key = false ∧ after.knows key = true then
    (handover? tracker key batch.queue).toList
  else []

section

variable {key other : Key} {tracker : Tracker} {batch after : Batch}

/-- No barrier, no change of queue. -/
@[simp] theorem transfers_nil (key : Key) : transfers key [] = [] := rfl

/-- The changes of queue are told apart barrier by barrier. -/
theorem transfers_append (key : Key) (a b : List Barrier) :
    transfers key (a ++ b) = transfers key a ++ transfers key b := by
  rw [transfers, onKey_append, List.filterMap_append]
  rfl

/-- The order of the barriers is the order of their changes of queue. -/
theorem transfers_perm {a b : List Barrier} (key : Key) (same : a.Perm b) :
    (transfers key a).Perm (transfers key b) :=
  (same.filter _).filterMap _

/-! ## Which barriers change the queue

Five places of the batch make barriers. One of them, the first use of a resource, can make a barrier
with a transfer, and the four others cannot whatever the tracker says. -/

/-- Barriers that change no queue. -/
theorem transfers_eq_nil {barriers : List Barrier}
    (none : ∀ barrier ∈ barriers, barrier.transfer = none) : transfers key barriers = [] := by
  refine List.filterMap_eq_nil_iff.2 fun barrier mem => none barrier ?_
  exact (List.mem_filter.1 mem).1

/-- Moving a resource within a batch changes no queue. -/
theorem transfer_of_mem_transition {batch : Batch} {on : Key} {src dst : Usage} {discard : Bool}
    {barrier : Barrier} (mem : barrier ∈ batch.transition on src dst discard) :
    barrier.transfer = none := by
  rw [(mem_transition.1 mem).2]
  rfl

/-- A transition never changes the queue. Only the barrier at a first declaration does. -/
theorem transfers_transition (key : Key) (batch : Batch) (on : Key) (src dst : Usage)
    (discard : Bool) : transfers key (batch.transition on src dst discard) = [] :=
  transfers_eq_nil fun _ mem => transfer_of_mem_transition mem

/-- A task that declares a resource known to the batch never changes its queue. -/
theorem transfers_openingOf (key : Key) (batch : Batch) (on : Key) (src dst : Usage) :
    transfers key (batch.openingOf on src dst) = [] := by
  rw [openingOf_eq_transition]
  exact transfers_transition key batch on src dst false

/-- To close a task never changes the queue of a resource. -/
theorem transfers_closingBarriers (key : Key) (batch : Batch) (scope : Scope) :
    transfers key (batch.closingBarriers scope) = [] := by
  refine transfers_eq_nil fun barrier mem => ?_
  obtain ⟨entry, -, mem⟩ := List.mem_flatMap.1 mem
  exact transfer_of_mem_transition mem

/-- The barrier before the first use of a resource hands it over if the tracker asks for that. -/
theorem transfers_firstUse (key : Key) (batch : Batch) (tracker : Tracker) (on : Key)
    (initial : Usage) :
    transfers key (batch.firstUse tracker on initial).toList =
      if on = key then (handover? tracker key batch.queue).toList else [] := by
  by_cases same : on = key
  · subst same
    rw [if_pos rfl]
    unfold transfers
    rw [onKey_firstUse_self]
    unfold firstUse handover?
    cases tracker.lookup on with
    | none => cases on.isImage <;> rfl
    | some entry =>
      dsimp only
      cases last : entry.lastQueue with
      | none =>
        rw [Option.bind_eq_bind, Option.bind_some, last]
        cases on.isImage <;> rfl
      | some queue =>
        rw [Option.bind_eq_bind, Option.bind_some, last]
        show List.filterMap _ (if _ then _ else _ : Option Barrier).toList =
          (if _ then _ else _ : Option QueueTransfer).toList
        split <;> rfl
  · rw [if_neg same, transfers, onKey_firstUse_of_ne batch tracker same]
    rfl

/-! ## What is queued

Barriers wait in two places, with the batch until its first task begins and with each task until it
does. They are looked at together, up to order, since beginning a task moves barriers from both to
what is emitted. -/

/-- Writing the scope of a task exchanges what is queued for it. -/
theorem queued_setScope {task : Nat} {scope : Scope} (found : batch.scopes[task]? = some scope)
    (changed : Scope) :
    ((batch.setScope task changed).queued ++ scope.opening).Perm
      (batch.queued ++ changed.opening) := by
  have exchanged := flatMap_set_perm (·.opening) found changed
  unfold queued
  rw [List.append_assoc, List.append_assoc]
  exact exchanged.append_left _

/-- Once all tasks have begun, nothing is queued any more. Then all that was owed was emitted. -/
theorem Emptied.queued_eq_nil (h : batch.Emptied) (started : batch.scopes ≠ [])
    (begun : ∀ task < batch.taskCount, batch.isBegun task = true) : batch.queued = [] := by
  have scope (task : Nat) (scope : Scope) (found : batch.scopes[task]? = some scope) :
      scope.opening = [] ∧ (task = 0 → batch.opening = []) := by
    obtain ⟨other, found', begun⟩ :=
      isBegun_eq_true.1 (begun task (List.getElem?_eq_some_iff.1 found).1)
    obtain rfl := Option.some.inj (found.symm.trans found')
    exact h task scope found begun
  have first : 0 < batch.scopes.length := List.length_pos_iff.2 started
  have opening := (scope 0 _ (List.getElem?_eq_getElem first)).2 rfl
  have openings : batch.scopes.flatMap (·.opening) = [] := by
    refine List.flatMap_eq_nil_iff.2 fun other mem => ?_
    obtain ⟨task, found⟩ := List.mem_iff_getElem?.1 mem
    exact (scope task other found).1
  rw [queued, opening, openings]
  rfl

/-! ## One call

`Moves` is stated for the commands so far and a batch, so that a call can be split into a part that
changes the batch and a part that records. It composes, which is how the cases are built from the
few forms below. -/

/-- A call, so far, recorded some commands and left a batch in which transfers are where they
belong. Transfers that were queued are queued still or were emitted, each once, and the hand-over of
a resource that became known is added. -/
structure Moves (tracker : Tracker) (key : Key) (batch after : Batch) (commands : List Command) :
    Prop where
  /-- Transfers are queued or emitted, and none is lost or made up but by a first declaration. -/
  transfers : (Batch.transfers key (Command.barriers commands) ++
    Batch.transfers key after.queued).Perm
      (Batch.transfers key batch.queued ++ newly tracker key batch after)
  /-- A resource stays known. -/
  knows : batch.knows key = true → after.knows key = true
  /-- The queue stays. -/
  queue : after.queue = batch.queue

/-- A resource that was known, or is still unknown, adds nothing. -/
theorem newly_of_knows_eq (tracker : Tracker) (same : after.knows key = batch.knows key) :
    newly tracker key batch after = [] := by
  refine if_neg fun both => ?_
  rw [same, both.1] at both
  cases both.2

/-- A resource becomes known once. -/
theorem newly_append {mid : Batch} (queue : mid.queue = batch.queue)
    (first : batch.knows key = true → mid.knows key = true)
    (second : mid.knows key = true → after.knows key = true) :
    newly tracker key batch mid ++ newly tracker key mid after = newly tracker key batch after := by
  unfold newly
  rw [queue]
  cases known : batch.knows key with
  | true => simp [first known]
  | false =>
    cases known' : mid.knows key with
    | true => simp [second known']
    | false => simp

/-- Nothing is moved if nothing is done. -/
theorem Moves.refl (tracker : Tracker) (key : Key) (batch : Batch) :
    Moves tracker key batch batch [] := by
  refine ⟨?_, fun known => known, rfl⟩
  rw [newly_of_knows_eq tracker rfl, List.append_nil]
  exact .refl _

/-- A call may be split into a part that changes only the batch, without commands, and the rest. -/
theorem Moves.trans {mid : Batch} {commands : List Command} (h : Moves tracker key batch mid [])
    (h' : Moves tracker key mid after commands) : Moves tracker key batch after commands := by
  refine ⟨?_, fun known => h'.knows (h.knows known), h'.queue.trans h.queue⟩
  rw [← newly_append h.queue h.knows h'.knows, ← List.append_assoc]
  exact h'.transfers.trans (h.transfers.append_right _)

/-- A call that only adds to what is queued. -/
theorem Moves.of_queued {extra : List Barrier} {commands : List Command}
    (silent : Batch.transfers key (Command.barriers commands) = [])
    (queued : after.queued.Perm (batch.queued ++ extra))
    (added : Batch.transfers key extra = newly tracker key batch after)
    (knows : batch.knows key = true → after.knows key = true) (queue : after.queue = batch.queue) :
    Moves tracker key batch after commands := by
  refine ⟨?_, knows, queue⟩
  rw [silent, List.nil_append, ← added, ← transfers_append]
  exact transfers_perm key queued

/-- A call that leaves alone what is queued and which resources are known. -/
theorem Moves.of_same {commands : List Command}
    (silent : Batch.transfers key (Command.barriers commands) = [])
    (queued : after.queued.Perm batch.queued) (knows : after.knows key = batch.knows key)
    (queue : after.queue = batch.queue) : Moves tracker key batch after commands := by
  have queued : after.queued.Perm (batch.queued ++ []) := by rwa [List.append_nil]
  refine .of_queued silent queued (newly_of_knows_eq tracker knows).symm (fun known => ?_) queue
  rw [knows, known]

/-- Writing a task without touching what it opens with. -/
theorem Moves.of_write {task : Nat} {scope changed : Scope} {commands : List Command}
    (found : batch.scopes[task]? = some scope)
    (scopes : after.scopes = (batch.setScope task changed).scopes)
    (opening : after.opening = batch.opening) (same : changed.opening = scope.opening)
    (silent : Batch.transfers key (Command.barriers commands) = [])
    (knows : after.knows key = batch.knows key) (queue : after.queue = batch.queue) :
    Moves tracker key batch after commands := by
  refine .of_same silent ?_ knows queue
  have queued : after.queued = (batch.setScope task changed).queued := by
    unfold Batch.queued
    rw [scopes, opening]
    rfl
  have exchanged := queued_setScope found changed
  rw [same, ← queued] at exchanged
  exact (List.perm_append_right_iff _).1 exchanged

/-- A batch knows the resources that it knew and the one it adds. -/
theorem knows_insert {passage : Passage}
    (passages : after.passages = batch.passages.insert other passage) :
    after.knows key = (decide (key = other) || batch.knows key) := by
  unfold knows passage?
  rw [passages, KeyTable.find?_insert]
  by_cases same : key = other <;> simp [same]

/-- A first declaration adds one hand-over at most. -/
theorem newly_insert {passage : Passage}
    (passages : after.passages = batch.passages.insert other passage)
    (unknown : batch.passages.find? other = none) :
    newly tracker key batch after =
      if other = key then (handover? tracker key batch.queue).toList else [] := by
  unfold newly
  rw [knows_insert passages]
  by_cases same : key = other
  · subst same
    simp [knows_eq_false.2 unknown]
  · rw [if_neg (Ne.symm same), if_neg]
    simp [same]

/-- A declaration of a resource that is known makes none known. -/
theorem knows_insert_of_known {passage former : Passage}
    (passages : after.passages = batch.passages.insert other passage)
    (known : batch.passages.find? other = some former) : after.knows key = batch.knows key := by
  rw [knows_insert passages]
  by_cases same : key = other
  · subst same
    simp [knows_of_find? known]
  · simp [same]

/-- A batch never forgets a resource by adding one. -/
theorem knows_mono_insert {passage : Passage}
    (passages : after.passages = batch.passages.insert other passage)
    (known : batch.knows key = true) : after.knows key = true := by
  rw [knows_insert passages, known, Bool.or_true]

/-- Finishing a task makes no resource known, be it the last one or not. -/
theorem knows_of_ended {last : Prop} [Decidable last] {f : Key → Passage → Passage}
    (passages : after.passages = if last then batch.passages.map f else batch.passages) :
    after.knows key = batch.knows key := by
  unfold knows passage?
  rw [passages]
  split
  · rw [KeyTable.find?_map, Option.isSome_map]
  · rfl

/-- A task declares a resource, with barriers that are queued for it. -/
theorem Moves.of_declaring {task : Nat} {scope : Scope} {use : TaskUse} {barriers : List Barrier}
    {passage : Passage} (found : batch.scopes[task]? = some scope)
    (added : Batch.transfers key barriers = newly tracker key batch
      { batch.setScope task (scope.declaring other use barriers) with
        passages := batch.passages.insert other passage }) :
    Moves tracker key batch
      { batch.setScope task (scope.declaring other use barriers) with
        passages := batch.passages.insert other passage } [] := by
  have exchanged := queued_setScope found (scope.declaring other use barriers)
  have reordered : (batch.queued ++ (scope.opening ++ barriers)).Perm
      (batch.queued ++ barriers ++ scope.opening) := by
    rw [List.append_assoc]
    exact List.perm_append_comm.append_left _
  have queued := (List.perm_append_right_iff _).1 (exchanged.trans reordered)
  exact .of_queued rfl queued added (knows_mono_insert rfl) rfl

/-- What the first task emits for the whole batch is not queued any more. -/
theorem transfers_openingBarriers (key : Key) (batch : Batch) (task : Nat) :
    transfers key (batch.openingBarriers task) ++
        transfers key (if task = 0 then [] else batch.opening) =
      transfers key batch.opening := by
  unfold openingBarriers
  by_cases first : task = 0
  · rw [if_pos first, if_pos first, transfers_append]
    have memory : transfers key (if batch.uploadsMemory = true then
        [Barrier.memory .hostWrite .general] else []) = [] := by
      split <;> rfl
    rw [memory, transfers_nil, List.append_nil, List.append_nil]
  · rw [if_neg first, if_neg first]
    rfl

/-- A task begins and emits what is queued for it. -/
theorem Moves.of_began {task : Nat} {scope changed : Scope}
    (found : batch.scopes[task]? = some scope)
    (scopes : after.scopes = (batch.setScope task changed).scopes)
    (opening : after.opening = if task = 0 then [] else batch.opening)
    (emptied : changed.opening = []) (knows : after.knows key = batch.knows key)
    (queue : after.queue = batch.queue) :
    Moves tracker key batch after
      (emitted (batch.openingBarriers task ++ scope.opening) ++ [.flush]) := by
  refine ⟨?_, fun known => knows.trans known, queue⟩
  have exchanged := transfers_perm key (queued_setScope found changed)
  have first := transfers_openingBarriers key batch task
  rw [emptied, List.append_nil, transfers_append] at exchanged
  rw [newly_of_knows_eq tracker knows, List.append_nil, barriers_emitted_flush]
  refine .trans ?_ exchanged
  unfold queued
  rw [scopes, opening, transfers_append, transfers_append, transfers_append,
    show (batch.setScope task changed).opening = batch.opening from rfl, ← first,
    List.append_assoc, List.append_assoc, List.append_assoc]
  -- only the place of what the task itself opens with differs
  exact (List.perm_append_comm.trans (.of_eq (List.append_assoc ..))).append_left _

/-- **Hand-overs are neither lost nor made up.** Whatever a call does, a batch that gets to know a
resource by it queues the hand-over that the tracker asks for; all other transfers are those that
were queued, and they stay queued or are emitted. -/
theorem Effect.moves {call : Call} {answer : Except BatchError Reply} {commands : List Command}
    (effect : Effect tracker batch call answer after commands) :
    Moves tracker key batch after commands := by
  cases effect with
  | redeclared _ known => exact .of_same rfl (.refl _) (knows_insert_of_known rfl known) rfl
  -- The barrier of the first use is queued for the batch, and a hand-over is among the transfers
  -- just if there is a barrier for it.
  | @declared other initial final unstarted unknown =>
    have queued : (batch.opening ++ (batch.firstUse tracker other initial).toList ++
        batch.scopes.flatMap (·.opening)).Perm
          (batch.queued ++ (batch.firstUse tracker other initial).toList) := by
      rw [Batch.queued, unstarted]
      simp
    refine .of_queued rfl queued ?_ (knows_mono_insert rfl) rfl
    rw [transfers_firstUse]
    exact (newly_insert rfl unknown).symm
  | created =>
    refine .of_same rfl ?_ rfl rfl
    unfold queued
    simp
  | @joined task other initial final scope passage _ found _ _ known =>
    refine .of_declaring found ?_
    rw [transfers_openingOf]
    exact (newly_of_knows_eq tracker (knows_insert_of_known rfl known)).symm
  | @introduced task other initial final scope _ found _ _ unknown =>
    refine .of_declaring found ?_
    rw [transfers_firstUse]
    exact (newly_insert rfl unknown).symm
  | @began task last scope _ found => exact .of_began found rfl rfl rfl rfl rfl
  -- To record moves resources within the queue of the batch.
  | moved found | fetched found =>
    refine .of_write found rfl rfl rfl ?_ rfl rfl
    rw [barriers_emitted]
    exact transfers_transition key batch _ _ _ _
  | discarded found | overridden found | installed found =>
    exact .of_write found rfl rfl rfl rfl rfl rfl
  | @ended task scope found =>
    refine .of_write found rfl rfl rfl ?_ (knows_of_ended rfl) rfl
    rw [barriers_emitted_flush, transfers_append, transfers_closingBarriers]
    split <;> rfl
  | readBack =>
    refine .of_same ?_ (.refl _) rfl rfl
    split <;> rfl
  | uploaded =>
    refine .of_same ?_ (.refl _) rfl rfl
    split <;> rfl
  | _ => exact .of_same rfl (.refl _) rfl rfl

end

end GpuSync.Batch
