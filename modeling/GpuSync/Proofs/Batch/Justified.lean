import GpuSync.Proofs.Batch.Fleet
import GpuSync.Proofs.Batch.Stations

/-!
# Every barrier has a reason

A relaxed batch emits a barrier on a resource for one of three reasons: the contents of an image
are given up, the resource is handed over to the queue of the batch, or it changes to a usage that
does not agree with the one before. Barriers are made in many places, and some are queued as a
resource is declared and emitted by a task much later, so the reason is followed from the call that
makes a barrier to the one that emits it.

* `Barrier.Due` are the reasons that can be told from a barrier alone.
* `Springs` tells where a barrier comes from that a call emits or leaves queued, and `Founded` that
  all of them come from somewhere. Every call is founded (`Effect.founded`, `founded_perform`).
* `FirstDeclares` points out the call of a run by which the batch gets to know a resource, and
  `Justified` is what is left of `Springs` over a whole run (`reasoned_run`).
* **`barriers_justified`** is the result for all runs of a batch that is new, or was cleared.
-/

namespace GpuSync

/-- The reasons for a barrier that can be told from it alone. Such a barrier has its reason in
itself, whatever the batch or the tracker. -/
inductive Barrier.Due : Barrier → Prop where
  /-- The contents of an image are given up. -/
  | discards {key : Key} (image : key.isImage = true) (src dst : Usage) :
    Due ((resource key src dst).withDiscard true)
  /-- A resource goes to a usage that does not agree with the one before. -/
  | moves {key : Key} {src dst : Usage} (differ : ¬ key.Agrees src dst) : Due (resource key src dst)
  /-- Somebody asked for a barrier on all memory. -/
  | memory (src dst : Usage) : Due (.memory src dst)

namespace Batch

section

variable {batch mid after : Batch} {tracker : Tracker} {key : Key} {barrier : Barrier}
  {commands : List Command}

/-! ## Where barriers are made

In a relaxed batch, a transition makes a barrier only if the usages do not agree or contents are
given up, so each of its barriers can be told to be due from its own fields. The first use of a
resource is different: its barrier leads from a usage to itself, and the reason is with the image or
with the tracker. -/

/-- A relaxed batch moves a resource for a reason. -/
theorem due_of_mem_transition (relaxed : batch.relaxed = true) {src dst : Usage} {discard : Bool}
    (image : discard = true → key.isImage = true)
    (mem : barrier ∈ batch.transition key src dst discard) : barrier.Due := by
  obtain ⟨taken, rfl⟩ := mem_transition.1 mem
  cases discard with
  | true => exact .discards (image rfl) src dst
  | false => exact .moves (not_agrees_of_needsBarrier relaxed taken)

/-- The barrier with which a declaration opens its task is due in a batch that is relaxed. -/
theorem due_of_mem_openingOf (relaxed : batch.relaxed = true) {src dst : Usage}
    (mem : barrier ∈ batch.openingOf key src dst) : barrier.Due := by
  rw [openingOf_eq_transition] at mem
  exact due_of_mem_transition relaxed (by simp) mem

/-- The barriers with which a task closes are due in a batch that is relaxed. -/
theorem due_of_mem_closingBarriers (relaxed : batch.relaxed = true) {scope : Scope}
    (mem : barrier ∈ batch.closingBarriers scope) : barrier.Due := by
  obtain ⟨entry, -, mem⟩ := List.mem_flatMap.1 mem
  exact due_of_mem_transition relaxed (by simp) mem

/-- A barrier of the memory at large is always due, since memory at large is not tracked. -/
theorem due_of_mem_memory {asked : Prop} [Decidable asked] {src dst : Usage}
    (mem : barrier ∈ if asked then [Barrier.memory src dst] else []) : barrier.Due := by
  split at mem
  · rw [List.mem_singleton.1 mem]
    exact .memory src dst
  · cases mem

/-- The barrier before the first use of a resource discards an image or hands the resource over. -/
theorem of_mem_firstUse {initial : Usage}
    (mem : barrier ∈ (batch.firstUse tracker key initial).toList) :
    barrier.Due ∨ ∃ transfer, handover? tracker key batch.queue = some transfer ∧
      barrier = (Barrier.resource key initial initial).withTransfer transfer.src transfer.dst := by
  have discards (mem : barrier ∈ (if key.isImage then
      some ((Barrier.resource key initial initial).withDiscard true) else none).toList) :
      barrier.Due := by
    split at mem
    · rename_i image
      rw [List.mem_singleton.1 mem]
      exact .discards image initial initial
    · cases mem
  unfold firstUse at mem
  unfold handover?
  split at mem
  · exact .inl (discards mem)
  · rename_i entry found
    rw [found, Option.bind_eq_bind, Option.bind_some]
    split at mem
    · exact .inl (discards mem)
    · rename_i last used
      rw [used, Option.bind_eq_bind, Option.bind_some]
      split at mem
      · rename_i elsewhere
        rw [if_pos elsewhere]
        exact .inr ⟨_, rfl, List.mem_singleton.1 mem⟩
      · cases mem

/-- A hand-over is from the last queue that the tracker knows to another one. -/
theorem of_handover? {queue : Queue} {transfer : QueueTransfer}
    (asked : handover? tracker key queue = some transfer) :
    (tracker.lookup key).bind (·.lastQueue) = some transfer.src ∧ transfer.dst = queue ∧
      transfer.src ≠ transfer.dst := by
  unfold handover? at asked
  obtain ⟨entry, found, asked⟩ := Option.bind_eq_some_iff.1 asked
  obtain ⟨last, used, asked⟩ := Option.bind_eq_some_iff.1 asked
  rw [found, Option.bind_some, used]
  split at asked
  · rename_i elsewhere
    rw [Bool.and_eq_true, bne_iff_ne] at elsewhere
    rw [← Option.some.inj asked]
    exact ⟨rfl, rfl, elsewhere.2⟩
  · cases asked

/-! ## One call

A barrier is followed from where it is queued to where it is emitted. Its reason is given once, when
it is made, and has to be one that stays true: what the tracker says now is none, but that the
tracker said so as the resource was first declared is. -/

/-- Where a barrier comes from that a call emits, or leaves queued. The first two cases are kept by
any later call. The third one is turned into a fact on the log at once. -/
inductive Springs (tracker : Tracker) (batch after : Batch) : Barrier → Prop where
  /-- It was queued before. -/
  | queued {barrier : Barrier} (mem : barrier ∈ batch.queued) : Springs tracker batch after barrier
  /-- The call made it for a reason that can be told from it. -/
  | due {barrier : Barrier} (due : barrier.Due) : Springs tracker batch after barrier
  /-- It hands a resource over that the batch gets to know by the call. -/
  | handsOver {key : Key} {passage : Passage} {transfer : QueueTransfer}
    (unknown : batch.passages.find? key = none)
    (known : after.passages.find? key = some passage)
    (asked : handover? tracker key batch.queue = some transfer) :
    Springs tracker batch after
      ((Barrier.resource key passage.initial passage.initial).withTransfer
        transfer.src transfer.dst)

/-- A call, so far, has left all barriers with a reason, and a batch that finds every resource that
it knew in the usage it did. The initial usages are a part of this, because the barrier of a first
use has its reason with them. -/
structure Founded (tracker : Tracker) (batch after : Batch) (commands : List Command) : Prop where
  /-- The queue stays. -/
  queue : after.queue = batch.queue
  /-- What a batch finds a resource in is decided once. -/
  initial : ∀ key passage, batch.passages.find? key = some passage →
    ∃ later, after.passages.find? key = some later ∧ later.initial = passage.initial
  /-- The barriers queued now come from somewhere. -/
  queued : ∀ barrier ∈ after.queued, Springs tracker batch after barrier
  /-- So do those emitted. -/
  emitted : ∀ barrier ∈ Command.barriers commands, Springs tracker batch after barrier

/-- A call that does nothing makes no barrier. -/
theorem Founded.refl (tracker : Tracker) (batch : Batch) : Founded tracker batch batch [] where
  queue := rfl
  initial := fun _ passage found => ⟨passage, found, rfl⟩
  queued := fun _ mem => .queued mem
  emitted := by simp [Command.barriers]

/-- A call may be split into a part that emits nothing and the rest. -/
theorem Founded.trans (h : Founded tracker batch mid [])
    (h' : Founded tracker mid after commands) : Founded tracker batch after commands := by
  have springs {barrier : Barrier} (springs : Springs tracker mid after barrier) :
      Springs tracker batch after barrier := by
    cases springs with
    | queued mem =>
      -- what the second step finds queued came from somewhere in the first
      cases h.queued _ mem with
      | queued mem => exact .queued mem
      | due due => exact .due due
      | handsOver unknown known asked =>
        obtain ⟨later, known', same⟩ := h'.initial _ _ known
        rw [← same]
        exact .handsOver unknown known' asked
    | due due => exact .due due
    | @handsOver key passage transfer unknown known asked =>
      -- unknown in between, so unknown before
      refine .handsOver ?_ known (h.queue ▸ asked)
      by_contra used
      obtain ⟨former, found⟩ := Option.ne_none_iff_exists'.1 used
      obtain ⟨later, found, -⟩ := h.initial key former found
      rw [unknown] at found
      cases found
  refine ⟨h'.queue.trans h.queue, fun key passage found => ?_,
    fun barrier mem => springs (h'.queued barrier mem),
    fun barrier mem => springs (h'.emitted barrier mem)⟩
  obtain ⟨second, found, same⟩ := h.initial key passage found
  obtain ⟨third, found, same'⟩ := h'.initial key second found
  exact ⟨third, found, same'.trans same⟩

/-- What a task will open with is queued in the batch. -/
theorem mem_queued_of_opening {task : Nat} {scope : Scope}
    (found : batch.scopes[task]? = some scope) (mem : barrier ∈ scope.opening) :
    barrier ∈ batch.queued :=
  List.mem_append_right _ (List.mem_flatMap.2 ⟨scope, List.mem_of_getElem? found, mem⟩)

/-- Writing the scope of a task leaves queued what was, and what is written. -/
theorem mem_queued_of_write {task : Nat} {changed : Scope} (mem : barrier ∈ after.queued)
    (scopes : after.scopes = (batch.setScope task changed).scopes)
    (opening : ∀ barrier ∈ after.opening, barrier ∈ batch.opening) :
    barrier ∈ batch.queued ∨ barrier ∈ changed.opening := by
  rcases List.mem_append.1 mem with mem | mem
  · exact .inl (List.mem_append_left _ (opening barrier mem))
  · obtain ⟨scope, written, mem⟩ := List.mem_flatMap.1 mem
    rw [scopes] at written
    rcases List.mem_or_eq_of_mem_set written with old | rfl
    · exact .inl (List.mem_append_right _ (List.mem_flatMap.2 ⟨scope, old, mem⟩))
    · exact .inr mem

/-- A call that leaves alone what a batch finds resources in, and queues nothing. -/
theorem Founded.of_silent (queue : after.queue = batch.queue)
    (initial : ∀ key, (after.passages.find? key).map (·.initial) =
      (batch.passages.find? key).map (·.initial))
    (queued : ∀ barrier ∈ after.queued, barrier ∈ batch.queued)
    (emitted : ∀ barrier ∈ Command.barriers commands, barrier ∈ batch.queued ∨ barrier.Due) :
    Founded tracker batch after commands where
  queue := queue
  initial := fun key passage found => by
    have same := initial key
    rw [found] at same
    exact Option.map_eq_some_iff.1 same
  queued := fun barrier mem => .queued (queued barrier mem)
  emitted := fun barrier mem => (emitted barrier mem).elim .queued .due

/-- A call that writes a task without touching what it opens with. -/
theorem Founded.of_write {task : Nat} {scope changed : Scope}
    (found : batch.scopes[task]? = some scope)
    (scopes : after.scopes = (batch.setScope task changed).scopes)
    (same : changed.opening = scope.opening) (opening : after.opening = batch.opening)
    (queue : after.queue = batch.queue)
    (initial : ∀ key, (after.passages.find? key).map (·.initial) =
      (batch.passages.find? key).map (·.initial))
    (due : ∀ barrier ∈ Command.barriers commands, barrier.Due) :
    Founded tracker batch after commands := by
  refine .of_silent queue initial (fun barrier mem => ?_) fun barrier mem => .inr (due barrier mem)
  rcases mem_queued_of_write mem scopes (fun _ mem => opening ▸ mem) with mem | mem
  · exact mem
  · rw [same] at mem
    exact mem_queued_of_opening found mem

/-- A call that declares a resource. -/
theorem Founded.of_insert {passage : Passage} (queue : after.queue = batch.queue)
    (passages : after.passages = batch.passages.insert key passage)
    (same : ∀ former, batch.passages.find? key = some former → passage.initial = former.initial)
    (queued : ∀ barrier ∈ after.queued, barrier ∈ batch.queued ∨ barrier.Due ∨
      batch.passages.find? key = none ∧
        barrier ∈ (batch.firstUse tracker key passage.initial).toList) :
    Founded tracker batch after [] := by
  have known : after.passages.find? key = some passage := by
    rw [passages, KeyTable.find?_insert, if_pos rfl]
  refine ⟨queue, fun other former found => ?_, fun barrier mem => ?_, by simp [Command.barriers]⟩
  · by_cases it : other = key
    · subst it
      exact ⟨passage, known, same former found⟩
    · refine ⟨former, ?_, rfl⟩
      rw [passages, KeyTable.find?_insert, if_neg it, found]
  -- A barrier that is new to the queue is the one of the first use. If it hands the resource over,
  -- the batch gets to know the resource by this very call.
  · rcases queued barrier mem with mem | due | ⟨unknown, mem⟩
    · exact .queued mem
    · exact .due due
    · rcases of_mem_firstUse mem with due | ⟨transfer, asked, rfl⟩
      · exact .due due
      · exact .handsOver unknown known asked

/-- **Every case is founded**: a relaxed batch queues and emits barriers for a reason. -/
theorem Effect.founded {call : Call} {answer : Except BatchError Reply}
    (effect : Effect tracker batch call answer after commands) (relaxed : batch.relaxed = true) :
    Founded tracker batch after commands := by
  have none {P : Barrier → Prop} : ∀ barrier ∈ Command.barriers [], P barrier := by
    simp [Command.barriers]
  -- Barriers are made by the declarations and by the calls that move resources. To begin a task
  -- makes none: it emits what was queued.
  cases effect with
  | redeclared _ known =>
    refine .of_insert rfl rfl (fun former found => ?_) fun barrier mem => .inl mem
    rw [← Option.some.inj (known.symm.trans found)]
  | declared _ unknown =>
    refine .of_insert rfl rfl (by simp [unknown]) fun barrier mem => ?_
    rcases List.mem_append.1 mem with mem | mem
    · rcases List.mem_append.1 mem with mem | mem
      · exact .inl (List.mem_append_left _ mem)
      · exact .inr (.inr ⟨unknown, mem⟩)
    · exact .inl (List.mem_append_right _ mem)
  | created =>
    refine .of_silent rfl (fun _ => rfl) (fun barrier mem => ?_) none
    simpa [Batch.queued] using mem
  | joined _ found _ _ known =>
    refine .of_insert rfl rfl (fun former found => ?_) fun barrier mem => ?_
    · rw [← Option.some.inj (known.symm.trans found)]
    · rcases mem_queued_of_write mem rfl (fun _ mem => mem) with mem | mem
      · exact .inl mem
      · rcases List.mem_append.1 mem with mem | mem
        · exact .inl (mem_queued_of_opening found mem)
        · exact .inr (.inl (due_of_mem_openingOf relaxed mem))
  | introduced _ found _ _ unknown =>
    refine .of_insert rfl rfl (by simp [unknown]) fun barrier mem => ?_
    rcases mem_queued_of_write mem rfl (fun _ mem => mem) with mem | mem
    · exact .inl mem
    · rcases List.mem_append.1 mem with mem | mem
      · exact .inl (mem_queued_of_opening found mem)
      · exact .inr (.inr ⟨unknown, mem⟩)
  -- What is emitted was queued for the batch or for the task, but for the barrier on all memory.
  | @began task last scope _ found =>
    refine .of_silent rfl (fun _ => rfl) (fun barrier mem => ?_) fun barrier mem => ?_
    · have opening : ∀ barrier ∈ (if task = 0 then [] else batch.opening),
          barrier ∈ batch.opening := by
        split <;> simp
      rcases mem_queued_of_write mem rfl opening with mem | mem
      · exact mem
      · cases mem
    · rw [barriers_emitted_flush] at mem
      rcases List.mem_append.1 mem with mem | mem
      · unfold openingBarriers at mem
        split at mem
        · rcases List.mem_append.1 mem with mem | mem
          · exact .inl (List.mem_append_left _ mem)
          · exact .inr (due_of_mem_memory mem)
        · cases mem
      · exact .inl (mem_queued_of_opening found mem)
  | moved found | fetched found =>
    refine .of_write found rfl rfl rfl rfl (fun _ => rfl) fun barrier mem => ?_
    rw [barriers_emitted] at mem
    exact due_of_mem_transition relaxed (by simp) mem
  | discarded found | overridden found | installed found =>
    exact .of_write found rfl rfl rfl rfl (fun _ => rfl) none
  | readBack | uploaded =>
    refine .of_silent rfl (fun _ => rfl) (fun barrier mem => mem) fun barrier mem => .inr ?_
    split at mem
    · cases mem
    · rw [barriers_emitted] at mem
      rw [List.mem_singleton.1 mem]
      exact .memory _ _
  -- The closing barriers are transitions, and the final usages that settle leave the initial ones.
  | @ended task scope found =>
    refine .of_write found rfl rfl rfl rfl (fun key => ?_) fun barrier mem => ?_
    · dsimp only
      split
      · rw [KeyTable.find?_map, Option.map_map]
        rfl
      · rfl
    · rw [barriers_emitted_flush] at mem
      rcases List.mem_append.1 mem with mem | mem
      · exact due_of_mem_closingBarriers relaxed mem
      · exact due_of_mem_memory mem
  | _ => exact .of_silent rfl (fun _ => rfl) (fun barrier mem => mem) none

/-- **Every call is founded**, also those made of others. Several declarations in a row are founded
one by one. -/
theorem founded_perform (batch : Batch) (tracker : Tracker) (call : Call)
    (relaxed : batch.relaxed = true) :
    Founded tracker batch (batch.perform tracker call).batch
      (batch.perform tracker call).commands := by
  by_cases several : ∃ targets, call = .useTargets targets
  · obtain ⟨targets, rfl⟩ := several
    show Founded tracker batch (batch.useTargets tracker targets).batch
      (batch.useTargets tracker targets).commands
    unfold useTargets
    rw [commands_useMany]
    refine (useMany_induction
      (P := fun after => after.relaxed = true ∧ Founded tracker batch after []) tracker
      (fun mid key initial final ⟨relaxed, founded⟩ => ?_) _ ⟨relaxed, .refl tracker batch⟩).2
    have effect : Effect tracker mid (.use key initial final) _ _ _ := .of_use key initial final
    rw [commands_use] at effect
    exact ⟨effect.relaxed relaxed nofun, founded.trans (effect.founded relaxed)⟩
  · obtain ⟨basic, stands, same⟩ :=
      exists_standsFor batch tracker fun targets is => several ⟨targets, is⟩
    rw [same]
    exact (perform_effect batch tracker stands.isBasic).founded relaxed

/-! ## First declarations

The usage in which a batch finds a resource is that of the call which made it known to the batch. No
other call writes it, so the discard of a first use can be told from the log. -/

/-- The usage in which a call declares that a batch finds a resource that is new to it. -/
def Call.initial? (tracker : Tracker) (key : Key) : Call → Option Usage
  | .use other initial _ | .declare _ other initial _ => if other = key then some initial else none
  | .useAtRest other => if other = key then some (tracker.restingUsage key).1 else none
  | .useTargets targets =>
    if ∃ target ∈ targets, ⟨.image, target⟩ = key then some .colorAttachment else none
  | .declareDefault _ other =>
    if other = key then
      match tracker.lookup key with
      | some entry => some entry.current
      | none => some (tracker.restingUsage key).1
    else none
  | _ => none

/-- What a batch finds a resource in is what it did before, or was declared as it got to know the
resource. -/
def Inherits (key : Key) (batch : Batch) (initial : Usage) (declared : Prop) : Prop :=
  (∃ former, batch.passages.find? key = some former ∧ former.initial = initial) ∨
    (batch.passages.find? key = none ∧ declared)

/-- A call leaves the initial usage of every passage as it was, or has just declared it, one case
for each way in which the table is written. -/
theorem Effect.inherits {call : Call} {answer : Except BatchError Reply} {passage : Passage}
    (effect : Effect tracker batch call answer after commands)
    (known : after.passages.find? key = some passage) :
    Inherits key batch passage.initial (call.initial? tracker key = some passage.initial) := by
  have written {other : Key} {new : Passage}
      (known : (batch.passages.insert other new).find? key = some passage)
      (here : other = key →
        Inherits key batch new.initial (call.initial? tracker key = some new.initial)) :
      Inherits key batch passage.initial (call.initial? tracker key = some passage.initial) := by
    rw [KeyTable.find?_insert] at known
    split at known
    · rename_i same
      rw [← Option.some.inj known]
      exact here same.symm
    · exact .inl ⟨passage, known, rfl⟩
  cases effect with
  | @redeclared _ _ _ former _ found =>
    exact written known fun same => .inl ⟨former, same ▸ found, rfl⟩
  | @joined _ _ _ _ _ former _ _ _ _ found =>
    exact written known fun same => .inl ⟨former, same ▸ found, rfl⟩
  | declared _ unknown | introduced _ _ _ _ unknown =>
    exact written known fun same => .inr ⟨same ▸ unknown, if_pos same⟩
  | ended =>
    dsimp only at known
    split at known
    · rw [KeyTable.find?_map, Option.map_eq_some_iff] at known
      obtain ⟨former, found, rfl⟩ := known
      exact .inl ⟨former, found, rfl⟩
    · exact .inl ⟨passage, known, rfl⟩
  | _ => exact .inl ⟨passage, known, rfl⟩

/-- Of several declarations it is one that makes a resource known. -/
theorem inherits_useMany {uses : List (Key × Usage × Usage)} {passage : Passage}
    (known : (batch.useMany tracker uses).batch.passages.find? key = some passage) :
    Inherits key batch passage.initial (∃ final, (key, passage.initial, final) ∈ uses) := by
  induction uses generalizing batch with
  | nil => exact .inl ⟨passage, known, rfl⟩
  | cons use rest ih =>
    obtain ⟨other, initial, final⟩ := use
    have effect : Effect tracker batch (.use other initial final) _ _ _ :=
      .of_use other initial final
    have first {met : Passage}
        (found : (batch.use tracker other initial final).batch.passages.find? key = some met) :
        Inherits key batch met.initial
          (∃ last, (key, met.initial, last) ∈ (other, initial, final) :: rest) := by
      refine (effect.inherits found).imp_right fun ⟨unknown, declares⟩ => ⟨unknown, final, ?_⟩
      obtain ⟨rfl, rfl⟩ : other = key ∧ initial = met.initial := by
        simpa [Call.initial?] using declares
      exact List.mem_cons_self
    unfold useMany at known
    dsimp only at known
    split at known
    · exact first known
    · rcases ih known with ⟨former, found, same⟩ | ⟨unknown, last, mem⟩
      · rw [← same]
        exact first found
      · -- a later declaration makes it known, so none before did
        refine .inr ⟨?_, last, List.mem_cons_of_mem _ mem⟩
        by_contra before
        have kept := effect.passages_mono (Option.isSome_iff_ne_none.2 before)
        rw [unknown] at kept
        cases kept

/-- Declaring a resource for a task as it is left. -/
theorem inherits_declareDefault {task : Nat} {other : Key} {passage : Passage}
    (known : (batch.declareDefault tracker task other).batch.passages.find? key = some passage) :
    Inherits key batch passage.initial
      ((Call.declareDefault task other).initial? tracker key = some passage.initial) := by
  have declared (initial final : Usage)
      (same : batch.declareDefault tracker task other =
        batch.declare tracker task other initial final)
      (here : batch.passages.find? other = none →
        (Call.declareDefault task other).initial? tracker other = some initial) :
      Inherits key batch passage.initial
        ((Call.declareDefault task other).initial? tracker key = some passage.initial) := by
    have effect : Effect tracker batch (.declare task other initial final) _ _ _ :=
      .of_declare task other initial final
    rw [← same] at effect
    refine (effect.inherits known).imp_right fun ⟨unknown, declares⟩ => ⟨unknown, ?_⟩
    obtain ⟨rfl, rfl⟩ : other = key ∧ initial = passage.initial := by
      simpa [Call.initial?] using declares
    exact here unknown
  cases met : batch.passages.find? other with
  | some former =>
    exact declared former.current former.current (by simp only [declareDefault, met])
      (by simp [met])
  | none =>
    cases found : tracker.lookup other with
    | some entry =>
      exact declared entry.current (tracker.restingUsage other).1
        (by simp only [declareDefault, met, found]) fun _ => by simp [Call.initial?, found]
    | none =>
      exact declared (tracker.restingUsage other).1 (tracker.restingUsage other).1
        (by simp only [declareDefault, met, found]) fun _ => by simp [Call.initial?, found]

/-- **A resource that a call makes known is found in the usage that the call declares**, and stays
so. -/
theorem inherits_perform {call : Call} {passage : Passage}
    (known : (batch.perform tracker call).batch.passages.find? key = some passage) :
    Inherits key batch passage.initial (call.initial? tracker key = some passage.initial) := by
  cases call with
  | useAtRest other =>
    have effect : Effect tracker batch
        (.use other (tracker.restingUsage other).1 (tracker.restingUsage other).1) _ _ _ :=
      .of_use other _ _
    refine (effect.inherits known).imp_right fun ⟨unknown, declares⟩ => ⟨unknown, ?_⟩
    obtain ⟨rfl, same⟩ : other = key ∧ (tracker.restingUsage other).1 = passage.initial := by
      simpa [Call.initial?] using declares
    simpa [Call.initial?] using same
  | useTargets targets =>
    refine (inherits_useMany known).imp_right fun ⟨unknown, final, mem⟩ => ⟨unknown, ?_⟩
    obtain ⟨target, mem, same⟩ := List.mem_map.1 mem
    simp only [Prod.mk.injEq] at same
    rw [Call.initial?, if_pos ⟨target, mem, same.1⟩, same.2.1]
  | declareDefault task other => exact inherits_declareDefault known
  | _ =>
    refine Effect.inherits (perform_effect batch tracker ?_) known
    trivial

end

/-! ## A whole run

The reasons are put together with the count of hand-overs. A resource is made known once, and with
that call alone a transfer may be queued, so there is at most one. -/

/-- In a run a batch gets to know a resource by a call that declares it in some usage and meets
some tracker. -/
def FirstDeclares (start : Batch) (calls : List (Tracker × Call)) (key : Key) (tracker : Tracker)
    (initial : Usage) : Prop :=
  ∃ before call after, calls = before ++ (tracker, call) :: after ∧
    (start.run before).batch.knows key = false ∧
    (start.run (before ++ [(tracker, call)])).batch.knows key = true ∧
    call.initial? tracker key = some initial

/-- The reasons for a barrier in a run. -/
inductive Justified (start : Batch) (calls : List (Tracker × Call)) : Barrier → Prop where
  /-- It can be told from the barrier. -/
  | due {barrier : Barrier} (due : barrier.Due) : Justified start calls barrier
  /-- A resource was declared that the tracker asked to be handed over. -/
  | handsOver {key : Key} {tracker : Tracker} {initial : Usage} {transfer : QueueTransfer}
    (first : FirstDeclares start calls key tracker initial)
    (asked : handover? tracker key start.queue = some transfer) :
    Justified start calls
      ((Barrier.resource key initial initial).withTransfer transfer.src transfer.dst)

section

variable {start : Batch} {calls : List (Tracker × Call)} {key : Key} {barrier : Barrier}

/-- What justifies a barrier lies in the past and is not undone by another call. -/
theorem Justified.append (h : Justified start calls barrier) (call : Tracker × Call) :
    Justified start (calls ++ [call]) barrier := by
  cases h with
  | due due => exact .due due
  | handsOver first asked =>
    obtain ⟨before, declared, after, rfl, unknown, known, declares⟩ := first
    exact .handsOver ⟨before, declared, after ++ [call], by simp, unknown, known, declares⟩ asked

/-- What springs from a call of a run has a reason in the run. -/
theorem Springs.justified {tracker : Tracker} {call : Call}
    (queue : (start.run calls).batch.queue = start.queue)
    (queued : ∀ barrier ∈ (start.run calls).batch.queued, Justified start calls barrier)
    (springs : Springs tracker (start.run calls).batch
      ((start.run calls).batch.perform tracker call).batch barrier) :
    Justified start (calls ++ [(tracker, call)]) barrier := by
  cases springs with
  | queued mem => exact (queued _ mem).append _
  | due due => exact .due due
  | handsOver unknown known asked =>
    refine .handsOver ⟨calls, call, [], rfl, knows_eq_false.2 unknown, ?_, ?_⟩ (queue ▸ asked)
    · rw [run_append]
      exact knows_of_find? known
    · rcases inherits_perform known with ⟨former, found, -⟩ | ⟨-, declares⟩
      · rw [unknown] at found
        cases found
      · exact declares

/-- What holds throughout a run of a relaxed batch. -/
structure Reasoned (start : Batch) (calls : List (Tracker × Call)) : Prop where
  /-- It is relaxed. -/
  relaxed : (start.run calls).batch.relaxed = true
  /-- The queue stays. -/
  queue : (start.run calls).batch.queue = start.queue
  /-- The barriers queued have a reason. -/
  queued : ∀ barrier ∈ (start.run calls).batch.queued, Justified start calls barrier
  /-- So do those emitted. -/
  emitted : ∀ barrier ∈ (start.run calls).barriers, Justified start calls barrier

/-- Every barrier of a run has its reason, by induction on the calls. It goes along with the initial
usages being those that were declared first. -/
theorem reasoned_run (relaxed : start.relaxed = true) (empty : start.queued = [])
    (stays : ∀ call ∈ calls, call.2 ≠ .setRelaxed false) : Reasoned start calls := by
  induction calls using List.reverseRecOn with
  | nil =>
    refine {
      relaxed
      queue := rfl
      queued := fun barrier mem => ?queued
      emitted := fun barrier mem => ?emitted }
    case queued =>
      rw [run_nil, empty] at mem
      cases mem
    case emitted => cases mem
  | append_singleton calls last ih =>
    obtain ⟨tracker, call⟩ := last
    obtain ⟨relaxed, queue, queued, emitted⟩ :=
      ih fun call mem => stays call (List.mem_append_left _ mem)
    have founded := founded_perform (start.run calls).batch tracker call relaxed
    refine {
      relaxed := ?relaxed
      queue := ?queue
      queued := fun barrier mem => ?queued
      emitted := fun barrier mem => ?emitted }
    case relaxed =>
      rw [run_append]
      exact relaxed_perform tracker relaxed (stays (tracker, call) (by simp))
    case queue =>
      rw [run_append]
      exact founded.queue.trans queue
    case queued =>
      rw [run_append] at mem
      exact (founded.queued barrier mem).justified queue queued
    case emitted =>
      rw [run_append, Run.barriers_next] at mem
      rcases List.mem_append.1 mem with mem | mem
      · exact (emitted barrier mem).append _
      · exact (founded.emitted barrier mem).justified queue queued

/-- A resource becomes known to a batch once, and then it may be handed over. -/
theorem length_newly (tracker : Tracker) {batch after : Batch}
    (stays : batch.knows key = true → after.knows key = true) :
    (if batch.knows key then 1 else 0) + (newly tracker key batch after).length ≤
      if after.knows key then 1 else 0 := by
  unfold newly
  cases before : batch.knows key with
  | true => simp [stays before]
  | false =>
    cases after.knows key with
    | true => cases handover? tracker key batch.queue <;> simp
    | false => simp

/-- A resource is handed over once, after it was declared. Before there are none, and with the
declaration that makes the resource known there is one at most. -/
theorem length_handovers_run (empty : start.queued = []) (calls : List (Tracker × Call)) :
    ((start.run calls).handovers key).length ≤
      if (start.run calls).batch.knows key then 1 else 0 := by
  induction calls using List.reverseRecOn with
  | nil =>
    have none : Run.handovers { batch := start } key = [] := by
      unfold Run.handovers
      rw [empty]
      rfl
    rw [run_nil, none]
    exact Nat.zero_le _
  | append_singleton calls last ih =>
    obtain ⟨tracker, call⟩ := last
    have moved := ((start.run calls).handovers_next tracker call key).length_eq
    rw [List.length_append] at moved
    have once := length_newly tracker
      (moves_perform (start.run calls).batch tracker call key).knows
    rw [run_append]
    calc ((Run.next _ (tracker, call)).handovers key).length
        = ((start.run calls).handovers key).length + _ := moved
      _ ≤ (if (start.run calls).batch.knows key then 1 else 0) + _ := Nat.add_le_add_right ih _
      _ ≤ _ := once

/-- **Every barrier has a reason.** Take a batch that is new or was cleared, which is the same, and
calls that leave it relaxed; every call may meet another tracker. Of the barriers on resources that
the calls emit, each is one of three kinds.

* It discards, and then it is on an image and does not change the queue.
* It changes the queue, and then it does not discard. The resource stays in the usage in which it
  was first declared, and goes from the last queue that the tracker knew then to the queue of the
  batch, which is another one.
* It does neither, and then it goes from one usage to another, one of which writes, or the resource
  is an image and the usages have different layouts.

And there is at most one barrier that changes the queue of a resource. -/
theorem barriers_justified (former : Batch) (id : BatchId) (queue : Queue)
    {calls : List (Tracker × Call)} (relaxed : ∀ call ∈ calls, call.2 ≠ .setRelaxed false) :
    let start := former.reset id queue
    let run := start.run calls
    (∀ barrier ∈ run.barriers, ∀ key, barrier.key = some key →
      (barrier.discard = true → key.isImage = true ∧ barrier.transfer = none) ∧
      (∀ transfer, barrier.transfer = some transfer →
        barrier.discard = false ∧
          ∃ tracker initial, FirstDeclares start calls key tracker initial ∧
            barrier.src = initial ∧ barrier.dst = initial ∧
            (tracker.lookup key).bind (·.lastQueue) = some transfer.src ∧
            transfer.dst = queue ∧ transfer.src ≠ transfer.dst) ∧
      (barrier.discard = false → barrier.transfer = none →
        barrier.src ≠ barrier.dst ∧
          (barrier.src.writes = true ∨ barrier.dst.writes = true ∨
            (key.isImage = true ∧ barrier.src.layout ≠ barrier.dst.layout)))) ∧
      ∀ key, (transfers key run.barriers).length ≤ 1 := by
  intro start run
  refine ⟨fun barrier mem key on => ?_, fun key => ?_⟩
  · have reasoned : Reasoned start calls := reasoned_run rfl rfl relaxed
    cases reasoned.emitted barrier mem with
    | due due =>
      cases due with
      | discards image =>
        cases on
        exact ⟨fun _ => ⟨image, rfl⟩, nofun, nofun⟩
      | @moves _ src dst differ =>
        cases on
        have apart : src ≠ dst := fun same => differ (.inl same)
        exact ⟨nofun, nofun, fun _ _ => ⟨apart, (Key.not_agrees_iff apart).1 differ⟩⟩
      | memory => cases on
    | @handsOver _ tracker initial transfer first asked =>
      cases on
      refine ⟨nofun, fun _ is => ⟨rfl, tracker, initial, first, rfl, rfl, ?_⟩, nofun⟩
      obtain rfl := Option.some.inj is
      exact of_handover? asked
  · have few : (run.handovers key).length ≤ _ := length_handovers_run rfl calls
    have all : (if run.batch.knows key then 1 else 0) ≤ 1 := by split <;> simp
    calc (transfers key run.barriers).length
        ≤ (run.handovers key).length := by
          unfold Run.handovers
          rw [List.length_append]
          exact Nat.le_add_right _ _
      _ ≤ 1 := Nat.le_trans few all

end

/-- A buffer that was left on the graphics queue. -/
def lent : Key := ⟨.buffer, ⟨0⟩⟩

/-- An image that no queue used yet. -/
def blank : Key := ⟨.image, ⟨1⟩⟩

/-- A tracker that knows the buffer. -/
def lending : Tracker :=
  (Tracker.perform .empty (.add 0 lent .shaderRead .shaderRead (some ⟨⟨0, 0⟩, .graphics⟩))).2

/-- A task on another queue writes the buffer, and draws to the image for it to be presented. -/
def borrowing : List (Tracker × Call) :=
  [.use lent .shaderRead .shaderReadWrite, .use blank .colorAttachment .present, .createTask,
    .beginTask 0 true, .report 0 lent .shaderReadWrite, .finish 0].map (lending, ·)

/-- The first barrier hands the buffer over, the second discards the image, and the others take
both where they are to be. -/
theorem barriers_justified_lent :
    let start := new ⟨1, 0⟩ .asyncCompute
    (start.run borrowing).barriers =
        [(Barrier.resource lent .shaderRead .shaderRead).withTransfer .graphics .asyncCompute,
          (Barrier.resource blank .colorAttachment .colorAttachment).withDiscard true,
          Barrier.resource lent .shaderRead .shaderReadWrite,
          Barrier.resource blank .colorAttachment .present] ∧
      ∃ tracker, FirstDeclares start borrowing lent tracker .shaderRead ∧
        (tracker.lookup lent).bind (·.lastQueue) = some .graphics := by
  intro start
  have emits : (start.run borrowing).barriers =
      [(Barrier.resource lent .shaderRead .shaderRead).withTransfer .graphics .asyncCompute,
        (Barrier.resource blank .colorAttachment .colorAttachment).withDiscard true,
        Barrier.resource lent .shaderRead .shaderReadWrite,
        Barrier.resource blank .colorAttachment .present] := by
    decide +kernel
  have relaxed : ∀ call ∈ borrowing, call.2 ≠ .setRelaxed false := by simp [borrowing]
  obtain ⟨justified, -⟩ :=
    barriers_justified (new ⟨0, 0⟩ .graphics) ⟨1, 0⟩ .asyncCompute relaxed
  obtain ⟨-, handsOver, -⟩ := justified
    ((Barrier.resource lent .shaderRead .shaderRead).withTransfer .graphics .asyncCompute)
    (emits ▸ List.mem_cons_self) lent rfl
  obtain ⟨-, tracker, initial, first, rfl, -, last, -⟩ := handsOver _ rfl
  exact ⟨emits, tracker, first, last⟩

end Batch

end GpuSync
