import GpuSync.Proofs.Ring.Submissions

/-!
# The objects behind batches

The book-keeping of a batch is an object that several may have at the same time: its slot, whoever
declares the batch while it is open, its frame, and the callers that hold the batch. When a slot
is handed out again, the object it has is cleared for the next batch if nobody else has it; if
somebody does, the slot gets another object.

* `Desk.Heap` is a desk with these objects and with who has which.
* `Desk.Heap.step` does a deed, which is an act on the ring or on a batch that is held, or changes
  which batches are held. `Desk.Heap.run` does several in order.
* `Desk.Heap.view` is a submission with the batch that its object shows.
* `Desk.Heap.Change` lists what a deed does; `Desk.Heap.change_step` says that there is no other
  case.
* `Desk.Heap.Sound` is the invariant: what a caller or a frame has, has an object of its own. Every
  change keeps it (`Desk.Heap.Sound.change`).
* **`Desk.Heap.Sound.view_eq`**: of a submission that anybody has, the object shows just what the
  ring knows.
-/

namespace GpuSync.Desk

open Submission (Later)

/-- A desk with the objects that have the book-keeping of its batches. `inSlot` has the object of
each slot, `behind` that of each submission, and `lent` that of the batch that is open. -/
structure Heap where
  /-- The desk. -/
  desk : Desk
  /-- All objects made so far, each with what it shows now. -/
  objects : List Batch := []
  /-- The object that a slot has. -/
  inSlot : Nat → Option Nat := fun _ => none
  /-- The object of the batch that is open. -/
  lent : Option Nat := none
  /-- The object behind each submission. -/
  behind : List Nat := []
  /-- The submissions that callers hold. -/
  held : List Nat := []
  /-- The slots handed out, in order, each with the identity that the batch got. -/
  issued : List (Nat × BatchId) := []

/-- Something done to a ring by callers that hold some of its batches. -/
inductive Deed where
  /-- An act. One on a batch takes that the batch is held. -/
  | act (act : Act)
  /-- Callers let go of a batch. -/
  | drop (n : Nat)
  /-- A caller looks a batch of the frames in flight up, and holds it from then on. -/
  | fetch (id : BatchId)

/-- The submission whose batch a deed changes. -/
def Deed.target? : Deed → Option Nat
  | .act done => done.target?
  | _ => none

namespace Heap

/-- A desk before anything was done. -/
def start (config : FrameRing.Config) (surfaces : List Surface) : Heap where
  desk := .start config surfaces

/-- Whether a caller or a frame has a submission. -/
def has (heap : Heap) (n : Nat) : Bool := heap.held.contains n || heap.desk.ring.keeps n

/-- Whether anybody but a slot has an object. `others` tells of which batches somebody has the
object without holding the batch. A submission has the object as long as a caller holds it or a
frame lists it. -/
def isShared (heap : Heap) (others : BatchId → Bool) (c : Nat) : Bool :=
  heap.objects[c]?.any (fun batch => others batch.id) ||
    (List.range heap.behind.length).any fun n => heap.behind[n]? == some c && heap.has n

/-- The object that a slot has, with what it shows. -/
def former? (heap : Heap) (slot : Nat) : Option (Nat × Batch) := do
  let c ← heap.inSlot slot
  let batch ← heap.objects[c]?
  return (c, batch)

/-- The object for a batch that gets a slot, and all objects then. It is the one that the slot has,
unless that is shared. What the object of the slot showed is cleared only if it is used again; if it
is shared, it stays as it is for those who have it. -/
def supply (heap : Heap) (shared : Bool) (slot : Nat) (queue : Queue) : Nat × List Batch :=
  match heap.former? slot with
  | none => (heap.objects.length, heap.objects ++ [.new ⟨UInt32.ofNat slot, 0⟩ queue])
  | some (c, former) =>
    if shared then (heap.objects.length, heap.objects ++ [.new former.id.next queue])
    else (c, heap.objects.set c (former.reset former.id.next queue))

/-- Opens a batch. -/
def openBatch (heap : Heap) (queue : Queue) (others : BatchId → Bool) : Heap :=
  match heap.desk.ring.slots.firstFree? 0 with
  | none => { heap with desk := heap.desk.step (.openBatch queue others) }
  | some slot =>
    let shared := (heap.inSlot slot).any (heap.isShared others)
    let after := heap.desk.step (.openBatch queue fun _ => shared)
    match heap.desk.draft, after.draft with
    | none, some draft =>
      let supplied := heap.supply shared slot queue
      { heap with
        desk := after
        objects := supplied.2
        inSlot := Function.update heap.inSlot slot (some supplied.1)
        lent := some supplied.1
        issued := heap.issued ++ [(slot, draft.batch.id)] }
    | _, _ => { heap with desk := after }

/-- Begins the batch that is open. The caller holds it. -/
def beginBatch (heap : Heap) (label : String) : Heap :=
  match heap.desk.draft, heap.lent with
  | some _, some c =>
    { heap with
      desk := heap.desk.step (.beginBatch label)
      lent := none
      behind := heap.behind ++ [c]
      held := heap.held ++ [heap.behind.length] }
  | _, _ => heap

/-- The object that an act changes: the one behind the submission that the act is on, or else that
of the batch that is open. -/
def touched? (heap : Heap) (act : Act) : Option Nat :=
  match act.target? with
  | some n => heap.behind[n]?
  | none => if heap.desk.draft.isSome then heap.lent else none

/-- The objects after an act that changes one of them. -/
def touch (heap : Heap) (act : Act) : List Batch :=
  match heap.touched? act with
  | none => heap.objects
  | some c => heap.objects.modify c (heap.desk.treat act)

/-- Does an act that neither opens nor begins a batch. -/
def perform (heap : Heap) (act : Act) : Heap :=
  if act.target?.all (heap.held.contains ·) then
    { heap with desk := heap.desk.step act, objects := heap.touch act }
  else heap

/-- Looks a batch up. The caller holds it if it is found. -/
def fetch (heap : Heap) (id : BatchId) : Heap :=
  match heap.desk.ring.find? id with
  | none => heap
  | some found => { heap with held := heap.held ++ [found.serial] }

/-- Does a deed. -/
def step (heap : Heap) : Deed → Heap
  | .act (.openBatch queue others) => heap.openBatch queue others
  | .act (.beginBatch label) => heap.beginBatch label
  | .act act => heap.perform act
  | .drop n => { heap with held := heap.held.filter (· != n) }
  | .fetch id => heap.fetch id

/-- Does deeds in order. -/
def run (heap : Heap) (deeds : List Deed) : Heap := deeds.foldl step heap

/-- Nothing is done to a heap without a deed. -/
@[simp] theorem run_nil (heap : Heap) : heap.run [] = heap := rfl

/-- A run goes on with the last deed. -/
@[simp] theorem run_append (heap : Heap) (deeds : List Deed) (deed : Deed) :
    heap.run (deeds ++ [deed]) = (heap.run deeds).step deed := by
  simp [run]

/-- A submission with the batch that the object behind it shows. -/
def view (heap : Heap) (n : Nat) : Option Submission := do
  let submission ← heap.desk.ring.submissions[n]?
  let c ← heap.behind[n]?
  let batch ← heap.objects[c]?
  return { submission with batch }

/-! ## What a deed does

Opening a batch is the one deed that chooses an object, and it looks at who has the one of the slot.
What else is done to an object is done by an act on the batch it shows. -/

/-- The heap once a slot was handed out, with the object supplied for it. -/
def lend (heap : Heap) (slot : Nat) (queue : Queue) (supplied : Nat × List Batch) : Heap :=
  { heap with
    desk :=
      { heap.desk with
        ring := heap.desk.ring.handOut slot queue
        draft := some
          ⟨.new (heap.desk.ring.nextId slot) queue, heap.desk.ring.submittedTo queue⟩ }
    objects := supplied.2
    inSlot := Function.update heap.inSlot slot (some supplied.1)
    lent := some supplied.1
    issued := heap.issued ++ [(slot, heap.desk.ring.nextId slot)] }

/-- The heap once the batch that is open was begun, with the object it has. -/
def join (heap : Heap) (draft : FrameRing.Draft) (label : String) (c : Nat) : Heap :=
  { heap with
    desk :=
      { heap.desk with
        ring := (heap.desk.ring.beginBatch draft label).2.1
        draft := none
        frameOf := heap.desk.frameOf ++ [heap.desk.begun.length] }
    lent := none
    behind := heap.behind ++ [c]
    held := heap.held ++ [heap.behind.length] }

/-- What a deed does to a heap. Each case has what was checked before, so that the invariant can be
kept without opening the operations. -/
inductive Change (heap : Heap) (deed : Deed) : Heap → Prop where
  /-- Nothing. -/
  | still : Change heap deed heap
  /-- A batch is let go of. -/
  | dropped {n : Nat} (which : deed = .drop n) :
    Change heap deed { heap with held := heap.held.filter (· != n) }
  /-- A batch is looked up and found. -/
  | fetched {id : BatchId} {found : Submission} (which : deed = .fetch id)
    (looked : heap.desk.ring.find? id = some found) :
    Change heap deed { heap with held := heap.held ++ [found.serial] }
  /-- An act is done that neither opens nor begins a batch. If it is on a batch, that is held. -/
  | performed {act : Act} (which : deed = .act act) (calm : act.Calm)
    (permitted : ∀ n, act.target? = some n → n ∈ heap.held) :
    Change heap deed { heap with desk := heap.desk.step act, objects := heap.touch act }
  /-- A batch is opened, with a slot that was free. -/
  | opened {queue : Queue} {others : BatchId → Bool} {slot : Nat}
    (which : deed = .act (.openBatch queue others)) (free : heap.desk.draft = none)
    (search : heap.desk.ring.slots.firstFree? 0 = some slot) :
    Change heap deed (heap.lend slot queue
      (heap.supply ((heap.inSlot slot).any (heap.isShared others)) slot queue))
  /-- The batch that is open is begun. -/
  | begun {label : String} {draft : FrameRing.Draft} {c : Nat}
    (which : deed = .act (.beginBatch label)) (held : heap.desk.draft = some draft)
    (lent : heap.lent = some c) :
    Change heap deed (heap.join draft label c)

/-- An act that neither opens nor begins a batch is done to the desk, and to the object that it
touches. -/
theorem change_perform (heap : Heap) {act : Act} (calm : act.Calm) :
    Change heap (.act act) (heap.perform act) := by
  unfold perform
  split
  · rename_i permitted
    refine .performed rfl calm fun n target => ?_
    rw [target] at permitted
    exact List.contains_iff_mem.1 permitted
  · exact .still

/-- A batch is opened, or nothing is done. -/
theorem change_openBatch {heap : Heap} (orderly : heap.desk.Orderly) (queue : Queue)
    (others : BatchId → Bool) :
    Change heap (.act (.openBatch queue others)) (heap.openBatch queue others) := by
  unfold openBatch
  cases search : heap.desk.ring.slots.firstFree? 0 with
  | none =>
    rcases step_openBatch orderly.whole queue others with same | ⟨slot, -, -, -, -, search', -⟩
    · dsimp only
      rw [same]
      exact .still
    · rw [search] at search'
      cases search'
  | some slot =>
    dsimp only
    rcases step_openBatch orderly.whole queue
      (fun _ => (heap.inSlot slot).any (heap.isShared others)) with
      same | ⟨slot', free, -, -, -, search', same⟩
    · rw [same]
      cases heap.desk.draft <;> exact .still
    · cases search.symm.trans search'
      rw [same, free]
      exact .opened rfl free search

/-- The batch that is open is begun, or nothing is done. -/
theorem change_beginBatch (heap : Heap) (label : String) :
    Change heap (.act (.beginBatch label)) (heap.beginBatch label) := by
  unfold beginBatch
  split
  · rename_i draft c held lent
    rw [step_beginBatch held]
    exact .begun rfl held lent
  · exact .still

/-- **There is no other case.** Whatever deed is done, what becomes of the heap is one of the cases
of `Change`. -/
theorem change_step {heap : Heap} (orderly : heap.desk.Orderly) (deed : Deed) :
    Change heap deed (heap.step deed) := by
  cases deed with
  | drop n => exact .dropped rfl
  | fetch id =>
    show Change heap _ (heap.fetch id)
    unfold fetch
    split
    · exact .still
    · rename_i found looked
      exact .fetched rfl looked
  | act done =>
    cases done with
    | openBatch queue others => exact change_openBatch orderly queue others
    | beginBatch label => exact heap.change_beginBatch label
    | _ => exact heap.change_perform trivial

/-! ## The invariant

Only what somebody has is followed. Nothing is said of an object that a slot has and nobody else, as
it is cleared before it is shown again. -/

/-- What somebody has, has an object of its own, which shows what the ring knows. Objects that
nobody has are not spoken of. -/
structure Sound (heap : Heap) : Prop where
  /-- The ring is orderly. -/
  orderly : heap.desk.Orderly
  /-- Every submission has an object. -/
  counted : heap.behind.length = heap.desk.ring.submissions.length
  /-- That object was made. -/
  made : ∀ c ∈ heap.behind, c < heap.objects.length
  /-- Callers hold submissions. -/
  known : ∀ n ∈ heap.held, n < heap.desk.ring.submissions.length
  /-- The object of a slot shows the identity that the pool has for the slot. -/
  slotted : ∀ slot c, heap.inSlot slot = some c → ∃ batch, heap.objects[c]? = some batch ∧
    heap.desk.ring.slots.values.find? slot = some batch.id ∧ batch.id.index.toNat = slot
  /-- A slot without an object was never used. -/
  unused : ∀ slot, heap.inSlot slot = none →
    heap.desk.ring.slots.values.find? slot = none
  /-- The object of a batch that is open shows that batch, and is behind no submission that anybody
  has. -/
  lent : ∀ draft, heap.desk.draft = some draft → ∃ c, heap.lent = some c ∧
    heap.objects[c]? = some draft.batch ∧ ∀ n, heap.has n = true → heap.behind[n]? ≠ some c
  /-- The object behind a submission shows its batch. -/
  intact : ∀ n submission, heap.has n = true → heap.desk.ring.submissions[n]? = some submission →
    ∃ c, heap.behind[n]? = some c ∧ heap.objects[c]? = some submission.batch
  /-- No object is behind two submissions. -/
  apart : ∀ m n c, heap.has m = true → heap.has n = true → heap.behind[m]? = some c →
    heap.behind[n]? = some c → m = n

section

variable {heap : Heap}

/-- At first there are no objects, and nobody has any. -/
theorem sound_start (config : FrameRing.Config) (surfaces : List Surface) :
    (start config surfaces).Sound where
  orderly := orderly_start config surfaces
  counted := rfl
  made := nofun
  known := nofun
  slotted := nofun
  unused := fun slot _ => RadixMap.find?_empty slot
  lent := nofun
  intact := fun _ _ _ found => nomatch found
  apart := fun _ _ _ _ _ found => nomatch found

/-- Of a submission that anybody has, the object shows what the ring knows. -/
theorem Sound.view_eq (h : heap.Sound) {n : Nat} (has : heap.has n = true) :
    heap.view n = heap.desk.ring.submissions[n]? := by
  unfold view
  cases found : heap.desk.ring.submissions[n]? with
  | none => rfl
  | some submission =>
    obtain ⟨c, behind, shown⟩ := h.intact n submission has found
    simp [behind, shown]

/-- A caller that holds a submission has it. -/
theorem has_of_held {n : Nat} (mem : n ∈ heap.held) : heap.has n = true := by
  unfold has
  rw [List.contains_iff_mem.2 mem, Bool.true_or]

/-- A submission is had by callers or by frames. -/
theorem has_iff {n : Nat} :
    heap.has n = true ↔ n ∈ heap.held ∨ heap.desk.ring.keeps n = true := by
  unfold has
  rw [Bool.or_eq_true, List.contains_iff_mem]

/-- Who holds what may change, as long as nothing is held that nobody had. -/
theorem Sound.rehold (h : heap.Sound) {held : List Nat}
    (had : ∀ n ∈ held, heap.has n = true)
    (known : ∀ n ∈ held, n < heap.desk.ring.submissions.length) :
    { heap with held }.Sound := by
  have has (n : Nat) (has : { heap with held }.has n = true) : heap.has n = true := by
    rcases has_iff.1 has with mem | kept
    · exact had n mem
    · exact has_iff.2 (.inr kept)
  refine {
    orderly := h.orderly
    counted := h.counted
    made := h.made
    known
    slotted := h.slotted
    unused := h.unused
    lent := ?lent
    intact := ?intact
    apart := ?apart }
  case lent =>
    intro draft open'
    obtain ⟨c, lent, shown, alone⟩ := h.lent draft open'
    exact ⟨c, lent, shown, fun n has' => alone n (has n has')⟩
  case intact =>
    intro n submission has'
    exact h.intact n submission (has n has')
  case apart =>
    intro m n c has' has''
    exact h.apart m n c (has m has') (has n has'')

/-! ## Acts that change objects

An act changes one object, the one behind its submission. Two submissions that somebody has never
share an object, so the others show what they did. -/

/-- What an act leaves of an object. -/
theorem getElem?_touch (heap : Heap) (act : Act) (d : Nat) :
    (heap.touch act)[d]? = heap.objects[d]?.map fun batch =>
      if heap.touched? act = some d then heap.desk.treat act batch else batch := by
  unfold touch
  cases heap.touched? act with
  | none => simp
  | some c =>
    dsimp only
    rw [List.getElem?_modify]
    simp only [Option.some.injEq]
    rfl

/-- An act changes objects and makes none. -/
theorem length_touch (heap : Heap) (act : Act) :
    (heap.touch act).length = heap.objects.length := by
  unfold touch
  split
  · rfl
  · exact List.length_modify ..

/-- An act does not change the identity that an object shows. -/
theorem exists_touch (act : Act) {d : Nat} {batch : Batch}
    (shown : heap.objects[d]? = some batch) :
    ∃ later, (heap.touch act)[d]? = some later ∧ later.id = batch.id := by
  rw [getElem?_touch, shown]
  refine ⟨_, rfl, ?_⟩
  split
  · exact congrArg BatchUse.batch (user_treat heap.desk act batch)
  · rfl

/-- The object of a batch that is open still shows that batch after an act on a batch that is
held. -/
theorem Sound.lent_touch (h : heap.Sound) {act : Act} (calm : act.Calm)
    (permitted : ∀ n, act.target? = some n → n ∈ heap.held) {draft : FrameRing.Draft}
    (open' : (heap.desk.step act).draft = some draft) :
    ∃ c, heap.lent = some c ∧ (heap.touch act)[c]? = some draft.batch ∧
      ∀ n, heap.has n = true → heap.behind[n]? ≠ some c := by
  obtain ⟨former, held, changed⟩ := draft_step calm open'
  obtain ⟨c, lent, shown, alone⟩ := h.lent former held
  refine ⟨c, lent, ?_, alone⟩
  rw [getElem?_touch, shown, changed]
  unfold touched?
  cases target : act.target? with
  | none => simp [held, lent]
  | some n => simp [alone n (has_of_held (permitted n target))]

/-- The object behind a submission still shows its batch after an act on a batch that is held. -/
theorem Sound.intact_touch (h : heap.Sound) {act : Act}
    (permitted : ∀ n, act.target? = some n → n ∈ heap.held) {n : Nat} (has : heap.has n = true)
    {former later : Submission} (found : heap.desk.ring.submissions[n]? = some former)
    (treats : Treats heap.desk act n former later) :
    ∃ c, heap.behind[n]? = some c ∧ (heap.touch act)[c]? = some later.batch := by
  obtain ⟨c, behind, shown⟩ := h.intact n former has found
  refine ⟨c, behind, ?_⟩
  rw [getElem?_touch, shown, treats.2]
  unfold touched?
  cases target : act.target? with
  | none =>
    have other : (if heap.desk.draft.isSome then heap.lent else none) ≠ some c := by
      cases held : heap.desk.draft with
      | none => nofun
      | some draft =>
        obtain ⟨d, lent, -, alone⟩ := h.lent draft held
        rw [Option.isSome_some, if_pos rfl, lent, ← behind]
        exact (alone n has).symm
    simp [other]
  | some m =>
    dsimp only
    by_cases same : m = n
    · simp [same, behind]
    · have other : heap.behind[m]? ≠ some c := fun behind' =>
        same (h.apart m n c (has_of_held (permitted m target)) has behind' behind)
      simp [same, other]

/-- Acts that neither open nor begin a batch keep the heap sound. The act is on a batch that the
caller holds, or on the one that is open, or on none. -/
theorem Sound.performed (h : heap.Sound) {act : Act} (calm : act.Calm)
    (permitted : ∀ n, act.target? = some n → n ∈ heap.held) :
    { heap with desk := heap.desk.step act, objects := heap.touch act }.Sound := by
  obtain ⟨values, roll, fewer⟩ := h.orderly.calm_step calm
  have length : (heap.desk.step act).ring.submissions.length =
      heap.desk.ring.submissions.length := by
    have same := congrArg List.length roll
    unfold FrameRing.roll at same
    rwa [List.length_map, List.length_map] at same
  let after : Heap := { heap with desk := heap.desk.step act, objects := heap.touch act }
  have has (n : Nat) (has : after.has n = true) : heap.has n = true :=
    has_iff.2 ((has_iff.1 has).imp_right (FrameRing.keeps_of_listed roll fewer))
  refine {
    orderly := h.orderly.step act
    counted := h.counted.trans length.symm
    made := ?made
    known := ?known
    slotted := ?slotted
    unused := ?unused
    lent := ?lent
    intact := ?intact
    apart := ?apart }
  case made =>
    intro c mem
    exact Nat.lt_of_lt_of_eq (h.made c mem) (length_touch heap act).symm
  case known =>
    intro n mem
    exact Nat.lt_of_lt_of_eq (h.known n mem) length.symm
  case slotted =>
    intro slot c has
    obtain ⟨batch, shown, value, index⟩ := h.slotted slot c has
    obtain ⟨later, shown', same⟩ := exists_touch act shown
    rw [← same] at value index
    exact ⟨later, shown', (congrArg (·.find? slot) values).trans value, index⟩
  case unused =>
    intro slot none
    exact (congrArg (·.find? slot) values).trans (h.unused slot none)
  case lent =>
    intro draft open'
    obtain ⟨c, lent, shown, alone⟩ := h.lent_touch calm permitted open'
    exact ⟨c, lent, shown, fun n has' => alone n (has n has')⟩
  -- A submission that is held or in a frame has its object still, and what the act made of it is
  -- what it made of the batch of the object.
  case intact =>
    intro n later has' found
    have bound := (List.getElem?_eq_some_iff.1 found).1
    obtain ⟨other, found', treats⟩ :=
      getElem?_step h.orderly.numbered (List.getElem?_eq_getElem (length ▸ bound)) act
    cases found'.symm.trans found
    exact h.intact_touch permitted (has n has') (List.getElem?_eq_getElem (length ▸ bound)) treats
  case apart =>
    intro m n c has' has''
    exact h.apart m n c (has m has') (has n has'')

/-! ## Opening a batch

What is supplied is the object of the slot if no submission that somebody has is behind it, and
another one if not. In both cases nobody has it afterwards but the batch that is open. -/

/-- A slot has an object exactly if it has one that shows something. -/
theorem Sound.former?_eq_none (h : heap.Sound) {slot : Nat} (none : heap.former? slot = none) :
    heap.inSlot slot = .none := by
  unfold former? at none
  cases has : heap.inSlot slot with
  | none => rfl
  | some c =>
    obtain ⟨batch, shown, -⟩ := h.slotted slot c has
    simp [has, shown] at none

/-- The object that a slot has was made. -/
theorem former?_eq_some {slot c : Nat} {former : Batch}
    (some : heap.former? slot = some (c, former)) :
    heap.inSlot slot = .some c ∧ heap.objects[c]? = .some former := by
  unfold former? at some
  obtain ⟨d, has, rest⟩ := Option.bind_eq_some_iff.1 some
  obtain ⟨batch, shown, same⟩ := Option.bind_eq_some_iff.1 rest
  cases same
  exact ⟨has, shown⟩

/-- What somebody has, is behind a submission that is shared. -/
theorem isShared_of_has {others : BatchId → Bool} {n c : Nat} (has : heap.has n = true)
    (behind : heap.behind[n]? = some c) : heap.isShared others c = true := by
  unfold isShared
  rw [Bool.or_eq_true, List.any_eq_true]
  refine .inr ⟨n, List.mem_range.2 (List.getElem?_eq_some_iff.1 behind).1, ?_⟩
  rw [behind, has]
  simp

/-- The object supplied for a slot shows a new batch. All other objects stay as they are, and no
submission that anybody has and no other slot has the one that is supplied. -/
structure Supplies (heap : Heap) (slot : Nat) (queue : Queue) (supplied : Nat × List Batch) :
    Prop where
  /-- It shows a new batch with the next identity of the slot. -/
  shown : supplied.2[supplied.1]? = some (.new (heap.desk.ring.nextId slot) queue)
  /-- That identity leads to the slot. -/
  index : (heap.desk.ring.nextId slot).index.toNat = slot
  /-- Other objects stay. -/
  others : ∀ d, d ≠ supplied.1 → ∀ batch, heap.objects[d]? = some batch →
    supplied.2[d]? = some batch
  /-- No object is lost. -/
  length : heap.objects.length ≤ supplied.2.length
  /-- No submission that anybody has, has it. -/
  alone : ∀ n, heap.has n = true → heap.behind[n]? ≠ some supplied.1
  /-- No other slot has it. -/
  single : ∀ other, other ≠ slot → heap.inSlot other ≠ some supplied.1

/-- Another object is supplied. -/
theorem Sound.supplies_another (h : heap.Sound) {slot : Nat} {id : BatchId}
    (next : heap.desk.ring.nextId slot = id) (index : id.index.toNat = slot) (queue : Queue) :
    heap.Supplies slot queue (heap.objects.length, heap.objects ++ [.new id queue]) where
  shown := by simp [next]
  index := by rw [next, index]
  others := by
    intro d _ batch shown
    exact getElem?_concat_eq_some.2 (.inl shown)
  length := by simp
  alone := by
    intro n _ behind
    exact Nat.lt_irrefl _ (h.made _ (List.mem_of_getElem? behind))
  single := by
    intro other _ has
    obtain ⟨batch, shown, -⟩ := h.slotted other _ has
    exact Nat.lt_irrefl _ (List.getElem?_eq_some_iff.1 shown).1

/-- A slot that is handed out gets an object that nobody else has, whether it is the one that the
slot had before or another one. -/
theorem Sound.supplies (h : heap.Sound) {slot : Nat}
    (search : heap.desk.ring.slots.firstFree? 0 = some slot) (others : BatchId → Bool)
    (queue : Queue) :
    heap.Supplies slot queue
      (heap.supply ((heap.inSlot slot).any (heap.isShared others)) slot queue) := by
  unfold supply
  cases former : heap.former? slot with
  | none =>
    -- A slot that was never handed out gets the first object of its own.
    have none := h.unused slot (h.former?_eq_none former)
    have bound := (Slot.Pool.firstFree?_eq_some h.orderly.whole search).1
    refine h.supplies_another ?_ ?_ queue
    · unfold FrameRing.nextId
      rw [none]
    · exact UInt32.toNat_ofNat_of_lt' (Nat.lt_trans bound (by decide))
  | some found =>
    obtain ⟨c, batch⟩ := found
    obtain ⟨has, shown⟩ := former?_eq_some former
    obtain ⟨other, shown', value, index⟩ := h.slotted slot c has
    cases shown.symm.trans shown'
    have next : heap.desk.ring.nextId slot = batch.id.next := by
      unfold FrameRing.nextId
      rw [value]
    dsimp only
    split
    -- The object is shared with a handle, so the slot gets another one.
    · exact h.supplies_another next index queue
    · rename_i unshared
      refine {
        shown := ?shown
        index := by rw [next]; exact index
        others := ?others
        length := by simp
        alone := ?alone
        single := ?single }
      case shown =>
        rw [List.getElem?_set_self (List.getElem?_eq_some_iff.1 shown).1, next,
          Batch.reset_eq_new]
      case others =>
        intro d apart batch' shown'
        exact (List.getElem?_set_ne apart.symm).trans shown'
      -- Nobody has the object, for the slot would have passed it over.
      case alone =>
        intro n has' behind
        rw [has, Option.any_some, isShared_of_has has' behind] at unshared
        exact unshared rfl
      case single =>
        intro other apart has'
        obtain ⟨batch', shown', -, index'⟩ := h.slotted other c has'
        cases shown.symm.trans shown'
        exact apart (index'.symm.trans index)

/-- A slot that is handed out keeps the heap sound. What the other submissions show does not change,
since none of them has the object that was supplied. -/
theorem Sound.lend (h : heap.Sound) {slot : Nat}
    (search : heap.desk.ring.slots.firstFree? 0 = some slot) {queue : Queue}
    {supplied : Nat × List Batch} (supplies : heap.Supplies slot queue supplied) :
    (heap.lend slot queue supplied).Sound := by
  have value (other : Nat) :
      (heap.lend slot queue supplied).desk.ring.slots.values.find? other = _ :=
    FrameRing.find?_handOut h.orderly.whole search queue other
  have has (n : Nat) (has : (heap.lend slot queue supplied).has n = true) : heap.has n = true :=
    has_iff.2 ((has_iff.1 has).imp_right FrameRing.keeps_handOut)
  have inSlot (other : Nat) : (heap.lend slot queue supplied).inSlot other =
      if other = slot then some supplied.1 else heap.inSlot other := Function.update_apply ..
  refine {
    orderly := ⟨h.orderly.numbered, h.orderly.whole.take slot⟩
    counted := h.counted
    made := ?made
    known := h.known
    slotted := ?slotted
    unused := ?unused
    lent := ?lent
    intact := ?intact
    apart := ?apart }
  case made =>
    intro c mem
    exact Nat.lt_of_lt_of_le (h.made c mem) supplies.length
  -- The slot has the supplied object, and the other slots keep theirs, which are other objects.
  case slotted =>
    intro other c has'
    rw [inSlot] at has'
    rw [value]
    by_cases same : other = slot
    · rw [if_pos same] at has' ⊢
      cases has'
      exact ⟨_, supplies.shown, rfl, supplies.index.trans same.symm⟩
    · rw [if_neg same] at has' ⊢
      obtain ⟨batch, shown, value', index⟩ := h.slotted other c has'
      have apart : c ≠ supplied.1 := by
        rintro rfl
        exact supplies.single other same has'
      exact ⟨batch, supplies.others c apart batch shown, value', index⟩
  case unused =>
    intro other none
    rw [inSlot] at none
    rw [value]
    split at none
    · cases none
    · rename_i apart
      rw [if_neg apart]
      exact h.unused other none
  case lent =>
    rintro draft ⟨⟩
    exact ⟨supplied.1, rfl, supplies.shown, fun n has' => supplies.alone n (has n has')⟩
  -- Submissions that are in use do not have the supplied object, so theirs is as it was.
  case intact =>
    intro n submission has' found
    obtain ⟨c, behind, shown⟩ := h.intact n submission (has n has') found
    have apart : c ≠ supplied.1 := by
      rintro rfl
      exact supplies.alone n (has n has') behind
    exact ⟨c, behind, supplies.others c apart _ shown⟩
  case apart =>
    intro m n c has' has''
    exact h.apart m n c (has m has') (has n has'')

/-! ## Beginning a batch

The object of the batch that is open becomes that of a submission. As long as the batch was open
nobody had the object, and that is what keeps objects apart. -/

/-- Beginning the batch that is open keeps the heap sound. The object passes from the batch that was
open to its submission, and the caller holds it. -/
theorem Sound.join (h : heap.Sound) {draft : FrameRing.Draft} {c : Nat}
    (held : heap.desk.draft = some draft) (lent : heap.lent = some c) (label : String) :
    (heap.join draft label c).Sound := by
  obtain ⟨d, lent', shown, alone⟩ := h.lent draft held
  cases lent.symm.trans lent'
  let after := heap.join draft label c
  have submissions : after.desk.ring.submissions =
      heap.desk.ring.submissions ++ [(heap.desk.ring.beginBatch draft label).1] := rfl
  have had {n : Nat} (old : n < heap.behind.length) (has : after.has n = true) :
      heap.has n = true := by
    rcases has_iff.1 has with mem | kept
    · rcases List.mem_append.1 mem with mem | mem
      · exact has_of_held mem
      · exact absurd (List.mem_singleton.1 mem) (Nat.ne_of_lt old)
    · rcases FrameRing.keeps_beginBatch kept with kept | last
      · exact has_iff.2 (.inr kept)
      · exact absurd (last.trans h.counted.symm) (Nat.ne_of_lt old)
  -- The object of the new submission is that of the batch that was open, which nobody else has.
  have behind {n d : Nat} (has : after.has n = true) (at' : after.behind[n]? = some d) :
      heap.has n = true ∧ heap.behind[n]? = some d ∧ d ≠ c ∨ n = heap.behind.length ∧ d = c := by
    have at' : (heap.behind ++ [c])[n]? = some d := at'
    rcases getElem?_concat_eq_some.1 at' with old | ⟨last, same⟩
    · have had := had (List.getElem?_eq_some_iff.1 old).1 has
      exact .inl ⟨had, old, fun same => alone n had (same ▸ old)⟩
    · exact .inr ⟨last, same.symm⟩
  refine {
    orderly := ⟨FrameRing.numbered_beginBatch h.orderly.numbered draft label, h.orderly.whole⟩
    counted := ?counted
    made := ?made
    known := ?known
    slotted := h.slotted
    unused := h.unused
    lent := nofun
    intact := ?intact
    apart := ?apart }
  case counted =>
    show (heap.behind ++ [c]).length = after.desk.ring.submissions.length
    rw [submissions, List.length_append, List.length_append, h.counted]
    rfl
  case made =>
    intro d mem
    rcases List.mem_append.1 mem with mem | mem
    · exact h.made d mem
    · rw [List.mem_singleton.1 mem]
      exact (List.getElem?_eq_some_iff.1 shown).1
  case known =>
    intro n mem
    show n < after.desk.ring.submissions.length
    rw [submissions, List.length_append, List.length_singleton]
    rcases List.mem_append.1 mem with mem | mem
    · exact Nat.lt_succ_of_lt (h.known n mem)
    · rw [List.mem_singleton.1 mem, h.counted]
      exact Nat.lt_succ_self _
  case intact =>
    intro n submission has found
    have found : after.desk.ring.submissions[n]? = some submission := found
    rw [submissions] at found
    show ∃ d, (heap.behind ++ [c])[n]? = some d ∧ heap.objects[d]? = some submission.batch
    rcases getElem?_concat_eq_some.1 found with old | ⟨last, same⟩
    · have bound := (List.getElem?_eq_some_iff.1 old).1
      rw [← h.counted] at bound
      obtain ⟨d, at', shown⟩ := h.intact n submission (had bound has) old
      exact ⟨d, getElem?_concat_eq_some.2 (.inl at'), shown⟩
    · refine ⟨c, getElem?_concat_eq_some.2 (.inr ⟨last.trans h.counted.symm, rfl⟩), ?_⟩
      rw [← same]
      exact shown
  -- Two submissions in use with one object are both earlier ones or both the new one.
  case apart =>
    intro m n d has' has'' behind' behind''
    rcases behind has' behind' with ⟨had, at', apart⟩ | ⟨last, same⟩ <;>
      rcases behind has'' behind'' with ⟨had', at'', apart'⟩ | ⟨last', same'⟩
    · exact h.apart m n d had had' at' at''
    · exact absurd same' apart
    · exact absurd same apart'
    · exact last.trans last'.symm

/-! ## All deeds

The cases above are put together by what a deed does. -/

/-- **Every change keeps the heap sound.** -/
theorem Sound.change (h : heap.Sound) {deed : Deed} {after : Heap}
    (change : Change heap deed after) : after.Sound := by
  -- Dropping and fetching change only what is held. The other changes act on the ring.
  cases change with
  | still => exact h
  | dropped =>
    refine h.rehold (fun n mem => ?_) fun n mem => ?_
    · exact has_of_held (List.mem_filter.1 mem).1
    · exact h.known n (List.mem_filter.1 mem).1
  | fetched _ looked =>
    obtain ⟨-, mem, kept⟩ := FrameRing.keeps_of_find? looked
    refine h.rehold (fun n mem' => ?_) fun n mem' => ?_
    · rcases List.mem_append.1 mem' with mem' | new
      · exact has_of_held mem'
      · rw [List.mem_singleton.1 new]
        exact has_iff.2 (.inr kept)
    · rcases List.mem_append.1 mem' with mem' | new
      · exact h.known n mem'
      · rw [List.mem_singleton.1 new]
        exact (List.getElem?_eq_some_iff.1 (h.orderly.getElem?_serial mem)).1
  | performed _ calm permitted => exact h.performed calm permitted
  | opened _ _ search => exact h.lend search (h.supplies search _ _)
  | begun _ held lent => exact h.join held lent _

/-- Every run keeps objects apart, by induction on the deeds. -/
theorem Sound.run (h : heap.Sound) (deeds : List Deed) : (heap.run deeds).Sound := by
  induction deeds using List.reverseRecOn with
  | nil => exact h
  | append_singleton deeds deed ih =>
    rw [run_append]
    exact ih.change (change_step ih.orderly deed)

/-! ## What becomes of a batch that is held

To hold a batch is to keep it from changing under one's hands. It is changed by acts on it alone,
and its status moves forward, until it is let go. -/

/-- A batch that is held stays held until callers let go of it. Callers let go of batches by deeds
of their own. -/
theorem Change.held {deed : Deed} {after : Heap} (change : Change heap deed after) {n : Nat}
    (mem : n ∈ heap.held) (keeps : deed ≠ .drop n) : n ∈ after.held := by
  cases change with
  | still => exact mem
  | dropped which =>
    refine List.mem_filter.2 ⟨mem, bne_iff_ne.2 ?_⟩
    rintro rfl
    exact keeps which
  | fetched => exact List.mem_append_left _ mem
  | performed | opened => exact mem
  | begun => exact List.mem_append_left _ mem

/-- What one deed makes of a submission. -/
theorem Change.later {deed : Deed} {after : Heap} (change : Change heap deed after)
    (orderly : heap.desk.Orderly) {n : Nat} {submission : Submission}
    (found : heap.desk.ring.submissions[n]? = some submission) :
    ∃ later, after.desk.ring.submissions[n]? = some later ∧ Later submission later ∧
      (deed.target? ≠ some n → later.batch = submission.batch) := by
  have still : Later submission submission ∧
      (deed.target? ≠ some n → submission.batch = submission.batch) :=
    ⟨.refl submission, fun _ => rfl⟩
  cases change with
  | still | dropped | fetched => exact ⟨submission, found, still⟩
  | performed which =>
    subst which
    obtain ⟨later, found', stays, batch⟩ := getElem?_step orderly.numbered found _
    exact ⟨later, found', stays, fun other => batch.trans (if_neg other)⟩
  | opened => exact ⟨submission, found, still⟩
  | begun => exact ⟨submission, getElem?_concat_eq_some.2 (.inl found), still⟩

/-- A caller holds a submission until it lets go of it. -/
theorem Sound.held_run (h : heap.Sound) {n : Nat} (mem : n ∈ heap.held) {deeds : List Deed}
    (keeps : .drop n ∉ deeds) : n ∈ (heap.run deeds).held := by
  induction deeds using List.reverseRecOn with
  | nil => exact mem
  | append_singleton deeds deed ih =>
    rw [run_append]
    refine (change_step (h.run deeds).orderly deed).held
      (ih fun mem => keeps (List.mem_append_left _ mem)) ?_
    rintro rfl
    exact keeps (List.mem_append_right _ List.mem_cons_self)

/-- What several deeds make of a submission. -/
theorem Sound.later_run (h : heap.Sound) {n : Nat} {submission : Submission}
    (found : heap.desk.ring.submissions[n]? = some submission) (deeds : List Deed) :
    ∃ later, (heap.run deeds).desk.ring.submissions[n]? = some later ∧ Later submission later ∧
      ((∀ deed ∈ deeds, deed.target? ≠ some n) → later.batch = submission.batch) := by
  induction deeds using List.reverseRecOn with
  | nil => exact ⟨submission, found, .refl submission, fun _ => rfl⟩
  | append_singleton deeds deed ih =>
    obtain ⟨middle, found', first, same⟩ := ih
    have orderly := (h.run deeds).orderly
    obtain ⟨later, found'', last, same'⟩ := (change_step orderly deed).later orderly found'
    rw [run_append]
    refine ⟨later, found'', first.trans last, fun others => ?_⟩
    rw [same' (others deed (List.mem_append_right _ List.mem_cons_self)),
      same fun deed mem => others deed (List.mem_append_left _ mem)]

end

end Heap

end GpuSync.Desk
