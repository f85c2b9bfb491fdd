import GpuSync.Proofs.Slot.Conservation
import Mathlib.Tactic.Common

/-!
# Where slots are assigned

An assignment with a seed searches the pool for a free slot. Which one it gets depends on nothing
but the slots that are taken, in whatever way the pool came to have them: by calls, and by closures
that assign further slots or give up.

* `Slot.Used` is what the journal says of a slot since the last release, `Pool.isStored` whether a
  chunk has storage, and `Slot.Backed` relates them.
* `Slot.Follows` relates two points of a pool between which closures ran. `Closure.ranges` shows it
  for all points of a closure.
* `Slot.Allocates` is what an assignment with a seed does, and **`Slot.slots_in_order`** shows it
  for every pool that calls and closures lead to.
-/

namespace GpuSync.Slot

variable {shape : Shape} {β : Type}

/-! ## Slots used since the last release

Slots that were given back count as used. A chunk keeps its storage until the whole pool is
released, whether or not any of its slots is taken. -/

/-- A slot was taken, and the pool not released since. -/
def Used (journal : List (Event β)) (i : Nat) : Prop :=
  ∃ before after, journal = before ++ .claimed i :: after ∧ .released ∉ after

/-- No slot was used before anything happened. -/
theorem not_used_nil (i : Nat) : ¬Used ([] : List (Event β)) i := by
  simp [Used]

/-- A slot was used if it was taken last, or used before with no release since. -/
theorem used_append (journal : List (Event β)) (event : Event β) (i : Nat) :
    Used (journal ++ [event]) i ↔ event = .claimed i ∨ event ≠ .released ∧ Used journal i := by
  constructor
  · rintro ⟨before, after, split, kept⟩
    rcases split_snoc split with ⟨-, same, -⟩ | ⟨earlier, rfl, known⟩
    · exact .inl same.symm
    · simp only [List.mem_append, List.mem_singleton, not_or] at kept
      exact .inr ⟨Ne.symm kept.2, before, earlier, known, kept.1⟩
  · rintro (rfl | ⟨apart, before, after, rfl, kept⟩)
    · exact ⟨journal, [], rfl, List.not_mem_nil⟩
    · refine ⟨before, after ++ [event], by simp, ?_⟩
      simp [kept, Ne.symm apart]

/-- Events that take no slot and are no release. -/
theorem used_append_of_ne (journal : List (Event β)) {more : List (Event β)} (i : Nat)
    (other : ∀ event ∈ more, (∀ j, event ≠ .claimed j) ∧ event ≠ .released) :
    Used (journal ++ more) i ↔ Used journal i := by
  induction more generalizing journal with
  | nil => rw [List.append_nil]
  | cons event rest ih =>
    rw [List.forall_mem_cons] at other
    obtain ⟨⟨takes, keeps⟩, other⟩ := other
    rw [List.append_cons, ih (journal ++ [event]) other, used_append]
    simp [takes i, keeps]

/-! ## Storage

Storage is obtained for a chunk as one of its slots is first taken. The only events that change
which chunks have any are taking a slot and releasing the pool. -/

namespace Pool

variable {α : Type} {pool : Pool shape α}

/-- Whether a chunk has storage. -/
def isStored (pool : Pool shape α) (c : Nat) : Bool :=
  match pool.chunks[c]? with
  | some chunk => chunk.stored
  | none => false

/-- A chunk that was never used has no storage. -/
theorem isStored_empty (c : Nat) : (empty : Pool shape α).isStored c = false := by
  unfold isStored empty
  split
  · rename_i chunk found
    obtain rfl := (List.mem_replicate.1 (List.mem_of_getElem? found)).2
    rfl
  · rfl

/-- Taking a slot gives its chunk storage, freeing it takes none away. -/
theorem isStored_mark (h : pool.Whole) {i : Nat} (taken : Bool) (hi : i < shape.capacity)
    (c : Nat) :
    (pool.mark i taken).isStored c =
      (pool.isStored c || (taken && decide (i / shape.chunkSize = c))) := by
  obtain ⟨chunk, found⟩ := h.chunk hi
  simp only [isStored, mark, chunksAfter, List.getElem?_modify]
  by_cases same : i / shape.chunkSize = c
  · simp [← same, found, Chunk.stored_mark]
  · simp [same]

/-- Giving all slots back keeps the storage. -/
theorem isStored_freeAll (pool : Pool shape α) (c : Nat) :
    pool.freeAll.isStored c = pool.isStored c := by
  unfold isStored freeAll
  rw [List.getElem?_map]
  cases pool.chunks[c]? <;> rfl

/-- To change a value touches no chunk. -/
theorem chunks_modify (pool : Pool shape α) (i : Nat) (f : α → α) :
    (pool.modify i f).chunks = pool.chunks := by
  unfold modify
  split <;> rfl

end Pool

/-- The chunks with storage are those with a slot used since the last release. Freed slots keep the
storage of their chunk. -/
structure Backed (run : Run shape β) : Prop where
  /-- The pool has the chunks of its shape. -/
  whole : run.pool.Whole
  /-- A chunk has storage exactly if one of its slots was used. -/
  stored : ∀ c, run.pool.isStored c = true ↔
    ∃ i, i / shape.chunkSize = c ∧ Used run.journal i

/-- A new pool has no storage, and its journal is empty. -/
theorem backed_empty : Backed ({} : Run shape β) where
  whole := Pool.whole_empty
  stored c := by
    rw [Pool.isStored_empty]
    simp [not_used_nil]

namespace Backed

variable {run after : Run shape β}

/-- What changes values only. -/
theorem same (h : Backed run) (chunks : after.pool.chunks = run.pool.chunks)
    (used : ∀ i, Used after.journal i ↔ Used run.journal i) : Backed after where
  whole := (congrArg List.length chunks).trans h.whole
  stored c := by
    have stored : after.pool.isStored c = run.pool.isStored c := by
      rw [Pool.isStored, Pool.isStored, chunks]
    simp only [stored, h.stored c, used]

/-- Taking a slot. -/
theorem claim (h : Backed run) {i : Nat} (hi : i < shape.capacity) : Backed (run.claim i) where
  whole := h.whole.take i
  stored c := by
    simp only [Run.claim, Pool.take, Pool.isStored_mark h.whole true hi, used_append,
      Bool.or_eq_true, h.stored c, Bool.true_and, decide_eq_true_eq]
    constructor
    · rintro (⟨j, chunk, used⟩ | chunk)
      · exact ⟨j, chunk, .inr ⟨by simp, used⟩⟩
      · exact ⟨i, chunk, .inl rfl⟩
    · rintro ⟨j, chunk, same | ⟨-, used⟩⟩
      · cases same
        exact .inr chunk
      · exact .inl ⟨j, chunk, used⟩

end Backed

/-! ## While closures run

A closure may assign other slots, so a chunk may get its storage in the middle of a call. What
closures can do is a part of what calls can do: they free and release nothing. -/

/-- What may happen while a closure runs: slots are taken, and values made and changed. -/
def Event.Inside : Event β → Prop
  | .claimed _ | .made .. | .changed .. => True
  | .freed _ | .freedAll | .released => False

/-- What a pool comes to while closures run. It starts in one state and ends in another, and what
happened between them is in the journal. -/
structure Follows (run after : Run shape β) : Prop where
  /-- The storage goes with the journal. -/
  backed : Backed after
  /-- The journal goes on. -/
  grows : ∃ more, after.journal = run.journal ++ more ∧ ∀ event ∈ more, event.Inside

namespace Follows

variable {run mid after : Run shape β}

/-- Nothing happened, and the storage goes with the journal as it did. -/
theorem refl (h : Backed run) : Follows run run :=
  ⟨h, [], (List.append_nil _).symm, by simp⟩

/-- What closures do in turn may be done by one. -/
theorem trans (first : Follows run mid) (second : Follows mid after) : Follows run after := by
  obtain ⟨more, eq, inside⟩ := first.grows
  obtain ⟨more', eq', inside'⟩ := second.grows
  refine ⟨second.backed, more ++ more', by rw [eq', eq, List.append_assoc], ?_⟩
  intro event mem
  exact (List.mem_append.1 mem).elim (inside event) (inside' event)

/-- A run whose chunks and journal are the same has its storage in order, too. -/
theorem same (h : Backed run) (chunks : after.pool.chunks = run.pool.chunks)
    (journal : after.journal = run.journal) : Follows run after :=
  ⟨h.same chunks fun i => by rw [journal], [], by rw [journal, List.append_nil], by simp⟩

/-- One value is made or changed. -/
theorem value (h : Backed run) {event : Event β} (chunks : after.pool.chunks = run.pool.chunks)
    (journal : after.journal = run.journal ++ [event]) (inside : event.Inside)
    (takes : ∀ j, event ≠ .claimed j) : Follows run after := by
  refine ⟨h.same chunks fun i => ?_, [event], journal, by simpa using inside⟩
  rw [journal]
  refine used_append_of_ne _ i fun other mem => ?_
  cases List.mem_singleton.1 mem
  exact ⟨takes, by rintro rfl; exact inside⟩

/-- To take a slot gives its chunk storage, and enters the slot. -/
theorem claim (h : Backed run) {i : Nat} (hi : i < shape.capacity) : Follows run (run.claim i) :=
  ⟨h.claim hi, [.claimed i], rfl, by simp [Event.Inside]⟩

end Follows

/-- What a closure comes to that is run at a point. -/
structure Ranges (run : Run shape β) (ran : Ran shape β) : Prop where
  /-- It starts there. -/
  starts : ∃ rest, ran.points = run :: rest
  /-- So does whatever it goes through. -/
  points : ∀ point ∈ ran.points, Follows run point
  /-- So does its end. -/
  ends : ∀ dropped, Follows run ⟨ran.making.pool, ran.journal, dropped⟩

namespace Ranges

variable {run mid : Run shape β} {ran : Ran shape β}

/-- A closure that ends where it is. -/
theorem stop (h : Backed run) {journal : List (Event β)} {value : Option (Token β)}
    (ends : ∀ dropped, Follows run ⟨run.pool, journal, dropped⟩) :
    Ranges run ⟨⟨value, run.pool, []⟩, journal, [run]⟩ where
  starts := ⟨[], rfl⟩
  points point mem := by
    rw [List.mem_singleton.1 mem]
    exact .refl h
  ends := ends

/-- A closure that goes on. -/
theorem precede (h : Backed run) (ranges : Ranges mid ran) (follows : Follows run mid)
    {points : List (Run shape β)} (before : ∀ point ∈ points, Follows run point)
    (dropped : List (Token β)) : Ranges run (ran.precede (run :: points) dropped) where
  starts := ⟨points ++ ran.points, rfl⟩
  points point mem := by
    rcases List.mem_append.1 mem with mem | mem
    · rcases List.mem_cons.1 mem with rfl | mem
      · exact .refl h
      · exact before point mem
    · exact follows.trans (ranges.points point mem)
  ends dropped := follows.trans (ranges.ends dropped)

end Ranges

/-- An assignment leaves the chunks and the journal as its closure does. -/
theorem Claims.leaves {run : Run shape β} {way : Way} {make : Nat → Runner shape β}
    {reuse : β → Nat → Runner shape β} {assigned : Assigned shape β}
    (claims : Claims way make reuse run assigned) :
    ∃ ran, run.pool.claim? way = .ok assigned.assignment.index ∧
      (ran = make assigned.assignment.index (run.claim assigned.assignment.index) ∨
        ∃ content, ran = reuse content assigned.assignment.index
          (run.claim assigned.assignment.index)) ∧
      assigned.points = ran.points ∧ assigned.after.journal = ran.journal ∧
      assigned.after.pool.chunks = ran.making.pool.chunks := by
  cases claims with
  | @makes i ran claims _ runs =>
    have index : (run.conclude ((run.pool.take i).construct i fun _ _ => ran.making)
        ran).assignment.index = i := Pool.index_construct ..
    rw [index]
    refine ⟨ran, claims, .inl runs, rfl, rfl, ?_⟩
    simp only [Run.conclude, Pool.construct]
    split <;> simp [Pool.store, *]
  | @reuses i old ran claims _ runs =>
    have index : (run.conclude ((run.pool.take i).handOver i old fun _ _ _ => ran.making)
        ran).assignment.index = i := Pool.index_handOver ..
    rw [index]
    refine ⟨ran, claims, .inr ⟨_, runs⟩, rfl, rfl, ?_⟩
    simp only [Run.conclude, Pool.handOver]
    split <;> rfl

/-- An assignment goes on from the point that its closure starts at, if that comes to such
points. -/
theorem Run.assignBy_follows {run : Run shape β} (h : Backed run) {way : Way}
    {make : Nat → Runner shape β} {reuse : β → Nat → Runner shape β}
    (makes : ∀ i start, Backed start → Ranges start (make i start))
    (reuses : ∀ content i start, Backed start → Ranges start (reuse content i start))
    {assigned : Assigned shape β} (ok : run.assignBy way make reuse = .ok assigned) :
    Follows (run.claim assigned.assignment.index) assigned.after ∧
      (∃ rest, assigned.points = run.claim assigned.assignment.index :: rest) ∧
      (∀ point ∈ assigned.points, Follows (run.claim assigned.assignment.index) point) ∧
      assigned.assignment.index < shape.capacity ∧
      run.pool.claim? way = .ok assigned.assignment.index := by
  obtain ⟨ran, claims, runs, points, journal, chunks⟩ := (Run.claims_assignBy ok).leaves
  have hi := (Pool.claim?_eq_ok h.whole claims).1
  have ranges : Ranges (run.claim assigned.assignment.index) ran := by
    rcases runs with rfl | ⟨content, rfl⟩
    · exact makes _ _ (h.claim hi)
    · exact reuses _ _ _ (h.claim hi)
  have ends := ranges.ends []
  exact ⟨ends.trans (.same ends.backed chunks journal), points ▸ ranges.starts,
    points ▸ ranges.points, hi, claims⟩

/-- Whatever a closure does, it takes slots, and makes and changes values. -/
theorem Closure.ranges {handed : Bool} (closure : Closure β handed) (slot : Nat) (way : Way)
    {run : Run shape β} (h : Backed run) : Ranges run (closure.run slot way run) := by
  -- On the closure. Making and changing values uses no slot, so only nested assignments add to what
  -- is used.
  induction closure generalizing slot way run with
  | make content =>
    exact .stop h fun _ => .value h rfl rfl trivial nofun
  | leave => exact .stop h fun _ => .same h rfl rfl
  | change content next ih =>
    have follows : Follows run
        { run with
          pool := run.pool.modify slot (·.setContent content)
          journal := run.journal ++ [.changed slot content] } :=
      .value h (run.pool.chunks_modify slot _) rfl trivial nofun
    exact (ih slot way follows.backed).precede h follows (by simp) []
  | giveUp => exact .stop h fun _ => .same h rfl rfl
  | look i next ih => exact (ih _ slot way h).precede h (.refl h) (by simp) []
  | assign way' maker reuse next ihm ihr ih =>
    rw [Closure.run]
    cases result : run.assignBy way' (fun i => (maker i).run i way')
      (fun content i => (reuse content i).run i way') with
    | error error => exact (ih _ slot way h).precede h (.refl h) (by simp) []
    | ok assigned =>
      obtain ⟨ends, -, points, hi, -⟩ := Run.assignBy_follows h
        (fun i _ => ihm i i way') (fun content i _ => ihr content i i way') result
      have starts := Follows.claim h hi
      exact (ih _ slot way ends.backed).precede h (starts.trans ends)
        (fun point mem => starts.trans (points point mem)) _

/-! ## Calls

A call is followed point by point, since its closures may look at the pool at every point in
between. -/

namespace Backed

variable {run : Run shape β}

/-- An assignment that succeeds starts with its slot taken and, whatever its closure does, keeps the
storage in order. -/
theorem assigned (h : Backed run) {way : Way} {maker : Nat → Closure β false}
    {reuse : β → Nat → Closure β true} {assigned : Assigned shape β}
    (ok : run.assign way maker reuse = .ok assigned) :
    Follows (run.claim assigned.assignment.index) assigned.after ∧
      (∃ rest, assigned.points = run.claim assigned.assignment.index :: rest) ∧
      (∀ point ∈ assigned.points, Follows (run.claim assigned.assignment.index) point) ∧
      assigned.assignment.index < shape.capacity ∧
      run.pool.claim? way = .ok assigned.assignment.index :=
  Run.assignBy_follows h (fun i _ => (maker i).ranges i way)
    (fun content i _ => (reuse content i).ranges i way) ok

/-- After every call the chunks with storage are those with a slot used since the last release. -/
theorem next (h : Backed run) (call : Call β) : Backed (run.next call) := by
  cases call with
  | assign way maker reuse =>
    rw [Run.next]
    cases result : run.assign way maker reuse with
    | error error => exact h
    | ok assigned => exact (h.assigned result).1.backed
  | unassign i =>
    by_cases taken : run.pool.isAssigned i = true
    -- Giving a slot back frees no storage.
    · have stays (c : Nat) : (run.pool.mark i false).isStored c = run.pool.isStored c := by
        simp [Pool.isStored_mark h.whole false (h.whole.lt_capacity taken)]
      simp only [Run.next, Pool.unassign, taken, if_true]
      refine ⟨h.whole.mark i false, fun c => ?_⟩
      simp only [stays, h.stored c, used_append, reduceCtorEq, false_or, ne_eq, not_false_eq_true,
        true_and]
    · simpa [Run.next, Pool.unassign, taken] using h
  | modify i change =>
    refine h.same (run.pool.chunks_modify i _) fun j => ?_
    rw [Run.next]
    cases run.pool.get? i with
    | none => rfl
    | some token => simp [used_append]
  | unassignAll visit =>
    have freed : Backed { run with pool := run.pool.freeAll } :=
      ⟨h.whole.freeAll, fun c => (run.pool.isStored_freeAll c).symm ▸ h.stored c⟩
    refine freed.same rfl fun i => ?_
    rw [Run.next, List.append_assoc]
    refine used_append_of_ne run.journal i fun event mem => ?_
    rcases List.mem_append.1 mem with mem | mem
    · obtain ⟨entry, -, rfl⟩ := List.mem_map.1 mem
      simp
    · simp [List.mem_singleton.1 mem]
  | release =>
    refine ⟨Pool.whole_empty, fun c => ?_⟩
    have gone : run.pool.release.2.isStored c = false := Pool.isStored_empty c
    simp [gone, Run.next, used_append]

/-- The storage is in order whenever a closure of a call goes on. -/
theorem within (h : Backed run) (call : Call β) : ∀ point ∈ run.within call, Backed point := by
  intro point mem
  cases call with
  | assign way maker reuse =>
    rw [Run.within] at mem
    cases result : run.assign way maker reuse with
    | error error => simp [result] at mem
    | ok assigned =>
      rw [result] at mem
      exact ((h.assigned result).2.2.1 point mem).backed
  | _ => simp [Run.within] at mem

end Backed

/-- The storage is in order after every run, by induction on the calls. -/
theorem backed_run (calls : List (Call β)) : Backed (Slot.run calls : Run shape β) :=
  List.foldlRecOn calls Run.next backed_empty fun _ h call _ => h.next call

/-! ## Assignments with a seed

The search of a nested assignment starts from the pool with the outer slot taken. So its first free
slot is that of the pool at that point, and the order of the search is the same at every depth. -/

/-- The seed that an assignment searches with. -/
def Way.seed? : Way → Option Nat
  | .anew seed | .again seed => some seed
  | .there _ => none

/-- What closures take is taken in addition. -/
theorem taken_account_append (capacity : Nat) (journal : List (Event β)) {more : List (Event β)}
    (inside : ∀ event ∈ more, event.Inside) (j : Nat) :
    (account capacity (journal ++ more)).taken j = true ↔
      (account capacity journal).taken j = true ∨ .claimed j ∈ more := by
  induction more generalizing journal with
  | nil => simp
  | cons event rest ih =>
    rw [List.forall_mem_cons] at inside
    obtain ⟨here, inside⟩ := inside
    have entered : account capacity (journal ++ [event]) =
        (account capacity journal).enter capacity event := by
      simp [account]
    rw [List.append_cons, ih (journal ++ [event]) inside, entered, List.mem_cons]
    cases event with
    | claimed i =>
      by_cases same : j = i
      · simp [Account.enter, same]
      · simp [Account.enter, same]
    | made way i content => simp [Account.enter]
    | changed i content => simp [Account.enter]
    | freed i => cases here
    | freedAll | released => cases here

/-- What an assignment with a seed does that gets a slot. -/
structure Run.Claims (run : Run shape β) (seed : Nat) (assigned : Assigned shape β) : Prop where
  /-- The slot is the first free one in the order of the search. -/
  first : run.pool.FirstFree seed assigned.assignment.index
  /-- Its closure starts on the pool with that slot taken, -/
  starts : ∃ rest, assigned.points = run.claim assigned.assignment.index :: rest
  /-- and with no other slot taken or freed. -/
  alone : ∀ j, (run.claim assigned.assignment.index).pool.isAssigned j =
    if j = assigned.assignment.index then true else run.pool.isAssigned j
  /-- Whatever is assigned while closures run, the slot is taken by then. -/
  inside : ∀ point ∈ assigned.points, point.pool.isAssigned assigned.assignment.index = true
  /-- The slots taken afterwards are those taken before, the slot, and those that closures took. -/
  after : ∃ more, assigned.after.journal =
      run.journal ++ .claimed assigned.assignment.index :: more ∧
    (∀ event ∈ more, event.Inside) ∧
    ∀ j, assigned.after.pool.isAssigned j = true ↔
      run.pool.isAssigned j = true ∨ j = assigned.assignment.index ∨ .claimed j ∈ more

/-- The slots taken once closures ran in a slot that was claimed. -/
theorem Follows.taken {run after : Run shape β} {i : Nat} (follows : Follows (run.claim i) after)
    (before : Settled run) (settled : Settled after) :
    ∃ more, after.journal = run.journal ++ .claimed i :: more ∧ (∀ event ∈ more, event.Inside) ∧
      ∀ j, after.pool.isAssigned j = true ↔
        run.pool.isAssigned j = true ∨ j = i ∨ .claimed j ∈ more := by
  obtain ⟨more, journal, inside⟩ := follows.grows
  have journal : after.journal = run.journal ++ .claimed i :: more :=
    journal.trans (List.append_cons ..).symm
  have inside' : ∀ event ∈ (.claimed i :: more : List (Event β)), event.Inside :=
    List.forall_mem_cons.2 ⟨trivial, inside⟩
  refine ⟨more, journal, inside, fun j => ?_⟩
  rw [settled.taken, before.taken, Run.account, Run.account, journal,
    taken_account_append _ _ inside', List.mem_cons, Event.claimed.injEq]

/-- The slot that a search with a seed claims. -/
theorem Pool.claim?_of_seed {α : Type} (pool : Pool shape α) {way : Way} {seed : Nat}
    (seeded : way.seed? = some seed) :
    pool.claim? way =
      match pool.firstFree? seed with
      | none => .error (.full shape.capacity)
      | some i => .ok i := by
  cases way with
  | anew other =>
    cases seeded
    rfl
  | again other =>
    cases seeded
    rfl
  | there i => cases seeded

/-- What an assignment with a seed does that gets a slot. -/
theorem Run.claims {run : Run shape β} (settled : Settled run) (backed : Backed run) {way : Way}
    {seed : Nat} (seeded : way.seed? = some seed) {maker : Nat → Closure β false}
    {reuse : β → Nat → Closure β true} {assigned : Assigned shape β}
    (ok : run.assign way maker reuse = .ok assigned) : run.Claims seed assigned := by
  have assigns := settled.assigns ok
  obtain ⟨ends, starts, points, hi, claims⟩ := backed.assigned ok
  rw [run.pool.claim?_of_seed seeded] at claims
  cases search : run.pool.firstFree? seed with
  | none =>
    rw [search] at claims
    cases claims
  | some i =>
    rw [search] at claims
    injection claims with same
    subst same
    refine ⟨Pool.firstFree_of_firstFree? backed.whole search, starts,
      fun j => Pool.isAssigned_take backed.whole j hi, fun point mem => ?_,
      ends.taken settled assigns.settled⟩
    obtain ⟨more, -, -, taken⟩ := (points point mem).taken settled (assigns.points point mem)
    exact (taken _).2 (.inr (.inl rfl))

/-- An assignment with a seed is refused exactly if all slots are taken. -/
theorem Run.assign_eq_error_iff {run : Run shape β} (whole : run.pool.Whole) {way : Way}
    {seed : Nat} (seeded : way.seed? = some seed) (maker : Nat → Closure β false)
    (reuse : β → Nat → Closure β true) (error : PoolError) :
    run.assign way maker reuse = .error error ↔
      error = .full shape.capacity ∧ ∀ i < shape.capacity, run.pool.isAssigned i = true := by
  rw [Run.assign, Run.assignBy, Pool.assignBy_eq, run.pool.claim?_of_seed seeded]
  cases search : run.pool.firstFree? seed with
  | none =>
    have taken : ∀ i < shape.capacity, run.pool.isAssigned i = true := fun i hi =>
      Pool.isAssigned_of_firstFree? whole search hi
    simp only [Except.map, Except.error.injEq]
    exact ⟨fun same => ⟨same.symm, taken⟩, fun refused => refused.1.symm⟩
  | some i =>
    obtain ⟨hi, free⟩ := Pool.firstFree?_eq_some whole search
    simp only [Except.map, reduceCtorEq, false_iff, not_and]
    intro _ all
    rw [all i hi] at free
    cases free

/-- What an assignment with a seed does: it is refused exactly if all slots are taken, and changes
nothing then; otherwise it claims the first free slot in the order of its search. The search is that
of the state in which the assignment is made, which may be inside of another. -/
structure Run.Allocates (run : Run shape β) (way : Way) (seed : Nat)
    (maker : Nat → Closure β false) (reuse : β → Nat → Closure β true) : Prop where
  /-- When it is refused, and why. -/
  refused : ∀ error, run.assign way maker reuse = .error error ↔
    error = .full shape.capacity ∧ ∀ i < shape.capacity, run.pool.isAssigned i = true
  /-- If it is, nothing changes. -/
  unchanged : ∀ error, run.assign way maker reuse = .error error →
    run.next (.assign way maker reuse) = run
  /-- If it is not, it claims a slot. -/
  claims : ∀ assigned, run.assign way maker reuse = .ok assigned →
    run.next (.assign way maker reuse) = assigned.after ∧ run.Claims seed assigned

/-- **Slots are assigned in the order of the search, and none is passed over**, after any calls on
a pool and while the closures of a call run. The chunks with storage are those with a slot used
since the last release. -/
theorem slots_in_order (calls : List (Call β)) (call : Call β) (point : Run shape β)
    (reached : point ∈ Slot.run calls :: (Slot.run calls).within call) :
    (∀ c, point.pool.isStored c = true ↔ ∃ i, i / shape.chunkSize = c ∧ Used point.journal i) ∧
    ∀ way seed maker reuse, way.seed? = some seed → point.Allocates way seed maker reuse := by
  have settled : Settled point := by
    rcases List.mem_cons.1 reached with rfl | mem
    · exact settled_run calls
    · exact (settled_run calls).within call point mem
  have backed : Backed point := by
    rcases List.mem_cons.1 reached with rfl | mem
    · exact backed_run calls
    · exact (backed_run calls).within call point mem
  refine ⟨backed.stored, fun way seed maker reuse seeded => ?_⟩
  refine ⟨Run.assign_eq_error_iff backed.whole seeded maker reuse, fun error refused => ?_,
    fun assigned ok => ⟨?_, Run.claims settled backed seeded ok⟩⟩
  · rw [Run.next, refused]
  · rw [Run.next, ok]

/-- Two chunks of two groups each. -/
def Shape.pair : Shape where
  bits := 7
  chunks := 2
  bits_ge := by decide
  bits_le := by decide
  chunks_pos := by decide
  chunks_le := by decide

/-- An assignment that has an index has succeeded. -/
theorem exists_ok_of_index {result : Except PoolError (Assigned shape β)} {i : Nat}
    (index : result.toOption.map (·.assignment.index) = some i) :
    ∃ assigned, result = .ok assigned ∧ assigned.assignment.index = i := by
  cases result with
  | error error => cases index
  | ok assigned => exact ⟨assigned, rfl, Option.some.inj index⟩

/-- A slot is taken whose maker assigns another one, both with the seed of the second group, where
one is taken already. -/
theorem slots_in_order_nested :
    let run : Run .pair Nat := Slot.run [.assign (.there 64) (fun _ => .giveUp) fun _ _ => .leave]
    let maker (_ : Nat) : Closure Nat false :=
      .assign (.again 1) (fun _ => .make 7) (fun _ _ => .leave) fun _ => .giveUp
    ∃ outer inner, run.assign (.anew 1) maker (fun _ _ => .leave) = .ok outer ∧
      outer.assignment.index = 65 ∧
      (run.claim 65).assign (.again 1) (fun _ => .make 7) (fun _ _ => .leave) = .ok inner ∧
      inner.assignment.index = 66 ∧ (run.claim 65).Claims 1 inner := by
  intro run maker
  obtain ⟨outer, ok, index⟩ : ∃ outer, run.assign (.anew 1) maker (fun _ _ => .leave) = .ok outer ∧
      outer.assignment.index = 65 := exists_ok_of_index (by decide +kernel)
  obtain ⟨inner, ok', index'⟩ : ∃ inner,
      (run.claim 65).assign (.again 1) (fun _ => .make 7) (fun _ _ => .leave) = .ok inner ∧
        inner.assignment.index = 66 := exists_ok_of_index (by decide +kernel)
  have reached : run.claim 65 ∈ run.within (.assign (.anew 1) maker fun _ _ => .leave) := by
    obtain ⟨rest, starts⟩ := ((backed_run _).assigned ok).2.1
    rw [Run.within, ok]
    dsimp only
    rw [starts, index]
    exact .head _
  have allocates := (slots_in_order _ _ (run.claim 65) (.tail _ reached)).2 (.again 1) 1
    (fun _ => .make 7) (fun _ _ => .leave) rfl
  exact ⟨outer, inner, ok, index, ok', index', (allocates.claims inner ok').2⟩

end GpuSync.Slot
