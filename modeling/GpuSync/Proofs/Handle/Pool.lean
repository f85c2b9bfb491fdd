import GpuSync.Handle.Pool
import GpuSync.Proofs.Handle.Parts
import GpuSync.Proofs.Slot.Pool
import Mathlib.Data.List.Induction
import Mathlib.Data.List.Nodup

/-!
# Stale handles

A pool of handles is asked for handles and given handles back, among them some that it does not know
or has got back before. A handle is live from when it is handed out until it is given back.

* `Pool.Run` is a pool with the handles that are live and with a log of what was done.
* `Pool.frees` counts in a log how often an index was given back.
* `Pool.Sound` ties the slots to the live handles: a slot is taken if a live handle has its index,
  and its generation is the number of times it was given back, wrapped around.
* `Pool.Dated` says the same of every handle handed out before, at the time when it was.
* `Pool.Accounted` is a pool with such a log, whatever the log; `Accounted.alloc_cases` and
  `Accounted.free` tell which handles are alive after a request.
* **`Pool.handles_safe`** is the result for all runs.
-/

namespace GpuSync.Handle.Pool

open Slot (Shape)

variable {shape : Shape}

/-! ## Runs

The log tells handles that were handed out from handles that were given back, in order. How often an
index was given back can be counted in it, and the generations are compared with this count. -/

/-- Something done with a pool. -/
inductive Request where
  /-- Asks for a handle; the search for a slot starts at some group. -/
  | alloc (seed : Nat)
  /-- Gives a handle back, whether or not it is live. -/
  | free (handle : Handle)
  deriving DecidableEq

/-- What came of a request. -/
inductive Event where
  /-- A handle was handed out. -/
  | handedOut (handle : Handle)
  /-- There was none to hand out. -/
  | exhausted
  /-- A handle was given back. -/
  | freed (handle : Handle)
  /-- A handle that is not live was passed over. -/
  | ignored (handle : Handle)
  deriving DecidableEq

/-- A pool with what is known of its handles. -/
structure Run (shape : Shape) where
  /-- The pool. -/
  pool : Pool shape
  /-- The handles handed out and not given back since. -/
  live : List Handle := []
  /-- What was done so far, in order. -/
  log : List Event := []

/-- Goes on with one more request. -/
def Run.next (run : Run shape) : Request → Run shape
  | .alloc seed =>
    match run.pool.alloc seed with
    | .error _ => { run with log := run.log ++ [.exhausted] }
    | .ok (handle, pool) =>
      { pool, live := handle :: run.live, log := run.log ++ [.handedOut handle] }
  | .free handle =>
    let (freed, pool) := run.pool.free handle
    { pool
      live := run.live.erase handle
      log := run.log ++ [if freed then .freed handle else .ignored handle] }

/-- Carries requests out in order, on a pool that is new. -/
def run (shape : Shape) (requests : List Request) : Run shape :=
  requests.foldl Run.next { pool := .empty }

/-- A run goes on with the last request. -/
@[simp] theorem run_append (requests : List Request) (request : Request) :
    run shape (requests ++ [request]) = (run shape requests).next request := by
  simp [run]

/-- Whether a handle with some index was given back. -/
def Event.freesIndex (index : UInt32) : Event → Bool
  | .freed handle => handle.index == index
  | _ => false

/-- How often an index was given back. -/
def frees (index : UInt32) (log : List Event) : Nat := log.countP (·.freesIndex index)

/-- Nothing was given back in a log that is empty. -/
@[simp] theorem frees_nil (index : UInt32) : frees index [] = 0 := rfl

/-- How often an index was given back adds up over the parts of a log. -/
theorem frees_append (index : UInt32) (a b : List Event) :
    frees index (a ++ b) = frees index a + frees index b :=
  List.countP_append

/-- The first event counts if it gives the index back. -/
theorem frees_cons (index : UInt32) (event : Event) (log : List Event) :
    frees index (event :: log) = frees index log + if event.freesIndex index then 1 else 0 :=
  List.countP_cons

/-! ## One request

These say what handing out and giving back do to the slots and the generations they hold. They are
the only places where the search for a slot and the packing of a handle are opened. -/

/-- The generation with which a slot is handed out next. -/
def generationAt (pool : Pool shape) (slot : Nat) : UInt32 :=
  (pool.slots.values.find? slot).getD 0

/-- Every index of a pool is one that a handle can have. -/
theorem capacity_le (shape : Shape) : shape.capacity ≤ 1048576 := by
  have chunk : span shape.bits ≤ span 12 := by
    rw [← Nat.add_sub_cancel' shape.bits_le, span_add]
    exact Nat.le_mul_of_pos_right _ (span_pos _)
  have chunks : shape.chunks ≤ 64 := shape.chunks_le
  exact Nat.le_trans (Nat.mul_le_mul chunk chunks) (by decide)

/-- The pool once a slot was handed out, which keeps its generation. -/
def handedOut (pool : Pool shape) (slot : Nat) : Pool shape :=
  ⟨(pool.slots.take slot).store slot (pool.generationAt slot)⟩

/-- The handle to a slot that is free, and the pool once it was handed out. -/
theorem alloc_eq_ok {pool : Pool shape} (whole : pool.slots.Whole) {seed slot : Nat}
    (search : pool.slots.firstFree? seed = some slot) :
    pool.alloc seed =
      .ok (.pack (UInt32.ofNat slot) (pool.generationAt slot), pool.handedOut slot) := by
  obtain ⟨assigned, done, index, kept⟩ :=
    Slot.Pool.assignWith_yielding search (fun _ => (0 : UInt32)) id
  have handed : pool.slots.handed (fun _ => 0) id slot = pool.generationAt slot := by
    unfold Slot.Pool.handed generationAt
    cases pool.slots.values.find? slot <;> rfl
  have bound : slot < span (shape.bits + 6) :=
    Nat.lt_of_lt_of_le (Slot.Pool.firstFree?_eq_some whole search).1 shape.capacity_le_span
  have value : assigned.pool.values.find? slot = some (pool.generationAt slot) := by
    rw [kept, handed]
    exact ((pool.slots.take slot).values.find?_insert slot _ bound).trans (if_pos rfl)
  have done : pool.slots.assignWith seed (Slot.Pool.yielding 0) Slot.Pool.yielding =
      .ok assigned := done
  unfold alloc
  rw [done]
  show Except.ok (Handle.pack (UInt32.ofNat assigned.index)
    ((assigned.pool.values.find? assigned.index).getD 0), (⟨assigned.pool⟩ : Pool shape)) = _
  rw [index, value, kept, handed]
  rfl

/-- Without a free slot there is no handle. -/
theorem alloc_eq_error {pool : Pool shape} {seed : Nat}
    (search : pool.slots.firstFree? seed = none) :
    pool.alloc seed = .error (.full shape.capacity) := by
  unfold alloc Slot.Pool.assignWith
  rw [search]
  rfl

/-- Handing a slot out takes that slot and no other. -/
theorem isAssigned_handedOut {pool : Pool shape} (whole : pool.slots.Whole) {slot : Nat}
    (bound : slot < shape.capacity) (other : Nat) :
    (pool.handedOut slot).slots.isAssigned other =
      if other = slot then true else pool.slots.isAssigned other :=
  Slot.Pool.isAssigned_take whole other bound

/-- A slot that is handed out holds the generation it had, and no other slot changes. -/
theorem get?_handedOut {pool : Pool shape} (whole : pool.slots.Whole) {slot : Nat}
    (bound : slot < shape.capacity) (other : Nat) :
    (pool.handedOut slot).slots.get? other =
      if other = slot then some (pool.generationAt slot) else pool.slots.get? other :=
  Slot.Pool.get?_take_store whole other bound _

/-- Handing a slot out moves no generation. They move when handles are given back. -/
theorem generationAt_handedOut (pool : Pool shape) {slot : Nat} (bound : slot < shape.capacity)
    (other : Nat) : (pool.handedOut slot).generationAt other = pool.generationAt other := by
  have inserted : RadixMap.find? _ other = _ :=
    (pool.slots.take slot).values.find?_insert other (pool.generationAt slot)
      (Nat.lt_of_lt_of_le bound shape.capacity_le_span)
  refine (congrArg (Option.getD · 0) inserted).trans ?_
  by_cases same : other = slot
  · rw [if_pos same, same]
    rfl
  · rw [if_neg same]
    rfl

/-- A handle is live if its slot is taken and holds its generation. -/
theorem isAlive_iff {pool : Pool shape} {handle : Handle} :
    pool.isAlive handle = true ↔ pool.slots.get? handle.index.toNat = some handle.generation :=
  beq_iff_eq

section

variable {pool : Pool shape} {handle : Handle}

/-- The slot of a handle that is alive has its generation. -/
theorem generationAt_of_isAlive (alive : pool.isAlive handle = true) :
    pool.generationAt handle.index.toNat = handle.generation := by
  unfold generationAt
  rw [(Slot.Pool.get?_eq_some_iff.1 (isAlive_iff.1 alive)).2]
  rfl

/-- A handle that is alive is freed: its slot goes to the next generation and is given back. -/
theorem free_of_isAlive (alive : pool.isAlive handle = true) :
    (pool.free handle).2 =
      ⟨((pool.slots.modify handle.index.toNat
        fun _ => (handle.generation + 1) % generationCount).unassign handle.index.toNat).2⟩ := by
  unfold free
  rw [if_pos alive]

/-- Giving a handle back leaves the pool with all its chunks. -/
theorem whole_free (whole : pool.slots.Whole) (alive : pool.isAlive handle = true) :
    (pool.free handle).2.slots.Whole := by
  rw [free_of_isAlive alive]
  exact (whole.modify _ _).unassign _

/-- Giving a handle back frees its slot and no other. -/
theorem isAssigned_free (whole : pool.slots.Whole) (alive : pool.isAlive handle = true)
    (slot : Nat) : (pool.free handle).2.slots.isAssigned slot =
      if slot = handle.index.toNat then false else pool.slots.isAssigned slot := by
  rw [free_of_isAlive alive]
  dsimp only
  rw [Slot.Pool.isAssigned_unassign (whole.modify _ _), Slot.Pool.isAssigned_modify]

/-- A freed slot holds no generation that could be read. -/
theorem get?_free (whole : pool.slots.Whole) (alive : pool.isAlive handle = true) (slot : Nat) :
    (pool.free handle).2.slots.get? slot =
      if slot = handle.index.toNat then none else pool.slots.get? slot := by
  rw [free_of_isAlive alive]
  dsimp only
  rw [Slot.Pool.get?_unassign (whole.modify _ _), Slot.Pool.get?_modify]
  by_cases same : slot = handle.index.toNat <;> simp [same]

/-- Giving a handle back makes one free slot. -/
theorem size_free (whole : pool.slots.Whole) (alive : pool.isAlive handle = true) :
    (pool.free handle).2.size + 1 = pool.size := by
  have taken := (Slot.Pool.get?_eq_some_iff.1 (isAlive_iff.1 alive)).1
  have count := Slot.Pool.assignedCount_unassign
    (whole.modify handle.index.toNat fun _ => (handle.generation + 1) % generationCount)
    ((Slot.Pool.isAssigned_modify ..).trans taken)
  rw [Slot.Pool.assignedCount_modify] at count
  rw [free_of_isAlive alive]
  exact count

/-- Giving a handle back moves the generation of its slot on, so that the handle is not live again
at once. -/
theorem generationAt_free (alive : pool.isAlive handle = true) (slot : Nat) :
    (pool.free handle).2.generationAt slot =
      if slot = handle.index.toNat then (handle.generation + 1) % generationCount
      else pool.generationAt slot := by
  obtain ⟨taken, stored⟩ := Slot.Pool.get?_eq_some_iff.1 (isAlive_iff.1 alive)
  rw [free_of_isAlive alive]
  unfold generationAt
  rw [Slot.Pool.values_unassign, Slot.Pool.find?_modify]
  by_cases same : slot = handle.index.toNat
  · rw [if_pos ⟨same, taken⟩, if_pos same, stored]
    rfl
  · rw [if_neg (fun both => same both.1), if_neg same]

end

/-! ## Slots and live handles

The live handles and the slots in use determine each other. The clause about generations counts the
handles given back at each index, modulo the number of generations that fit into a handle. -/

/-- The slots of a pool and the handles that are live agree. Generations move as handles are given
back, so they can be told from the log. -/
structure Sound (run : Run shape) : Prop where
  /-- The pool has all its chunks. -/
  whole : run.pool.slots.Whole
  /-- A live handle has a slot to itself, which has its generation; no other slot is taken. -/
  held : ∀ slot generation, run.pool.slots.get? slot = some generation ↔
    ∃ handle ∈ run.live, handle.index.toNat = slot ∧ handle.generation = generation
  /-- A slot that is taken has a generation. -/
  filled : ∀ slot, run.pool.slots.isAssigned slot = true →
    ∃ generation, run.pool.slots.get? slot = some generation
  /-- No two live handles have one index. -/
  apart : (run.live.map (·.index)).Nodup
  /-- The pool counts the live handles. -/
  counted : run.pool.size = run.live.length
  /-- A slot goes through the generations as its handles are given back. -/
  generation : ∀ slot < shape.capacity,
    (run.pool.generationAt slot).toNat = frees (UInt32.ofNat slot) run.log % 4096

section

variable {run : Run shape}

/-- In a new pool no slot is taken, and no handle is live. -/
theorem sound_empty : Sound ({ pool := .empty } : Run shape) := by
  have free (slot : Nat) :
      (Slot.Pool.empty : Slot.Pool shape UInt32).isAssigned slot = false :=
    Slot.Pool.isAssigned_empty slot
  refine {
    whole := Slot.Pool.whole_empty
    held := fun slot generation => ?held
    filled := fun slot taken => ?filled
    apart := .nil
    counted := ?counted
    generation := fun slot _ => ?generation }
  case held =>
    constructor
    · intro found
      rw [show (empty : Pool shape).slots = .empty from rfl, Slot.Pool.get?, free] at found
      cases found
    · rintro ⟨_, mem, -⟩
      cases mem
  case filled =>
    rw [show (empty : Pool shape).slots = .empty from rfl, free] at taken
    cases taken
  case counted => exact Slot.Pool.assignedCount_empty
  case generation =>
    show (generationAt empty slot).toNat = 0
    unfold generationAt
    rw [show (empty : Pool shape).slots.values = .empty from rfl, RadixMap.find?_empty]
    rfl

/-- The live handles are those that the pool knows. -/
theorem Sound.isAlive_iff (h : Sound run) (handle : Handle) :
    run.pool.isAlive handle = true ↔ handle ∈ run.live := by
  rw [Pool.isAlive_iff, h.held]
  constructor
  · rintro ⟨other, mem, index, generation⟩
    rwa [← eq_of_parts (UInt32.toNat_inj.1 index) generation]
  · intro mem
    exact ⟨handle, mem, rfl, rfl⟩

/-- A slot that is taken has a live handle. -/
theorem Sound.isAssigned_iff (h : Sound run) (slot : Nat) :
    run.pool.slots.isAssigned slot = true ↔ ∃ handle ∈ run.live, handle.index.toNat = slot := by
  constructor
  · intro taken
    obtain ⟨generation, found⟩ := h.filled slot taken
    obtain ⟨handle, mem, index, -⟩ := (h.held slot generation).1 found
    exact ⟨handle, mem, index⟩
  · rintro ⟨handle, mem, index⟩
    have found := (h.held slot handle.generation).2 ⟨handle, mem, index, rfl⟩
    exact (Slot.Pool.get?_eq_some_iff.1 found).1

/-- The handle to a free slot is that slot's, with the slot's generation. -/
theorem Sound.parts_pack (h : Sound run) {slot : Nat} (bound : slot < shape.capacity) :
    (pack (UInt32.ofNat slot) (run.pool.generationAt slot)).index.toNat = slot ∧
      (pack (UInt32.ofNat slot) (run.pool.generationAt slot)).generation =
        run.pool.generationAt slot := by
  have few := capacity_le shape
  have toNat : (UInt32.ofNat slot).toNat = slot :=
    UInt32.toNat_ofNat_of_lt' (Nat.lt_of_lt_of_le bound (Nat.le_trans few (by decide)))
  refine ⟨?_, generation_pack _ ?_⟩
  · rw [index_pack (by omega), toNat]
  · rw [h.generation slot bound]
    exact Nat.mod_lt _ (by decide)

/-- A handle is handed out. Its index was that of no live handle, and its generation is the one that
the slot has by then. -/
theorem Sound.handOut (h : Sound run) {seed slot : Nat}
    (search : run.pool.slots.firstFree? seed = some slot) :
    let handle := pack (UInt32.ofNat slot) (run.pool.generationAt slot)
    Sound
      { pool := run.pool.handedOut slot
        live := handle :: run.live
        log := run.log ++ [.handedOut handle] } := by
  intro handle
  obtain ⟨bound, free⟩ := Slot.Pool.firstFree?_eq_some h.whole search
  obtain ⟨index, generation⟩ : handle.index.toNat = slot ∧
      handle.generation = run.pool.generationAt slot := h.parts_pack bound
  -- The slot was free, so no live handle has its index.
  have unused : ∀ other ∈ run.live, other.index.toNat ≠ slot := by
    intro other mem same
    rw [(h.isAssigned_iff slot).2 ⟨other, mem, same⟩] at free
    cases free
  refine {
    whole := h.whole.take slot
    held := fun other value => ?held
    filled := fun other taken => ?filled
    apart := ?apart
    counted := ?counted
    generation := fun other fits => ?generation }
  case held =>
    show (run.pool.handedOut slot).slots.get? other = some value ↔ _
    rw [get?_handedOut h.whole bound]
    -- At the slot of the new handle nothing but that handle is live, elsewhere nothing changed.
    by_cases same : other = slot
    · subst same
      rw [if_pos rfl, Option.some.injEq]
      constructor
      · rintro rfl
        exact ⟨handle, List.mem_cons_self, index, generation⟩
      · rintro ⟨holder, mem, at', rfl⟩
        rcases List.mem_cons.1 mem with rfl | mem
        · exact generation.symm
        · exact absurd at' (unused holder mem)
    · rw [if_neg same, h.held]
      constructor
      · rintro ⟨holder, mem, rest⟩
        exact ⟨holder, List.mem_cons_of_mem _ mem, rest⟩
      · rintro ⟨holder, mem, at', rest⟩
        rcases List.mem_cons.1 mem with rfl | mem
        · exact absurd (at'.symm.trans index) same
        · exact ⟨holder, mem, at', rest⟩
  case filled =>
    show ∃ generation, (run.pool.handedOut slot).slots.get? other = some generation
    have taken : (run.pool.handedOut slot).slots.isAssigned other = true := taken
    rw [isAssigned_handedOut h.whole bound] at taken
    rw [get?_handedOut h.whole bound]
    by_cases same : other = slot
    · exact ⟨_, if_pos same⟩
    · rw [if_neg same] at taken ⊢
      exact h.filled other taken
  case apart =>
    rw [List.map_cons, List.nodup_cons]
    refine ⟨fun mem => ?_, h.apart⟩
    obtain ⟨other, mem, same⟩ := List.mem_map.1 mem
    exact unused other mem (by rw [same, index])
  case counted =>
    refine (Slot.Pool.assignedCount_take h.whole bound free).trans ?_
    rw [List.length_cons, ← h.counted]
    rfl
  case generation =>
    show ((run.pool.handedOut slot).generationAt other).toNat = _
    rw [generationAt_handedOut run.pool bound, frees_append, h.generation other fits]
    rfl

/-- A live handle is given back. The slot is freed and its generation moves on, so the handle is not
live any more, even when its index is handed out again. -/
theorem Sound.giveBack (h : Sound run) {handle : Handle} (mem : handle ∈ run.live) :
    Sound
      { pool := (run.pool.free handle).2
        live := run.live.erase handle
        log := run.log ++ [.freed handle] } := by
  have alive := (h.isAlive_iff handle).2 mem
  have nodup : run.live.Nodup := h.apart.of_map _
  -- the handle is the only live one with its index
  have others {other : Handle} (mem' : other ∈ run.live) :
      other ≠ handle ↔ other.index.toNat ≠ handle.index.toNat := by
    refine not_congr ⟨fun same => same ▸ rfl, fun same => ?_⟩
    exact List.inj_on_of_nodup_map h.apart mem' mem (UInt32.toNat_inj.1 same)
  refine {
    whole := whole_free h.whole alive
    held := fun slot value => ?held
    filled := fun slot taken => ?filled
    apart := ?apart
    counted := ?counted
    generation := fun slot fits => ?generation }
  case held =>
    show (run.pool.free handle).2.slots.get? slot = some value ↔ _
    rw [get?_free h.whole alive]
    by_cases same : slot = handle.index.toNat
    · subst same
      rw [if_pos rfl]
      refine iff_of_false nofun ?_
      rintro ⟨other, mem', at', -⟩
      obtain ⟨apart, mem'⟩ := (nodup.mem_erase_iff).1 mem'
      exact (others mem').1 apart at'
    · rw [if_neg same, h.held]
      refine exists_congr fun other => ?_
      rw [nodup.mem_erase_iff]
      constructor
      · rintro ⟨mem', rfl, rest⟩
        exact ⟨⟨(others mem').2 same, mem'⟩, rfl, rest⟩
      · rintro ⟨⟨-, mem'⟩, rest⟩
        exact ⟨mem', rest⟩
  case filled =>
    show ∃ value, (run.pool.free handle).2.slots.get? slot = some value
    have taken : (run.pool.free handle).2.slots.isAssigned slot = true := taken
    rw [isAssigned_free h.whole alive] at taken
    rw [get?_free h.whole alive]
    by_cases same : slot = handle.index.toNat
    · rw [if_pos same] at taken
      cases taken
    · rw [if_neg same] at taken ⊢
      exact h.filled slot taken
  case apart => exact h.apart.sublist (List.erase_sublist.map _)
  case counted =>
    have count := size_free h.whole alive
    have all := h.counted
    have fewer := List.length_erase_of_mem mem
    have some' := List.length_pos_of_mem mem
    show (run.pool.free handle).2.size = (run.live.erase handle).length
    omega
  case generation =>
    show ((run.pool.free handle).2.generationAt slot).toNat = _
    -- The generation moves on by one, modulo 4096, at the slot of the handle, and so does the count
    -- of handles given back there.
    have before := h.generation slot fits
    rw [generationAt_free alive, frees_append, frees_cons, frees_nil]
    by_cases same : slot = handle.index.toNat
    · subst same
      rw [generationAt_of_isAlive alive, UInt32.ofNat_toNat] at before
      have small := handle.toNat_generation_lt
      rw [if_pos rfl, UInt32.ofNat_toNat, if_pos (by exact beq_self_eq_true handle.index)]
      unfold generationCount
      rw [UInt32.toNat_mod, UInt32.toNat_add]
      simp only [UInt32.reduceToNat]
      omega
    · have differs : ¬ (handle.index == UInt32.ofNat slot) = true := by
        intro eq
        refine same ?_
        rw [eq_of_beq eq, UInt32.toNat_ofNat_of_lt']
        exact Nat.lt_of_lt_of_le fits (Nat.le_trans (capacity_le shape) (by decide))
      rw [if_neg same, if_neg (by exact differs), before]
      rfl

/-- What does not give a handle back leaves the generations as they are. -/
theorem Sound.noted (h : Sound run) {event : Event}
    (keeps : ∀ index, event.freesIndex index = false) :
    Sound { run with log := run.log ++ [event] } := by
  refine ⟨h.whole, h.held, h.filled, h.apart, h.counted, fun slot fits => ?_⟩
  rw [frees_append, frees_cons, keeps]
  exact h.generation slot fits

/-- What is not live is passed over. -/
theorem Sound.free_of_not_mem (h : Sound run) {handle : Handle} (stale : handle ∉ run.live) :
    run.pool.free handle = (false, run.pool) :=
  if_neg fun alive => stale ((h.isAlive_iff handle).1 alive)

/-- Giving a live handle back succeeds. -/
theorem Sound.free_of_mem (h : Sound run) {handle : Handle} (mem : handle ∈ run.live) :
    (run.pool.free handle).1 = true := by
  unfold free
  rw [if_pos ((h.isAlive_iff handle).2 mem)]

/-- Giving a handle back tells whether it was live. -/
theorem Sound.free_iff (h : Sound run) (handle : Handle) :
    (run.pool.free handle).1 = true ↔ handle ∈ run.live := by
  constructor
  · intro freed
    by_contra stale
    rw [h.free_of_not_mem stale] at freed
    cases freed
  · exact h.free_of_mem

/-- The four things that can come of a request. A handle is handed out or the pool is full, and a
handle is given back or passed over. -/
theorem Sound.next_cases (h : Sound run) (request : Request) :
    (∃ seed, ∃ slot < shape.capacity, request = .alloc seed ∧
        run.pool.slots.firstFree? seed = some slot ∧
        run.next request =
          { pool := run.pool.handedOut slot
            live := pack (UInt32.ofNat slot) (run.pool.generationAt slot) :: run.live
            log := run.log ++
              [.handedOut (pack (UInt32.ofNat slot) (run.pool.generationAt slot))] }) ∨
      (∃ handle ∈ run.live, request = .free handle ∧
        run.next request =
          { pool := (run.pool.free handle).2
            live := run.live.erase handle
            log := run.log ++ [.freed handle] }) ∨
      ∃ event, (event = .exhausted ∨ ∃ handle, event = .ignored handle) ∧
        run.next request = { run with log := run.log ++ [event] } := by
  cases request with
  | alloc seed =>
    cases search : run.pool.slots.firstFree? seed with
    | none =>
      refine .inr (.inr ⟨.exhausted, .inl rfl, ?_⟩)
      rw [Run.next, alloc_eq_error search]
    | some slot =>
      refine .inl ⟨seed, slot, (Slot.Pool.firstFree?_eq_some h.whole search).1, rfl, search, ?_⟩
      rw [Run.next, alloc_eq_ok h.whole search]
  | free handle =>
    by_cases mem : handle ∈ run.live
    · refine .inr (.inl ⟨handle, mem, rfl, ?_⟩)
      simp only [Run.next, h.free_of_mem mem, if_true]
    · refine .inr (.inr ⟨.ignored handle, .inr ⟨handle, rfl⟩, ?_⟩)
      simp only [Run.next, h.free_of_not_mem mem, List.erase_of_not_mem mem]
      rfl

/-- Every request keeps slots and handles in agreement. -/
theorem Sound.next (h : Sound run) (request : Request) : Sound (run.next request) := by
  rcases h.next_cases request with ⟨seed, slot, -, -, search, next⟩ | ⟨handle, mem, -, next⟩ |
    ⟨event, kind, next⟩
  · rw [next]
    exact h.handOut search
  · rw [next]
    exact h.giveBack mem
  · rw [next]
    refine h.noted fun index => ?_
    rcases kind with rfl | ⟨handle, rfl⟩ <;> rfl

/-! ## Handles of before

A handle that comes again has the same index and the same generation. Between the two times the
index was given back, and the generation went round once or several times. -/

/-- What a log says of the handles handed out in it. A handle that was handed out twice was given
back in between so often that its generation came round. -/
structure Dated (run : Run shape) : Prop where
  /-- A handle has the generation that its slot had by then. -/
  generation : ∀ {before handle rest}, run.log = before ++ .handedOut handle :: rest →
    handle.generation.toNat = frees handle.index before % 4096
  /-- A handle whose index was not given back since is live. -/
  live : ∀ {before handle rest}, run.log = before ++ .handedOut handle :: rest →
    frees handle.index rest = 0 → handle ∈ run.live
  /-- Between two times that a handle was handed out, its index was given back. -/
  freed : ∀ {before handle between after},
    run.log = before ++ .handedOut handle :: (between ++ .handedOut handle :: after) →
    0 < frees handle.index between

/-- The log of a new pool tells of no handle. -/
theorem dated_empty : Dated ({ pool := .empty } : Run shape) := by
  have none {before rest : List Event} {event : Event} : [] ≠ before ++ event :: rest := by
    intro split
    cases before <;> cases split
  exact ⟨fun split => absurd split none, fun split => absurd split none,
    fun split => absurd split none⟩

/-- A log goes on with a handle that is new to the live ones. -/
theorem Dated.handOut (h : Dated run) {handle : Handle} {pool : Pool shape}
    (due : handle.generation.toNat = frees handle.index run.log % 4096)
    (fresh : handle ∉ run.live) :
    Dated { pool, live := handle :: run.live, log := run.log ++ [.handedOut handle] } := by
  refine {
    generation := fun split => ?generation
    live := fun split unfreed => ?live
    freed := fun split => ?freed }
  -- The log is split at the new event, or within what it was.
  case generation =>
    rcases split_snoc split with ⟨-, same, rfl⟩ | ⟨earlier, -, split⟩
    · cases same
      exact due
    · exact h.generation split
  case live =>
    rcases split_snoc split with ⟨-, same, -⟩ | ⟨earlier, rfl, known⟩
    · cases same
      exact List.mem_cons_self
    · rw [frees_append] at unfreed
      exact List.mem_cons_of_mem _ (h.live known (by omega))
  case freed =>
    rename_i before other between after
    rcases split_snoc split with ⟨none, -, -⟩ | ⟨earlier, rest, split⟩
    · cases between <;> cases none
    · -- the later of the two times may be the one that was just added
      rcases split_snoc rest.symm with ⟨rfl, same, rfl⟩ | ⟨later, -, rest⟩
      · cases same
        by_contra unfreed
        exact fresh (h.live split (by omega))
      · subst rest
        exact h.freed split

/-- A log goes on with what hands no handle out. -/
theorem Dated.noted (h : Dated run) {pool : Pool shape} {live : List Handle} {event : Event}
    (other : ∀ handle, event ≠ .handedOut handle)
    (kept : ∀ handle ∈ run.live, event.freesIndex handle.index = false → handle ∈ live) :
    Dated { pool, live, log := run.log ++ [event] } := by
  refine {
    generation := fun split => ?generation
    live := fun split unfreed => ?live
    freed := fun split => ?freed }
  case generation =>
    rcases split_snoc split with ⟨-, same, -⟩ | ⟨earlier, -, split⟩
    · exact absurd same.symm (other _)
    · exact h.generation split
  case live =>
    rcases split_snoc split with ⟨-, same, -⟩ | ⟨earlier, rfl, known⟩
    · exact absurd same.symm (other _)
    · rw [frees_append, frees_cons, frees_nil] at unfreed
      refine kept _ (h.live known (by omega)) ?_
      by_contra frees
      rw [if_pos (by simpa using frees)] at unfreed
      omega
  case freed =>
    rcases split_snoc split with ⟨none, -, -⟩ | ⟨earlier, rest, split⟩
    · rename_i between _
      cases between <;> cases none
    · rcases split_snoc rest.symm with ⟨-, same, -⟩ | ⟨later, -, rest⟩
      · exact absurd same.symm (other _)
      · subst rest
        exact h.freed split

/-- Every request keeps the dates: the log gets one more event, and only a handle given back moves a
generation. -/
theorem Dated.next (h : Dated run) (sound : Sound run) (request : Request) :
    Dated (run.next request) := by
  rcases sound.next_cases request with ⟨seed, slot, bound, -, search, next⟩ |
    ⟨handle, mem, -, next⟩ | ⟨event, kind, next⟩
  · rw [next]
    obtain ⟨index, generation⟩ := sound.parts_pack bound
    have free := (Slot.Pool.firstFree?_eq_some sound.whole search).2
    refine h.handOut ?_ fun mem => ?_
    · rw [generation, sound.generation slot bound]
      conv_lhs => rw [← index, UInt32.ofNat_toNat]
    · rw [(sound.isAssigned_iff slot).2 ⟨_, mem, index⟩] at free
      cases free
  · rw [next]
    refine h.noted (fun _ => nofun) fun other mem apart => ?_
    refine ((sound.apart.of_map _).mem_erase_iff).2 ⟨?_, mem⟩
    rintro rfl
    rw [show Event.freesIndex _ _ = true from beq_self_eq_true _] at apart
    cases apart
  · rw [next]
    refine h.noted (fun handle => ?_) fun _ mem _ => mem
    rcases kind with rfl | ⟨_, rfl⟩ <;> nofun

/-- A handle comes again when its index went through all generations. There are 4096 generations for
an index. -/
theorem Dated.reissued (h : Dated run) {before between after : List Event} {handle : Handle}
    (split : run.log = before ++ .handedOut handle :: (between ++ .handedOut handle :: after)) :
    ∃ rounds, 0 < rounds ∧ frees handle.index between = 4096 * rounds := by
  have some' := h.freed split
  have first := h.generation split
  have again : run.log =
      (before ++ .handedOut handle :: between) ++ .handedOut handle :: after := by
    rw [split, List.append_assoc, List.cons_append]
  have second := h.generation again
  have apart : frees handle.index (before ++ .handedOut handle :: between) =
      frees handle.index before + frees handle.index between := by
    rw [frees_append, frees_cons]
    rfl
  rw [apart] at second
  exact ⟨frees handle.index between / 4096, by omega, by omega⟩

end

/-! ## Pools that have a log

Whoever has a pool as a part needs to know that it came about by requests, and not by which. So the
log is hidden, and what handing out and giving back do is restated for such a pool. -/

section

variable {pool : Pool shape}

/-- Some log tells how the pool came about. -/
def Accounted (pool : Pool shape) : Prop := ∃ run : Run shape, Sound run ∧ run.pool = pool

/-- A new pool has a log that is empty. -/
theorem accounted_empty : (empty : Pool shape).Accounted := ⟨_, sound_empty, rfl⟩

/-- No handle is live in a new pool. -/
theorem isAlive_empty (handle : Handle) : (empty : Pool shape).isAlive handle = false := by
  apply Bool.eq_false_iff.2
  rw [ne_eq, sound_empty.isAlive_iff]
  exact List.not_mem_nil

/-- A handle that is handed out was not alive, and no other handle is concerned. There is none to
hand out exactly if the pool is full. -/
theorem Accounted.alloc_cases (h : pool.Accounted) (seed : Nat) :
    (pool.size = shape.capacity ∧ pool.alloc seed = .error (.full shape.capacity)) ∨
      ∃ handle after, pool.size ≠ shape.capacity ∧ pool.alloc seed = .ok (handle, after) ∧
        after.Accounted ∧ pool.isAlive handle = false ∧
        ∀ other, after.isAlive other = (other == handle || pool.isAlive other) := by
  obtain ⟨run, sound, rfl⟩ := h
  have full := Slot.Pool.firstFree?_eq_none_iff sound.whole seed
  cases search : run.pool.slots.firstFree? seed with
  | none => exact .inl ⟨full.1 search, alloc_eq_error search⟩
  | some slot =>
    have handed := sound.handOut search
    have new := handed.apart.of_map _
    refine .inr ⟨_, _, fun all => ?_, alloc_eq_ok sound.whole search, ⟨_, handed, rfl⟩, ?_,
      fun other => ?_⟩
    · rw [full.2 all] at search
      cases search
    · apply Bool.eq_false_iff.2
      rw [ne_eq, sound.isAlive_iff]
      exact (List.nodup_cons.1 new).1
    · apply Bool.eq_iff_iff.2
      rw [handed.isAlive_iff, Bool.or_eq_true, sound.isAlive_iff, beq_iff_eq]
      exact List.mem_cons

/-- A handle that is not alive is passed over. -/
theorem free_of_stale {handle : Handle} (stale : pool.isAlive handle = false) :
    pool.free handle = (false, pool) :=
  if_neg (Bool.eq_false_iff.1 stale)

/-- A handle that is given back is not alive afterwards, and no other handle is concerned. -/
theorem Accounted.free (h : pool.Accounted) (handle : Handle) :
    (pool.free handle).1 = pool.isAlive handle ∧ (pool.free handle).2.Accounted ∧
      ∀ other, (pool.free handle).2.isAlive other = (other != handle && pool.isAlive other) := by
  cases alive : pool.isAlive handle with
  | false =>
    rw [free_of_stale alive]
    refine ⟨rfl, h, fun other => ?_⟩
    by_cases same : other = handle <;> simp [same, alive]
  | true =>
    obtain ⟨run, sound, rfl⟩ := h
    have mem := (sound.isAlive_iff handle).1 alive
    have given := sound.giveBack mem
    refine ⟨sound.free_of_mem mem, ⟨_, given, rfl⟩, fun other => ?_⟩
    apply Bool.eq_iff_iff.2
    rw [given.isAlive_iff, Bool.and_eq_true, sound.isAlive_iff, bne_iff_ne]
    exact (sound.apart.of_map _).mem_erase_iff

end

/-! ## All runs

The invariants hold of a new pool and are kept by each request. -/

/-- Every run keeps slots, handles and dates in agreement, by induction on the requests. -/
theorem run_sound (shape : Shape) (requests : List Request) :
    Sound (run shape requests) ∧ Dated (run shape requests) := by
  induction requests using List.reverseRecOn with
  | nil => exact ⟨sound_empty, dated_empty⟩
  | append_singleton requests request ih =>
    rw [run_append]
    exact ⟨ih.1.next request, ih.2.next ih.1 request⟩

/-- Stale, forged and repeated handles do no harm. At any time, a pool knows exactly the handles
that were handed out and not given back since, of which there is at most one for an index; giving
back any other handle is refused and changes nothing, and giving back one of them concerns no other.
Handing out fails exactly if the handles have all indices, and takes an index that none of them has.
A handle comes again only after its index was given back 4096 times, or a multiple of that. -/
theorem handles_safe (shape : Shape) (requests : List Request) :
    let run := run shape requests
    (∀ handle, run.pool.isAlive handle = true ↔ handle ∈ run.live) ∧
      (∀ handle, ((run.pool.free handle).1 = true ↔ handle ∈ run.live) ∧
        ∀ other, (run.pool.free handle).2.isAlive other = true ↔
          other ∈ run.live ∧ other ≠ handle) ∧
      run.pool.size = run.live.length ∧
      run.live.Nodup ∧ (run.live.map (·.index)).Nodup ∧
      (∀ seed, if run.live.length = shape.capacity
        then run.pool.alloc seed = .error (.full shape.capacity)
        else ∃ handle pool, run.pool.alloc seed = .ok (handle, pool) ∧
          handle.index.toNat < shape.capacity ∧ handle.index ∉ run.live.map (·.index)) ∧
      ∀ before handle between after,
        run.log = before ++ .handedOut handle :: (between ++ .handedOut handle :: after) →
        ∃ rounds, 0 < rounds ∧ frees handle.index between = 4096 * rounds := by
  intro run
  obtain ⟨sound, dated⟩ : Sound run ∧ Dated run := run_sound shape requests
  have nodup : run.live.Nodup := sound.apart.of_map _
  refine ⟨sound.isAlive_iff, fun handle => ⟨sound.free_iff handle, fun other => ?_⟩, sound.counted,
    nodup, sound.apart, fun seed => ?_, fun _ _ _ _ => dated.reissued⟩
  -- Giving back a live handle takes it from the live ones, and any other is refused.
  · by_cases mem : handle ∈ run.live
    · rw [(sound.giveBack mem).isAlive_iff, nodup.mem_erase_iff]
      exact and_comm
    · rw [sound.free_of_not_mem mem, sound.isAlive_iff]
      refine ⟨fun mem' => ⟨mem', ?_⟩, And.left⟩
      rintro rfl
      exact mem mem'
  · have full : run.pool.slots.firstFree? seed = none ↔ run.live.length = shape.capacity := by
      rw [← sound.counted]
      exact Slot.Pool.firstFree?_eq_none_iff sound.whole seed
    -- The search of the pool decides: it fails exactly if all is handed out, and what it finds is
    -- the index of no live handle.
    cases search : run.pool.slots.firstFree? seed with
    | none =>
      rw [if_pos (full.1 search)]
      exact alloc_eq_error search
    | some slot =>
      rw [if_neg fun all => by rw [full.2 all] at search; cases search]
      obtain ⟨bound, free⟩ := Slot.Pool.firstFree?_eq_some sound.whole search
      obtain ⟨index, -⟩ := sound.parts_pack bound
      refine ⟨_, _, alloc_eq_ok sound.whole search, index.symm ▸ bound, fun mem => ?_⟩
      obtain ⟨other, mem, same⟩ := List.mem_map.1 mem
      rw [(sound.isAssigned_iff slot).2 ⟨other, mem, same ▸ index⟩] at free
      cases free

end GpuSync.Handle.Pool
