import GpuSync.Proofs.RadixMap
import GpuSync.Proofs.Slot.Chunk
import GpuSync.Slot.Pool
import Mathlib.Tactic.Common

/-!
# Slots of a pool

The laws of single slots over all chunks of a pool.

* `Pool.isAssigned_take` and `Pool.isAssigned_unassign`: a slot is taken and given back alone.
* `Pool.assignedCount_take` and `Pool.assignedCount_unassign` count along.
* `Pool.mem_live_iff` and `Pool.find?_unassignAll`: giving all slots back visits what can be read.
* `Pool.firstFree?_eq_none_iff` and `Pool.firstFree?_eq_some`: an assignment finds a free slot
  unless all are taken.

They hold of pools with the chunks of their shape (`Pool.Whole`), which every operation keeps.
-/

namespace GpuSync

/-! ## Lists

The slots of a pool are numbered through all chunks. The facts on quotients and remainders that this
takes are collected here, with those on lists that several modules use. -/

/-- Putting one item in the place of another exchanges what they yield. -/
theorem flatMap_set_perm {α β : Type} (g : α → List β) {items : List α} {p : Nat} {old : α}
    (found : items[p]? = some old) (new : α) :
    ((items.set p new).flatMap g ++ g old).Perm (items.flatMap g ++ g new) := by
  induction items generalizing p with
  | nil => cases found
  | cons item rest ih =>
    cases p with
    | zero =>
      cases found
      rw [List.set_cons_zero, List.flatMap_cons, List.flatMap_cons, List.append_assoc,
        List.append_assoc]
      refine List.perm_append_comm.trans ?_
      rw [List.append_assoc]
      exact List.perm_append_comm_assoc _ _ _
    | succ p =>
      rw [List.set_cons_succ, List.flatMap_cons, List.flatMap_cons, List.append_assoc,
        List.append_assoc]
      exact (ih found).append_left _

/-- Where an item stands in a list that grew by one. -/
theorem split_snoc {β : Type} {items before rest : List β} {last item : β}
    (split : items ++ [last] = before ++ item :: rest) :
    (rest = [] ∧ item = last ∧ before = items) ∨
      ∃ earlier, rest = earlier ++ [last] ∧ items = before ++ item :: earlier := by
  rcases List.eq_nil_or_concat rest with rfl | ⟨earlier, final, rfl⟩
  · obtain ⟨rfl, same⟩ := List.append_inj' split rfl
    cases same
    exact .inl ⟨rfl, rfl, rfl⟩
  · rw [List.concat_eq_append, ← List.cons_append, ← List.append_assoc] at split
    obtain ⟨rfl, same⟩ := List.append_inj' split rfl
    cases same
    exact .inr ⟨earlier, List.concat_eq_append, rfl⟩

namespace Slot

/-- A chunk has at least one slot. -/
theorem Shape.chunkSize_pos (shape : Shape) : 0 < shape.chunkSize := span_pos shape.bits

/-- Every slot of a pool has a place in its map of values. -/
theorem Shape.capacity_le_span (shape : Shape) : shape.capacity ≤ span (shape.bits + 6) := by
  rw [span_add]
  exact Nat.mul_le_mul_left _ shape.chunks_le

/-- Where a slot stands is its chunk and its place in the chunk. -/
theorem Shape.eq_iff_div_mod (shape : Shape) (i j : Nat) :
    j = i ↔
      j / shape.chunkSize = i / shape.chunkSize ∧ j % shape.chunkSize = i % shape.chunkSize := by
  constructor
  · rintro rfl
    exact ⟨rfl, rfl⟩
  · rintro ⟨chunk, place⟩
    rw [← Nat.div_add_mod j shape.chunkSize, chunk, place, Nat.div_add_mod]

/-- A place of a chunk, counted over all chunks. -/
theorem Shape.div_mod_place (shape : Shape) (c : Nat) {place : Nat}
    (fits : place < shape.chunkSize) :
    (shape.chunkSize * c + place) / shape.chunkSize = c ∧
      (shape.chunkSize * c + place) % shape.chunkSize = place := by
  rw [Nat.mul_add_div shape.chunkSize_pos, Nat.div_eq_of_lt fits, Nat.mul_add_mod,
    Nat.mod_eq_of_lt fits]
  exact ⟨rfl, rfl⟩

/-- A place in a chunk of the pool is a slot of the pool. -/
theorem Shape.place_lt_capacity (shape : Shape) {c place : Nat} (hc : c < shape.chunks)
    (fits : place < shape.chunkSize) : shape.chunkSize * c + place < shape.capacity := by
  have room : shape.chunkSize * (c + 1) ≤ shape.capacity := Nat.mul_le_mul_left _ hc
  rw [Nat.mul_succ] at room
  omega

/-- The group in its chunk that a slot stands in. -/
def Shape.groupOf (shape : Shape) (i : Nat) : Nat := i % shape.chunkSize / groupSize

/-- Every slot is in some group of its chunk. -/
theorem Shape.groupOf_lt (shape : Shape) (i : Nat) : shape.groupOf i < shape.groups :=
  (shape.lt_chunkSize_iff _).1 (Nat.mod_lt _ shape.chunkSize_pos)

/-! ## Taking slots and giving them back

To take a slot and to give one back are to mark it in its chunk. What holds for both is stated for a
mark, in either direction. -/

namespace Pool

variable {shape : Shape} {α : Type} {pool : Pool shape α}

/-- A pool has as many chunks as its shape says. It is the only thing that has to be known of the
chunks, since each chunk carries its own laws. -/
def Whole (pool : Pool shape α) : Prop := pool.chunks.length = shape.chunks

/-- A new pool has all its chunks. -/
theorem whole_empty : (empty : Pool shape α).Whole := by
  simp [Whole, empty]

/-- To mark a slot leaves the pool with all its chunks. -/
theorem Whole.mark (h : pool.Whole) (i : Nat) (taken : Bool) : (pool.mark i taken).Whole :=
  (List.length_modify _ _ _).trans h

/-- To take a slot does. -/
theorem Whole.take (h : pool.Whole) (i : Nat) : (pool.take i).Whole := h.mark i true

/-- To give all slots back does. -/
theorem Whole.freeAll (h : pool.Whole) : pool.freeAll.Whole := (List.length_map _).trans h

/-- Slots of the pool stand in one of its chunks. -/
theorem Whole.chunk (h : pool.Whole) {i : Nat} (hi : i < shape.capacity) :
    ∃ chunk, pool.chunks[i / shape.chunkSize]? = some chunk := by
  have bound : i / shape.chunkSize < pool.chunks.length := by
    rw [h, Nat.div_lt_iff_lt_mul shape.chunkSize_pos, Nat.mul_comm]
    exact hi
  exact ⟨_, List.getElem?_eq_getElem bound⟩

/-- A slot that is taken is none that is free. -/
theorem ne_of_isAssigned {i j : Nat} (assigned : pool.isAssigned j = true)
    (free : pool.isAssigned i = false) : j ≠ i := by
  rintro rfl
  rw [free] at assigned
  cases assigned

/-- Giving all slots back leaves none taken. -/
theorem isAssigned_freeAll (pool : Pool shape α) (i : Nat) :
    pool.freeAll.isAssigned i = false := by
  unfold isAssigned freeAll
  dsimp only
  rw [List.getElem?_map]
  cases pool.chunks[i / shape.chunkSize]? with
  | none => rfl
  | some chunk => exact chunk.contains_freeAll _

/-- Only slots of the pool are taken. -/
theorem Whole.lt_capacity (h : pool.Whole) {i : Nat} (assigned : pool.isAssigned i = true) :
    i < shape.capacity := by
  unfold isAssigned at assigned
  split at assigned
  · rename_i chunk found
    have bound := (List.getElem?_eq_some_iff.1 found).1
    rw [h, Nat.div_lt_iff_lt_mul shape.chunkSize_pos, Nat.mul_comm] at bound
    exact bound
  · cases assigned

/-- No slot is taken in a new pool. -/
theorem isAssigned_empty (i : Nat) : (empty : Pool shape α).isAssigned i = false := by
  unfold isAssigned empty
  split
  · rename_i chunk found
    obtain rfl := (List.mem_replicate.1 (List.mem_of_getElem? found)).2
    exact Chunk.contains_fresh _
  · rfl

/-- A new pool counts no slot. -/
theorem assignedCount_empty : (empty : Pool shape α).assignedCount = 0 := by
  have none : ∀ chunk ∈ (empty : Pool shape α).chunks, chunk.count = 0 := fun chunk mem => by
    rw [(List.mem_replicate.1 mem).2, Chunk.count_fresh]
  rw [assignedCount, foldr_add_eq none, Nat.zero_mul]

/-- Marking one slot leaves all others as they were. -/
theorem isAssigned_mark (h : pool.Whole) {i : Nat} (j : Nat) (taken : Bool)
    (hi : i < shape.capacity) :
    (pool.mark i taken).isAssigned j = if j = i then taken else pool.isAssigned j := by
  obtain ⟨chunk, found⟩ := h.chunk hi
  have place : i % shape.chunkSize < shape.chunkSize := Nat.mod_lt _ shape.chunkSize_pos
  simp only [isAssigned, mark, chunksAfter, List.getElem?_modify]
  by_cases same : i / shape.chunkSize = j / shape.chunkSize
  · rw [← same, found]
    simp only [if_true, Option.map_eq_map, Option.map_some, chunk.contains_mark taken place]
    simp only [shape.eq_iff_div_mod i j, same, true_and]
  · have apart : j ≠ i := fun eq => same (by rw [eq])
    simp [same, apart]

/-- The count follows the mark of one slot. -/
theorem assignedCount_mark (h : pool.Whole) {i : Nat} (taken : Bool) (hi : i < shape.capacity) :
    (pool.mark i taken).assignedCount + (if pool.isAssigned i then 1 else 0) =
      pool.assignedCount + if taken then 1 else 0 := by
  obtain ⟨chunk, found⟩ := h.chunk hi
  have one := chunk.count_mark taken (Nat.mod_lt i shape.chunkSize_pos)
  have all := foldr_add_set Chunk.count (chunk.mark (i % shape.chunkSize) taken) found
  have chunks : (pool.mark i taken).chunks = _ := modify_eq_set _ found
  have known : pool.isAssigned i = chunk.contains (i % shape.chunkSize) := by
    simp [isAssigned, found]
  rw [known, assignedCount, chunks, assignedCount]
  omega

/-- To take a slot takes that one and no other. -/
theorem isAssigned_take (h : pool.Whole) {i : Nat} (j : Nat) (hi : i < shape.capacity) :
    (pool.take i).isAssigned j = if j = i then true else pool.isAssigned j :=
  isAssigned_mark h j true hi

/-- To take a free slot counts one more. -/
theorem assignedCount_take (h : pool.Whole) {i : Nat} (hi : i < shape.capacity)
    (free : pool.isAssigned i = false) :
    (pool.take i).assignedCount = pool.assignedCount + 1 := by
  have count := assignedCount_mark h true hi
  simpa [free, take] using count

/-- To give a slot back frees that one and no other. -/
theorem isAssigned_unassign (h : pool.Whole) (i j : Nat) :
    (pool.unassign i).2.isAssigned j = if j = i then false else pool.isAssigned j := by
  unfold unassign
  split
  · rename_i assigned
    exact isAssigned_mark h j false (h.lt_capacity assigned)
  · rename_i free
    by_cases same : j = i
    · rw [if_pos same, same]
      simpa using free
    · rw [if_neg same]

/-- To give a slot back that is taken counts one less. -/
theorem assignedCount_unassign (h : pool.Whole) {i : Nat} (assigned : pool.isAssigned i = true) :
    (pool.unassign i).2.assignedCount + 1 = pool.assignedCount := by
  have count := assignedCount_mark h false (h.lt_capacity assigned)
  simpa [unassign, assigned] using count

/-- A slot that is given back keeps its value, which may be gone on with. -/
theorem values_unassign (pool : Pool shape α) (i : Nat) :
    (pool.unassign i).2.values = pool.values := by
  unfold unassign
  split <;> rfl

/-- To give a slot back leaves the pool with all its chunks. -/
theorem Whole.unassign (h : pool.Whole) (i : Nat) : (pool.unassign i).2.Whole := by
  unfold Pool.unassign
  split
  · exact h.mark i false
  · exact h

/-! ## Finding a free slot

A search goes by the chunks that are open, then by the groups of the chunk. Each level is a search
for the first bit of a word at which something is found, so that the order of the slots is put
together from the levels. -/

/-- No more slots are taken than there are. -/
theorem assignedCount_le (h : pool.Whole) : pool.assignedCount ≤ shape.capacity := by
  have bound := foldr_add_le Chunk.count_le pool.chunks
  rwa [h] at bound

/-- A slot is looked up in its chunk. -/
theorem isAssigned_eq {i : Nat} {chunk : Chunk shape}
    (found : pool.chunks[i / shape.chunkSize]? = some chunk) :
    pool.isAssigned i = chunk.contains (i % shape.chunkSize) := by
  simp [isAssigned, found]

/-- A place of a chunk, counted over all chunks. -/
theorem isAssigned_place {c : Nat} {chunk : Chunk shape} (found : pool.chunks[c]? = some chunk)
    {place : Nat} (fits : place < shape.chunkSize) :
    pool.isAssigned (shape.chunkSize * c + place) = chunk.contains place := by
  obtain ⟨stands, stands'⟩ := shape.div_mod_place c fits
  rw [isAssigned_eq (stands.symm ▸ found), stands']

/-- The chunks said to be full are those all of whose slots are taken. -/
theorem full_iff_isAssigned (h : pool.Whole) {c : Nat} (hc : c < shape.chunks) :
    pool.full.getLsbD c = true ↔
      ∀ place < shape.chunkSize, pool.isAssigned (shape.chunkSize * c + place) = true := by
  have found : pool.chunks[c]? = some _ := List.getElem?_eq_getElem (h.symm ▸ hc)
  rw [pool.full_iff, found]
  constructor
  · rintro ⟨chunk, ⟨⟩, full⟩ place fits
    rw [isAssigned_place found fits]
    exact (Chunk.isFull_iff _).1 full place fits
  · intro all
    refine ⟨_, rfl, (Chunk.isFull_iff _).2 fun place fits => ?_⟩
    rw [← isAssigned_place found fits]
    exact all place fits

/-- A chunk with a free slot is open. -/
theorem isOpen_of_free (h : pool.Whole) {i : Nat} (hi : i < shape.capacity)
    (free : pool.isAssigned i = false) :
    pool.openChunks.getLsbD (i / shape.chunkSize) = true := by
  obtain ⟨chunk, found⟩ := h.chunk hi
  have bound := (List.getElem?_eq_some_iff.1 found).1
  have room : i / shape.chunkSize < 64 := Nat.lt_of_lt_of_le bound pool.room
  rw [h] at bound
  have notFull : pool.full.getLsbD (i / shape.chunkSize) = false := by
    refine Bool.eq_false_iff.2 fun full => ?_
    have taken := (full_iff_isAssigned h bound).1 full _ (Nat.mod_lt i shape.chunkSize_pos)
    rw [Nat.div_add_mod, free] at taken
    cases taken
  rw [openChunks, BitVec.getLsbD_and, BitVec.getLsbD_not, notFull, decide_eq_true room,
    Word.getLsbD_firstBits, decide_eq_true ⟨bound, room⟩]
  rfl

/-- The search of a chunk passes over no free slot. -/
theorem isAssigned_of_firstFreeIn? {seed : Nat} {i : Nat} (h : pool.Whole)
    (hi : i < shape.capacity) (nothing : pool.firstFreeIn? seed (i / shape.chunkSize) = none) :
    pool.isAssigned i = true := by
  obtain ⟨chunk, found⟩ := h.chunk hi
  unfold firstFreeIn? at nothing
  rw [found] at nothing
  rw [isAssigned_eq found]
  exact Chunk.firstFree?_eq_none (Option.map_eq_none_iff.1 nothing) _
    (Nat.mod_lt _ shape.chunkSize_pos)

/-- Where a search with a seed ends: at the lowest free slot of a group of a chunk. Chunks come
first, then groups in their turn from the seed's on, then slots. -/
structure FirstFree (pool : Pool shape α) (seed i : Nat) : Prop where
  /-- It is a slot of the pool. -/
  inRange : i < shape.capacity
  /-- It is free. -/
  free : pool.isAssigned i = false
  /-- No chunk with a free slot stands before its chunk. -/
  chunk : ∀ j < shape.capacity, pool.isAssigned j = false →
    i / shape.chunkSize ≤ j / shape.chunkSize
  /-- No group of its chunk with a free slot comes before its group, in cyclic order from the
  seed's group on. -/
  group : ∀ j < shape.capacity, pool.isAssigned j = false →
    j / shape.chunkSize = i / shape.chunkSize →
    shape.turn (shape.start seed) (shape.groupOf i) ≤
      shape.turn (shape.start seed) (shape.groupOf j)
  /-- It is the lowest one of its group. -/
  lowest : ∀ j < shape.capacity, pool.isAssigned j = false →
    j / shape.chunkSize = i / shape.chunkSize → shape.groupOf j = shape.groupOf i → i ≤ j

/-- A search ends at one slot only. -/
theorem FirstFree.eq {seed i j : Nat} (hi : pool.FirstFree seed i) (hj : pool.FirstFree seed j) :
    i = j := by
  have chunk : i / shape.chunkSize = j / shape.chunkSize :=
    Nat.le_antisymm (hi.chunk j hj.inRange hj.free) (hj.chunk i hi.inRange hi.free)
  have turn := Nat.le_antisymm (hi.group j hj.inRange hj.free chunk.symm)
    (hj.group i hi.inRange hi.free chunk)
  have group := shape.turn_inj (shape.start_lt seed) (shape.groupOf_lt i) (shape.groupOf_lt j) turn
  exact Nat.le_antisymm (hi.lowest j hj.inRange hj.free chunk.symm group.symm)
    (hj.lowest i hi.inRange hi.free chunk group)

/-- What the search finds is the first free slot in its order. -/
theorem firstFree_of_firstFree? (h : pool.Whole) {seed i : Nat}
    (finds : pool.firstFree? seed = some i) : pool.FirstFree seed i := by
  -- The search goes through the open chunks from the first on, and takes one slot of the first that
  -- yields any.
  obtain ⟨c, set, yields, first⟩ := Word.findSome?_eq_some finds
  unfold firstFreeIn? at yields
  split at yields
  · rename_i chunk found
    obtain ⟨place, search, rfl⟩ := Option.map_eq_some_iff.1 yields
    have firstFree := Chunk.firstFree?_eq_some (shape.start_lt seed) search
    obtain ⟨stands, stands'⟩ := shape.div_mod_place c firstFree.inRange
    have here {j : Nat} (same : j / shape.chunkSize = c) :
        pool.isAssigned j = chunk.contains (j % shape.chunkSize) :=
      isAssigned_eq (same.symm ▸ found)
    have below (j : Nat) : j % shape.chunkSize < shape.chunkSize :=
      Nat.mod_lt _ shape.chunkSize_pos
    refine {
      inRange := ?inRange
      free := ?free
      chunk := fun j hj free => Nat.le_of_not_lt fun less => ?chunk
      group := fun j hj free same => ?group
      lowest := fun j hj free same group => ?lowest }
    case inRange =>
      have bound := (List.getElem?_eq_some_iff.1 found).1
      rw [h] at bound
      exact shape.place_lt_capacity bound firstFree.inRange
    case free =>
      rw [isAssigned_place found firstFree.inRange]
      exact firstFree.free
    case chunk =>
      -- the search went through that chunk, and found all of it taken
      rw [stands] at less
      have taken := isAssigned_of_firstFreeIn? h hj (first _ less (isOpen_of_free h hj free))
      rw [free] at taken
      cases taken
    case group =>
      rw [stands] at same
      rw [Shape.groupOf, stands']
      exact firstFree.group _ (below j) (here same ▸ free)
    case lowest =>
      rw [stands] at same
      rw [Shape.groupOf, Shape.groupOf, stands'] at group
      have least := firstFree.lowest _ group (here same ▸ free)
      have parts := Nat.div_add_mod j shape.chunkSize
      rw [same] at parts
      omega
  · cases yields

/-- The search finds nothing only if all slots are taken. -/
theorem isAssigned_of_firstFree? (h : pool.Whole) {seed : Nat}
    (nothing : pool.firstFree? seed = none) {i : Nat} (hi : i < shape.capacity) :
    pool.isAssigned i = true := by
  by_contra free
  rw [Bool.not_eq_true] at free
  have taken := isAssigned_of_firstFreeIn? h hi
    (Word.findSome?_eq_none nothing (isOpen_of_free h hi free))
  rw [free] at taken
  cases taken

/-- What the search finds is a slot of the pool that is free. -/
theorem firstFree?_eq_some (h : pool.Whole) {seed i : Nat} (found : pool.firstFree? seed = some i) :
    i < shape.capacity ∧ pool.isAssigned i = false := by
  have firstFree := firstFree_of_firstFree? h found
  exact ⟨firstFree.inRange, firstFree.free⟩

/-- The search finds nothing exactly if all slots are taken. -/
theorem firstFree?_eq_none_iff (h : pool.Whole) (seed : Nat) :
    pool.firstFree? seed = none ↔ pool.assignedCount = shape.capacity := by
  constructor
  · intro none
    have full : ∀ chunk ∈ pool.chunks, chunk.count = shape.chunkSize := by
      intro chunk mem
      obtain ⟨c, found⟩ := List.getElem?_of_mem mem
      have bound := (List.getElem?_eq_some_iff.1 found).1
      rw [h] at bound
      refine Chunk.count_of_isFull (chunk.isFull_iff.2 fun place fits => ?_)
      rw [← isAssigned_place found fits]
      exact isAssigned_of_firstFree? h none (shape.place_lt_capacity bound fits)
    rw [assignedCount, foldr_add_eq full, h]
    rfl
  -- If a slot were found it could be taken, and then more would be taken than there are.
  · intro full
    cases found : pool.firstFree? seed with
    | none => rfl
    | some i =>
      obtain ⟨hi, free⟩ := firstFree?_eq_some h found
      have more := assignedCount_take h hi free
      have bound := assignedCount_le (h.take i)
      omega

/-! ## Values

A value stays in its slot when the slot is given back, and can then not be read. It is there for the
next one who takes the slot, and this is why values and slots that are taken are kept apart. -/

/-- A value can be read in a slot that is taken and has one. -/
theorem get?_eq_some_iff {i : Nat} {value : α} :
    pool.get? i = some value ↔ pool.isAssigned i = true ∧ pool.values.find? i = some value := by
  unfold get?
  split
  · rename_i assigned
    simp [assigned]
  · rename_i free
    simp [free]

/-- Storing a value in a slot that was just taken. -/
theorem get?_take_store (h : pool.Whole) {i : Nat} (j : Nat) (hi : i < shape.capacity) (value : α) :
    ((pool.take i).store i value).get? j = if j = i then some value else pool.get? j := by
  have found := pool.values.find?_insert j value (Nat.lt_of_lt_of_le hi shape.capacity_le_span)
  have assigned : ((pool.take i).store i value).isAssigned j = _ := isAssigned_take h j hi
  unfold get?
  rw [assigned, show ((pool.take i).store i value).values.find? j = _ from found]
  by_cases same : j = i
  · simp [same]
  · simp [same]

/-- A slot that is given back can not be read. -/
theorem get?_unassign (h : pool.Whole) (i j : Nat) :
    (pool.unassign i).2.get? j = if j = i then none else pool.get? j := by
  unfold get?
  rw [isAssigned_unassign h, values_unassign]
  by_cases same : j = i
  · simp [same]
  · simp [same]

/-- To change a value takes and frees no slot. -/
theorem isAssigned_modify (pool : Pool shape α) (i j : Nat) (f : α → α) :
    (pool.modify i f).isAssigned j = pool.isAssigned j := by
  unfold modify
  split <;> rfl

/-- To change a value counts the same slots. -/
theorem assignedCount_modify (pool : Pool shape α) (i : Nat) (f : α → α) :
    (pool.modify i f).assignedCount = pool.assignedCount := by
  unfold modify
  split <;> rfl

/-- To change a value leaves the pool with all its chunks. -/
theorem Whole.modify (h : pool.Whole) (i : Nat) (f : α → α) : (pool.modify i f).Whole := by
  unfold Pool.modify
  split
  · exact h
  · exact h

/-- Changing the value of one slot leaves all others as they were. -/
theorem find?_modify (pool : Pool shape α) (i j : Nat) (f : α → α) :
    (pool.modify i f).values.find? j =
      if j = i ∧ pool.isAssigned i = true then (pool.values.find? i).map f
      else pool.values.find? j := by
  unfold modify
  by_cases assigned : pool.isAssigned i = true
  · simp [assigned, RadixMap.find?_modify]
  · simp [assigned]

/-- To change a value changes what can be read in its slot only. -/
theorem get?_modify (pool : Pool shape α) (i j : Nat) (f : α → α) :
    (pool.modify i f).get? j = if j = i then (pool.get? i).map f else pool.get? j := by
  unfold get?
  rw [isAssigned_modify, find?_modify]
  by_cases same : j = i
  · subst same
    by_cases assigned : pool.isAssigned j = true
    · simp [assigned]
    · simp [assigned]
  · simp [same]

/-- Changes of different slots may be made in either order. -/
theorem modify_comm (pool : Pool shape α) {i j : Nat} (apart : i ≠ j) (f g : α → α) :
    (pool.modify i f).modify j g = (pool.modify j g).modify i f := by
  rw [modify, isAssigned_modify, modify.eq_1 (pool.modify j g), isAssigned_modify]
  unfold modify
  by_cases hi : pool.isAssigned i = true <;> by_cases hj : pool.isAssigned j = true
  · simp [hi, hj, pool.values.modify_comm apart f g]
  · simp [hi, hj]
  · simp [hi, hj]
  · simp [hi, hj]

/-- Without a value to change, nothing changes. -/
theorem modify_of_get?_none {pool : Pool shape α} {i : Nat} (none : pool.get? i = none)
    (f : α → α) : pool.modify i f = pool := by
  unfold modify
  unfold get? at none
  split
  · rename_i assigned
    rw [if_pos assigned] at none
    unfold RadixMap.modify
    rw [none]
  · rfl

/-- What a slot is handed out with: what its former user left, moved on, or a first value. -/
def handed (pool : Pool shape α) (first : Nat → α) (next : α → α) (i : Nat) : α :=
  match pool.values.find? i with
  | none => first i
  | some former => next former

/-- A slot is handed out with the value due to it, whatever it was used for before. A seed decides
which slot it is, and has no part in the value. -/
theorem assignWith_yielding {seed i : Nat} (search : pool.firstFree? seed = some i)
    (first : Nat → α) (next : α → α) :
    ∃ assigned, pool.assignWith seed (fun i => yielding (first i) i)
        (fun former => yielding (next former)) = .ok assigned ∧
      assigned.index = i ∧ assigned.pool = (pool.take i).store i (pool.handed first next i) := by
  have same : (pool.take i).values.find? i = pool.values.find? i := rfl
  unfold assignWith handed
  rw [search]
  dsimp only
  rw [same]
  cases pool.values.find? i with
  | none => exact ⟨_, rfl, rfl, rfl⟩
  | some former => exact ⟨_, rfl, rfl, rfl⟩

/-! ## All slots

To give all slots back visits those in use in ascending order. A slot is visited once, as each has
at most one entry. -/

/-- The live entries are what reading finds. -/
theorem mem_live_iff {i : Nat} {value : α} : (i, value) ∈ pool.live ↔ pool.get? i = some value := by
  rw [live, List.mem_filter, RadixMap.mem_entries_iff, get?_eq_some_iff]
  exact and_comm

/-- The live entries come in the order of their slots, so each slot at most once. -/
theorem ascending_live (pool : Pool shape α) : pool.live.Pairwise fun a b => a.1 < b.1 :=
  pool.values.ascending_entries.filter _

/-- Giving all slots back changes the values that could be read, and no others. -/
theorem find?_unassignAll (pool : Pool shape α) (visit : Nat → α → α) (i : Nat) :
    (pool.unassignAll visit).values.find? i =
      if pool.isAssigned i then (pool.values.find? i).map (visit i) else pool.values.find? i := by
  have fits : ∀ entry ∈ pool.live, entry.1 < span (shape.bits + 6) := fun entry mem =>
    RadixMap.lt_span_of_find? (get?_eq_some_iff.1 (mem_live_iff.1 mem)).2
  -- Only slots with a value that could be read are visited, and each of them once.
  cases found : pool.get? i with
  | some value =>
    obtain ⟨assigned, held⟩ := get?_eq_some_iff.1 found
    rw [if_pos assigned, held]
    exact pool.values.find?_foldl_insert_of_mem pool.ascending_live fits (mem_live_iff.2 found) _
  | none =>
    have apart : ∀ entry ∈ pool.live, entry.1 ≠ i := by
      rintro entry mem rfl
      rw [mem_live_iff.1 mem] at found
      cases found
    refine (pool.values.find?_foldl_insert_of_ne fits apart _).trans ?_
    unfold get? at found
    split
    · rename_i assigned
      rw [if_pos assigned] at found
      rw [found]
      rfl
    · rfl

end Pool

end Slot

end GpuSync
