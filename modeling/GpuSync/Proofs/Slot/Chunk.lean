import GpuSync.Proofs.Slot.Word
import GpuSync.Slot.Chunk

/-!
# Slots of a chunk

The laws of the slots of one chunk, whatever stands in its word for the groups, which is right by
construction.

* `Chunk.contains_mark` and `Chunk.count_mark`: a slot is taken and freed alone, and the count
  follows.
* `Chunk.isFull_iff`: a chunk is full if all its slots are taken.
* `Chunk.firstFree?_eq_none` and `Chunk.firstFree?_eq_some`: the search passes over no free slot,
  and comes to the groups in cyclic order.
-/

namespace GpuSync

/-! ## Sums

A chunk counts its slots by group and a pool by chunk, so a change in one place has to be carried
through a sum. The arithmetic of slots, groups and turns is here as well. -/

/-- Replacing one item changes a sum by what the item counts. -/
theorem foldr_add_set {β : Type} (f : β → Nat) {items : List β} {i : Nat} {old : β} (new : β)
    (found : items[i]? = some old) :
    (items.set i new).foldr (fun item n => f item + n) 0 + f old =
      items.foldr (fun item n => f item + n) 0 + f new := by
  induction items generalizing i with
  | nil => simp at found
  | cons head rest ih =>
    cases i with
    | zero =>
      obtain rfl : head = old := by simpa using found
      simp only [List.set_cons_zero, List.foldr_cons]
      omega
    | succ i =>
      have := ih (i := i) (by simpa using found)
      simp only [List.set_cons_succ, List.foldr_cons]
      omega

/-- A sum of items that count at most so much each. -/
theorem foldr_add_le {β : Type} {f : β → Nat} {bound : Nat} (h : ∀ item, f item ≤ bound)
    (items : List β) : items.foldr (fun item n => f item + n) 0 ≤ bound * items.length := by
  induction items with
  | nil => simp
  | cons head rest ih =>
    have one := h head
    rw [List.foldr_cons, List.length_cons, Nat.mul_succ]
    omega

/-- A sum of items that count the same. -/
theorem foldr_add_eq {β : Type} {f : β → Nat} {each : Nat} {items : List β}
    (h : ∀ item ∈ items, f item = each) :
    items.foldr (fun item n => f item + n) 0 = each * items.length := by
  induction items with
  | nil => simp
  | cons head rest ih =>
    rw [List.forall_mem_cons] at h
    rw [List.foldr_cons, List.length_cons, Nat.mul_succ, h.1, ih h.2, Nat.add_comm]

/-- To change an item that is known is to set it. -/
theorem modify_eq_set {β : Type} (f : β → β) {items : List β} {i : Nat} {old : β}
    (found : items[i]? = some old) : items.modify i f = items.set i (f old) := by
  obtain ⟨bound, rfl⟩ := List.getElem?_eq_some_iff.1 found
  refine List.ext_getElem? fun j => ?_
  rw [List.getElem?_modify, List.getElem?_set]
  by_cases same : i = j
  · subst same
    simp [bound]
  · simp [same]

namespace Slot

/-- A group has places. -/
theorem groupSize_pos : 0 < groupSize := by decide

/-- Where a slot stands is its group and its place in the group. -/
theorem eq_iff_group (i j : Nat) :
    j = i ↔ j / groupSize = i / groupSize ∧ j % groupSize = i % groupSize := by
  constructor
  · rintro rfl
    exact ⟨rfl, rfl⟩
  · rintro ⟨group, bit⟩
    rw [← Nat.div_add_mod j groupSize, group, bit, Nat.div_add_mod]

/-- The slots of a chunk stand in its groups. -/
theorem Shape.lt_chunkSize_iff (shape : Shape) (place : Nat) :
    place < shape.chunkSize ↔ place / groupSize < shape.groups := by
  rw [← shape.groupSize_mul_groups, Nat.div_lt_iff_lt_mul groupSize_pos, Nat.mul_comm]

/-- The search starts in a group of the chunk, whatever the seed. -/
theorem Shape.start_lt (shape : Shape) (seed : Nat) : shape.start seed < shape.groups :=
  Nat.mod_lt _ shape.groups_pos

/-- How many groups a search from `start` on comes to before this one. -/
def Shape.turn (shape : Shape) (start group : Nat) : Nat :=
  (group + (shape.groups - start)) % shape.groups

/-- The search comes to the groups from the start on first, then to those before it. -/
theorem Shape.turn_eq (shape : Shape) {start group : Nat} (inside : start < shape.groups)
    (fits : group < shape.groups) :
    shape.turn start group =
      if start ≤ group then group - start else group + (shape.groups - start) := by
  unfold turn
  split
  · rw [show group + (shape.groups - start) = group - start + shape.groups by omega,
      Nat.add_mod_right, Nat.mod_eq_of_lt (by omega)]
  · rw [Nat.mod_eq_of_lt (by omega)]

/-- The search comes to each group once. -/
theorem Shape.turn_inj (shape : Shape) {start group other : Nat} (inside : start < shape.groups)
    (fits : group < shape.groups) (fits' : other < shape.groups)
    (same : shape.turn start group = shape.turn start other) : group = other := by
  rw [shape.turn_eq inside fits, shape.turn_eq inside fits'] at same
  split at same <;> split at same <;> omega

namespace Chunk

variable {shape : Shape} {chunk : Chunk shape}

/-! ## Single slots

To mark a slot writes one bit of one word. The word of full groups is written along with it, and has
to agree with it. -/

/-- A chunk has a word for each of its groups. -/
theorem exists_word (chunk : Chunk shape) {group : Nat} (fits : group < shape.groups) :
    ∃ word, chunk.words[group]? = some word :=
  ⟨_, List.getElem?_eq_getElem (chunk.length_words.symm ▸ fits)⟩

/-- A place is read in the word of its group. -/
theorem contains_eq {place : Nat} {word : Word}
    (found : chunk.words[place / groupSize]? = some word) :
    chunk.contains place = word.getLsbD (place % groupSize) := by
  simp [contains, found]

/-- Nothing is taken in a chunk that is new. -/
@[simp] theorem contains_fresh (place : Nat) : (fresh : Chunk shape).contains place = false := by
  unfold contains fresh
  dsimp only
  split
  · rename_i word found
    obtain rfl := (List.mem_replicate.1 (List.mem_of_getElem? found)).2
    simp
  · rfl

/-- Nothing is taken in a chunk once all places are given back. -/
@[simp] theorem contains_freeAll (chunk : Chunk shape) (place : Nat) :
    chunk.freeAll.contains place = false :=
  contains_fresh place

/-- A chunk that is new counts no place. -/
@[simp] theorem count_fresh : (fresh : Chunk shape).count = 0 := by
  have none : ∀ word ∈ (fresh : Chunk shape).words, word.count = 0 := by
    intro word mem
    rw [(List.mem_replicate.1 mem).2]
    decide
  rw [count, foldr_add_eq none, Nat.zero_mul]

/-- Marking one slot leaves all others as they were. -/
theorem contains_mark (chunk : Chunk shape) {place : Nat} (taken : Bool)
    (hp : place < shape.chunkSize) (other : Nat) :
    (chunk.mark place taken).contains other =
      if other = place then taken else chunk.contains other := by
  obtain ⟨word, found⟩ := chunk.exists_word ((shape.lt_chunkSize_iff place).1 hp)
  have bit : place % groupSize < 64 := Nat.mod_lt _ groupSize_pos
  simp only [contains, mark, wordsAfter, List.getElem?_modify]
  by_cases same : place / groupSize = other / groupSize
  · rw [← same, found]
    simp only [if_true, Option.map_eq_map, Option.map_some, word.getLsbD_put _ taken bit,
      eq_iff_group place other, same, true_and]
  · have apart : other ≠ place := fun eq => same (by rw [eq])
    simp [same, apart]

/-- Taking a slot adds one to the count, unless it was taken; freeing it takes one away if it
was. -/
theorem count_mark (chunk : Chunk shape) {place : Nat} (taken : Bool)
    (hp : place < shape.chunkSize) :
    (chunk.mark place taken).count + (if chunk.contains place then 1 else 0) =
      chunk.count + if taken then 1 else 0 := by
  obtain ⟨word, found⟩ := chunk.exists_word ((shape.lt_chunkSize_iff place).1 hp)
  have bit : place % groupSize < 64 := Nat.mod_lt _ groupSize_pos
  have one := word.count_put taken bit
  have all := foldr_add_set Word.count (word.put (place % groupSize) taken) found
  have words : (chunk.mark place taken).words = _ := modify_eq_set _ found
  rw [contains_eq found, count, words, count]
  omega

/-- To take a place gives a chunk its storage. To give it back leaves the storage. -/
theorem stored_mark (chunk : Chunk shape) (place : Nat) (taken : Bool) :
    (chunk.mark place taken).stored = (chunk.stored || taken) := rfl

/-- No more places are taken than the chunk has. -/
theorem count_le (chunk : Chunk shape) : chunk.count ≤ shape.chunkSize := by
  have bound := foldr_add_le Word.count_le chunk.words
  rwa [chunk.length_words, show 64 * shape.groups = shape.chunkSize from
    shape.groupSize_mul_groups] at bound

/-! ## Full groups and full chunks

The search goes by the word of full groups and never by the slots of a group that is in it. What
makes this right is that a group is in the word exactly if all of its slots are taken. -/

/-- A group is full if all its slots are taken. So the word of full groups tells nothing that the
slots do not. -/
theorem full_iff_contains (chunk : Chunk shape) {group : Nat} (fits : group < shape.groups) :
    chunk.full.getLsbD group = true ↔
      ∀ place, place / groupSize = group → chunk.contains place = true := by
  obtain ⟨word, found⟩ := chunk.exists_word fits
  rw [chunk.full_iff, found, Option.some_inj, Word.eq_filled_iff]
  constructor
  · rintro all place rfl
    rw [contains_eq found]
    exact all _ (Nat.mod_lt _ groupSize_pos)
  · intro all bit hb
    have stands : (groupSize * group + bit) / groupSize = group ∧
        (groupSize * group + bit) % groupSize = bit := by
      unfold groupSize
      omega
    have taken := all (groupSize * group + bit) stands.1
    rwa [contains_eq (stands.1.symm ▸ found), stands.2] at taken

/-- The groups that are open are those not known to be full. -/
theorem getLsbD_openGroups (chunk : Chunk shape) (group : Nat) :
    chunk.openGroups.getLsbD group = true ↔
      group < shape.groups ∧ chunk.full.getLsbD group = false := by
  have room := shape.groups_le
  simp only [openGroups, BitVec.getLsbD_and, BitVec.getLsbD_not, Word.getLsbD_firstBits]
  cases chunk.full.getLsbD group
  · simp
    omega
  · simp

/-- A group with a free slot is open. -/
theorem isOpen_of_free (chunk : Chunk shape) {place : Nat} (fits : place < shape.chunkSize)
    (free : chunk.contains place = false) :
    chunk.openGroups.getLsbD (place / groupSize) = true := by
  have inside := (shape.lt_chunkSize_iff place).1 fits
  refine (chunk.getLsbD_openGroups _).2 ⟨inside, Bool.eq_false_iff.2 fun full => ?_⟩
  rw [(chunk.full_iff_contains inside).1 full place rfl] at free
  cases free

/-- A chunk is full if all its slots are taken. -/
theorem isFull_iff (chunk : Chunk shape) :
    chunk.isFull = true ↔ ∀ place < shape.chunkSize, chunk.contains place = true := by
  unfold isFull
  rw [beq_iff_eq]
  constructor
  · intro full place hp
    have inside := (shape.lt_chunkSize_iff place).1 hp
    refine (chunk.full_iff_contains inside).1 ?_ place rfl
    rw [full, Word.getLsbD_firstBits, decide_eq_true_eq]
    exact ⟨inside, Nat.lt_of_lt_of_le inside shape.groups_le⟩
  · intro all
    apply BitVec.eq_of_getLsbD_eq
    intro group hg
    by_cases fits : group < shape.groups
    · rw [Word.getLsbD_firstBits, decide_eq_true ⟨fits, hg⟩]
      refine (chunk.full_iff_contains fits).2 ?_
      rintro place rfl
      exact all place ((shape.lt_chunkSize_iff place).2 fits)
    · rw [Word.getLsbD_firstBits, decide_eq_false fun h => fits h.1]
      refine Bool.eq_false_iff.2 fun full => ?_
      have bound := (List.getElem?_eq_some_iff.1 ((chunk.full_iff group).1 full)).1
      rw [chunk.length_words] at bound
      exact fits bound

/-- The count of a full chunk. -/
theorem count_of_isFull (full : chunk.isFull = true) : chunk.count = shape.chunkSize := by
  have each : ∀ word ∈ chunk.words, word.count = 64 := by
    intro word mem
    obtain ⟨group, found⟩ := List.getElem?_of_mem mem
    have bound := (List.getElem?_eq_some_iff.1 found).1
    rw [chunk.length_words] at bound
    have filled : chunk.full.getLsbD group = true := by
      refine (chunk.full_iff_contains bound).2 ?_
      rintro place rfl
      exact chunk.isFull_iff.1 full place ((shape.lt_chunkSize_iff place).2 bound)
    rw [chunk.full_iff, found] at filled
    cases filled
    exact Word.count_filled
  rw [count, foldr_add_eq each, chunk.length_words]
  exact shape.groupSize_mul_groups

/-! ## Searching

The groups from the start on are searched before those below it, as two words of open groups. The
order of both together is that of the turns, cyclic from the start. -/

/-- The search of an open group comes to its lowest free slot. -/
theorem firstFreeIn?_of_open {group : Nat} (isOpen : chunk.openGroups.getLsbD group = true) :
    ∃ place, chunk.firstFreeIn? group = some place ∧ place / groupSize = group ∧
      chunk.contains place = false ∧
      ∀ other, other / groupSize = group → chunk.contains other = false → place ≤ other := by
  obtain ⟨fits, notFull⟩ := (chunk.getLsbD_openGroups group).1 isOpen
  obtain ⟨word, found⟩ := chunk.exists_word fits
  -- A group that is not full has a clear bit, and the lowest of them is the lowest free slot.
  cases lowest : (~~~word).lowest? with
  | none =>
    have filled : word = .filled := (Word.eq_filled_iff word).2 fun bit hb => by
      simpa [hb] using (Word.lowest?_eq_none_iff _).1 lowest bit hb
    rw [(chunk.full_iff group).2 (filled ▸ found)] at notFull
    cases notFull
  | some bit =>
    obtain ⟨clear, below⟩ := (Word.lowest?_eq_some_iff _).1 lowest
    have hb : bit < 64 := BitVec.lt_of_getLsbD clear
    have stands : (groupSize * group + bit) / groupSize = group ∧
        (groupSize * group + bit) % groupSize = bit := by
      unfold groupSize
      omega
    refine ⟨groupSize * group + bit, by simp [firstFreeIn?, found, lowest], stands.1, ?_, ?_⟩
    · rw [contains_eq (stands.1.symm ▸ found), stands.2]
      simpa [hb] using clear
    · rintro other rfl free
      rw [contains_eq found] at free
      have fits' : other % groupSize < 64 := Nat.mod_lt _ groupSize_pos
      have notBelow : ¬other % groupSize < bit := fun less => by
        have clear' := below _ less
        rw [BitVec.getLsbD_not, free, decide_eq_true fits'] at clear'
        cases clear'
      have stands' := Nat.div_add_mod other groupSize
      omega

/-- Where a search of the groups from `start` on ends: at the lowest free slot of the first group
that has one. Turns count the groups from the start on and around; among the slots of one group the
lowest counts. -/
structure FirstFree (chunk : Chunk shape) (start place : Nat) : Prop where
  /-- It is a slot of the chunk. -/
  inRange : place < shape.chunkSize
  /-- It is free. -/
  free : chunk.contains place = false
  /-- No group with a free slot comes before its group. -/
  group : ∀ other < shape.chunkSize, chunk.contains other = false →
    shape.turn start (place / groupSize) ≤ shape.turn start (other / groupSize)
  /-- It is the lowest one of its group. -/
  lowest : ∀ other, other / groupSize = place / groupSize → chunk.contains other = false →
    place ≤ other

/-- The search of some of the open groups. -/
theorem findSome?_openGroups {among : Word} {place : Nat}
    (finds : (chunk.openGroups &&& among).findSome? chunk.firstFreeIn? = some place) :
    place < shape.chunkSize ∧ among.getLsbD (place / groupSize) = true ∧
      chunk.contains place = false ∧
      (∀ other, other / groupSize = place / groupSize → chunk.contains other = false →
        place ≤ other) ∧
      ∀ other < shape.chunkSize, chunk.contains other = false →
        among.getLsbD (other / groupSize) = true → place / groupSize ≤ other / groupSize := by
  obtain ⟨group, set, yields, first⟩ := Word.findSome?_eq_some finds
  rw [BitVec.getLsbD_and, Bool.and_eq_true] at set
  obtain ⟨isOpen, chosen⟩ := set
  obtain ⟨_, yields', rfl, free, lowest⟩ := firstFreeIn?_of_open isOpen
  rw [yields'] at yields
  cases yields
  have inside := ((chunk.getLsbD_openGroups _).1 isOpen).1
  refine ⟨(shape.lt_chunkSize_iff place).2 inside, chosen, free, lowest,
    fun other fits free' chosen' => Nat.le_of_not_lt fun less => ?_⟩
  have isOpen' := chunk.isOpen_of_free fits free'
  obtain ⟨_, found, -⟩ := firstFreeIn?_of_open isOpen'
  rw [first _ less (by rw [BitVec.getLsbD_and, isOpen', chosen']; rfl)] at found
  cases found

/-- The search of some of the open groups passes over no free slot of them. -/
theorem contains_of_findSome? {among : Word}
    (nothing : (chunk.openGroups &&& among).findSome? chunk.firstFreeIn? = none) {place : Nat}
    (fits : place < shape.chunkSize) (chosen : among.getLsbD (place / groupSize) = true) :
    chunk.contains place = true := by
  by_contra free
  rw [Bool.not_eq_true] at free
  have isOpen := chunk.isOpen_of_free fits free
  obtain ⟨_, found, -⟩ := firstFreeIn?_of_open isOpen
  rw [Word.findSome?_eq_none nothing (by rw [BitVec.getLsbD_and, isOpen, chosen]; rfl)] at found
  cases found

/-- The groups from the start on. -/
theorem getLsbD_onwards {group : Nat} (fits : group < 64) (start : Nat) :
    (Word.filled <<< start).getLsbD group = decide (start ≤ group) := by
  rw [BitVec.getLsbD_shiftLeft, Word.getLsbD_filled]
  by_cases onwards : start ≤ group
  · simp [onwards, fits]
    omega
  · simp [onwards, Nat.lt_of_not_le onwards]

/-- The search finds nothing only if all slots are taken. -/
theorem firstFree?_eq_none {start : Nat} (nothing : chunk.firstFree? start = none) :
    ∀ place < shape.chunkSize, chunk.contains place = true := by
  intro place fits
  have room := Nat.lt_of_lt_of_le ((shape.lt_chunkSize_iff place).1 fits) shape.groups_le
  unfold firstFree? at nothing
  dsimp only at nothing
  split at nothing
  · cases nothing
  · rename_i upper
    by_cases onwards : start ≤ place / groupSize
    · exact contains_of_findSome? upper fits
        (by rw [getLsbD_onwards room, decide_eq_true onwards])
    · refine contains_of_findSome? nothing fits ?_
      rw [BitVec.getLsbD_not, getLsbD_onwards room, decide_eq_false onwards, decide_eq_true room]
      rfl

/-- What the search finds is the first free slot in its order. -/
theorem firstFree?_eq_some {start place : Nat} (inside : start < shape.groups)
    (finds : chunk.firstFree? start = some place) : chunk.FirstFree start place := by
  have room {place : Nat} (fits : place < shape.chunkSize) : place / groupSize < 64 :=
    Nat.lt_of_lt_of_le ((shape.lt_chunkSize_iff place).1 fits) shape.groups_le
  -- The groups from the start on are searched first, then those before it.
  unfold firstFree? at finds
  dsimp only at finds
  split at finds
  · -- a group from the start on
    rename_i upper
    cases finds
    obtain ⟨fits, chosen, free, lowest, first⟩ := findSome?_openGroups upper
    rw [getLsbD_onwards (room fits), decide_eq_true_eq] at chosen
    refine ⟨fits, free, fun other fits' free' => ?_, lowest⟩
    rw [shape.turn_eq inside ((shape.lt_chunkSize_iff place).1 fits), if_pos chosen,
      shape.turn_eq inside ((shape.lt_chunkSize_iff other).1 fits')]
    split
    · rename_i onwards
      have order := first other fits' free'
        (by rw [getLsbD_onwards (room fits'), decide_eq_true onwards])
      omega
    · have last := (shape.lt_chunkSize_iff place).1 fits
      exact Nat.le_add_left_of_le (Nat.sub_le_sub_right (Nat.le_of_lt last) start)
  · -- a group before the start, for those from it on are full
    rename_i upper
    obtain ⟨fits, -, free, lowest, first⟩ := findSome?_openGroups finds
    refine ⟨fits, free, fun other fits' free' => ?_, lowest⟩
    have before : ¬start ≤ other / groupSize := fun onwards => by
      have taken := contains_of_findSome? upper fits'
        (by rw [getLsbD_onwards (room fits'), decide_eq_true onwards])
      rw [free'] at taken
      cases taken
    have order : place / groupSize ≤ other / groupSize := by
      refine first other fits' free' ?_
      rw [BitVec.getLsbD_not, getLsbD_onwards (room fits'), decide_eq_false before,
        decide_eq_true (room fits')]
      rfl
    rw [shape.turn_eq inside ((shape.lt_chunkSize_iff place).1 fits), if_neg (by omega),
      shape.turn_eq inside ((shape.lt_chunkSize_iff other).1 fits'), if_neg before]
    omega

end Chunk

end Slot

end GpuSync
