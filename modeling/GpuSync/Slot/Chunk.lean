import GpuSync.Slot.Shape
import GpuSync.Slot.Word

/-!
# Chunks of slots

The slots of a chunk are searched in groups of sixty-four. Which slots of a group are taken is a
word, and which groups are full is one more word, so that full groups are passed over without a
look at them. That word is written only when a group becomes full or stops being so.

## Main definitions

* `GpuSync.Slot.Chunk` with `contains`, `mark` and `count`.
* `GpuSync.Slot.Chunk.firstFree?` searches a chunk from one of its groups on.

## Main statements

* `GpuSync.Slot.Chunk.full_mark` is why the word for the groups is right at all times.
-/

namespace GpuSync.Slot

/-- One chunk of slots. -/
structure Chunk (shape : Shape) where
  /-- Which slots are taken: a word for each group, with a bit for each of its slots. -/
  words : List Word
  /-- Which groups are full. -/
  full : Word
  /-- Whether the chunk has storage. -/
  stored : Bool
  /-- There is a word for each group. -/
  length_words : words.length = shape.groups
  /-- The groups said to be full are those that are. -/
  full_iff : ∀ group, full.getLsbD group = true ↔ words[group]? = some .filled

namespace Chunk

variable {shape : Shape}

/-- The words of free slots, with no group full. -/
theorem full_vacant (group : Nat) :
    (0 : Word).getLsbD group = true ↔
      (List.replicate shape.groups (0 : Word))[group]? = some .filled := by
  have apart : ¬0#64 = Word.filled := by decide
  simp [List.getElem?_replicate, apart]

/-- A chunk that was never used. -/
def fresh : Chunk shape where
  words := List.replicate shape.groups 0
  full := 0
  stored := false
  length_words := List.length_replicate
  full_iff := full_vacant

/-- Whether a slot is taken; slots out of range are not. -/
def contains (chunk : Chunk shape) (place : Nat) : Bool :=
  match chunk.words[place / groupSize]? with
  | some word => word.getLsbD (place % groupSize)
  | none => false

/-- How many slots are taken. -/
def count (chunk : Chunk shape) : Nat := chunk.words.foldr (fun word n => word.count + n) 0

/-- Whether all groups are full. -/
def isFull (chunk : Chunk shape) : Bool := chunk.full == Word.firstBits shape.groups

/-! ## Marking slots

The word of full groups is written only when a group becomes full or stops being so. That this is
the same as writing it every time is shown beside the definition. -/

/-- The word of a group after one of its slots is taken or freed, if the group was full or is
now. -/
def crossing? (chunk : Chunk shape) (place : Nat) (taken : Bool) : Option Word :=
  match chunk.words[place / groupSize]? with
  | some word =>
    let marked := word.put (place % groupSize) taken
    if word = .filled ∨ marked = .filled then some marked else none
  | none => none

/-- Which groups are full after a slot is taken or freed. -/
def fullAfter (chunk : Chunk shape) (place : Nat) (taken : Bool) : Word :=
  match chunk.crossing? place taken with
  | some word => chunk.full.put (place / groupSize) (word == .filled)
  | none => chunk.full

/-- The words of the groups after a slot is taken or freed. -/
def wordsAfter (chunk : Chunk shape) (place : Nat) (taken : Bool) : List Word :=
  chunk.words.modify (place / groupSize) fun word => word.put (place % groupSize) taken

/-- Looking at a group only as it becomes full, or stops being so, is enough. -/
theorem full_mark (chunk : Chunk shape) (place : Nat) (taken : Bool) (group : Nat) :
    (chunk.fullAfter place taken).getLsbD group = true ↔
      (chunk.wordsAfter place taken)[group]? = some .filled := by
  unfold fullAfter crossing? wordsAfter
  rw [List.getElem?_modify]
  cases found : chunk.words[place / groupSize]? with
  | none =>
    by_cases same : place / groupSize = group
    · simp [← same, found, chunk.full_iff]
    · simp [same, chunk.full_iff]
  | some word =>
    have fits : place / groupSize < 64 := by
      have bound := (List.getElem?_eq_some_iff.1 found).1
      rw [chunk.length_words] at bound
      exact Nat.lt_of_lt_of_le bound shape.groups_le
    by_cases crosses : word = .filled ∨ word.put (place % groupSize) taken = .filled
    · simp only [if_pos crosses]
      rw [Word.getLsbD_put _ group _ fits]
      by_cases same : place / groupSize = group
      · simp [← same, found]
      · simp [same, Ne.symm same, chunk.full_iff]
    · obtain ⟨before, after⟩ := not_or.1 crosses
      simp only [if_neg crosses]
      by_cases same : place / groupSize = group
      · simp [← same, found, chunk.full_iff, before, after]
      · simp [same, chunk.full_iff]

/-- Takes a slot, or frees it. The first slot that is taken gives the chunk its storage. -/
def mark (chunk : Chunk shape) (place : Nat) (taken : Bool) : Chunk shape where
  words := chunk.wordsAfter place taken
  full := chunk.fullAfter place taken
  stored := chunk.stored || taken
  length_words := (List.length_modify _ _ _).trans chunk.length_words
  full_iff := chunk.full_mark place taken

/-- Frees all slots. -/
def freeAll (chunk : Chunk shape) : Chunk shape :=
  { fresh with stored := chunk.stored }

/-- To give back all places of a new chunk changes nothing. -/
@[simp] theorem freeAll_fresh : (fresh : Chunk shape).freeAll = fresh := rfl

/-- A chunk with free slots only is not full. -/
theorem isFull_freeAll (chunk : Chunk shape) : chunk.freeAll.isFull = false := by
  have first : (Word.firstBits shape.groups).getLsbD 0 = true := by
    simp [shape.groups_pos]
  refine Bool.eq_false_iff.2 fun isFull => ?_
  rw [← eq_of_beq isFull] at first
  simp [freeAll, fresh] at first

/-- A chunk whose groups are as full as before is as full as before. -/
theorem isFull_mark {chunk : Chunk shape} {place : Nat} {taken : Bool}
    (stays : chunk.crossing? place taken = none) :
    (chunk.mark place taken).isFull = chunk.isFull := by
  have same : (chunk.mark place taken).full = chunk.full := by
    simp [mark, fullAfter, stays]
  rw [isFull, same, isFull]

/-! ## Searching

A search starts at the group of the caller's seed, so that callers with different seeds start apart
from each other. The slots within a group are searched from the lowest on. -/

/-- The groups that are not full. -/
def openGroups (chunk : Chunk shape) : Word := ~~~chunk.full &&& Word.firstBits shape.groups

/-- The lowest free slot of a group. -/
def firstFreeIn? (chunk : Chunk shape) (group : Nat) : Option Nat :=
  match chunk.words[group]? with
  | some word => (~~~word).lowest?.map (groupSize * group + ·)
  | none => none

/-- The first free slot in the cyclic order of the groups from `start` on. Groups that are full are
passed over. -/
def firstFree? (chunk : Chunk shape) (start : Nat) : Option Nat :=
  let onwards := Word.filled <<< start
  match (chunk.openGroups &&& onwards).findSome? chunk.firstFreeIn? with
  | some place => some place
  | none => (chunk.openGroups &&& ~~~onwards).findSome? chunk.firstFreeIn?

end Chunk

end GpuSync.Slot
