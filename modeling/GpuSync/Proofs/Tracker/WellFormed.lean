import GpuSync.Proofs.Slot.Pool
import GpuSync.Tracker.Basic
import Mathlib.Tactic.Common

/-!
# What every tracker keeps

A tracker has an index for each kind of resource, and the entries of all kinds share one pool. For
the two to fit, no slot may be in the indices twice, and every slot in an index must be taken and
have a value (`Tracker.WellFormed`). Each operation keeps this, and does to the look-ups what its
name says:

* `lookup_enter` and `size_enter` for a key that gets a slot,
* `lookup_modify` for a key whose entry is changed,
* `lookup_remove` and `size_remove` for a key that is forgotten.
-/

namespace GpuSync.Tracker

/-- The indices and the pool fit together. Every slot in use has one key that leads to it, and every
key leads to a slot with an entry. -/
structure WellFormed (tracker : Tracker) : Prop where
  /-- The pool has the chunks of its shape. -/
  whole : tracker.entries.Whole
  /-- No two keys have one slot, whatever their kinds. -/
  distinct : ∀ a b slot, tracker.slot? a = some slot → tracker.slot? b = some slot → a = b
  /-- The slot of a key is taken and has a value. -/
  valued : ∀ key slot, tracker.slot? key = some slot →
    ∃ entry, tracker.entries.get? slot = some entry
  /-- No other slot is taken. -/
  counted : tracker.entries.assignedCount = tracker.size

/-! ## Keys and slots

There is one index for each kind of resource, from the words of handles to slots. A key is its kind
and its word, so two keys have one place in the indices only if they are the same. -/

/-- The word of a handle is a place of the index. -/
theorem word_lt (key : Key) : key.handle.word.toNat < span 32 := key.handle.word.toNat_lt

/-- A key is told by its kind and the word of its handle, which is what the indices go by. -/
theorem eq_iff_kind_word (a b : Key) :
    a = b ↔ a.kind = b.kind ∧ a.handle.word.toNat = b.handle.word.toNat := by
  obtain ⟨kind, ⟨word⟩⟩ := a
  obtain ⟨kind', ⟨word'⟩⟩ := b
  simp [UInt32.toNat_inj]

/-- Whatever an index holds is the slot of a key of its kind. -/
theorem exists_key_of_find? (tracker : Tracker) {kind : Kind} {number slot : Nat}
    (found : (tracker.index.get kind).find? number = some slot) :
    ∃ key : Key, key.kind = kind ∧ key.handle.word.toNat = number ∧
      tracker.slot? key = some slot := by
  have word : (UInt32.ofNat number).toNat = number :=
    UInt32.toNat_ofNat_of_lt' (RadixMap.lt_span_of_find? found)
  refine ⟨⟨kind, ⟨UInt32.ofNat number⟩⟩, rfl, word, ?_⟩
  unfold slot?
  dsimp only
  rw [word]
  exact found

/-- An entry is looked up by the slot of its key. -/
theorem lookup_eq_bind (tracker : Tracker) (key : Key) :
    tracker.lookup key = (tracker.slot? key).bind tracker.entries.get? := rfl

/-- A key is found exactly if it is registered. -/
theorem WellFormed.isSome_lookup {tracker : Tracker} (h : tracker.WellFormed) (key : Key) :
    (tracker.lookup key).isSome = tracker.isTracked key := by
  rw [lookup_eq_bind, isTracked]
  cases at' : tracker.slot? key with
  | none => rfl
  | some slot =>
    obtain ⟨entry, found⟩ := h.valued key slot at'
    simp [found]

/-- Replacing the index of one kind changes the size by what it holds. -/
theorem size_set (tracker : Tracker) (kind : Kind) (slots : RadixMap Nat 32)
    (entries : Slot.Pool shape Entry) :
    (Tracker.mk (tracker.index.set kind slots) entries).size + (tracker.index.get kind).size =
      tracker.size + slots.size := by
  have found : tracker.index.toList[(kind.index : Nat)]? = some (tracker.index.get kind) := by
    simp [PerKind.toList, PerKind.get]
  have sizes := foldr_add_set (fun slots : RadixMap Nat 32 => slots.size) slots found
  rw [size, size, ← sizes]
  simp [PerKind.toList, PerKind.set, Vector.toList_set]

/-- To write one place of one index changes the slot of one key. -/
theorem slot?_set (tracker : Tracker) (key other : Key) {slots : RadixMap Nat 32}
    {value : Option Nat} (entries : Slot.Pool shape Entry)
    (found : ∀ number, slots.find? number =
      if number = key.handle.word.toNat then value
      else (tracker.index.get key.kind).find? number) :
    (Tracker.mk (tracker.index.set key.kind slots) entries).slot? other =
      if other = key then value else tracker.slot? other := by
  unfold slot?
  rw [PerKind.get_set]
  by_cases kinds : other.kind = key.kind
  · rw [if_pos kinds, found]
    simp only [eq_iff_kind_word other key, kinds, true_and]
  · have apart : other ≠ key := fun eq => kinds (congrArg Key.kind eq)
    rw [if_neg kinds, if_neg apart]

/-! ## Changing an entry

An entry is changed in its slot. The indices are not touched, and no other key has that slot. -/

variable {tracker : Tracker}

/-- To change an entry moves no key. -/
theorem slot?_modify (tracker : Tracker) (key other : Key) (f : Entry → Entry) :
    (tracker.modify key f).slot? other = tracker.slot? other := by
  unfold modify
  split <;> rfl

/-- To change an entry tracks as many keys. -/
theorem size_modify (tracker : Tracker) (key : Key) (f : Entry → Entry) :
    (tracker.modify key f).size = tracker.size := by
  unfold modify
  split <;> rfl

/-- Changing the entry of a key leaves those of all other keys. -/
theorem lookup_modify (h : tracker.WellFormed) (key other : Key) (f : Entry → Entry) :
    (tracker.modify key f).lookup other =
      if other = key then (tracker.lookup key).map f else tracker.lookup other := by
  rw [lookup_eq_bind, slot?_modify, lookup_eq_bind, lookup_eq_bind]
  unfold modify
  cases at' : tracker.slot? key with
  | none =>
    by_cases same : other = key
    · simp [same, at']
    · simp [same]
  | some slot =>
    by_cases same : other = key
    · simp [same, at', Slot.Pool.get?_modify]
    · rw [if_neg same]
      cases elsewhere : tracker.slot? other with
      | none => rfl
      | some slot' =>
        have apart : slot' ≠ slot := by
          rintro rfl
          exact same (h.distinct other key slot' elsewhere at')
        simp [Slot.Pool.get?_modify, apart]

/-- To change an entry leaves a tracker well formed. -/
theorem WellFormed.modify (h : tracker.WellFormed) (key : Key) (f : Entry → Entry) :
    (tracker.modify key f).WellFormed where
  whole := by
    unfold Tracker.modify
    split
    · exact h.whole.modify _ f
    · exact h.whole
  distinct := by
    intro a b slot
    rw [slot?_modify, slot?_modify]
    exact h.distinct a b slot
  -- The look-up after the change has an entry where it had one before. Its slot is the same.
  valued := by
    intro other slot
    rw [slot?_modify]
    intro at'
    have found : ((tracker.modify key f).lookup other).isSome = true := by
      have known := h.isSome_lookup other
      rw [isTracked, at', Option.isSome_some] at known
      rw [lookup_modify h]
      by_cases same : other = key
      · rw [if_pos same, Option.isSome_map, ← same]
        exact known
      · rw [if_neg same]
        exact known
    rw [lookup_eq_bind, slot?_modify, at', Option.bind_some] at found
    exact Option.isSome_iff_exists.1 found
  counted := by
    rw [size_modify, ← h.counted]
    unfold Tracker.modify
    split
    · exact Slot.Pool.assignedCount_modify _ _ f
    · rfl

/-! ## Giving a key a slot

The slot was free before, and by the invariant no index leads to it. So entering the key in its
index keeps slots apart, whichever free slot the search has found. -/

/-- The tracker after a key got a slot. -/
def enter (tracker : Tracker) (key : Key) (entry : Entry) (slot : Nat) : Tracker where
  index := tracker.index.set key.kind
    ((tracker.index.get key.kind).insert key.handle.word.toNat slot)
  entries := (tracker.entries.take slot).store slot entry

/-- Registering a key gives it the first free slot in the order of the seed. -/
theorem register_eq (tracker : Tracker) (seed : Nat) (key : Key) (entry : Entry) :
    tracker.register seed key entry =
      match tracker.entries.firstFree? seed with
      | none => .error (.full shape.capacity)
      | some slot => .ok (tracker.enter key entry slot) := by
  unfold register Slot.Pool.assign
  cases tracker.entries.firstFree? seed with
  | none => rfl
  | some slot => rfl

section

variable {key : Key} {slot : Nat}

/-- To enter a key gives that key its slot and no other. -/
theorem slot?_enter (tracker : Tracker) (key other : Key) (entry : Entry) (slot : Nat) :
    (tracker.enter key entry slot).slot? other =
      if other = key then some slot else tracker.slot? other :=
  slot?_set tracker key other _ fun number => RadixMap.find?_insert _ number slot (word_lt key)

/-- To enter a key that is not tracked tracks one more. -/
theorem size_enter (untracked : tracker.slot? key = none) (entry : Entry) (slot : Nat) :
    (tracker.enter key entry slot).size = tracker.size + 1 := by
  have sizes := size_set tracker key.kind
    ((tracker.index.get key.kind).insert key.handle.word.toNat slot)
    ((tracker.entries.take slot).store slot entry)
  have one := (tracker.index.get key.kind).size_insert slot (word_lt key)
  rw [show (tracker.index.get key.kind).find? key.handle.word.toNat = none from untracked] at one
  simp only [Option.isSome_none, Bool.false_eq_true, if_false] at one
  unfold enter
  omega

/-- A key that gets a slot has the entry, and all other keys keep theirs. Whatever slot the search
has found, no other key leads to it. -/
theorem lookup_enter (h : tracker.WellFormed) (bound : slot < shape.capacity)
    (free : tracker.entries.isAssigned slot = false) (key other : Key) (entry : Entry) :
    (tracker.enter key entry slot).lookup other =
      if other = key then some entry else tracker.lookup other := by
  rw [lookup_eq_bind, slot?_enter, lookup_eq_bind]
  have values := Slot.Pool.get?_take_store h.whole (i := slot)
  by_cases same : other = key
  · rw [if_pos same, if_pos same, Option.bind_some, enter, values slot bound entry, if_pos rfl]
  · rw [if_neg same, if_neg same]
    cases at' : tracker.slot? other with
    | none => rfl
    | some slot' =>
      have apart : slot' ≠ slot := by
        rintro rfl
        obtain ⟨entry, found⟩ := h.valued other slot' at'
        rw [(Slot.Pool.get?_eq_some_iff.1 found).1] at free
        cases free
      rw [Option.bind_some, Option.bind_some, enter, values slot' bound entry, if_neg apart]

/-- To enter a key that is not tracked, with a slot that is free, leaves a tracker well formed. -/
theorem WellFormed.enter (h : tracker.WellFormed) (bound : slot < shape.capacity)
    (free : tracker.entries.isAssigned slot = false) (untracked : tracker.slot? key = none)
    (entry : Entry) : (tracker.enter key entry slot).WellFormed := by
  -- no other key has the slot, since it was free
  have unused : ∀ other, tracker.slot? other ≠ some slot := by
    intro other at'
    obtain ⟨entry, found⟩ := h.valued other slot at'
    rw [(Slot.Pool.get?_eq_some_iff.1 found).1] at free
    cases free
  refine {
    whole := h.whole.take slot
    distinct := fun a b slot' => ?distinct
    valued := fun other slot' => ?valued
    counted := ?counted }
  -- One of the two keys may be the one entered. The other can not have its slot.
  case distinct =>
    rw [slot?_enter, slot?_enter]
    by_cases first : a = key <;> by_cases second : b = key
    · exact fun _ _ => first.trans second.symm
    · rw [if_pos first, if_neg second]
      rintro ⟨⟩ at'
      exact absurd at' (unused b)
    · rw [if_neg first, if_pos second]
      rintro at' ⟨⟩
      exact absurd at' (unused a)
    · rw [if_neg first, if_neg second]
      exact h.distinct a b slot'
  case valued =>
    rw [slot?_enter, Tracker.enter]
    have values := Slot.Pool.get?_take_store h.whole slot' bound entry
    by_cases same : other = key
    · rw [if_pos same]
      rintro ⟨⟩
      exact ⟨entry, by rw [values, if_pos rfl]⟩
    · rw [if_neg same]
      intro at'
      obtain ⟨entry', found⟩ := h.valued other slot' at'
      refine ⟨entry', ?_⟩
      rw [values, if_neg fun eq => unused other (by rw [at', eq])]
      exact found
  case counted =>
    rw [size_enter untracked, ← h.counted]
    exact Slot.Pool.assignedCount_take h.whole bound free

end

/-! ## Forgetting a key

The slot is given back and the place in the index is cleared. Its value stays in the pool, out of
reach until the slot is taken again and overwritten. -/

/-- To forget a key that is not tracked does nothing. -/
theorem remove_of_untracked {key : Key} (untracked : tracker.slot? key = none) :
    tracker.remove key = (none, tracker) := by
  unfold remove
  rw [untracked]

/-- To forget a key answers with what was known of it. -/
theorem fst_remove (tracker : Tracker) (key : Key) :
    (tracker.remove key).1 = tracker.lookup key := by
  rw [lookup_eq_bind]
  unfold remove
  cases tracker.slot? key <;> rfl

/-- To forget a key takes its slot away and no other. -/
theorem slot?_remove (tracker : Tracker) (key other : Key) :
    (tracker.remove key).2.slot? other = if other = key then none else tracker.slot? other := by
  cases at' : tracker.slot? key with
  | none =>
    rw [remove_of_untracked at']
    by_cases same : other = key
    · rw [if_pos same, same, at']
    · rw [if_neg same]
  | some slot =>
    unfold remove
    rw [at']
    exact slot?_set tracker key other _ fun number => RadixMap.find?_erase _ _ number

/-- To forget a key that is tracked tracks one less. -/
theorem size_remove {key : Key} {slot : Nat} (at' : tracker.slot? key = some slot) :
    (tracker.remove key).2.size + 1 = tracker.size := by
  have sizes := size_set tracker key.kind
    ((tracker.index.get key.kind).erase key.handle.word.toNat) (tracker.entries.unassign slot).2
  have one := (tracker.index.get key.kind).size_erase key.handle.word.toNat
  rw [show (tracker.index.get key.kind).find? key.handle.word.toNat = some slot from at'] at one
  simp only [Option.isSome_some, if_true] at one
  unfold remove
  rw [at']
  dsimp only
  omega

/-- A key that is forgotten has no entry, and all other keys keep theirs. -/
theorem lookup_remove (h : tracker.WellFormed) (key other : Key) :
    (tracker.remove key).2.lookup other = if other = key then none else tracker.lookup other := by
  rw [lookup_eq_bind, slot?_remove, lookup_eq_bind]
  by_cases same : other = key
  · rw [if_pos same, if_pos same]
    rfl
  · rw [if_neg same, if_neg same]
    unfold remove
    cases at' : tracker.slot? key with
    | none => rfl
    | some slot =>
      cases elsewhere : tracker.slot? other with
      | none => rfl
      | some slot' =>
        have apart : slot' ≠ slot := by
          rintro rfl
          exact same (h.distinct other key slot' elsewhere at')
        rw [Option.bind_some, Option.bind_some]
        dsimp only
        rw [Slot.Pool.get?_unassign h.whole, if_neg apart]

/-- To forget a key leaves a tracker well formed: its slot is given back, and no other key has it.
-/
theorem WellFormed.remove (h : tracker.WellFormed) (key : Key) :
    (tracker.remove key).2.WellFormed := by
  cases at' : tracker.slot? key with
  | none =>
    rw [remove_of_untracked at']
    exact h
  | some slot =>
    obtain ⟨entry, found⟩ := h.valued key slot at'
    refine {
      whole := ?whole
      distinct := fun a b slot' => ?distinct
      valued := fun other slot' => ?valued
      counted := ?counted }
    case whole =>
      unfold Tracker.remove
      rw [at']
      exact h.whole.unassign slot
    case distinct =>
      rw [slot?_remove, slot?_remove]
      by_cases first : a = key
      · rw [if_pos first]
        nofun
      · by_cases second : b = key
        · rw [if_pos second]
          nofun
        · rw [if_neg first, if_neg second]
          exact h.distinct a b slot'
    case valued =>
      rw [slot?_remove]
      by_cases same : other = key
      · rw [if_pos same]
        nofun
      · rw [if_neg same]
        intro elsewhere
        -- The slot given back is that of the forgotten key, so no other key has it.
        have apart : slot' ≠ slot := by
          rintro rfl
          exact same (h.distinct other key slot' elsewhere at')
        obtain ⟨entry', found'⟩ := h.valued other slot' elsewhere
        refine ⟨entry', ?_⟩
        unfold Tracker.remove
        rw [at']
        dsimp only
        rw [Slot.Pool.get?_unassign h.whole, if_neg apart]
        exact found'
    -- One slot and one key less.
    case counted =>
      have sizes := size_remove at'
      have count := Slot.Pool.assignedCount_unassign h.whole
        (Slot.Pool.get?_eq_some_iff.1 found).1
      have same := h.counted
      have entries : (tracker.remove key).2.entries = (tracker.entries.unassign slot).2 := by
        unfold Tracker.remove
        rw [at']
      rw [entries]
      omega

/-- A new tracker has neither keys nor slots. -/
theorem wellFormed_empty : empty.WellFormed where
  whole := Slot.Pool.whole_empty
  distinct := by simp [slot?, empty]
  valued := by simp [slot?, empty]
  counted := by decide

end GpuSync.Tracker
