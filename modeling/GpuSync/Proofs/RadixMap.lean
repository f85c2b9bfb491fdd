import GpuSync.RadixMap
import Mathlib.Data.List.Basic
import Mathlib.Tactic.Common

/-!
# Counting and listing the entries of a map

`RadixMap.find?` determines what a map holds. Here the other views are tied to it.

* `size_insert` and `size_erase`: a write adds an entry unless there was one, a removal takes away
  the one there was.
* `mem_entries_iff`: the entries are what look-ups find, in ascending order
  (`ascending_entries`).
* `values_insert`: a write adds its value and takes away the one it replaces.
* `insert_comm` and `modify_comm`: the order of writes of different numbers does not matter.
-/

namespace GpuSync.RadixMap

variable {α : Type} {depth : Nat}

/-! ## Changing one value

A change is a look-up followed by an insertion. Changes of different numbers commute as trees, and
not only as far as look-ups can tell. -/

/-- Only places below the span of the tree hold values. -/
theorem lt_span_of_find? {m : RadixMap α depth} {i : Nat} {value : α}
    (h : m.find? i = some value) : i < span depth := by
  by_contra out
  rw [m.find?_eq_none_of_le (by omega)] at h
  cases h

/-- Reading after a change: the number changed has the new value, all others keep theirs. -/
theorem find?_modify (m : RadixMap α depth) (i j : Nat) (f : α → α) :
    (m.modify i f).find? j = if j = i then (m.find? i).map f else m.find? j := by
  unfold modify
  cases found : m.find? i with
  | none =>
    by_cases same : j = i
    · rw [if_pos same, same, found]
      rfl
    · rw [if_neg same]
  | some value => exact m.find?_insert j (f value) (lt_span_of_find? found)

/-- The lower half of what two halves were joined to. -/
@[simp] theorem low_fork (l h : RadixMap α depth) : (fork l h).low = l := rfl

/-- The upper half of what two halves were joined to. -/
@[simp] theorem high_fork (l h : RadixMap α depth) : (fork l h).high = h := rfl

/-- Writes of different numbers may be made in either order. -/
theorem insert_comm (m : RadixMap α depth) {i j : Nat} (apart : i ≠ j) (a b : α) :
    (m.insert i a).insert j b = (m.insert j b).insert i a := by
  induction depth generalizing i j with
  | zero =>
    by_cases hi : i = 0
    · simp [insert, hi, show j ≠ 0 by omega]
    · simp [insert, hi]
  | succ depth ih =>
    by_cases hi : i < span depth <;> by_cases hj : j < span depth
    · simp [insert, hi, hj, ih m.low apart]
    · simp [insert, hi, hj]
    · simp [insert, hi, hj]
    · simp [insert, hi, hj, ih m.high (show i - span depth ≠ j - span depth by omega)]

/-- Changes of different numbers may be made in either order. -/
theorem modify_comm (m : RadixMap α depth) {i j : Nat} (apart : i ≠ j) (f g : α → α) :
    (m.modify i f).modify j g = (m.modify j g).modify i f := by
  have first : (m.modify i f).find? j = m.find? j := by
    rw [m.find?_modify, if_neg apart.symm]
  have second : (m.modify j g).find? i = m.find? i := by
    rw [m.find?_modify, if_neg apart]
  rw [modify, first, modify.eq_1 (m.modify j g), second]
  unfold modify
  cases m.find? i with
  | none => cases m.find? j <;> rfl
  | some a =>
    cases m.find? j with
    | none => rfl
    | some b => exact m.insert_comm apart (f a) (g b)

/-- Writing several numbers leaves all others as they were. -/
theorem find?_foldl_insert_of_ne (m : RadixMap α depth) {entries : List (Nat × α)} {i : Nat}
    (fits : ∀ entry ∈ entries, entry.1 < span depth) (apart : ∀ entry ∈ entries, entry.1 ≠ i)
    (f : Nat × α → α) :
    (entries.foldl (fun m entry => m.insert entry.1 (f entry)) m).find? i = m.find? i := by
  induction entries generalizing m with
  | nil => rfl
  | cons entry rest ih =>
    rw [List.forall_mem_cons] at fits apart
    rw [List.foldl_cons, ih _ fits.2 apart.2, m.find?_insert i _ fits.1, if_neg apart.1.symm]

/-- Of several numbers written in ascending order, each has the value written. -/
theorem find?_foldl_insert_of_mem (m : RadixMap α depth) {entries : List (Nat × α)}
    (ascending : entries.Pairwise fun a b => a.1 < b.1)
    (fits : ∀ entry ∈ entries, entry.1 < span depth) {entry : Nat × α} (mem : entry ∈ entries)
    (f : Nat × α → α) :
    (entries.foldl (fun m entry => m.insert entry.1 (f entry)) m).find? entry.1 =
      some (f entry) := by
  induction entries generalizing m with
  | nil => cases mem
  | cons head rest ih =>
    rw [List.pairwise_cons] at ascending
    rw [List.forall_mem_cons] at fits
    rw [List.foldl_cons]
    rcases List.mem_cons.1 mem with rfl | mem
    · have apart : ∀ other ∈ rest, other.1 ≠ entry.1 := fun other later =>
        Nat.ne_of_gt (ascending.1 other later)
      rw [find?_foldl_insert_of_ne _ fits.2 apart, m.find?_insert _ _ fits.1, if_pos rfl]
    · exact ih _ ascending.2 fits.2 mem

/-! ## Sizes

The size is counted in the tree, by induction on its depth. An insertion goes into one half and
leaves the other as it is. -/

/-- A tree of two halves has the values of both. -/
theorem size_join (l h : RadixMap α depth) : (join l h).size = l.size + h.size := by
  unfold join
  split
  · rfl
  · rfl

/-- The values of a tree are in its halves. -/
theorem size_low_high (m : RadixMap α (depth + 1)) : m.low.size + m.high.size = m.size := by
  cases m <;> rfl

/-- A place in the lower half is found there. -/
theorem find?_low (m : RadixMap α (depth + 1)) {i : Nat} (hi : i < span depth) :
    m.low.find? i = m.find? i := by
  rw [← find?_fork_low_high m]
  simp [find?, hi]

/-- A place in the upper half is found there, counted from the middle. -/
theorem find?_high (m : RadixMap α (depth + 1)) {i : Nat} (hi : ¬i < span depth) :
    m.high.find? (i - span depth) = m.find? i := by
  rw [← find?_fork_low_high m]
  simp [find?, hi]

/-- A write adds an entry, unless there was one. -/
theorem size_insert (m : RadixMap α depth) {i : Nat} (value : α) (hi : i < span depth) :
    (m.insert i value).size + (if (m.find? i).isSome then 1 else 0) = m.size + 1 := by
  induction depth generalizing i with
  | zero =>
    obtain rfl : i = 0 := by simpa using hi
    cases m <;> simp [insert, find?, size]
  | succ depth ih =>
    rw [span_succ] at hi
    rw [insert, ← size_low_high m]
    by_cases low : i < span depth
    · have := ih m.low low
      rw [find?_low m low] at this
      simp only [low, if_true, size]
      omega
    · have := ih m.high (i := i - span depth) (by omega)
      rw [find?_high m low] at this
      simp only [low, if_false, size]
      omega

/-- A removal takes away the entry there was. -/
theorem size_erase (m : RadixMap α depth) (i : Nat) :
    (m.erase i).size + (if (m.find? i).isSome then 1 else 0) = m.size := by
  induction m generalizing i with
  | empty => simp [erase, size]
  | leaf value => by_cases hi : i = 0 <;> simp [erase, find?, size, hi]
  | @fork depth l h ihl ihh =>
    by_cases low : i < span depth
    · have := ihl i
      simp only [erase, find?, low, if_true, size_join, size]
      omega
    · have := ihh (i - span depth)
      simp only [erase, find?, low, if_false, size_join, size]
      omega

/-! ## Entries

Entries are listed from a base, which is added on the way down. The lower half comes first, which is
why they ascend. -/

/-- The entries are the places that a search finds, each counted from the base. -/
theorem mem_entriesFrom_iff (m : RadixMap α depth) (base i : Nat) (value : α) :
    (i, value) ∈ m.entriesFrom base ↔ base ≤ i ∧ m.find? (i - base) = some value := by
  induction m generalizing base with
  | empty => simp [entriesFrom]
  | leaf other =>
    simp only [entriesFrom, List.mem_singleton, find?, Prod.mk.injEq]
    constructor
    · rintro ⟨rfl, rfl⟩
      simp
    · rintro ⟨le, found⟩
      split at found
      · exact ⟨by omega, (Option.some.inj found).symm⟩
      · cases found
  | @fork depth l h ihl ihh =>
    rw [entriesFrom, List.mem_append, ihl, ihh, find?]
    by_cases low : i - base < span depth
    · rw [if_pos low]
      refine or_iff_left ?_
      rintro ⟨le, found⟩
      omega
    · rw [if_neg low, show i - (base + span depth) = i - base - span depth by omega]
      constructor
      · rintro (⟨le, found⟩ | ⟨le, found⟩)
        · exact absurd (lt_span_of_find? found) low
        · exact ⟨by omega, found⟩
      · rintro ⟨le, found⟩
        exact .inr ⟨by have := span_pos depth; omega, found⟩

/-- The entries are what look-ups find. -/
theorem mem_entries_iff (m : RadixMap α depth) {i : Nat} {value : α} :
    (i, value) ∈ m.entries ↔ m.find? i = some value := by
  rw [entries, mem_entriesFrom_iff]
  simp

/-- The entries of a tree are within its span. -/
theorem lt_of_mem_entriesFrom {m : RadixMap α depth} {base : Nat} {entry : Nat × α}
    (mem : entry ∈ m.entriesFrom base) : base ≤ entry.1 ∧ entry.1 < base + span depth := by
  obtain ⟨le, found⟩ := (m.mem_entriesFrom_iff base entry.1 entry.2).1 mem
  exact ⟨le, by have := lt_span_of_find? found; omega⟩

/-- The entries come in the order of their places, since those of the lower half come first. -/
theorem ascending_entriesFrom (m : RadixMap α depth) (base : Nat) :
    (m.entriesFrom base).Pairwise fun a b => a.1 < b.1 := by
  induction m generalizing base with
  | empty => exact .nil
  | leaf value => exact List.pairwise_singleton _ _
  | fork l h ihl ihh =>
    refine List.pairwise_append.2 ⟨ihl base, ihh _, fun a mem b mem' => ?_⟩
    exact Nat.lt_of_lt_of_le (lt_of_mem_entriesFrom mem).2 (lt_of_mem_entriesFrom mem').1

/-- Entries come in ascending order, so each number at most once. -/
theorem ascending_entries (m : RadixMap α depth) : m.entries.Pairwise fun a b => a.1 < b.1 :=
  m.ascending_entriesFrom 0

/-! ## Values

The values are the entries without their numbers. They are used as a list up to order, to count what
is stored. -/

/-- The entries without their places are the values. -/
theorem map_snd_entriesFrom (m : RadixMap α depth) (base : Nat) :
    (m.entriesFrom base).map (·.2) = m.values := by
  unfold values entries
  induction m generalizing base with
  | empty => rfl
  | leaf value => rfl
  | @fork depth l h ihl ihh =>
    simp only [entriesFrom, List.map_append, Nat.zero_add]
    rw [ihl base, ihh (base + span depth), ← ihh (span depth)]

/-- The values of two halves joined are those of the lower one and then those of the upper one. -/
theorem values_fork (l h : RadixMap α depth) : (fork l h).values = l.values ++ h.values := by
  rw [values, entries, entriesFrom, List.map_append, map_snd_entriesFrom, map_snd_entriesFrom]

/-- The values of a tree are those of its lower half and then those of its upper half. -/
theorem values_low_high (m : RadixMap α (depth + 1)) :
    m.low.values ++ m.high.values = m.values := by
  cases m with
  | empty => rfl
  | fork l h => exact (values_fork l h).symm

/-- A write adds its value and takes away the one it replaces. As lists up to order, since the
number may stand anywhere. -/
theorem values_insert (m : RadixMap α depth) {i : Nat} (value : α) (hi : i < span depth) :
    ((m.find? i).toList ++ (m.insert i value).values).Perm (value :: m.values) := by
  induction depth generalizing i with
  | zero =>
    obtain rfl : i = 0 := by simpa using hi
    cases m with
    | empty => exact .refl _
    | leaf old => exact .swap value old []
  | succ depth ih =>
    rw [span_succ] at hi
    rw [insert, ← values_low_high m]
    by_cases low : i < span depth
    · rw [if_pos low, values_fork, ← find?_low m low, ← List.append_assoc, ← List.cons_append]
      exact (ih m.low low).append_right _
    · have rest := ih m.high (i := i - span depth) (by omega)
      rw [find?_high m low] at rest
      rw [if_neg low, values_fork]
      refine List.perm_append_comm_assoc _ _ _ |>.trans ?_
      exact (rest.append_left m.low.values).trans List.perm_middle

/-- A change that keeps some trait of the value keeps it of all values. -/
theorem values_modify (m : RadixMap α depth) (i : Nat) {f : α → α} {β : Type} {trait : α → β}
    (keeps : ∀ value, trait (f value) = trait value) :
    ((m.modify i f).values.map trait).Perm (m.values.map trait) := by
  unfold modify
  cases found : m.find? i with
  | none => exact .refl _
  | some old =>
    have all := (m.values_insert (f old) (lt_span_of_find? found)).map trait
    rw [found, Option.toList_some, List.singleton_append, List.map_cons, List.map_cons,
      keeps] at all
    exact all.cons_inv

/-- The values are what look-ups find, number by number. -/
theorem values_eq_filterMap (m : RadixMap α depth) :
    m.values = (List.range (span depth)).filterMap m.find? := by
  induction m with
  | empty => simp [values, entries, entriesFrom]
  | leaf value => rfl
  | @fork depth l h ihl ihh =>
    have low : (List.range (span depth)).filterMap (fork l h).find? =
        (List.range (span depth)).filterMap l.find? := by
      refine List.filterMap_congr fun i mem => ?_
      rw [find?, if_pos (List.mem_range.1 mem)]
    have high : ((List.range (span depth)).map (span depth + ·)).filterMap (fork l h).find? =
        (List.range (span depth)).filterMap h.find? := by
      rw [List.filterMap_map]
      refine List.filterMap_congr fun i _ => ?_
      rw [Function.comp_apply, find?, if_neg (by omega), Nat.add_sub_cancel_left]
    rw [values_fork, ihl, ihh, span_succ, List.range_add, List.filterMap_append, low, high]

end GpuSync.RadixMap
