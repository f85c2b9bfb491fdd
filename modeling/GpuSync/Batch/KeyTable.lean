import GpuSync.Resource.Key

/-!
# Tables by key

A table gives some resources a value each. Its entries are in ascending order of their keys, so a
table is determined by its look-ups, and going through it visits the keys in order.

## Main definitions

* `GpuSync.KeyTable` with `find?`, `insert`, `map` and `size`.

## Main statements

* `GpuSync.KeyTable.find?_insert` and `GpuSync.KeyTable.find?_map`.
-/

namespace GpuSync

/-- A finite map from keys, in the order of the keys. -/
structure KeyTable (ν : Type) where
  /-- The entries. -/
  entries : List (Key × ν)
  /-- Keys come in ascending order, so each at most once. -/
  ascending : entries.Pairwise fun a b => a.1.rank < b.1.rank

namespace KeyTable

variable {ν μ : Type}

/-- A table without entries. -/
def empty : KeyTable ν := ⟨[], .nil⟩

/-- The keys, in order. -/
def keys (table : KeyTable ν) : List Key := table.entries.map (·.1)

/-- How many keys have a value. -/
def size (table : KeyTable ν) : Nat := table.entries.length

/-- The value of a key among some entries. -/
def findIn? (key : Key) : List (Key × ν) → Option ν
  | [] => none
  | entry :: rest => if entry.1 = key then some entry.2 else findIn? key rest

/-- The value of a key. -/
def find? (table : KeyTable ν) (key : Key) : Option ν := findIn? key table.entries

/-- Whether a key has a value. -/
def contains (table : KeyTable ν) (key : Key) : Bool := (table.find? key).isSome

/-- Sets the value of a key among ascending entries. -/
def insertIn (key : Key) (value : ν) : List (Key × ν) → List (Key × ν)
  | [] => [(key, value)]
  | entry :: rest =>
    if key.rank < entry.1.rank then (key, value) :: entry :: rest
    else if key.rank = entry.1.rank then (key, value) :: rest
    else entry :: insertIn key value rest

/-- An insertion brings in no entry but its own. -/
theorem mem_insertIn {key : Key} {value : ν} {entries : List (Key × ν)} {entry : Key × ν}
    (h : entry ∈ insertIn key value entries) : entry = (key, value) ∨ entry ∈ entries := by
  induction entries with
  | nil => simpa [insertIn] using h
  | cons head rest ih =>
    rw [insertIn] at h
    split at h
    · simpa using h
    · split at h
      · rcases List.mem_cons.1 h with h | h
        · exact .inl h
        · exact .inr (List.mem_cons_of_mem _ h)
      · rcases List.mem_cons.1 h with h | h
        · exact .inr (h ▸ List.mem_cons_self)
        · exact (ih h).imp_right (List.mem_cons_of_mem _)

/-- An insertion keeps the entries in ascending order, which is why a table is never sorted again.
-/
theorem ascending_insertIn (key : Key) (value : ν) {entries : List (Key × ν)}
    (h : entries.Pairwise fun a b => a.1.rank < b.1.rank) :
    (insertIn key value entries).Pairwise fun a b => a.1.rank < b.1.rank := by
  induction entries with
  | nil => simp [insertIn]
  | cons head rest ih =>
    obtain ⟨above, ascending⟩ := List.pairwise_cons.1 h
    rw [insertIn]
    split
    · rename_i below
      refine List.pairwise_cons.2 ⟨fun entry mem => ?_, h⟩
      rcases List.mem_cons.1 mem with rfl | mem
      · exact below
      · exact Nat.lt_trans below (above entry mem)
    · split
      · rename_i same
        refine List.pairwise_cons.2 ⟨fun entry mem => ?_, ascending⟩
        simpa only [same] using above entry mem
      · refine List.pairwise_cons.2 ⟨fun entry mem => ?_, ih ascending⟩
        rcases mem_insertIn mem with rfl | mem
        · show head.1.rank < key.rank
          omega
        · exact above entry mem

/-- Sets the value of a key. -/
def insert (table : KeyTable ν) (key : Key) (value : ν) : KeyTable ν :=
  ⟨insertIn key value table.entries, ascending_insertIn key value table.ascending⟩

/-- Changes every value, which may depend on its key. -/
def map (table : KeyTable ν) (f : Key → ν → μ) : KeyTable μ :=
  ⟨table.entries.map fun entry => (entry.1, f entry.1 entry.2),
    by simpa only [List.pairwise_map] using table.ascending⟩

/-! ## One law per operation

Each law says what a look-up finds after the operation. The entries are in the order of their keys,
so a look-up that passes the place of a key need not go on. -/

/-- Nothing is found in an empty table. -/
@[simp] theorem find?_empty (key : Key) : (empty : KeyTable ν).find? key = none := rfl

/-- Mapping a table maps every value it has. -/
theorem find?_map (table : KeyTable ν) (f : Key → ν → μ) (key : Key) :
    (table.map f).find? key = (table.find? key).map (f key) := by
  obtain ⟨entries, _⟩ := table
  simp only [find?, map]
  induction entries with
  | nil => rfl
  | cons head rest ih =>
    by_cases h : head.1 = key
    · subst h
      simp [findIn?]
    · have ascending : rest.Pairwise fun a b => a.1.rank < b.1.rank := by
        rename_i all
        exact (List.pairwise_cons.1 all).2
      simp [findIn?, h, ih ascending]

/-- Reading after a write: the key written has the new value, all others keep theirs. -/
theorem find?_insert (table : KeyTable ν) (key other : Key) (value : ν) :
    (table.insert key value).find? other =
      if other = key then some value else table.find? other := by
  obtain ⟨entries, ascending⟩ := table
  simp only [find?, insert]
  clear ascending
  induction entries with
  | nil => simp [insertIn, findIn?, eq_comm]
  | cons head rest ih =>
    rw [insertIn]
    split
    · simp [findIn?, eq_comm]
    · split
      · rename_i same
        have : head.1 = key := (Key.eq_of_rank_eq same).symm
        by_cases h : other = key
        · simp [findIn?, h]
        · simp [findIn?, h, this, Ne.symm h]
      · rename_i distinct
        have apart : head.1 ≠ key := fun h => distinct (congrArg Key.rank h).symm
        by_cases h : head.1 = other
        · have : other ≠ key := fun eq => apart (h.trans eq)
          simp [findIn?, h, this]
        · simp [findIn?, h, ih]

end KeyTable

end GpuSync
