import GpuSync.Batch.KeyTable
import Mathlib.Data.List.Perm.Subperm

/-!
# The entries of a table by key

A look-up speaks of one key, a walk through the entries of all. The two are tied together here:
the entries are exactly what look-ups find (`KeyTable.mem_entries_iff`), each key once
(`KeyTable.nodup_keys`), and what a walk produces for one key comes from the entry of that key
(`KeyTable.filter_flatMap_entries`).

`KeyTable.erase` removes a key, so that a table is a finite map with all that belongs to one; sizes
are counted along (`KeyTable.size_insert`, `KeyTable.size_erase`), and a table is no larger than one
that has all its keys (`KeyTable.size_le_of_contains`).
-/

namespace GpuSync.KeyTable

variable {ν μ β : Type}

/-- Among ascending entries a key comes once. -/
theorem nodup_keys (table : KeyTable ν) : table.keys.Nodup := by
  refine List.Pairwise.map _ (fun a b below same => ?_) table.ascending
  exact Nat.lt_irrefl _ (same ▸ below)

/-- A resource that no entry is for is not found. -/
theorem findIn?_eq_none_of_notMem {key : Key} {entries : List (Key × ν)}
    (h : ∀ entry ∈ entries, entry.1 ≠ key) : findIn? key entries = none := by
  induction entries with
  | nil => rfl
  | cons head rest ih =>
    rw [findIn?, if_neg (h head List.mem_cons_self)]
    exact ih fun entry mem => h entry (List.mem_cons_of_mem _ mem)

/-- A resource below all entries is not found, so that a search may stop at the first entry above
it. -/
theorem findIn?_eq_none_of_below {key : Key} {entries : List (Key × ν)}
    (below : ∀ entry ∈ entries, key.rank < entry.1.rank) : findIn? key entries = none := by
  refine findIn?_eq_none_of_notMem fun entry mem eq => ?_
  have := below entry mem
  rw [eq] at this
  exact Nat.lt_irrefl _ this

/-- A key that is found is none that is not. -/
theorem ne_of_find? {table : KeyTable ν} {key other : Key} {value : ν}
    (unknown : table.find? other = none) (known : table.find? key = some value) : other ≠ key := by
  rintro rfl
  rw [known] at unknown
  cases unknown

/-- The entries are what look-ups find. -/
theorem mem_entries_iff (table : KeyTable ν) {key : Key} {value : ν} :
    (key, value) ∈ table.entries ↔ table.find? key = some value := by
  obtain ⟨entries, ascending⟩ := table
  simp only [find?]
  induction entries with
  | nil => simp [findIn?]
  | cons head rest ih =>
    obtain ⟨above, ascending⟩ := List.pairwise_cons.1 ascending
    rw [List.mem_cons, findIn?]
    by_cases same : head.1 = key
    · subst same
      rw [if_pos rfl, Option.some_inj]
      constructor
      · rintro (eq | mem)
        · exact congrArg Prod.snd eq.symm
        · exact absurd (above _ mem) (Nat.lt_irrefl _)
      · rintro rfl
        exact .inl rfl
    · rw [if_neg same, ← ih ascending]
      exact or_iff_right fun eq => same (congrArg Prod.fst eq.symm)

/-- The keys of a table are those that a search finds. -/
theorem mem_keys_iff (table : KeyTable ν) {key : Key} :
    key ∈ table.keys ↔ (table.find? key).isSome = true := by
  rw [Option.isSome_iff_exists, keys, List.mem_map]
  constructor
  · rintro ⟨⟨other, value⟩, mem, rfl⟩
    exact ⟨value, table.mem_entries_iff.1 mem⟩
  · rintro ⟨value, found⟩
    exact ⟨(key, value), table.mem_entries_iff.2 found, rfl⟩

/-- A table contains what is inserted and what it contained. -/
theorem contains_insert (table : KeyTable ν) (key other : Key) (value : ν) :
    (table.insert key value).contains other = true ↔
      other = key ∨ table.contains other = true := by
  unfold contains
  rw [find?_insert]
  by_cases same : other = key <;> simp [same]

/-- Entries that are changed in place stay where they were. -/
theorem contains_map (table : KeyTable ν) (f : Key → ν → μ) (key : Key) :
    (table.map f).contains key = table.contains key := by
  unfold contains
  rw [find?_map, Option.isSome_map]

/-- What a walk through the entries produces for one key comes from the entry of that key, if
entries of other keys produce nothing for it. -/
theorem filter_flatMap_entries (table : KeyTable ν) (key : Key) (f : Key × ν → List β)
    (p : β → Bool) (others : ∀ entry, entry.1 ≠ key → (f entry).filter p = []) :
    (table.entries.flatMap f).filter p =
      (table.find? key).toList.flatMap fun value => (f (key, value)).filter p := by
  obtain ⟨entries, ascending⟩ := table
  simp only [find?]
  induction entries with
  | nil => rfl
  | cons head rest ih =>
    obtain ⟨above, ascending⟩ := List.pairwise_cons.1 ascending
    rw [List.flatMap_cons, List.filter_append, ih ascending, findIn?]
    by_cases same : head.1 = key
    · subst same
      have gone : findIn? head.1 rest = none := findIn?_eq_none_of_below above
      simp [gone]
    · rw [others head same, if_neg same, List.nil_append]

/-! ## Sizes

The bound on a table is checked before an entry is added, and not when one is replaced. So what is
needed of the size is how an insertion changes it in either case. -/

/-- An insertion adds one entry, unless it replaces one. -/
theorem length_insertIn (key : Key) (value : ν) {entries : List (Key × ν)}
    (ascending : entries.Pairwise fun a b => a.1.rank < b.1.rank) :
    (insertIn key value entries).length + (if (findIn? key entries).isSome then 1 else 0) =
      entries.length + 1 := by
  induction entries with
  | nil => rfl
  | cons head rest ih =>
    obtain ⟨above, ascending⟩ := List.pairwise_cons.1 ascending
    rw [insertIn]
    split
    · rename_i below
      have none : findIn? key (head :: rest) = none := by
        refine findIn?_eq_none_of_below fun entry mem => ?_
        rcases List.mem_cons.1 mem with rfl | mem
        · exact below
        · exact Nat.lt_trans below (above entry mem)
      simp [none]
    · split
      · rename_i same
        simp [findIn?, (Key.eq_of_rank_eq same).symm]
      · rename_i distinct
        have apart : head.1 ≠ key := fun eq => distinct (congrArg Key.rank eq).symm
        have := ih ascending
        simp only [List.length_cons, findIn?, apart, if_false]
        omega

/-- A write adds an entry, unless there was one. -/
theorem size_insert (table : KeyTable ν) (key : Key) (value : ν) :
    (table.insert key value).size + (if (table.find? key).isSome then 1 else 0) =
      table.size + 1 :=
  length_insertIn key value table.ascending

/-- A table that has room, or the key already, stays within a bound. -/
theorem size_insert_le {table : KeyTable ν} {key : Key} {value : ν} {bound : Nat}
    (within : table.size ≤ bound) (room : table.contains key = true ∨ table.size < bound) :
    (table.insert key value).size ≤ bound := by
  have size := table.size_insert key value
  rcases room with known | room
  · rw [show (table.find? key).isSome = true from known, if_pos rfl] at size
    omega
  · omega

/-- A table with no more keys is no larger. -/
theorem size_le_of_contains {table : KeyTable ν} {other : KeyTable μ}
    (more : ∀ key, table.contains key = true → other.contains key = true) :
    table.size ≤ other.size := by
  have sub : table.keys ⊆ other.keys := fun key mem =>
    other.mem_keys_iff.2 (more key (table.mem_keys_iff.1 mem))
  simpa only [size, keys, List.length_map] using (table.nodup_keys.subperm sub).length_le

/-! ## Removing a key

No operation of a batch removes a key from a table. Removal is for trackers, which are compared with
a table of what they know. -/

/-- Removes a key. -/
def erase (table : KeyTable ν) (key : Key) : KeyTable ν :=
  ⟨table.entries.filter fun entry => entry.1 ≠ key, table.ascending.sublist List.filter_sublist⟩

/-- Reading after a removal: the key removed has no value, all others keep theirs. -/
theorem find?_erase (table : KeyTable ν) (key other : Key) :
    (table.erase key).find? other = if other = key then none else table.find? other := by
  obtain ⟨entries, ascending⟩ := table
  simp only [find?, erase]
  clear ascending
  induction entries with
  | nil => simp [findIn?]
  | cons head rest ih =>
    by_cases removed : head.1 = key
    · rw [List.filter_cons_of_neg (by simpa using removed), ih, findIn?, removed]
      by_cases same : other = key
      · simp [same]
      · simp [same, Ne.symm same]
    · rw [List.filter_cons_of_pos (by simpa using removed), findIn?, findIn?, ih]
      by_cases same : head.1 = other
      · simp [same, same ▸ removed]
      · simp [same]

/-- To leave out a key takes one entry away, if it is there. -/
theorem length_filter_key (key : Key) {entries : List (Key × ν)}
    (ascending : entries.Pairwise fun a b => a.1.rank < b.1.rank) :
    (entries.filter fun entry => entry.1 ≠ key).length +
      (if (findIn? key entries).isSome then 1 else 0) = entries.length := by
  induction entries with
  | nil => rfl
  | cons head rest ih =>
    obtain ⟨above, ascending⟩ := List.pairwise_cons.1 ascending
    have tail := ih ascending
    by_cases removed : head.1 = key
    · subst removed
      have none : findIn? head.1 rest = none := findIn?_eq_none_of_below above
      rw [none] at tail
      simpa [findIn?] using tail
    · rw [List.filter_cons_of_pos (by simpa using removed)]
      simp only [List.length_cons, findIn?, removed, if_false]
      omega

/-- A removal takes away the entry there was. -/
theorem size_erase (table : KeyTable ν) (key : Key) :
    (table.erase key).size + (if (table.find? key).isSome then 1 else 0) = table.size :=
  length_filter_key key table.ascending

end GpuSync.KeyTable
