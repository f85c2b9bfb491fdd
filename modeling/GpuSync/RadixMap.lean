import GpuSync.Span

/-!
# Finite maps on bounded numbers

A map from the numbers below `span d` is a binary tree of depth `d` that branches on the number's
bits, the highest first. Parts without any entry are a single node, so a map takes space for its
entries only, and every operation walks one path of length `d`. Entries come in ascending order.

## Main definitions

* `GpuSync.RadixMap` with `find?`, `insert`, `erase`, `modify`.
* `GpuSync.RadixMap.entries` lists a map in ascending order.

## Main statements

* `GpuSync.RadixMap.find?_insert` and `GpuSync.RadixMap.find?_erase`: writing one number leaves
  every other number as it was.
-/

namespace GpuSync

/-- A finite map from the numbers below `span depth`. -/
inductive RadixMap (α : Type) : Nat → Type
  /-- A map without entries. -/
  | empty {depth : Nat} : RadixMap α depth
  /-- The one entry of a map with a single possible number. -/
  | leaf (value : α) : RadixMap α 0
  /-- The entries of the lower and of the upper half of the numbers. -/
  | fork {depth : Nat} (low high : RadixMap α depth) : RadixMap α (depth + 1)

namespace RadixMap

variable {α : Type}

/-- Puts two halves together; two empty halves are an empty map. -/
def join {depth : Nat} : RadixMap α depth → RadixMap α depth → RadixMap α (depth + 1)
  | .empty, .empty => .empty
  | low, high => .fork low high

/-- The lower half of the numbers. -/
def low {depth : Nat} : RadixMap α (depth + 1) → RadixMap α depth
  | .empty => .empty
  | .fork low _ => low

/-- The upper half of the numbers, counted from its first one. -/
def high {depth : Nat} : RadixMap α (depth + 1) → RadixMap α depth
  | .empty => .empty
  | .fork _ high => high

/-- The value at a number. -/
def find? : {depth : Nat} → RadixMap α depth → Nat → Option α
  | _, .empty, _ => none
  | _, .leaf value, i => if i = 0 then some value else none
  | depth + 1, .fork low high, i =>
    if i < span depth then low.find? i else high.find? (i - span depth)

/-- Sets the value at a number; numbers out of range change nothing. -/
def insert : {depth : Nat} → RadixMap α depth → Nat → α → RadixMap α depth
  | 0, m, i, value => if i = 0 then .leaf value else m
  | depth + 1, m, i, value =>
    if i < span depth then .fork (m.low.insert i value) m.high
    else .fork m.low (m.high.insert (i - span depth) value)

/-- Removes the value at a number, if there is one. -/
def erase : {depth : Nat} → RadixMap α depth → Nat → RadixMap α depth
  | _, .empty, _ => .empty
  | _, .leaf value, i => if i = 0 then .empty else .leaf value
  | depth + 1, .fork low high, i =>
    if i < span depth then join (low.erase i) high else join low (high.erase (i - span depth))

/-- Changes the value at a number, if there is one. -/
def modify {depth : Nat} (m : RadixMap α depth) (i : Nat) (f : α → α) : RadixMap α depth :=
  match m.find? i with
  | some value => m.insert i (f value)
  | none => m

/-- The entries in ascending order, their numbers counted from `base`. -/
def entriesFrom : {depth : Nat} → RadixMap α depth → Nat → List (Nat × α)
  | _, .empty, _ => []
  | _, .leaf value, base => [(base, value)]
  | depth + 1, .fork low high, base =>
    low.entriesFrom base ++ high.entriesFrom (base + span depth)

/-- All entries in ascending order. -/
def entries {depth : Nat} (m : RadixMap α depth) : List (Nat × α) :=
  m.entriesFrom 0

/-- The values in ascending order of their numbers. -/
def values {depth : Nat} (m : RadixMap α depth) : List α :=
  m.entries.map (·.2)

/-- How many numbers have a value. -/
def size : {depth : Nat} → RadixMap α depth → Nat
  | _, .empty => 0
  | _, .leaf _ => 1
  | _, .fork low high => low.size + high.size

/-! ## One law per operation

Each law says what a look-up finds after the operation. Nothing else is known of a tree outside of
this module and its proofs. -/

/-- Nothing is found in an empty tree. -/
@[simp] theorem find?_empty {depth : Nat} (i : Nat) :
    (empty : RadixMap α depth).find? i = none := by
  cases depth <;> rfl

/-- A join is searched as the fork it stands for. -/
theorem find?_join {depth : Nat} (l h : RadixMap α depth) (i : Nat) :
    (join l h).find? i = (fork l h).find? i := by
  unfold join
  split
  · simp [find?]
  · rfl

/-- A tree is searched as the fork of its halves. -/
theorem find?_fork_low_high {depth : Nat} (m : RadixMap α (depth + 1)) (i : Nat) :
    (fork m.low m.high).find? i = m.find? i := by
  cases m <;> simp [find?, low, high]

/-- Nothing is found beyond the span of a tree. -/
theorem find?_eq_none_of_le {depth : Nat} (m : RadixMap α depth) {i : Nat} (hi : span depth ≤ i) :
    m.find? i = none := by
  induction m generalizing i with
  | empty => simp
  | leaf value =>
    have : i ≠ 0 := Nat.pos_iff_ne_zero.1 hi
    simp [find?, this]
  | fork l h _ ihh =>
    rw [span_succ] at hi
    rw [find?, if_neg (by omega)]
    exact ihh (by omega)

/-- Reading after a write: the number written has the new value, all others keep theirs. -/
theorem find?_insert {depth : Nat} (m : RadixMap α depth) {i : Nat} (j : Nat) (value : α)
    (hi : i < span depth) :
    (m.insert i value).find? j = if j = i then some value else m.find? j := by
  induction depth generalizing i j with
  | zero =>
    obtain rfl : i = 0 := by simpa using hi
    simp only [insert, if_true, find?]
    split
    · rfl
    · rw [m.find?_eq_none_of_le (by simp; omega)]
  | succ depth ih =>
    rw [span_succ] at hi
    rw [insert, ← find?_fork_low_high m]
    by_cases hlow : i < span depth
    · rw [if_pos hlow]
      by_cases hj : j < span depth
      · simp [find?, hj, ih m.low j hlow]
      · simp [find?, hj, show j ≠ i by omega]
    · rw [if_neg hlow]
      by_cases hj : j < span depth
      · simp [find?, hj, show j ≠ i by omega]
      · have high := ih m.high (j - span depth) (i := i - span depth) (by omega)
        simp only [find?, hj, if_false, high]
        simp only [show (j - span depth = i - span depth) = (j = i) by
          simp only [eq_iff_iff]; omega]

/-- Reading after a removal: the number removed has no value, all others keep theirs. -/
theorem find?_erase {depth : Nat} (m : RadixMap α depth) (i j : Nat) :
    (m.erase i).find? j = if j = i then none else m.find? j := by
  induction m generalizing i j with
  | empty => simp [erase]
  | leaf value =>
    simp only [erase]
    by_cases hi : i = 0
    · subst hi
      by_cases hj : j = 0 <;> simp [find?, hj]
    · by_cases hj : j = i
      · simp [find?, hj, hi]
      · simp [find?, hj, hi]
  | @fork depth l h ihl ihh =>
    simp only [erase]
    by_cases hi : i < span depth
    · rw [if_pos hi, find?_join]
      by_cases hj : j < span depth
      · simp [find?, hj, ihl]
      · simp [find?, hj, show j ≠ i by omega]
    · rw [if_neg hi, find?_join]
      by_cases hj : j < span depth
      · simp [find?, hj, show j ≠ i by omega]
      · simp only [find?, hj, if_false, ihh]
        simp only [show (j - span depth = i - span depth) = (j = i) by
          simp only [eq_iff_iff]; omega]

end RadixMap

end GpuSync
