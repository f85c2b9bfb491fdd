import GpuSync.Slot.Word
import Mathlib.Algebra.Ring.Nat
import Mathlib.Tactic.Common

/-!
# Going through a word

* `Word.getLsbD_dropLowest`: dropping the lowest bit leaves every other bit as it was.
* `Word.findSome?_eq_none` and `Word.findSome?_eq_some`: going through the bits comes to the lowest
  one that yields something, unless none does.
* `Word.count_put` counts along as a bit is written.
-/

namespace GpuSync.Slot.Word

/-! ## The lowest bit

The lowest bit is found by arithmetic on the word, and taken away by an operation with the word less
one. What these do is read off at the single bits. -/

/-- There is no lowest bit just if none is set. -/
theorem lowest?_eq_none_iff (w : Word) : w.lowest? = none ↔ ∀ i < 64, w.getLsbD i = false := by
  simp [lowest?]

/-- The lowest bit is set, and none below it is. -/
theorem lowest?_eq_some_iff (w : Word) {i : Nat} :
    w.lowest? = some i ↔ w.getLsbD i = true ∧ ∀ j < i, w.getLsbD j = false := by
  unfold lowest?
  rw [List.find?_range_eq_some]
  constructor
  · rintro ⟨set, -, below⟩
    exact ⟨set, fun j less => by simpa using below j less⟩
  · rintro ⟨set, below⟩
    exact ⟨set, List.mem_range.2 (BitVec.lt_of_getLsbD set), fun j less => by simp [below j less]⟩

/-- Taking the lowest bit away from a number leaves what stands above it. -/
theorem testBit_and_sub_one (a i j : Nat) :
    ((2 ^ (i + 1) * a + 2 ^ i) &&& (2 ^ (i + 1) * a + 2 ^ i - 1)).testBit j =
      ((2 ^ (i + 1) * a + 2 ^ i).testBit j && decide (j ≠ i)) := by
  have less : 2 ^ i < 2 ^ (i + 1) := Nat.pow_lt_pow_right (by decide) (Nat.lt_succ_self i)
  have pos : 0 < 2 ^ i := Nat.two_pow_pos i
  have below : 2 ^ (i + 1) * a + 2 ^ i - 1 = 2 ^ (i + 1) * a + (2 ^ i - 1) := by omega
  rw [below, Nat.testBit_and, Nat.testBit_two_pow_mul_add a less,
    Nat.testBit_two_pow_mul_add a (by omega)]
  by_cases low : j < i + 1
  · rw [if_pos low, if_pos low, Nat.testBit_two_pow, Nat.testBit_two_pow_sub_one]
    by_cases same : j = i
    · simp [same]
    · simp [Ne.symm same]
  · have apart : j ≠ i := by omega
    rw [if_neg low, if_neg low]
    simp [apart]

/-- A word is its lowest bit and what stands above. -/
theorem exists_toNat_eq (w : Word) {i : Nat} (lowest : w.lowest? = some i) :
    ∃ a, w.toNat = 2 ^ (i + 1) * a + 2 ^ i := by
  obtain ⟨set, below⟩ := (lowest?_eq_some_iff w).1 lowest
  have low : w.toNat % 2 ^ (i + 1) = 2 ^ i := by
    apply Nat.eq_of_testBit_eq
    intro j
    rw [Nat.testBit_mod_two_pow, Nat.testBit_two_pow, BitVec.testBit_toNat]
    rcases Nat.lt_trichotomy j i with less | same | more
    · simp [below j less, Nat.ne_of_gt less]
    · simp [same, set]
    · simp [Nat.not_lt.2 (Nat.succ_le_of_lt more), Nat.ne_of_lt more]
  exact ⟨_, by rw [← low, Nat.div_add_mod]⟩

/-- Dropping the lowest bit leaves every other bit as it was. -/
theorem getLsbD_dropLowest (w : Word) {i : Nat} (lowest : w.lowest? = some i) (j : Nat) :
    w.dropLowest.getLsbD j = (w.getLsbD j && decide (j ≠ i)) := by
  obtain ⟨a, number⟩ := w.exists_toNat_eq lowest
  have one : (1 : Word) ≤ w := by
    have pos : 0 < 2 ^ i := Nat.two_pow_pos i
    apply BitVec.le_def.2
    simp only [number]
    simp
    omega
  have dropped : w.dropLowest.toNat = w.toNat &&& (w.toNat - 1) := by
    rw [dropLowest, BitVec.toNat_and, BitVec.toNat_sub_of_le one]
    rfl
  rw [← BitVec.testBit_toNat, ← BitVec.testBit_toNat, dropped, number, testBit_and_sub_one]

/-! ## Going through the bits

Bits are gone through from the lowest on. There are at most as many rounds as bits, which is why the
search needs no other bound. -/

section

variable {β : Type} {f : Nat → Option β}

/-- What stands above the lowest bit. -/
theorem lt_of_getLsbD_dropLowest {w : Word} {i j : Nat} (lowest : w.lowest? = some i)
    (set : w.dropLowest.getLsbD j = true) : w.getLsbD j = true ∧ i < j := by
  rw [getLsbD_dropLowest w lowest, Bool.and_eq_true, decide_eq_true_eq] at set
  obtain ⟨set, apart⟩ := set
  refine ⟨set, ?_⟩
  by_contra below
  have clear := ((lowest?_eq_some_iff w).1 lowest).2 j (by omega)
  rw [set] at clear
  cases clear

/-- What going through the bits comes to: the first bit that yields something, or none does. -/
theorem findSomeIn?_spec {rounds : Nat} {w : Word}
    (enough : ∀ i, w.getLsbD i = true → 64 ≤ i + rounds) :
    (findSomeIn? f rounds w = none → ∀ i, w.getLsbD i = true → f i = none) ∧
      ∀ found, findSomeIn? f rounds w = some found →
        ∃ i, w.getLsbD i = true ∧ f i = some found ∧
          ∀ j < i, w.getLsbD j = true → f j = none := by
  -- On the rounds, for every word whose bits are few enough for them. A round takes the lowest bit
  -- away.
  induction rounds generalizing w with
  | zero =>
    refine ⟨fun _ i set => ?_, nofun⟩
    have room := enough i set
    have fits := BitVec.lt_of_getLsbD set
    omega
  | succ rounds ih =>
    unfold findSomeIn?
    cases lowest : w.lowest? with
    | none =>
      refine ⟨fun _ i set => ?_, nofun⟩
      rw [(lowest?_eq_none_iff w).1 lowest i (BitVec.lt_of_getLsbD set)] at set
      cases set
    | some i =>
      obtain ⟨set, below⟩ := (lowest?_eq_some_iff w).1 lowest
      dsimp only
      cases yields : f i with
      | some found =>
        refine ⟨nofun, ?_⟩
        rintro _ ⟨⟩
        refine ⟨i, set, yields, fun j less set' => ?_⟩
        rw [below j less] at set'
        cases set'
      | none =>
        obtain ⟨none, some⟩ := ih fun j set' => by
          have room := enough i set
          have above := (lt_of_getLsbD_dropLowest lowest set').2
          omega
        -- a bit of the word is the lowest one, or one of those that are left
        have rest {j : Nat} (apart : j ≠ i) (set' : w.getLsbD j = true) :
            w.dropLowest.getLsbD j = true := by
          rw [getLsbD_dropLowest w lowest, set', decide_eq_true apart]
          rfl
        refine ⟨fun nothing j set' => ?_, fun found finds => ?_⟩
        · by_cases same : j = i
          · rw [same, yields]
          · exact none nothing j (rest same set')
        · obtain ⟨j, set', yields', first⟩ := some found finds
          refine ⟨j, (lt_of_getLsbD_dropLowest lowest set').1, yields', fun k less set'' => ?_⟩
          by_cases same : k = i
          · rw [same, yields]
          · exact first k less (rest same set'')

/-- A search through a word that finds nothing finds nothing at any of its bits. -/
theorem findSome?_eq_none {w : Word} (nothing : w.findSome? f = none) {i : Nat}
    (set : w.getLsbD i = true) : f i = none :=
  (findSomeIn?_spec fun _ _ => Nat.le_add_left _ _).1 nothing i set

/-- A search through a word finds the first bit that has something. -/
theorem findSome?_eq_some {w : Word} {found : β} (finds : w.findSome? f = some found) :
    ∃ i, w.getLsbD i = true ∧ f i = some found ∧ ∀ j < i, w.getLsbD j = true → f j = none :=
  (findSomeIn?_spec fun _ _ => Nat.le_add_left _ _).2 found finds

end

/-! ## Counting

A count is over the places of a word. A change at one place changes the count by what that place
counts. -/

/-- Changing what is asked of one number changes the count by what it counts. -/
theorem countP_range_add {n i : Nat} {p q : Nat → Bool} (hi : i < n)
    (same : ∀ j, j ≠ i → q j = p j) :
    (List.range n).countP q + (if p i then 1 else 0) =
      (List.range n).countP p + if q i then 1 else 0 := by
  induction n with
  | zero => omega
  | succ n ih =>
    rw [List.range_succ, List.countP_append, List.countP_append, List.countP_singleton,
      List.countP_singleton]
    by_cases last : i = n
    · subst last
      have below : (List.range i).countP q = (List.range i).countP p := by
        apply List.countP_congr
        intro j mem
        rw [same j (Nat.ne_of_lt (List.mem_range.1 mem))]
      omega
    · have before := ih (by omega)
      rw [same n (Ne.symm last)]
      omega

/-- Setting a bit adds one to the count, unless it was set; clearing it takes one away if it
was. -/
theorem count_put (w : Word) {i : Nat} (set : Bool) (hi : i < 64) :
    (w.put i set).count + (if w.getLsbD i then 1 else 0) = w.count + if set then 1 else 0 := by
  have counts := countP_range_add (p := w.getLsbD) (q := (w.put i set).getLsbD) hi
    fun j apart => by rw [getLsbD_put w j set hi, if_neg apart]
  rwa [getLsbD_put w i set hi, if_pos rfl] at counts

/-- A word counts 64 bits at most. -/
theorem count_le (w : Word) : w.count ≤ 64 := by
  have bound := List.countP_le_length (p := w.getLsbD) (l := List.range 64)
  rwa [List.length_range] at bound

/-- A word with all bits set counts 64. -/
theorem count_filled : filled.count = 64 := by
  decide

end GpuSync.Slot.Word
