import GpuSync.Ring.FrameId
import Mathlib.Algebra.Ring.Nat
import Mathlib.Data.List.Iterate
import Mathlib.Tactic.Common

/-!
# Walking from frame to frame

A step on takes a frame to the next place of the ring, and a step back to the one before. Places are
words of 32 bits. The step on never leaves them; the step back adds the number of places before it
takes one off, and in a ring of more than `2 ^ 31` places that sum may not fit a word.

* `FrameId.toNat_index_next` and `FrameId.toNat_index_prev` say in numbers where a step leads.
* `FrameId.next_prev_iff` and `FrameId.prev_next_iff` say when a step back undoes one on.
* **`FrameId.walks_both_ways`** is the result, about all walks.
* **`FrameId.falls_short`**: in the largest ring the step back from place 2 misses place 1.
-/

namespace GpuSync.FrameId

/-- A frame whose place is one of those of its ring. -/
def Placed (id : FrameId) : Prop := id.index < id.places

/-- The sum that a step back forms fits a word. -/
def Reaches (id : FrameId) : Prop := id.index.toNat + id.places.toNat ≤ 2 ^ 32

/-- Whether a place is one of its ring can be read off the frame. -/
instance (id : FrameId) : Decidable id.Placed := inferInstanceAs (Decidable (id.index < id.places))

/-- Whether a step back fits a word can be read off the frame. -/
instance (id : FrameId) : Decidable id.Reaches :=
  inferInstanceAs (Decidable (id.index.toNat + id.places.toNat ≤ 2 ^ 32))

/-- Frames with the same number, place and ring are the same. -/
theorem eq_of_parts {a b : FrameId} (unique : a.unique = b.unique)
    (index : a.index.toNat = b.index.toNat) (places : a.places = b.places) : a = b := by
  rw [FrameId.mk.injEq]
  exact ⟨unique, UInt32.toNat_inj.1 index, places⟩

section

variable {id : FrameId}

/-- A place is compared as a number. -/
theorem placed_iff : id.Placed ↔ id.index.toNat < id.places.toNat := UInt32.lt_iff_toNat_lt

/-- A ring with a frame in place has places. -/
theorem Placed.places_ne_zero (placed : id.Placed) : id.places ≠ 0 := by
  intro none
  rw [placed_iff, none] at placed
  exact Nat.not_lt_zero _ placed

/-! ## One step

A step on adds one and reduces. A step back adds the number of places less one, in a machine word,
before it is reduced, and the sum may leave the word. -/

/-- The place after a place of the ring fits a word, so a step on is one modulo the places. -/
theorem toNat_index_next (placed : id.Placed) :
    id.next.index.toNat = (id.index.toNat + 1) % id.places.toNat := by
  have inside := placed_iff.1 placed
  have bound := id.places.toNat_lt
  unfold next
  rw [UInt32.toNat_mod, UInt32.toNat_add, UInt32.toNat_one,
    Nat.mod_eq_of_lt (show id.index.toNat + 1 < 2 ^ 32 by omega)]

/-- A step back is one modulo the places as long as its sum fits a word. If it does not, the sum is
`2 ^ 32` less and still one of the places. -/
theorem toNat_index_prev (placed : id.Placed) :
    id.prev.index.toNat =
      if id.Reaches then (id.index.toNat + id.places.toNat - 1) % id.places.toNat
      else id.index.toNat + id.places.toNat - 1 - 2 ^ 32 := by
  have inside := placed_iff.1 placed
  have bound := id.places.toNat_lt
  have sum : (id.index + id.places - 1).toNat =
      (id.index.toNat + id.places.toNat - 1) % 2 ^ 32 := by
    rw [UInt32.toNat_sub, UInt32.toNat_add, UInt32.toNat_one]
    omega
  unfold prev
  rw [UInt32.toNat_mod, sum]
  by_cases reaches : id.Reaches
  · have fits : id.index.toNat + id.places.toNat ≤ 2 ^ 32 := reaches
    rw [if_pos reaches, Nat.mod_eq_of_lt (by omega : _ < 2 ^ 32)]
  · have past : ¬ id.index.toNat + id.places.toNat ≤ 2 ^ 32 := reaches
    have short : (id.index.toNat + id.places.toNat - 1) % 2 ^ 32 =
        id.index.toNat + id.places.toNat - 1 - 2 ^ 32 := by
      omega
    rw [if_neg reaches, short]
    apply Nat.mod_eq_of_lt
    omega

/-- Every step lands in a place of the ring, since it ends in a remainder. -/
theorem placed_move (placed : id.Placed) (step : Move) : (id.move step).Placed := by
  have positive : 0 < id.places := UInt32.pos_iff_ne_zero.2 placed.places_ne_zero
  cases step with
  | next | prev => exact UInt32.mod_lt _ positive

/-- No step changes the size of the ring. -/
theorem places_move (id : FrameId) (step : Move) : (id.move step).places = id.places := by
  cases step <;> rfl

/-! ## There and back

As both steps reduce modulo the size of the ring, they undo each other wherever the sum of the step
back fits. Where it does not, what is left is known and is another place. -/

/-- From the place after another one, the step back leads to that place if it is one modulo the
places. -/
theorem pred_succ_mod {i m : Nat} (inside : i < m) : ((i + 1) % m + m - 1) % m = i := by
  by_cases last : i + 1 = m
  · rw [last, Nat.mod_self, Nat.zero_add, Nat.mod_eq_of_lt (by omega)]
    omega
  · rw [Nat.mod_eq_of_lt (show i + 1 < m by omega)]
    have round : i + 1 + m - 1 = i + m := by omega
    rw [round, Nat.add_mod_right, Nat.mod_eq_of_lt inside]

/-- One place back and one forth leads to the same place of a ring. -/
theorem succ_pred_mod {i m : Nat} (inside : i < m) : ((i + m - 1) % m + 1) % m = i := by
  rw [Nat.mod_add_mod]
  have round : i + m - 1 + 1 = i + m := by omega
  rw [round, Nat.add_mod_right, Nat.mod_eq_of_lt inside]

/-- A step back and one on lead to the frame exactly if the sum of the step back fits a word. -/
theorem prev_next_iff (placed : id.Placed) : id.prev.next = id ↔ id.Reaches := by
  have inside := placed_iff.1 placed
  have bound := id.places.toNat_lt
  have back : id.prev.next.index.toNat = (id.prev.index.toNat + 1) % id.places.toNat :=
    toNat_index_next (placed_move placed .prev)
  rw [toNat_index_prev placed] at back
  constructor
  · intro same
    by_contra short
    rw [if_neg short, same] at back
    unfold Reaches at short
    rw [Nat.mod_eq_of_lt (by omega)] at back
    omega
  · intro reaches
    rw [if_pos reaches, succ_pred_mod inside] at back
    exact eq_of_parts (UInt64.sub_add_cancel _ _) back rfl

/-- A step on and one back lead to the frame exactly if the sum of the step back fits a word. -/
theorem next_prev_iff (placed : id.Placed) : id.next.prev = id ↔ id.next.Reaches := by
  have inside := placed_iff.1 placed
  have bound := id.places.toNat_lt
  have on := toNat_index_next placed
  have back : id.next.prev.index.toNat =
      if id.next.Reaches then (id.next.index.toNat + id.places.toNat - 1) % id.places.toNat
      else id.next.index.toNat + id.places.toNat - 1 - 2 ^ 32 :=
    toNat_index_prev (placed_move placed .next)
  constructor
  · intro same
    by_contra short
    rw [if_neg short, same] at back
    have fits : id.next.index.toNat < id.places.toNat := placed_iff.1 (placed_move placed .next)
    have grown : ¬ id.next.index.toNat + id.places.toNat ≤ 2 ^ 32 := short
    have after : id.next.index.toNat ≤ id.index.toNat + 1 := on ▸ Nat.mod_le _ _
    omega
  · intro reaches
    rw [if_pos reaches, on, pred_succ_mod inside] at back
    exact eq_of_parts (UInt64.add_sub_cancel _ _) back rfl

/-- In a ring of at most `2 ^ 31` places the sum fits a word, wherever the step back begins. -/
theorem Placed.reaches (placed : id.Placed) (few : id.places.toNat ≤ 2 ^ 31) : id.Reaches := by
  have inside := placed_iff.1 placed
  unfold Reaches
  omega

/-! ## Walks

A walk is a list of steps. It can be made whenever the ring has places, as each step lands in one of
them. -/

/-- In a ring that has places every walk can be made, and it stays in the ring. -/
theorem exists_walk? (placed : id.Placed) (steps : List Move) :
    ∃ frames, id.walk? steps = some frames ∧ frames.length = steps.length + 1 ∧
      ∀ frame ∈ frames, frame.Placed ∧ frame.places = id.places := by
  induction steps generalizing id with
  | nil => exact ⟨[id], rfl, rfl, by simp [placed]⟩
  | cons step rest ih =>
    obtain ⟨frames, made, length, stays⟩ := ih (placed_move placed step)
    refine ⟨id :: frames, ?_, by simp [length], ?_⟩
    · unfold walk?
      rw [if_neg placed.places_ne_zero, made]
      rfl
    · rw [places_move] at stays
      simpa [placed] using stays

/-- The frame so many steps on. -/
theorem iterate_next (placed : id.Placed) (n : Nat) :
    (next^[n] id).unique.toNat = (id.unique.toNat + n) % 2 ^ 64 ∧
      (next^[n] id).index.toNat = (id.index.toNat + n) % id.places.toNat ∧
      (next^[n] id).places = id.places ∧ (next^[n] id).Placed := by
  induction n with
  | zero =>
    have inside := Nat.mod_eq_of_lt (placed_iff.1 placed)
    have word := Nat.mod_eq_of_lt id.unique.toNat_lt
    exact ⟨word.symm, inside.symm, rfl, placed⟩
  | succ n ih =>
    obtain ⟨unique, index, places, placed'⟩ := ih
    rw [Function.iterate_succ_apply']
    refine ⟨?_, ?_, places, placed_move placed' .next⟩
    · show (UInt64.toNat (_ + 1)) = _
      rw [UInt64.toNat_add, unique, UInt64.toNat_one, Nat.mod_add_mod, Nat.add_assoc]
    · rw [toNat_index_next placed', index, places, Nat.mod_add_mod, Nat.add_assoc]

/-- A walk on meets the frames one step on, two steps on, and so forth. -/
theorem walk?_replicate_next (placed : id.Placed) (n : Nat) :
    id.walk? (List.replicate n .next) = some (List.iterate next id (n + 1)) := by
  induction n generalizing id with
  | zero => rfl
  | succ n ih =>
    have rest : id.next.walk? (List.replicate n .next) = some (List.iterate next id.next (n + 1)) :=
      ih (placed_move placed .next)
    rw [List.replicate_succ, walk?, if_neg placed.places_ne_zero, move, rest]
    rfl

end

/-- **Frames walk both ways.** From a frame that has one of the places of its ring, every walk can
be made and stays in the ring. `n` steps on add `n` to the number modulo `2 ^ 64` and to the place
modulo the places.

A step on undoes one back, and a step back one on, exactly if the place that the step back is made
from and the number of places are at most `2 ^ 32` together. In a ring of at most `2 ^ 31` places
that is every place. -/
theorem walks_both_ways (id : FrameId) (placed : id.Placed) :
    (∀ steps, ∃ frames, id.walk? steps = some frames ∧ frames.length = steps.length + 1 ∧
      ∀ frame ∈ frames, frame.index < id.places ∧ frame.places = id.places) ∧
    (id.prev.next = id ↔ id.index.toNat + id.places.toNat ≤ 2 ^ 32) ∧
    (id.next.prev = id ↔ (id.index.toNat + 1) % id.places.toNat + id.places.toNat ≤ 2 ^ 32) ∧
    (id.places.toNat ≤ 2 ^ 31 → id.prev.next = id ∧ id.next.prev = id) ∧
    ∀ n, id.walk? (List.replicate n .next) = some (List.iterate next id (n + 1)) ∧
      (next^[n] id).unique.toNat = (id.unique.toNat + n) % 2 ^ 64 ∧
      (next^[n] id).index.toNat = (id.index.toNat + n) % id.places.toNat := by
  have next' := placed_move placed .next
  refine ⟨fun steps => ?_, prev_next_iff placed, ?_, fun few => ⟨?_, ?_⟩, fun n => ?_⟩
  · obtain ⟨frames, made, length, stays⟩ := exists_walk? placed steps
    refine ⟨frames, made, length, fun frame mem => ?_⟩
    obtain ⟨inside, same⟩ := stays frame mem
    exact ⟨same ▸ inside, same⟩
  · rw [next_prev_iff placed, ← toNat_index_next placed]
    rfl
  · exact (prev_next_iff placed).2 (placed.reaches few)
  · exact (next_prev_iff placed).2 (next'.reaches few)
  · obtain ⟨unique, index, -⟩ := iterate_next placed n
    exact ⟨walk?_replicate_next placed n, unique, index⟩

/-- Just before the number comes round, in the last place of three. -/
theorem walks_both_ways_lastPlace :
    let id : FrameId := ⟨18446744073709551615, 2, 3⟩
    id.Placed ∧ id.next = ⟨0, 0, 3⟩ ∧ id.next.prev = id ∧ id.prev.next = id := by
  intro id
  have placed : id.Placed := by decide
  obtain ⟨-, -, -, undone, -⟩ := walks_both_ways id placed
  obtain ⟨back, on⟩ := undone (by decide)
  exact ⟨placed, by decide, on, back⟩

/-- **In the largest ring a step back may fall short.** From place 2 it leads to place 0, and the
step on from there to place 1. -/
theorem falls_short :
    let id : FrameId := ⟨5, 2, 4294967295⟩
    id.Placed ∧ id.prev = ⟨4, 0, 4294967295⟩ ∧ id.prev.next = ⟨5, 1, 4294967295⟩ ∧
      id.prev.next ≠ id := by
  decide

end GpuSync.FrameId
