/-!
# Words of sixty-four bits

A set of at most sixty-four numbers is a word, with a bit for each of them. Going through such a
set means to take the lowest bit again and again, until there is none left.

## Main definitions

* `GpuSync.Slot.Word`, with `put` for a single bit and `count` for how many are set.
* `GpuSync.Slot.Word.filled` and `GpuSync.Slot.Word.firstBits` have all bits set, or the first few.
* `GpuSync.Slot.Word.lowest?` is the lowest bit, and `GpuSync.Slot.Word.findSome?` goes through the
  bits that are set.

## Main statements

* `GpuSync.Slot.Word.getLsbD_put`: writing one bit leaves every other bit as it was.
-/

namespace GpuSync.Slot

/-- Sixty-four bits. -/
abbrev Word : Type := BitVec 64

namespace Word

/-- All bits are set. -/
def filled : Word := BitVec.allOnes 64

/-- The first `n` bits are set, or all if there are not as many. -/
def firstBits (n : Nat) : Word := if 64 ≤ n then filled else BitVec.twoPow 64 n - 1

/-- Sets a bit, or clears it. -/
def put (w : Word) (i : Nat) (set : Bool) : Word :=
  if set then w ||| BitVec.twoPow 64 i else w &&& ~~~BitVec.twoPow 64 i

/-- How many bits are set. -/
def count (w : Word) : Nat := (List.range 64).countP w.getLsbD

/-- The lowest bit that is set. -/
def lowest? (w : Word) : Option Nat := (List.range 64).find? w.getLsbD

/-- The word without its lowest bit. -/
def dropLowest (w : Word) : Word := w &&& (w - 1)

/-- Goes through at most `rounds` of the bits that are set, the lowest first, up to the first one
that yields something. -/
def findSomeIn? {β : Type} (f : Nat → Option β) : Nat → Word → Option β
  | 0, _ => none
  | rounds + 1, w =>
    match w.lowest? with
    | none => none
    | some i =>
      match f i with
      | some found => some found
      | none => findSomeIn? f rounds w.dropLowest

/-- Goes through the bits that are set, the lowest first, up to the first one that yields
something. -/
def findSome? {β : Type} (w : Word) (f : Nat → Option β) : Option β := findSomeIn? f 64 w

/-! ## One law per operation

Each law says what a bit is after the operation, so that words need not be opened elsewhere. -/

/-- The bits of a word with all bits set, which has 64 of them. -/
@[simp] theorem getLsbD_filled (i : Nat) : filled.getLsbD i = decide (i < 64) :=
  BitVec.getLsbD_allOnes

/-- The lowest bits of a word are set, as many as it has. -/
@[simp] theorem getLsbD_firstBits (n i : Nat) :
    (firstBits n).getLsbD i = decide (i < n ∧ i < 64) := by
  unfold firstBits
  split
  · rename_i all
    simp
    omega
  · rename_i some
    have word : BitVec.twoPow 64 n - 1 = BitVec.ofNat 64 (2 ^ n - 1) := by
      have small : 2 ^ n < 2 ^ 64 := Nat.pow_lt_pow_right (by decide) (by omega)
      have pos : 0 < 2 ^ n := Nat.two_pow_pos n
      apply BitVec.eq_of_toNat_eq
      rw [BitVec.toNat_sub, BitVec.toNat_twoPow, BitVec.toNat_ofNat]
      simp
      omega
    rw [word, BitVec.getLsbD_ofNat, Nat.testBit_two_pow_sub_one, Bool.and_comm, Bool.decide_and]

/-- A bit that was written is as written, all others are as they were. -/
theorem getLsbD_put (w : Word) {i : Nat} (j : Nat) (set : Bool) (hi : i < 64) :
    (w.put i set).getLsbD j = if j = i then set else w.getLsbD j := by
  unfold put
  by_cases same : j = i
  · subst same
    cases set <;> simp [hi]
  · cases set
    · by_cases fits : j < 64
      · simp [same, fits]
      · simp [same, BitVec.getLsbD_of_ge w j (Nat.not_lt.1 fits)]
    · simp [same, Ne.symm same]

/-- A word is full just if all its bits are set. -/
theorem eq_filled_iff (w : Word) : w = filled ↔ ∀ i < 64, w.getLsbD i = true := by
  constructor
  · rintro rfl i hi
    simp [hi]
  · intro all
    apply BitVec.eq_of_getLsbD_eq
    intro i hi
    rw [all i hi, getLsbD_filled, decide_eq_true hi]

end Word

end GpuSync.Slot
