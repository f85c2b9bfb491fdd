/-!
# Spans

Bounded numbers are counted by their bits: slots in a chunk, words, places in a tree that branches
on one bit after the other.

## Main definitions

* `GpuSync.span` is how many numbers there are with so many bits.

## Main statements

* `GpuSync.span_succ`: one more bit doubles their number.
-/

namespace GpuSync

/-- How many numbers have at most so many bits. -/
def span (bits : Nat) : Nat := 1 <<< bits

/-- A tree without levels has one place. -/
@[simp] theorem span_zero : span 0 = 1 := rfl

/-- One more level doubles the places. -/
theorem span_succ (bits : Nat) : span (bits + 1) = span bits + span bits := by
  rw [span, Nat.shiftLeft_succ, ← span]
  omega

/-- The levels of two trees on top of each other multiply their places. -/
theorem span_add (a b : Nat) : span (a + b) = span a * span b := by
  induction b with
  | zero => simp
  | succ b ih => rw [← Nat.add_assoc, span_succ, ih, span_succ, Nat.mul_add]

/-- There is always a place. -/
theorem span_pos (bits : Nat) : 0 < span bits := by
  induction bits with
  | zero => exact Nat.zero_lt_one
  | succ bits ih =>
    rw [span_succ]
    omega

end GpuSync
