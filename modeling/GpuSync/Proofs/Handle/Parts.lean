import GpuSync.Handle.Basic
import Mathlib.Tactic.Common

/-!
# The parts of a handle

An index and a generation that fit are what a handle made of them has, and a handle is determined by
the two (`Handle.eq_of_parts`).
-/

namespace GpuSync.Handle

/-- The index as a number. -/
theorem toNat_index (handle : Handle) : handle.index.toNat = handle.word.toNat % 1048576 :=
  UInt32.toNat_mod ..

/-- The generation as a number. -/
theorem toNat_generation (handle : Handle) :
    handle.generation.toNat = handle.word.toNat / 1048576 :=
  UInt32.toNat_div ..

/-- A generation takes twelve bits. -/
theorem toNat_generation_lt (handle : Handle) : handle.generation.toNat < 4096 := by
  have := handle.word.toNat_lt
  rw [toNat_generation]
  omega

/-- Index and generation stand side by side, so neither reaches into the other. -/
theorem toNat_word_pack (index generation : UInt32) :
    (pack index generation).word.toNat =
      generation.toNat % 4096 * 1048576 + index.toNat % 1048576 := by
  unfold pack indexCount generationCount
  rw [UInt32.toNat_add, UInt32.toNat_mul, UInt32.toNat_mod, UInt32.toNat_mod]
  simp only [UInt32.reduceToNat]
  omega

/-- An index that fits is unpacked as it was packed. -/
theorem index_pack {index : UInt32} (fits : index.toNat < 1048576) (generation : UInt32) :
    (pack index generation).index = index := by
  apply UInt32.toNat_inj.1
  rw [toNat_index, toNat_word_pack]
  omega

/-- A generation that fits is unpacked as it was packed. -/
theorem generation_pack (index : UInt32) {generation : UInt32} (fits : generation.toNat < 4096) :
    (pack index generation).generation = generation := by
  apply UInt32.toNat_inj.1
  rw [toNat_generation, toNat_word_pack]
  omega

/-- Handles with the same parts are the same. -/
theorem eq_of_parts {a b : Handle} (index : a.index = b.index)
    (generation : a.generation = b.generation) : a = b := by
  have lower := congrArg UInt32.toNat index
  have upper := congrArg UInt32.toNat generation
  rw [toNat_index, toNat_index] at lower
  rw [toNat_generation, toNat_generation] at upper
  have same : a.word = b.word := by
    apply UInt32.toNat_inj.1
    omega
  cases a
  cases b
  exact congrArg Handle.mk same

end GpuSync.Handle
