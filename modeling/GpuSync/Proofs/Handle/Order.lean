import GpuSync.Proofs.Handle.Parts
import GpuSync.Resource.Key
import Mathlib.Algebra.Ring.Nat
import Mathlib.Data.List.Sort

/-!
# Handles stand for their parts

A handle is one word, but all that is ever asked of it is its index and its generation. The word
says no less and no more than these two: every pair that fits has one word, every word has one pair,
and words are ordered as pairs are, by generation first.

* `Handle.ofParts?_isSome` and `Handle.parts_of_ofParts?` are about packing,
  `Handle.ofParts?_parts` about packing what was unpacked.
* `Handle.word_pack_eq_or`, `Handle.index_eq_and` and `Handle.generation_eq_shiftRight` read the
  parts as bits: neither part reaches into the other.
* `Handle.Precedes` is the order by generation, then by index. `Handle.le_iff_precedes` says that it
  is the order of the words.
* **`Handle.stands_for_parts`** is the result, with what sorting makes of a list of handles.
-/

namespace GpuSync

namespace Handle

/-! ## Packing and unpacking

The parts are read by remainder and quotient, as a handle is a number whose lower digits are the
index. -/

/-- An index is packed if it fits. -/
theorem ofParts?_isSome (index generation : UInt32) :
    (ofParts? index generation).isSome = true ↔ index.toNat < 2 ^ 20 := by
  have small : index < indexCount ↔ index.toNat < 2 ^ 20 := UInt32.lt_iff_toNat_lt
  unfold ofParts?
  rw [← small]
  by_cases fits : index < indexCount
  · simp [fits]
  · simp [fits]

/-- What is packed has the index, and the generation reduced to its bits. The generation has twelve
bits, and what does not fit is dropped without an error. -/
theorem parts_of_ofParts? {index generation : UInt32} {handle : Handle}
    (packed : ofParts? index generation = some handle) :
    handle.index = index ∧ handle.generation.toNat = generation.toNat % 4096 := by
  have fits : index.toNat < 2 ^ 20 := by
    rw [← ofParts?_isSome index generation, packed]
    rfl
  unfold ofParts? at packed
  rw [if_pos (UInt32.lt_iff_toNat_lt.2 fits), Option.some.injEq] at packed
  rw [← packed]
  refine ⟨index_pack fits generation, ?_⟩
  rw [toNat_generation, toNat_word_pack]
  omega

/-- An index takes twenty bits. -/
theorem toNat_index_lt (handle : Handle) : handle.index.toNat < 2 ^ 20 := by
  rw [toNat_index]
  exact Nat.mod_lt _ (by decide)

/-- Every handle is made of its own parts. -/
theorem ofParts?_parts (handle : Handle) :
    ofParts? handle.index handle.generation = some handle := by
  have fits := handle.toNat_index_lt
  unfold ofParts?
  rw [if_pos (UInt32.lt_iff_toNat_lt.2 fits), Option.some.injEq]
  apply eq_of_parts
  · exact index_pack fits handle.generation
  · exact generation_pack handle.index handle.toNat_generation_lt

/-! ## The parts as bits

The same parts can be read by masks and shifts. Both readings agree for every word, so either may be
used below. -/

/-- The lower twenty bits are the index. -/
theorem index_eq_and (handle : Handle) : handle.index = handle.word &&& 1048575 := by
  apply UInt32.toNat_inj.1
  rw [toNat_index, UInt32.toNat_and]
  exact (Nat.and_two_pow_sub_one_eq_mod _ 20).symm

/-- The bits from the twentieth on are the generation. -/
theorem generation_eq_shiftRight (handle : Handle) : handle.generation = handle.word >>> 20 := by
  apply UInt32.toNat_inj.1
  rw [toNat_generation, UInt32.toNat_shiftRight]
  exact (Nat.shiftRight_eq_div_pow _ 20).symm

/-- Packing puts the bits of the parts side by side. -/
theorem word_pack_eq_or (index generation : UInt32) :
    (pack index generation).word = (generation &&& 4095) <<< 20 ||| (index &&& 1048575) := by
  have lower : (index &&& 1048575).toNat = index.toNat % 2 ^ 20 := by
    rw [UInt32.toNat_and]
    exact Nat.and_two_pow_sub_one_eq_mod _ 20
  have upper : ((generation &&& 4095) <<< 20).toNat = (generation.toNat % 2 ^ 12) <<< 20 := by
    have reduced : (generation &&& 4095).toNat = generation.toNat % 2 ^ 12 := by
      rw [UInt32.toNat_and]
      exact Nat.and_two_pow_sub_one_eq_mod _ 12
    have bound : generation.toNat % 2 ^ 12 < 2 ^ 12 := Nat.mod_lt _ (by decide)
    rw [UInt32.toNat_shiftLeft, reduced]
    show (generation.toNat % 2 ^ 12) <<< 20 % 2 ^ 32 = _
    rw [Nat.shiftLeft_eq]
    omega
  apply UInt32.toNat_inj.1
  rw [toNat_word_pack, UInt32.toNat_or, lower, upper,
    ← Nat.shiftLeft_add_eq_or_of_lt (Nat.mod_lt _ (by decide)), Nat.shiftLeft_eq]
  rfl

/-! ## Equality

The index and the generation fill the word, with nothing between or beside them. -/

/-- Two handles are equal if their parts are: the parts fill the word. -/
theorem eq_iff_parts {a b : Handle} : a = b ↔ a.index = b.index ∧ a.generation = b.generation := by
  constructor
  · rintro rfl
    exact ⟨rfl, rfl⟩
  · rintro ⟨index, generation⟩
    exact eq_of_parts index generation

/-! ## Order

Handles are compared as numbers, and the generation has the higher digits. So the order is that by
generation first, and handles of one generation are ordered by index. -/

/-- The order by generation, then by index. -/
def Precedes (a b : Handle) : Prop :=
  a.generation < b.generation ∨ a.generation = b.generation ∧ a.index ≤ b.index

/-- Handles are ordered by generation, then by index. -/
theorem le_iff_precedes {a b : Handle} : a ≤ b ↔ a.Precedes b := by
  have word : a ≤ b ↔ a.word.toNat ≤ b.word.toNat := UInt32.le_iff_toNat_le
  unfold Precedes
  rw [word, UInt32.lt_iff_toNat_lt, UInt32.le_iff_toNat_le, ← UInt32.toNat_inj,
    toNat_generation, toNat_generation, toNat_index, toNat_index]
  omega

/-- The order of handles is transitive, as that of their words. -/
theorem le_trans {a b c : Handle} (h : a ≤ b) (h' : b ≤ c) : a ≤ c := UInt32.le_trans h h'

/-- Any two handles can be compared. -/
theorem le_total (a b : Handle) : a ≤ b ∨ b ≤ a := UInt32.le_total a.word b.word

/-- Handles that come before each other are equal. -/
theorem le_antisymm {a b : Handle} (h : a ≤ b) (h' : b ≤ a) : a = b :=
  congrArg Handle.mk (UInt32.le_antisymm h h')

/-- Sorting a list of handles puts them in the order by generation, then by index; there is no
other list of the same handles in that order. -/
theorem eq_mergeSort_iff {handles other : List Handle} :
    other = (handles.mergeSort fun a b => decide (a ≤ b)) ↔
      other.Perm handles ∧ other.Pairwise Precedes := by
  have sorted : (handles.mergeSort fun a b => decide (a ≤ b)).Pairwise Precedes := by
    have pairwise : (handles.mergeSort fun a b => decide (a ≤ b)).Pairwise
        fun a b => decide (a ≤ b) = true := by
      apply List.pairwise_mergeSort
      · intro a b c h h'
        exact decide_eq_true (le_trans (of_decide_eq_true h) (of_decide_eq_true h'))
      · intro a b
        simpa using le_total a b
    exact pairwise.imp fun h => le_iff_precedes.1 (of_decide_eq_true h)
  have perm := handles.mergeSort_perm fun a b => decide (a ≤ b)
  constructor
  · rintro rfl
    exact ⟨perm, sorted⟩
  · rintro ⟨same, ordered⟩
    refine List.Perm.eq_of_pairwise (fun a b _ _ h h' => ?_) ordered sorted (same.trans perm.symm)
    exact le_antisymm (le_iff_precedes.2 h) (le_iff_precedes.2 h')

end Handle

/-- Keys are the same if they agree in kind, index and generation. -/
theorem Key.eq_iff_parts {a b : Key} :
    a = b ↔ a.kind = b.kind ∧ a.handle.index = b.handle.index ∧
      a.handle.generation = b.handle.generation := by
  rw [Key.mk.injEq, Handle.eq_iff_parts]

/-- **A handle stands for its parts.** An index and a generation are packed exactly if the index has
at most twenty bits, and the handle has this index and the lower twelve bits of the generation. The
other way round, every word is the one packed of its own parts. The parts are bits of the word that
do not overlap.

Handles are the same exactly if their parts are, and so are keys with their kinds. Handles are in
order exactly if they are by generation, then by index. Sorting yields the one list of the same
handles that is in this order. -/
theorem Handle.stands_for_parts :
    (∀ index generation : UInt32,
      ((ofParts? index generation).isSome = true ↔ index.toNat < 2 ^ 20) ∧
      ∀ handle, ofParts? index generation = some handle →
        handle.index = index ∧ handle.generation.toNat = generation.toNat % 4096 ∧
        handle.word = (generation &&& 4095) <<< 20 ||| (index &&& 1048575)) ∧
    (∀ word : UInt32, ofParts? (mk word).index (mk word).generation = some (mk word) ∧
      (mk word).index = word &&& 1048575 ∧ (mk word).generation = word >>> 20) ∧
    (∀ a b : Handle, a = b ↔ a.index = b.index ∧ a.generation = b.generation) ∧
    (∀ a b : Key, a = b ↔ a.kind = b.kind ∧ a.handle.index = b.handle.index ∧
      a.handle.generation = b.handle.generation) ∧
    (∀ a b : Handle, a ≤ b ↔
      a.generation < b.generation ∨ a.generation = b.generation ∧ a.index ≤ b.index) ∧
    ∀ handles sorted : List Handle, sorted = (handles.mergeSort fun a b => decide (a ≤ b)) ↔
      sorted.Perm handles ∧ sorted.Pairwise Precedes := by
  refine ⟨fun index generation => ⟨ofParts?_isSome index generation, ?_⟩, fun word => ?_,
    fun a b => eq_iff_parts, fun a b => Key.eq_iff_parts, fun a b => le_iff_precedes,
    fun handles sorted => eq_mergeSort_iff⟩
  · intro handle packed
    obtain ⟨same, reduced⟩ := parts_of_ofParts? packed
    refine ⟨same, reduced, ?_⟩
    unfold ofParts? at packed
    split at packed
    · rw [← word_pack_eq_or, Option.some.inj packed]
    · cases packed
  · exact ⟨ofParts?_parts _, index_eq_and _, generation_eq_shiftRight _⟩

/-- Generation counts before index: the handle of the later generation comes last. -/
example : ([⟨1048576⟩, ⟨5⟩, ⟨3⟩].mergeSort fun a b : Handle => decide (a ≤ b)) =
    [⟨3⟩, ⟨5⟩, ⟨1048576⟩] := by
  cbv

end GpuSync
