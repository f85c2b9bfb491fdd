/-!
# Sets of tasks

A batch has at most thirty-two tasks, so a set of them is a word with a bit for each. Whether the
set has a task on one side of a given one is asked with a mask that has the bits on that side.

## Main definitions

* `GpuSync.TaskSet` with `insert`, and questions about tasks before and after a given one.

## Main statements

* `GpuSync.TaskSet.mem_insert`, and `GpuSync.TaskSet.anyAfter_iff` with one such law for every other
  question.
-/

namespace GpuSync

/-- A set of task indices. -/
structure TaskSet where
  /-- The tasks, a bit for each. -/
  word : BitVec 32 := 0#32
  deriving DecidableEq, Repr

namespace TaskSet

/-- The bit of a task. -/
def bit (task : Nat) : BitVec 32 := 1#32 <<< task

/-- The bits of a task and all after it. There are none beyond the width of the word. -/
def bitsFrom (task : Nat) : BitVec 32 := BitVec.allOnes 32 <<< task

/-- The bits of a task and all before it, which are all bits from the last task on. -/
def bitsUpTo (task : Nat) : BitVec 32 := BitVec.allOnes 32 >>> (31 - min task 31)

/-- Whether the set has any of the tasks whose bits are given. -/
def meets (set : TaskSet) (mask : BitVec 32) : Bool := set.word &&& mask != 0#32

/-- Adds a task. -/
def insert (set : TaskSet) (task : Nat) : TaskSet := ⟨set.word ||| bit task⟩

/-- Whether there is a task after this one. -/
def anyAfter (set : TaskSet) (task : Nat) : Bool := set.meets (bitsFrom (task + 1))

/-- Whether there is this task or one after it. -/
def anyFrom (set : TaskSet) (task : Nat) : Bool := set.meets (bitsFrom task)

/-- Whether there is a task before this one. -/
def anyBefore (set : TaskSet) (task : Nat) : Bool := set.meets (bit task - 1)

/-- Whether there is this task or one before it. -/
def anyUpTo (set : TaskSet) (task : Nat) : Bool := set.meets (bitsUpTo task)

/-! ## One law per operation

A set is a word with a bit for each task, and a question on all tasks before or after one is a
question on several bits at once. The laws turn these back into statements on tasks. -/

/-- The tasks of a set are those whose bits are set. -/
instance : Membership Nat TaskSet := ⟨fun set task => set.word.getLsbD task = true⟩

/-- A task is in a set if its bit is set. -/
theorem mem_iff {set : TaskSet} {task : Nat} : task ∈ set ↔ set.word.getLsbD task = true := .rfl

/-- Only the tasks that a word has bits for can be in a set. -/
theorem lt_of_mem {set : TaskSet} {task : Nat} (mem : task ∈ set) : task < 32 :=
  BitVec.lt_of_getLsbD mem

/-- The set one starts with is empty. -/
theorem not_mem_empty (task : Nat) : task ∉ ({} : TaskSet) := by
  simp [mem_iff]

/-- The one bit of a task, read at any place. A task beyond the word has none. -/
theorem getLsbD_bit (task other : Nat) :
    (bit task).getLsbD other = decide (task < 32 ∧ other = task) := by
  rw [bit, ← BitVec.twoPow_eq, BitVec.getLsbD_twoPow, Bool.decide_and, decide_eq_decide.2 eq_comm]

/-- An insertion of a task that has a bit adds that task and no other. -/
theorem mem_insert {set : TaskSet} {task other : Nat} (fits : task < 32) :
    other ∈ set.insert task ↔ other = task ∨ other ∈ set := by
  rw [mem_iff, mem_iff, insert, BitVec.getLsbD_or, Bool.or_eq_true, getLsbD_bit, decide_eq_true_iff,
    and_iff_right fits, or_comm]

/-- A set has one of the tasks of a mask if a bit is set in both. -/
theorem meets_iff {set : TaskSet} {mask : BitVec 32} :
    set.meets mask = true ↔ ∃ task ∈ set, mask.getLsbD task = true := by
  rw [meets, bne_iff_ne]
  constructor
  · intro differ
    refine Classical.byContradiction fun none => differ (BitVec.eq_of_getLsbD_eq fun task _ => ?_)
    rw [BitVec.getLsbD_and, BitVec.getLsbD_zero, Bool.and_eq_false_iff]
    by_cases mem : task ∈ set
    · exact .inr (eq_false_of_ne_true fun masked => none ⟨task, mem, masked⟩)
    · exact .inl (eq_false_of_ne_true mem)
  · rintro ⟨task, mem, masked⟩ same
    have bit := congrArg (·.getLsbD task) same
    simp [mem_iff.1 mem, masked] at bit

/-- The bits from a task upwards, read at any place. -/
theorem getLsbD_bitsFrom (task other : Nat) :
    (bitsFrom task).getLsbD other = decide (task ≤ other ∧ other < 32) := by
  rw [bitsFrom, BitVec.getLsbD_shiftLeft, BitVec.getLsbD_allOnes, Bool.eq_iff_iff]
  simp only [Bool.and_eq_true, Bool.not_eq_true', decide_eq_true_eq, decide_eq_false_iff_not]
  omega

/-- The bits up to a task, read at any place. -/
theorem getLsbD_bitsUpTo (task other : Nat) :
    (bitsUpTo task).getLsbD other = decide (other ≤ task ∧ other < 32) := by
  rw [bitsUpTo, BitVec.getLsbD_ushiftRight, BitVec.getLsbD_allOnes, Bool.eq_iff_iff]
  simp only [decide_eq_true_eq]
  omega

/-- The bit of a task less one has the bits below it. A task beyond the width has no bit, and all
bits are below it. -/
theorem getLsbD_bit_sub_one (task other : Nat) :
    (bit task - 1).getLsbD other = decide (other < task ∧ other < 32) := by
  by_cases fits : task < 32
  · have word : bit task - 1 = BitVec.ofNat 32 (2 ^ task - 1) := by
      have small : 2 ^ task < 2 ^ 32 := Nat.pow_lt_pow_right (by decide) fits
      have pos : 0 < 2 ^ task := Nat.two_pow_pos task
      apply BitVec.eq_of_toNat_eq
      rw [bit, ← BitVec.twoPow_eq, BitVec.toNat_sub, BitVec.toNat_twoPow, BitVec.toNat_ofNat]
      simp
      omega
    rw [word, BitVec.getLsbD_ofNat, Nat.testBit_two_pow_sub_one, Bool.and_comm, Bool.decide_and]
  · have none : bit task = 0#32 := by
      rw [bit, BitVec.shiftLeft_eq_zero (Nat.not_lt.1 fits)]
    have all : bit task - 1 = BitVec.allOnes 32 := by
      rw [none]
      rfl
    rw [all, BitVec.getLsbD_allOnes, decide_eq_decide]
    omega

section

variable {set : TaskSet} {task : Nat}

/-- The query by mask asks for a task of the set above a given one. -/
theorem anyAfter_iff : set.anyAfter task = true ↔ ∃ other ∈ set, task < other := by
  rw [anyAfter, meets_iff]
  refine exists_congr fun other => and_congr_right fun mem => ?_
  rw [getLsbD_bitsFrom, decide_eq_true_iff, and_iff_left (lt_of_mem mem), Nat.succ_le_iff]

/-- The query by mask asks for a task of the set at or above a given one. -/
theorem anyFrom_iff : set.anyFrom task = true ↔ ∃ other ∈ set, task ≤ other := by
  rw [anyFrom, meets_iff]
  refine exists_congr fun other => and_congr_right fun mem => ?_
  rw [getLsbD_bitsFrom, decide_eq_true_iff, and_iff_left (lt_of_mem mem)]

/-- The query by mask asks for a task of the set below a given one. -/
theorem anyBefore_iff : set.anyBefore task = true ↔ ∃ other ∈ set, other < task := by
  rw [anyBefore, meets_iff]
  refine exists_congr fun other => and_congr_right fun mem => ?_
  rw [getLsbD_bit_sub_one, decide_eq_true_iff, and_iff_left (lt_of_mem mem)]

/-- The query by mask asks for a task of the set at or below a given one. -/
theorem anyUpTo_iff : set.anyUpTo task = true ↔ ∃ other ∈ set, other ≤ task := by
  rw [anyUpTo, meets_iff]
  refine exists_congr fun other => and_congr_right fun mem => ?_
  rw [getLsbD_bitsUpTo, decide_eq_true_iff, and_iff_left (lt_of_mem mem)]

end

end TaskSet

end GpuSync
