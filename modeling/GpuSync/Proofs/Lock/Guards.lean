import GpuSync.Lock.Exclusive
import GpuSync.Lock.Shared
import Mathlib.Algebra.Ring.Nat
import Mathlib.Data.List.Induction
import Mathlib.Data.List.Infix
import Mathlib.Tactic.Common

/-!
# Guards keep each other out

Locks are used by many at once, each doing one atomic step after another: it looks at the word of
the lock, tries to change it, or gives a guard back. A look changes nothing, so only the attempts
that it leads to are steps here. What an attempt goes by may have been seen at any time before.

The value behind a lock is not written atomically, so it is not enough that the lock has the newest
value: whoever has a guard must know of all writes. Knowledge is handed on by the word. Giving a
guard back leaves it there, and taking one picks it up.

* `Lock.Traffic` has the guards that are out, what was written through them, and how many of the
  writes are known to whoever takes a guard next. `Lock.Traffic.readable` lists what may be read
  through a guard.
* `Lock.Traffic.Orderly` is what guards keep by excluding each other: everybody knows everything.
* `Lock.Rules.next` does one step, by the rules of a lock: `Lock.Shared.rules`,
  `Lock.Exclusive.rules`. `Lock.Shared.Sound` and `Lock.Exclusive.Sound` tie the lock to the guards
  that are out, and every step keeps them.
* **`Lock.guards_exclude`** is the result for all runs of both locks.
-/

namespace GpuSync.Lock

/-! ## Guards that are out

A guard is kept with what its holder knows, which is a number of writes that the holder has seen.
What may be read through it is any value from the last one known on; that this is one value only has
to be proved, and rests on what is handed on with the word of the lock. -/

/-- A guard that is out. What it knows is how many of the values written its holder has seen for
certain. -/
structure Guard where
  /-- Whether the value may be written through it. -/
  writes : Bool
  /-- How many of the writes whoever has it knows of. -/
  knows : Nat
  deriving DecidableEq

/-- The guards of a lock that are out, and what was written through guards. Knowledge is handed on
through the word of the lock: what was handed on last is what the next one to take a guard knows. -/
structure Traffic (α : Type) where
  /-- The value that the lock was made with. -/
  first : α
  /-- The values written since, in order. -/
  written : List α := []
  /-- The guards that are out, in the order in which they were taken. -/
  guards : List Guard := []
  /-- How many of the writes are handed on to whoever takes a guard. -/
  handedOn : Nat := 0

namespace Traffic

variable {α : Type}

/-- The value written last. -/
def latest (traffic : Traffic α) : α :=
  (traffic.first :: traffic.written).getLast (List.cons_ne_nil _ _)

/-- What may be read through a guard: the value written last of those known, or any later one. -/
def readable (traffic : Traffic α) (guard : Guard) : List α :=
  (traffic.first :: traffic.written).drop guard.knows

/-- How many guards to read are out. -/
def readers (traffic : Traffic α) : Nat := traffic.guards.countP (!·.writes)

/-- How many guards to write are out. -/
def writers (traffic : Traffic α) : Nat := traffic.guards.countP (·.writes)

/-- A guard is taken, with the knowledge that is handed on. -/
def take (traffic : Traffic α) (writes : Bool) : Traffic α :=
  { traffic with guards := traffic.guards ++ [⟨writes, traffic.handedOn⟩] }

/-- A guard is given back. A reader counts the word down, which hands on what was handed on before
as well. A writer stores the word anew, which hands on no more than it knows itself. -/
def giveBack (traffic : Traffic α) (i : Nat) (guard : Guard) : Traffic α :=
  { traffic with
    guards := traffic.guards.eraseIdx i
    handedOn := if guard.writes then guard.knows else max traffic.handedOn guard.knows }

/-- A value is written through a guard, whose holder knows of it. -/
def put (traffic : Traffic α) (i : Nat) (value : α) : Traffic α :=
  { traffic with
    written := traffic.written ++ [value]
    guards := traffic.guards.modify i fun guard =>
      { guard with knows := traffic.written.length + 1 } }

/-- A guard to write is the only one, and everybody knows of all writes. The second clause is what
makes reading give the value written last, as there is none that a holder could miss. -/
structure Orderly (traffic : Traffic α) : Prop where
  /-- A guard to write is the only one. -/
  alone : ∀ guard ∈ traffic.guards, guard.writes = true → traffic.guards = [guard]
  /-- Whoever has a guard knows of all writes. -/
  informed : ∀ guard ∈ traffic.guards, guard.knows = traffic.written.length
  /-- Unless there is a guard to write, all writes are handed on. -/
  passed : (∀ guard ∈ traffic.guards, guard.writes = false) →
    traffic.handedOn = traffic.written.length

section

variable {traffic : Traffic α}

/-- No guard is out, and nothing was written. -/
theorem orderly_new (first : α) : Orderly { first } where
  alone := nofun
  informed := nofun
  passed := fun _ => rfl

/-- There is one guard, to write, or there are guards to read only. -/
theorem Orderly.cases (h : traffic.Orderly) :
    (∃ guard, traffic.guards = [guard] ∧ guard.writes = true) ∨
      ∀ guard ∈ traffic.guards, guard.writes = false := by
  by_cases writer : ∃ guard ∈ traffic.guards, guard.writes = true
  · obtain ⟨guard, mem, writes⟩ := writer
    exact .inl ⟨guard, h.alone guard mem writes, writes⟩
  · refine .inr fun guard mem => ?_
    by_contra writes
    exact writer ⟨guard, mem, by simpa using writes⟩

/-- There is no guard to write if all guards are to read. -/
theorem writers_eq_zero : traffic.writers = 0 ↔ ∀ guard ∈ traffic.guards, guard.writes = false := by
  simp [writers, List.countP_eq_zero]

/-- Guards that are none to write are all to read. -/
theorem readers_eq_length (none : traffic.writers = 0) :
    traffic.readers = traffic.guards.length := by
  rw [writers_eq_zero] at none
  unfold readers
  rw [List.countP_eq_length]
  simpa using none

/-- One more guard to read is out. -/
@[simp] theorem readers_take (traffic : Traffic α) :
    (traffic.take false).readers = traffic.readers + 1 := by
  simp [readers, take]

/-- A guard to write that is the only one leaves no room for readers. -/
theorem writers_of_writer {guard : Guard} (only : traffic.guards = [guard])
    (writes : guard.writes = true) : traffic.writers = 1 ∧ traffic.readers = 0 := by
  simp [writers, readers, only, writes]

/-- Either one guard is out, to write, or all guards are to read. -/
theorem Orderly.writers_cases (h : traffic.Orderly) :
    traffic.writers = 1 ∧ traffic.readers = 0 ∨ traffic.writers = 0 := by
  rcases h.cases with ⟨guard, only, writes⟩ | reading
  · exact .inl (writers_of_writer only writes)
  · exact .inr (writers_eq_zero.2 reading)

/-- Through a guard nothing but the value written last can be read. -/
theorem Orderly.readable_eq (h : traffic.Orderly) {guard : Guard} (mem : guard ∈ traffic.guards) :
    traffic.readable guard = [traffic.latest] := by
  unfold readable latest
  rw [h.informed guard mem, List.drop_eq_getElem_cons (by simp), List.drop_eq_nil_of_le (by simp),
    List.getLast_eq_getElem]
  rfl

/-- A value written is the latest one. -/
@[simp] theorem latest_put (traffic : Traffic α) (i : Nat) (value : α) :
    (traffic.put i value).latest = value := by
  simp only [latest, put, ← List.cons_append, List.getLast_concat]

/-- One guard fewer is out. -/
theorem length_giveBack (traffic : Traffic α) {i : Nat} {guard : Guard}
    (found : traffic.guards[i]? = some guard) :
    (traffic.giveBack i guard).guards.length + 1 = traffic.guards.length := by
  have bound := (List.getElem?_eq_some_iff.1 found).1
  have erased : (traffic.giveBack i guard).guards.length = traffic.guards.length - 1 :=
    List.length_eraseIdx_of_lt bound
  omega

/-- A guard to read is taken while there is none to write. -/
theorem Orderly.take_read (h : traffic.Orderly) (none : traffic.writers = 0) :
    (traffic.take false).Orderly := by
  rw [writers_eq_zero] at none
  have reading : ∀ guard ∈ (traffic.take false).guards, guard.writes = false := by
    simpa [take, or_imp, forall_and] using none
  refine ⟨?_, ?_, fun _ => h.passed none⟩
  · intro guard mem writes
    simp [reading guard mem] at writes
  · intro guard mem
    rcases List.mem_append.1 mem with old | new
    · exact h.informed guard old
    · rw [List.mem_singleton.1 new]
      exact h.passed none

/-- A guard that is taken while none is out is the only one, and knows what is handed on. -/
theorem guards_take (none : traffic.guards = []) (writes : Bool) :
    (traffic.take writes).guards = [⟨writes, traffic.handedOn⟩] := by
  simp [take, none]

/-- A guard to write is taken while there is no guard at all. -/
theorem Orderly.take_write (h : traffic.Orderly) (none : traffic.guards = []) :
    (traffic.take true).Orderly := by
  have only := guards_take none true
  refine {
    alone := ?alone
    informed := ?informed
    passed := ?passed }
  case alone =>
    intro guard mem _
    rw [only] at mem ⊢
    rw [List.mem_singleton.1 mem]
  case informed =>
    intro guard mem
    rw [only] at mem
    rw [List.mem_singleton.1 mem]
    exact h.passed (by simp [none])
  case passed =>
    intro reading
    simp [only] at reading

/-- A guard is given back. -/
theorem Orderly.giveBack (h : traffic.Orderly) {i : Nat} {guard : Guard}
    (found : traffic.guards[i]? = some guard) : (traffic.giveBack i guard).Orderly := by
  have mem := List.mem_of_getElem? found
  have informed := h.informed guard mem
  have fewer : ∀ other ∈ (traffic.giveBack i guard).guards, other ∈ traffic.guards :=
    fun other kept => List.mem_of_mem_eraseIdx kept
  rcases h.cases with ⟨writer, only, writes⟩ | reading
  · -- the only guard is the one given back, so none is left
    have same : guard = writer := by simpa [only] using mem
    have first : i = 0 := by
      have bound := (List.getElem?_eq_some_iff.1 found).1
      simpa [only] using bound
    have left : (traffic.giveBack i guard).guards = [] := by
      simp [Traffic.giveBack, only, first]
    refine ⟨by simp [left], by simp [left], fun _ => ?_⟩
    show (if guard.writes then guard.knows else _) = _
    rw [same, if_pos writes, ← same]
    exact informed
  · refine ⟨?_, ?_, fun _ => ?_⟩
    · intro other kept writes
      simp [reading other (fewer other kept)] at writes
    · exact fun other kept => h.informed other (fewer other kept)
    · show (if guard.writes then _ else max traffic.handedOn guard.knows) = traffic.written.length
      rw [reading guard mem, if_neg Bool.false_ne_true, informed, h.passed reading, Nat.max_self]

/-- A value is written through a guard to write. -/
theorem Orderly.put (h : traffic.Orderly) {i : Nat} {guard : Guard}
    (found : traffic.guards[i]? = some guard) (writes : guard.writes = true) (value : α) :
    (traffic.put i value).Orderly ∧
      (traffic.put i value).guards = [⟨true, traffic.written.length + 1⟩] := by
  have only := h.alone guard (List.mem_of_getElem? found) writes
  have first : i = 0 := by
    have bound := (List.getElem?_eq_some_iff.1 found).1
    simpa [only] using bound
  have kept : (traffic.put i value).guards = [⟨true, traffic.written.length + 1⟩] := by
    simp [Traffic.put, only, first, writes]
  refine ⟨⟨?_, ?_, ?_⟩, kept⟩
  · intro other mem _
    rw [kept] at mem ⊢
    rw [List.mem_singleton.1 mem]
  · intro other mem
    rw [kept] at mem
    rw [List.mem_singleton.1 mem]
    simp [Traffic.put]
  · intro reading
    simp [kept] at reading

end

end Traffic

/-- A lock with the guards that are out. -/
structure InUse (σ α : Type) where
  /-- The lock. -/
  lock : σ
  /-- Its guards. -/
  traffic : Traffic α

/-- What may be done with a lock, one atomic step each. -/
structure Rules (σ α τ : Type) where
  /-- Whether the guard that an attempt is for may be written through. -/
  writes : τ → Bool
  /-- An attempt to take a guard. -/
  admit? : τ → σ → Option σ
  /-- Gives a guard back. -/
  release? : Guard → σ → Option σ
  /-- Writes the value. -/
  write : σ → α → σ

/-- An atomic step of somebody who uses a lock. -/
inductive Step (α τ : Type) where
  /-- Tries to take a guard. -/
  | take (attempt : τ)
  /-- Gives the guard at a position back. -/
  | drop (i : Nat)
  /-- Writes a value through the guard at a position, if it is one to write. -/
  | put (i : Nat) (value : α)
  deriving DecidableEq

namespace Rules

variable {σ α τ : Type}

/-- Does one step. An attempt that fails changes nothing. The steps are those of any number of
threads, in the order in which they take effect. -/
def next (rules : Rules σ α τ) (use : InUse σ α) : Step α τ → InUse σ α
  | .take attempt =>
    match rules.admit? attempt use.lock with
    | none => use
    | some lock => { lock, traffic := use.traffic.take (rules.writes attempt) }
  | .drop i =>
    match use.traffic.guards[i]? with
    | none => use
    | some guard =>
      match rules.release? guard use.lock with
      | none => use
      | some lock => { lock, traffic := use.traffic.giveBack i guard }
  | .put i value =>
    match use.traffic.guards[i]? with
    | none => use
    | some guard =>
      if guard.writes then
        { lock := rules.write use.lock value, traffic := use.traffic.put i value }
      else use

/-- Does steps in order. -/
def run (rules : Rules σ α τ) (use : InUse σ α) (steps : List (Step α τ)) : InUse σ α :=
  steps.foldl rules.next use

/-- A run goes on with the last step. -/
@[simp] theorem run_append (rules : Rules σ α τ) (use : InUse σ α) (steps : List (Step α τ))
    (step : Step α τ) :
    rules.run use (steps ++ [step]) = rules.next (rules.run use steps) step := by
  simp [run]

/-- A guard that can be given back is, with what it hands on. -/
theorem next_drop {rules : Rules σ α τ} {use : InUse σ α} {i : Nat} {guard : Guard} {lock : σ}
    (found : use.traffic.guards[i]? = some guard)
    (done : rules.release? guard use.lock = some lock) :
    rules.next use (.drop i) = { lock, traffic := use.traffic.giveBack i guard } := by
  simp [next, found, done]

/-- A step that does something takes a guard, gives one back or writes through one. -/
theorem next_keeps {rules : Rules σ α τ} {use : InUse σ α} {P : InUse σ α → Prop} (h : P use)
    (taken : ∀ attempt lock, rules.admit? attempt use.lock = some lock →
      P { lock, traffic := use.traffic.take (rules.writes attempt) })
    (dropped : ∀ i guard lock, use.traffic.guards[i]? = some guard →
      rules.release? guard use.lock = some lock →
      P { lock, traffic := use.traffic.giveBack i guard })
    (written : ∀ i guard value, use.traffic.guards[i]? = some guard → guard.writes = true →
      P { lock := rules.write use.lock value, traffic := use.traffic.put i value })
    (step : Step α τ) : P (rules.next use step) := by
  cases step with
  | take attempt =>
    cases done : rules.admit? attempt use.lock with
    | none => simpa [next, done] using h
    | some lock => simpa [next, done] using taken attempt lock done
  | drop i =>
    cases found : use.traffic.guards[i]? with
    | none => simpa [next, found] using h
    | some guard =>
      cases done : rules.release? guard use.lock with
      | none => simpa [next, found, done] using h
      | some lock => simpa [next, found, done] using dropped i guard lock found done
  | put i value =>
    cases found : use.traffic.guards[i]? with
    | none => simpa [next, found] using h
    | some guard =>
      by_cases writes : guard.writes = true
      · simpa [next, found, writes] using written i guard value found writes
      · simpa [next, found, writes] using h

end Rules

/-! ## Shared locks

The word of the lock and the guards that are out say the same. An attempt to read that goes by a
word seen before succeeds only if the word is still the same, so it can be treated as one that looks
at the word now. -/

namespace Shared

variable {α : Type}

/-- An attempt to take a guard of a shared lock. -/
inductive Attempt where
  /-- To read, by somebody who has seen a word. -/
  | read (seen : UInt32)
  /-- To write. -/
  | write
  deriving DecidableEq

/-- An attempt to read by somebody who has seen a word of the lock, now or at any time before. The
lock is left alone if the word says that it is written, or is not its word any more. -/
def admit? (lock : Shared α) (seen : UInt32) : Option (Shared α) :=
  if writerMark ≤ seen then none
  else if lock.word = seen then some { lock with word := seen + 1 }
  else none

/-- What may be done with a shared lock. -/
def rules : Rules (Shared α) α Attempt where
  writes
    | .read _ => false
    | .write => true
  admit?
    | .read seen, lock => lock.admit? seen
    | .write, lock => lock.tryWrite
  release? guard lock := if guard.writes then lock.endWrite? else lock.endRead?
  write := write

/-- Does steps in order, with a lock that is new. -/
def run (first : α) (steps : List (Step α Attempt)) : InUse (Shared α) α :=
  rules.run { lock := .new first, traffic := { first } } steps

/-- The word tells which guards are out. -/
structure Sound (use : InUse (Shared α) α) : Prop where
  /-- The guards are in order. -/
  orderly : use.traffic.Orderly
  /-- There are not too many of them. -/
  few : use.traffic.readers < 2 ^ 31
  /-- The word is the mark of the writer, or else the number of readers. -/
  word : use.lock.word.toNat = if use.traffic.writers = 0 then use.traffic.readers else 2 ^ 31
  /-- The lock has the value written last. -/
  value : use.lock.value = use.traffic.latest

section

variable {use : InUse (Shared α) α}

/-- The word of a new lock tells of no guard, and its value was written by nobody. -/
theorem sound_new (first : α) : Sound { lock := .new first, traffic := { first } } where
  orderly := Traffic.orderly_new first
  few := by simp [Traffic.readers]
  word := rfl
  value := rfl

/-- Trying to read is looking at the word and going by it at once. -/
theorem tryRead_eq_admit? (lock : Shared α) : lock.tryRead = lock.admit? lock.word := by
  simp [tryRead, admit?, isWritten]

/-- A word tells of a writer by its highest bit. -/
theorem isWritten_iff (lock : Shared α) : lock.isWritten = true ↔ 2 ^ 31 ≤ lock.word.toNat := by
  unfold isWritten
  rw [decide_eq_true_iff, UInt32.le_iff_toNat_le]
  rfl

/-- An attempt to read that succeeds finds the word that it has seen, so it is as good as one that
goes by the word as it is. -/
theorem of_admit? {lock after : Shared α} {seen : UInt32} (done : lock.admit? seen = some after) :
    lock.tryRead = some after ∧ seen = lock.word := by
  unfold admit? at done
  split at done
  · cases done
  split at done
  · rename_i unwritten same
    subst same
    refine ⟨?_, rfl⟩
    simpa [tryRead, isWritten, unwritten] using done
  · cases done

/-- A try to read that succeeds counts one reader up, while nobody writes. -/
theorem tryRead_eq_some {lock after : Shared α} (done : lock.tryRead = some after) :
    after = { lock with word := lock.word + 1 } ∧ ¬ lock.isWritten = true := by
  unfold tryRead at done
  split at done
  · cases done
  · rename_i unwritten
    exact ⟨(Option.some.inj done).symm, unwritten⟩

/-- The lock is written exactly if there is a guard to write. -/
theorem Sound.isWritten_iff (h : Sound use) :
    use.lock.isWritten = true ↔ use.traffic.writers ≠ 0 := by
  have few := h.few
  rw [Shared.isWritten_iff, h.word]
  by_cases none : use.traffic.writers = 0
  · simpa [none] using few
  · simp [none]

/-- The word is zero exactly if there is no guard. -/
theorem Sound.word_eq_zero_iff (h : Sound use) :
    use.lock.word = 0 ↔ use.traffic.guards = [] := by
  rw [← UInt32.toNat_inj, h.word]
  by_cases none : use.traffic.writers = 0
  · rw [if_pos none, Traffic.readers_eq_length none]
    exact List.length_eq_zero_iff
  · rw [if_neg none]
    constructor
    · intro zero
      cases zero
    · intro empty
      exact absurd (by simp [Traffic.writers, empty]) none

/-- The word is the mark of the one writer or else the number of readers. This is what every attempt
is decided by. -/
theorem Sound.word_cases (h : Sound use) :
    use.traffic.writers = 1 ∧ use.traffic.readers = 0 ∧ use.lock.word = writerMark ∨
      use.traffic.writers = 0 ∧ use.lock.word.toNat = use.traffic.readers := by
  have word := h.word
  rcases h.orderly.writers_cases with ⟨one, zero⟩ | none
  · rw [one, if_neg Nat.one_ne_zero] at word
    exact .inl ⟨one, zero, UInt32.toNat_inj.1 word⟩
  · rw [if_pos none] at word
    exact .inr ⟨none, word⟩

/-- A try to write succeeds just if no guard is out. -/
theorem Sound.tryWrite_isSome_iff (h : Sound use) :
    use.lock.tryWrite.isSome = true ↔ use.traffic.guards = [] := by
  rw [← h.word_eq_zero_iff]
  simp [tryWrite]

/-- A try to read succeeds just if no guard to write is out. -/
theorem Sound.tryRead_isSome_iff (h : Sound use) :
    use.lock.tryRead.isSome = true ↔ use.traffic.writers = 0 := by
  have written := h.isWritten_iff
  by_cases held : use.lock.isWritten = true
  · simpa [tryRead, held] using written.1 held
  · simpa [tryRead, held] using fun some' => held (written.2 some')

/-- An attempt to read by a word seen before succeeds just if nobody writes and the word is still
the same. -/
theorem Sound.admit?_isSome_iff (h : Sound use) {seen : UInt32} :
    (use.lock.admit? seen).isSome = true ↔ use.traffic.writers = 0 ∧ seen = use.lock.word := by
  rw [← h.tryRead_isSome_iff]
  constructor
  · intro done
    obtain ⟨lock, done⟩ := Option.isSome_iff_exists.1 done
    obtain ⟨now, same⟩ := of_admit? done
    exact ⟨Option.isSome_of_eq_some now, same⟩
  · rintro ⟨now, rfl⟩
    rwa [← tryRead_eq_admit?]

/-- Somebody gets to read. The word counts one more, and says that nobody writes. -/
theorem Sound.read (h : Sound use) {seen : UInt32} {lock : Shared α}
    (done : use.lock.admit? seen = some lock) (few : use.traffic.readers + 1 < 2 ^ 31) :
    Sound { lock, traffic := use.traffic.take false } := by
  obtain ⟨rfl, unwritten⟩ := tryRead_eq_some (of_admit? done).1
  have none : use.traffic.writers = 0 := by
    rwa [h.isWritten_iff, not_not] at unwritten
  have count := h.word
  rw [if_pos none] at count
  have writers : (use.traffic.take false).writers = 0 := by
    simpa [Traffic.writers, Traffic.take] using none
  refine ⟨h.orderly.take_read none, by simpa using few, ?_, h.value⟩
  show (use.lock.word + 1).toNat = _
  rw [if_pos writers, Traffic.readers_take, UInt32.toNat_add, UInt32.toNat_one, count]
  omega

/-- Somebody gets to write. The word was zero and has the mark of the writer then. -/
theorem Sound.write (h : Sound use) {lock : Shared α} (done : use.lock.tryWrite = some lock) :
    Sound { lock, traffic := use.traffic.take true } := by
  unfold tryWrite at done
  split at done
  · rename_i zero
    cases done
    have none := h.word_eq_zero_iff.1 zero
    obtain ⟨writers, readers⟩ := Traffic.writers_of_writer (Traffic.guards_take none true) rfl
    refine ⟨h.orderly.take_write none, by simp [readers], ?_, h.value⟩
    rw [writers]
    rfl
  · cases done

/-- A guard can always be given back. What is subtracted from the word was added when the guard was
taken. -/
theorem Sound.release? (h : Sound use) {i : Nat} {guard : Guard}
    (found : use.traffic.guards[i]? = some guard) :
    rules.release? guard use.lock =
      some { use.lock with word := if guard.writes then 0 else use.lock.word - 1 } := by
  have mem := List.mem_of_getElem? found
  rcases h.orderly.cases with ⟨writer, only, writes⟩ | reading
  · have same : guard = writer := by simpa [only] using mem
    have written : use.lock.isWritten = true := by
      rw [h.isWritten_iff, (Traffic.writers_of_writer only writes).1]
      exact Nat.one_ne_zero
    simp [rules, endWrite?, same, writes, written]
  · have none := Traffic.writers_eq_zero.2 reading
    have unwritten : use.lock.isWritten = false := by
      rw [← Bool.not_eq_true, h.isWritten_iff]
      exact not_not_intro none
    have positive : use.lock.word ≠ 0 := fun zero => by
      rw [h.word_eq_zero_iff.1 zero] at mem
      cases mem
    simp [rules, endRead?, reading guard mem, unwritten, positive]

/-- A guard is given back. A reader counts the word down by one, and a writer sets it to zero; each
hands on what it knows. -/
theorem Sound.drop (h : Sound use) {i : Nat} {guard : Guard}
    (found : use.traffic.guards[i]? = some guard) :
    Sound { lock := { use.lock with word := if guard.writes then 0 else use.lock.word - 1 },
            traffic := use.traffic.giveBack i guard } := by
  have orderly := h.orderly.giveBack found
  have mem := List.mem_of_getElem? found
  have fewer := use.traffic.length_giveBack found
  rcases h.orderly.cases with ⟨writer, only, writes⟩ | reading
  · have same : guard = writer := by simpa [only] using mem
    have gone : (use.traffic.giveBack i guard).guards = [] := by
      simpa [only] using fewer
    have none : (use.traffic.giveBack i guard).writers = 0 := by simp [Traffic.writers, gone]
    refine ⟨orderly, ?_, ?_, h.value⟩
    · simp [Traffic.readers, gone]
    · rw [if_pos none, Traffic.readers_eq_length none, gone, same, if_pos writes]
      rfl
  · have none := Traffic.writers_eq_zero.2 reading
    have none' : (use.traffic.giveBack i guard).writers = 0 :=
      Traffic.writers_eq_zero.2 fun other kept => reading other (List.mem_of_mem_eraseIdx kept)
    have word := h.word
    have few := h.few
    rw [if_pos none, Traffic.readers_eq_length none] at word
    rw [Traffic.readers_eq_length none] at few
    refine ⟨orderly, ?_, ?_, h.value⟩
    · rw [Traffic.readers_eq_length none']
      omega
    · rw [if_pos none', reading guard mem, if_neg Bool.false_ne_true,
        Traffic.readers_eq_length none', UInt32.toNat_sub, UInt32.toNat_one, word]
      omega

/-- A value is written through a guard. -/
theorem Sound.put (h : Sound use) {i : Nat} {guard : Guard} {value : α}
    (found : use.traffic.guards[i]? = some guard) (writes : guard.writes = true) :
    Sound { lock := use.lock.write value, traffic := use.traffic.put i value } := by
  obtain ⟨orderly, only⟩ := h.orderly.put found writes value
  obtain ⟨writers, readers⟩ := Traffic.writers_of_writer only rfl
  have before := Traffic.writers_of_writer
    (h.orderly.alone guard (List.mem_of_getElem? found) writes) writes
  have word := h.word
  rw [before.1] at word
  refine ⟨orderly, by simp [readers], ?_, (Traffic.latest_put ..).symm⟩
  rw [writers]
  exact word

/-- **One step.** -/
theorem Sound.next (h : Sound use) (step : Step α Attempt) :
    (rules.next use step).traffic.readers < 2 ^ 31 → Sound (rules.next use step) := by
  apply Rules.next_keeps (P := fun after => after.traffic.readers < 2 ^ 31 → Sound after)
  · exact fun _ => h
  · rintro (seen | _) lock done few
    · exact h.read done (by simpa [rules] using few)
    · exact h.write done
  · intro i guard lock found done _
    cases (h.release? found).symm.trans done
    exact h.drop found
  · intro i guard value found writes _
    exact h.put found writes

end

/-- **Any number of steps.** -/
theorem sound_run (first : α) {steps : List (Step α Attempt)}
    (few : ∀ before, before <+: steps → (run first before).traffic.readers < 2 ^ 31) :
    Sound (run first steps) := by
  induction steps using List.reverseRecOn with
  | nil => exact sound_new first
  | append_singleton steps step ih =>
    have former := ih fun before part => few before (part.trans (List.prefix_append _ _))
    have few := few _ List.prefix_rfl
    unfold run at few ⊢
    rw [Rules.run_append] at few ⊢
    exact former.next step few

end Shared

/-! ## Exclusive locks

An exclusive lock goes by the same invariant with one kind of guard, which excludes every other. -/

namespace Exclusive

variable {α : Type}

/-- What may be done with an exclusive lock. There is but one kind of guard. -/
def rules : Rules (Exclusive α) α Unit where
  writes _ := true
  admit? _ lock := lock.tryLock
  release? _ lock := lock.unlock?
  write := write

/-- Does steps in order, with a lock that is new. -/
def run (first : α) (steps : List (Step α Unit)) : InUse (Exclusive α) α :=
  rules.run { lock := .new first, traffic := { first } } steps

/-- The lock tells whether its guard is out. -/
structure Sound (use : InUse (Exclusive α) α) : Prop where
  /-- The guards are in order. -/
  orderly : use.traffic.Orderly
  /-- All of them are to write. -/
  writing : ∀ guard ∈ use.traffic.guards, guard.writes = true
  /-- It is locked while there is a guard. -/
  locked : use.lock.locked = true ↔ use.traffic.guards ≠ []
  /-- The lock has the value written last. -/
  value : use.lock.value = use.traffic.latest

section

variable {use : InUse (Exclusive α) α}

/-- A new lock is not locked, and its value was written by nobody. -/
theorem sound_new (first : α) : Sound { lock := .new first, traffic := { first } } where
  orderly := Traffic.orderly_new first
  writing := nofun
  locked := by simp [new]
  value := rfl

/-- There is at most one guard. -/
theorem Sound.length_le (h : Sound use) : use.traffic.guards.length ≤ 1 := by
  rcases h.orderly.cases with ⟨guard, only, -⟩ | reading
  · simp [only]
  · cases guards : use.traffic.guards with
    | nil => simp
    | cons guard rest =>
      have mem : guard ∈ use.traffic.guards := by simp [guards]
      simpa [h.writing guard mem] using reading guard mem

/-- A try to lock succeeds just if no guard is out. -/
theorem Sound.tryLock_isSome_iff (h : Sound use) :
    use.lock.tryLock.isSome = true ↔ use.traffic.guards = [] := by
  have locked := h.locked
  by_cases held : use.lock.locked = true
  · simpa [tryLock, held] using locked.1 held
  · simpa [tryLock, held] using fun some' => held (locked.2 some')

/-- Somebody gets the guard. -/
theorem Sound.lock (h : Sound use) {lock : Exclusive α} (done : use.lock.tryLock = some lock) :
    Sound { lock, traffic := use.traffic.take true } := by
  have none := h.tryLock_isSome_iff.1 (Option.isSome_of_eq_some done)
  have only := Traffic.guards_take none true
  have locked : lock.locked = true ∧ lock.value = use.lock.value := by
    unfold tryLock at done
    split at done
    · cases done
    · cases done
      exact ⟨rfl, rfl⟩
  refine ⟨h.orderly.take_write none, ?_, ?_, locked.2.trans h.value⟩
  · simp [only]
  · simp [only, locked.1]

/-- The guard can always be given back. -/
theorem Sound.release? (h : Sound use) {i : Nat} {guard : Guard}
    (found : use.traffic.guards[i]? = some guard) :
    rules.release? guard use.lock = some { use.lock with locked := false } := by
  have locked : use.lock.locked = true :=
    h.locked.2 (List.ne_nil_of_mem (List.mem_of_getElem? found))
  simp [rules, unlock?, locked]

/-- The guard is given back. -/
theorem Sound.drop (h : Sound use) {i : Nat} {guard : Guard}
    (found : use.traffic.guards[i]? = some guard) :
    Sound
      { lock := { use.lock with locked := false }, traffic := use.traffic.giveBack i guard } := by
  have one := h.length_le
  have fewer := use.traffic.length_giveBack found
  have gone : (use.traffic.giveBack i guard).guards = [] :=
    List.length_eq_zero_iff.1 (by omega)
  refine ⟨h.orderly.giveBack found, ?_, ?_, h.value⟩
  · simp [gone]
  · simp [gone]

/-- A value is written through the guard. -/
theorem Sound.put (h : Sound use) {i : Nat} {guard : Guard} {value : α}
    (found : use.traffic.guards[i]? = some guard) (writes : guard.writes = true) :
    Sound { lock := use.lock.write value, traffic := use.traffic.put i value } := by
  obtain ⟨orderly, only⟩ := h.orderly.put found writes value
  have locked : use.lock.locked = true :=
    h.locked.2 (List.ne_nil_of_mem (List.mem_of_getElem? found))
  refine ⟨orderly, ?_, ?_, (Traffic.latest_put ..).symm⟩
  · simp [only]
  · simp [only, write, locked]

/-- **One step.** -/
theorem Sound.next (h : Sound use) (step : Step α Unit) : Sound (rules.next use step) := by
  apply Rules.next_keeps h
  · intro _ lock done
    exact h.lock done
  · intro i guard lock found done
    cases (h.release? found).symm.trans done
    exact h.drop found
  · intro i guard value found writes
    exact h.put found writes

end

/-- **Any number of steps.** -/
theorem sound_run (first : α) (steps : List (Step α Unit)) : Sound (run first steps) := by
  induction steps using List.reverseRecOn with
  | nil => exact sound_new first
  | append_singleton steps step ih =>
    unfold run at ih ⊢
    rw [Rules.run_append]
    exact ih.next step

end Exclusive

/-! ## Both locks

The statement is for both kinds of lock and any steps. That there are fewer readers than the word
can count is the one thing that has to be asked for. -/

/-- **Guards keep each other out.** Of a new shared lock let any number of guards be taken, given
back and written through, one atomic step after another, with fewer than `2 ^ 31` guards to read at
a time. Of another lock, an exclusive one, let the same be done.

* The word of the shared lock is the mark of the writer while one guard to write is out, with none
  to read. Otherwise no guard to write is out and the word counts those to read.
* An attempt to write succeeds exactly if there is no guard. One to read that goes by the word as it
  is succeeds exactly if there is none to write, and one that goes by a word seen before succeeds
  exactly if besides that is still the word.
* The exclusive lock has at most one guard, is locked exactly if it has one, and an attempt to lock
  it succeeds exactly if it has none.
* Through every guard the value written last is read and nothing else, which is the one in the lock.
  Every guard can be given back. Once there are none the word is zero and the lock is not locked. -/
theorem guards_exclude {α : Type} (first : α) (steps : List (Step α Shared.Attempt))
    (few : ∀ before, before <+: steps → (Shared.run first before).traffic.readers < 2 ^ 31)
    (turns : List (Step α Unit)) :
    let shared := Shared.run first steps
    let exclusive := Exclusive.run first turns
    (shared.lock.value = shared.traffic.latest ∧
      (shared.traffic.writers = 1 ∧ shared.traffic.readers = 0 ∧ shared.lock.word = writerMark ∨
        shared.traffic.writers = 0 ∧ shared.lock.word.toNat = shared.traffic.readers) ∧
      (shared.lock.tryWrite.isSome = true ↔ shared.traffic.guards = []) ∧
      (shared.lock.tryRead.isSome = true ↔ shared.traffic.writers = 0) ∧
      (∀ seen, (shared.lock.admit? seen).isSome = true ↔
        shared.traffic.writers = 0 ∧ seen = shared.lock.word) ∧
      (∀ i guard, shared.traffic.guards[i]? = some guard →
        shared.traffic.readable guard = [shared.traffic.latest] ∧
        (Shared.rules.next shared (.drop i)).traffic = shared.traffic.giveBack i guard) ∧
      (shared.traffic.guards = [] → shared.lock.word = 0)) ∧
    exclusive.lock.value = exclusive.traffic.latest ∧
    exclusive.traffic.guards.length ≤ 1 ∧
    (exclusive.lock.locked = true ↔ exclusive.traffic.guards ≠ []) ∧
    (exclusive.lock.tryLock.isSome = true ↔ exclusive.traffic.guards = []) ∧
    ∀ i guard, exclusive.traffic.guards[i]? = some guard →
      exclusive.traffic.readable guard = [exclusive.traffic.latest] ∧
      (Exclusive.rules.next exclusive (.drop i)).traffic = exclusive.traffic.giveBack i guard := by
  intro shared exclusive
  constructor
  · have sound : Shared.Sound shared := Shared.sound_run first few
    refine ⟨sound.value, sound.word_cases, sound.tryWrite_isSome_iff, sound.tryRead_isSome_iff,
      fun _ => sound.admit?_isSome_iff, fun i guard found => ⟨?_, ?_⟩, sound.word_eq_zero_iff.2⟩
    · exact sound.orderly.readable_eq (List.mem_of_getElem? found)
    · rw [Rules.next_drop found (sound.release? found)]
  · have sound : Exclusive.Sound exclusive := Exclusive.sound_run first turns
    refine ⟨sound.value, sound.length_le, sound.locked, sound.tryLock_isSome_iff,
      fun i guard found => ⟨?_, ?_⟩⟩
    · exact sound.orderly.readable_eq (List.mem_of_getElem? found)
    · rw [Rules.next_drop found (sound.release? found)]

/-- Two guards to read keep out one to write. After both are given back a value is written, which
is what the next one reads. -/
theorem guards_exclude_afterWriter :
    let shared := Shared.run 5 [.take (.read 0), .take (.read 1), .take .write, .drop 1, .drop 0,
      .take .write, .put 0 7, .drop 0, .take (.read 0)]
    let exclusive := Exclusive.run 5 [.take (), .take (), .put 0 7]
    (∃ guard, shared.traffic.guards = [guard] ∧ shared.traffic.readable guard = [7]) ∧
      ∃ guard, exclusive.traffic.guards = [guard] ∧ exclusive.traffic.readable guard = [7] := by
  intro shared exclusive
  obtain ⟨⟨-, -, -, -, -, reads, -⟩, -, -, -, -, reads'⟩ := guards_exclude 5
    [.take (.read 0), .take (.read 1), .take .write, .drop 1, .drop 0, .take .write, .put 0 7,
      .drop 0, .take (.read 0)]
    (by simp only [← List.mem_inits]; decide) [.take (), .take (), .put 0 7]
  exact ⟨⟨_, rfl, (reads 0 _ rfl).1⟩, ⟨_, rfl, (reads' 0 _ rfl).1⟩⟩

end GpuSync.Lock
