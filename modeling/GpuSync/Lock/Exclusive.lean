import GpuSync.Text.Quoted
import GpuSync.Text.Record

/-!
# Exclusive locks

A lock with one guard at a time. An attempt to lock either takes the guard or leaves the lock as
it is, so waiting is nothing but repeating the attempt.

## Main definitions

* `GpuSync.Lock.Exclusive` with `tryLock`, `unlock?` and `write`.
-/

namespace GpuSync.Lock

/-- A value behind a lock with one guard. -/
structure Exclusive (α : Type) where
  /-- Whether the guard is out. -/
  locked : Bool
  /-- The value behind the lock. -/
  value : α
  deriving DecidableEq, Repr

namespace Exclusive

variable {α : Type}

/-- An open lock. -/
def new (value : α) : Exclusive α := ⟨false, value⟩

/-- Takes the guard if it is not out. -/
def tryLock (lock : Exclusive α) : Option (Exclusive α) :=
  if lock.locked then none else some { lock with locked := true }

/-- Gives the guard back, if it is out. -/
def unlock? (lock : Exclusive α) : Option (Exclusive α) :=
  if lock.locked then some { lock with locked := false } else none

/-- Writes the value, through the guard or as the only owner of the lock. -/
def write (lock : Exclusive α) (value : α) : Exclusive α := { lock with value }

/-- The lock in words: the value cannot be seen while the guard is out. -/
def describe (lock : Exclusive α) (text : α → String) : String :=
  match lock.tryLock with
  | some held => Text.variant "SpinLock" (text held.value)
  | none => Text.variant "SpinLock" (Text.quote "<locked>")

end Exclusive

end GpuSync.Lock
