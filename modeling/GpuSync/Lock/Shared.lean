import GpuSync.Text.Record

/-!
# Shared locks

A lock with any number of read guards or one write guard. One word of 32 bits holds either the
number of read guards or the mark of the writer.

## Main definitions

* `GpuSync.Lock.Shared` with `tryRead`, `tryWrite`, `endRead?`, `endWrite?` and `write`.
-/

namespace GpuSync.Lock

/-- The word of a lock that is written. -/
def writerMark : UInt32 := 2147483648

/-- A value behind a lock with read guards and a write guard. -/
structure Shared (α : Type) where
  /-- The number of read guards, or the mark of the writer. -/
  word : UInt32
  /-- The value behind the lock. -/
  value : α
  deriving DecidableEq, Repr

namespace Shared

variable {α : Type}

/-- A lock without guards. -/
def new (value : α) : Shared α := ⟨0, value⟩

/-- Whether the writer's bit is set. -/
def isWritten (lock : Shared α) : Bool := writerMark ≤ lock.word

/-- Takes a read guard unless the lock is written. -/
def tryRead (lock : Shared α) : Option (Shared α) :=
  if lock.isWritten then none else some { lock with word := lock.word + 1 }

/-- Takes the write guard if there is no guard at all. -/
def tryWrite (lock : Shared α) : Option (Shared α) :=
  if lock.word = 0 then some { lock with word := writerMark } else none

/-- Gives one read guard back, if there is one. -/
def endRead? (lock : Shared α) : Option (Shared α) :=
  if lock.word = 0 || lock.isWritten then none else some { lock with word := lock.word - 1 }

/-- Gives the write guard back, if it is out. -/
def endWrite? (lock : Shared α) : Option (Shared α) :=
  if lock.isWritten then some { lock with word := 0 } else none

/-- Writes the value, through the write guard or as the only owner of the lock. -/
def write (lock : Shared α) (value : α) : Shared α := { lock with value }

/-- The lock in words, if its value can be read. -/
def describe? (lock : Shared α) (text : α → String) : Option String :=
  lock.tryRead.map fun held => Text.variant "RwSpinLock" (text held.value)

end Shared

end GpuSync.Lock
