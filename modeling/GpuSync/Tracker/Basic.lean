import GpuSync.Resource.PerKind
import GpuSync.Slot.Pool
import GpuSync.Tracker.Entry

/-!
# The tracker

The tracker knows, for every registered resource, the state it was left in by the last committed
batch. Each kind of resource has its own index from handles to slots, and the entries of all kinds
share one slot pool.

Registering a key takes a free slot, and which one depends on the thread that registers it: a chunk
of the pool has sixteen groups, and the search begins at the group of the thread's seed. So every
operation that may register a key is given a seed. Nothing that is said of a key depends on it.

## Main definitions

* `GpuSync.Tracker` with `add`, `addIfUntracked`, `remove`.
* `GpuSync.Tracker.lookup` is what a tracker says of a key; `GpuSync.Tracker.restingUsage` also
  answers for keys it does not know.
* `GpuSync.Tracker.update` leaves a resource in the usage of a batch.
-/

namespace GpuSync

/-- Room for 64 chunks of 1024 entries. -/
def Tracker.shape : Slot.Shape where
  bits := 10
  chunks := Slot.maxChunks
  bits_ge := by decide
  bits_le := by decide
  chunks_pos := Slot.one_le_maxChunks
  chunks_le := Nat.le_refl Slot.maxChunks

/-- The states of all registered resources. -/
structure Tracker where
  /-- For each kind, the slots of the registered handles. -/
  index : PerKind (RadixMap Nat 32)
  /-- The entries, by slot. -/
  entries : Slot.Pool Tracker.shape Tracker.Entry

namespace Tracker

/-- A tracker without resources. -/
def empty : Tracker := ⟨.replicate .empty, .empty⟩

/-- The slot of a key. -/
def slot? (tracker : Tracker) (key : Key) : Option Nat :=
  (tracker.index.get key.kind).find? key.handle.word.toNat

/-- What is known of a key. -/
def lookup (tracker : Tracker) (key : Key) : Option Entry := do
  tracker.entries.get? (← tracker.slot? key)

/-- Whether a key is registered. -/
def isTracked (tracker : Tracker) (key : Key) : Bool := (tracker.slot? key).isSome

/-- The usage a key rests in, and whether its contents are undefined. Unknown keys are at rest in
any access, with undefined contents. -/
def restingUsage (tracker : Tracker) (key : Key) : Usage × Bool :=
  match tracker.lookup key with
  | some entry => (entry.resting, entry.isUndefined)
  | none => (.general, true)

/-- How many keys are registered. -/
def size (tracker : Tracker) : Nat := tracker.index.toList.foldr (fun slots n => slots.size + n) 0

/-- The tracker in words. -/
def describe (tracker : Tracker) : String :=
  Text.record "ResStateTracker" [("len", toString tracker.size)]

/-! ## Registration

A key gets a slot as it is registered and has it until it is forgotten. Registering fails only when
all slots are taken. -/

/-- Registers a key that is not registered. The entry goes to the first slot that is free, searched
for from the seed's group on; each thread has a seed of its own. -/
def register (tracker : Tracker) (seed : Nat) (key : Key) (entry : Entry) :
    Except Slot.PoolError Tracker := do
  let assigned ← tracker.entries.assign seed (Slot.Pool.yielding entry)
  return {
    index := tracker.index.set key.kind
      ((tracker.index.get key.kind).insert key.handle.word.toNat assigned.index)
    entries := assigned.pool }

/-- Changes the entry of a key, if it is registered. -/
def modify (tracker : Tracker) (key : Key) (f : Entry → Entry) : Tracker :=
  match tracker.slot? key with
  | some slot => { tracker with entries := tracker.entries.modify slot f }
  | none => tracker

/-- Registers a key, with a slot searched for from the seed's group on. If the key is registered
already its state is overwritten in its slot, which is answered by false and logged. -/
def add (tracker : Tracker) (seed : Nat) (key : Key) (entry : Entry) :
    Except Slot.PoolError (Bool × Tracker) × List Log.Entry :=
  if tracker.isTracked key then
    (.ok (false, tracker.modify key fun _ => entry),
      [Log.warn s!"resource {key.text} is already tracked, overwriting its state"])
  else ((tracker.register seed key entry).map fun registered => (true, registered), [])

/-- Registers a key at rest, with a slot searched for from the seed's group on, unless the key is
registered already. -/
def addIfUntracked (tracker : Tracker) (seed : Nat) (key : Key) (resting : Usage) :
    Except Slot.PoolError (Bool × Tracker) :=
  if tracker.isTracked key then .ok (false, tracker)
  else (tracker.register seed key (.fresh resting resting none)).map fun registered =>
    (true, registered)

/-- Forgets a key and yields its last state. -/
def remove (tracker : Tracker) (key : Key) : Option Entry × Tracker :=
  match tracker.slot? key with
  | none => (none, tracker)
  | some slot =>
    (tracker.entries.get? slot,
      { index := tracker.index.set key.kind
          ((tracker.index.get key.kind).erase key.handle.word.toNat)
        entries := (tracker.entries.unassign slot).2 })

/-! ## Updates

Updates change what is known of a key in its slot. A key that is not registered is passed over. -/

/-- Sets the usage a key rests in. Tells whether the key is registered. -/
def setResting (tracker : Tracker) (key : Key) (usage : Usage) : Bool × Tracker :=
  ((tracker.lookup key).isSome, tracker.modify key ({ · with resting := usage }))

/-- Sets whether a key belongs to one queue at a time. Tells whether the key is registered. -/
def setExclusive (tracker : Tracker) (key : Key) (exclusive : Bool) : Bool × Tracker :=
  ((tracker.lookup key).isSome, tracker.modify key ({ · with exclusive }))

/-- Leaves a key in the usage of a batch, or at rest if no usage is given. Yields the state before,
if the key is registered. -/
def update (tracker : Tracker) (key : Key) (usage : Option Usage) (user : BatchUse) :
    Option Entry × Tracker :=
  (tracker.lookup key, tracker.modify key (·.leftBy usage user))

end Tracker

end GpuSync
