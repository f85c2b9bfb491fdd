import GpuSync.Log
import GpuSync.RadixMap
import GpuSync.Slot.Chunk
import GpuSync.Text.Record

/-!
# Slot pools

A pool hands out slots and keeps one value in each. A slot that is given back keeps its value, so
that its next user can go on with it; the value is dropped when a new one takes its place, or when
the pool is released. A slot is therefore in one of four states: taken or free, with or without a
value.

## Main definitions

* `GpuSync.Slot.Pool` with `assign`, `assignWith`, `assignAt`, `unassign`, `get?`.
* `GpuSync.Slot.Pool.firstFree?` is the search for a free slot.
* `GpuSync.Slot.Pool.unassignAll` and `GpuSync.Slot.Pool.release` act on all slots.
* `GpuSync.Slot.Making` is what became of making a value: a maker may use the pool itself, and may
  give up.

## Implementation notes

The storage of a chunk is set up when its first slot is taken, and stays until the release. Only
its size can be observed.

Which chunks are full is one word, like the word for the groups of a chunk: it is written only when
a group of the chunk becomes full or stops being so.

A search that finds nothing starts over if the word for the chunks has changed meanwhile. Nobody
changes the pool during the searches here, so one round decides.
-/

namespace GpuSync.Slot

/-- Why a slot could not be assigned. -/
inductive PoolError where
  /-- Every slot is taken. -/
  | full (capacity : Nat)
  /-- There is no such slot. -/
  | outOfRange (index capacity : Nat)
  /-- The slot asked for is taken. -/
  | alreadyAssigned (index : Nat)
  deriving DecidableEq, Repr

/-- The name an error goes by. -/
def PoolError.name : PoolError → String
  | .full _ => "Full"
  | .outOfRange .. => "OutOfRange"
  | .alreadyAssigned _ => "AlreadyAssigned"

/-- The wording of an error. -/
def PoolError.message : PoolError → String
  | .full capacity => s!"All {capacity} slots of the pool are assigned"
  | .outOfRange index capacity =>
    s!"Index {index} is out of range for a pool of capacity {capacity}"
  | .alreadyAssigned index => s!"Index {index} is already assigned"

/-- A pool of slots, each with at most one value. -/
structure Pool (shape : Shape) (α : Type) where
  /-- The chunks, in order. -/
  chunks : List (Chunk shape)
  /-- Which chunks are full. -/
  full : Word
  /-- The values made so far and not dropped since, by slot. -/
  values : RadixMap α (shape.bits + 6)
  /-- A word has a bit for each chunk. -/
  room : chunks.length ≤ maxChunks
  /-- The chunks said to be full are those that are. -/
  full_iff : ∀ c, full.getLsbD c = true ↔ ∃ chunk, chunks[c]? = some chunk ∧ chunk.isFull = true

/-- What became of making a value for a slot. -/
structure Making (shape : Shape) (α : Type) where
  /-- The value, or nothing if the maker gave up. -/
  value : Option α
  /-- The pool as the maker left it. -/
  pool : Pool shape α
  /-- The values dropped while making this one, in order. -/
  dropped : List α

/-- What became of a slot that was assigned. -/
structure Assignment (shape : Shape) (α : Type) where
  /-- The slot, taken whether or not its value could be made. -/
  index : Nat
  /-- Whether the slot got the value asked for. -/
  made : Bool
  /-- The pool afterwards. -/
  pool : Pool shape α
  /-- The values dropped on the way, in order. -/
  dropped : List α
  /-- Whether the value of a former user went on. -/
  reused : Bool := false

namespace Pool

variable {shape : Shape} {α : Type}

/-- No chunk is full if all of them have free slots only. -/
theorem full_freeAll (chunks : List (Chunk shape)) (c : Nat) :
    (0 : Word).getLsbD c = true ↔
      ∃ chunk, (chunks.map Chunk.freeAll)[c]? = some chunk ∧ chunk.isFull = true := by
  have free (chunk : Chunk shape) : ¬chunk.freeAll.isFull = true := by
    simp [Chunk.isFull_freeAll]
  cases found : chunks[c]? with
  | none => simp [found]
  | some chunk => simp [found, free]

/-- A pool none of whose slots was ever used. -/
def empty : Pool shape α where
  chunks := List.replicate shape.chunks .fresh
  full := 0
  values := .empty
  room := by simpa using shape.chunks_le
  full_iff c := by simpa using full_freeAll (List.replicate shape.chunks Chunk.fresh) c

/-- Whether a slot is taken; slots out of range are not. -/
def isAssigned (pool : Pool shape α) (i : Nat) : Bool :=
  match pool.chunks[i / shape.chunkSize]? with
  | some chunk => chunk.contains (i % shape.chunkSize)
  | none => false

/-- The value of a slot that is taken. -/
def get? (pool : Pool shape α) (i : Nat) : Option α :=
  if pool.isAssigned i then pool.values.find? i else none

/-- How many slots are taken. -/
def assignedCount (pool : Pool shape α) : Nat :=
  pool.chunks.foldr (fun chunk n => chunk.count + n) 0

/-- How many chunks have storage. -/
def storedChunks (pool : Pool shape α) : Nat :=
  pool.chunks.countP (·.stored)

/-- The bytes of all storage, for slots of this many bytes. -/
def storedBytes (pool : Pool shape α) (slotBytes : Nat) : Nat :=
  pool.storedChunks * shape.chunkSize * slotBytes

/-- The pool in words. -/
def describe (pool : Pool shape α) : String :=
  Text.record "LfIndexedPool"
    [("capacity", toString shape.capacity), ("assigned", toString pool.assignedCount),
      ("allocated_chunks", toString pool.storedChunks)]

/-! ## Single slots

Which chunks are full is kept in a word of its own, so that a search passes over them without
looking inside. The word is written only when a chunk becomes full or stops being so. -/

/-- Which chunks are full after a slot is taken or freed. -/
def fullAfter (pool : Pool shape α) (i : Nat) (taken : Bool) : Word :=
  match pool.chunks[i / shape.chunkSize]? with
  | some chunk =>
    match chunk.crossing? (i % shape.chunkSize) taken with
    | some _ =>
      pool.full.put (i / shape.chunkSize) (chunk.mark (i % shape.chunkSize) taken).isFull
    | none => pool.full
  | none => pool.full

/-- The chunks after a slot is taken or freed. -/
def chunksAfter (pool : Pool shape α) (i : Nat) (taken : Bool) : List (Chunk shape) :=
  pool.chunks.modify (i / shape.chunkSize) fun chunk => chunk.mark (i % shape.chunkSize) taken

/-- Looking at a chunk only as one of its groups becomes full, or stops being so, is enough. -/
theorem full_mark (pool : Pool shape α) (i : Nat) (taken : Bool) (c : Nat) :
    (pool.fullAfter i taken).getLsbD c = true ↔
      ∃ chunk, (pool.chunksAfter i taken)[c]? = some chunk ∧ chunk.isFull = true := by
  unfold fullAfter chunksAfter
  rw [List.getElem?_modify]
  cases found : pool.chunks[i / shape.chunkSize]? with
  | none =>
    by_cases same : i / shape.chunkSize = c
    · simp [← same, found, pool.full_iff]
    · simp [same, pool.full_iff]
  | some chunk =>
    have fits : i / shape.chunkSize < 64 :=
      Nat.lt_of_lt_of_le (List.getElem?_eq_some_iff.1 found).1 pool.room
    dsimp only
    cases crosses : chunk.crossing? (i % shape.chunkSize) taken with
    | some word =>
      dsimp only
      rw [Word.getLsbD_put _ c _ fits]
      by_cases same : i / shape.chunkSize = c
      · simp [← same, found]
      · simp [same, Ne.symm same, pool.full_iff]
    | none =>
      by_cases same : i / shape.chunkSize = c
      · simp [← same, found, pool.full_iff, Chunk.isFull_mark crosses]
      · simp [same, pool.full_iff]

/-- Takes a slot, or frees it. -/
def mark (pool : Pool shape α) (i : Nat) (taken : Bool) : Pool shape α where
  chunks := pool.chunksAfter i taken
  full := pool.fullAfter i taken
  values := pool.values
  room := by simpa [chunksAfter] using pool.room
  full_iff := pool.full_mark i taken

/-- Takes a slot. -/
def take (pool : Pool shape α) (i : Nat) : Pool shape α := pool.mark i true

/-- Puts a value into a slot. -/
def store (pool : Pool shape α) (i : Nat) (value : α) : Pool shape α :=
  { pool with values := pool.values.insert i value }

/-- The first free slot of a chunk in cyclic order from the seed's group on, counted over all
chunks. -/
def firstFreeIn? (pool : Pool shape α) (seed c : Nat) : Option Nat :=
  match pool.chunks[c]? with
  | some chunk => (chunk.firstFree? (shape.start seed)).map (shape.chunkSize * c + ·)
  | none => none

/-- The chunks that are not full. -/
def openChunks (pool : Pool shape α) : Word := ~~~pool.full &&& Word.firstBits shape.chunks

/-- The slot that the next assignment with this seed gets. Chunks that are full are passed over, and
the first of the others that has a free slot decides, which keeps few chunks in use. -/
def firstFree? (pool : Pool shape α) (seed : Nat) : Option Nat :=
  pool.openChunks.findSome? (pool.firstFreeIn? seed)

/-- Makes a value without using the pool. -/
def yielding (value : α) (_ : Nat) (pool : Pool shape α) : Making shape α :=
  ⟨some value, pool, []⟩

/-- Gives up at once. -/
def givingUp (_ : Nat) (pool : Pool shape α) : Making shape α :=
  ⟨none, pool, []⟩

/-- Fills a slot just taken with a new value. The value a former user left is dropped once the new
one is made; if the maker gives up it stays. -/
def construct (pool : Pool shape α) (i : Nat) (make : Nat → Pool shape α → Making shape α) :
    Assignment shape α :=
  let making := make i pool
  match making.value with
  | none => { index := i, made := false, pool := making.pool, dropped := making.dropped }
  | some value =>
    { index := i
      made := true
      pool := making.pool.store i value
      dropped := making.dropped ++ (making.pool.values.find? i).toList }

/-- Assigns a free slot and makes its value. -/
def assign (pool : Pool shape α) (seed : Nat) (make : Nat → Pool shape α → Making shape α) :
    Except PoolError (Assignment shape α) :=
  match pool.firstFree? seed with
  | none => .error (.full shape.capacity)
  | some i => .ok ((pool.take i).construct i make)

/-- Assigns a free slot. The value a former user left is handed to `reuse`, which changes it in
place; only a slot without a value has one made. -/
def assignWith (pool : Pool shape α) (seed : Nat) (make : Nat → Pool shape α → Making shape α)
    (reuse : α → Nat → Pool shape α → Making shape α) : Except PoolError (Assignment shape α) :=
  match pool.firstFree? seed with
  | none => .error (.full shape.capacity)
  | some i =>
    let taken := pool.take i
    match taken.values.find? i with
    | none => .ok (taken.construct i make)
    | some old =>
      let making := reuse old i taken
      match making.value with
      | none =>
        .ok { index := i, made := false, pool := making.pool, dropped := making.dropped,
              reused := true }
      | some value =>
        .ok { index := i, made := true, pool := making.pool.store i value,
              dropped := making.dropped, reused := true }

/-- Assigns a slot whose maker first assigns another one, while its own slot is taken already.
Yields what became of the slot, and the other slot or why there is none. -/
def assignNested (pool : Pool shape α) (seed : Nat) (outer inner : α) :
    Except PoolError (Assignment shape α × Except PoolError Nat) := do
  let assigned ← pool.assign seed fun _ taken =>
    match taken.assign seed (yielding inner) with
    | .error _ => ⟨some outer, taken, []⟩
    | .ok nested => ⟨some outer, nested.pool, nested.dropped⟩
  let nested := (pool.take assigned.index).assign seed (yielding inner)
  return (assigned, nested.map (·.index))

/-- Assigns the slot asked for and makes its value. -/
def assignAt (pool : Pool shape α) (i : Nat) (make : Nat → Pool shape α → Making shape α) :
    Except PoolError (Assignment shape α) :=
  if shape.capacity ≤ i then .error (.outOfRange i shape.capacity)
  else if pool.isAssigned i then .error (.alreadyAssigned i)
  else .ok ((pool.take i).construct i make)

/-- Gives a slot back, with its value. Tells whether it was taken. -/
def unassign (pool : Pool shape α) (i : Nat) : Bool × Pool shape α :=
  if pool.isAssigned i then (true, pool.mark i false) else (false, pool)

/-- Changes the value of a taken slot in place. -/
def modify (pool : Pool shape α) (i : Nat) (f : α → α) : Pool shape α :=
  if pool.isAssigned i then { pool with values := pool.values.modify i f } else pool

/-! ## All slots

Slots are visited in ascending order. To free them keeps their values, and to release the pool drops
the values, too. -/

/-- The taken slots that have a value, in ascending order. -/
def live (pool : Pool shape α) : List (Nat × α) :=
  pool.values.entries.filter fun entry => pool.isAssigned entry.1

/-- Frees all slots. -/
def freeAll (pool : Pool shape α) : Pool shape α where
  chunks := pool.chunks.map .freeAll
  full := 0
  values := pool.values
  room := by simpa using pool.room
  full_iff := full_freeAll pool.chunks

/-- Changes the value of every slot that is taken and has one, then frees all slots. -/
def unassignAll (pool : Pool shape α) (visit : Nat → α → α) : Pool shape α :=
  { pool.freeAll with
    values := pool.live.foldl (fun values entry => values.insert entry.1 (visit entry.1 entry.2))
      pool.values }

/-- What a release says if it is asked to check that no slot is taken. -/
def releaseNotes (pool : Pool shape α) (check : Bool) : List Log.Entry :=
  if check && pool.assignedCount != 0 then
    [Log.warn s!"releasing LfIndexedPool with {pool.assignedCount} slots still assigned"]
  else []

/-- Drops all values, in ascending order, and frees slots and storage. -/
def release (pool : Pool shape α) : List α × Pool shape α :=
  (pool.values.values, empty)

end Pool

end GpuSync.Slot
