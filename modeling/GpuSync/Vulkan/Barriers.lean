import GpuSync.Command.Barrier
import GpuSync.Log
import GpuSync.Vulkan.Access

/-!
# Barriers in Vulkan

Vulkan has three kinds of barriers: on memory, on a buffer and on an image. Acceleration
structures have none of their own and take one on memory. A resource changes between families of
queues in two halves: it is released on the queue that gives it away and acquired on the one that
gets it.

## Main definitions

* `GpuSync.Vulkan.Lookup` resolves handles and queues.
* `GpuSync.Vulkan.Barriers` is a collection of Vulkan's barriers; `push` adds the acquiring half
  of a barrier, or the whole of one that changes no family, and `pushRelease` the releasing half.
-/

namespace GpuSync.Vulkan

/-- The family that stands for no change of families. -/
def ignoredFamily : UInt32 := 4294967295

/-- A count that stands for all that remain. -/
def remaining : UInt32 := 4294967295

/-- A size that stands for the whole buffer. -/
def wholeSize : UInt64 := 18446744073709551615

/-- An image with the aspects of it that are used. -/
structure ImageObject where
  /-- The image. -/
  image : UInt64
  /-- Its aspects, as bits. -/
  aspects : UInt32
  deriving DecidableEq, Repr

/-- The objects behind handles, and the families of the queues. -/
structure Lookup where
  /-- The image behind a handle. -/
  image : Handle → Option ImageObject
  /-- The buffer behind a handle. -/
  buffer : Handle → Option UInt64
  /-- The family of a queue. -/
  family : Queue → UInt32

/-- The lookup in two tables and a list, which has the families in the order of the queues. -/
def Lookup.ofTables (images : List (Handle × ImageObject)) (buffers : List (Handle × UInt64))
    (families : List UInt32) : Lookup where
  image := fun handle => images.lookup handle
  buffer := fun handle => buffers.lookup handle
  family := fun queue => families[queue.index.val]?.getD 0

/-- What has to happen before what. -/
structure Sync where
  /-- The stages before. -/
  srcStages : UInt64
  /-- The accesses before. -/
  srcFlags : UInt64
  /-- The stages after. -/
  dstStages : UInt64
  /-- The accesses after. -/
  dstFlags : UInt64
  deriving DecidableEq, Repr

/-- The families a resource changes between. -/
structure Families where
  /-- The family that gives it away. -/
  src : UInt32
  /-- The family that gets it. -/
  dst : UInt32
  deriving DecidableEq, Repr

/-- A barrier on a whole buffer. -/
structure BufferBarrier where
  /-- The buffer. -/
  buffer : UInt64
  /-- What has to happen before what. -/
  sync : Sync
  /-- The families it changes between. -/
  families : Families
  /-- Where the part begins. -/
  offset : UInt64 := 0
  /-- How long the part is. -/
  size : UInt64 := wholeSize
  deriving DecidableEq, Repr

/-- The part of an image a barrier is on. -/
structure Subresources where
  /-- The aspects, as bits. -/
  aspects : UInt32
  /-- The first mip level. -/
  baseLevel : UInt32 := 0
  /-- How many mip levels. -/
  levels : UInt32 := remaining
  /-- The first array layer. -/
  baseLayer : UInt32 := 0
  /-- How many array layers. -/
  layers : UInt32 := remaining
  deriving DecidableEq, Repr

/-- A barrier on a whole image. -/
structure ImageBarrier where
  /-- The image. -/
  image : UInt64
  /-- What has to happen before what. -/
  sync : Sync
  /-- The families it changes between. -/
  families : Families
  /-- The layout before. -/
  oldLayout : Layout
  /-- The layout after. -/
  newLayout : Layout
  /-- The part of the image. -/
  range : Subresources
  deriving DecidableEq, Repr

/-- Barriers as Vulkan takes them, each kind in order. -/
structure Barriers where
  /-- Barriers on memory. -/
  memory : List Sync := []
  /-- Barriers on buffers. -/
  buffers : List BufferBarrier := []
  /-- Barriers on images. -/
  images : List ImageBarrier := []
  deriving DecidableEq, Repr

/-- Which half of a barrier is meant. -/
inductive Half where
  /-- The acquiring half, which is the whole if no family changes. -/
  | acquire
  /-- The releasing half. -/
  | release
  deriving DecidableEq, Repr

/-- What a barrier has to wait for. What comes after a release is up to the acquiring half. -/
def Sync.of (src dst : Access) : Half → Sync
  | .acquire => ⟨src.stages, src.flags, dst.stages, dst.flags⟩
  | .release => ⟨src.stages, src.flags, 0, 0⟩

/-- The families a barrier changes between. Two queues of one family make no change. -/
def Lookup.families (lookup : Lookup) (barrier : Barrier) : Families :=
  match barrier.transfer with
  | none => ⟨ignoredFamily, ignoredFamily⟩
  | some transfer =>
    let src := lookup.family transfer.src
    let dst := lookup.family transfer.dst
    if src = dst then ⟨ignoredFamily, ignoredFamily⟩ else ⟨src, dst⟩

namespace Barriers

/-- Whether there is no barrier. -/
def isEmpty (barriers : Barriers) : Bool :=
  barriers.memory.isEmpty && barriers.buffers.isEmpty && barriers.images.isEmpty

/-- What adding a barrier yields: whether it was added, the collection afterwards, and the log. -/
structure Push where
  /-- Whether the barrier was added. -/
  done : Bool
  /-- The collection afterwards. -/
  barriers : Barriers
  /-- What was logged. -/
  notes : List Log.Entry := []

/-- A barrier on something unknown is left out. -/
def leaveOut (barriers : Barriers) (barrier : Barrier) (subject : String) : Push where
  done := false
  barriers := barriers
  notes := [Log.warn s!"barrier {barrier.text} on unknown {subject}, skipping"]

/-- Adds one half of a barrier. -/
def addHalf (barriers : Barriers) (barrier : Barrier) (lookup : Lookup) (half : Half) : Push :=
  let src := barrier.src.access
  let dst := barrier.dst.access
  let sync := Sync.of src dst half
  let families := lookup.families barrier
  match barrier.key with
  | some ⟨.image, handle⟩ =>
    match lookup.image handle with
    | none => barriers.leaveOut barrier "image"
    | some object =>
      let added : ImageBarrier :=
        { image := object.image
          sync, families
          oldLayout := if barrier.discard then .undefined else src.layout
          newLayout := dst.layout
          range := { aspects := object.aspects } }
      { done := true, barriers := { barriers with images := barriers.images ++ [added] } }
  | some ⟨.buffer, handle⟩ =>
    match lookup.buffer handle with
    | none => barriers.leaveOut barrier "buffer"
    | some buffer =>
      { done := true
        barriers := { barriers with
          buffers := barriers.buffers ++ [{ buffer, sync, families }] } }
  | some ⟨.rtGeometry, _⟩ | some ⟨.rtScene, _⟩ | none =>
    { done := true, barriers := { barriers with memory := barriers.memory ++ [sync] } }

/-- Adds a barrier, as it is recorded on the queue that gets the resource. -/
def push (barriers : Barriers) (barrier : Barrier) (lookup : Lookup) : Push :=
  barriers.addHalf barrier lookup .acquire

/-- Whether the resource of a barrier belongs to a family of queues at all. -/
def changesOwner (barrier : Barrier) : Bool :=
  match barrier.key with
  | some ⟨.image, _⟩ | some ⟨.buffer, _⟩ => true
  | _ => false

/-- Adds the releasing half of a barrier, as it is recorded on the queue that gives the resource
away. A barrier that changes no family has none. -/
def pushRelease (barriers : Barriers) (barrier : Barrier) (lookup : Lookup) : Push :=
  if (lookup.families barrier).src = ignoredFamily || !changesOwner barrier then
    { done := false, barriers }
  else barriers.addHalf barrier lookup .release

/-- Adds barriers in order. Tells for each whether it was added. -/
def addAll (add : Barriers → Barrier → Push) :
    List Barrier → Barriers → List Bool × Barriers × List Log.Entry
  | [], barriers => ([], barriers, [])
  | barrier :: rest, barriers =>
    let added := add barriers barrier
    let (results, all, notes) := addAll add rest added.barriers
    (added.done :: results, all, added.notes ++ notes)

end Barriers

end GpuSync.Vulkan
