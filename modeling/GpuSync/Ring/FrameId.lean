import GpuSync.Text.Record

/-!
# Frame identities

Frames are counted by a word of 64 bits. The frames in flight form a ring, and each frame has its
place in it, next to that of the frame before.

## Main definitions

* `GpuSync.FrameId` with `next` and `prev`.
* `GpuSync.FrameId.walk?` goes several steps, which takes a ring that has places.
-/

namespace GpuSync

/-- A frame and its place in the ring of frames in flight. -/
structure FrameId where
  /-- The number of the frame. -/
  unique : UInt64
  /-- Its place in the ring. -/
  index : UInt32
  /-- How many places the ring has. -/
  places : UInt32
  deriving DecidableEq, Repr

namespace FrameId

/-- The first frame of a ring. -/
def first (places : UInt32) : FrameId := ⟨0, 0, places⟩

/-- The frame after this one. -/
def next (id : FrameId) : FrameId :=
  { id with unique := id.unique + 1, index := (id.index + 1) % id.places }

/-- The frame before this one. -/
def prev (id : FrameId) : FrameId :=
  { id with unique := id.unique - 1, index := (id.index + id.places - 1) % id.places }

/-- A step from one frame to another. -/
inductive Move where
  /-- To the frame after. -/
  | next
  /-- To the frame before. -/
  | prev
  deriving DecidableEq, Repr

/-- The step with a name. -/
def Move.ofName? : String → Option Move
  | "next" => some .next
  | "prev" => some .prev
  | _ => none

/-- Goes one step. -/
def move (id : FrameId) : Move → FrameId
  | .next => id.next
  | .prev => id.prev

/-- This frame and those met on the steps from it; a ring without places has no steps. -/
def walk? (id : FrameId) : List Move → Option (List FrameId)
  | [] => some [id]
  | step :: rest => if id.places = 0 then none else ((id.move step).walk? rest).map (id :: ·)

/-- Number and place, as in `7 [1]`. -/
def text (id : FrameId) : String := s!"{id.unique} [{id.index}]"

/-- The frame in words, as in `FrameUid(7 [1/2])`. -/
def describe (id : FrameId) : String :=
  Text.variant "FrameUid" s!"{id.unique} [{id.index}/{id.places}]"

end FrameId

end GpuSync
