/-!
# Queues

The device has five queues. A resource may be used on a set of them, given as a mask with one bit
per queue; if that is at most one, the resource belongs to one queue at a time.

## Main definitions

* `GpuSync.Queue`, with its `index` and `name`.
* `GpuSync.QueueMask` with `ofQueue`, `union`, `contains` and `isExclusive`.
-/

namespace GpuSync

/-- A queue that batches are submitted to. -/
inductive Queue where
  /-- Draws, and everything else. -/
  | graphics
  /-- Compute work beside the graphics queue. -/
  | asyncCompute
  /-- Copies beside the graphics queue. -/
  | asyncTransfer
  /-- Encoding of video. -/
  | videoEncode
  /-- Decoding of video. -/
  | videoDecode
  deriving DecidableEq, Repr

namespace Queue

/-- All queues, in order. -/
def all : List Queue := [.graphics, .asyncCompute, .asyncTransfer, .videoEncode, .videoDecode]

/-- How many queues there are. -/
abbrev count : Nat := 5

/-- The position of a queue. -/
def index : Queue → Fin count
  | .graphics => 0
  | .asyncCompute => 1
  | .asyncTransfer => 2
  | .videoEncode => 3
  | .videoDecode => 4

/-- The word a queue is written with. -/
def name : Queue → String
  | .graphics => "Graphics"
  | .asyncCompute => "AsyncCompute"
  | .asyncTransfer => "AsyncTransfer"
  | .videoEncode => "VideoEncode"
  | .videoDecode => "VideoDecode"

/-- The queue at a position. -/
def ofIndex? (i : Nat) : Option Queue := all[i]?

/-- The queue written with a word. -/
def ofName? (word : String) : Option Queue := all.find? (·.name == word)

/-- Two queues with one index are the same. -/
theorem index_injective {a b : Queue} (h : a.index = b.index) : a = b := by
  revert h
  cases a <;> cases b <;> decide

end Queue

/-- A set of queues, one bit each. Other bits are kept as they are. -/
structure QueueMask where
  /-- The bits, the first queue's lowest. -/
  bits : UInt32
  deriving DecidableEq, Repr

namespace QueueMask

/-- The mask of one queue. -/
def ofQueue (queue : Queue) : QueueMask :=
  ⟨(1 : UInt32) <<< UInt32.ofNat queue.index⟩

/-- The bits of either mask. -/
def union (a b : QueueMask) : QueueMask := ⟨a.bits ||| b.bits⟩

/-- Whether a queue's bit is set. -/
def contains (mask : QueueMask) (queue : Queue) : Bool :=
  mask.bits &&& (ofQueue queue).bits == (ofQueue queue).bits

/-- The queues whose bits are set, in order. -/
def queues (mask : QueueMask) : List Queue := Queue.all.filter mask.contains

/-- How many bits are set. -/
def size (mask : QueueMask) : Nat := (List.range 32).countP mask.bits.toNat.testBit

/-- Resources usable on at most one queue belong to one queue at a time. -/
def isExclusive (mask : QueueMask) : Bool := mask.size ≤ 1

/-- The word the mask of one queue is written with. -/
def constantName : Queue → String
  | .graphics => "GRAPHICS"
  | .asyncCompute => "ASYNC_COMPUTE"
  | .asyncTransfer => "ASYNC_TRANSFER"
  | .videoEncode => "VIDEO_ENCODE"
  | .videoDecode => "VIDEO_DECODE"

/-- The mask of one queue that is written with a word. -/
def ofConstantName? (word : String) : Option QueueMask :=
  (Queue.all.find? fun queue => constantName queue == word).map ofQueue

end QueueMask

end GpuSync
