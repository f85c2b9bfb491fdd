import GpuSync.Text.Record

/-!
# Limits of a frame ring

## Main definitions

* `GpuSync.FrameRing.Config`, with `check`.
-/

namespace GpuSync.FrameRing

/-- At most so many frames are in flight. -/
def framesLimit : Nat := 4

/-- A ring has slots for so many batches. -/
def batchCapacity : Nat := 64

/-- A frame presents at most so many surfaces. -/
def maxOutputs : Nat := 4

/-- The limits of a ring. -/
structure Config where
  /-- How many frames may be in flight. -/
  maxFrames : Nat := 2
  /-- How many batches may exist in all frames in flight. -/
  maxPending : Nat := 32
  /-- How many batches of a frame may be submitted to one queue. -/
  maxPerQueue : Nat := 16
  deriving DecidableEq, Repr

namespace Config

/-- The limits in words. -/
def describe (config : Config) : String :=
  Text.record "RenderGraphConfig"
    [("max_frames", toString config.maxFrames),
      ("max_pending_batches", toString config.maxPending),
      ("max_batches_per_queue", toString config.maxPerQueue)]

/-- What is wrong with the limits, if anything is. -/
def fault? (config : Config) : Option String :=
  if config.maxFrames < 2 || framesLimit < config.maxFrames then
    some "max_frames must be within 2..=FRAMES_LIMIT"
  else if config.maxPending < 1 || batchCapacity < config.maxPending then
    some "max_pending_batches must be within 1..=BATCH_POOL_CAPACITY"
  else if config.maxPerQueue = 0 then some "max_batches_per_queue must not be 0"
  else none

end Config

end GpuSync.FrameRing
