import GpuSync.Batch.Error
import GpuSync.Ring.Config
import GpuSync.Ring.FrameId
import GpuSync.Surface

/-!
# What can go wrong with a frame ring

## Main definitions

* `GpuSync.FrameRing.Phase` is where the ring is in the course of a frame.
* `GpuSync.FrameRing.RingError`, with its name and its wording.
-/

namespace GpuSync.FrameRing

/-- Where a ring is in the course of a frame. -/
inductive Phase where
  /-- Before the first frame. -/
  | idle
  /-- In a frame. -/
  | begun
  /-- After a frame. -/
  | ended
  deriving DecidableEq, Repr

/-- The word a phase is written with. -/
def Phase.name : Phase → String
  | .idle => "Idle"
  | .begun => "Begun"
  | .ended => "Ended"

/-- Why an operation on a ring was refused. -/
inductive RingError where
  /-- The limits make no sense. -/
  | invalidConfig (config : Config) (reason : String)
  /-- The operation does not belong here in the course of a frame. -/
  | wrongPhase (expected actual : Phase)
  /-- Batches of the frame that had the same place are not complete. -/
  | frameInFlight (frame : FrameId) (pending : Nat)
  /-- All batches are in use. -/
  | noBatchLeft (capacity : Nat)
  /-- The queue has enough batches for this frame. -/
  | queueFull (queue : Queue) (limit : Nat)
  /-- The frame has enough surfaces. -/
  | tooManyOutputs (limit : Nat)
  /-- The ring has no such place. -/
  | noSuchPlace (index : Nat)
  /-- The batch refused. -/
  | batch (cause : BatchError)
  /-- The surface refused. -/
  | surface (cause : SurfaceError)
  deriving DecidableEq, Repr

/-- The name an error goes by; that of a cause follows a dot. -/
def RingError.name : RingError → String
  | .invalidConfig .. => "InvalidConfig"
  | .wrongPhase .. => "InvalidFrameState"
  | .frameInFlight .. => "FrameInFlight"
  | .noBatchLeft _ => "BatchPoolExhausted"
  | .queueFull .. => "TooManyBatches"
  | .tooManyOutputs _ => "TooManyOutputSurfaces"
  | .noSuchPlace _ => "NoSuchPlace"
  | .batch cause => s!"Batch.{cause.name}"
  | .surface cause => s!"Surface.{cause.name}"

/-- The wording of an error. -/
def RingError.message : RingError → String
  | .invalidConfig config reason => s!"Invalid config {config.describe}: {reason}"
  | .wrongPhase expected actual =>
    s!"Expected the frame to be {expected.name}, but it is {actual.name}"
  | .frameInFlight frame pending =>
    s!"Frame {frame.text} still has {pending} batches executing, wait for them before reusing " ++
      "its slot"
  | .noBatchLeft capacity => s!"All {capacity} batches are in use"
  | .queueFull queue limit =>
    s!"Queue {queue.name} already has the maximum of {limit} batches this frame"
  | .tooManyOutputs limit => s!"At most {limit} output surfaces may be used per frame"
  | .noSuchPlace index => s!"There is no place {index} in the ring"
  | .batch cause => s!"Batch error: {cause.message}"
  | .surface cause => s!"Surface error: {cause.message}"

end GpuSync.FrameRing
