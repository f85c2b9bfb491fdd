import GpuSync.Ring.Error
import GpuSync.Slot.Pool
import GpuSync.Submission.Recording

/-!
# The ring of frames in flight

Frames are begun and ended one after another. Each has a place in a ring, and a place is used
again only once all batches of the frame that had it before are complete. The batches of all
frames in flight share one pool of slots.

## Main definitions

* `GpuSync.Frame` is the place of one frame; `GpuSync.FrameRing` is the whole ring.
* `GpuSync.FrameRing.make?` makes a ring with some limits.
* `GpuSync.FrameRing.find?` finds a submission of the frames in flight.
* `GpuSync.FrameRing.isQuiet` and `GpuSync.FrameRing.isNextQuiet` tell whether there is anything
  to wait for.
-/

namespace GpuSync

/-- A surface to present at the end of a frame, with the submission that draws to it. -/
structure Frame.Output where
  /-- Which surface. -/
  surface : Nat
  /-- Which submission, of all ever begun. -/
  submission : Nat
  deriving DecidableEq, Repr

/-- A place of the ring, with the frame that has it. -/
structure Frame where
  /-- The frame. -/
  id : FrameId
  /-- The batches begun in it, in order. -/
  batches : List BatchId := []
  /-- The batch slots handed out in it, in order. -/
  slots : List Nat := []
  /-- How many batches were opened on each queue. -/
  submitted : Vector Nat Queue.count := Vector.replicate Queue.count 0
  /-- The surfaces to present, in order. -/
  outputs : List Frame.Output := []
  deriving DecidableEq

namespace Frame

/-- How many batches of the frame were opened on a queue. -/
def submittedTo (frame : Frame) (queue : Queue) : Nat := frame.submitted[queue.index]

/-- The frame once another batch slot was handed out in it, for a queue. -/
def opened (frame : Frame) (slot : Nat) (queue : Queue) : Frame :=
  { frame with
    slots := frame.slots ++ [slot]
    submitted := frame.submitted.set queue.index (frame.submittedTo queue + 1) }

end Frame

/-- Room for the batches of all frames. -/
def FrameRing.shape : Slot.Shape := .single

/-- The frames in flight and their batches. -/
structure FrameRing where
  /-- The limits. -/
  config : FrameRing.Config
  /-- The batch slots, each with the batch it was last handed out for. -/
  slots : Slot.Pool FrameRing.shape BatchId
  /-- The places. -/
  frames : List Frame
  /-- The frame begun last. -/
  current : FrameId
  /-- Where the ring is in the course of that frame. -/
  phase : FrameRing.Phase
  /-- All submissions ever begun, in order. -/
  submissions : List Submission
  /-- The surfaces. -/
  surfaces : List Surface

namespace FrameRing

/-- A ring that never began a frame. -/
def new (config : Config) (surfaces : List Surface) : FrameRing :=
  let places := UInt32.ofNat config.maxFrames
  { config
    slots := .empty
    frames := (List.range config.maxFrames).map fun index =>
      { id := ⟨0, UInt32.ofNat index, places⟩ }
    current := .first places
    phase := .idle
    submissions := []
    surfaces }

/-- A ring with some limits, if they make sense. -/
def make? (config : Config) (surfaces : List Surface) : Except RingError FrameRing :=
  match config.fault? with
  | some reason => .error (.invalidConfig config reason)
  | none => .ok (new config surfaces)

/-! ## Looking things up

A batch is looked up by its identity, in the frames in flight or, to complete it, among all
submissions. Those of former frames stay in the list, and are not found in a frame any more. -/

/-- The frame begun last. -/
def currentFrame (ring : FrameRing) : Frame :=
  ring.frames[ring.current.index.toNat]?.getD { id := ring.current }

/-- How many batches of the current frame were opened on a queue. -/
def submittedTo (ring : FrameRing) (queue : Queue) : Nat :=
  ring.currentFrame.submittedTo queue

/-- The submission of a batch, of whatever frame. Identities come round, so the newest one has
it. -/
def submission? (ring : FrameRing) (id : BatchId) : Option Submission :=
  ring.submissions.findRev? fun submission => submission.id == id

/-- The submission of a batch of a frame in flight. -/
def find? (ring : FrameRing) (id : BatchId) : Option Submission :=
  if ring.frames.any fun frame => frame.batches.contains id then ring.submission? id else none

/-- Whether a batch is complete. -/
def isComplete (ring : FrameRing) (id : BatchId) : Bool :=
  match ring.submission? id with
  | some submission => submission.isComplete
  | none => true

/-- How many batches of a frame are not complete. -/
def pendingOf (ring : FrameRing) (frame : Frame) : Nat :=
  frame.batches.countP fun id => !ring.isComplete id

/-- Whether all batches of all frames in flight are complete. -/
def isQuiet (ring : FrameRing) : Bool := ring.frames.all fun frame => ring.pendingOf frame == 0

/-- Whether all batches of the frame whose place comes next are complete. -/
def isNextQuiet (ring : FrameRing) : Bool :=
  match ring.frames[ring.current.next.index.toNat]? with
  | some frame => ring.pendingOf frame == 0
  | none => true

/-- The batches of the frames in flight that are not complete. -/
def inFlight (ring : FrameRing) : List BatchId :=
  (ring.frames.flatMap (·.batches)).filter fun id => !ring.isComplete id

/-- The ring in words. -/
def describe (ring : FrameRing) : String :=
  Text.record "RenderGraph"
    [("frame_id", ring.current.describe), ("state", ring.phase.name),
      ("pending_batches", toString ring.slots.assignedCount)]

/-! ## Changing things

Submissions stay in the list for good and are replaced in their places. Only the current frame
changes, apart from the place that is used again when a frame begins. -/

/-- Puts a submission in the place of what it was before. -/
def setSubmission (ring : FrameRing) (submission : Submission) : FrameRing :=
  { ring with submissions := ring.submissions.set submission.serial submission }

/-- Changes the place of the current frame. -/
def modifyCurrent (ring : FrameRing) (f : Frame → Frame) : FrameRing :=
  { ring with frames := ring.frames.modify ring.current.index.toNat f }

/-- The device has finished a submission. Yields the wakers to wake. -/
def retire (ring : FrameRing) (submission : Submission) :
    List Nat × FrameRing × List Log.Entry :=
  let (woken, completed, notes) := submission.complete
  (woken, ring.setSubmission completed, notes)

/-- The device has finished a batch. Yields the wakers to wake. -/
def complete (ring : FrameRing) (id : BatchId) : List Nat × FrameRing × List Log.Entry :=
  match ring.submission? id with
  | none => ([], ring, [])
  | some submission => ring.retire submission

/-- The device has finished several batches. Yields the wakers to wake. -/
def completeAll (ring : FrameRing) : List BatchId → List Nat × FrameRing × List Log.Entry
  | [] => ([], ring, [])
  | id :: rest =>
    let (woken, first, notes) := ring.complete id
    let (others, all, more) := first.completeAll rest
    (woken ++ others, all, notes ++ more)

/-- What an operation on a ring yields. -/
structure Outcome (α : Type) where
  /-- The answer, or why there is none. -/
  answer : Except RingError α
  /-- The ring afterwards. -/
  ring : FrameRing
  /-- What was logged, in order. -/
  notes : List Log.Entry := []

/-- The operation is refused and the ring stays as it is. -/
def refuse {α : Type} (ring : FrameRing) (error : RingError) (notes : List Log.Entry) :
    Outcome α where
  answer := .error error
  ring := ring
  notes := notes

end FrameRing

end GpuSync
