import GpuSync.Ring.Basic

/-!
# The batches of a frame

A batch is opened on a queue, which takes a slot; it is declared; and it is begun, from when on
the frame knows it. A batch that is opened and never begun keeps its slot until the frame's place
is used again.

## Main definitions

* `GpuSync.FrameRing.openBatch` yields a `GpuSync.FrameRing.Draft`; `GpuSync.FrameRing.beginBatch`
  makes it a submission.
* `GpuSync.FrameRing.drawTo?` gates a batch on a surface.
-/

namespace GpuSync.FrameRing

/-- A batch that is opened and not begun. -/
structure Draft where
  /-- The book-keeping of the batch. -/
  batch : Batch
  /-- How many batches of the frame were opened on its queue before. -/
  position : Nat

/-- The book-keeping of a batch in a slot used before: that of the slot's former batch is cleared,
unless somebody still holds it. -/
def recycle (ring : FrameRing) (held : BatchId → Bool) (former : Option BatchId) (id : BatchId)
    (queue : Queue) : Batch :=
  match former.bind ring.submission? with
  | none => .new id queue
  | some submission =>
    if held submission.id then .new id queue else submission.batch.reset id queue

/-- Opens a batch on a queue. `held` tells which former batches somebody still holds. -/
def openBatch (ring : FrameRing) (held : BatchId → Bool) (queue : Queue) : Outcome Draft :=
  if ring.phase ≠ .begun then ring.refuse (.wrongPhase .begun ring.phase) []
  else
    let position := ring.submittedTo queue
    let capacity := ring.config.maxPending
    if ring.config.maxPerQueue ≤ position then
      ring.refuse (.queueFull queue ring.config.maxPerQueue) []
    else if capacity ≤ ring.slots.assignedCount then
      ring.refuse (.noBatchLeft capacity) [Log.warn s!"all {capacity} batches are pending"]
    else
      match ring.slots.assignWith 0 (fun slot => Slot.Pool.yielding ⟨UInt32.ofNat slot, 0⟩ slot)
          (fun former => Slot.Pool.yielding former.next) with
      | .error _ => ring.refuse (.noBatchLeft capacity) []
      | .ok assigned =>
        let id := (assigned.pool.values.find? assigned.index).getD
          ⟨UInt32.ofNat assigned.index, 0⟩
        let former := ring.slots.values.find? assigned.index
        { answer := .ok ⟨ring.recycle held former id queue, position⟩
          ring := { ring with slots := assigned.pool }.modifyCurrent
            (·.opened assigned.index queue) }

/-- Begins a batch: from now on the frame waits for it. -/
def beginBatch (ring : FrameRing) (draft : Draft) (label : String) :
    Submission × FrameRing × List Log.Entry :=
  let submission : Submission :=
    { serial := ring.submissions.length
      batch := draft.batch
      label
      position := draft.position
      frame := ring.current }
  let note := Log.trace (s!"begin batch {submission.id.text} '{label}' on " ++
    s!"{draft.batch.queue.name} #{draft.position} in frame {ring.current.text}")
  let known := { ring with submissions := ring.submissions ++ [submission] }
  (submission,
    known.modifyCurrent fun frame => { frame with batches := frame.batches ++ [submission.id] },
    [note])

/-- Gates a batch on the next image of a surface, which the batch draws to and which is presented
as the frame ends. Nothing is acquired once the batch has tasks. An acquired image is presented
even if declaring it was refused. Answers how acquiring failed, if it did. -/
def gate (ring : FrameRing) (tracker : Tracker) (surfaceIndex : Nat) (surface : Surface)
    (submission : Submission) : Outcome (Option SurfaceError) :=
  if ring.phase ≠ .begun then ring.refuse (.wrongPhase .begun ring.phase) []
  else if maxOutputs ≤ ring.currentFrame.outputs.length then
    ring.refuse (.tooManyOutputs maxOutputs) []
  else if submission.batch.isStarted then
    ring.refuse (.batch (.alreadyStarted submission.id)) []
  else
    let (failure, acquired) := surface.acquire
    let declared := submission.batch.useTargets tracker acquired.targets
    let gated : FrameRing :=
      { ring with surfaces := ring.surfaces.set surfaceIndex acquired }.setSubmission
        { submission with batch := declared.batch }
    let drawn := gated.modifyCurrent fun frame =>
      { frame with outputs := frame.outputs ++ [⟨surfaceIndex, submission.serial⟩] }
    match declared.answer with
    | .ok () => { answer := .ok failure, ring := drawn, notes := declared.notes }
    | .error error =>
      let note := Log.warn (s!"declaring the render targets on batch {submission.id.text} " ++
        s!"failed: {error.message}")
      { answer := .error (.batch error), ring := drawn, notes := declared.notes ++ [note] }

/-- Gates a batch on a surface, if there are such a surface and such a batch. -/
def drawTo? (ring : FrameRing) (tracker : Tracker) (surfaceIndex : Nat) (batch : BatchId) :
    Option (Outcome (Option SurfaceError)) := do
  let surface ← ring.surfaces[surfaceIndex]?
  let submission ← ring.submission? batch
  return ring.gate tracker surfaceIndex surface submission

end GpuSync.FrameRing
