import GpuSync.Ring.Basic

/-!
# Beginning and ending frames

## Main definitions

* `GpuSync.FrameRing.beginFrame` begins the next frame, `GpuSync.FrameRing.beginFrameAs` any frame.
* `GpuSync.FrameRing.endFrame` presents the surfaces of the frame and ends it;
  `GpuSync.FrameRing.endFrameQuietly` only ends it.
-/

namespace GpuSync.FrameRing

/-- Gives back the batch slots of a frame. -/
def freeSlots (ring : FrameRing) (frame : Frame) : Slot.Pool shape BatchId :=
  frame.slots.foldl (fun pool slot => (pool.unassign slot).2) ring.slots

/-- Begins a frame. Its place must not have batches that are not complete. -/
def beginFrameAs (ring : FrameRing) (id : FrameId) : Outcome Unit :=
  if ring.phase = .begun then ring.refuse (.wrongPhase .ended .begun) []
  else
    match ring.frames[id.index.toNat]? with
    | none => ring.refuse (.noSuchPlace id.index.toNat) []
    | some frame =>
      let pending := ring.pendingOf frame
      if pending ≠ 0 then
        ring.refuse (.frameInFlight frame.id pending)
          [Log.warn s!"frame {frame.id.text} still has {pending} batches executing"]
      else
        { answer := .ok ()
          ring :=
            { ring with
              slots := ring.freeSlots frame
              frames := ring.frames.set id.index.toNat { id }
              current := id
              phase := .begun }
          notes := [Log.debug s!"begin frame {id.text}"] }

/-- Begins the next frame. -/
def beginFrame (ring : FrameRing) : Outcome FrameId :=
  let id := ring.current.next
  let begun := ring.beginFrameAs id
  { answer := begun.answer.map fun () => id, ring := begun.ring, notes := begun.notes }

/-- What is logged about the batches of a frame that ends: the queues that got any, with how
many. -/
def endNote (ring : FrameRing) : Log.Entry :=
  let used := Queue.all.filter fun queue => ring.submittedTo queue != 0
  let counts := used.map fun queue => s!"({queue.name}, {ring.submittedTo queue})"
  Log.debug s!"end frame {ring.current.text}, submitted {Text.listing counts}"

/-- Ends the frame without presenting. -/
def endFrameQuietly (ring : FrameRing) : Outcome Unit :=
  if ring.phase ≠ .begun then ring.refuse (.wrongPhase .begun ring.phase) []
  else
    { answer := .ok ()
      ring := { ring with phase := .ended }
      notes := [ring.endNote] }

/-- Presents one surface. -/
def presentOne (ring : FrameRing) (output : Frame.Output) :
    Option SurfaceError × FrameRing × List Log.Entry :=
  match ring.surfaces[output.surface]?, ring.submissions[output.submission]? with
  | some surface, some submission =>
    let (failure, presented) := surface.present submission.id submission.status
    let notes := failure.toList.map fun error =>
      Log.warn s!"presenting after batch {submission.id.text} failed: {error.message}"
    (failure, { ring with surfaces := ring.surfaces.set output.surface presented }, notes)
  | _, _ => (none, ring, [])

/-- Presents surfaces in order, all of them whatever fails. Yields the first failure. -/
def presentAll (ring : FrameRing) :
    List Frame.Output → Option SurfaceError × FrameRing × List Log.Entry
  | [] => (none, ring, [])
  | output :: rest =>
    let (failure, first, notes) := ring.presentOne output
    let (later, all, more) := first.presentAll rest
    (failure <|> later, all, notes ++ more)

/-- Presents the surfaces of the frame and ends it, whatever fails. -/
def endFrame (ring : FrameRing) : Outcome Unit :=
  if ring.phase ≠ .begun then ring.refuse (.wrongPhase .begun ring.phase) []
  else
    let (failure, presented, notes) := ring.presentAll ring.currentFrame.outputs
    let ended := presented.endFrameQuietly
    { answer :=
        match failure with
        | some error => .error (.surface error)
        | none => ended.answer
      ring := ended.ring
      notes := notes ++ ended.notes }

end GpuSync.FrameRing
