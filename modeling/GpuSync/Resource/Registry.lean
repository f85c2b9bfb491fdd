import GpuSync.Handle.Pool
import GpuSync.Tracker.Basic

/-!
# The resource registry

Resources get their handles from one pool per kind. Every resource is registered with the tracker
as it is created, and forgotten as it is released.

## Main definitions

* `GpuSync.Registry` with `create` and `release`.

## Main statements

* `GpuSync.Registry.handles_setHandles_self` and `GpuSync.Registry.handles_setHandles_of_ne`:
  setting the handles of one kind leaves those of the others.
-/

namespace GpuSync

/-- Why a resource could not be created. -/
inductive ResourceError where
  /-- There is no handle left. -/
  | handles (cause : Slot.PoolError)
  /-- The tracker has no room. -/
  | tracker (cause : Slot.PoolError)
  deriving DecidableEq, Repr

/-- The name an error goes by. -/
def ResourceError.name : ResourceError → String
  | .handles _ => "Manager"
  | .tracker _ => "Tracker"

/-- The wording of an error. -/
def ResourceError.message : ResourceError → String
  | .handles cause => s!"Resource creation failed: {cause.message}"
  | .tracker cause => s!"Resource could not be tracked: {cause.message}"

/-- Room for 64 handles of each kind. -/
def Registry.small (_ : Kind) : Slot.Shape := .single

/-- The handles of all kinds. Each kind has a pool of a shape of its own. -/
structure Registry (shapes : Kind → Slot.Shape) where
  /-- The handles of images. -/
  images : Handle.Pool (shapes .image)
  /-- The handles of buffers. -/
  buffers : Handle.Pool (shapes .buffer)
  /-- The handles of acceleration structures over geometry. -/
  rtGeometries : Handle.Pool (shapes .rtGeometry)
  /-- The handles of acceleration structures over instances. -/
  rtScenes : Handle.Pool (shapes .rtScene)

namespace Registry

variable {shapes : Kind → Slot.Shape}

/-- A registry without resources. -/
def empty : Registry shapes := ⟨.empty, .empty, .empty, .empty⟩

/-- The handles of a kind. -/
def handles (registry : Registry shapes) : (kind : Kind) → Handle.Pool (shapes kind)
  | .image => registry.images
  | .buffer => registry.buffers
  | .rtGeometry => registry.rtGeometries
  | .rtScene => registry.rtScenes

/-- Sets the handles of a kind. -/
def setHandles (registry : Registry shapes) :
    (kind : Kind) → Handle.Pool (shapes kind) → Registry shapes
  | .image, images => { registry with images }
  | .buffer, buffers => { registry with buffers }
  | .rtGeometry, rtGeometries => { registry with rtGeometries }
  | .rtScene, rtScenes => { registry with rtScenes }

/-- The pool of a kind is the one set for it. -/
@[simp] theorem handles_setHandles_self (registry : Registry shapes) (kind : Kind)
    (pool : Handle.Pool (shapes kind)) : (registry.setHandles kind pool).handles kind = pool := by
  cases kind <;> rfl

/-- To set the pool of one kind leaves the others alone. -/
theorem handles_setHandles_of_ne (registry : Registry shapes) {a b : Kind} (apart : b ≠ a)
    (pool : Handle.Pool (shapes a)) :
    (registry.setHandles a pool).handles b = registry.handles b := by
  cases a <;> cases b <;> first | rfl | exact absurd rfl apart

/-- A registry is left alone by setting the pool it has. -/
@[simp] theorem setHandles_handles (registry : Registry shapes) (kind : Kind) :
    registry.setHandles kind (registry.handles kind) = registry := by
  cases kind <;> rfl

/-- Whether the handle of a key is alive. -/
def isAlive (registry : Registry shapes) (key : Key) : Bool :=
  (registry.handles key.kind).isAlive key.handle

/-- How many resources of a kind are alive. -/
def size (registry : Registry shapes) (kind : Kind) : Nat := (registry.handles kind).size

/-- Frees the handle of a key. Tells whether it was alive. -/
def free (registry : Registry shapes) (key : Key) : Bool × Registry shapes :=
  let (freed, pool) := (registry.handles key.kind).free key.handle
  (freed, registry.setHandles key.kind pool)

/-- What creating a resource yields. -/
structure Creation (shapes : Kind → Slot.Shape) where
  /-- The new key, or why there is none. -/
  answer : Except ResourceError Key
  /-- The registry afterwards. -/
  registry : Registry shapes
  /-- The tracker afterwards. -/
  tracker : Tracker
  /-- What was logged. -/
  notes : List Log.Entry

/-- Creates a resource that rests in some usage, on the queues of a mask. The searches for a handle
and for room in the tracker are made by one thread, so they start at the group of one seed. If the
tracker has no room for the resource, its handle is freed again. -/
def create (registry : Registry shapes) (tracker : Tracker) (seed : Nat) (kind : Kind)
    (resting : Usage) (queues : QueueMask) : Creation shapes :=
  match (registry.handles kind).alloc seed with
  | .error cause => ⟨.error (.handles cause), registry, tracker, []⟩
  | .ok (handle, pool) =>
    let key : Key := ⟨kind, handle⟩
    let taken := registry.setHandles kind pool
    match tracker.add seed key (.fresh resting resting none) with
    | (.ok (_, tracked), notes) =>
      ⟨.ok key, taken, (tracked.setExclusive key queues.isExclusive).2, notes⟩
    | (.error cause, notes) =>
      let note := Log.warn s!"failed to track {key.text}, releasing it again: {cause.message}"
      ⟨.error (.tracker cause), (taken.free key).2, tracker, notes ++ [note]⟩

/-- Forgets a resource and frees its handle. Tells whether the handle was alive. -/
def release (registry : Registry shapes) (tracker : Tracker) (key : Key) :
    Bool × Registry shapes × Tracker :=
  let (freed, rest) := registry.free key
  (freed, rest, (tracker.remove key).2)

end Registry

end GpuSync
