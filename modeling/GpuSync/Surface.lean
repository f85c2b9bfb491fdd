import GpuSync.Submission.Basic

/-!
# Output surfaces

A surface is drawn to and presented, image after image. Acquiring the next image and presenting
one may each fail; the replies a surface gives are part of it, and beyond them it always succeeds.

## Main definitions

* `GpuSync.Surface` with `acquire`, `targets` and `present`.
* `GpuSync.SurfaceError`, with its name and its wording.
-/

namespace GpuSync

/-- Why a surface could not be used. -/
inductive SurfaceError where
  /-- It does not fit any more. -/
  | outOfDate
  /-- It is gone. -/
  | lost
  /-- Something else, in the words of the platform. -/
  | platform (message : String)
  deriving DecidableEq, Repr

/-- The name an error goes by. -/
def SurfaceError.name : SurfaceError → String
  | .outOfDate => "OutOfDate"
  | .lost => "SurfaceLost"
  | .platform _ => "Platform"

/-- The error with a name; a name that is not known is taken for the words of the platform. -/
def SurfaceError.ofName : String → SurfaceError
  | "OutOfDate" => .outOfDate
  | "SurfaceLost" => .lost
  | message => .platform message

/-- The wording of an error. -/
def SurfaceError.message : SurfaceError → String
  | .outOfDate => "Surface is out of date and must be recreated"
  | .lost => "Surface was lost"
  | .platform message => s!"Platform error: {message}"

/-- One call to present an image. -/
structure Surface.Presentation where
  /-- The batch that drew it. -/
  batch : BatchId
  /-- How far that batch had come. -/
  status : Submission.Status
  /-- Whether presenting failed. -/
  failed : Bool
  deriving DecidableEq, Repr

/-- A presentation in words. -/
def Surface.Presentation.text (presentation : Surface.Presentation) : String :=
  s!"{presentation.batch.text} {presentation.status.name}" ++
    if presentation.failed then " failed" else ""

/-- A surface and what was done with it. -/
structure Surface where
  /-- The images behind each acquired image, used in turn. -/
  images : List (List Handle)
  /-- The failures of the acquisitions, in order. -/
  acquireReplies : List (Option SurfaceError) := []
  /-- The failures of the presentations, in order. -/
  presentReplies : List (Option SurfaceError) := []
  /-- How many images were acquired. -/
  acquired : Nat := 0
  /-- What was presented, in order. -/
  presentations : List Surface.Presentation := []
  deriving DecidableEq, Repr

namespace Surface

/-- Acquires the next image. The failure, if there is one, comes with the image. -/
def acquire (surface : Surface) : Option SurfaceError × Surface :=
  (surface.acquireReplies[surface.acquired]?.join,
    { surface with acquired := surface.acquired + 1 })

/-- The images behind the image acquired last. -/
def targets (surface : Surface) : List Handle :=
  surface.images[(surface.acquired - 1) % surface.images.length]?.getD []

/-- Presents the image drawn by a batch. -/
def present (surface : Surface) (batch : BatchId) (status : Submission.Status) :
    Option SurfaceError × Surface :=
  let reply := surface.presentReplies[surface.presentations.length]?.join
  (reply,
    { surface with
      presentations := surface.presentations ++ [⟨batch, status, reply.isSome⟩] })

end Surface

end GpuSync
