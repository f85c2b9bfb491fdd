/-!
# Image layouts

The arrangement of an image's contents in memory. Moving an image from one layout to another takes
a barrier.

## Main definitions

* `GpuSync.Layout`, with its `index` and `name`.
-/

namespace GpuSync

/-- How the contents of an image are arranged. -/
inductive Layout where
  /-- The contents are not defined and may be discarded. -/
  | undefined
  /-- Any access. -/
  | general
  /-- Source of copies. -/
  | transferSrc
  /-- Destination of copies. -/
  | transferDst
  /-- Sampled or read by shaders. -/
  | shaderReadOnly
  /-- Color attachment. -/
  | colorAttachment
  /-- Depth and stencil attachment. -/
  | depthStencilAttachment
  /-- Depth and stencil, only read. -/
  | depthStencilReadOnly
  /-- Ready for presenting. -/
  | presentSrc
  deriving DecidableEq, Repr

namespace Layout

/-- All layouts, in order. -/
def all : List Layout :=
  [.undefined, .general, .transferSrc, .transferDst, .shaderReadOnly, .colorAttachment,
    .depthStencilAttachment, .depthStencilReadOnly, .presentSrc]

/-- The position of a layout. -/
def index (layout : Layout) : Nat := all.idxOf layout

/-- The layout at a position. -/
def ofIndex? (i : Nat) : Option Layout := all[i]?

/-- The word a layout is written with. -/
def name : Layout → String
  | .undefined => "Undefined"
  | .general => "General"
  | .transferSrc => "TransferSrc"
  | .transferDst => "TransferDst"
  | .shaderReadOnly => "ShaderReadOnly"
  | .colorAttachment => "ColorAttachment"
  | .depthStencilAttachment => "DepthStencilAttachment"
  | .depthStencilReadOnly => "DepthStencilReadOnly"
  | .presentSrc => "PresentSrc"

end Layout

end GpuSync
