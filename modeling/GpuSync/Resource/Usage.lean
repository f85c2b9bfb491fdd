import GpuSync.Resource.Layout

/-!
# Usages

A usage is what a resource is used for between two barriers. It says whether the resource is read
and written and which layout an image has meanwhile, and with that, whether going from one usage
to another takes a barrier.

## Main definitions

* `GpuSync.Usage`, with its `index` and `name`.
* `GpuSync.Usage.reads`, `GpuSync.Usage.writes`, `GpuSync.Usage.readOnly` and
  `GpuSync.Usage.layout`.
* `GpuSync.Usage.needsMemoryBarrier` and `GpuSync.Usage.needsImageBarrier`.
-/

namespace GpuSync

/-- What a resource is used for. -/
inductive Usage where
  /-- Any access, where most resources rest. -/
  | general
  /-- Read by a copy. -/
  | copySrc
  /-- Written by a copy. -/
  | copyDst
  /-- Read by a blit. -/
  | blitSrc
  /-- Written by a blit. -/
  | blitDst
  /-- Written by a clear. -/
  | clearDst
  /-- Read by the host. -/
  | hostRead
  /-- Written by the host. -/
  | hostWrite
  /-- Vertices of a draw. -/
  | vertexBuffer
  /-- Indices of a draw. -/
  | indexBuffer
  /-- Arguments of an indirect command. -/
  | indirectBuffer
  /-- Uniform data of shaders. -/
  | uniformRead
  /-- Storage read by shaders. -/
  | shaderRead
  /-- Storage written by shaders. -/
  | shaderWrite
  /-- Storage read and written by shaders. -/
  | shaderReadWrite
  /-- Sampled by shaders. -/
  | shaderSample
  /-- Input attachment. -/
  | inputAttachment
  /-- Color attachment. -/
  | colorAttachment
  /-- Depth and stencil attachment. -/
  | depthStencilAttachment
  /-- Depth and stencil, only read. -/
  | depthStencilRead
  /-- Presented to an output surface. -/
  | present
  /-- Built as an acceleration structure, with its scratch and geometry memory. -/
  | asBuild
  /-- Traced against as an acceleration structure. -/
  | asRead
  deriving DecidableEq, Repr

namespace Usage

/-- All usages, in order. -/
def all : List Usage :=
  [.general, .copySrc, .copyDst, .blitSrc, .blitDst, .clearDst, .hostRead, .hostWrite,
    .vertexBuffer, .indexBuffer, .indirectBuffer, .uniformRead, .shaderRead, .shaderWrite,
    .shaderReadWrite, .shaderSample, .inputAttachment, .colorAttachment, .depthStencilAttachment,
    .depthStencilRead, .present, .asBuild, .asRead]

/-- The position of a usage. -/
def index (usage : Usage) : Nat := all.idxOf usage

/-- The usage at a position. -/
def ofIndex? (i : Nat) : Option Usage := all[i]?

/-- The word a usage is written with. -/
def name : Usage → String
  | .general => "General"
  | .copySrc => "CopySrc"
  | .copyDst => "CopyDst"
  | .blitSrc => "BlitSrc"
  | .blitDst => "BlitDst"
  | .clearDst => "ClearDst"
  | .hostRead => "HostRead"
  | .hostWrite => "HostWrite"
  | .vertexBuffer => "VertexBuffer"
  | .indexBuffer => "IndexBuffer"
  | .indirectBuffer => "IndirectBuffer"
  | .uniformRead => "UniformRead"
  | .shaderRead => "ShaderRead"
  | .shaderWrite => "ShaderWrite"
  | .shaderReadWrite => "ShaderReadWrite"
  | .shaderSample => "ShaderSample"
  | .inputAttachment => "InputAttachment"
  | .colorAttachment => "ColorAttachment"
  | .depthStencilAttachment => "DepthStencilAttachment"
  | .depthStencilRead => "DepthStencilRead"
  | .present => "Present"
  | .asBuild => "AsBuild"
  | .asRead => "AsRead"

/-- The usage written with a word. -/
def ofName? (word : String) : Option Usage := all.find? (·.name == word)

/-- Whether the resource is read. -/
def reads : Usage → Bool
  | .copyDst | .blitDst | .clearDst | .hostWrite | .shaderWrite => false
  | _ => true

/-- Whether the resource is written. -/
def writes : Usage → Bool
  | .general | .copyDst | .blitDst | .clearDst | .hostWrite | .shaderWrite | .shaderReadWrite
  | .colorAttachment | .depthStencilAttachment | .asBuild => true
  | _ => false

/-- Whether the resource is only read. -/
def readOnly (usage : Usage) : Bool := !usage.writes

/-- The layout an image has while it is used like this. -/
def layout : Usage → Layout
  | .copySrc | .blitSrc => .transferSrc
  | .copyDst | .blitDst | .clearDst => .transferDst
  | .shaderSample | .inputAttachment => .shaderReadOnly
  | .colorAttachment => .colorAttachment
  | .depthStencilAttachment => .depthStencilAttachment
  | .depthStencilRead => .depthStencilReadOnly
  | .present => .presentSrc
  | _ => .general

/-- Copies, and likewise blits, in a row are taken to write disjoint regions, so there is no
barrier between them. -/
def skipsBarrier (src dst : Usage) : Bool :=
  src == dst && (src == .copyDst || src == .blitDst)

/-- Whether an access after another has to wait for it. Reads do not wait for reads; relaxed, an
access does not wait for one in the same usage. -/
def needsMemoryBarrier (src dst : Usage) (relaxed : Bool) : Bool :=
  !(src.readOnly && dst.readOnly) && !(relaxed && src == dst)

/-- For an image a change of layout takes a barrier as well. -/
def needsImageBarrier (src dst : Usage) (relaxed : Bool) : Bool :=
  src.layout != dst.layout || src.needsMemoryBarrier dst relaxed

end Usage

end GpuSync
