import GpuSync.Resource.Usage

/-!
# Usages in Vulkan

Vulkan describes a usage by the pipeline stages it takes place in, by the kinds of access, and by
the layout of an image. Stages and accesses are bits of 64 bit words, layouts are numbers.

## Main definitions

* `GpuSync.Vulkan.Stage` and `GpuSync.Vulkan.Flag` name the bits in use.
* `GpuSync.Usage.access` is what a usage means to Vulkan, `GpuSync.Layout.number` a layout.
-/

namespace GpuSync

/-! ## Stages

A mask has one bit for most stages, and several for those that stand for others. The names are those
of the interface. -/

namespace Vulkan.Stage

/-- Reading indirect arguments. -/
def drawIndirect : UInt64 := 0x2

/-- Fragment shaders. -/
def fragmentShader : UInt64 := 0x80

/-- Depth and stencil tests before the fragment shader. -/
def earlyFragmentTests : UInt64 := 0x100

/-- Depth and stencil tests after the fragment shader. -/
def lateFragmentTests : UInt64 := 0x200

/-- Writing color attachments. -/
def colorAttachmentOutput : UInt64 := 0x400

/-- Compute shaders. -/
def computeShader : UInt64 := 0x800

/-- The host. -/
def host : UInt64 := 0x4000

/-- All stages of drawing. -/
def allGraphics : UInt64 := 0x8000

/-- All stages. -/
def allCommands : UInt64 := 0x10000

/-- Ray tracing shaders. -/
def rayTracingShader : UInt64 := 0x200000

/-- Building acceleration structures. -/
def accelerationStructureBuild : UInt64 := 0x2000000

/-- Copies. -/
def copy : UInt64 := 0x100000000

/-- Blits. -/
def blit : UInt64 := 0x400000000

/-- Clears. -/
def clear : UInt64 := 0x800000000

/-- Reading indices. -/
def indexInput : UInt64 := 0x1000000000

/-- Reading vertices. -/
def vertexAttributeInput : UInt64 := 0x2000000000

/-- All stages of drawing and compute shaders. -/
def shaders : UInt64 := allGraphics ||| computeShader

end Vulkan.Stage

/-! ## Kinds of access

Reads and writes are told apart, since a barrier makes only writes available. -/

namespace Vulkan.Flag

/-- Reads indirect arguments. -/
def indirectCommandRead : UInt64 := 0x1

/-- Reads indices. -/
def indexRead : UInt64 := 0x2

/-- Reads vertices. -/
def vertexAttributeRead : UInt64 := 0x4

/-- Reads uniform data. -/
def uniformRead : UInt64 := 0x8

/-- Reads input attachments. -/
def inputAttachmentRead : UInt64 := 0x10

/-- Reads color attachments. -/
def colorAttachmentRead : UInt64 := 0x80

/-- Writes color attachments. -/
def colorAttachmentWrite : UInt64 := 0x100

/-- Reads depth and stencil attachments. -/
def depthStencilAttachmentRead : UInt64 := 0x200

/-- Writes depth and stencil attachments. -/
def depthStencilAttachmentWrite : UInt64 := 0x400

/-- Reads by copies, blits and clears. -/
def transferRead : UInt64 := 0x800

/-- Writes by copies, blits and clears. -/
def transferWrite : UInt64 := 0x1000

/-- Reads by the host. -/
def hostRead : UInt64 := 0x2000

/-- Writes by the host. -/
def hostWrite : UInt64 := 0x4000

/-- All reads. -/
def memoryRead : UInt64 := 0x8000

/-- All writes. -/
def memoryWrite : UInt64 := 0x10000

/-- Reads acceleration structures. -/
def accelerationStructureRead : UInt64 := 0x200000

/-- Writes acceleration structures. -/
def accelerationStructureWrite : UInt64 := 0x400000

/-- Reads sampled images. -/
def shaderSampledRead : UInt64 := 0x100000000

/-- Reads storage. -/
def shaderStorageRead : UInt64 := 0x200000000

/-- Writes storage. -/
def shaderStorageWrite : UInt64 := 0x400000000

end Vulkan.Flag

/-! ## Usages and layouts

Each usage has its stages, its kinds of access and, for images, its layout. Barriers between two
usages are made from these tables and from nothing else. -/

/-- The number of a layout. -/
def Layout.number : Layout → Nat
  | .undefined => 0
  | .general => 1
  | .colorAttachment => 2
  | .depthStencilAttachment => 3
  | .depthStencilReadOnly => 4
  | .shaderReadOnly => 5
  | .transferSrc => 6
  | .transferDst => 7
  | .presentSrc => 1000001002

/-- What a usage is in Vulkan. -/
structure Vulkan.Access where
  /-- The stages it takes place in. -/
  stages : UInt64
  /-- The kinds of access. -/
  flags : UInt64
  /-- The layout of an image. -/
  layout : Layout
  deriving DecidableEq, Repr

open Vulkan in
/-- The stages and the kinds of access of a usage. Presenting waits in a way of its own, so it has
no access to make visible. -/
def Usage.stagesAndFlags : Usage → UInt64 × UInt64
  | .general => (Stage.allCommands, Flag.memoryRead ||| Flag.memoryWrite)
  | .copySrc => (Stage.copy, Flag.transferRead)
  | .copyDst => (Stage.copy, Flag.transferWrite)
  | .blitSrc => (Stage.blit, Flag.transferRead)
  | .blitDst => (Stage.blit, Flag.transferWrite)
  | .clearDst => (Stage.clear, Flag.transferWrite)
  | .hostRead => (Stage.host, Flag.hostRead)
  | .hostWrite => (Stage.host, Flag.hostWrite)
  | .vertexBuffer => (Stage.vertexAttributeInput, Flag.vertexAttributeRead)
  | .indexBuffer => (Stage.indexInput, Flag.indexRead)
  | .indirectBuffer => (Stage.drawIndirect, Flag.indirectCommandRead)
  | .uniformRead => (Stage.shaders, Flag.uniformRead)
  | .shaderRead => (Stage.shaders, Flag.shaderStorageRead)
  | .shaderWrite => (Stage.shaders, Flag.shaderStorageWrite)
  | .shaderReadWrite => (Stage.shaders, Flag.shaderStorageRead ||| Flag.shaderStorageWrite)
  | .shaderSample => (Stage.shaders, Flag.shaderSampledRead)
  | .inputAttachment => (Stage.fragmentShader, Flag.inputAttachmentRead)
  | .colorAttachment =>
    (Stage.colorAttachmentOutput, Flag.colorAttachmentRead ||| Flag.colorAttachmentWrite)
  | .depthStencilAttachment =>
    (Stage.earlyFragmentTests ||| Stage.lateFragmentTests,
      Flag.depthStencilAttachmentRead ||| Flag.depthStencilAttachmentWrite)
  | .depthStencilRead =>
    (Stage.earlyFragmentTests ||| Stage.lateFragmentTests ||| Stage.fragmentShader,
      Flag.depthStencilAttachmentRead ||| Flag.shaderSampledRead)
  | .present => (Stage.allCommands, 0)
  | .asBuild =>
    (Stage.accelerationStructureBuild,
      Flag.accelerationStructureRead ||| Flag.accelerationStructureWrite)
  | .asRead => (Stage.shaders ||| Stage.rayTracingShader, Flag.accelerationStructureRead)

/-- What a usage is in Vulkan. -/
def Usage.access (usage : Usage) : Vulkan.Access :=
  ⟨usage.stagesAndFlags.1, usage.stagesAndFlags.2, usage.layout⟩

end GpuSync
