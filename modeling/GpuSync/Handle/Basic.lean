import GpuSync.Text.Record

/-!
# Handles

A handle is an index with a generation, packed into one word of 32 bits. The index has the lower
twenty bits and the generation the upper twelve. The generation tells apart the resources that
used one index after another.

## Main definitions

* `GpuSync.Handle` with `index` and `generation`.
* `GpuSync.Handle.ofParts?` refuses an index that does not fit; a generation wraps around.
* Handles are ordered as words, that is, by generation and then by index.
-/

namespace GpuSync

/-- An index with a generation, in one word. -/
structure Handle where
  /-- The generation times `2 ^ 20` plus the index. -/
  word : UInt32
  deriving DecidableEq, Repr

namespace Handle

/-- How many indices there are. -/
def indexCount : UInt32 := 1048576

/-- How many generations an index has before they repeat. -/
def generationCount : UInt32 := 4096

/-- Packs an index and a generation, each reduced to its bits. -/
def pack (index generation : UInt32) : Handle :=
  ⟨generation % generationCount * indexCount + index % indexCount⟩

/-- Packs an index that fits and a generation, which is reduced to its bits. -/
def ofParts? (index generation : UInt32) : Option Handle :=
  if index < indexCount then some (pack index generation) else none

/-- The lower twenty bits. -/
def index (handle : Handle) : UInt32 := handle.word % indexCount

/-- The upper twelve bits. -/
def generation (handle : Handle) : UInt32 := handle.word / indexCount

/-- Handles are ordered as words. -/
instance : LE Handle where
  le a b := a.word ≤ b.word

/-- The order of handles is decided on their words. -/
instance (a b : Handle) : Decidable (a ≤ b) :=
  inferInstanceAs (Decidable (a.word ≤ b.word))

/-- Index and generation, as in `3v1`. -/
def text (handle : Handle) : String :=
  s!"{handle.index}v{handle.generation}"

/-- The handle in words. -/
def describe (handle : Handle) : String :=
  Text.record "RawId"
    [("index", toString handle.index), ("generation", toString handle.generation)]

end Handle

end GpuSync
