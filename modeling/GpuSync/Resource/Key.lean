import GpuSync.Handle.Basic

/-!
# Resource keys

Four kinds of resources are tracked. A key is a kind with a handle of that kind; two resources are
the same if both agree.

## Main definitions

* `GpuSync.Kind`, with its `index` and `name`.
* `GpuSync.Key`, with `text` and `describe`.
* `GpuSync.Key.rank` orders keys by kind, then index, then generation.

## Main statements

* `GpuSync.Key.eq_of_rank_eq`: the order tells any two keys apart.
-/

namespace GpuSync

/-- What a resource is. -/
inductive Kind where
  /-- An image, the only kind with a layout. -/
  | image
  /-- A buffer. -/
  | buffer
  /-- An acceleration structure over geometry. -/
  | rtGeometry
  /-- An acceleration structure over instances. -/
  | rtScene
  deriving DecidableEq, Repr

namespace Kind

/-- All kinds, in order. -/
def all : List Kind := [.image, .buffer, .rtGeometry, .rtScene]

/-- How many kinds there are. -/
abbrev count : Nat := 4

/-- The position of a kind. -/
def index : Kind → Fin count
  | .image => 0
  | .buffer => 1
  | .rtGeometry => 2
  | .rtScene => 3

/-- The word a kind is written with. -/
def name : Kind → String
  | .image => "Image"
  | .buffer => "Buffer"
  | .rtGeometry => "RtGeometry"
  | .rtScene => "RtScene"

/-- The kind at a position. -/
def ofIndex? (i : Nat) : Option Kind := all[i]?

/-- The kind written with a word. -/
def ofName? (word : String) : Option Kind := all.find? (·.name == word)

/-- A handle together with its kind, as in `ImageId(3v1)`. -/
def typedHandle (kind : Kind) (handle : Handle) : String :=
  Text.variant (kind.name ++ "Id") handle.text

/-- Two kinds with one index are the same. -/
theorem index_injective {a b : Kind} (h : a.index = b.index) : a = b := by
  revert h
  cases a <;> cases b <;> decide

end Kind

/-- A resource of some kind. -/
structure Key where
  /-- What the resource is. -/
  kind : Kind
  /-- Its handle among the resources of that kind. -/
  handle : Handle
  deriving DecidableEq, Repr

namespace Key

/-- Whether the resource is an image. -/
def isImage (key : Key) : Bool := key.kind == .image

/-- The position of a key in the order by kind, then index, then generation. -/
def rank (key : Key) : Nat :=
  (key.kind.index * 1048576 + key.handle.index.toNat) * 4096 + key.handle.generation.toNat

/-- Kind and handle, as in `Image(3v1)`. -/
def text (key : Key) : String := Text.variant key.kind.name key.handle.text

/-- The key in words, as in `Image(ImageId(3v1))`. -/
def describe (key : Key) : String :=
  Text.variant key.kind.name (key.kind.typedHandle key.handle)

/-- Keys with the same rank are the same. -/
theorem eq_of_rank_eq {a b : Key} (h : a.rank = b.rank) : a = b := by
  obtain ⟨ak, ⟨aw⟩⟩ := a
  obtain ⟨bk, ⟨bw⟩⟩ := b
  have parts : ∀ w : UInt32,
      (w % 1048576).toNat = w.toNat % 1048576 ∧ (w / 1048576).toNat = w.toNat / 1048576 :=
    fun w => ⟨by simp [UInt32.toNat_mod], by simp [UInt32.toNat_div]⟩
  have aBound := aw.toNat_lt
  have bBound := bw.toNat_lt
  simp only [rank, Handle.index, Handle.generation, Handle.indexCount, parts] at h
  obtain rfl : ak = bk := Kind.index_injective (Fin.ext (by omega))
  obtain rfl : aw = bw := UInt32.toNat.inj (by omega)
  rfl

end Key

end GpuSync
