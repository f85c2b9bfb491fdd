import GpuSync.Resource.Key

/-!
# One value for each kind of resource

## Main definitions

* `GpuSync.PerKind` with `get` and `set`.

## Main statements

* `GpuSync.PerKind.get_set`: setting the value of one kind leaves those of the others.
-/

namespace GpuSync

/-- One value for each kind. -/
structure PerKind (α : Type) where
  /-- The values, by the position of their kind. -/
  values : Vector α Kind.count

namespace PerKind

variable {α : Type}

/-- The same value for all kinds. -/
def replicate (value : α) : PerKind α := ⟨Vector.replicate Kind.count value⟩

/-- The value of a kind. -/
def get (table : PerKind α) (kind : Kind) : α := table.values[kind.index]

/-- Sets the value of a kind. -/
def set (table : PerKind α) (kind : Kind) (value : α) : PerKind α :=
  ⟨table.values.set kind.index value⟩

/-- The values in the order of the kinds. -/
def toList (table : PerKind α) : List α := table.values.toList

/-- Every kind has the value that was given for all. -/
@[simp] theorem get_replicate (value : α) (kind : Kind) : (replicate value).get kind = value := by
  simp [get, replicate]

/-- Reading after a write: the kind written has the new value, all others keep theirs. -/
theorem get_set (table : PerKind α) (a b : Kind) (value : α) :
    (table.set a value).get b = if b = a then value else table.get b := by
  by_cases h : b = a
  · simp [get, set, h]
  · have apart : (a.index : Nat) ≠ b.index := fun same =>
      h (Kind.index_injective (Fin.ext same)).symm
    simp [get, set, h, Vector.getElem_set_ne _ _ apart]

end PerKind

end GpuSync
