import GpuSync.Queue
import GpuSync.Resource.Key
import GpuSync.Resource.Usage

/-!
# Barriers

A barrier moves one resource, or all memory, from one usage to another. It may say that the
contents before it are not needed, and it may hand the resource over from one queue to another.

## Main definitions

* `GpuSync.Barrier`, made by `GpuSync.Barrier.resource` and `GpuSync.Barrier.memory`.
* `GpuSync.Barrier.text` is its written form.
-/

namespace GpuSync

/-- A resource changing from one queue to another. -/
structure QueueTransfer where
  /-- The queue that gives the resource away. -/
  src : Queue
  /-- The queue that gets it. -/
  dst : Queue
  deriving DecidableEq, Repr

/-- A change of usage. -/
structure Barrier where
  /-- The resource, or nothing for all memory. -/
  key : Option Key
  /-- The usage before. -/
  src : Usage
  /-- The usage after. -/
  dst : Usage
  /-- Whether the contents before may be discarded. -/
  discard : Bool := false
  /-- The change of queue, if there is one. -/
  transfer : Option QueueTransfer := none
  deriving DecidableEq, Repr

namespace Barrier

/-- A barrier on one resource. -/
def resource (key : Key) (src dst : Usage) : Barrier := { key := some key, src, dst }

/-- A barrier on all memory. -/
def memory (src dst : Usage) : Barrier := { key := none, src, dst }

/-- The same barrier, with the contents before it given up or not. -/
def withDiscard (barrier : Barrier) (discard : Bool) : Barrier := { barrier with discard }

/-- The same barrier, handing the resource over from one queue to another. -/
def withTransfer (barrier : Barrier) (src dst : Queue) : Barrier :=
  { barrier with transfer := some ⟨src, dst⟩ }

/-- What the barrier is on, and from which usage to which; then what else it does. -/
def text (barrier : Barrier) : String :=
  let subject := match barrier.key with
    | none => "Memory"
    | some key => key.text
  let discard := if barrier.discard then " (discard)" else ""
  let transfer := match barrier.transfer with
    | none => ""
    | some transfer => s!" [{transfer.src.name} -> {transfer.dst.name}]"
  s!"{subject}: {barrier.src.name} -> {barrier.dst.name}" ++ discard ++ transfer

end Barrier

end GpuSync
