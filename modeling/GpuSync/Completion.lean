import GpuSync.Text.Quoted
import GpuSync.Text.Record

/-!
# Completion signals

A signal is raised once, when the device has finished a batch. Futures watch it: polling one
registers the poller's waker as long as the signal is down, and raising the signal wakes all of
them. A signal that is gone counts as raised.

## Main definitions

* `GpuSync.Completion` with `raise`.
* `GpuSync.Completion.isDone` and `GpuSync.Completion.poll` are what a future sees of a signal
  that may be gone.
-/

namespace GpuSync

/-- A signal with the wakers waiting for it. -/
structure Completion where
  /-- Whether the signal was raised. -/
  done : Bool := false
  /-- The wakers registered while it was down, the oldest first. -/
  waiting : List Nat := []
  deriving DecidableEq, Repr

namespace Completion

/-- Raises the signal. Yields the wakers to wake, or nothing if it was raised before. -/
def raise (signal : Completion) : Option (List Nat) × Completion :=
  if signal.done then (none, signal) else (some signal.waiting, { done := true, waiting := [] })

/-- Whether a future of the signal is done. -/
def isDone (signal : Option Completion) : Bool :=
  match signal with
  | none => true
  | some s => s.done

/-- Polls a future of the signal: true if it is done, otherwise the waker is registered. -/
def poll (signal : Option Completion) (waker : Nat) : Bool × Option Completion :=
  match signal with
  | none => (true, none)
  | some s =>
    if s.done then (true, some s)
    else (false, some { s with waiting := s.waiting ++ [waker] })

/-- The signal in words. -/
def describe (signal : Completion) : String :=
  Text.variant "BatchExecution" (Text.quote (if signal.done then "completed" else "pending"))

end Completion

end GpuSync
