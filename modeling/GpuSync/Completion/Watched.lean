import GpuSync.Completion

/-!
# Watched signals

A signal together with all futures that watch it. The signal may be given up; then its futures
are done.

## Main definitions

* `GpuSync.Completion.Watched` with `raise?`, `giveUp`, `watch`, `isDone?` and `poll?`. An
  operation on a signal that was given up, or on a future that does not exist, has no result.
-/

namespace GpuSync.Completion

/-- A signal, the futures that watch it, and the wakes so far. -/
structure Watched where
  /-- The signal, unless it was given up. -/
  signal : Option Completion := some {}
  /-- The futures, each with whether it watches the signal; one that does not is done. -/
  futures : List Bool := []
  /-- The wakers woken so far, in order. -/
  woken : List Nat := []
  deriving DecidableEq, Repr

namespace Watched

/-- How many wakers were woken. -/
def wakes (watched : Watched) : Nat := watched.woken.length

/-- Raises the signal. Tells whether that was the first time. -/
def raise? (watched : Watched) : Option (Bool × Watched) := do
  let (woken, signal) := (← watched.signal).raise
  return (woken.isSome,
    { watched with signal := some signal, woken := watched.woken ++ woken.getD [] })

/-- Gives the signal up. Tells whether it was there. -/
def giveUp (watched : Watched) : Bool × Watched :=
  (watched.signal.isSome, { watched with signal := none })

/-- Adds a future, and yields its index. -/
def addFuture (watched : Watched) (watches : Bool) : Nat × Watched :=
  (watched.futures.length, { watched with futures := watched.futures ++ [watches] })

/-- Adds a future of the signal, and yields its index. -/
def watch (watched : Watched) : Nat × Watched := watched.addFuture watched.signal.isSome

/-- What a future watches. -/
def source? (watched : Watched) (i : Nat) : Option (Option Completion) :=
  watched.futures[i]?.map fun watches => if watches then watched.signal else none

/-- Whether a future is done. -/
def isDone? (watched : Watched) (i : Nat) : Option Bool := (watched.source? i).map isDone

/-- Polls a future: true if it is done, otherwise the waker is registered. -/
def poll? (watched : Watched) (i waker : Nat) : Option (Bool × Watched) := do
  let (ready, polled) := poll (← watched.source? i) waker
  return (ready, if ready then watched else { watched with signal := polled })

end Watched

end GpuSync.Completion
