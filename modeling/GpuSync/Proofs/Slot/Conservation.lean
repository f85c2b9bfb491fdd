import GpuSync.Proofs.Slot.Nesting
import Mathlib.Tactic.Common

/-!
# Values are neither leaked, dropped twice nor mixed up

Whatever calls are made on a pool, with closures that assign further slots or give up, every value
made is dropped once, and until then is held by the one slot it was made for.

* `Settled.next` and `Settled.within`: the pool is as its journal says after every call, and while
  closures run.
* `Slot.Obeys` is what one call does, and `Settled.obeys` shows it.
* **`Slot.run_conserves`** puts this together for all calls in order.
-/

namespace GpuSync.Slot

variable {shape : Shape} {β : Type} {run : Run shape β}

/-- An assignment made by a call is sound. -/
theorem Settled.assigns (h : Settled run) {way : Way} {maker : Nat → Closure β false}
    {reuse : β → Nat → Closure β true} {assigned : Assigned shape β}
    (ok : run.assign way maker reuse = .ok assigned) : Assigns way run assigned :=
  Run.assignBy_spec h (fun i _ => (maker i).leaves) (fun content i _ => (reuse content i).leaves) ok

/-- Calls keep the pool as its journal says. The assignments are those of the module before, with
any closures. -/
theorem Settled.next (h : Settled run) (call : Call β) : Settled (run.next call) := by
  -- An assignment is settled by what its closures leave. The other calls have a step of their own.
  cases call with
  | assign way maker reuse =>
    rw [Run.next]
    cases result : run.assign way maker reuse with
    | error error => exact h
    | ok assigned => exact (h.assigns result).settled
  | unassign i =>
    by_cases assigned : run.pool.isAssigned i = true
    · have gives : (run.pool.unassign i).1 = true := by simp [Pool.unassign, assigned]
      rw [Run.next, if_pos gives]
      exact h.free i
    · simpa [Run.next, Pool.unassign, assigned] using h
  | modify i change =>
    cases found : run.pool.get? i with
    | none =>
      rw [Run.next, found, Pool.modify_of_get?_none found]
      exact h
    | some token =>
      obtain ⟨assigned, held⟩ := Pool.get?_eq_some_iff.1 found
      have changed := h.change assigned (change token.content)
      have same : run.pool.modify i (fun token => token.setContent (change token.content)) =
          run.pool.modify i (·.setContent (change token.content)) := by
        unfold Pool.modify RadixMap.modify
        rw [held]
      rw [Run.next, found, same]
      exact changed
  | unassignAll visit =>
    exact (h.visit run.pool.ascending_live (fun _ mem => Pool.mem_live_iff.1 mem) visit).freeAll
  | release => exact h.release

/-- While the closures of a call run, the pool is as its journal says. -/
theorem Settled.within (h : Settled run) (call : Call β) :
    ∀ point ∈ run.within call, Settled point := by
  intro point mem
  cases call with
  | assign way maker reuse =>
    rw [Run.within] at mem
    cases result : run.assign way maker reuse with
    | error error =>
      rw [result] at mem
      cases mem
    | ok assigned =>
      rw [result] at mem
      exact (h.assigns result).points point mem
  | unassign i => cases mem
  | modify i change => cases mem
  | unassignAll visit => cases mem
  | release => cases mem

/-- The pool is as its journal says after any calls. -/
theorem settled_run (calls : List (Call β)) : Settled (Slot.run calls : Run shape β) := by
  have all (calls : List (Call β)) {run : Run shape β} (h : Settled run) :
      Settled (calls.foldl Run.next run) := by
    induction calls generalizing run with
    | nil => exact h
    | cons call rest ih => exact ih (h.next call)
  exact all calls settled_empty

/-- Reading a slot gives the value last made for it, as last changed, if the slot is taken. -/
theorem Settled.get?_eq (h : Settled run) (i : Nat) :
    run.pool.get? i = if run.account.taken i then run.account.held i else none := by
  unfold Pool.get?
  rw [h.taken i, h.held i]

/-! ## Single calls

What a call drops and what it changes is said against the account before it. There is one clause for
each entry point. -/

/-- What a call does to a pool. Each call may drop some values, in an order that is told, and leaves
all others where they are. -/
def Run.Obeys (run : Run shape β) (call : Call β) : Prop :=
  let after := run.next call
  match call with
  | .assign way maker reuse => ∀ assigned, run.assign way maker reuse = .ok assigned →
    after = assigned.after ∧ Assigns way run assigned
  | .unassign i =>
    -- the slot is free, and all values stay
    after.dropped = run.dropped ∧
    (∀ j, after.pool.isAssigned j = if j = i then false else run.pool.isAssigned j) ∧
    ∀ j, after.pool.values.find? j = run.pool.values.find? j
  | .modify i change =>
    -- the value of a slot that is taken is changed in place
    after.dropped = run.dropped ∧
    (∀ j, after.pool.isAssigned j = run.pool.isAssigned j) ∧
    ∀ j, after.pool.values.find? j =
      if j = i ∧ run.pool.isAssigned i = true then
        (run.pool.values.find? i).map fun token => token.setContent (change token.content)
      else run.pool.values.find? j
  | .unassignAll visit =>
    -- what can be read is visited, each slot once; then all slots are free, and all values stay
    after.dropped = run.dropped ∧
    (∀ i token, (i, token) ∈ run.pool.live ↔ run.pool.get? i = some token) ∧
    (run.pool.live.Pairwise fun a b => a.1 < b.1) ∧
    (∀ i, after.pool.isAssigned i = false) ∧
    ∀ i, after.pool.values.find? i =
      if run.pool.isAssigned i then
        (run.pool.values.find? i).map fun token => token.setContent (visit i token.content)
      else run.pool.values.find? i
  | .release =>
    -- all values ever made were dropped by now, each once
    (after.dropped.map (·.mark)).Perm (List.range run.account.made) ∧
    after.dropped = run.dropped ++ run.pool.values.values ∧
    (∀ i, after.pool.isAssigned i = false) ∧
    ∀ i, after.pool.values.find? i = none

/-- From a pool that is as its journal says, every call does what is promised of it, by cases on the
call. -/
theorem Settled.obeys (h : Settled run) (call : Call β) : run.Obeys call := by
  cases call with
  | assign way maker reuse =>
    intro assigned ok
    refine ⟨?_, h.assigns ok⟩
    rw [Run.next, ok]
  | unassign i =>
    refine ⟨rfl, Pool.isAssigned_unassign h.whole i, fun j => ?_⟩
    exact congrArg (·.find? j) (Pool.values_unassign run.pool i)
  | modify i change =>
    exact ⟨rfl, fun j => Pool.isAssigned_modify run.pool i j _,
      fun j => Pool.find?_modify run.pool i j _⟩
  | unassignAll visit =>
    exact ⟨rfl, fun i token => Pool.mem_live_iff, run.pool.ascending_live,
      run.pool.isAssigned_freeAll, fun i => run.pool.find?_unassignAll _ i⟩
  | release =>
    exact ⟨h.conserved, rfl, Pool.isAssigned_empty, RadixMap.find?_empty⟩

/-! ## All calls

The invariant is kept at every point, so what holds after a run holds in the middle of a call, too,
and also when a closure gives up there. -/

/-- **Whatever calls were made on a pool, and whichever is made next, values are neither leaked,
dropped twice nor mixed up.** -/
theorem run_conserves (calls : List (Call β)) (call : Call β) :
    (∀ point ∈ (Slot.run calls : Run shape β) :: (Slot.run calls).within call,
      Settled point ∧ ∀ i, point.pool.get? i =
        if point.account.taken i then point.account.held i else none) ∧
    (Slot.run calls : Run shape β).Obeys call := by
  have settled : Settled (Slot.run calls : Run shape β) := settled_run calls
  refine ⟨fun point mem => ?_, settled.obeys call⟩
  have here : Settled point := by
    rcases List.mem_cons.1 mem with rfl | mem
    · exact settled
    · exact settled.within call point mem
  exact ⟨here, here.get?_eq⟩

-- A slot is given back, taken again, and its maker assigns another slot before it gives up.
example :
    (Slot.run
      [.assign (.there 0) (fun _ => .make 7) (fun _ _ => .leave),
        .unassign 0,
        .assign (.there 0)
          (fun _ => .assign (.anew 0) (fun _ => .make 8) (fun _ _ => .leave) fun _ => .giveUp)
          (fun _ _ => .leave),
        .release] : Run .single Nat).dropped.map (·.content) = [7, 8] := by
  decide

end GpuSync.Slot
