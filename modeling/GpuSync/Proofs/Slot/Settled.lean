import GpuSync.Proofs.Slot.Closure
import Mathlib.Data.List.Basic
import Mathlib.Tactic.Common

/-!
# Pools and their journals

A pool is settled if it is as its journal says (`Slot.Settled`): the same slots are taken, each slot
has the value that was last made for it, as last changed, the same values were dropped in the same
order, and every value made is dropped or held by a slot, once. Each event keeps this, one lemma an
event; which calls bring which events about is the matter of the next files.
-/

namespace GpuSync.Slot

/-- A pool is as its journal says. It compares the pool with the account of its journal: slots,
values, drops and their causes. -/
structure Settled {shape : Shape} {β : Type} (run : Run shape β) : Prop where
  /-- The pool has the chunks of its shape. -/
  whole : run.pool.Whole
  /-- Only slots of the pool have values. -/
  bounded : ∀ i token, run.pool.values.find? i = some token → i < shape.capacity
  /-- The slots taken are those that the journal says are. -/
  taken : ∀ i, run.pool.isAssigned i = run.account.taken i
  /-- Every slot has the value last made for it, as last changed. -/
  held : ∀ i, run.pool.values.find? i = run.account.held i
  /-- The values dropped are those that the journal says are. -/
  drops : run.dropped = run.account.dropped.map (·.token)
  /-- Every value made was dropped or is held by a slot, and only once. -/
  conserved : ((run.dropped ++ run.pool.values.values).map (·.mark)).Perm
    (List.range run.account.made)
  /-- An assignment that goes on with a value drops none. -/
  spared : ∀ drop ∈ run.account.dropped, ∀ seed, drop.cause ≠ .replaced (.again seed)

variable {shape : Shape} {β : Type} {run : Run shape β}

/-- A new pool is as an empty journal says. -/
theorem settled_empty : Settled ({} : Run shape β) where
  whole := Pool.whole_empty
  bounded := by simp [Pool.empty]
  taken := Pool.isAssigned_empty
  held := by simp [Pool.empty, Run.account, account]
  drops := rfl
  conserved := .refl _
  spared := by simp [Run.account, account]

namespace Settled

/-- A slot has a place in the map of values. -/
theorem lt_span {i : Nat} (hi : i < shape.capacity) : i < span (shape.bits + 6) :=
  Nat.lt_of_lt_of_le hi shape.capacity_le_span

/-! ## One slot

Each of these is one event of the journal. The clause that takes some work is that values are
conserved: as a list up to order, what was dropped and what is in the slots are the values made so
far. -/

/-- An event that only changes which slots are taken. -/
theorem marks (h : Settled run) {pool : Pool shape (Token β)} {event : Event β}
    {taken : Nat → Bool}
    (enters : run.account.enter shape.capacity event = { run.account with taken })
    (whole : pool.Whole) (values : pool.values = run.pool.values)
    (assigned : ∀ i, pool.isAssigned i = taken i) :
    Settled { run with pool, journal := run.journal ++ [event] } := by
  refine {
    whole
    bounded := ?bounded
    taken := ?taken
    held := ?held
    drops := ?drops
    conserved := ?conserved
    spared := ?spared }
  case bounded =>
    rw [values]
    exact h.bounded
  case taken =>
    rw [Run.account_append, enters]
    exact assigned
  case held =>
    rw [Run.account_append, enters, values]
    exact h.held
  case drops =>
    rw [Run.account_append, enters]
    exact h.drops
  case conserved =>
    rw [Run.account_append, enters, values]
    exact h.conserved
  case spared =>
    rw [Run.account_append, enters]
    exact h.spared

/-- Taking a slot. -/
theorem claim (h : Settled run) {i : Nat} (hi : i < shape.capacity) : Settled (run.claim i) := by
  refine h.marks rfl (h.whole.take i) rfl fun j => ?_
  rw [Pool.isAssigned_take h.whole j hi, h.taken j]

/-- Making a value for a slot: the value it had is dropped. It is the only event by which a value
comes into the pool. -/
theorem make (h : Settled run) {i : Nat} (hi : i < shape.capacity) {way : Way}
    (spares : ∀ seed, way = .again seed → run.pool.values.find? i = none) (content : β) :
    Settled ⟨run.pool.store i ⟨run.account.made, content⟩, run.journal ++ [.made way i content],
      run.dropped ++ (run.pool.values.find? i).toList⟩ := by
  have write (j : Nat) := run.pool.values.find?_insert j
    (⟨run.account.made, content⟩ : Token β) (lt_span hi)
  refine {
    whole := h.whole
    bounded := fun j token found => ?bounded
    taken := fun j => ?taken
    held := fun j => ?held
    drops := ?drops
    conserved := ?conserved
    spared := ?spared }
  case bounded =>
    rw [Pool.store, write] at found
    split at found
    · rename_i same
      exact same ▸ hi
    · exact h.bounded j token found
  case taken =>
    rw [Run.account_append]
    exact h.taken j
  case held =>
    rw [Run.account_append, Pool.store, write, h.held j]
    rfl
  case drops =>
    rw [Run.account_append, h.held i, h.drops]
    simp [Account.enter, Function.comp_def]
  -- One token more was made. It is in the pool now, and what was at its place is among the dropped
  -- ones.
  case conserved =>
    have values := (run.pool.values.values_insert
      (⟨run.account.made, content⟩ : Token β) (lt_span hi)).map (·.mark)
    have before := h.conserved
    rw [List.map_append] at values before
    rw [Run.account_append, List.append_assoc, List.map_append, List.map_append]
    show (run.dropped.map _ ++ (_ ++ _)).Perm (List.range (run.account.made + 1))
    refine (values.append_left _).trans ?_
    rw [List.map_cons, List.range_succ]
    exact List.perm_middle.trans ((before.cons _).trans (List.perm_append_singleton _ _).symm)
  case spared =>
    rw [Run.account_append]
    intro drop mem seed
    rcases List.mem_append.1 mem with mem | mem
    · exact h.spared drop mem seed
    · obtain ⟨token, former, rfl⟩ := List.mem_map.1 mem
      intro again
      injection again with again
      rw [← h.held i, spares seed again] at former
      cases former

/-- Storing the value that a slot has changes nothing. -/
theorem store (h : Settled run) {i : Nat} {token : Token β}
    (found : run.pool.values.find? i = some token) :
    Settled { run with pool := run.pool.store i token } := by
  have hi := h.bounded i token found
  have same (j : Nat) : (run.pool.store i token).values.find? j = run.pool.values.find? j := by
    rw [Pool.store, run.pool.values.find?_insert j token (lt_span hi)]
    split
    · rename_i eq
      rw [eq, found]
    · rfl
  refine {
    whole := h.whole
    bounded := fun j other => ?bounded
    taken := h.taken
    held := fun j => ?held
    drops := h.drops
    conserved := ?conserved
    spared := h.spared }
  case bounded =>
    rw [same]
    exact h.bounded j other
  case held =>
    rw [same]
    exact h.held j
  case conserved =>
    have values := run.pool.values.values_insert token (lt_span hi)
    rw [found, Option.toList_some, List.singleton_append] at values
    refine List.Perm.trans ?_ h.conserved
    exact (values.cons_inv.append_left run.dropped).map _

/-- Changing the value of a slot in place. -/
theorem change (h : Settled run) {i : Nat} (assigned : run.pool.isAssigned i = true)
    (content : β) :
    Settled
      { run with
        pool := run.pool.modify i (·.setContent content)
        journal := run.journal ++ [.changed i content] } := by
  have values : (run.pool.modify i (·.setContent content)).values =
      run.pool.values.modify i (·.setContent content) := by
    unfold Pool.modify
    rw [if_pos assigned]
  refine {
    whole := h.whole.modify i _
    bounded := fun j token found => ?bounded
    taken := fun j => ?taken
    held := fun j => ?held
    drops := ?drops
    conserved := ?conserved
    spared := ?spared }
  case bounded =>
    rw [values, RadixMap.find?_modify] at found
    split at found
    · obtain ⟨old, was, -⟩ := Option.map_eq_some_iff.1 found
      rename_i same
      exact same ▸ h.bounded i old was
    · exact h.bounded j token found
  case taken =>
    rw [Run.account_append, Pool.isAssigned_modify]
    exact h.taken j
  case held =>
    rw [Run.account_append, values, RadixMap.find?_modify, h.held i, h.held j]
    rfl
  case drops =>
    rw [Run.account_append]
    exact h.drops
  -- A change keeps the mark of the token, so the marks in the pool are the same.
  case conserved =>
    rw [Run.account_append, values]
    refine List.Perm.trans ?_ h.conserved
    have marks : ((run.pool.values.modify i (·.setContent content)).values.map (·.mark)).Perm
        (run.pool.values.values.map (·.mark)) := run.pool.values.values_modify i fun _ => rfl
    rw [List.map_append, List.map_append]
    exact marks.append_left _
  case spared =>
    rw [Run.account_append]
    exact h.spared

/-- Giving a slot back. -/
theorem free (h : Settled run) (i : Nat) :
    Settled
      { run with pool := (run.pool.unassign i).2, journal := run.journal ++ [.freed i] } := by
  refine h.marks rfl (h.whole.unassign i) (Pool.values_unassign run.pool i) fun j => ?_
  rw [Pool.isAssigned_unassign h.whole, h.taken j]

/-! ## All slots

Events on all slots are events on one slot repeated, but for the release, which drops all values at
once and in the order of their slots. -/

/-- Giving all slots back. -/
theorem freeAll (h : Settled run) :
    Settled
      { run with
        pool := run.pool.freeAll
        journal := run.journal ++ [.freedAll] } :=
  h.marks rfl h.whole.freeAll rfl run.pool.isAssigned_freeAll

/-- Changing the values of several slots in place, in the order of the slots. -/
theorem visit (h : Settled run) {entries : List (Nat × Token β)}
    (ascending : entries.Pairwise fun a b => a.1 < b.1)
    (live : ∀ entry ∈ entries, run.pool.get? entry.1 = some entry.2) (f : Nat → β → β) :
    Settled
      { run with
        pool := { run.pool with
          values := entries.foldl (fun values entry =>
            values.insert entry.1 (entry.2.setContent (f entry.1 entry.2.content)))
            run.pool.values }
        journal := run.journal ++
          entries.map fun entry => .changed entry.1 (f entry.1 entry.2.content) } := by
  induction entries generalizing run with
  | nil => simpa using h
  | cons entry rest ih =>
    rw [List.pairwise_cons] at ascending
    rw [List.forall_mem_cons] at live
    obtain ⟨assigned, found⟩ := Pool.get?_eq_some_iff.1 live.1
    have changed : run.pool.modify entry.1 (·.setContent (f entry.1 entry.2.content)) =
        { run.pool with
          values := run.pool.values.insert entry.1
            (entry.2.setContent (f entry.1 entry.2.content)) } := by
      unfold Pool.modify RadixMap.modify
      rw [if_pos assigned, found]
    have later : ∀ other ∈ rest, (run.pool.modify entry.1
        (·.setContent (f entry.1 entry.2.content))).get? other.1 = some other.2 := by
      intro other mem
      rw [Pool.get?_modify, if_neg (Nat.ne_of_gt (ascending.1 other mem)), live.2 other mem]
    have settled := ih (h.change assigned (f entry.1 entry.2.content)) ascending.2 later
    rw [changed, List.append_assoc] at settled
    exact settled

/-- The values in the order of their slots. -/
theorem values_eq (h : Settled run) :
    run.pool.values.values = (List.range shape.capacity).filterMap run.pool.values.find? := by
  obtain ⟨rest, eq⟩ := Nat.exists_eq_add_of_le shape.capacity_le_span
  have none :
      ((List.range rest).map (shape.capacity + ·)).filterMap run.pool.values.find? = [] := by
    refine List.filterMap_eq_nil_iff.2 fun i mem => ?_
    obtain ⟨j, -, rfl⟩ := List.mem_map.1 mem
    by_contra found
    obtain ⟨token, found⟩ := Option.ne_none_iff_exists'.1 found
    have := h.bounded _ token found
    omega
  rw [run.pool.values.values_eq_filterMap, eq, List.range_add, List.filterMap_append, none,
    List.append_nil]

/-- Releasing the pool: all values are dropped. The values are dropped in the order of their slots,
and what was dropped before stays in front. -/
theorem release (h : Settled run) : Settled (run.next .release) := by
  refine {
    whole := Pool.whole_empty
    bounded := ?bounded
    taken := fun i => ?taken
    held := fun i => ?held
    drops := ?drops
    conserved := ?conserved
    spared := ?spared }
  case bounded => simp [Run.next, Pool.release, Pool.empty]
  case taken =>
    rw [Run.next, Run.account_append]
    exact Pool.isAssigned_empty i
  case held =>
    rw [Run.next, Run.account_append]
    exact RadixMap.find?_empty i
  case drops =>
    have same : run.pool.values.find? = run.account.held := funext h.held
    rw [Run.next, Run.account_append, Pool.release, h.values_eq, same, h.drops]
    simp [Account.enter, Function.comp_def]
  case conserved =>
    rw [Run.next, Run.account_append]
    show ((run.dropped ++ run.pool.values.values ++ []).map _).Perm _
    rw [List.append_nil]
    exact h.conserved
  case spared =>
    rw [Run.next, Run.account_append]
    intro drop mem seed
    rcases List.mem_append.1 mem with mem | mem
    · exact h.spared drop mem seed
    · obtain ⟨token, -, rfl⟩ := List.mem_map.1 mem
      simp

end Settled

end GpuSync.Slot
