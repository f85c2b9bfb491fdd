import GpuSync.Proofs.Tracker.WellFormed
import Mathlib.Tactic.Common

/-!
# Changing several entries

Changes of the entries of different keys do not depend on their order: a tracker comes out the same,
down to its slots (`Tracker.modify_comm`, `Tracker.modifyAll_perm`). What becomes of a key is what
its own change makes of it (`Tracker.lookup_modifyAll_of_mem`,
`Tracker.lookup_modifyAll_of_notMem`).
-/

namespace GpuSync.Tracker

/-- Changes to be made of entries, each with its key. -/
abbrev Changes : Type := List (Key × (Entry → Entry))

/-- Changes entries in order. -/
def modifyAll (tracker : Tracker) (changes : Changes) : Tracker :=
  changes.foldl (fun tracker change => tracker.modify change.1 change.2) tracker

variable {tracker : Tracker}

/-- The first change is made first. -/
theorem modifyAll_cons (tracker : Tracker) (change : Key × (Entry → Entry)) (changes : Changes) :
    tracker.modifyAll (change :: changes) = (tracker.modify change.1 change.2).modifyAll changes :=
  rfl

/-- Changes in two parts are made one after the other. -/
theorem modifyAll_append (tracker : Tracker) (first second : Changes) :
    tracker.modifyAll (first ++ second) = (tracker.modifyAll first).modifyAll second :=
  List.foldl_append

/-- A key that is not found has nothing to change. -/
theorem modify_of_lookup_none {key : Key} (none : tracker.lookup key = none) (f : Entry → Entry) :
    tracker.modify key f = tracker := by
  rw [lookup_eq_bind] at none
  unfold modify
  cases at' : tracker.slot? key with
  | none => rfl
  | some slot =>
    rw [at', Option.bind_some] at none
    dsimp only
    rw [Slot.Pool.modify_of_get?_none none]

/-- Changes of different keys may be made in either order. -/
theorem modify_comm (h : tracker.WellFormed) {a b : Key} (apart : a ≠ b) (f g : Entry → Entry) :
    (tracker.modify a f).modify b g = (tracker.modify b g).modify a f := by
  rw [modify, slot?_modify, modify.eq_1 (tracker.modify b g), slot?_modify]
  unfold modify
  cases first : tracker.slot? a with
  | none => cases tracker.slot? b <;> rfl
  | some i =>
    cases second : tracker.slot? b with
    | none => rfl
    | some j =>
      have slots : i ≠ j := by
        rintro rfl
        exact apart (h.distinct a b i first second)
      dsimp only
      rw [Slot.Pool.modify_comm _ slots]

/-- To change entries leaves a tracker well formed. -/
theorem WellFormed.modifyAll (h : tracker.WellFormed) (changes : Changes) :
    (tracker.modifyAll changes).WellFormed := by
  induction changes generalizing tracker with
  | nil => exact h
  | cons change rest ih => exact ih (h.modify change.1 change.2)

/-- To change entries moves no key to another slot. -/
theorem slot?_modifyAll (tracker : Tracker) (changes : Changes) (key : Key) :
    (tracker.modifyAll changes).slot? key = tracker.slot? key := by
  induction changes generalizing tracker with
  | nil => rfl
  | cons change rest ih => rw [modifyAll_cons, ih, slot?_modify]

/-- Changes do not register or forget a key. -/
theorem isTracked_modifyAll (tracker : Tracker) (changes : Changes) (key : Key) :
    (tracker.modifyAll changes).isTracked key = tracker.isTracked key := by
  rw [isTracked, slot?_modifyAll, ← isTracked]

/-- A key without a change keeps its entry. -/
theorem lookup_modifyAll_of_notMem (h : tracker.WellFormed) {changes : Changes} {key : Key}
    (unchanged : key ∉ changes.map (·.1)) :
    (tracker.modifyAll changes).lookup key = tracker.lookup key := by
  induction changes generalizing tracker with
  | nil => rfl
  | cons change rest ih =>
    rw [List.map_cons, List.mem_cons, not_or] at unchanged
    rw [modifyAll_cons, ih (h.modify _ _) unchanged.2, lookup_modify h, if_neg unchanged.1]

/-- A key with a change has its entry changed by it. -/
theorem lookup_modifyAll_of_mem (h : tracker.WellFormed) {changes : Changes}
    (nodup : (changes.map (·.1)).Nodup) {key : Key} {f : Entry → Entry}
    (changed : (key, f) ∈ changes) :
    (tracker.modifyAll changes).lookup key = (tracker.lookup key).map f := by
  induction changes generalizing tracker with
  | nil => cases changed
  | cons change rest ih =>
    obtain ⟨once, nodup⟩ := List.nodup_cons.1 nodup
    rw [modifyAll_cons]
    rcases List.mem_cons.1 changed with rfl | changed
    · rw [lookup_modifyAll_of_notMem (h.modify _ _) once, lookup_modify h, if_pos rfl]
    · have apart : key ≠ change.1 := by
        rintro rfl
        exact once (List.mem_map.2 ⟨_, changed, rfl⟩)
      rw [ih (h.modify _ _) nodup changed, lookup_modify h, if_neg apart]

/-- **The order of changes does not matter**, if each is of another key. So what several batches
publish depends on the order only where they publish the same resource. -/
theorem modifyAll_perm {changes others : Changes} (same : changes.Perm others)
    (nodup : (changes.map (·.1)).Nodup) (h : tracker.WellFormed) :
    tracker.modifyAll changes = tracker.modifyAll others := by
  induction same generalizing tracker with
  | nil => rfl
  | cons change _ ih => exact ih (List.nodup_cons.1 nodup).2 (h.modify change.1 change.2)
  | swap first second rest =>
    have apart : second.1 ≠ first.1 := by
      intro eq
      rw [List.map_cons, List.map_cons, List.nodup_cons, eq] at nodup
      exact nodup.1 List.mem_cons_self
    rw [modifyAll_cons, modifyAll_cons, modifyAll_cons, modifyAll_cons, modify_comm h apart]
  | trans first _ ih ih' =>
    rw [ih nodup h]
    exact ih' ((first.map _).nodup_iff.1 nodup) h

end GpuSync.Tracker
