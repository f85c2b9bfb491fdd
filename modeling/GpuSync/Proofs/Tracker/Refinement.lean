import GpuSync.Proofs.Batch.KeyTable
import GpuSync.Proofs.Tracker.WellFormed
import Mathlib.Tactic.Common

/-!
# The tracker is a finite map

Seen from outside, a tracker is one table from keys to entries with room for so many of them
(`Tracker.limit`): the indices by kind and the slots that keys of all kinds hand on to one another
do not show.

* `Tracker.Call` is a call on a tracker, a question or a change; `Tracker.perform` carries it out.
* `Tracker.specify` says what the call does to the table.
* `Represents tracker table` ties the two together; every call keeps it (`Represents.perform`).
* `Tracker.refines_table` is the result for all runs.
-/

namespace GpuSync.Tracker

/-- How many keys may be registered. -/
def limit : Nat := 65536

/-- A call on a tracker, with its arguments. Calls that register a key have a seed, with which the
search for a slot starts. -/
inductive Call where
  /-- Registers a key, or overwrites its entry. -/
  | add (seed : Nat) (key : Key) (current resting : Usage) (owner : Option BatchUse)
  /-- Registers a key at rest, unless it is registered. -/
  | addIfUntracked (seed : Nat) (key : Key) (resting : Usage)
  /-- Forgets a key. -/
  | remove (key : Key)
  /-- Sets the usage a key rests in. -/
  | setResting (key : Key) (usage : Usage)
  /-- Sets whether a key belongs to one queue at a time. -/
  | setExclusive (key : Key) (exclusive : Bool)
  /-- Leaves a key in the usage of a batch. -/
  | update (key : Key) (usage : Option Usage) (user : BatchUse)
  /-- Asks whether a key is registered. -/
  | isTracked (key : Key)
  /-- Asks for the usage a key was left in. -/
  | usage (key : Key)
  /-- Asks for the entry of a key. -/
  | lookup (key : Key)
  /-- Asks for the usage a key rests in, and whether its contents are undefined. -/
  | restingUsage (key : Key)
  /-- Asks how many keys are registered. -/
  | size
  /-- Asks whether no key is registered. -/
  | isEmpty

/-- The key that a call may change. -/
def Call.changes? : Call → Option Key
  | .add _ key _ _ _ | .addIfUntracked _ key _ | .remove key | .setResting key _
  | .setExclusive key _ | .update key _ _ => some key
  | _ => none

/-- The key that a call registers. -/
def Call.registers? : Call → Option Key
  | .add _ key _ _ _ | .addIfUntracked _ key _ => some key
  | _ => none

/-- What a call answers. -/
inductive Reply where
  /-- Yes or no. -/
  | flag (holds : Bool)
  /-- The entry of a key, if it is registered. -/
  | entry (entry : Option Entry)
  /-- The usage of a key, if it is registered. -/
  | usage (usage : Option Usage)
  /-- The usage a key rests in, and whether its contents are undefined. -/
  | rest (usage : Usage) (isUndefined : Bool)
  /-- How many keys there are. -/
  | count (keys : Nat)
  deriving DecidableEq

/-- The answer to a registration, with the tracker afterwards; one that fails changes nothing. -/
def registered (tracker : Tracker) :
    Except Slot.PoolError (Bool × Tracker) → Except Slot.PoolError Reply × Tracker
  | .ok (isNew, after) => (.ok (.flag isNew), after)
  | .error error => (.error error, tracker)

/-- Carries a call out. -/
def perform (tracker : Tracker) : Call → Except Slot.PoolError Reply × Tracker
  | .add seed key current resting owner =>
    tracker.registered (tracker.add seed key (.fresh current resting owner)).1
  | .addIfUntracked seed key resting => tracker.registered (tracker.addIfUntracked seed key resting)
  | .remove key => (.ok (.entry (tracker.remove key).1), (tracker.remove key).2)
  | .setResting key usage =>
    (.ok (.flag (tracker.setResting key usage).1), (tracker.setResting key usage).2)
  | .setExclusive key exclusive =>
    (.ok (.flag (tracker.setExclusive key exclusive).1), (tracker.setExclusive key exclusive).2)
  | .update key usage user =>
    (.ok (.entry (tracker.update key usage user).1), (tracker.update key usage user).2)
  | .isTracked key => (.ok (.flag (tracker.isTracked key)), tracker)
  | .usage key => (.ok (.usage ((tracker.lookup key).map (·.current))), tracker)
  | .lookup key => (.ok (.entry (tracker.lookup key)), tracker)
  | .restingUsage key =>
    (.ok (.rest (tracker.restingUsage key).1 (tracker.restingUsage key).2), tracker)
  | .size => (.ok (.count tracker.size), tracker)
  | .isEmpty => (.ok (.flag (tracker.size == 0)), tracker)

/-! ## The table that a tracker stands for

The table says what each call answers and does without slots or seeds. It is what the users of a
tracker go by. -/

/-- Registers a key that has no entry, if there is room. -/
def specifyNew (table : KeyTable Entry) (key : Key) (entry : Entry) :
    Except Slot.PoolError Reply × KeyTable Entry :=
  if table.size = limit then (.error (.full limit), table)
  else (.ok (.flag true), table.insert key entry)

/-- Changes the entry of a key, if it has one. -/
def specifyChange (table : KeyTable Entry) (key : Key) (f : Entry → Entry) : KeyTable Entry :=
  match table.find? key with
  | some entry => table.insert key (f entry)
  | none => table

/-- What a call answers and does, said of a table. A registration is refused if the table is full,
whatever the seed. Nothing else is refused. -/
def specify (table : KeyTable Entry) : Call → Except Slot.PoolError Reply × KeyTable Entry
  | .add _ key current resting owner =>
    if table.contains key then
      (.ok (.flag false), table.insert key (.fresh current resting owner))
    else specifyNew table key (.fresh current resting owner)
  | .addIfUntracked _ key resting =>
    if table.contains key then (.ok (.flag false), table)
    else specifyNew table key (.fresh resting resting none)
  | .remove key => (.ok (.entry (table.find? key)), table.erase key)
  | .setResting key usage =>
    (.ok (.flag (table.contains key)), specifyChange table key ({ · with resting := usage }))
  | .setExclusive key exclusive =>
    (.ok (.flag (table.contains key)), specifyChange table key ({ · with exclusive }))
  | .update key usage user =>
    (.ok (.entry (table.find? key)), specifyChange table key (·.leftBy usage user))
  | .isTracked key => (.ok (.flag (table.contains key)), table)
  | .usage key => (.ok (.usage ((table.find? key).map (·.current))), table)
  | .lookup key => (.ok (.entry (table.find? key)), table)
  | .restingUsage key =>
    match table.find? key with
    | some entry => (.ok (.rest entry.resting entry.isUndefined), table)
    | none => (.ok (.rest .general true), table)
  | .size => (.ok (.count table.size), table)
  | .isEmpty => (.ok (.flag (table.size == 0)), table)

/-- What calls in a row answer, and what they leave. -/
def runWith {σ : Type} (step : σ → Call → Except Slot.PoolError Reply × σ) (state : σ) :
    List Call → List (Except Slot.PoolError Reply) × σ
  | [] => ([], state)
  | call :: rest =>
    let after := runWith step (step state call).2 rest
    ((step state call).1 :: after.1, after.2)

/-- A tracker stands for a table. -/
structure Represents (tracker : Tracker) (table : KeyTable Entry) : Prop where
  /-- Its parts fit together. -/
  wellFormed : tracker.WellFormed
  /-- It finds what the table holds. -/
  lookup : ∀ key, tracker.lookup key = table.find? key
  /-- It has as many keys. -/
  size : tracker.size = table.size

/-- A new tracker stands for the empty table. -/
theorem represents_empty : Represents empty .empty where
  wellFormed := wellFormed_empty
  lookup := by
    intro key
    rw [lookup_eq_bind, KeyTable.find?_empty]
    simp [slot?, empty]
  size := by decide

/-! ## One call

Each operation is compared with that on the table. A seed decides only which slot a key gets, so the
comparison holds for every seed. -/

section

variable {tracker : Tracker} {table : KeyTable Entry}

/-- A key is tracked just if the table has it. -/
theorem Represents.isTracked (h : Represents tracker table) (key : Key) :
    tracker.isTracked key = table.contains key := by
  rw [← h.wellFormed.isSome_lookup key, h.lookup]
  rfl

/-- A table for which a tracker stands has no more keys than the pool has slots. -/
theorem Represents.size_le (h : Represents tracker table) : table.size ≤ limit := by
  have bound := Slot.Pool.assignedCount_le h.wellFormed.whole
  rw [h.wellFormed.counted, h.size] at bound
  exact bound

/-- Changing an entry changes the one of the table. -/
theorem Represents.modify (h : Represents tracker table) (key : Key) (f : Entry → Entry) :
    Represents (tracker.modify key f) (specifyChange table key f) := by
  refine ⟨h.wellFormed.modify key f, fun other => ?_, ?_⟩
  · rw [lookup_modify h.wellFormed, h.lookup, h.lookup]
    unfold specifyChange
    cases found : table.find? key with
    | none =>
      by_cases same : other = key
      · rw [if_pos same, same, found]
        rfl
      · rw [if_neg same]
    | some entry => exact (table.find?_insert key other (f entry)).symm
  · rw [size_modify, h.size]
    unfold specifyChange
    cases found : table.find? key with
    | none => rfl
    | some entry =>
      have sizes := table.size_insert key (f entry)
      rw [found, Option.isSome_some, if_pos rfl] at sizes
      dsimp only
      omega

/-- Overwriting an entry is changing it to the new one. -/
theorem specifyChange_const {key : Key} (known : table.contains key = true) (entry : Entry) :
    specifyChange table key (fun _ => entry) = table.insert key entry := by
  obtain ⟨old, found⟩ := Option.isSome_iff_exists.1 known
  unfold specifyChange
  rw [found]

/-- Registering a key that is not registered fails exactly if the table is full. Which slot is taken
depends on the seed, and the table does not say. -/
theorem Represents.register (h : Represents tracker table) (seed : Nat) {key : Key}
    (untracked : table.contains key = false) (entry : Entry) :
    let outcome :=
      tracker.registered ((tracker.register seed key entry).map fun after => (true, after))
    outcome.1 = (specifyNew table key entry).1 ∧
      Represents outcome.2 (specifyNew table key entry).2 := by
  intro outcome
  have noSlot : tracker.slot? key = none := by
    have none := h.isTracked key
    rw [untracked, Tracker.isTracked] at none
    simpa using none
  -- The pool counts a slot for each key, so the search for a free one fails exactly if the table is
  -- full, from whichever group it starts.
  have full := Slot.Pool.firstFree?_eq_none_iff h.wellFormed.whole seed
  rw [h.wellFormed.counted, h.size] at full
  simp only [outcome, register_eq, specifyNew]
  cases search : tracker.entries.firstFree? seed with
  | none =>
    rw [if_pos (show table.size = limit from full.1 search)]
    exact ⟨rfl, h⟩
  | some slot =>
    have room : table.size ≠ limit := by
      intro eq
      rw [full.2 eq] at search
      cases search
    obtain ⟨bound, free⟩ := Slot.Pool.firstFree?_eq_some h.wellFormed.whole search
    rw [if_neg room]
    -- Which slot was found is of no account: any that is free leaves the tracker well formed.
    refine ⟨rfl, h.wellFormed.enter bound free noSlot entry, fun other => ?_, ?_⟩
    · show (tracker.enter key entry slot).lookup other = (table.insert key entry).find? other
      rw [lookup_enter h.wellFormed bound free key other entry, h.lookup]
      exact (table.find?_insert key other entry).symm
    · have sizes := table.size_insert key entry
      rw [show (table.find? key).isSome = false from untracked] at sizes
      show (tracker.enter key entry slot).size = (table.insert key entry).size
      rw [size_enter noSlot entry slot, h.size]
      simpa using sizes.symm

/-- Forgetting a key removes it from the table. -/
theorem Represents.remove (h : Represents tracker table) (key : Key) :
    Represents (tracker.remove key).2 (table.erase key) := by
  refine ⟨h.wellFormed.remove key, fun other => ?_, ?_⟩
  · rw [lookup_remove h.wellFormed, h.lookup, table.find?_erase]
  · have sizes := table.size_erase key
    have known := h.isTracked key
    rw [Tracker.isTracked] at known
    -- The table loses an entry just if the key had a slot.
    cases at' : tracker.slot? key with
    | none =>
      rw [at', Option.isSome_none] at known
      rw [show (table.find? key).isSome = false from known.symm] at sizes
      rw [remove_of_untracked at', h.size]
      simpa using sizes.symm
    | some slot =>
      rw [at', Option.isSome_some] at known
      rw [show (table.find? key).isSome = true from known.symm, if_pos rfl] at sizes
      have := size_remove at'
      have := h.size
      omega

/-- **One call.** The tracker answers what is true of the table, and stands for the table
afterwards. -/
theorem Represents.perform (h : Represents tracker table) (call : Call) :
    (tracker.perform call).1 = (specify table call).1 ∧
      Represents (tracker.perform call).2 (specify table call).2 := by
  cases call with
  -- Registering is one of two things: an entry that is there is overwritten in its slot, and one
  -- that is not takes a slot.
  | add seed key current resting owner =>
    unfold Tracker.perform specify Tracker.add
    dsimp only
    rw [h.isTracked key]
    cases known : table.contains key with
    | true =>
      refine ⟨rfl, ?_⟩
      have changed := h.modify key fun _ => .fresh current resting owner
      rw [specifyChange_const known] at changed
      exact changed
    | false => exact h.register seed known _
  | addIfUntracked seed key resting =>
    unfold Tracker.perform specify Tracker.addIfUntracked
    dsimp only
    rw [h.isTracked key]
    cases known : table.contains key with
    | true => exact ⟨rfl, h⟩
    | false => exact h.register seed known _
  | remove key =>
    unfold Tracker.perform specify
    dsimp only
    rw [fst_remove, h.lookup]
    exact ⟨rfl, h.remove key⟩
  -- Three calls change the entry of a key, if there is one.
  | setResting key usage =>
    unfold Tracker.perform specify Tracker.setResting
    dsimp only
    rw [h.lookup]
    exact ⟨rfl, h.modify key _⟩
  | setExclusive key exclusive =>
    unfold Tracker.perform specify Tracker.setExclusive
    dsimp only
    rw [h.lookup]
    exact ⟨rfl, h.modify key _⟩
  | update key usage user =>
    unfold Tracker.perform specify Tracker.update
    dsimp only
    rw [h.lookup]
    exact ⟨rfl, h.modify key _⟩
  -- The others ask, and what they ask for is true of the table.
  | isTracked key =>
    unfold Tracker.perform specify
    dsimp only
    rw [h.isTracked]
    exact ⟨rfl, h⟩
  | usage key =>
    unfold Tracker.perform specify
    dsimp only
    rw [h.lookup]
    exact ⟨rfl, h⟩
  | lookup key =>
    unfold Tracker.perform specify
    dsimp only
    rw [h.lookup]
    exact ⟨rfl, h⟩
  | restingUsage key =>
    unfold Tracker.perform specify Tracker.restingUsage
    dsimp only
    rw [h.lookup]
    cases table.find? key with
    | none => exact ⟨rfl, h⟩
    | some entry => exact ⟨rfl, h⟩
  | size =>
    unfold Tracker.perform specify
    dsimp only
    rw [h.size]
    exact ⟨rfl, h⟩
  | isEmpty =>
    unfold Tracker.perform specify
    dsimp only
    rw [h.size]
    exact ⟨rfl, h⟩

end

/-! ## What the table says of a call

These are read off the table, and hold of the tracker because it stands for one. -/

/-- A call changes no other key. This holds of all calls, those included that are refused. -/
theorem find?_specify (table : KeyTable Entry) {call : Call} {other : Key}
    (elsewhere : call.changes? ≠ some other) :
    (specify table call).2.find? other = table.find? other := by
  have insert {key : Key} (apart : key ≠ other) (entry : Entry) :
      (table.insert key entry).find? other = table.find? other := by
    rw [table.find?_insert, if_neg apart.symm]
  have new {key : Key} (apart : key ≠ other) (entry : Entry) :
      (specifyNew table key entry).2.find? other = table.find? other := by
    unfold specifyNew
    split
    · rfl
    · exact insert apart entry
  have change {key : Key} (apart : key ≠ other) (f : Entry → Entry) :
      (specifyChange table key f).find? other = table.find? other := by
    unfold specifyChange
    split
    · exact insert apart _
    · rfl
  -- What changes the table does so by one of the three, at the key of the call.
  cases call with
  | add _ key =>
    have apart : key ≠ other := fun eq => elsewhere (congrArg some eq)
    unfold specify
    dsimp only
    split
    · exact insert apart _
    · exact new apart _
  | addIfUntracked _ key =>
    have apart : key ≠ other := fun eq => elsewhere (congrArg some eq)
    unfold specify
    dsimp only
    split
    · rfl
    · exact new apart _
  | remove key =>
    have apart : key ≠ other := fun eq => elsewhere (congrArg some eq)
    unfold specify
    dsimp only
    rw [table.find?_erase, if_neg apart.symm]
  | setResting key | setExclusive key | update key =>
    exact change (fun eq => elsewhere (congrArg some eq)) _
  | restingUsage key =>
    unfold specify
    dsimp only
    split <;> rfl
  | _ => rfl

/-- A call fails exactly if it registers a key that is not registered while the table is full. -/
theorem specify_eq_error_iff (table : KeyTable Entry) (call : Call) (error : Slot.PoolError) :
    (specify table call).1 = .error error ↔
      error = .full limit ∧ table.size = limit ∧
        ∃ key, call.registers? = some key ∧ table.contains key = false := by
  have new {key : Key} (entry : Entry) :
      (specifyNew table key entry).1 = .error error ↔ error = .full limit ∧ table.size = limit := by
    unfold specifyNew
    split
    · rename_i full
      simp [full, eq_comm]
    · rename_i room
      simp [room]
  cases call with
  | add _ key | addIfUntracked _ key =>
    unfold specify
    dsimp only
    cases known : table.contains key with
    | true => simp [Call.registers?, known]
    | false => simp [Call.registers?, known, new]
  | restingUsage key =>
    unfold specify
    dsimp only
    split <;> simp [Call.registers?]
  | _ => simp [specify, Call.registers?]

/-! ## Runs

Every call may have a seed of its own, as callers search from places of their own. -/

/-- A run answers what is true of the table, and stands for the table afterwards. -/
theorem Represents.runWith {tracker : Tracker} {table : KeyTable Entry}
    (h : Represents tracker table) (calls : List Call) :
    (Tracker.runWith Tracker.perform tracker calls).1 = (Tracker.runWith specify table calls).1 ∧
      Represents (Tracker.runWith Tracker.perform tracker calls).2
        (Tracker.runWith specify table calls).2 := by
  induction calls generalizing tracker table with
  | nil => exact ⟨rfl, h⟩
  | cons call rest ih =>
    obtain ⟨answer, after⟩ := h.perform call
    obtain ⟨answers, final⟩ := ih after
    refine ⟨?_, final⟩
    unfold Tracker.runWith
    dsimp only
    rw [answer, answers]

/-- A call that fails changes nothing. -/
theorem perform_of_error (tracker : Tracker) {call : Call} {error : Slot.PoolError}
    (fails : (tracker.perform call).1 = .error error) : (tracker.perform call).2 = tracker := by
  have same (outcome : Except Slot.PoolError (Bool × Tracker))
      (fails : (tracker.registered outcome).1 = .error error) :
      (tracker.registered outcome).2 = tracker := by
    cases outcome with
    | ok new => cases fails
    | error reason => rfl
  cases call with
  | add | addIfUntracked => exact same _ fails
  | _ => cases fails

/-- **The tracker is a finite map.** Whatever calls are made on a tracker, it answers as one table
from keys to entries would.

After any calls the tracker stands for the table: it finds what the table holds, no slot belongs to
two keys, every slot of a key is taken and has a value, no other is taken, and every index holds
slots of keys of its kind only. A further call changes no key but its own; it fails exactly if it
registers a key that is not registered while `limit` keys are, and then changes nothing.

Each call that registers a key may have any seed. -/
theorem refines_table (calls : List Call) (call : Call) :
    let tracker := (runWith perform empty calls).2
    let table := (runWith specify .empty calls).2
    (runWith perform empty calls).1 = (runWith specify .empty calls).1 ∧
    Represents tracker table ∧ table.size ≤ limit ∧
    (∀ key, (tracker.lookup key).isSome = tracker.isTracked key) ∧
    (∀ kind number slot, (tracker.index.get kind).find? number = some slot →
      ∃ key : Key, key.kind = kind ∧ key.handle.word.toNat = number ∧
        tracker.slot? key = some slot) ∧
    (∀ other, call.changes? ≠ some other →
      (tracker.perform call).2.lookup other = tracker.lookup other) ∧
    (∀ error, (tracker.perform call).1 = .error error ↔
      error = .full limit ∧ tracker.size = limit ∧
        ∃ key, call.registers? = some key ∧ tracker.isTracked key = false) ∧
    (∀ error, (tracker.perform call).1 = .error error → (tracker.perform call).2 = tracker) := by
  intro tracker table
  obtain ⟨answers, stands⟩ := represents_empty.runWith calls
  obtain ⟨answer, after⟩ := stands.perform call
  refine ⟨answers, stands, stands.size_le, stands.wellFormed.isSome_lookup,
    fun _ _ _ => exists_key_of_find? tracker, fun other elsewhere => ?_, fun error => ?_,
    fun _ => perform_of_error tracker⟩
  · rw [after.lookup, stands.lookup]
    exact find?_specify table elsewhere
  · have tracked : ∀ key, tracker.isTracked key = table.contains key := stands.isTracked
    rw [answer, stands.size]
    simp only [tracked]
    exact specify_eq_error_iff table call error

end GpuSync.Tracker
