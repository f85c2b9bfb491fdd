import GpuSync.Proofs.Handle.Pool
import GpuSync.Proofs.Tracker.Refinement
import GpuSync.Resource.Registry

/-!
# Tracking follows lifetime

Two stores know of a resource, the pool of its handle and the tracker. Creating a resource goes to
the one and then to the other, and may fail at either; releasing it goes to both.

* `Site` is a registry with its tracker, and `Site.run` carries requests out: creations, releases
  of any keys, and calls on the tracker that pass the registry by.
* `Site.Made` lists what can come of a creation, one constructor per case, and `Site.Released` says
  what a release does.
* `Site.Sound` is what every request keeps. On it, creating and releasing do no more and no less
  than that (`Site.Sound.create` and `Site.Sound.release`).
* `Site.InStep` says of one key that the stores agree on it. Every request keeps this, unless it is
  a call on the tracker that registers or forgets this very key (`Site.InStep.step`).
* **`Site.tracking_follows_lifetime`** is the result for all runs.
-/

namespace GpuSync

/-! ## The tracker

The tracker is used by the resources of all kinds and by others. What matters here is which of its
calls can register or forget a key, and that registering one fails only when the tracker is full.
-/

namespace Tracker

/-- The key that a call registers or forgets. -/
def Call.enrols? : Call → Option Key
  | .add _ key _ _ _ | .addIfUntracked _ key _ | .remove key => some key
  | _ => none

section

variable {tracker : Tracker} {table : KeyTable Entry}

/-- Changing entries registers and forgets nothing. -/
theorem contains_specifyChange (table : KeyTable Entry) (key other : Key) (f : Entry → Entry) :
    (specifyChange table key f).contains other = table.contains other := by
  unfold specifyChange
  split
  · rename_i entry found
    unfold KeyTable.contains
    rw [table.find?_insert]
    split
    · rename_i same
      simp [same, found]
    · rfl
  · rfl

/-- A call that does not register or forget a key leaves it registered, or not. -/
theorem contains_specify (table : KeyTable Entry) {call : Call} {key : Key}
    (leaves : call.enrols? ≠ some key) :
    (specify table call).2.contains key = table.contains key := by
  have elsewhere (other : call.changes? ≠ some key) :
      (specify table call).2.contains key = table.contains key :=
    congrArg Option.isSome (find?_specify table other)
  cases call with
  | add | addIfUntracked | remove => exact elsewhere leaves
  | setResting | setExclusive | update => exact contains_specifyChange table _ _ _
  | _ => exact elsewhere nofun

/-- A key can be registered, or registered anew, unless it would be one too many. -/
theorem Represents.add_cases (h : Represents tracker table) (seed : Nat) (key : Key)
    (current resting : Usage) (owner : Option BatchUse) :
    let entry := Entry.fresh current resting owner
    ((tracker.isTracked key = false ∧ tracker.size = limit) ∧
        (tracker.add seed key entry).1 = .error (.full limit)) ∨
      ∃ isNew after, ¬ (tracker.isTracked key = false ∧ tracker.size = limit) ∧
        (tracker.add seed key entry).1 = .ok (isNew, after) ∧
        Represents after (table.insert key entry) := by
  intro entry
  let call : Call := .add seed key current resting owner
  -- The tracker answers as the table that it represents, which refuses only a key that would be one
  -- too many.
  have performed : (tracker.registered (tracker.add seed key entry).1).1 = (specify table call).1 ∧
      Represents (tracker.registered (tracker.add seed key entry).1).2 (specify table call).2 :=
    h.perform call
  rw [h.isTracked key, h.size]
  cases added : (tracker.add seed key entry).1 with
  | error cause =>
    rw [added] at performed
    obtain ⟨rfl, full, _, ⟨⟩, untracked⟩ :=
      (specify_eq_error_iff table call cause).1 performed.1.symm
    exact .inl ⟨⟨untracked, full⟩, rfl⟩
  | ok new =>
    rw [added] at performed
    have room : ¬ (table.contains key = false ∧ table.size = limit) := by
      rintro ⟨untracked, full⟩
      have refused := (specify_eq_error_iff table call _).2 ⟨rfl, full, key, rfl, untracked⟩
      rw [refused] at performed
      cases performed.1
    have inserted : (specify table call).2 = table.insert key entry := by
      unfold call specify specifyNew
      dsimp only
      split
      · rfl
      · rename_i untracked
        rw [if_neg fun full => room ⟨by simpa using untracked, full⟩]
    exact .inr ⟨new.1, new.2, room, rfl, inserted ▸ performed.2⟩

end

end Tracker

/-! ## The handles of all kinds

Each kind of resource has a pool of handles. A key is alive if its handle is live in the pool of its
kind, so a request at one kind does not concern the keys of another. -/

namespace Registry

section

variable {shapes : Kind → Slot.Shape} {registry : Registry shapes}

/-- Every kind has a pool with a log. -/
def Accounted (registry : Registry shapes) : Prop := ∀ kind, (registry.handles kind).Accounted

/-- A registry without resources has pools without a log. -/
theorem accounted_empty : (empty : Registry shapes).Accounted := by
  intro kind
  cases kind <;> exact Handle.Pool.accounted_empty

/-- Pools with a log may be exchanged one at a time. -/
theorem Accounted.setHandles (h : registry.Accounted) {kind : Kind}
    {pool : Handle.Pool (shapes kind)} (accounted : pool.Accounted) :
    (registry.setHandles kind pool).Accounted := by
  intro other
  by_cases same : other = kind
  · subst same
    rw [handles_setHandles_self]
    exact accounted
  · rw [handles_setHandles_of_ne registry same]
    exact h other

/-- The pool of a kind tells which keys of that kind are alive. -/
theorem isAlive_setHandles (registry : Registry shapes) (kind : Kind)
    (pool : Handle.Pool (shapes kind)) (key : Key) :
    (registry.setHandles kind pool).isAlive key =
      if key.kind = kind then pool.isAlive key.handle else registry.isAlive key := by
  unfold isAlive
  by_cases same : key.kind = kind
  · subst same
    rw [handles_setHandles_self, if_pos rfl]
  · rw [handles_setHandles_of_ne registry same, if_neg same]

/-- A handle that is handed out makes one key alive. -/
theorem isAlive_handOut {kind : Kind} {handle : Handle} {pool : Handle.Pool (shapes kind)}
    (alive : ∀ other, pool.isAlive other =
      (other == handle || (registry.handles kind).isAlive other)) (key : Key) :
    (registry.setHandles kind pool).isAlive key =
      (key == ⟨kind, handle⟩ || registry.isAlive key) := by
  obtain ⟨other, word⟩ := key
  rw [isAlive_setHandles, alive]
  by_cases same : other = kind
  · subst same
    simp [isAlive, BEq.beq]
  · simp [same]

/-- A key whose handle is given back is not alive afterwards, and no other key is concerned. -/
theorem Accounted.free (h : registry.Accounted) (key : Key) :
    (registry.free key).1 = registry.isAlive key ∧ (registry.free key).2.Accounted ∧
      ∀ other, (registry.free key).2.isAlive other = (other != key && registry.isAlive other) := by
  obtain ⟨kind, handle⟩ := key
  obtain ⟨answer, after, alive⟩ := (h kind).free handle
  refine ⟨answer, h.setHandles after, fun other => ?_⟩
  obtain ⟨kind', word⟩ := other
  refine (isAlive_setHandles registry kind ((registry.handles kind).free handle).2 _).trans ?_
  rw [alive]
  by_cases same : kind' = kind
  · subst same
    simp [isAlive, bne, BEq.beq]
  · simp [same]

/-- A key that is not alive is passed over. -/
theorem free_of_stale {key : Key} (stale : registry.isAlive key = false) :
    registry.free key = (false, registry) := by
  unfold free
  rw [Handle.Pool.free_of_stale stale]
  exact congrArg _ (setHandles_handles registry key.kind)

end

end Registry

/-! ## Requests

Besides creating and releasing, anything may be done to the tracker. Only requests that register or
forget a key past the registry can separate the two stores, and only at that key. -/

/-- A registry with the tracker that its resources are registered with. Other parts of a program may
call the tracker directly, past the registry. -/
structure Site (shapes : Kind → Slot.Shape) where
  /-- The resources. -/
  registry : Registry shapes
  /-- What is known of them. -/
  tracker : Tracker

namespace Site

variable {shapes : Kind → Slot.Shape}

/-- Something asked of a site. -/
inductive Request where
  /-- Creates a resource; the search for a handle starts at some group. -/
  | create (seed : Nat) (kind : Kind) (resting : Usage) (queues : QueueMask)
  /-- Releases a resource, whether or not there is one. -/
  | release (key : Key)
  /-- A call on the tracker. -/
  | direct (call : Tracker.Call)

/-- The key that a request registers or forgets past the registry. -/
def Request.meddlesWith? : Request → Option Key
  | .direct call => call.enrols?
  | _ => none

/-- Carries a request out. -/
def step (site : Site shapes) : Request → Site shapes
  | .create seed kind resting queues =>
    let made := site.registry.create site.tracker seed kind resting queues
    ⟨made.registry, made.tracker⟩
  | .release key =>
    let (_, registry, tracker) := site.registry.release site.tracker key
    ⟨registry, tracker⟩
  | .direct call => ⟨site.registry, (site.tracker.perform call).2⟩

/-- Carries requests out in order, with no resources at first. -/
def run (shapes : Kind → Slot.Shape) (requests : List Request) : Site shapes :=
  requests.foldl step ⟨.empty, .empty⟩

/-- What is known of a resource that was just created. -/
def newEntry (resting : Usage) (queues : QueueMask) : Tracker.Entry where
  resting := resting
  current := resting
  lastBatch := none
  lastQueue := none
  exclusive := queues.size ≤ 1

/-- What can come of creating a resource. The handles of the kind are used up, or the tracker is
full and the handle is given back, or the resource is there and is tracked. -/
inductive Made (site : Site shapes) (seed : Nat) (kind : Kind) (resting : Usage)
    (queues : QueueMask) : Registry.Creation shapes → Prop where
  /-- There is no handle left, and nothing happens. -/
  | exhausted (full : site.registry.size kind = (shapes kind).capacity) :
    Made site seed kind resting queues
      ⟨.error (.handles (.full (shapes kind).capacity)), site.registry, site.tracker, []⟩
  /-- The key would be one too many for the tracker, and its handle is given back. -/
  | refused {handle : Handle} {pool : Handle.Pool (shapes kind)} {registry : Registry shapes}
    {notes : List Log.Entry} (room : site.registry.size kind ≠ (shapes kind).capacity)
    (handed : (site.registry.handles kind).alloc seed = .ok (handle, pool))
    (new : site.registry.isAlive ⟨kind, handle⟩ = false)
    (untracked : site.tracker.isTracked ⟨kind, handle⟩ = false)
    (full : site.tracker.size = Tracker.limit)
    (alive : ∀ other, registry.isAlive other = site.registry.isAlive other) :
    Made site seed kind resting queues
      ⟨.error (.tracker (.full Tracker.limit)), registry, site.tracker, notes⟩
  /-- The key is registered afresh, whatever was known of it. -/
  | created {handle : Handle} {pool : Handle.Pool (shapes kind)} {registry : Registry shapes}
    {tracker : Tracker} {notes : List Log.Entry}
    (room : site.registry.size kind ≠ (shapes kind).capacity)
    (handed : (site.registry.handles kind).alloc seed = .ok (handle, pool))
    (new : site.registry.isAlive ⟨kind, handle⟩ = false)
    (fits : ¬ (site.tracker.isTracked ⟨kind, handle⟩ = false ∧
      site.tracker.size = Tracker.limit))
    (alive : ∀ other, registry.isAlive other =
      (other == ⟨kind, handle⟩ || site.registry.isAlive other))
    (lookup : ∀ other, tracker.lookup other =
      if other = ⟨kind, handle⟩ then some (newEntry resting queues)
      else site.tracker.lookup other) :
    Made site seed kind resting queues ⟨.ok ⟨kind, handle⟩, registry, tracker, notes⟩

/-- What releasing a key does, whether or not it is alive. A key that is not alive is still removed
from the tracker, if it is there. -/
structure Released (site : Site shapes) (key : Key)
    (outcome : Bool × Registry shapes × Tracker) : Prop where
  /-- It tells whether the key was alive. -/
  answer : outcome.1 = site.registry.isAlive key
  /-- The key is not alive afterwards. -/
  alive : ∀ other, outcome.2.1.isAlive other = (other != key && site.registry.isAlive other)
  /-- Nor is anything known of it. -/
  lookup : ∀ other, outcome.2.2.lookup other =
    if other = key then none else site.tracker.lookup other

/-! ## One request

The stores need not agree on every key, as others may meddle with some. So agreement is an invariant
of one key, kept by every request that does not meddle with it. -/

/-- What every request keeps. -/
structure Sound (site : Site shapes) : Prop where
  /-- The pools of handles have logs. -/
  registry : site.registry.Accounted
  /-- The tracker stands for a table. -/
  tracker : ∃ table, site.tracker.Represents table

section

variable {site : Site shapes}

/-- A site without resources has a registry and a tracker that know of none. -/
theorem sound_empty : Sound (⟨.empty, .empty⟩ : Site shapes) :=
  ⟨Registry.accounted_empty, _, Tracker.represents_empty⟩

/-- A creation comes to one of the cases of `Made`. -/
theorem Sound.create (h : Sound site) (seed : Nat) (kind : Kind) (resting : Usage)
    (queues : QueueMask) :
    let made := site.registry.create site.tracker seed kind resting queues
    Made site seed kind resting queues made ∧ Sound ⟨made.registry, made.tracker⟩ := by
  obtain ⟨table, stands⟩ := h.tracker
  unfold Registry.create
  -- Two things can be full, the handles and the tracker. A handle that cannot be tracked is given
  -- back.
  rcases (h.registry kind).alloc_cases seed with ⟨full, refused⟩ |
    ⟨handle, pool, room, handed, accounted, new, alive⟩
  · rw [refused]
    exact ⟨.exhausted full, h⟩
  rw [handed]
  dsimp only
  have new : site.registry.isAlive ⟨kind, handle⟩ = false := new
  have taken : ∀ other, (site.registry.setHandles kind pool).isAlive other = _ :=
    Registry.isAlive_handOut alive
  have whole := h.registry.setHandles accounted
  rcases stands.add_cases seed ⟨kind, handle⟩ resting resting none with
    ⟨⟨untracked, full⟩, refused⟩ | ⟨isNew, tracked, fits, added, registered⟩
  · have answer : site.tracker.add seed ⟨kind, handle⟩ (.fresh resting resting none) = (_, _) :=
      Prod.ext refused rfl
    rw [answer]
    -- giving the handle back moves its slot on, so the pool differs, but not in who is alive
    obtain ⟨-, after, back⟩ := whole.free ⟨kind, handle⟩
    refine ⟨.refused room handed new untracked full fun other => ?_, after, h.tracker⟩
    rw [back, taken]
    by_cases same : other = ⟨kind, handle⟩
    · rw [same, new]
      simp
    · simp [bne, beq_eq_false_iff_ne.2 same]
  · have answer : site.tracker.add seed ⟨kind, handle⟩ (.fresh resting resting none) = (_, _) :=
      Prod.ext added rfl
    rw [answer]
    have marked := registered.modify ⟨kind, handle⟩ ({ · with exclusive := queues.isExclusive })
    refine ⟨.created room handed new fits taken fun other => ?_, whole, _, marked⟩
    refine (Tracker.lookup_modify registered.wellFormed _ other _).trans ?_
    rw [registered.lookup, registered.lookup, KeyTable.find?_insert, KeyTable.find?_insert,
      if_pos rfl, ← stands.lookup]
    by_cases same : other = ⟨kind, handle⟩
    · simp [same, newEntry, Tracker.Entry.fresh, QueueMask.isExclusive]
    · simp [same]

/-- A release comes to what `Released` says. -/
theorem Sound.release (h : Sound site) (key : Key) :
    let outcome := site.registry.release site.tracker key
    Released site key outcome ∧ Sound ⟨outcome.2.1, outcome.2.2⟩ := by
  obtain ⟨table, stands⟩ := h.tracker
  obtain ⟨answer, after, alive⟩ := h.registry.free key
  exact ⟨⟨answer, alive, Tracker.lookup_remove stands.wellFormed key⟩, after, _, stands.remove key⟩

/-- Every request keeps the pools and the table, by cases on the request. -/
theorem Sound.step (h : Sound site) (request : Request) : Sound (site.step request) := by
  cases request with
  | create seed kind resting queues => exact (h.create seed kind resting queues).2
  | release key => exact (h.release key).2
  | direct call =>
    obtain ⟨table, stands⟩ := h.tracker
    exact ⟨h.registry, _, (stands.perform call).2⟩

/-- A key is tracked exactly if something is known of it. -/
theorem Sound.isTracked (h : Sound site) (key : Key) :
    site.tracker.isTracked key = (site.tracker.lookup key).isSome := by
  obtain ⟨table, stands⟩ := h.tracker
  exact (stands.wellFormed.isSome_lookup key).symm

/-- A key is tracked exactly if its handle is alive. It is said of one key, because others may have
been registered or forgotten past the registry. -/
def InStep (site : Site shapes) (key : Key) : Prop :=
  site.tracker.isTracked key = site.registry.isAlive key

/-- Nothing is alive at first, and nothing is tracked. -/
theorem inStep_empty (key : Key) : InStep (⟨.empty, .empty⟩ : Site shapes) key := by
  have dead : (Registry.empty : Registry shapes).isAlive key = false := by
    obtain ⟨kind, handle⟩ := key
    cases kind <;> exact Handle.Pool.isAlive_empty handle
  exact (Tracker.represents_empty.isTracked key).trans dead.symm

/-- Whatever comes of a creation, the stores go on agreeing on a key. -/
theorem InStep.made {key : Key} (same : site.InStep key) (h : Sound site) {seed : Nat}
    {kind : Kind} {resting : Usage} {queues : QueueMask} {creation : Registry.Creation shapes}
    (made : Made site seed kind resting queues creation)
    (after : Sound ⟨creation.registry, creation.tracker⟩) :
    InStep ⟨creation.registry, creation.tracker⟩ key := by
  unfold InStep at same ⊢
  cases made with
  | exhausted => exact same
  | refused _ _ _ _ _ alive => exact same.trans (alive key).symm
  | @created handle _ _ _ _ _ _ _ _ alive lookup =>
    rw [after.isTracked, lookup, alive, ← same, h.isTracked]
    by_cases it : key = ⟨kind, handle⟩
    · simp [it]
    · simp [if_neg it, beq_eq_false_iff_ne.2 it]

/-- Releasing any key, the stores go on agreeing on a key. -/
theorem InStep.released {key other : Key} (same : site.InStep key) (h : Sound site)
    {outcome : Bool × Registry shapes × Tracker} (released : Released site other outcome)
    (after : Sound ⟨outcome.2.1, outcome.2.2⟩) : InStep ⟨outcome.2.1, outcome.2.2⟩ key := by
  unfold InStep at same ⊢
  rw [after.isTracked, released.lookup, released.alive, ← same, h.isTracked]
  by_cases it : key = other
  · simp [it]
  · simp [if_neg it, bne, beq_eq_false_iff_ne.2 it]

/-- The stores go on agreeing on a key that no call registers or forgets past the registry. -/
theorem InStep.step {key : Key} (same : site.InStep key) (h : Sound site) {request : Request}
    (leaves : request.meddlesWith? ≠ some key) : (site.step request).InStep key := by
  cases request with
  | create seed kind resting queues =>
    obtain ⟨made, after⟩ := h.create seed kind resting queues
    exact same.made h made after
  | release other =>
    obtain ⟨released, after⟩ := h.release other
    exact same.released h released after
  | direct call =>
    obtain ⟨table, stands⟩ := h.tracker
    unfold InStep at same ⊢
    refine Eq.trans ?_ same
    rw [stands.isTracked]
    exact ((stands.perform call).2.isTracked key).trans (Tracker.contains_specify table leaves)

/-- A key that is neither alive nor tracked is passed over. -/
theorem release_of_stale {key : Key} (same : site.InStep key)
    (stale : site.registry.isAlive key = false) :
    site.registry.release site.tracker key = (false, site.registry, site.tracker) := by
  have untracked : site.tracker.slot? key = none :=
    Option.isNone_iff_eq_none.1 (Option.isSome_eq_false_iff.1 (same.trans stale))
  unfold Registry.release
  rw [Registry.free_of_stale stale, Tracker.remove_of_untracked untracked]

end

/-! ## All runs

Both invariants are kept along a run. The second one holds for a key as long as no request of the
run meddles with that key. -/

/-- A run goes on with the last request. -/
@[simp] theorem run_append (requests : List Request) (request : Request) :
    run shapes (requests ++ [request]) = (run shapes requests).step request := by
  simp [run]

/-- Every run keeps the pools and the table, by induction on the requests. -/
theorem run_sound (shapes : Kind → Slot.Shape) (requests : List Request) :
    Sound (run shapes requests) := by
  induction requests using List.reverseRecOn with
  | nil => exact sound_empty
  | append_singleton requests request ih =>
    rw [run_append]
    exact ih.step request

/-- A key that no request meddles with past the registry is tracked exactly while its handle is
alive, in every run. -/
theorem run_inStep {requests : List Request} {key : Key}
    (leaves : ∀ request ∈ requests, request.meddlesWith? ≠ some key) :
    (run shapes requests).InStep key := by
  induction requests using List.reverseRecOn with
  | nil => exact inStep_empty key
  | append_singleton requests request ih =>
    rw [run_append]
    have before := ih fun other mem => leaves other (List.mem_append_left _ mem)
    exact before.step (run_sound shapes requests) (leaves request (by simp))

/-- **Tracking follows lifetime.** A key that no call on the tracker registers or forgets past the
registry is tracked exactly as long as its handle is alive, and releasing it at any other time
changes neither store.

Creating a resource fails if its kind is out of handles, and then changes nothing. It fails too if
the tracker is full and does not know the key; then the tracker stays as it is, and the same keys
are alive as before. Otherwise it yields a key of its kind that was not alive, of which the tracker
knows the description and nothing else, whatever it knew before. Nothing changes for any other key.
Releasing a key tells whether it was alive and leaves it neither alive nor tracked. -/
theorem tracking_follows_lifetime (shapes : Kind → Slot.Shape) (requests : List Request) :
    let site := run shapes requests
    (∀ key, (∀ request ∈ requests, request.meddlesWith? ≠ some key) →
      site.tracker.isTracked key = site.registry.isAlive key ∧
        (site.registry.isAlive key = false →
          site.registry.release site.tracker key = (false, site.registry, site.tracker))) ∧
    (∀ seed kind resting queues,
      Made site seed kind resting queues
        (site.registry.create site.tracker seed kind resting queues)) ∧
    ∀ key, Released site key (site.registry.release site.tracker key) := by
  intro site
  have sound : Sound site := run_sound shapes requests
  refine ⟨fun key leaves => ?_, fun seed kind resting queues => ?_, fun key => ?_⟩
  · have same : site.InStep key := run_inStep leaves
    exact ⟨same, release_of_stale same⟩
  · exact (sound.create seed kind resting queues).1
  · exact (sound.release key).1

end Site

end GpuSync
