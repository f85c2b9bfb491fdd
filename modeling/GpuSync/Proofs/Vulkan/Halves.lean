import GpuSync.Vulkan.Barriers
import Mathlib.Tactic.Common

/-!
# The two halves of a change of families

A resource that goes from one family of queues to another takes two barriers, one on each queue.
Both have to say the same, or the device may do anything. They are added by different operations,
`push` for the acquiring half and `pushRelease` for the releasing one.

* `Entry` is one barrier of a collection, of whichever kind; `Barriers.add` appends one.
* `Entry.States` says what an entry for one half of a barrier has to say. Only its stages and
  accesses depend on which half that is.
* `addHalf_of_unknown` and `addHalf_of_known`: both operations add nothing, or one such entry.
* `Lookup.Releases` is the condition for a releasing half; `pushRelease_of_releases` and
  `pushRelease_of_not_releases` say that it decides.
* **`Barriers.halves_match`** is the result for all barriers, lookups and collections.
-/

namespace GpuSync

/-- The layout of a usage is never that of contents which are not defined. -/
theorem Usage.layout_ne_undefined (usage : Usage) : usage.layout ≠ .undefined := by
  cases usage <;> decide

namespace Vulkan

/-! ## Entries

A collection has three lists, one for each kind of barrier. An entry stands for one element of any
of them, so that adding one can be said in the same way for all. -/

/-- What a barrier of Vulkan is on. -/
inductive Subject where
  /-- All memory. -/
  | memory
  /-- A part of a buffer. -/
  | buffer (buffer offset size : UInt64)
  /-- A part of an image. -/
  | image (image : UInt64) (range : Subresources)
  deriving DecidableEq, Repr

/-- One barrier of a collection. -/
inductive Entry where
  /-- A barrier on memory. -/
  | memory (sync : Sync)
  /-- A barrier on a buffer. -/
  | buffer (barrier : BufferBarrier)
  /-- A barrier on an image. -/
  | image (barrier : ImageBarrier)
  deriving DecidableEq, Repr

namespace Entry

/-- What the barrier is on. -/
def subject : Entry → Subject
  | .memory _ => .memory
  | .buffer barrier => .buffer barrier.buffer barrier.offset barrier.size
  | .image barrier => .image barrier.image barrier.range

/-- What has to happen before what. -/
def sync : Entry → Sync
  | .memory sync => sync
  | .buffer barrier => barrier.sync
  | .image barrier => barrier.sync

/-- The families between which it changes a buffer or an image. -/
def families? : Entry → Option Families
  | .memory _ => none
  | .buffer barrier => some barrier.families
  | .image barrier => some barrier.families

/-- The layouts of an image before and after it. -/
def layouts? : Entry → Option (Layout × Layout)
  | .memory _ | .buffer _ => none
  | .image barrier => some (barrier.oldLayout, barrier.newLayout)

end Entry

/-- Appends one barrier to the list of its kind. -/
def Barriers.add (barriers : Barriers) : Entry → Barriers
  | .memory sync => { barriers with memory := barriers.memory ++ [sync] }
  | .buffer barrier => { barriers with buffers := barriers.buffers ++ [barrier] }
  | .image barrier => { barriers with images := barriers.images ++ [barrier] }

/-- What is appended can be read off. -/
theorem Barriers.add_inj {barriers : Barriers} {a b : Entry} :
    barriers.add a = barriers.add b ↔ a = b := by
  cases a <;> cases b <;> simp [add]

/-! ## One half of a barrier

Both halves are made by one function from the barrier and the lookup, with the half as a parameter.
What an entry says therefore differs between the halves only where that parameter is read. -/

/-- What a barrier is on, if its resource is known. -/
def Lookup.subject? (lookup : Lookup) (barrier : Barrier) : Option Subject :=
  match barrier.key with
  | some ⟨.image, handle⟩ =>
    (lookup.image handle).map fun object => .image object.image { aspects := object.aspects }
  | some ⟨.buffer, handle⟩ => (lookup.buffer handle).map fun buffer => .buffer buffer 0 wholeSize
  | some ⟨.rtGeometry, _⟩ | some ⟨.rtScene, _⟩ | none => some .memory

/-- The layouts between which a barrier moves an image. -/
def layoutsOf? (barrier : Barrier) : Option (Layout × Layout) :=
  if barrier.key.any (·.isImage) then
    some (if barrier.discard then .undefined else barrier.src.layout, barrier.dst.layout)
  else none

/-- What an entry for one half of a barrier has to say. Only what has to happen before what depends
on the half. -/
structure Entry.States (entry : Entry) (lookup : Lookup) (barrier : Barrier) (half : Half) :
    Prop where
  /-- It is on the resource of the barrier. -/
  subject : lookup.subject? barrier = some entry.subject
  /-- It waits for the usage before, and what waits for it is up to the half. -/
  sync : entry.sync = Sync.of barrier.src.access barrier.dst.access half
  /-- If it is on a buffer or an image, that changes between the families of the barrier. -/
  families : entry.families? =
    if Barriers.changesOwner barrier then some (lookup.families barrier) else none
  /-- If it is on an image, that changes between the layouts of the barrier. -/
  layouts : entry.layouts? = layoutsOf? barrier

namespace Barriers

section

variable {barriers : Barriers} {barrier : Barrier} {lookup : Lookup}

/-- What adding some half comes to: nothing, or one entry more. -/
def Push.Adds (push : Push) (barriers : Barriers) (added : Option Entry) : Prop :=
  match added with
  | none => push.done = false ∧ push.barriers = barriers
  | some entry => push.done = true ∧ push.barriers = barriers.add entry

/-- A barrier on something unknown is left out. -/
theorem addHalf_of_unknown (unknown : lookup.subject? barrier = none) (half : Half) :
    (barriers.addHalf barrier lookup half).Adds barriers none := by
  unfold Lookup.subject? at unknown
  unfold addHalf
  rcases barrier with ⟨_ | ⟨_ | _ | _ | _, handle⟩, src, dst, discard, transfer⟩
  case some.image =>
    dsimp only
    rw [Option.map_eq_none_iff.1 unknown]
    exact ⟨rfl, rfl⟩
  case some.buffer =>
    dsimp only
    rw [Option.map_eq_none_iff.1 unknown]
    exact ⟨rfl, rfl⟩
  all_goals cases unknown

/-- A half of a barrier on something known is one entry, which says what it has to say. -/
theorem addHalf_of_known {subject : Subject} (known : lookup.subject? barrier = some subject)
    (barriers : Barriers) (half : Half) :
    ∃ entry, (barriers.addHalf barrier lookup half).Adds barriers (some entry) ∧
      entry.States lookup barrier half := by
  have known' := known
  unfold Lookup.subject? at known
  unfold addHalf
  rcases barrier with ⟨_ | ⟨_ | _ | _ | _, handle⟩, src, dst, discard, transfer⟩
  case some.image =>
    obtain ⟨object, found, rfl⟩ := Option.map_eq_some_iff.1 known
    dsimp only
    rw [found]
    exact ⟨.image _, ⟨rfl, rfl⟩, known', rfl, rfl, rfl⟩
  case some.buffer =>
    obtain ⟨buffer, found, rfl⟩ := Option.map_eq_some_iff.1 known
    dsimp only
    rw [found]
    exact ⟨.buffer _, ⟨rfl, rfl⟩, known', rfl, rfl, rfl⟩
  all_goals
    cases known
    exact ⟨.memory _, ⟨rfl, rfl⟩, rfl, rfl, rfl, rfl⟩

end

end Barriers

/-! ## Changes of families

Two queues may belong to one family, and then there is nothing to hand over. The releasing half is
left out in this case, while the acquiring one remains as a plain barrier. -/

/-- A barrier has a releasing half if it hands a known image or buffer over between queues of two
families, and the first of them does not stand for no change. -/
structure Lookup.Releases (lookup : Lookup) (barrier : Barrier) : Prop where
  /-- It changes the family. -/
  crosses : ∃ transfer, barrier.transfer = some transfer ∧
    lookup.family transfer.src ≠ lookup.family transfer.dst ∧
    lookup.family transfer.src ≠ ignoredFamily
  /-- It is on an image or a buffer which is known. -/
  known : ∃ handle, (barrier.key = some ⟨.image, handle⟩ ∧ (lookup.image handle).isSome) ∨
    (barrier.key = some ⟨.buffer, handle⟩ ∧ (lookup.buffer handle).isSome)

section

variable {lookup : Lookup} {barrier : Barrier}

/-- A barrier that does not change the family is one between families that are to be ignored. -/
theorem Lookup.families_of_stays
    (stays : ∀ transfer, barrier.transfer = some transfer →
      lookup.family transfer.src = lookup.family transfer.dst) :
    lookup.families barrier = ⟨ignoredFamily, ignoredFamily⟩ := by
  unfold Lookup.families
  cases handed : barrier.transfer with
  | none => rfl
  | some transfer => exact if_pos (stays transfer handed)

/-- A barrier that changes the family is one between the families of its queues. -/
theorem Lookup.families_of_crosses {transfer : QueueTransfer}
    (handed : barrier.transfer = some transfer)
    (differ : lookup.family transfer.src ≠ lookup.family transfer.dst) :
    lookup.families barrier = ⟨lookup.family transfer.src, lookup.family transfer.dst⟩ := by
  unfold Lookup.families
  rw [handed]
  exact if_neg differ

/-- A family that is not to be ignored is that of a queue, and there is another one. -/
theorem Lookup.crosses_of_src_ne (src : (lookup.families barrier).src ≠ ignoredFamily) :
    ∃ transfer, barrier.transfer = some transfer ∧
      lookup.family transfer.src ≠ lookup.family transfer.dst ∧
      lookup.family transfer.src ≠ ignoredFamily := by
  unfold Lookup.families at src
  cases handed : barrier.transfer with
  | none => simp [handed] at src
  | some transfer =>
    rw [handed] at src
    dsimp only at src
    split at src
    case isTrue => exact absurd rfl src
    case isFalse differ => exact ⟨transfer, rfl, differ, src⟩

/-- A resource which is an image or a buffer, and known, is the subject of a barrier that changes
its owner. -/
theorem Lookup.Releases.subject (releases : lookup.Releases barrier) :
    Barriers.changesOwner barrier = true ∧ ∃ subject, lookup.subject? barrier = some subject := by
  unfold Barriers.changesOwner Lookup.subject?
  obtain ⟨handle, ⟨key, known⟩ | ⟨key, known⟩⟩ := releases.known
  all_goals
    obtain ⟨object, found⟩ := Option.isSome_iff_exists.1 known
    rw [key]
    exact ⟨rfl, _, congrArg (Option.map _) found⟩

/-- An image or a buffer that is the subject of a barrier is known. -/
theorem Lookup.known_of_subject {subject : Subject} (owned : Barriers.changesOwner barrier = true)
    (known : lookup.subject? barrier = some subject) :
    ∃ handle, (barrier.key = some ⟨.image, handle⟩ ∧ (lookup.image handle).isSome) ∨
      (barrier.key = some ⟨.buffer, handle⟩ ∧ (lookup.buffer handle).isSome) := by
  unfold Lookup.subject? at known
  unfold Barriers.changesOwner at owned
  rcases barrier with ⟨_ | ⟨_ | _ | _ | _, handle⟩, src, dst, discard, transfer⟩
  case some.image =>
    obtain ⟨object, found, -⟩ := Option.map_eq_some_iff.1 known
    exact ⟨handle, .inl ⟨rfl, by rw [found]; rfl⟩⟩
  case some.buffer =>
    obtain ⟨buffer, found, -⟩ := Option.map_eq_some_iff.1 known
    exact ⟨handle, .inr ⟨rfl, by rw [found]; rfl⟩⟩
  all_goals cases owned

end

namespace Barriers

section

variable {barrier : Barrier} {lookup : Lookup}

/-- A barrier with a releasing half gets it. -/
theorem pushRelease_of_releases (releases : lookup.Releases barrier) (barriers : Barriers) :
    barriers.pushRelease barrier lookup = barriers.addHalf barrier lookup .release := by
  obtain ⟨transfer, handed, differ, src⟩ := releases.crosses
  unfold pushRelease
  rw [Lookup.families_of_crosses handed differ, releases.subject.1]
  simp [src]

/-- A barrier without a releasing half gets none. -/
theorem pushRelease_of_not_releases (keeps : ¬ lookup.Releases barrier) (barriers : Barriers) :
    (barriers.pushRelease barrier lookup).Adds barriers none := by
  unfold pushRelease
  split
  case isTrue => exact ⟨rfl, rfl⟩
  case isFalse guard =>
    obtain ⟨src, owned⟩ : (lookup.families barrier).src ≠ ignoredFamily ∧
        changesOwner barrier = true := by
      simpa using guard
    -- nothing is left that could speak against a release but that the resource is unknown
    cases known : lookup.subject? barrier with
    | none => exact addHalf_of_unknown known .release
    | some subject =>
      exact absurd ⟨Lookup.crosses_of_src_ne src, Lookup.known_of_subject owned known⟩ keeps

/-- An operation adds one thing only. -/
theorem Push.Adds.unique {push : Push} {barriers : Barriers} {a b : Option Entry}
    (adds : push.Adds barriers a) (adds' : push.Adds barriers b) : a = b := by
  cases a <;> cases b
  case none.none => rfl
  case none.some => exact absurd (adds.1.symm.trans adds'.1) (by decide)
  case some.none => exact absurd (adds.1.symm.trans adds'.1) (by decide)
  case some.some a b => rw [add_inj.1 (adds.2.symm.trans adds'.2)]

/-- Whatever is added for a half says what it has to say. -/
theorem Push.Adds.states {barriers : Barriers} {half : Half} {entry : Entry}
    (adds : (barriers.addHalf barrier lookup half).Adds barriers (some entry)) :
    entry.States lookup barrier half := by
  cases known : lookup.subject? barrier with
  | none => cases adds.unique (addHalf_of_unknown known half)
  | some subject =>
    obtain ⟨entry', adds', states⟩ := addHalf_of_known known barriers half
    cases adds.unique adds'
    exact states

/-- A half is nothing or one entry. -/
theorem addHalf_adds (barriers : Barriers) (barrier : Barrier) (lookup : Lookup) (half : Half) :
    ∃ added, (barriers.addHalf barrier lookup half).Adds barriers added := by
  cases known : lookup.subject? barrier with
  | none => exact ⟨none, addHalf_of_unknown known half⟩
  | some subject =>
    obtain ⟨entry, adds, -⟩ := addHalf_of_known known barriers half
    exact ⟨some entry, adds⟩

end

end Barriers

/-! ## Both halves

The halves are made at two places at different times. They match because each is a function of the
same barrier and the same lookup, and neither of what was collected before. -/

/-- The layout before an image barrier is that of contents which are not defined if it discards
them, and only then. -/
theorem layoutsOf?_spec {barrier : Barrier} {before after : Layout}
    (layouts : layoutsOf? barrier = some (before, after)) :
    after = barrier.dst.layout ∧ (barrier.discard = false → before = barrier.src.layout) ∧
      (before = .undefined ↔ barrier.discard = true) := by
  unfold layoutsOf? at layouts
  split at layouts
  case isFalse => cases layouts
  case isTrue =>
    cases layouts
    cases barrier.discard
    case true => simp
    case false => simp [barrier.src.layout_ne_undefined]

/-- Two entries are the halves of one barrier between two queues: they are on the same, change it
between the same families and layouts, and wait for the same. What waits for it is up to the
acquiring half. What waits for what is told for each half, as the two are recorded on different
queues. -/
structure Halves (acquired released : Entry) (lookup : Lookup) (barrier : Barrier)
    (transfer : QueueTransfer) : Prop where
  /-- They are on the resource of the barrier. -/
  subject : lookup.subject? barrier = some acquired.subject ∧ released.subject = acquired.subject
  /-- It changes between the families of the two queues. -/
  families : acquired.families? = some ⟨lookup.family transfer.src, lookup.family transfer.dst⟩ ∧
    released.families? = acquired.families?
  /-- Images change between the layouts of the barrier, of which the first is that of contents which
  are not defined if they are discarded, and only then. -/
  layouts : released.layouts? = acquired.layouts? ∧
    acquired.layouts?.isSome = barrier.key.any (·.isImage) ∧
    ∀ before after, acquired.layouts? = some (before, after) →
      after = barrier.dst.layout ∧ (barrier.discard = false → before = barrier.src.layout) ∧
      (before = .undefined ↔ barrier.discard = true)
  /-- The releasing half says what has to happen before it, and nothing of what comes after. -/
  released : released.sync = ⟨barrier.src.access.stages, barrier.src.access.flags, 0, 0⟩
  /-- The acquiring half says both. -/
  acquired : acquired.sync = ⟨barrier.src.access.stages, barrier.src.access.flags,
    barrier.dst.access.stages, barrier.dst.access.flags⟩

/-- **The halves match.** Take a barrier, a lookup, a collection here for the queue that gives the
resource away and one there for the queue that gets it. Both operations do nothing or add one entry
to one of three lists. The releasing half is added if and only if there is one by
`Lookup.Releases`. Then the acquiring half is added too, and the two entries match. If the family
does not change, neither does what is added there speak of families. -/
theorem Barriers.halves_match (here there : Barriers) (barrier : Barrier) (lookup : Lookup) :
    let release := here.pushRelease barrier lookup
    let acquire := there.push barrier lookup
    (∃ added, release.Adds here added) ∧ (∃ added, acquire.Adds there added) ∧
      (release.done = true ↔ lookup.Releases barrier) ∧
      (release.done = true → ∃ transfer released acquired,
        barrier.transfer = some transfer ∧
        release.Adds here (some released) ∧ acquire.Adds there (some acquired) ∧
        Halves acquired released lookup barrier transfer) ∧
      ((∀ transfer, barrier.transfer = some transfer →
          lookup.family transfer.src = lookup.family transfer.dst) →
        ∀ entry families, acquire.Adds there (some entry) → entry.families? = some families →
          families = ⟨ignoredFamily, ignoredFamily⟩) := by
  intro release acquire
  have same (releases : lookup.Releases barrier) :
      release = here.addHalf barrier lookup .release := pushRelease_of_releases releases here
  -- Whether there is a releasing half is decided by the barrier and the lookup, not by what was
  -- collected.
  have decides : release.done = true ↔ lookup.Releases barrier := by
    refine ⟨fun done => ?_, fun releases => ?_⟩
    · by_contra keeps
      exact absurd ((pushRelease_of_not_releases keeps here).1.symm.trans done) (by decide)
    · obtain ⟨-, subject, known⟩ := releases.subject
      obtain ⟨entry, adds, -⟩ := addHalf_of_known known here .release
      exact (congrArg Push.done (same releases)).trans adds.1
  have gives : ∃ added, release.Adds here added := by
    by_cases releases : lookup.Releases barrier
    · obtain ⟨added, adds⟩ := here.addHalf_adds barrier lookup .release
      exact ⟨added, same releases ▸ adds⟩
    · exact ⟨none, pushRelease_of_not_releases releases here⟩
  refine ⟨gives, there.addHalf_adds barrier lookup .acquire, decides, fun done => ?_, ?_⟩
  · have releases := decides.1 done
    obtain ⟨owned, subject, known⟩ := releases.subject
    obtain ⟨transfer, handed, differ, -⟩ := releases.crosses
    obtain ⟨released, gives, gave⟩ := addHalf_of_known known here .release
    obtain ⟨acquired, gets, got⟩ := addHalf_of_known known there .acquire
    refine ⟨transfer, released, acquired, handed, same releases ▸ gives, gets, ?_⟩
    exact
      { subject := ⟨got.subject, Option.some.inj (gave.subject.symm.trans got.subject)⟩
        families := by
          rw [got.families, gave.families, if_pos owned,
            Lookup.families_of_crosses handed differ]
          exact ⟨rfl, rfl⟩
        layouts := by
          rw [got.layouts, gave.layouts]
          refine ⟨rfl, ?_, fun before after => layoutsOf?_spec⟩
          unfold layoutsOf?
          split
          case isTrue image => exact image.symm
          case isFalse other => exact (eq_false_of_ne_true other).symm
        released := gave.sync
        acquired := got.sync }
  -- A transfer within one family is a plain barrier, and says so with families that are ignored.
  · intro stays entry families adds changes
    rw [adds.states.families] at changes
    split at changes
    case isFalse => cases changes
    case isTrue => exact (Option.some.inj changes).symm.trans (Lookup.families_of_stays stays)

/-- An image goes from the transfer queue to the graphics queue, and its contents are not needed. It
is released and acquired, both times from a layout in which nothing is defined. -/
theorem Barriers.halves_match_discarded :
    let lookup := Lookup.ofTables [(⟨2⟩, ⟨7, 1⟩)] [] [0, 0, 1]
    let barrier := ((Barrier.resource ⟨.image, ⟨2⟩⟩ .copyDst .shaderSample).withDiscard
      true).withTransfer .asyncTransfer .graphics
    (pushRelease {} barrier lookup).done = true ∧ lookup.Releases barrier ∧
      (push {} barrier lookup).done = true ∧
      layoutsOf? barrier = some (.undefined, .shaderReadOnly) := by
  intro lookup barrier
  obtain ⟨-, -, decides, both, -⟩ := halves_match {} {} barrier lookup
  have done : (pushRelease {} barrier lookup).done = true := by decide +kernel
  obtain ⟨_, _, acquired, -, -, gets, -⟩ := both done
  exact ⟨done, decides.1 done, gets.1, by decide +kernel⟩

end Vulkan

end GpuSync
