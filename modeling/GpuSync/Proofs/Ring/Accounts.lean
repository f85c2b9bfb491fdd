import GpuSync.Proofs.Ring.Desk
import Mathlib.Algebra.Ring.Nat
import Mathlib.Data.List.Flatten
import Mathlib.Data.List.Nodup

/-!
# Who has which batch slot

The same facts about batch slots are kept in four places: the pool marks the slots that are handed
out, every frame lists those handed out in it and counts them by queue, and the batches begun in a
frame have their slots in their identities. A batch that is given up before it is begun leaves a
slot that no batch has.

* `Submission.Newest` is the latest submission in its slot, the one its identity leads to.
* `FrameRing.FrameFits` is what one frame has to say about its batches, and `Desk.Drafted` what the
  ring knows of a batch that is open.
* `Desk.Accounts` ties the four places together; every change keeps it (`Desk.Accounts.change`).
* **`Desk.slot_accounts`** is the result for all runs.
-/

namespace GpuSync

/-! ## Giving several slots back

A frame gives all of its slots back at once. What comes of it is that of one slot, repeated; the
count falls by their number only if all were taken and none comes twice, which the accounts have to
supply. -/

namespace Slot.Pool

variable {shape : Shape} {α : Type}

/-- Gives slots back, one by one. -/
def giveBack (pool : Pool shape α) (slots : List Nat) : Pool shape α :=
  slots.foldl (fun pool slot => (pool.unassign slot).2) pool

/-- Slots that are given back keep their values. -/
theorem values_giveBack (pool : Pool shape α) (slots : List Nat) :
    (pool.giveBack slots).values = pool.values := by
  induction slots generalizing pool with
  | nil => rfl
  | cons slot rest ih => exact (ih _).trans (values_unassign pool slot)

/-- Giving slots back leaves the pool with all its chunks. -/
theorem Whole.giveBack {pool : Pool shape α} (h : pool.Whole) (slots : List Nat) :
    (pool.giveBack slots).Whole := by
  induction slots generalizing pool with
  | nil => exact h
  | cons slot rest ih => exact ih (h.unassign slot)

/-- Giving slots back frees those and no others. -/
theorem isAssigned_giveBack {pool : Pool shape α} (h : pool.Whole) (slots : List Nat) (i : Nat) :
    (pool.giveBack slots).isAssigned i = true ↔ pool.isAssigned i = true ∧ i ∉ slots := by
  induction slots generalizing pool with
  | nil => simp [Pool.giveBack]
  | cons slot rest ih =>
    show ((pool.unassign slot).2.giveBack rest).isAssigned i = true ↔ _
    rw [ih (h.unassign slot), isAssigned_unassign h, List.mem_cons]
    by_cases same : i = slot <;> simp [same]

/-- Giving back slots that are taken frees that many. -/
theorem assignedCount_giveBack {pool : Pool shape α} (h : pool.Whole) {slots : List Nat}
    (nodup : slots.Nodup) (taken : ∀ i ∈ slots, pool.isAssigned i = true) :
    (pool.giveBack slots).assignedCount + slots.length = pool.assignedCount := by
  induction slots generalizing pool with
  | nil => rfl
  | cons slot rest ih =>
    obtain ⟨absent, nodup⟩ := List.nodup_cons.1 nodup
    have one := assignedCount_unassign h (taken slot List.mem_cons_self)
    have others := ih (h.unassign slot) nodup (by
      intro i mem
      rw [isAssigned_unassign h, if_neg (by rintro rfl; exact absent mem)]
      exact taken i (List.mem_cons_of_mem slot mem))
    rw [List.length_cons, ← one, ← others]
    show ((pool.unassign slot).2.giveBack rest).assignedCount + _ = _
    omega

end Slot.Pool

/-! ## The newest submission in a slot

Submissions are never removed, so several of them may have had the same slot. The one that counts is
the newest, and it stays so until the slot is handed out again and a batch is begun in it. -/

namespace Submission

/-- No later submission has the slot of this one. Several submissions may have had a slot one after
the other. This is the one that a look-up by identity comes to. -/
def Newest (roll : List Tag) (n : Nat) (tag : Tag) : Prop :=
  roll[n]? = some tag ∧
    ∀ (m : Nat) (later : Tag), n < m → roll[m]? = some later → later.id.index ≠ tag.id.index

variable {roll : List Tag} {m n : Nat} {tag other new : Tag}

/-- A submission stays the newest in its slot while others are handed out. -/
theorem Newest.append (h : Newest roll n tag) (apart : new.id.index ≠ tag.id.index) :
    Newest (roll ++ [new]) n tag := by
  refine ⟨getElem?_concat_eq_some.2 (.inl h.1), ?_⟩
  intro m later less found
  rcases getElem?_concat_eq_some.1 found with old | ⟨-, rfl⟩
  · exact h.2 m later less old
  · exact apart

/-- The newest submission in a slot was the newest before one in another slot was added. -/
theorem Newest.of_append (h : Newest (roll ++ [new]) n tag) (apart : new.id.index ≠ tag.id.index) :
    Newest roll n tag := by
  rcases getElem?_concat_eq_some.1 h.1 with old | ⟨-, rfl⟩
  · exact ⟨old, fun m later less found =>
      h.2 m later less (getElem?_concat_eq_some.2 (.inl found))⟩
  · exact absurd rfl apart

/-- The submission added last is the newest in its slot. -/
theorem newest_last (roll : List Tag) (new : Tag) : Newest (roll ++ [new]) roll.length new := by
  refine ⟨by simp, ?_⟩
  intro m later less found
  have bound := (List.getElem?_eq_some_iff.1 found).1
  rw [List.length_append, List.length_singleton] at bound
  omega

/-- A slot has one newest submission. -/
theorem Newest.unique (h : Newest roll m tag) (h' : Newest roll n other)
    (same : tag.id.index = other.id.index) : m = n := by
  rcases Nat.lt_trichotomy m n with less | same' | less
  · exact absurd same.symm (h.2 n other less h'.1)
  · exact same'
  · exact absurd same (h'.2 m tag less h.1)

/-- A slot has but one newest submission. -/
theorem Newest.tag_eq (h : Newest roll m tag) (h' : Newest roll n other)
    (same : tag.id.index = other.id.index) : tag = other := by
  have found := h.1
  rw [h.unique h' same, h'.1] at found
  exact (Option.some.inj found).symm

end Submission

namespace FrameRing

open Submission (Newest)

/-- The newest submission in a slot is the one that its identity leads to. Identities may come
again, so the look-up takes the last one that has the identity. -/
theorem submission?_of_newest {ring : FrameRing} {n : Nat} {tag : Submission.Tag}
    (newest : Newest ring.roll n tag) :
    ∃ submission, ring.submissions[n]? = some submission ∧ submission.tag = tag ∧
      ring.submission? tag.id = some submission := by
  obtain ⟨found, later⟩ := newest
  unfold roll at found later
  rw [List.getElem?_map] at found
  obtain ⟨submission, at', same⟩ := Option.map_eq_some_iff.1 found
  refine ⟨submission, at', same, ?_⟩
  obtain ⟨bound, get⟩ := List.getElem?_eq_some_iff.1 at'
  have named : submission.id = tag.id := congrArg Submission.Tag.id same
  have split : ring.submissions =
      ring.submissions.take n ++ submission :: ring.submissions.drop (n + 1) := by
    rw [← get, List.getElem_cons_drop, List.take_append_drop]
  have none : (ring.submissions.drop (n + 1)).reverse.find? (·.id == tag.id) = none := by
    rw [List.find?_eq_none]
    intro other mem same'
    obtain ⟨k, at''⟩ := List.mem_iff_getElem?.1 (List.mem_reverse.1 mem)
    rw [List.getElem?_drop] at at''
    refine later (n + 1 + k) other.tag (by omega) ?_ ?_
    · rw [List.getElem?_map, at'']
      rfl
    · exact congrArg BatchId.index (show other.id = tag.id by simpa using same')
  unfold submission?
  rw [List.findRev?_eq_find?_reverse, split, List.reverse_append, List.reverse_cons,
    List.find?_append, List.find?_append, none]
  simp [named]

/-! ## One frame

The counters of a frame run ahead of its batches, because a batch is counted as it is opened and is
listed as it is begun. So a slot of the frame need not have a batch, and positions may have gaps,
but no position comes twice. -/

/-- The slots handed out in all frames. -/
def inUse (ring : FrameRing) : List Nat := ring.frames.flatMap (·.slots)

/-- What a frame has to say about its batches. -/
structure FrameFits (config : Config) (roll : List Submission.Tag) (frame : Frame) : Prop where
  /-- It counts its slots by queue. -/
  sum : (Queue.all.map frame.submittedTo).sum = frame.slots.length
  /-- No queue has too many. -/
  limited : ∀ queue, frame.submittedTo queue ≤ config.maxPerQueue
  /-- It knows no batch twice. -/
  nodup : frame.batches.Nodup
  /-- Its batches are the newest in their slots, which were handed out in it, and have their places
  on their queues. -/
  registered : ∀ id ∈ frame.batches, ∃ n tag, Newest roll n tag ∧ tag.id = id ∧
    id.index.toNat ∈ frame.slots ∧ tag.position < frame.submittedTo tag.queue
  /-- No two of them have the same place on the same queue. -/
  distinct : ∀ m n s t, Newest roll m s → Newest roll n t → s.id ∈ frame.batches →
    t.id ∈ frame.batches → s.queue = t.queue → s.position = t.position → s.id = t.id

/-- Another batch slot is counted on its queue. -/
theorem submittedTo_opened (frame : Frame) (slot : Nat) (queue other : Queue) :
    (frame.opened slot queue).submittedTo other =
      if other = queue then frame.submittedTo queue + 1 else frame.submittedTo other := by
  unfold Frame.opened Frame.submittedTo
  dsimp only
  by_cases same : other = queue
  · subst same
    rw [if_pos rfl]
    exact Vector.getElem_set_self _
  · rw [if_neg same]
    refine Vector.getElem_set_ne _ _ fun eq => same ?_
    exact (Queue.index_injective (Fin.ext eq)).symm

/-- A batch opened in a frame is counted once over all queues. -/
theorem sum_submittedTo_opened (frame : Frame) (slot : Nat) (queue : Queue) :
    (Queue.all.map (frame.opened slot queue).submittedTo).sum =
      (Queue.all.map frame.submittedTo).sum + 1 := by
  simp only [Queue.all, List.map_cons, List.map_nil, List.sum_cons, List.sum_nil,
    submittedTo_opened]
  cases queue <;> simp <;> omega

section

variable {config : Config} {roll : List Submission.Tag} {frame : Frame}

/-- Surfaces make no difference. -/
theorem FrameFits.bare_iff : FrameFits config roll frame.bare ↔ FrameFits config roll frame :=
  ⟨fun h => ⟨h.sum, h.limited, h.nodup, h.registered, h.distinct⟩,
    fun h => ⟨h.sum, h.limited, h.nodup, h.registered, h.distinct⟩⟩

/-- A frame in which nothing happened yet. -/
theorem frameFits_fresh (config : Config) (roll : List Submission.Tag) (id : FrameId) :
    FrameFits config roll { id } where
  sum := rfl
  limited := by
    intro queue
    have none : ({ id } : Frame).submittedTo queue = 0 := Vector.getElem_replicate _
    rw [none]
    exact Nat.zero_le _
  nodup := .nil
  registered := nofun
  distinct := fun _ _ _ _ _ _ mem => nomatch mem

/-- Another slot is handed out. The frame has room on the queue, as this was looked at before. -/
theorem FrameFits.opened (h : FrameFits config roll frame) (slot : Nat) {queue : Queue}
    (room : frame.submittedTo queue < config.maxPerQueue) :
    FrameFits config roll (frame.opened slot queue) := by
  have grows (other : Queue) :
      frame.submittedTo other ≤ (frame.opened slot queue).submittedTo other := by
    rw [submittedTo_opened]
    split
    · rename_i same
      rw [same]
      exact Nat.le_succ _
    · exact Nat.le_refl _
  refine {
    sum := ?sum
    limited := ?limited
    nodup := h.nodup
    registered := ?registered
    distinct := h.distinct }
  case sum =>
    rw [sum_submittedTo_opened, h.sum]
    simp [Frame.opened]
  case limited =>
    intro other
    rw [submittedTo_opened]
    split
    · exact room
    · exact h.limited other
  case registered =>
    intro id mem
    obtain ⟨n, tag, newest, named, mem', place⟩ := h.registered id mem
    exact ⟨n, tag, newest, named, List.mem_append_left _ mem',
      Nat.lt_of_lt_of_le place (grows tag.queue)⟩

/-- A batch is begun in a slot that none of the frame's batches has. -/
theorem FrameFits.append (h : FrameFits config roll frame) {new : Submission.Tag}
    (apart : ∀ id ∈ frame.batches, id.index ≠ new.id.index) :
    FrameFits config (roll ++ [new]) frame := by
  refine ⟨h.sum, h.limited, h.nodup, ?_, ?_⟩
  · intro id mem
    obtain ⟨n, tag, newest, named, slot, place⟩ := h.registered id mem
    have apart' : new.id.index ≠ tag.id.index := by
      rw [named]
      exact (apart id mem).symm
    exact ⟨n, tag, newest.append apart', named, slot, place⟩
  · intro m n s t newest newest' mem mem'
    exact h.distinct m n s t (newest.of_append (apart s.id mem).symm)
      (newest'.of_append (apart t.id mem').symm) mem mem'

/-- A batch is begun in the frame. -/
theorem FrameFits.join (h : FrameFits config roll frame) {new : Submission.Tag}
    (apart : ∀ id ∈ frame.batches, id.index ≠ new.id.index)
    (slot : new.id.index.toNat ∈ frame.slots)
    (place : new.position < frame.submittedTo new.queue)
    (alone : ∀ n tag, Newest roll n tag → tag.id ∈ frame.batches → tag.queue = new.queue →
      tag.position ≠ new.position) :
    FrameFits config (roll ++ [new]) { frame with batches := frame.batches ++ [new.id] } := by
  have old := h.append apart
  refine {
    sum := h.sum
    limited := h.limited
    nodup := ?nodup
    registered := ?registered
    distinct := ?distinct }
  case nodup =>
    rw [List.nodup_append]
    refine ⟨h.nodup, List.nodup_singleton _, ?_⟩
    intro id mem id' mem' same
    rw [same, List.mem_singleton.1 mem'] at mem
    exact apart new.id mem rfl
  case registered =>
    intro id mem
    rcases List.mem_append.1 mem with mem | mem
    · exact old.registered id mem
    · rw [List.mem_singleton.1 mem]
      exact ⟨roll.length, new, Submission.newest_last roll new, rfl, slot, place⟩
  -- Two batches of one position on one queue: both were in the frame before, or one of them is the
  -- new one, whose position nobody had.
  case distinct =>
    have last {n : Nat} {tag : Submission.Tag} (newest : Newest (roll ++ [new]) n tag)
        (mem : tag.id ∈ [new.id]) : tag = new :=
      newest.tag_eq (Submission.newest_last roll new)
        (congrArg BatchId.index (List.mem_singleton.1 mem))
    have differs {n : Nat} {tag : Submission.Tag} (newest : Newest (roll ++ [new]) n tag)
        (mem : tag.id ∈ frame.batches) (queue : tag.queue = new.queue) :
        tag.position ≠ new.position :=
      alone n tag (newest.of_append (apart tag.id mem).symm) mem queue
    intro m n s t newest newest' mem mem' queue position
    rcases List.mem_append.1 mem with mem | mem <;> rcases List.mem_append.1 mem' with mem' | mem'
    · exact old.distinct m n s t newest newest' mem mem' queue position
    · cases last newest' mem'
      exact absurd position (differs newest mem queue)
    · cases last newest mem
      exact absurd position.symm (differs newest' mem' queue.symm)
    · rw [last newest mem, last newest' mem']

end

/-! ## Frames of a ring

An operation writes one frame at most. What is in use afterwards is what the others have, with what
the written one has, and this is all that the accounts ask of the list of frames. -/

/-- A change of the current frame changes the frame in its place and no other. -/
theorem frames_modifyCurrent (ring : FrameRing) {frame : Frame}
    (found : ring.frames[ring.current.index.toNat]? = some frame) (f : Frame → Frame) :
    (ring.modifyCurrent f).frames = ring.frames.set ring.current.index.toNat (f frame) :=
  modify_eq_set f found

/-- A slot is handed out in the current frame. -/
theorem frames_handOut {ring : FrameRing}
    (found : ring.frames[ring.current.index.toNat]? = some ring.currentFrame) (slot : Nat)
    (queue : Queue) :
    (ring.handOut slot queue).frames =
      ring.frames.set ring.current.index.toNat (ring.currentFrame.opened slot queue) :=
  frames_modifyCurrent { ring with slots := _ } found _

/-- What never changes about a batch that is begun now. -/
def newTag (ring : FrameRing) (draft : Draft) : Submission.Tag where
  id := draft.batch.id
  queue := draft.batch.queue
  position := draft.position
  frame := ring.current
  serial := ring.submissions.length

/-- To begin a batch adds its tag to the roll. -/
theorem roll_beginBatch (ring : FrameRing) (draft : Draft) (label : String) :
    (ring.beginBatch draft label).2.1.roll = ring.roll ++ [ring.newTag draft] :=
  List.map_append

/-- A batch that is begun gets the next number. -/
theorem numbered_beginBatch {ring : FrameRing} (numbered : ring.Numbered) (draft : Draft)
    (label : String) : (ring.beginBatch draft label).2.1.Numbered := by
  intro n tag found
  rw [roll_beginBatch] at found
  rcases getElem?_concat_eq_some.1 found with old | ⟨last, same⟩
  · exact numbered n tag old
  · rw [← same, last]
    exact (List.length_map _).symm

/-- A batch is begun in the current frame. -/
theorem frames_beginBatch {ring : FrameRing}
    (found : ring.frames[ring.current.index.toNat]? = some ring.currentFrame) (draft : Draft)
    (label : String) :
    (ring.beginBatch draft label).2.1.frames = ring.frames.set ring.current.index.toNat
      { ring.currentFrame with batches := ring.currentFrame.batches ++ [draft.batch.id] } :=
  frames_modifyCurrent { ring with submissions := _ } found _

/-- Handing slots out in one frame. -/
theorem inUse_perm {ring after : FrameRing} {p : Nat} {old new : Frame}
    (found : ring.frames[p]? = some old) (set : after.frames = ring.frames.set p new)
    {more : List Nat} (slots : new.slots = old.slots ++ more) :
    after.inUse.Perm (ring.inUse ++ more) := by
  have exchanged := flatMap_set_perm Frame.slots found new
  rw [slots, ← set] at exchanged
  refine (List.perm_append_right_iff old.slots).1 (exchanged.trans ?_)
  rw [List.append_assoc]
  exact List.perm_append_comm.append_left _

/-- Surfaces make no difference. -/
theorem inUse_eq_of_bare {ring after : FrameRing}
    (same : after.frames.map Frame.bare = ring.frames.map Frame.bare) :
    after.inUse = ring.inUse := by
  have bare (frames : List Frame) :
      frames.flatMap (·.slots) = (frames.map Frame.bare).flatMap (·.slots) := by
    rw [List.flatMap_map]
    rfl
  unfold inUse
  rw [bare after.frames, same, ← bare]

/-- Frames that are the same but for what they present have the same accounts. -/
theorem exists_bare {ring after : FrameRing}
    (same : after.frames.map Frame.bare = ring.frames.map Frame.bare) {frame : Frame}
    (mem : frame ∈ after.frames) : ∃ former ∈ ring.frames, former.bare = frame.bare := by
  have mem' := List.mem_map_of_mem (f := Frame.bare) mem
  rw [same] at mem'
  exact List.mem_map.1 mem'

/-- The current frame has the same accounts while the ring stays in it. -/
theorem bare_currentFrame {ring after : FrameRing}
    (same : after.frames.map Frame.bare = ring.frames.map Frame.bare)
    (current : after.current = ring.current) :
    after.currentFrame.bare = ring.currentFrame.bare := by
  have bare (ring : FrameRing) : ring.currentFrame.bare =
      (ring.frames.map Frame.bare)[ring.current.index.toNat]?.getD { id := ring.current } := by
    unfold currentFrame
    rw [List.getElem?_map]
    cases ring.frames[ring.current.index.toNat]? <;> rfl
  rw [bare after, bare ring, same, current]

/-- A new ring has no slots in use. -/
theorem inUse_new (config : Config) (surfaces : List Surface) :
    (new config surfaces).inUse = [] := by
  refine List.flatMap_eq_nil_iff.2 fun frame mem => ?_
  obtain ⟨index, -, rfl⟩ := List.mem_map.1 mem
  rfl

/-- What limits that make sense are. There are two places at least and no more than the limit, and
the pool has room for as many batches as may be pending. -/
theorem Config.of_valid {config : Config} (valid : config.fault? = none) :
    2 ≤ config.maxFrames ∧ config.maxFrames ≤ framesLimit ∧ 1 ≤ config.maxPending ∧
      config.maxPending ≤ batchCapacity ∧ 0 < config.maxPerQueue := by
  unfold Config.fault? at valid
  split at valid
  · cases valid
  split at valid
  · cases valid
  split at valid
  · cases valid
  simp at *
  omega

/-- The current frame is the one in the current place. -/
theorem currentFrame_eq {ring : FrameRing} {frame : Frame}
    (found : ring.frames[ring.current.index.toNat]? = some frame) : ring.currentFrame = frame := by
  unfold currentFrame
  rw [found]
  rfl

end FrameRing

namespace Desk

open FrameRing (FrameFits)
open Submission (Newest)

/-! ## The whole desk

The pool, the frames and the submissions each know a part of who has which slot. The clause that
carries the others is that what is in use has no slot twice and is just what the pool has taken; a
slot that the search finds is then in no frame. -/

/-- What the ring knows of a batch that is open. It has a slot and a position already, and is not on
the roll yet. -/
structure Drafted (ring : FrameRing) (draft : FrameRing.Draft) : Prop where
  /-- The ring is in a frame. -/
  begun : ring.phase = .begun
  /-- The slot was handed out in that frame. -/
  slot : draft.batch.id.index.toNat ∈ ring.currentFrame.slots
  /-- The place on the queue is counted. -/
  place : draft.position < ring.currentFrame.submittedTo draft.batch.queue
  /-- No batch of the frame has that place. -/
  alone : ∀ n tag, Newest ring.roll n tag → tag.id ∈ ring.currentFrame.batches →
    tag.queue = draft.batch.queue → tag.position ≠ draft.position
  /-- No batch of any frame has that slot. -/
  apart : ∀ frame ∈ ring.frames, ∀ id ∈ frame.batches, id.index ≠ draft.batch.id.index

/-- The pool, the frames and the batches agree on who has which slot. The slots in use by the frames
are distinct and are those that the pool has as taken; the rest is what keeps this true as frames
come and go. -/
structure Accounts (config : FrameRing.Config) (desk : Desk) : Prop where
  /-- The limits stay. -/
  limits : desk.ring.config = config
  /-- There are so many places. -/
  places : desk.ring.frames.length = config.maxFrames
  /-- The current frame has one of them. -/
  current : desk.ring.current.index.toNat < config.maxFrames
  /-- The current frame knows how many there are. -/
  cycle : desk.ring.current.places = UInt32.ofNat config.maxFrames
  /-- The pool has all its chunks. -/
  whole : desk.ring.slots.Whole
  /-- A slot keeps identities of its own. -/
  owner : ∀ slot id, desk.ring.slots.values.find? slot = some id → id.index = UInt32.ofNat slot
  /-- No slot is handed out twice. -/
  nodup : desk.ring.inUse.Nodup
  /-- The pool marks the slots that are handed out. -/
  taken : ∀ slot, desk.ring.slots.isAssigned slot = true ↔ slot ∈ desk.ring.inUse
  /-- It counts them. -/
  counted : desk.ring.slots.assignedCount = desk.ring.inUse.length
  /-- They are not too many. -/
  few : desk.ring.inUse.length ≤ config.maxPending
  /-- Submissions have their numbers. -/
  numbered : desk.ring.Numbered
  /-- Every frame has its batches right. -/
  fits : ∀ frame ∈ desk.ring.frames, FrameFits config desk.ring.roll frame
  /-- A batch that is open is known. -/
  drafted : ∀ draft, desk.draft = some draft → Drafted desk.ring draft

/-- An act that begins a frame on its own gives it a place of the ring. -/
def Act.Fits (config : FrameRing.Config) : Act → Prop
  | .beginFrameAs id =>
    id.places = UInt32.ofNat config.maxFrames ∧ id.index.toNat < config.maxFrames
  | _ => True

section

variable {config : FrameRing.Config} {desk after : Desk}

/-- The current place has a frame, so that the default is never read. -/
theorem Accounts.getElem?_current (h : Accounts config desk) :
    desk.ring.frames[desk.ring.current.index.toNat]? = some desk.ring.currentFrame := by
  have bound : desk.ring.current.index.toNat < desk.ring.frames.length := by
    rw [h.places]
    exact h.current
  unfold FrameRing.currentFrame
  rw [List.getElem?_eq_getElem bound]
  rfl

/-- The current frame is one of the frames of the ring. -/
theorem Accounts.currentFrame_mem (h : Accounts config desk) :
    desk.ring.currentFrame ∈ desk.ring.frames :=
  List.mem_of_getElem? h.getElem?_current

/-- A slot that is free was not handed out in any frame. -/
theorem Accounts.notMem_of_free (h : Accounts config desk) {slot : Nat}
    (search : desk.ring.slots.firstFree? 0 = some slot) : slot ∉ desk.ring.inUse := by
  intro mem
  have free := (Slot.Pool.firstFree?_eq_some h.whole search).2
  rw [(h.taken slot).2 mem] at free
  cases free

/-- The next identity of a slot leads to the slot. -/
theorem Accounts.nextId_index (h : Accounts config desk) (slot : Nat) :
    (desk.ring.nextId slot).index = UInt32.ofNat slot := by
  unfold FrameRing.nextId
  split
  · rfl
  · rename_i former found
    exact h.owner slot former found

/-- A desk starts with its accounts in order: nothing is handed out. There are as many places as the
limits say, all of them empty. -/
theorem accounts_start (valid : config.fault? = none) (surfaces : List Surface) :
    Accounts config (start config surfaces) := by
  have none : (start config surfaces).ring.inUse = [] := FrameRing.inUse_new config surfaces
  refine {
    limits := rfl
    places := ?places
    current := ?current
    cycle := rfl
    whole := Slot.Pool.whole_empty
    owner := ?owner
    nodup := ?nodup
    taken := ?taken
    counted := ?counted
    few := ?few
    numbered := ?numbered
    fits := ?fits
    drafted := ?drafted }
  case places => exact (List.length_map _).trans List.length_range
  case current => exact Nat.lt_of_lt_of_le Nat.zero_lt_two (FrameRing.Config.of_valid valid).1
  case owner =>
    intro slot id found
    rw [show (start config surfaces).ring.slots.values = .empty from rfl,
      RadixMap.find?_empty] at found
    cases found
  case nodup =>
    rw [none]
    exact .nil
  case taken =>
    intro slot
    rw [none, show (start config surfaces).ring.slots = .empty from rfl,
      Slot.Pool.isAssigned_empty]
    simp
  case counted =>
    rw [none]
    rfl
  case few =>
    rw [none]
    exact Nat.zero_le _
  case numbered =>
    intro n tag found
    cases found
  case fits =>
    intro frame mem
    obtain ⟨index, -, rfl⟩ := List.mem_map.1 mem
    exact FrameRing.frameFits_fresh config _ _
  case drafted =>
    intro draft held
    cases held

/-- A batch that is open stays in its place while no frame and no batch is begun. -/
theorem Drafted.quiet {draft former : FrameRing.Draft} (h : Drafted desk.ring former)
    (quiet : Quiet desk after) (held : desk.draft = some former)
    (user : draft.batch.user = former.batch.user) (position : draft.position = former.position) :
    Drafted after.ring draft := by
  have id : draft.batch.id = former.batch.id := congrArg BatchUse.batch user
  have queue : draft.batch.queue = former.batch.queue := congrArg BatchUse.queue user
  have bare := FrameRing.bare_currentFrame quiet.frames quiet.current
  obtain ⟨batches, slots, counts⟩ := Frame.eq_of_bare bare
  have submitted (queue : Queue) :
      after.ring.currentFrame.submittedTo queue = desk.ring.currentFrame.submittedTo queue := by
    unfold Frame.submittedTo
    rw [counts]
  refine {
    begun := ?begun
    slot := ?slot
    place := ?place
    alone := ?alone
    apart := ?apart }
  case begun =>
    rcases quiet.phase with same | ⟨free, -, -⟩
    · exact same.trans h.begun
    · rw [held] at free
      cases free
  case slot =>
    rw [id, slots]
    exact h.slot
  case place =>
    rw [position, queue, submitted]
    exact h.place
  case alone =>
    rw [quiet.roll, batches, queue, position]
    exact h.alone
  case apart =>
    intro frame mem
    obtain ⟨other, mem', same⟩ := FrameRing.exists_bare quiet.frames mem
    rw [← (Frame.eq_of_bare same).1, id]
    exact h.apart other mem'

/-- Accounts stay in order while no frame is begun, no batch opened and none begun. -/
theorem Accounts.quiet (h : Accounts config desk) (quiet : Quiet desk after) :
    Accounts config after := by
  have inUse := FrameRing.inUse_eq_of_bare quiet.frames
  refine {
    limits := quiet.config.trans h.limits
    places := ?places
    current := ?current
    cycle := ?cycle
    whole := ?whole
    owner := ?owner
    nodup := ?nodup
    taken := ?taken
    counted := ?counted
    few := ?few
    numbered := ?numbered
    fits := ?fits
    drafted := ?drafted }
  case places =>
    rw [← List.length_map (f := Frame.bare), quiet.frames, List.length_map]
    exact h.places
  case current =>
    rw [quiet.current]
    exact h.current
  case cycle =>
    rw [quiet.current]
    exact h.cycle
  case whole =>
    rw [quiet.slots]
    exact h.whole
  case owner =>
    rw [quiet.slots]
    exact h.owner
  case nodup =>
    rw [inUse]
    exact h.nodup
  case taken =>
    rw [quiet.slots, inUse]
    exact h.taken
  case counted =>
    rw [quiet.slots, inUse]
    exact h.counted
  case few =>
    rw [inUse]
    exact h.few
  case numbered =>
    unfold FrameRing.Numbered
    rw [quiet.roll]
    exact h.numbered
  -- The frames may have changed in their surfaces only, which the accounts of a frame do not read.
  case fits =>
    intro frame mem
    obtain ⟨former, mem', same⟩ := FrameRing.exists_bare quiet.frames mem
    rw [quiet.roll]
    apply FrameRing.FrameFits.bare_iff.1
    rw [← same]
    exact FrameRing.FrameFits.bare_iff.2 (h.fits former mem')
  case drafted =>
    intro draft held
    obtain ⟨former, held', user, position⟩ := quiet.draft draft held
    exact (h.drafted former held').quiet quiet held' user position

/-- Accounts are in order as a frame begins in the place of another: the slots of that one are given
back, and no frame in flight has any of them. -/
theorem Accounts.frame (h : Accounts config desk) {act : Act} (fits : act.Fits config)
    {id : FrameId} {former : Frame}
    (which : act = .beginFrame ∧ id = desk.ring.current.next ∨ act = .beginFrameAs id)
    (free : desk.draft = none) (found : desk.ring.frames[id.index.toNat]? = some former) :
    Accounts config
      { desk with ring := desk.ring.turn id former, begun := desk.begun ++ [id] } := by
  -- What was in use is what the frames have now and what the replaced frame had. Both follow from
  -- it, that the kept slots are distinct and that the given back ones are not among them.
  have perm : ((desk.ring.turn id former).inUse ++ former.slots).Perm desk.ring.inUse := by
    have exchanged := flatMap_set_perm Frame.slots found { id }
    rw [List.append_nil] at exchanged
    exact exchanged
  have nodup : ((desk.ring.turn id former).inUse ++ former.slots).Nodup :=
    perm.nodup_iff.2 h.nodup
  obtain ⟨kept, gone, apart⟩ := List.nodup_append.1 nodup
  have shorter := perm.length_eq
  rw [List.length_append] at shorter
  refine {
    limits := h.limits
    places := ?places
    current := ?current
    cycle := ?cycle
    whole := ?whole
    owner := ?owner
    nodup := kept
    taken := ?taken
    counted := ?counted
    few := ?few
    numbered := h.numbered
    fits := ?fits
    drafted := ?drafted }
  case places => exact (List.length_set ..).trans h.places
  case current =>
    have bound := (List.getElem?_eq_some_iff.1 found).1
    rw [h.places] at bound
    exact bound
  case cycle =>
    rcases which with ⟨-, rfl⟩ | rfl
    · exact h.cycle
    · exact fits.1
  case whole => exact h.whole.giveBack former.slots
  case owner =>
    intro slot id' found'
    have same : (desk.ring.freeSlots former).values = desk.ring.slots.values :=
      Slot.Pool.values_giveBack desk.ring.slots former.slots
    refine h.owner slot id' ?_
    rw [← same]
    exact found'
  -- A slot is assigned from now on if it was and is not among those given back.
  case taken =>
    intro slot
    refine (Slot.Pool.isAssigned_giveBack h.whole former.slots slot).trans ?_
    rw [h.taken, ← perm.mem_iff, List.mem_append]
    constructor
    · rintro ⟨mem | mem, absent⟩
      · exact mem
      · exact absurd mem absent
    · intro mem
      exact ⟨.inl mem, fun mem' => apart slot mem slot mem' rfl⟩
  -- The counter falls by the number of slots given back, since each of them was assigned and no two
  -- are the same.
  case counted =>
    have taken : ∀ slot ∈ former.slots, desk.ring.slots.isAssigned slot = true := by
      intro slot mem
      rw [h.taken, ← perm.mem_iff]
      exact List.mem_append_right _ mem
    have freed : (desk.ring.freeSlots former).assignedCount + _ = _ :=
      Slot.Pool.assignedCount_giveBack h.whole gone taken
    rw [h.counted] at freed
    show (desk.ring.freeSlots former).assignedCount = (desk.ring.turn id former).inUse.length
    omega
  case few =>
    have few := h.few
    show (desk.ring.turn id former).inUse.length ≤ config.maxPending
    omega
  case fits =>
    intro frame mem
    rcases List.mem_or_eq_of_mem_set mem with mem | rfl
    · exact h.fits frame mem
    · exact FrameRing.frameFits_fresh config _ id
  case drafted =>
    intro draft held
    rw [show desk.draft = some draft from held] at free
    cases free

/-- A batch that was just opened is known. The slot is listed in the current frame, and the position
is the one that was next. -/
theorem Accounts.drafted_handOut (h : Accounts config desk) (begun : desk.ring.phase = .begun)
    {slot : Nat} (search : desk.ring.slots.firstFree? 0 = some slot) (queue : Queue) :
    Drafted (desk.ring.handOut slot queue)
      ⟨.new (desk.ring.nextId slot) queue, desk.ring.submittedTo queue⟩ := by
  have absent := h.notMem_of_free search
  have toNat : (desk.ring.nextId slot).index.toNat = slot := by
    have bound := (Slot.Pool.firstFree?_eq_some h.whole search).1
    rw [h.nextId_index slot]
    exact UInt32.toNat_ofNat_of_lt' (Nat.lt_trans bound (by decide))
  have frames := FrameRing.frames_handOut h.getElem?_current slot queue
  have current : (desk.ring.handOut slot queue).currentFrame =
      desk.ring.currentFrame.opened slot queue := by
    apply FrameRing.currentFrame_eq
    show (desk.ring.handOut slot queue).frames[desk.ring.current.index.toNat]? = _
    rw [frames, List.getElem?_set_self]
    rw [h.places]
    exact h.current
  refine {
    begun
    slot := ?slot
    place := ?place
    alone := ?alone
    apart := ?apart }
  case slot =>
    rw [current]
    show (desk.ring.nextId slot).index.toNat ∈ desk.ring.currentFrame.slots ++ [slot]
    simp [toNat]
  case place =>
    rw [current]
    show desk.ring.submittedTo queue <
      (desk.ring.currentFrame.opened slot queue).submittedTo queue
    rw [FrameRing.submittedTo_opened, if_pos rfl]
    exact Nat.lt_succ_self _
  -- The position is the next of the queue in this frame, so every batch of the frame is before it.
  case alone =>
    rw [current]
    intro n tag (newest : Newest desk.ring.roll n tag) mem same
    obtain ⟨m, other, newest', named, -, place⟩ :=
      (h.fits _ h.currentFrame_mem).registered tag.id mem
    rw [newest'.tag_eq newest (congrArg BatchId.index named), same] at place
    exact Nat.ne_of_lt place
  -- A batch with the index of the new one would have had its slot in use, but the slot was free.
  case apart =>
    intro frame mem id mem' same
    obtain ⟨former, known, batches⟩ :
        ∃ former ∈ desk.ring.frames, former.batches = frame.batches := by
      rw [frames] at mem
      rcases List.mem_or_eq_of_mem_set mem with mem | rfl
      · exact ⟨frame, mem, rfl⟩
      · exact ⟨_, h.currentFrame_mem, rfl⟩
    obtain ⟨_, _, _, _, used, _⟩ := (h.fits former known).registered id (batches ▸ mem')
    rw [show id.index = (desk.ring.nextId slot).index from same, toNat] at used
    exact absent (List.mem_flatMap.2 ⟨former, known, used⟩)

/-- A batch is opened. One slot more is in use, in the current frame, where the pool and the frame
both count it. -/
theorem Accounts.opened (h : Accounts config desk) {queue : Queue} {slot : Nat}
    (begun : desk.ring.phase = .begun)
    (room : desk.ring.submittedTo queue < desk.ring.config.maxPerQueue)
    (few : desk.ring.slots.assignedCount < desk.ring.config.maxPending)
    (search : desk.ring.slots.firstFree? 0 = some slot) :
    Accounts config
      { desk with
        ring := desk.ring.handOut slot queue
        draft := some ⟨.new (desk.ring.nextId slot) queue, desk.ring.submittedTo queue⟩ } := by
  obtain ⟨bound, unused⟩ := Slot.Pool.firstFree?_eq_some h.whole search
  have absent := h.notMem_of_free search
  have index := h.nextId_index slot
  rw [h.limits] at room few
  have frames := FrameRing.frames_handOut h.getElem?_current slot queue
  have perm : (desk.ring.handOut slot queue).inUse.Perm (desk.ring.inUse ++ [slot]) :=
    FrameRing.inUse_perm h.getElem?_current frames rfl
  have longer := perm.length_eq
  rw [List.length_append, List.length_singleton] at longer
  have fit := h.fits _ h.currentFrame_mem
  refine {
    limits := h.limits
    places := ?places
    current := h.current
    cycle := h.cycle
    whole := h.whole.take slot
    owner := ?owner
    nodup := ?nodup
    taken := ?taken
    counted := ?counted
    few := ?few
    numbered := h.numbered
    fits := ?fits
    drafted := ?drafted }
  case places =>
    show (desk.ring.handOut slot queue).frames.length = _
    rw [frames, List.length_set]
    exact h.places
  -- The slot was written with the new identity, whose index it is, and the other slots are as
  -- before.
  case owner =>
    intro other id found'
    have found' := (FrameRing.find?_handOut h.whole search queue other).symm.trans found'
    split at found'
    · rename_i same
      cases found'
      rw [same]
      exact index
    · exact h.owner other id found'
  -- The new slot is in use by no frame, because it was free.
  case nodup =>
    rw [perm.nodup_iff, List.nodup_append]
    refine ⟨h.nodup, List.nodup_singleton _, ?_⟩
    intro other mem other' mem' same
    rw [same, List.mem_singleton.1 mem'] at mem
    exact absent mem
  case taken =>
    intro other
    refine (Bool.eq_iff_iff.1 (Slot.Pool.isAssigned_take h.whole other bound)).trans ?_
    rw [perm.mem_iff, List.mem_append, List.mem_singleton, ← h.taken]
    by_cases same : other = slot <;> simp [same]
  case counted =>
    refine (Slot.Pool.assignedCount_take h.whole bound unused).trans ?_
    rw [h.counted]
    exact longer.symm
  case few =>
    show (desk.ring.handOut slot queue).inUse.length ≤ config.maxPending
    rw [longer, ← h.counted]
    exact few
  -- Only the current frame is another one.
  case fits =>
    intro frame mem
    rw [frames] at mem
    rcases List.mem_or_eq_of_mem_set mem with mem | rfl
    · exact h.fits frame mem
    · exact fit.opened slot room
  case drafted =>
    intro draft held
    cases held
    exact h.drafted_handOut begun search queue

/-- The batch that is open is begun. Nothing changes about slots. The frame lists one batch more,
which has the slot that it was opened with. -/
theorem Accounts.joined (h : Accounts config desk) {draft : FrameRing.Draft} {label : String}
    (held : desk.draft = some draft) :
    Accounts config
      { desk with
        ring := (desk.ring.beginBatch draft label).2.1
        draft := none
        frameOf := desk.frameOf ++ [desk.begun.length] } := by
  let after := (desk.ring.beginBatch draft label).2.1
  have drafted := h.drafted draft held
  have roll : after.roll = desk.ring.roll ++ [desk.ring.newTag draft] :=
    desk.ring.roll_beginBatch draft label
  have frames := FrameRing.frames_beginBatch h.getElem?_current draft label
  have perm : after.inUse.Perm desk.ring.inUse := by
    have perm := FrameRing.inUse_perm h.getElem?_current frames (List.append_nil _).symm
    rw [List.append_nil] at perm
    exact perm
  refine {
    limits := h.limits
    places := ?places
    current := h.current
    cycle := h.cycle
    whole := h.whole
    owner := h.owner
    nodup := perm.nodup_iff.2 h.nodup
    taken := ?taken
    counted := ?counted
    few := ?few
    numbered := ?numbered
    fits := ?fits
    drafted := nofun }
  case places =>
    show after.frames.length = _
    rw [frames, List.length_set]
    exact h.places
  case taken =>
    intro slot
    exact (h.taken slot).trans perm.mem_iff.symm
  case counted => exact h.counted.trans perm.length_eq.symm
  case few => exact perm.length_eq ▸ h.few
  case numbered => exact FrameRing.numbered_beginBatch h.numbered draft label
  -- The roll is longer for every frame, and the current frame has a batch more.
  case fits =>
    intro frame mem
    show FrameFits config after.roll frame
    rw [roll]
    rw [show FrameRing.frames _ = _ from frames] at mem
    rcases List.mem_or_eq_of_mem_set mem with mem | rfl
    · exact (h.fits frame mem).append (drafted.apart frame mem)
    · exact (h.fits _ h.currentFrame_mem).join (drafted.apart _ h.currentFrame_mem) drafted.slot
        drafted.place drafted.alone

/-- Every change keeps the accounts. -/
theorem Accounts.change (h : Accounts config desk) {act : Act} (fits : act.Fits config)
    (change : Change desk act after) : Accounts config after := by
  cases change with
  | quiet quiet => exact h.quiet quiet
  | frame which free _ found _ => exact h.frame fits which free found
  | opened _ _ begun room few search => exact h.opened begun room few search
  | joined _ held => exact h.joined held

/-- Every act that fits keeps the accounts in order, by cases on what it does to the desk. -/
theorem Accounts.step (h : Accounts config desk) {act : Act} (fits : act.Fits config) :
    Accounts config (desk.step act) :=
  h.change fits (change_step h.numbered h.whole act)

/-- Every run keeps the accounts in order, by induction on the acts. -/
theorem Accounts.run (h : Accounts config desk) {acts : List Act}
    (fits : ∀ act ∈ acts, act.Fits config) : Accounts config (desk.run acts) := by
  induction acts using List.reverseRecOn with
  | nil => exact h
  | append_singleton acts act ih =>
    rw [run_append]
    refine (ih fun act mem => fits act (List.mem_append_left _ mem)).step ?_
    exact fits act (List.mem_append_right _ List.mem_cons_self)

/-- The batches of a frame are found, with their places and slots. -/
theorem Accounts.submission (h : Accounts config desk) {frame : Frame}
    (mem : frame ∈ desk.ring.frames) {id : BatchId} (known : id ∈ frame.batches) :
    ∃ n submission, desk.ring.submissions[n]? = some submission ∧
      Newest desk.ring.roll n submission.tag ∧ desk.ring.submission? id = some submission ∧
      submission.id = id ∧ id.index.toNat ∈ frame.slots ∧
      submission.position < frame.submittedTo submission.batch.queue := by
  obtain ⟨n, tag, newest, rfl, slot, place⟩ := (h.fits frame mem).registered id known
  obtain ⟨submission, at', rfl, found⟩ := FrameRing.submission?_of_newest newest
  exact ⟨n, submission, at', newest, found, rfl, slot, place⟩

/-- While few slots are handed out, one is free. -/
theorem Accounts.firstFree?_ne_none (h : Accounts config desk) (valid : config.fault? = none)
    (few : desk.ring.inUse.length < config.maxPending) :
    desk.ring.slots.firstFree? 0 ≠ none := by
  intro none
  have full := (Slot.Pool.firstFree?_eq_none_iff h.whole 0).1 none
  rw [h.counted] at full
  have capacity : FrameRing.shape.capacity = FrameRing.batchCapacity := by decide
  have limit := (FrameRing.Config.of_valid valid).2.2.2.1
  omega

/-- In a frame, a batch is refused exactly if there is no room on its queue, or too many slots are
handed out. -/
theorem Accounts.openBatch_eq_error_iff (h : Accounts config desk) (valid : config.fault? = none)
    (begun : desk.ring.phase = .begun) (held : BatchId → Bool) (queue : Queue) :
    (∃ error, (desk.ring.openBatch held queue).answer = .error error) ↔
      desk.ring.submittedTo queue = config.maxPerQueue ∨
        desk.ring.inUse.length = config.maxPending := by
  have limited := (h.fits _ h.currentFrame_mem).limited queue
  have few := h.few
  constructor
  -- With room on the queue and a slot left the search finds a slot, so opening succeeds.
  · rintro ⟨error, refused⟩
    by_contra room
    obtain ⟨room, left⟩ := not_or.1 room
    have room : desk.ring.submittedTo queue < desk.ring.config.maxPerQueue := by
      rw [h.limits]
      exact Nat.lt_of_le_of_ne limited room
    have left : desk.ring.inUse.length < config.maxPending := Nat.lt_of_le_of_ne few left
    obtain ⟨slot, search⟩ := Option.ne_none_iff_exists'.1 (h.firstFree?_ne_none valid left)
    have left : desk.ring.slots.assignedCount < desk.ring.config.maxPending := by
      rw [h.limits, h.counted]
      exact left
    rw [FrameRing.openBatch_eq_ok h.whole held begun room left search] at refused
    cases refused
  · intro full
    have full : desk.ring.config.maxPerQueue ≤ desk.ring.submittedTo queue ∨
        desk.ring.config.maxPending ≤ desk.ring.slots.assignedCount := by
      rw [h.limits, h.counted]
      rcases full with full | full
      · exact .inl (Nat.le_of_eq full.symm)
      · exact .inr (Nat.le_of_eq full.symm)
    obtain ⟨error, refused, -⟩ := desk.ring.openBatch_eq_error held
      (.inr (full.imp_right .inl))
    exact ⟨error, refused⟩

end

/-- **Who has which batch slot.** Take a ring with limits that make sense, after any acts.

No slot is handed out twice, in one frame or in two. The pool marks exactly the slots handed out,
and they are not too many. Every frame counts its slots by queue, with no more on a queue than may
be; the batches begun in it have their slots there, and places of their own on their queues.

So in a frame, a batch is refused exactly if its queue has enough, or enough slots are handed out;
and before that the pool always has a free slot. -/
theorem slot_accounts (config : FrameRing.Config) (valid : config.fault? = none)
    (surfaces : List Surface) (acts : List Act) (fits : ∀ act ∈ acts, act.Fits config) :
    let ring := ((start config surfaces).run acts).ring
    ring.inUse.Nodup ∧
    (∀ slot, ring.slots.isAssigned slot = true ↔ slot ∈ ring.inUse) ∧
    ring.inUse.length ≤ config.maxPending ∧
    (∀ frame ∈ ring.frames,
      (Queue.all.map frame.submittedTo).sum = frame.slots.length ∧
      (∀ queue, frame.submittedTo queue ≤ config.maxPerQueue) ∧
      frame.batches.Nodup ∧
      (∀ id ∈ frame.batches, ∃ submission, ring.submission? id = some submission ∧
        submission.id = id ∧ id.index.toNat ∈ frame.slots ∧
        submission.position < frame.submittedTo submission.batch.queue) ∧
      (∀ a ∈ frame.batches, ∀ b ∈ frame.batches, ∀ first second,
        ring.submission? a = some first → ring.submission? b = some second →
        first.batch.queue = second.batch.queue → first.position = second.position → a = b)) ∧
    (ring.phase = .begun → ∀ (held : BatchId → Bool) (queue : Queue),
      ((∃ error, (ring.openBatch held queue).answer = .error error) ↔
        ring.submittedTo queue = config.maxPerQueue ∨
          ring.inUse.length = config.maxPending) ∧
      (ring.inUse.length < config.maxPending → ring.slots.firstFree? 0 ≠ none)) := by
  intro ring
  have accounts : Accounts config ((start config surfaces).run acts) :=
    (accounts_start valid surfaces).run fits
  refine ⟨accounts.nodup, accounts.taken, accounts.few, fun frame mem => ?_,
    fun begun held queue => ?_⟩
  · have fit := accounts.fits frame mem
    refine ⟨fit.sum, fit.limited, fit.nodup, ?_, ?_⟩
    · intro id known
      obtain ⟨_, submission, -, -, found, named, slot, place⟩ := accounts.submission mem known
      exact ⟨submission, found, named, slot, place⟩
    · intro a known b known' first second found found' queue position
      obtain ⟨m, s, -, newest, at', rfl, -⟩ := accounts.submission mem known
      obtain ⟨n, t, -, newest', at'', rfl, -⟩ := accounts.submission mem known'
      cases at'.symm.trans found
      cases at''.symm.trans found'
      exact fit.distinct m n _ _ newest newest' known known' queue position
  · exact ⟨accounts.openBatch_eq_error_iff valid begun held queue,
      accounts.firstFree?_ne_none valid⟩

/-- Two frames with a batch each, one of which is given up, and a third one in the place of the
first, numbered by the application. -/
def threeFrames : List Act :=
  [.beginFrame, .openBatch .graphics fun _ => false, .beginBatch "first", .complete 0, .endFrame,
    .beginFrame, .openBatch .asyncCompute fun _ => false, .giveUp, .endFrame,
    .beginFrameAs ⟨7, 1, 2⟩, .openBatch .graphics fun _ => true]

/-- The general statement on a ring that went through three frames, so that a place was used again.
-/
theorem slot_accounts_threeFrames :
    let ring := ((start {} []).run threeFrames).ring
    ring.inUse = [1, 0] ∧ ring.inUse.Nodup ∧ ring.inUse.length ≤ 32 := by
  obtain ⟨nodup, -, few, -⟩ := slot_accounts {} rfl [] threeFrames (by
    simp [threeFrames, Act.Fits])
  exact ⟨by decide, nodup, few⟩

end Desk

end GpuSync
