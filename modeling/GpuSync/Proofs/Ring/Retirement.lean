import GpuSync.Proofs.Ring.Accounts

/-!
# Frames wait for the batches of their place

A ring with `m` places that numbers its frames itself begins the frames `1, 2, 3, …` in the places
`1 % m, 2 % m, 3 % m, …`. So frame `k + m` is the next one in the place of frame `k`, and it is
begun only once the batches of frame `k` are complete.

* `FrameId.nth` is the frame with a number.
* `FrameRing.Lists` says that a batch is listed in a place, `Desk.Dated` in which frame a submission
  was begun.
* `Desk.Chronicle` says that the places list just the batches of the last `m` frames, and that the
  batches of the frames before are complete; every change keeps it (`Desk.Chronicle.change`).
* **`Desk.batches_outlive_frames`** is the result for all runs.
-/

namespace GpuSync

/-! ## Numbers and places of frames

Frames are numbered from one, and their places are the numbers modulo the size of the ring. Numbers
of frames within a round have different places, by which the last frames can be told from each
other. -/

namespace FrameId

/-- The frame with a number, in a ring with so many places. -/
def nth (places k : Nat) : FrameId :=
  ⟨UInt64.ofNat k, UInt32.ofNat (k % places), UInt32.ofNat places⟩

variable {places : Nat}

/-- A ring starts from the frame with the number zero, which is never begun. -/
theorem nth_zero (places : Nat) : nth places 0 = first (UInt32.ofNat places) := by
  unfold nth
  rw [Nat.zero_mod]
  rfl

/-- Frames go through the places in turn. -/
theorem toNat_index_nth (positive : 0 < places) (few : places ≤ FrameRing.framesLimit) (k : Nat) :
    (nth places k).index.toNat = k % places := by
  have bound : k % places < places := Nat.mod_lt k positive
  have limit : FrameRing.framesLimit < UInt32.size := by decide
  exact UInt32.toNat_ofNat_of_lt' (by omega)

/-- The frames follow each other. -/
theorem next_nth (positive : 0 < places) (few : places ≤ FrameRing.framesLimit) (k : Nat) :
    (nth places k).next = nth places (k + 1) := by
  have limit : FrameRing.framesLimit + 1 < UInt32.size := by decide
  have bound : k % places < places := Nat.mod_lt k positive
  have index : (UInt32.ofNat (k % places) + 1) % UInt32.ofNat places =
      UInt32.ofNat ((k + 1) % places) := by
    rw [← Nat.mod_add_mod k places 1]
    apply UInt32.toNat_inj.1
    rw [UInt32.toNat_mod, UInt32.toNat_ofNat_of_lt' (by omega : places < UInt32.size),
      ← UInt32.ofNat_one, ← UInt32.ofNat_add, UInt32.toNat_ofNat_of_lt' (by omega),
      UInt32.toNat_ofNat_of_lt']
    have bound' : (k % places + 1) % places < places := Nat.mod_lt _ positive
    omega
  have unique : UInt64.ofNat k + 1 = UInt64.ofNat (k + 1) := by
    rw [UInt64.ofNat_add, UInt64.ofNat_one]
  unfold next nth
  rw [index, unique]

/-- Frames that are less than a round apart have different places. -/
theorem mod_ne_of_lt {j k : Nat} (less : k < j) (close : j < k + places) :
    k % places ≠ j % places := by
  intro same
  have round : (j - k) % places = 0 := Nat.sub_mod_eq_zero_of_mod_eq same.symm
  rw [Nat.mod_eq_of_lt (by omega)] at round
  omega

end FrameId

/-! ## Which batches a place lists

A batch is found through the place of its frame. The place forgets its batches as the next frame
begins there, and not as they are completed. -/

namespace FrameRing

/-- A place lists a batch. -/
def Lists (ring : FrameRing) (place : Nat) (id : BatchId) : Prop :=
  ∃ frame, ring.frames[place]? = some frame ∧ id ∈ frame.batches

variable {ring after : FrameRing} {place : Nat} {id : BatchId}

/-- Changing one place. -/
theorem lists_set_iff {p : Nat} {old new : Frame} (found : ring.frames[p]? = some old)
    (set : after.frames = ring.frames.set p new) :
    after.Lists place id ↔ if place = p then id ∈ new.batches else ring.Lists place id := by
  have bound := (List.getElem?_eq_some_iff.1 found).1
  unfold Lists
  rw [set]
  by_cases same : place = p
  · subst same
    rw [if_pos rfl, List.getElem?_set_self bound]
    simp
  · rw [if_neg same, List.getElem?_set_ne (Ne.symm same)]

/-- Surfaces make no difference. -/
theorem Lists.of_bare (h : ring.Lists place id)
    (same : after.frames.map Frame.bare = ring.frames.map Frame.bare) : after.Lists place id := by
  obtain ⟨frame, found, mem⟩ := h
  have bare : (after.frames.map Frame.bare)[place]? = some frame.bare := by
    rw [same, List.getElem?_map, found]
    rfl
  rw [List.getElem?_map] at bare
  obtain ⟨other, found', same'⟩ := Option.map_eq_some_iff.1 bare
  refine ⟨other, found', ?_⟩
  rw [(Frame.eq_of_bare same').1]
  exact mem

/-- What a frame presents is no matter of the batches that its place lists. -/
theorem lists_bare_iff (same : after.frames.map Frame.bare = ring.frames.map Frame.bare) :
    after.Lists place id ↔ ring.Lists place id :=
  ⟨fun h => h.of_bare same.symm, fun h => h.of_bare same⟩

/-- Nothing is listed newly if a slot is handed out. -/
theorem lists_handOut_iff
    (found : ring.frames[ring.current.index.toNat]? = some ring.currentFrame) (slot : Nat)
    (queue : Queue) : (ring.handOut slot queue).Lists place id ↔ ring.Lists place id := by
  rw [lists_set_iff found (frames_handOut found slot queue)]
  split
  · rename_i same
    subst same
    unfold Lists
    rw [found]
    simp [Frame.opened]
  · rfl

/-- A batch that is begun is listed in the place of the current frame. -/
theorem lists_beginBatch_iff
    (found : ring.frames[ring.current.index.toNat]? = some ring.currentFrame) (draft : Draft)
    (label : String) :
    (ring.beginBatch draft label).2.1.Lists place id ↔
      ring.Lists place id ∨ place = ring.current.index.toNat ∧ id = draft.batch.id := by
  rw [lists_set_iff found (frames_beginBatch found draft label)]
  split
  · rename_i same
    subst same
    unfold Lists
    rw [found]
    simp
  · rename_i other
    simp [other]

/-- A place in which a frame is begun lists nothing any more. -/
theorem lists_turn_iff {next : FrameId} {former : Frame}
    (found : ring.frames[next.index.toNat]? = some former) :
    (ring.turn next former).Lists place id ↔
      place ≠ next.index.toNat ∧ ring.Lists place id := by
  have set : (ring.turn next former).frames = ring.frames.set next.index.toNat { id := next } := rfl
  rw [lists_set_iff found set]
  by_cases same : place = next.index.toNat <;> simp [same]

/-- The newest submission in a slot tells whether its batch is complete. -/
theorem isComplete_of_newest {n : Nat} {submission : Submission}
    (found : ring.submissions[n]? = some submission)
    (newest : Submission.Newest ring.roll n submission.tag) :
    ring.isComplete submission.id = submission.isComplete := by
  obtain ⟨other, found', -, looked⟩ := submission?_of_newest newest
  cases found.symm.trans found'
  unfold isComplete
  rw [show ring.submission? submission.id = some submission from looked]

/-- Nothing of a frame is pending just if all its batches are complete. -/
theorem pendingOf_eq_zero {frame : Frame} :
    ring.pendingOf frame = 0 ↔ ∀ id ∈ frame.batches, ring.isComplete id = true := by
  unfold pendingOf
  rw [List.countP_eq_zero]
  simp

/-- If the ring is in a frame or the place that comes next has to wait, nothing happens. -/
theorem beginFrame_eq_error {former : Frame}
    (found : ring.frames[ring.current.next.index.toNat]? = some former)
    (busy : ring.phase = .begun ∨ ring.pendingOf former ≠ 0) :
    ∃ error, ring.beginFrame.answer = .error error ∧ ring.beginFrame.ring = ring := by
  obtain ⟨error, refused, same⟩ := beginFrameAs_eq_error
    (busy.imp_right fun pending => .inr ⟨former, found, pending⟩)
  refine ⟨error, ?_, same⟩
  unfold beginFrame
  dsimp only
  rw [refused]
  rfl

/-- Else the next frame is begun. A batch that is not complete in that place is the only reason to
refuse besides the phase. -/
theorem beginFrame_isOk_iff {former : Frame}
    (found : ring.frames[ring.current.next.index.toNat]? = some former) :
    (∃ id, ring.beginFrame.answer = .ok id) ↔ ring.phase ≠ .begun ∧ ring.pendingOf former = 0 := by
  constructor
  · rintro ⟨id, answer⟩
    have ready (busy : ring.phase = .begun ∨ ring.pendingOf former ≠ 0) : False := by
      obtain ⟨error, refused, -⟩ := beginFrame_eq_error found busy
      rw [refused] at answer
      cases answer
    exact ⟨fun begun => ready (.inl begun), by_contra fun pending => ready (.inr pending)⟩
  · rintro ⟨idle, done⟩
    refine ⟨ring.current.next, ?_⟩
    unfold beginFrame
    dsimp only
    rw [(beginFrameAs_eq_ok idle found done).1]
    rfl

/-- The next frame need not wait just if nothing is pending in its place. -/
theorem isNextQuiet_iff {former : Frame}
    (found : ring.frames[ring.current.next.index.toNat]? = some former) :
    ring.isNextQuiet = true ↔ ring.pendingOf former = 0 := by
  unfold isNextQuiet
  rw [found]
  exact beq_iff_eq

end FrameRing

namespace Desk

open Submission (Newest)

/-! ## In which frame a batch was begun

Which frame a batch belongs to is on record here, as a number that never wraps. The ring itself has
only the place and the count in a machine word. -/

/-- A submission was begun in the frame with a number. The record of frames is beside the ring, as
the ring forgets a frame when its place is used again. -/
def Dated (desk : Desk) (n : Nat) (tag : Submission.Tag) (k : Nat) : Prop :=
  (desk.ring.roll.zip desk.frameOf)[n]? = some (tag, k)

/-- All batches begun in the frame with a number are complete. Nothing is said of frames without
batches, which are retired from the start. -/
def Retired (desk : Desk) (k : Nat) : Prop :=
  ∀ (n : Nat) (submission : Submission), desk.ring.submissions[n]? = some submission →
    desk.frameOf[n]? = some k → submission.isComplete = true

/-- An act that leaves it to the ring to number the frames. -/
def Act.Regular : Act → Prop
  | .beginFrameAs _ => False
  | _ => True

/-- An act that numbers no frame itself fits every ring. -/
theorem Act.Regular.fits {act : Act} (regular : act.Regular) (config : FrameRing.Config) :
    act.Fits config := by
  cases act <;> trivial

/-- The places list the batches of the last frames, and all batches before are complete. Numbers of
frames are plain numbers here, of which the ring knows the remainders. -/
structure Chronicle (config : FrameRing.Config) (desk : Desk) : Prop where
  /-- The frames begun are numbered in order. -/
  numbers : ∀ (k : Nat) (id : FrameId), desk.begun[k]? = some id →
    id = .nth config.maxFrames (k + 1)
  /-- The current frame is the last one begun. -/
  current : desk.ring.current = .nth config.maxFrames desk.begun.length
  /-- If the ring is in a frame, one was begun. -/
  entered : desk.ring.phase = .begun → 0 < desk.begun.length
  /-- Every submission was begun in some frame. -/
  counted : desk.frameOf.length = desk.ring.roll.length
  /-- That frame was begun by then, and the submission knows it. -/
  dated : ∀ n tag k, desk.Dated n tag k →
    0 < k ∧ k ≤ desk.begun.length ∧ tag.frame = .nth config.maxFrames k
  /-- The batches of the last frames are listed in their places. -/
  inFlight : ∀ n tag k, desk.Dated n tag k → desk.begun.length < k + config.maxFrames →
    Newest desk.ring.roll n tag ∧ desk.ring.Lists (k % config.maxFrames) tag.id
  /-- Nothing else is. -/
  listed : ∀ n tag place, Newest desk.ring.roll n tag → desk.ring.Lists place tag.id →
    ∃ k, desk.Dated n tag k ∧ place = k % config.maxFrames ∧
      desk.begun.length < k + config.maxFrames
  /-- The batches of the frames before are complete. -/
  retired : ∀ k, k + config.maxFrames ≤ desk.begun.length → desk.Retired k

section

variable {config : FrameRing.Config} {desk after : Desk} {n k : Nat} {tag : Submission.Tag}

/-- The tag of a submission is on the roll. -/
theorem Dated.roll (h : desk.Dated n tag k) : desk.ring.roll[n]? = some tag :=
  (List.getElem?_zip_eq_some.1 h).1

/-- The frame of a submission is on record. -/
theorem Dated.frameOf (h : desk.Dated n tag k) : desk.frameOf[n]? = some k :=
  (List.getElem?_zip_eq_some.1 h).2

/-- A submission has one frame. -/
theorem Dated.unique {other : Submission.Tag} {l : Nat} (h : desk.Dated n tag k)
    (h' : desk.Dated n other l) : k = l :=
  Option.some.inj (h.frameOf.symm.trans h'.frameOf)

/-- A submission that was begun in some frame is dated there. -/
theorem dated_of_submission {submission : Submission}
    (found : desk.ring.submissions[n]? = some submission) (frame : desk.frameOf[n]? = some k) :
    desk.Dated n submission.tag k :=
  List.getElem?_zip_eq_some.2 ⟨FrameRing.roll_of_submission found, frame⟩

/-- If a batch is begun, it is one more that was begun in some frame. -/
theorem dated_append_iff (counted : desk.frameOf.length = desk.ring.roll.length)
    {new : Submission.Tag} {last : Nat} (roll : after.ring.roll = desk.ring.roll ++ [new])
    (frameOf : after.frameOf = desk.frameOf ++ [last]) :
    after.Dated n tag k ↔
      desk.Dated n tag k ∨ n = desk.ring.roll.length ∧ tag = new ∧ k = last := by
  have length : (desk.ring.roll.zip desk.frameOf).length = desk.ring.roll.length := by
    rw [List.length_zip, counted, Nat.min_self]
  unfold Dated
  rw [roll, frameOf, List.zip_append counted.symm, List.getElem?_append, length]
  split
  · rename_i old
    simp [Nat.ne_of_lt old]
  · rename_i past
    constructor
    · intro found
      have only : n - desk.ring.roll.length < 1 := (List.getElem?_eq_some_iff.1 found).1
      have same := List.mem_singleton.1 (List.mem_of_getElem? found)
      rw [Prod.mk.injEq] at same
      exact .inr ⟨by omega, same⟩
    · rintro (known | ⟨rfl, rfl, rfl⟩)
      · have bound := (List.getElem?_eq_some_iff.1 known).1
        omega
      · simp

/-- Every submission was begun in some frame. -/
theorem Chronicle.exists_frameOf (h : Chronicle config desk) {submission : Submission}
    (found : desk.ring.submissions[n]? = some submission) : ∃ k, desk.frameOf[n]? = some k := by
  have bound := (List.getElem?_eq_some_iff.1 (FrameRing.roll_of_submission found)).1
  rw [← h.counted] at bound
  exact ⟨_, List.getElem?_eq_getElem bound⟩

/-- A submission that is there later was there before, if no batch is begun. -/
theorem Quiet.exists_former (quiet : Quiet desk after) {later : Submission}
    (found : after.ring.submissions[n]? = some later) :
    ∃ former, desk.ring.submissions[n]? = some former ∧
      (former.isComplete = true → later.isComplete = true) := by
  have roll := FrameRing.roll_of_submission found
  rw [quiet.roll] at roll
  unfold FrameRing.roll at roll
  rw [List.getElem?_map] at roll
  obtain ⟨former, found', -⟩ := Option.map_eq_some_iff.1 roll
  obtain ⟨other, found'', stays⟩ := quiet.complete n former found'
  cases found.symm.trans found''
  exact ⟨former, found', stays⟩

/-! ## The place that comes next

What the ring waits for, before it begins a frame, is found by looking at the place that comes next.
It is the frame a round ago, so this is a statement on numbers. -/

/-- The frame that comes next. -/
theorem Chronicle.next (h : Chronicle config desk) (valid : config.fault? = none) :
    desk.ring.current.next = .nth config.maxFrames (desk.begun.length + 1) := by
  obtain ⟨two, few, -⟩ := FrameRing.Config.of_valid valid
  rw [h.current, FrameId.next_nth (by omega) few]

/-- The place that comes next is that of the next number. -/
theorem Chronicle.next_place (h : Chronicle config desk) (valid : config.fault? = none) :
    desk.ring.current.next.index.toNat = (desk.begun.length + 1) % config.maxFrames := by
  obtain ⟨two, few, -⟩ := FrameRing.Config.of_valid valid
  rw [h.next valid, FrameId.toNat_index_nth (by omega) few]

/-- A frame whose place comes next is the one a round ago. -/
theorem Chronicle.round (h : Chronicle config desk) (known : desk.Dated n tag k)
    (recent : desk.begun.length < k + config.maxFrames)
    (same : k % config.maxFrames = (desk.begun.length + 1) % config.maxFrames) :
    k + config.maxFrames = desk.begun.length + 1 := by
  have begun := (h.dated n tag k known).2.1
  by_contra other
  exact FrameId.mod_ne_of_lt (by omega) (by omega) same

/-- The place that comes next waits for the batches of the frame a round ago. -/
theorem Chronicle.pendingOf_eq_zero_iff (h : Chronicle config desk)
    (accounts : Accounts config desk) {former : Frame}
    (found : desk.ring.frames[(desk.begun.length + 1) % config.maxFrames]? = some former) :
    desk.ring.pendingOf former = 0 ↔
      ∀ k, k + config.maxFrames = desk.begun.length + 1 → desk.Retired k := by
  rw [FrameRing.pendingOf_eq_zero]
  constructor
  · intro done k round n submission at' frame
    have known := dated_of_submission at' frame
    obtain ⟨newest, other, found', mem⟩ := h.inFlight n submission.tag k known (by omega)
    rw [← Nat.add_mod_right, round, found] at found'
    cases found'
    rw [← FrameRing.isComplete_of_newest at' newest]
    exact done submission.id mem
  · intro retired id mem
    obtain ⟨n, submission, at', newest, -, rfl, -⟩ :=
      accounts.submission (List.mem_of_getElem? found) mem
    obtain ⟨k, known, same, recent⟩ := h.listed n submission.tag _ newest ⟨former, found, mem⟩
    rw [FrameRing.isComplete_of_newest at' newest]
    exact retired k (h.round known recent same.symm) n submission at' known.frameOf

/-- There is a place that comes next, and what it waits for is known. -/
theorem Chronicle.exists_next (h : Chronicle config desk) (accounts : Accounts config desk)
    (valid : config.fault? = none) :
    ∃ former, desk.ring.frames[desk.ring.current.next.index.toNat]? = some former ∧
      (desk.ring.pendingOf former = 0 ↔
        ∀ k, k + config.maxFrames = desk.begun.length + 1 → desk.Retired k) := by
  have bound : (desk.begun.length + 1) % config.maxFrames < desk.ring.frames.length := by
    rw [accounts.places]
    exact Nat.mod_lt _ (Nat.lt_of_lt_of_le Nat.zero_lt_two (FrameRing.Config.of_valid valid).1)
  have found := List.getElem?_eq_getElem bound
  refine ⟨_, ?_, h.pendingOf_eq_zero_iff accounts found⟩
  rw [h.next_place valid]
  exact found

/-! ## What a step preserves

The two clauses on listing are converse to each other up to frames less than a round old: such a
batch is listed where its frame is, and whatever is listed is such a batch. The last clause says
that all older frames are retired. -/

/-- No frame was begun at first. -/
theorem chronicle_start (config : FrameRing.Config) (surfaces : List Surface) :
    Chronicle config (start config surfaces) := by
  have undated {n : Nat} {tag : Submission.Tag} {k : Nat} :
      ¬(start config surfaces).Dated n tag k := by
    intro known
    cases known.frameOf
  refine {
    numbers := ?numbers
    current := (FrameId.nth_zero config.maxFrames).symm
    entered := ?entered
    counted := rfl
    dated := ?dated
    inFlight := ?inFlight
    listed := ?listed
    retired := ?retired }
  case numbers =>
    intro k id begun
    cases begun
  case entered =>
    intro begun
    cases begun
  case dated =>
    intro n tag k known
    exact absurd known undated
  case inFlight =>
    intro n tag k known
    exact absurd known undated
  case listed =>
    intro n tag place newest
    cases newest.1
  case retired =>
    intro k past n submission found
    cases found

/-- The submissions are the same, and so are the places but for surfaces. -/
theorem Chronicle.quiet (h : Chronicle config desk) (quiet : Quiet desk after) :
    Chronicle config after := by
  have dated {n : Nat} {tag : Submission.Tag} {k : Nat} :
      after.Dated n tag k ↔ desk.Dated n tag k := by
    unfold Dated
    rw [quiet.roll, quiet.frameOf]
  have lists {place : Nat} {id : BatchId} :
      after.ring.Lists place id ↔ desk.ring.Lists place id :=
    FrameRing.lists_bare_iff quiet.frames
  refine {
    numbers := ?numbers
    current := ?current
    entered := ?entered
    counted := ?counted
    dated := ?dated
    inFlight := ?inFlight
    listed := ?listed
    retired := ?retired }
  case numbers =>
    rw [quiet.begun]
    exact h.numbers
  case current =>
    rw [quiet.current, quiet.begun]
    exact h.current
  -- The phase may have become begun only in a frame that was begun.
  case entered =>
    rw [quiet.begun]
    intro begun
    rcases quiet.phase with same | ⟨-, begun', -⟩
    · exact h.entered (same.symm.trans begun)
    · exact h.entered begun'
  case counted =>
    rw [quiet.frameOf, quiet.roll]
    exact h.counted
  case dated =>
    intro n tag k known
    rw [quiet.begun]
    exact h.dated n tag k (dated.1 known)
  case inFlight =>
    intro n tag k known recent
    rw [quiet.begun] at recent
    rw [quiet.roll, lists]
    exact h.inFlight n tag k (dated.1 known) recent
  case listed =>
    intro n tag place newest mem
    rw [quiet.roll] at newest
    rw [quiet.begun]
    obtain ⟨k, known, same, recent⟩ := h.listed n tag place newest (lists.1 mem)
    exact ⟨k, dated.2 known, same, recent⟩
  -- The submissions of a retired frame are complete, and a complete submission stays it.
  case retired =>
    intro k past n later found frame
    rw [quiet.begun] at past
    rw [quiet.frameOf] at frame
    obtain ⟨former, found', stays⟩ := quiet.exists_former found
    exact stays (h.retired k past n former found' frame)

/-- A frame is begun: its place lists nothing any more, and the batches of the frame a round ago
are complete. -/
theorem Chronicle.frame (h : Chronicle config desk) (accounts : Accounts config desk)
    (valid : config.fault? = none) {former : Frame}
    (found : desk.ring.frames[desk.ring.current.next.index.toNat]? = some former)
    (done : desk.ring.pendingOf former = 0) :
    Chronicle config
      { desk with
        ring := desk.ring.turn desk.ring.current.next former
        begun := desk.begun ++ [desk.ring.current.next] } := by
  have lists {place : Nat} {id : BatchId} :
      (desk.ring.turn desk.ring.current.next former).Lists place id ↔
        place ≠ (desk.begun.length + 1) % config.maxFrames ∧ desk.ring.Lists place id := by
    rw [FrameRing.lists_turn_iff found, h.next_place valid]
  rw [h.next_place valid] at found
  have length : (desk.begun ++ [desk.ring.current.next]).length = desk.begun.length + 1 :=
    List.length_append
  refine {
    numbers := ?numbers
    current := ?current
    entered := ?entered
    counted := h.counted
    dated := ?dated
    inFlight := ?inFlight
    listed := ?listed
    retired := ?retired }
  case numbers =>
    intro k id at'
    rw [List.getElem?_append] at at'
    split at at'
    · exact h.numbers k id at'
    · have last : k - desk.begun.length < 1 := (List.getElem?_eq_some_iff.1 at').1
      rw [List.mem_singleton.1 (List.mem_of_getElem? at'), h.next valid]
      congr 1
      omega
  case current =>
    rw [length]
    exact h.next valid
  case entered =>
    intro _
    rw [length]
    exact Nat.succ_pos _
  case dated =>
    intro n tag k known
    obtain ⟨first, begun, frame⟩ := h.dated n tag k known
    rw [length]
    exact ⟨first, Nat.le_succ_of_le begun, frame⟩
  -- A frame less than a round old is not the one whose place is reused, by the numbers modulo the
  -- number of places.
  case inFlight =>
    intro n tag k known recent
    rw [length] at recent
    obtain ⟨newest, mem⟩ := h.inFlight n tag k known (by omega)
    have begun := (h.dated n tag k known).2.1
    exact ⟨newest, lists.2 ⟨FrameId.mod_ne_of_lt (by omega) (by omega), mem⟩⟩
  -- What is listed elsewhere was listed before. Were it a round old now, it would have been listed
  -- at the reused place.
  case listed =>
    intro n tag place newest mem
    obtain ⟨other, mem⟩ := lists.1 mem
    obtain ⟨k, known, same, recent⟩ := h.listed n tag place newest mem
    refine ⟨k, known, same, ?_⟩
    rw [length]
    by_contra past
    refine other ?_
    rw [same, ← Nat.add_mod_right]
    congr 1
    omega
  -- One frame more is a round old, the one whose place is reused, and nothing of it is pending.
  case retired =>
    intro k past
    rw [length] at past
    by_cases old : k + config.maxFrames ≤ desk.begun.length
    · exact h.retired k old
    · exact (h.pendingOf_eq_zero_iff accounts found).1 done k (by omega)

/-- A batch is opened, of which the places know nothing. -/
theorem Chronicle.opened (h : Chronicle config desk) (accounts : Accounts config desk)
    {queue : Queue} (slot : Nat) (draft : Option FrameRing.Draft) :
    Chronicle config { desk with ring := desk.ring.handOut slot queue, draft } := by
  have lists {place : Nat} {id : BatchId} :
      (desk.ring.handOut slot queue).Lists place id ↔ desk.ring.Lists place id :=
    FrameRing.lists_handOut_iff accounts.getElem?_current slot queue
  refine ⟨h.numbers, h.current, h.entered, h.counted, h.dated, ?_, ?_, h.retired⟩
  · intro n tag k known recent
    rw [lists]
    exact h.inFlight n tag k known recent
  · intro n tag place newest mem
    exact h.listed n tag place newest (lists.1 mem)

/-- The batch that is open is begun, in the current frame. -/
theorem Chronicle.joined (h : Chronicle config desk) (accounts : Accounts config desk)
    (valid : config.fault? = none) {draft : FrameRing.Draft} {label : String}
    (held : desk.draft = some draft) :
    Chronicle config
      { desk with
        ring := (desk.ring.beginBatch draft label).2.1
        draft := none
        frameOf := desk.frameOf ++ [desk.begun.length] } := by
  let later : Desk :=
    { desk with
      ring := (desk.ring.beginBatch draft label).2.1
      draft := none
      frameOf := desk.frameOf ++ [desk.begun.length] }
  obtain ⟨two, few, -⟩ := FrameRing.Config.of_valid valid
  have drafted := accounts.drafted draft held
  have roll : later.ring.roll = desk.ring.roll ++ [desk.ring.newTag draft] :=
    desk.ring.roll_beginBatch draft label
  have place : desk.ring.current.index.toNat = desk.begun.length % config.maxFrames := by
    rw [h.current, FrameId.toNat_index_nth (by omega) few]
  have lists {p : Nat} {id : BatchId} :
      later.ring.Lists p id ↔
        desk.ring.Lists p id ∨ p = desk.begun.length % config.maxFrames ∧ id = draft.batch.id := by
    rw [← place]
    exact FrameRing.lists_beginBatch_iff accounts.getElem?_current draft label
  -- no batch that is listed has the slot of the new one
  have apart {p : Nat} {id : BatchId} (mem : desk.ring.Lists p id) :
      (desk.ring.newTag draft).id.index ≠ id.index := by
    obtain ⟨frame, found, mem⟩ := mem
    exact (drafted.apart frame (List.mem_of_getElem? found) id mem).symm
  have dated {n : Nat} {tag : Submission.Tag} {k : Nat} :
      later.Dated n tag k ↔ desk.Dated n tag k ∨
        n = desk.ring.roll.length ∧ tag = desk.ring.newTag draft ∧ k = desk.begun.length :=
    dated_append_iff h.counted roll rfl
  refine {
    numbers := h.numbers
    current := h.current
    entered := h.entered
    counted := ?counted
    dated := ?dated
    inFlight := ?inFlight
    listed := ?listed
    retired := ?retired }
  -- One submission more, and one date more.
  case counted =>
    show later.frameOf.length = later.ring.roll.length
    rw [roll, List.length_append, List.length_append, h.counted]
    rfl
  case dated =>
    intro n tag k known
    rcases dated.1 known with known | ⟨-, rfl, rfl⟩
    · exact h.dated n tag k known
    · exact ⟨h.entered drafted.begun, Nat.le_refl _, h.current⟩
  -- What is in flight stays the newest of its slot, since the new batch has a slot that is not
  -- listed. The new batch is the newest of its own.
  case inFlight =>
    intro n tag k known recent
    show Newest later.ring.roll n tag ∧ later.ring.Lists _ tag.id
    rw [roll]
    rcases dated.1 known with known | ⟨rfl, rfl, rfl⟩
    · obtain ⟨newest, mem⟩ := h.inFlight n tag k known recent
      exact ⟨newest.append (apart mem), lists.2 (.inl mem)⟩
    · exact ⟨Submission.newest_last _ _, lists.2 (.inr ⟨rfl, rfl⟩)⟩
  -- A listed batch is an earlier one, or has the identifier of the new one and is the newest of
  -- that slot, so it is the new one.
  case listed =>
    intro n tag p newest mem
    rw [show FrameRing.roll _ = _ from roll] at newest
    rcases lists.1 mem with mem | ⟨same, named⟩
    · obtain ⟨k, known, same, recent⟩ := h.listed n tag p (newest.of_append (apart mem)) mem
      exact ⟨k, dated.2 (.inl known), same, recent⟩
    · have last := Submission.newest_last desk.ring.roll (desk.ring.newTag draft)
      have index : tag.id.index = (desk.ring.newTag draft).id.index :=
        congrArg BatchId.index named
      refine ⟨desk.begun.length, dated.2 (.inr ⟨newest.unique last index, ?_, rfl⟩), same, ?_⟩
      · exact newest.tag_eq last index
      · show desk.begun.length < desk.begun.length + config.maxFrames
        omega
  -- The new batch belongs to the current frame, which is not a round old.
  case retired =>
    intro k past n submission found frame
    rcases dated.1 (dated_of_submission found frame) with known | ⟨-, -, rfl⟩
    · refine h.retired k past n submission ?_ known.frameOf
      rw [← found]
      have bound := (List.getElem?_eq_some_iff.1 known.roll).1
      rw [show desk.ring.roll.length = desk.ring.submissions.length from List.length_map _] at bound
      exact (List.getElem?_append_left bound).symm
    · have past : desk.begun.length + config.maxFrames ≤ desk.begun.length := past
      omega

/-- Every change keeps the chronicle. -/
theorem Chronicle.change (h : Chronicle config desk) (accounts : Accounts config desk)
    (valid : config.fault? = none) {act : Act} (regular : act.Regular)
    (change : Change desk act after) : Chronicle config after := by
  cases change with
  | quiet quiet => exact h.quiet quiet
  | frame which free idle found done =>
    rcases which with ⟨-, rfl⟩ | rfl
    · exact h.frame accounts valid found done
    · cases regular
  | opened which free begun room few search => exact h.opened accounts _ _
  | joined which held => exact h.joined accounts valid held

/-- Every run of regular acts keeps the chronicle, by induction on the acts. The accounts are kept
beside it, since they tell that a place lists no batch of another. -/
theorem Chronicle.run (h : Chronicle config desk) (accounts : Accounts config desk)
    (valid : config.fault? = none) {acts : List Act} (regular : ∀ act ∈ acts, act.Regular) :
    Chronicle config (desk.run acts) := by
  induction acts using List.reverseRecOn with
  | nil => exact h
  | append_singleton acts act ih =>
    have former : ∀ act ∈ acts, act.Regular := by
      intro act mem
      exact regular act (List.mem_append_left _ mem)
    have accounts : Accounts config (desk.run acts) :=
      accounts.run fun act mem => (former act mem).fits config
    rw [run_append]
    refine (ih former).change accounts valid ?_ (change_step accounts.numbered accounts.whole act)
    exact regular act (List.mem_append_right _ List.mem_cons_self)

/-! ## What becomes of a batch

A batch is looked up by its identity, which a later batch may have again after many rounds. That is
why the last part speaks of its number among the submissions and not only of what is found. -/

/-- A batch of the last frames is found. Its frame still lists it, and it is the newest in its
slot. -/
theorem Chronicle.find?_of_recent (h : Chronicle config desk) {submission : Submission}
    (found : desk.ring.submissions[n]? = some submission) (frame : desk.frameOf[n]? = some k)
    (recent : desk.begun.length < k + config.maxFrames) :
    desk.ring.find? submission.id = some submission := by
  have known := dated_of_submission found frame
  obtain ⟨newest, other, found', mem⟩ := h.inFlight n submission.tag k known recent
  obtain ⟨same, at', -, looked⟩ := FrameRing.submission?_of_newest newest
  cases found.symm.trans at'
  unfold FrameRing.find?
  rw [if_pos, show submission.id = submission.tag.id from rfl, looked]
  rw [List.any_eq_true]
  exact ⟨other, List.mem_of_getElem? found', List.contains_iff_mem.2 mem⟩

/-- Only batches of the last frames are found. A place lists batches of the frame that has it, and
that is one of the last. -/
theorem Chronicle.recent_of_find? (h : Chronicle config desk) (accounts : Accounts config desk)
    {id : BatchId} {submission : Submission} (looked : desk.ring.find? id = some submission) :
    ∃ k, desk.Dated submission.serial submission.tag k ∧
      desk.begun.length < k + config.maxFrames := by
  unfold FrameRing.find? at looked
  split at looked
  case isFalse => cases looked
  rename_i listed
  obtain ⟨frame, mem, known⟩ := List.any_eq_true.1 listed
  obtain ⟨place, found⟩ := List.mem_iff_getElem?.1 mem
  have known := List.contains_iff_mem.1 known
  obtain ⟨n, other, at', newest, looked', rfl, -⟩ := accounts.submission mem known
  cases looked.symm.trans looked'
  obtain ⟨k, dated, -, recent⟩ := h.listed n submission.tag place newest ⟨frame, found, known⟩
  have serial : submission.serial = n := accounts.numbered n submission.tag newest.1
  rw [serial]
  exact ⟨k, dated, recent⟩

/-- A batch of a frame before is not found. -/
theorem Chronicle.serial_ne_of_find? (h : Chronicle config desk) (accounts : Accounts config desk)
    {submission other : Submission} (found : desk.ring.submissions[n]? = some submission)
    (frame : desk.frameOf[n]? = some k) (past : k + config.maxFrames ≤ desk.begun.length)
    {id : BatchId} (looked : desk.ring.find? id = some other) :
    other.serial ≠ submission.serial := by
  intro same
  have known := dated_of_submission found frame
  have serial : submission.serial = n := accounts.numbered n submission.tag known.roll
  obtain ⟨l, known', recent⟩ := h.recent_of_find? accounts looked
  rw [same, serial] at known'
  rw [known'.unique known] at recent
  omega

/-- A batch that is not complete is found and keeps its slot, which no other batch gets. -/
theorem Chronicle.pending_kept (h : Chronicle config desk) (accounts : Accounts config desk)
    {submission : Submission} (found : desk.ring.submissions[n]? = some submission)
    (pending : submission.isComplete = false) :
    desk.ring.find? submission.id = some submission ∧
      desk.ring.slots.isAssigned submission.id.index.toNat = true ∧
      (∀ (later : Nat) (other : Submission), n < later →
        desk.ring.submissions[later]? = some other → other.id.index ≠ submission.id.index) ∧
      ∀ draft, desk.draft = some draft → draft.batch.id.index ≠ submission.id.index := by
  obtain ⟨k, frame⟩ := h.exists_frameOf found
  have recent : desk.begun.length < k + config.maxFrames := by
    by_contra past
    have done := h.retired k (Nat.not_lt.1 past) n submission found frame
    rw [pending] at done
    cases done
  obtain ⟨newest, place, at', listed⟩ :=
    h.inFlight n submission.tag k (dated_of_submission found frame) recent
  have mem := List.mem_of_getElem? at'
  obtain ⟨-, -, -, -, -, -, slot, -⟩ := accounts.submission mem listed
  refine ⟨h.find?_of_recent found frame recent, ?_, ?_, ?_⟩
  · rw [accounts.taken]
    exact List.mem_flatMap.2 ⟨place, mem, slot⟩
  · intro later other less found'
    exact newest.2 later other.tag less (FrameRing.roll_of_submission found')
  · intro draft held
    exact ((accounts.drafted draft held).apart place mem submission.id listed).symm

end

/-- **Frames wait for the batches of their place.** Take a ring with limits that make sense, after
any acts that leave it to the ring to number the frames. Say that it has `m` places and has begun
`frames` frames.

The frames have the numbers `1, 2, 3, …`, wrapped, and take the places in turn.

A batch begun in frame `k` is found until frame `k + m` is begun, and never after that.

Frame `k + m` is begun exactly if the ring is not in a frame and all batches of frame `k` are
complete; else nothing happens. Whether they are can be asked before.

So a batch that is not complete is found, it keeps its slot, and no batch begun after it and no
batch that is open has that slot. -/
theorem batches_outlive_frames (config : FrameRing.Config) (valid : config.fault? = none)
    (surfaces : List Surface) (acts : List Act) (regular : ∀ act ∈ acts, act.Regular) :
    let desk := (start config surfaces).run acts
    let ring := desk.ring
    let frames := desk.begun.length
    let m := config.maxFrames
    (∀ (k : Nat) (id : FrameId), desk.begun[k]? = some id →
      id.unique = UInt64.ofNat (k + 1) ∧ id.index.toNat = (k + 1) % m) ∧
    (∀ (n : Nat) (submission : Submission), ring.submissions[n]? = some submission →
      ∃ k, desk.frameOf[n]? = some k ∧ 0 < k ∧ desk.begun[k - 1]? = some submission.frame ∧
        (frames < k + m → ring.find? submission.id = some submission) ∧
        (k + m ≤ frames → ∀ id found, ring.find? id = some found →
          found.serial ≠ submission.serial)) ∧
    ((∃ id, ring.beginFrame.answer = .ok id) ↔
      ring.phase ≠ .begun ∧ ∀ k, k + m = frames + 1 → desk.Retired k) ∧
    (∀ error, ring.beginFrame.answer = .error error → ring.beginFrame.ring = ring) ∧
    (ring.phase ≠ .begun → (ring.isNextQuiet = true ↔ ∃ id, ring.beginFrame.answer = .ok id)) ∧
    (∀ (n : Nat) (submission : Submission), ring.submissions[n]? = some submission →
      submission.isComplete = false →
        ring.find? submission.id = some submission ∧
        ring.slots.isAssigned submission.id.index.toNat = true ∧
        (∀ (later : Nat) (other : Submission), n < later →
          ring.submissions[later]? = some other → other.id.index ≠ submission.id.index) ∧
        ∀ draft, desk.draft = some draft → draft.batch.id.index ≠ submission.id.index) := by
  intro desk ring frames m
  -- Both invariants hold of the run. The accounts say which slots are taken, the chronicle which
  -- frame a submission is of and where it is listed.
  have accounts : Accounts config desk :=
    (accounts_start valid surfaces).run fun act mem => (regular act mem).fits config
  have chronicle : Chronicle config desk :=
    (chronicle_start config surfaces).run (accounts_start valid surfaces) valid regular
  obtain ⟨former, found, waits⟩ := chronicle.exists_next accounts valid
  refine ⟨?_, ?_, ?_, ?_, ?_, ?_⟩
  · intro k id begun
    obtain ⟨two, few, -⟩ := FrameRing.Config.of_valid valid
    rw [chronicle.numbers k id begun]
    exact ⟨rfl, FrameId.toNat_index_nth (by omega) few (k + 1)⟩
  · intro n submission known
    obtain ⟨k, frame⟩ := chronicle.exists_frameOf known
    obtain ⟨first, begun, number⟩ :=
      chronicle.dated n submission.tag k (dated_of_submission known frame)
    refine ⟨k, frame, first, ?_, chronicle.find?_of_recent known frame, ?_⟩
    · have at' := List.getElem?_eq_getElem (by omega : k - 1 < desk.begun.length)
      rw [at', chronicle.numbers _ _ at', Nat.sub_add_cancel first]
      exact congrArg some number.symm
    · intro past id other looked
      exact chronicle.serial_ne_of_find? accounts known frame past looked
  · rw [FrameRing.beginFrame_isOk_iff found, waits]
  · intro error refused
    by_cases ready : ring.phase ≠ .begun ∧ ring.pendingOf former = 0
    · obtain ⟨id, begun⟩ := (FrameRing.beginFrame_isOk_iff found).2 ready
      rw [begun] at refused
      cases refused
    · obtain ⟨-, -, same⟩ := FrameRing.beginFrame_eq_error found (by tauto)
      exact same
  · intro idle
    rw [FrameRing.isNextQuiet_iff found, FrameRing.beginFrame_isOk_iff found]
    exact (and_iff_right idle).symm
  · intro n submission known pending
    exact chronicle.pending_kept accounts known pending

/-- A frame with a batch that takes long, and one without batches. -/
def slowFrame : List Act :=
  [.beginFrame, .openBatch .graphics fun _ => false, .beginBatch "slow", .endFrame, .beginFrame,
    .endFrame]

/-- The general statement on a frame with a batch that takes long: its place is not used again
before the batch is complete. -/
theorem batches_outlive_frames_slowFrame :
    let desk := (start {} []).run slowFrame
    desk.begun = [⟨1, 1, 2⟩, ⟨2, 0, 2⟩] ∧ desk.frameOf = [1] ∧ desk.ring.phase ≠ .begun ∧
      ¬ ∃ id, desk.ring.beginFrame.answer = .ok id := by
  obtain ⟨-, -, -, -, asked, -⟩ := batches_outlive_frames {} rfl [] slowFrame (by
    simp [slowFrame, Act.Regular])
  have idle : ((start {} []).run slowFrame).ring.phase ≠ .begun := by decide +kernel
  refine ⟨by decide +kernel, by decide +kernel, idle, ?_⟩
  rw [← asked idle]
  decide +kernel

end Desk

end GpuSync
