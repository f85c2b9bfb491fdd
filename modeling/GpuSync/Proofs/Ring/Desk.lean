import GpuSync.Proofs.Batch.Publication
import GpuSync.Proofs.Slot.Pool
import GpuSync.Ring.Batches
import GpuSync.Ring.Frames

/-!
# A ring at work

A desk is a ring with the batch that is being declared, if there is one, and with a record of the
frames and batches begun so far. An `Act` is anything that may be done to the ring or to a batch
begun in it. While a batch is being declared the ring is lent to it: batches may be worked on and
completed then, but nothing else is done to the ring, so such acts change nothing.

* `Desk.step` does one act and `Desk.run` does several in order.
* `Submission.Tag` is what never changes about a submission, and `FrameRing.roll` lists the tags.
* `Desk.Change` lists, one constructor per case, what an act does; `Desk.change_step` says that
  there is no other case.
-/

namespace GpuSync

/-- What never changes about a submission. Its identity, its queue with the position there, its
frame and its number. -/
structure Submission.Tag where
  /-- Which batch it is. -/
  id : BatchId
  /-- Its queue. -/
  queue : Queue
  /-- Its place on the queue. -/
  position : Nat
  /-- Its frame. -/
  frame : FrameId
  /-- How many submissions were begun before. -/
  serial : Nat
  deriving DecidableEq

/-- What never changes about a submission. -/
def Submission.tag (submission : Submission) : Submission.Tag :=
  ⟨submission.id, submission.batch.queue, submission.position, submission.frame,
    submission.serial⟩

/-- To complete a submission does not change what never changes about it. -/
theorem Submission.tag_complete (submission : Submission) :
    submission.complete.2.1.tag = submission.tag := by
  unfold complete
  split <;> rfl

/-- A submission that was completed is complete. -/
theorem Submission.isComplete_complete (submission : Submission) :
    submission.complete.2.1.isComplete = true := by
  unfold complete Completion.raise
  by_cases done : submission.completion.done = true
  · rw [if_pos done]
    exact done
  · rw [if_neg done]
    rfl

/-- A frame but for the surfaces it presents. -/
def Frame.bare (frame : Frame) : Frame := { frame with outputs := [] }

/-- Frames that are the same but for what they present agree in all the accounts are about. -/
theorem Frame.eq_of_bare {a b : Frame} (same : a.bare = b.bare) :
    a.batches = b.batches ∧ a.slots = b.slots ∧ a.submitted = b.submitted := by
  unfold bare at same
  rw [Frame.mk.injEq] at same
  exact ⟨same.2.1, same.2.2.1, same.2.2.2.1⟩

namespace FrameRing

/-- The tags of all submissions ever begun. -/
def roll (ring : FrameRing) : List Submission.Tag := ring.submissions.map (·.tag)

/-- The roll has the tag of each submission in its place. -/
theorem roll_of_submission {ring : FrameRing} {n : Nat} {submission : Submission}
    (found : ring.submissions[n]? = some submission) : ring.roll[n]? = some submission.tag := by
  unfold roll
  rw [List.getElem?_map, found]
  rfl

/-- Every submission has the number under which it is found. -/
def Numbered (ring : FrameRing) : Prop :=
  ∀ (n : Nat) (tag : Submission.Tag), ring.roll[n]? = some tag → tag.serial = n

/-- The identity with which a slot is handed out next. -/
def nextId (ring : FrameRing) (slot : Nat) : BatchId :=
  match ring.slots.values.find? slot with
  | none => ⟨UInt32.ofNat slot, 0⟩
  | some former => former.next

/-! ## What the operations on a ring do

For each operation there is an equation for when it succeeds and one for when it is refused. The
modules on rings cite these and do not open the operations. -/

/-- A batch that gets the object of a former one is new all the same: what the object showed is
reset. This is why who holds what makes no difference to a desk. -/
theorem recycle_eq_new (ring : FrameRing) (held : BatchId → Bool) (former : Option BatchId)
    (id : BatchId) (queue : Queue) : ring.recycle held former id queue = .new id queue := by
  unfold recycle
  split
  · rfl
  · split <;> rfl

/-- A slot that is handed out gets its next identity. -/
theorem assignWith_slots {ring : FrameRing} (whole : ring.slots.Whole) {slot : Nat}
    (search : ring.slots.firstFree? 0 = some slot) :
    ∃ assigned, ring.slots.assignWith 0
        (fun slot => Slot.Pool.yielding ⟨UInt32.ofNat slot, 0⟩ slot)
        (fun former => Slot.Pool.yielding former.next) = .ok assigned ∧
      assigned.index = slot ∧
      assigned.pool = (ring.slots.take slot).store slot (ring.nextId slot) ∧
      assigned.pool.values.find? slot = some (ring.nextId slot) := by
  obtain ⟨assigned, done, index, pool⟩ :=
    Slot.Pool.assignWith_yielding search (fun slot => ⟨UInt32.ofNat slot, 0⟩) BatchId.next
  have due : ring.slots.handed (fun slot => ⟨UInt32.ofNat slot, 0⟩) BatchId.next slot =
      ring.nextId slot := by
    unfold Slot.Pool.handed nextId
    cases ring.slots.values.find? slot <;> rfl
  rw [due] at pool
  refine ⟨assigned, done, index, pool, ?_⟩
  have stored := Slot.Pool.get?_take_store whole slot
    (Slot.Pool.firstFree?_eq_some whole search).1 (ring.nextId slot)
  rw [if_pos rfl] at stored
  rw [pool]
  exact (Slot.Pool.get?_eq_some_iff.1 stored).2

/-- The ring once a slot was handed out for a queue. -/
def handOut (ring : FrameRing) (slot : Nat) (queue : Queue) : FrameRing :=
  { ring with
    slots := (ring.slots.take slot).store slot (ring.nextId slot) }.modifyCurrent
      (·.opened slot queue)

/-- The slot that is handed out gets its next identity, the others keep theirs. -/
theorem find?_handOut {ring : FrameRing} (whole : ring.slots.Whole) {slot : Nat}
    (search : ring.slots.firstFree? 0 = some slot) (queue : Queue) (other : Nat) :
    (ring.handOut slot queue).slots.values.find? other =
      if other = slot then some (ring.nextId slot) else ring.slots.values.find? other :=
  RadixMap.find?_insert _ other _ (Nat.lt_of_lt_of_le
    (Slot.Pool.firstFree?_eq_some whole search).1 shape.capacity_le_span)

/-- With room in the frame and in the pool, a batch is opened. -/
theorem openBatch_eq_ok {ring : FrameRing} (whole : ring.slots.Whole) (held : BatchId → Bool)
    {queue : Queue} (begun : ring.phase = .begun)
    (room : ring.submittedTo queue < ring.config.maxPerQueue)
    (few : ring.slots.assignedCount < ring.config.maxPending) {slot : Nat}
    (search : ring.slots.firstFree? 0 = some slot) :
    ring.openBatch held queue =
      { answer := .ok ⟨.new (ring.nextId slot) queue, ring.submittedTo queue⟩
        ring := ring.handOut slot queue } := by
  obtain ⟨assigned, done, index, pool, value⟩ := assignWith_slots whole search
  unfold openBatch
  rw [if_neg (by simp [begun])]
  dsimp only
  rw [if_neg (Nat.not_le.2 room), if_neg (Nat.not_le.2 few), done]
  dsimp only
  rw [index, value, pool, recycle_eq_new]
  rfl

/-- Without room, no batch is opened and nothing happens. Whatever stands in the way, the ring is as
it was. -/
theorem openBatch_eq_error {ring : FrameRing} (held : BatchId → Bool) {queue : Queue}
    (full : ring.phase ≠ .begun ∨ ring.config.maxPerQueue ≤ ring.submittedTo queue ∨
      ring.config.maxPending ≤ ring.slots.assignedCount ∨ ring.slots.firstFree? 0 = none) :
    ∃ error, (ring.openBatch held queue).answer = .error error ∧
      (ring.openBatch held queue).ring = ring := by
  unfold openBatch
  split
  · exact ⟨_, rfl, rfl⟩
  dsimp only
  split
  · exact ⟨_, rfl, rfl⟩
  split
  · exact ⟨_, rfl, rfl⟩
  rename_i begun room few
  rcases full with closed | full | full | none
  · exact absurd closed begun
  · exact absurd full room
  · exact absurd full few
  · unfold Slot.Pool.assignWith
    rw [none]
    exact ⟨_, rfl, rfl⟩

/-- The ring once a frame was begun in the place of another. -/
def turn (ring : FrameRing) (id : FrameId) (former : Frame) : FrameRing :=
  { ring with
    slots := ring.freeSlots former
    frames := ring.frames.set id.index.toNat { id }
    current := id
    phase := .begun }

/-- A frame is begun if the ring is not in one and the place is free to be used again. -/
theorem beginFrameAs_eq_ok {ring : FrameRing} {id : FrameId} {former : Frame}
    (idle : ring.phase ≠ .begun) (found : ring.frames[id.index.toNat]? = some former)
    (done : ring.pendingOf former = 0) :
    (ring.beginFrameAs id).answer = .ok () ∧
      (ring.beginFrameAs id).ring = ring.turn id former := by
  unfold beginFrameAs
  rw [if_neg idle, found]
  dsimp only
  rw [if_neg (by simp [done])]
  exact ⟨rfl, rfl⟩

/-- Else nothing happens. -/
theorem beginFrameAs_eq_error {ring : FrameRing} {id : FrameId}
    (busy : ring.phase = .begun ∨ ring.frames[id.index.toNat]? = none ∨
      ∃ former, ring.frames[id.index.toNat]? = some former ∧ ring.pendingOf former ≠ 0) :
    ∃ error, (ring.beginFrameAs id).answer = .error error ∧ (ring.beginFrameAs id).ring = ring := by
  unfold beginFrameAs
  split
  · exact ⟨_, rfl, rfl⟩
  rename_i idle
  rcases busy with busy | none | ⟨former, found, pending⟩
  · exact absurd busy idle
  · rw [none]
    exact ⟨_, rfl, rfl⟩
  · rw [found]
    dsimp only
    rw [if_pos pending]
    exact ⟨_, rfl, rfl⟩

/-- Presenting changes surfaces only. A surface that fails is among them: it is called, and the rest
is presented all the same. -/
theorem presentAll_ring (ring : FrameRing) (outputs : List Frame.Output) :
    ∃ surfaces, (ring.presentAll outputs).2.1 = { ring with surfaces } := by
  induction outputs generalizing ring with
  | nil => exact ⟨ring.surfaces, rfl⟩
  | cons output rest ih =>
    have one : ∃ surfaces, (ring.presentOne output).2.1 = { ring with surfaces } := by
      unfold presentOne
      split
      · exact ⟨_, rfl⟩
      · exact ⟨ring.surfaces, rfl⟩
    obtain ⟨surfaces, first⟩ := one
    obtain ⟨surfaces', others⟩ := ih { ring with surfaces }
    refine ⟨surfaces', ?_⟩
    unfold presentAll
    dsimp only
    rw [first]
    exact others

/-- Ending a frame changes the phase only, unless it is refused. -/
theorem endFrameQuietly_ring (ring : FrameRing) :
    ring.endFrameQuietly.ring = ring ∨
      ring.phase = .begun ∧ ring.endFrameQuietly.ring = { ring with phase := .ended } := by
  unfold endFrameQuietly
  split
  · exact .inl rfl
  · rename_i begun
    exact .inr ⟨by simpa using begun, rfl⟩

/-- Ending a frame that presents changes surfaces too. -/
theorem endFrame_ring (ring : FrameRing) :
    ∃ surfaces, ring.endFrame.ring = ring ∨
      ring.phase = .begun ∧ ring.endFrame.ring = { ring with surfaces, phase := .ended } := by
  obtain ⟨surfaces, presented⟩ := ring.presentAll_ring ring.currentFrame.outputs
  refine ⟨surfaces, ?_⟩
  unfold endFrame
  split
  · exact .inl rfl
  · rename_i begun
    have begun : ring.phase = .begun := by simpa using begun
    refine .inr ⟨begun, ?_⟩
    dsimp only
    rw [presented]
    unfold endFrameQuietly
    rw [if_neg (by simp [begun])]

/-- Changing a submission, but not its tag. -/
theorem roll_setSubmission {ring : FrameRing} (numbered : ring.Numbered) {n : Nat}
    {former changed : Submission} (found : ring.submissions[n]? = some former)
    (same : changed.tag = former.tag) :
    (ring.setSubmission changed).submissions = ring.submissions.set n changed ∧
      (ring.setSubmission changed).roll = ring.roll := by
  have rolled := roll_of_submission found
  have serial : changed.serial = n :=
    (congrArg Submission.Tag.serial same).trans (numbered n former.tag rolled)
  have set : (ring.setSubmission changed).submissions = ring.submissions.set n changed := by
    rw [← serial]
    rfl
  refine ⟨set, ?_⟩
  unfold roll at rolled ⊢
  obtain ⟨bound, at'⟩ := List.getElem?_eq_some_iff.1 rolled
  rw [set, List.map_set, same, ← at']
  exact List.set_getElem_self _

end FrameRing

/-! ## Acts

A batch that is declared has the ring on loan until it is begun or given up, so there is one such
batch at most, and operations on the ring have to wait for it. A desk keeps it beside the ring. -/

/-- A ring with the batch being declared, and what was begun so far. `begun` has the frames begun so
far and `frameOf` the number of the frame in which each submission was begun. Neither is known to
the ring. -/
structure Desk where
  /-- The ring. -/
  ring : FrameRing
  /-- The batch being declared. -/
  draft : Option FrameRing.Draft := none
  /-- The frames begun, in order. -/
  begun : List FrameId := []
  /-- For each submission, how many frames were begun by then. -/
  frameOf : List Nat := []

namespace Desk

/-- Something done to a ring or to a batch begun in it, which goes by its number. -/
inductive Act where
  /-- Begins the next frame. -/
  | beginFrame
  /-- Begins any frame. -/
  | beginFrameAs (id : FrameId)
  /-- Opens a batch, while some former batches are still held. -/
  | openBatch (queue : Queue) (held : BatchId → Bool)
  /-- Declares something for the batch that is open. If that is refused the batch is lost. -/
  | declare (tracker : Tracker) (declaration : Batch.Declaration)
  /-- Begins the batch that is open. -/
  | beginBatch (label : String)
  /-- Gives the batch that is open up. -/
  | giveUp
  /-- Gates a batch on a surface. -/
  | draw (tracker : Tracker) (surface batch : Nat)
  /-- A call on a batch. -/
  | work (batch : Nat) (tracker : Tracker) (call : Batch.Call)
  /-- The device has finished a batch. -/
  | complete (batch : Nat)
  /-- Presents the surfaces of the frame and ends it. -/
  | endFrame
  /-- Ends the frame without presenting. -/
  | endFrameQuietly

/-- Does something to the ring, unless it is lent to a batch that is open. -/
def onRing (desk : Desk) (change : FrameRing → FrameRing) : Desk :=
  if desk.draft.isSome then desk else { desk with ring := change desk.ring }

/-- Takes over that a frame was begun, or refused. -/
def framed {α : Type} (desk : Desk) (outcome : FrameRing.Outcome α) (id : α → FrameId) : Desk :=
  if desk.draft.isSome then desk
  else
    match outcome.answer with
    | .ok answer => { desk with ring := outcome.ring, begun := desk.begun ++ [id answer] }
    | .error _ => { desk with ring := outcome.ring }

/-- Does one act. -/
def step (desk : Desk) : Act → Desk
  | .beginFrame => desk.framed desk.ring.beginFrame id
  | .beginFrameAs id => desk.framed (desk.ring.beginFrameAs id) fun () => id
  | .openBatch queue held =>
    if desk.draft.isSome then desk
    else
      let outcome := desk.ring.openBatch held queue
      { desk with ring := outcome.ring, draft := outcome.answer.toOption }
  | .declare tracker declaration =>
    { desk with
      draft := desk.draft.bind fun draft =>
        let outcome := draft.batch.declareOne tracker declaration
        match outcome.answer with
        | .ok () => some { draft with batch := outcome.batch }
        | .error _ => none }
  | .beginBatch label =>
    match desk.draft with
    | none => desk
    | some draft =>
      { desk with
        ring := (desk.ring.beginBatch draft label).2.1
        draft := none
        frameOf := desk.frameOf ++ [desk.begun.length] }
  | .giveUp => { desk with draft := none }
  | .draw tracker surfaceIndex n =>
    desk.onRing fun ring =>
      match ring.surfaces[surfaceIndex]?, ring.submissions[n]? with
      | some surface, some submission => (ring.gate tracker surfaceIndex surface submission).ring
      | _, _ => ring
  | .work n tracker call =>
    match desk.ring.submissions[n]? with
    | none => desk
    | some submission =>
      let batch := (submission.batch.perform tracker call).batch
      { desk with ring := desk.ring.setSubmission { submission with batch } }
  | .complete n =>
    match desk.ring.submissions[n]? with
    | none => desk
    | some submission => { desk with ring := (desk.ring.retire submission).2.1 }
  | .endFrame => desk.onRing fun ring => ring.endFrame.ring
  | .endFrameQuietly => desk.onRing fun ring => ring.endFrameQuietly.ring

/-- Does acts in order. -/
def run (desk : Desk) (acts : List Act) : Desk := acts.foldl step desk

/-- A desk before anything was done. -/
def start (config : FrameRing.Config) (surfaces : List Surface) : Desk where
  ring := .new config surfaces

/-- Nothing is done to a desk without an act. -/
@[simp] theorem run_nil (desk : Desk) : desk.run [] = desk := rfl

/-- A run goes on with the last act. -/
@[simp] theorem run_append (desk : Desk) (acts : List Act) (act : Act) :
    desk.run (acts ++ [act]) = (desk.run acts).step act := by
  simp [run]

/-! ## What an act does

The acts come to four kinds of changes. Most invariants of rings do not see the difference among
quiet acts, which is why those are one case. -/

/-- No frame is begun, no batch opened and none begun. Submissions may have changed, but not in
their tags, and one that was complete still is. -/
structure Quiet (desk after : Desk) : Prop where
  /-- The limits stay. -/
  config : after.ring.config = desk.ring.config
  /-- The slots stay. -/
  slots : after.ring.slots = desk.ring.slots
  /-- The frames stay, but for the surfaces they present. -/
  frames : after.ring.frames.map Frame.bare = desk.ring.frames.map Frame.bare
  /-- It is still the same frame. -/
  current : after.ring.current = desk.ring.current
  /-- That frame is ended at most, which is not done while a batch is open. -/
  phase : after.ring.phase = desk.ring.phase ∨
    desk.draft = none ∧ desk.ring.phase = .begun ∧ after.ring.phase = .ended
  /-- The submissions keep their tags. -/
  roll : after.ring.roll = desk.ring.roll
  /-- What is complete stays complete. -/
  complete : ∀ (n : Nat) (former : Submission), desk.ring.submissions[n]? = some former →
    ∃ later, after.ring.submissions[n]? = some later ∧
      (former.isComplete = true → later.isComplete = true)
  /-- A batch that is open stays the same batch, or is lost. -/
  draft : ∀ draft, after.draft = some draft → ∃ former, desk.draft = some former ∧
    draft.batch.user = former.batch.user ∧ draft.position = former.position
  /-- No frame was begun. -/
  begun : after.begun = desk.begun
  /-- No batch was begun. -/
  frameOf : after.frameOf = desk.frameOf

/-- What an act does to a desk. The last three cases say what the ring is afterwards, with all that
was checked before. -/
inductive Change (desk : Desk) (act : Act) : Desk → Prop where
  /-- Nothing much. -/
  | quiet {after : Desk} (quiet : Quiet desk after) : Change desk act after
  /-- A frame is begun in the place of another, all of whose batches are complete. -/
  | frame {id : FrameId} {former : Frame}
    (which : act = .beginFrame ∧ id = desk.ring.current.next ∨ act = .beginFrameAs id)
    (free : desk.draft = none) (idle : desk.ring.phase ≠ .begun)
    (found : desk.ring.frames[id.index.toNat]? = some former)
    (done : desk.ring.pendingOf former = 0) :
    Change desk act
      { desk with ring := desk.ring.turn id former, begun := desk.begun ++ [id] }
  /-- A batch is opened, with a slot that was free. -/
  | opened {queue : Queue} {held : BatchId → Bool} {slot : Nat}
    (which : act = .openBatch queue held) (free : desk.draft = none)
    (begun : desk.ring.phase = .begun)
    (room : desk.ring.submittedTo queue < desk.ring.config.maxPerQueue)
    (few : desk.ring.slots.assignedCount < desk.ring.config.maxPending)
    (search : desk.ring.slots.firstFree? 0 = some slot) :
    Change desk act
      { desk with
        ring := desk.ring.handOut slot queue
        draft := some ⟨.new (desk.ring.nextId slot) queue, desk.ring.submittedTo queue⟩ }
  /-- The batch that is open is begun. -/
  | joined {draft : FrameRing.Draft} {label : String} (which : act = .beginBatch label)
    (held : desk.draft = some draft) :
    Change desk act
      { desk with
        ring := (desk.ring.beginBatch draft label).2.1
        draft := none
        frameOf := desk.frameOf ++ [desk.begun.length] }

section

variable {desk after : Desk}

/-- A desk that is left alone changed nothing. -/
theorem Quiet.refl (desk : Desk) : Quiet desk desk where
  config := rfl
  slots := rfl
  frames := rfl
  current := rfl
  phase := .inl rfl
  roll := rfl
  complete := fun _ former found => ⟨former, found, id⟩
  draft := fun draft held => ⟨draft, held, rfl, rfl⟩
  begun := rfl
  frameOf := rfl

/-- A submission is changed, but not its tag, and not back from complete. -/
theorem Quiet.submission (numbered : desk.ring.Numbered) {n : Nat} {former changed : Submission}
    (found : desk.ring.submissions[n]? = some former) (same : changed.tag = former.tag)
    (stays : former.isComplete = true → changed.isComplete = true) :
    Quiet desk { desk with ring := desk.ring.setSubmission changed } := by
  obtain ⟨set, roll⟩ := FrameRing.roll_setSubmission numbered found same
  refine ⟨rfl, rfl, rfl, rfl, .inl rfl, roll, fun m other found' => ?_,
    fun draft held => ⟨draft, held, rfl, rfl⟩, rfl, rfl⟩
  rw [set, List.getElem?_set]
  have bound : n < desk.ring.submissions.length := (List.getElem?_eq_some_iff.1 found).1
  by_cases it : n = m
  · subst it
    rw [if_pos rfl, if_pos bound]
    cases found.symm.trans found'
    exact ⟨changed, rfl, stays⟩
  · rw [if_neg it]
    exact ⟨other, found', id⟩

/-- Surfaces, and what the frame presents, make no difference. -/
theorem Quiet.decorate (h : Quiet desk after) {ring : FrameRing}
    (config : ring.config = after.ring.config) (slots : ring.slots = after.ring.slots)
    (frames : ring.frames.map Frame.bare = after.ring.frames.map Frame.bare)
    (current : ring.current = after.ring.current) (phase : ring.phase = after.ring.phase)
    (submissions : ring.submissions = after.ring.submissions) :
    Quiet desk { after with ring } := by
  refine ⟨config.trans h.config, slots.trans h.slots, frames.trans h.frames,
    current.trans h.current, ?_, ?_, ?_, h.draft, h.begun, h.frameOf⟩
  · show ring.phase = _ ∨ _ ∧ _ ∧ ring.phase = _
    rw [phase]
    exact h.phase
  · exact (congrArg (List.map Submission.tag) submissions).trans h.roll
  · show ∀ n former, _ → ∃ later, ring.submissions[n]? = some later ∧ _
    rw [submissions]
    exact h.complete

/-- What a frame presents does not show in the bare frames. -/
theorem bare_modifyCurrent (ring : FrameRing) {f : Frame → Frame}
    (same : ∀ frame, (f frame).bare = frame.bare) :
    (ring.modifyCurrent f).frames.map Frame.bare = ring.frames.map Frame.bare := by
  refine List.ext_getElem? fun p => ?_
  show ((ring.frames.modify ring.current.index.toNat f).map Frame.bare)[p]? = _
  rw [List.getElem?_map, List.getElem?_map, List.getElem?_modify]
  cases ring.frames[p]? with
  | none => rfl
  | some frame =>
    show some (Frame.bare (if _ then f frame else frame)) = some frame.bare
    split
    · rw [same]
    · rfl

/-- A batch of the ring is gated, or that is refused. -/
theorem Quiet.gate (numbered : desk.ring.Numbered) {n : Nat} {submission : Submission}
    (found : desk.ring.submissions[n]? = some submission) (tracker : Tracker)
    (surfaceIndex : Nat) (surface : Surface) :
    Quiet desk
      { desk with ring := (desk.ring.gate tracker surfaceIndex surface submission).ring } := by
  let acquired := surface.acquire.2
  let declared := submission.batch.useTargets tracker acquired.targets
  have user : declared.batch.user = submission.batch.user :=
    (Batch.keeps_useMany submission.batch tracker _).user
  have tag : { submission with batch := declared.batch }.tag = submission.tag := by
    have id : declared.batch.id = submission.batch.id := congrArg BatchUse.batch user
    have queue : declared.batch.queue = submission.batch.queue := congrArg BatchUse.queue user
    unfold Submission.tag Submission.id
    rw [id, queue]
  have changed := Quiet.submission numbered found tag fun done => done
  unfold FrameRing.gate
  split
  · exact .refl desk
  split
  · exact .refl desk
  split
  · exact .refl desk
  · dsimp only
    split <;> exact changed.decorate rfl rfl (bare_modifyCurrent _ fun _ => rfl) rfl rfl rfl

/-- The frame is ended, or that is refused. -/
theorem Quiet.ended (free : desk.draft = none) {ring : FrameRing} (surfaces : List Surface)
    (same : ring = desk.ring ∨
      desk.ring.phase = .begun ∧ ring = { desk.ring with surfaces, phase := .ended }) :
    Quiet desk { desk with ring } := by
  rcases same with rfl | ⟨begun, rfl⟩
  · exact .refl desk
  · refine ⟨rfl, rfl, rfl, rfl, .inr ⟨free, begun, rfl⟩, rfl, ?_, ?_, rfl, rfl⟩
    · exact (Quiet.refl desk).complete
    · exact (Quiet.refl desk).draft

/-- A frame that was begun is taken over with its number. -/
theorem framed_of_ok {α : Type} {outcome : FrameRing.Outcome α} {answer : α} {id : α → FrameId}
    (free : desk.draft = none) (ok : outcome.answer = .ok answer) :
    desk.framed outcome id =
      { desk with ring := outcome.ring, begun := desk.begun ++ [id answer] } := by
  unfold framed
  rw [if_neg (by simp [free]), ok]

/-- A frame that was refused is not counted. -/
theorem framed_of_error {α : Type} {outcome : FrameRing.Outcome α} {error : FrameRing.RingError}
    {id : α → FrameId} (free : desk.draft = none) (refused : outcome.answer = .error error) :
    desk.framed outcome id = { desk with ring := outcome.ring } := by
  unfold framed
  rw [if_neg (by simp [free]), refused]

/-- A frame is begun, or nothing happens. -/
theorem step_beginFrameAs (desk : Desk) (id : FrameId) :
    desk.step (.beginFrameAs id) = desk ∨
      ∃ former, desk.draft = none ∧ desk.ring.phase ≠ .begun ∧
        desk.ring.frames[id.index.toNat]? = some former ∧ desk.ring.pendingOf former = 0 ∧
        desk.step (.beginFrameAs id) =
          { desk with ring := desk.ring.turn id former, begun := desk.begun ++ [id] } := by
  show desk.framed (desk.ring.beginFrameAs id) (fun () => id) = desk ∨
    ∃ former, _ ∧ _ ∧ _ ∧ _ ∧ desk.framed (desk.ring.beginFrameAs id) (fun () => id) = _
  cases lent : desk.draft with
  | some draft => exact .inl (if_pos (by rw [lent]; rfl))
  | none =>
    have refused (h : ∃ error, (desk.ring.beginFrameAs id).answer = .error error ∧
        (desk.ring.beginFrameAs id).ring = desk.ring) :
        desk.framed (desk.ring.beginFrameAs id) (fun () => id) = desk := by
      obtain ⟨error, answer, ring⟩ := h
      rw [framed_of_error lent answer, ring]
    by_cases busy : desk.ring.phase = .begun
    · exact .inl (refused (FrameRing.beginFrameAs_eq_error (.inl busy)))
    cases found : desk.ring.frames[id.index.toNat]? with
    | none => exact .inl (refused (FrameRing.beginFrameAs_eq_error (.inr (.inl found))))
    | some former =>
      by_cases done : desk.ring.pendingOf former = 0
      · obtain ⟨answer, ring⟩ := FrameRing.beginFrameAs_eq_ok busy found done
        refine .inr ⟨former, rfl, busy, rfl, done, ?_⟩
        rw [framed_of_ok lent answer, ring, lent]
      · exact .inl (refused (FrameRing.beginFrameAs_eq_error (.inr (.inr ⟨former, found, done⟩))))

/-- Beginning the next frame is beginning one under its identity. -/
theorem step_beginFrame (desk : Desk) :
    desk.step .beginFrame = desk.step (.beginFrameAs desk.ring.current.next) := by
  unfold step framed FrameRing.beginFrame
  dsimp only
  cases (desk.ring.beginFrameAs desk.ring.current.next).answer <;> rfl

/-- A frame is begun, or that is refused. -/
theorem change_beginFrameAs {act : Act} {id : FrameId}
    (which : act = .beginFrame ∧ id = desk.ring.current.next ∨ act = .beginFrameAs id) :
    Change desk act (desk.step (.beginFrameAs id)) := by
  rcases desk.step_beginFrameAs id with same | ⟨former, free, idle, found, done, same⟩
  · rw [same]
    exact .quiet (.refl desk)
  · rw [same]
    exact .frame which free idle found done

/-- A batch is opened, or nothing happens. -/
theorem step_openBatch (whole : desk.ring.slots.Whole) (queue : Queue) (held : BatchId → Bool) :
    desk.step (.openBatch queue held) = desk ∨
      ∃ slot, desk.draft = none ∧ desk.ring.phase = .begun ∧
        desk.ring.submittedTo queue < desk.ring.config.maxPerQueue ∧
        desk.ring.slots.assignedCount < desk.ring.config.maxPending ∧
        desk.ring.slots.firstFree? 0 = some slot ∧
        desk.step (.openBatch queue held) =
          { desk with
            ring := desk.ring.handOut slot queue
            draft := some
              ⟨.new (desk.ring.nextId slot) queue, desk.ring.submittedTo queue⟩ } := by
  cases free : desk.draft with
  | some draft => exact .inl (if_pos (by rw [free]; rfl))
  | none =>
  have opens : desk.step (.openBatch queue held) =
      { desk with
        ring := (desk.ring.openBatch held queue).ring
        draft := (desk.ring.openBatch held queue).answer.toOption } :=
    if_neg (by simp [free])
  have refused (h : ∃ error, (desk.ring.openBatch held queue).answer = .error error ∧
      (desk.ring.openBatch held queue).ring = desk.ring) :
      desk.step (.openBatch queue held) = desk := by
    obtain ⟨error, answer, ring⟩ := h
    rw [opens, answer, ring]
    show { desk with draft := none } = desk
    rw [← free]
  -- The checks in the order in which they are made; each one that fails leaves the ring as it is.
  by_cases begun : desk.ring.phase = .begun
  case neg => exact .inl (refused (FrameRing.openBatch_eq_error held (.inl begun)))
  by_cases room : desk.ring.submittedTo queue < desk.ring.config.maxPerQueue
  case neg =>
    exact .inl (refused (FrameRing.openBatch_eq_error held (.inr (.inl (Nat.not_lt.1 room)))))
  by_cases few : desk.ring.slots.assignedCount < desk.ring.config.maxPending
  case neg =>
    exact .inl (refused
      (FrameRing.openBatch_eq_error held (.inr (.inr (.inl (Nat.not_lt.1 few))))))
  cases search : desk.ring.slots.firstFree? 0 with
  | none =>
    exact .inl (refused (FrameRing.openBatch_eq_error held (.inr (.inr (.inr search)))))
  | some slot =>
    refine .inr ⟨slot, rfl, begun, room, few, rfl, ?_⟩
    rw [opens, FrameRing.openBatch_eq_ok whole held begun room few search]
    rfl

/-- The batch that is open is begun. -/
theorem step_beginBatch {draft : FrameRing.Draft} (held : desk.draft = some draft)
    (label : String) :
    desk.step (.beginBatch label) =
      { desk with
        ring := (desk.ring.beginBatch draft label).2.1
        draft := none
        frameOf := desk.frameOf ++ [desk.begun.length] } := by
  unfold step
  rw [held]

/-- A declaration leaves a batch its identity and its queue. -/
theorem user_declareOne (batch : Batch) (tracker : Tracker) (declaration : Batch.Declaration) :
    (batch.declareOne tracker declaration).batch.user = batch.user := by
  cases declaration with
  | use key initial final => exact (Batch.keeps_useMany batch tracker _).user
  | useAtRest key => exact (Batch.keeps_useMany batch tracker _).user
  | useMany uses => exact (Batch.keeps_useMany batch tracker uses).user
  | upload | readback | strict => rfl

/-- The batch that is open declares something. -/
theorem Quiet.declare (desk : Desk) (tracker : Tracker) (declaration : Batch.Declaration) :
    Quiet desk (desk.step (.declare tracker declaration)) := by
  refine ⟨rfl, rfl, rfl, rfl, .inl rfl, rfl, (Quiet.refl desk).complete, ?_, rfl, rfl⟩
  intro draft held
  obtain ⟨former, held', declared⟩ := Option.bind_eq_some_iff.1 held
  have user := user_declareOne former.batch tracker declaration
  dsimp only at declared
  split at declared
  · cases declared
    exact ⟨former, held', user, rfl⟩
  · cases declared

/-- The device has finished a batch. -/
theorem Quiet.retire (numbered : desk.ring.Numbered) {n : Nat} {submission : Submission}
    (found : desk.ring.submissions[n]? = some submission) :
    Quiet desk { desk with ring := (desk.ring.retire submission).2.1 } :=
  Quiet.submission numbered found (Submission.tag_complete submission) fun _ =>
    Submission.isComplete_complete submission

/-- **There is no other case.** Whatever act is done, what becomes of the desk is one of the cases
of `Change`. -/
theorem change_step (numbered : desk.ring.Numbered) (whole : desk.ring.slots.Whole) (act : Act) :
    Change desk act (desk.step act) := by
  have still : Change desk act desk := .quiet (.refl desk)
  cases act with
  -- A frame is begun or refused. Only the ways to begin one, to open a batch and to begin it are
  -- not quiet.
  | beginFrame =>
    rw [step_beginFrame]
    exact change_beginFrameAs (.inl ⟨rfl, rfl⟩)
  | beginFrameAs id => exact change_beginFrameAs (.inr rfl)
  | openBatch queue held =>
    rcases step_openBatch whole queue held with same | ⟨slot, free, begun, room, few, search, same⟩
    · rw [same]
      exact still
    · rw [same]
      exact .opened rfl free begun room few search
  | declare tracker declaration => exact .quiet (.declare desk tracker declaration)
  | beginBatch label =>
    cases held : desk.draft with
    | none =>
      unfold step
      rw [held]
      exact still
    | some draft =>
      rw [step_beginBatch held]
      exact .joined rfl held
  | giveUp =>
    refine .quiet ⟨rfl, rfl, rfl, rfl, .inl rfl, rfl, (Quiet.refl desk).complete, ?_, rfl, rfl⟩
    intro draft held
    cases held
  -- From here on an act is on a submission or ends the frame, and changes at most what is in them.
  | draw tracker surfaceIndex n =>
    unfold step onRing
    dsimp only
    split
    · exact still
    split
    · rename_i surface submission _ found
      exact .quiet (.gate numbered found tracker surfaceIndex surface)
    · exact still
  | work n tracker call =>
    unfold step
    dsimp only
    split
    · exact still
    · rename_i submission found
      have user := Batch.user_perform submission.batch tracker call
      refine .quiet (.submission numbered found ?_ fun done => done)
      have id := congrArg BatchUse.batch user
      have queue := congrArg BatchUse.queue user
      unfold Submission.tag Submission.id
      exact Submission.Tag.mk.injEq .. ▸ ⟨id, queue, rfl, rfl, rfl⟩
  | complete n =>
    unfold step
    dsimp only
    split
    · exact still
    · rename_i submission found
      exact .quiet (.retire numbered found)
  | endFrame =>
    show Change desk _ (desk.onRing fun ring => ring.endFrame.ring)
    unfold onRing
    split
    · exact still
    · rename_i free
      obtain ⟨surfaces, same⟩ := desk.ring.endFrame_ring
      exact .quiet (.ended (by simpa using free) surfaces same)
  | endFrameQuietly =>
    show Change desk _ (desk.onRing fun ring => ring.endFrameQuietly.ring)
    unfold onRing
    split
    · exact still
    · rename_i free
      exact .quiet (.ended (by simpa using free) desk.ring.surfaces
        desk.ring.endFrameQuietly_ring)

end

end Desk

end GpuSync
