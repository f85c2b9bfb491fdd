import GpuSync.Proofs.Ring.Accounts

/-!
# What becomes of a submission

The acts on a ring leave a submission what it is, and its status moves forward. Its batch is
changed by the calls on it and as it is gated on a surface, and by nothing else.

* `Submission.Later` is what stays of a submission; `Submission.Later.rank_le` is about its status.
* `Desk.Act.target?` is the submission whose batch an act changes, and `Desk.treat` what the act
  makes of a batch.
* **`Desk.getElem?_step`** says what one act makes of a submission.
* `FrameRing.keeps` tells which submissions the frames in flight have. Only beginning a batch adds
  one to them.
-/

namespace GpuSync

namespace Submission

/-- Statuses in the order in which a submission goes through them. -/
def Status.rank : Status → Nat
  | .recording => 0
  | .committed => 1
  | .complete => 2

/-- The same submission later on. Its tag stays, and its status only moves forward. -/
structure Later (former later : Submission) : Prop where
  /-- It is the same submission. -/
  tag : later.tag = former.tag
  /-- It keeps its label. -/
  label : later.label = former.label
  /-- Once committed, it stays committed. -/
  committed : former.batch.committed = true → later.batch.committed = true
  /-- Once complete, it stays complete. -/
  complete : former.isComplete = true → later.isComplete = true

/-- A submission is later than itself. -/
theorem Later.refl (submission : Submission) : Later submission submission :=
  ⟨rfl, rfl, fun done => done, fun done => done⟩

/-- What is later than a later submission is later. -/
theorem Later.trans {a b c : Submission} (h : Later a b) (h' : Later b c) : Later a c :=
  ⟨h'.tag.trans h.tag, h'.label.trans h.label, h'.committed ∘ h.committed,
    h'.complete ∘ h.complete⟩

/-- The status of a submission moves forward only. -/
theorem Later.rank_le {former later : Submission} (h : Later former later) :
    former.status.rank ≤ later.status.rank := by
  unfold status
  cases done : former.isComplete with
  | true =>
    rw [h.complete done]
    exact Nat.le_refl _
  | false =>
    rw [if_neg Bool.false_ne_true]
    cases committed : former.batch.committed with
    | false => exact Nat.zero_le _
    | true =>
      rw [h.committed committed]
      cases later.isComplete <;> decide

/-- A submission never changes its identity. -/
theorem Later.id_eq {former later : Submission} (h : Later former later) :
    later.id = former.id :=
  congrArg Tag.id h.tag

/-- A submission with another batch of the same identity, committed if the former was. -/
theorem later_of_batch (submission : Submission) {batch : Batch}
    (user : batch.user = submission.batch.user)
    (committed : submission.batch.committed = true → batch.committed = true) :
    Later submission { submission with batch } := by
  have id : batch.id = submission.batch.id := congrArg BatchUse.batch user
  have queue : batch.queue = submission.batch.queue := congrArg BatchUse.queue user
  refine ⟨?_, rfl, committed, fun done => done⟩
  unfold tag Submission.id
  rw [id, queue]

/-- To complete a submission leaves its batch alone. -/
theorem batch_complete (submission : Submission) :
    submission.complete.2.1.batch = submission.batch := by
  unfold complete
  split <;> rfl

/-- A submission that was completed is later. -/
theorem later_complete (submission : Submission) : Later submission submission.complete.2.1 := by
  refine ⟨tag_complete submission, ?_, ?_, fun _ => isComplete_complete submission⟩
  · unfold complete
    split <;> rfl
  · rw [batch_complete]
    exact fun done => done

end Submission

/-! ## What the frames have

A frame lists identities, and a submission is found if it is the newest with one of those. So
nothing is added to what the frames have unless a batch is begun. -/

namespace FrameRing

/-- The identities of the batches that the frames have. -/
def listed (ring : FrameRing) : List BatchId := ring.frames.flatMap (·.batches)

/-- Whether the frames have a submission. -/
def keeps (ring : FrameRing) (n : Nat) : Bool :=
  ring.listed.any fun id => (ring.submission? id).any (·.serial == n)

/-- The newest submission with an identity is found by the roll alone. -/
theorem map_tag_submission? (ring : FrameRing) (id : BatchId) :
    (ring.submission? id).map (·.tag) = ring.roll.reverse.find? (·.id == id) := by
  unfold submission? roll
  rw [List.findRev?_eq_find?_reverse, ← List.map_reverse, List.find?_map]
  rfl

/-- The frames have a submission if it is the newest with one of the identities that they list. -/
theorem keeps_iff {ring : FrameRing} {n : Nat} :
    ring.keeps n = true ↔ ∃ id ∈ ring.listed, ∃ tag,
      ring.roll.reverse.find? (·.id == id) = some tag ∧ tag.serial = n := by
  unfold keeps
  rw [List.any_eq_true]
  refine exists_congr fun id => and_congr_right fun _ => ?_
  rw [← map_tag_submission?]
  cases ring.submission? id with
  | none => simp
  | some submission => exact (beq_iff_eq.trans (by simp; rfl))

/-- What is found by its identity is in a frame. The frames of old are not looked at. -/
theorem keeps_of_find? {ring : FrameRing} {id : BatchId} {found : Submission}
    (looked : ring.find? id = some found) :
    found.id = id ∧ found ∈ ring.submissions ∧ ring.keeps found.serial = true := by
  unfold find? at looked
  split at looked
  case isFalse => cases looked
  rename_i known
  have listed : id ∈ ring.listed := by
    obtain ⟨frame, mem, contains⟩ := List.any_eq_true.1 known
    exact List.mem_flatMap.2 ⟨frame, mem, List.contains_iff_mem.1 contains⟩
  refine ⟨?_, ?_, ?_⟩
  · unfold submission? at looked
    rw [List.findRev?_eq_find?_reverse] at looked
    exact beq_iff_eq.1 (List.find?_some (p := fun other : Submission => other.id == id) looked)
  · unfold submission? at looked
    rw [List.findRev?_eq_find?_reverse] at looked
    exact List.mem_reverse.1 (List.mem_of_find?_eq_some looked)
  · refine List.any_eq_true.2 ⟨id, listed, ?_⟩
    rw [looked]
    exact beq_self_eq_true found.serial

section

variable {ring after : FrameRing} {n : Nat}

/-- Nothing is added if no batch is begun. -/
theorem keeps_of_listed (roll : after.roll = ring.roll)
    (fewer : ∀ id ∈ after.listed, id ∈ ring.listed) (kept : after.keeps n = true) :
    ring.keeps n = true := by
  obtain ⟨id, mem, tag, found, serial⟩ := keeps_iff.1 kept
  rw [roll] at found
  exact keeps_iff.2 ⟨id, fewer id mem, tag, found, serial⟩

/-- What a frame presents is no matter of the batches that the frames list. -/
theorem listed_of_bare (same : after.frames.map Frame.bare = ring.frames.map Frame.bare) :
    after.listed = ring.listed := by
  have bare (frames : List Frame) :
      frames.flatMap (·.batches) = (frames.map Frame.bare).flatMap (·.batches) := by
    rw [List.flatMap_map]
    rfl
  unfold listed
  rw [bare after.frames, same, ← bare]

/-- A frame that is begun has no batches. -/
theorem listed_turn {id : FrameId} {former : Frame} :
    ∀ batch ∈ (ring.turn id former).listed, batch ∈ ring.listed := by
  intro batch mem
  obtain ⟨frame, place, mem'⟩ := List.mem_flatMap.1 mem
  rcases List.mem_or_eq_of_mem_set place with old | rfl
  · exact List.mem_flatMap.2 ⟨frame, old, mem'⟩
  · cases mem'

/-- What the frames have once the current one was changed. -/
theorem listed_modifyCurrent {f : Frame → Frame} {batch : BatchId}
    (mem : batch ∈ (ring.modifyCurrent f).listed) :
    batch ∈ ring.listed ∨ ∃ frame ∈ ring.frames, batch ∈ (f frame).batches := by
  obtain ⟨frame, place, mem'⟩ := List.mem_flatMap.1 mem
  obtain ⟨p, at'⟩ := List.mem_iff_getElem?.1 place
  have at' : (ring.frames.modify ring.current.index.toNat f)[p]? = some frame := at'
  rw [List.getElem?_modify] at at'
  obtain ⟨former, found, rfl⟩ := Option.map_eq_some_iff.1 at'
  have known := List.mem_of_getElem? found
  split at mem'
  · exact .inr ⟨former, known, mem'⟩
  · exact .inl (List.mem_flatMap.2 ⟨former, known, mem'⟩)

/-- To hand a slot out lists no more batches. The one that gets it is listed as it begins. -/
theorem listed_handOut {slot : Nat} {queue : Queue} :
    ∀ batch ∈ (ring.handOut slot queue).listed, batch ∈ ring.listed := by
  intro batch mem
  rcases listed_modifyCurrent mem with old | ⟨frame, known, mem'⟩
  · exact old
  · exact List.mem_flatMap.2 ⟨frame, known, mem'⟩

/-- So the frames have no more submissions. -/
theorem keeps_handOut {slot : Nat} {queue : Queue}
    (kept : (ring.handOut slot queue).keeps n = true) : ring.keeps n = true :=
  keeps_of_listed (rfl : (ring.handOut slot queue).roll = ring.roll) listed_handOut kept

/-- A batch that is begun is the only one added. -/
theorem keeps_beginBatch {draft : Draft} {label : String}
    (kept : (ring.beginBatch draft label).2.1.keeps n = true) :
    ring.keeps n = true ∨ n = ring.submissions.length := by
  obtain ⟨id, mem, tag, found, serial⟩ := keeps_iff.1 kept
  rw [roll_beginBatch, List.reverse_append, List.reverse_singleton, List.singleton_append,
    List.find?_cons] at found
  split at found
  · cases found
    exact .inr serial.symm
  · rename_i other
    refine .inl (keeps_iff.2 ⟨id, ?_, tag, found, serial⟩)
    rcases listed_modifyCurrent mem with old | ⟨frame, known, mem'⟩
    · exact old
    · rcases List.mem_append.1 mem' with mem' | new
      · exact List.mem_flatMap.2 ⟨frame, known, mem'⟩
      · have same : (ring.newTag draft).id = id := (List.mem_singleton.1 new).symm
        rw [same, beq_self_eq_true] at other
        cases other

end

end FrameRing

/-! ## What acts change

An act names the submission that it changes by its number. Every other submission is left as it is,
and the named one stays the same submission with a later status. -/

namespace Desk

open Submission (Later)

/-- The submission whose batch an act changes. -/
def Act.target? : Act → Option Nat
  | .work n _ _ => some n
  | .draw _ _ n => some n
  | _ => none

/-- What an act makes of the batch it changes, which is the one that is open if the act is a
declaration. -/
def treat (desk : Desk) (act : Act) (batch : Batch) : Batch :=
  match act with
  | .declare tracker declaration => (batch.declareOne tracker declaration).batch
  | .work _ tracker call => (batch.perform tracker call).batch
  | .draw tracker surfaceIndex _ =>
    match desk.draft, desk.ring.surfaces[surfaceIndex]? with
    | none, some surface =>
      if desk.ring.phase ≠ .begun ∨
          FrameRing.maxOutputs ≤ desk.ring.currentFrame.outputs.length ∨ batch.isStarted then batch
      else (batch.useTargets tracker surface.acquire.2.targets).batch
    | _, _ => batch
  | _ => batch

/-- An act that neither opens nor begins a batch. -/
def Act.Calm : Act → Prop
  | .openBatch .. => False
  | .beginBatch _ => False
  | _ => True

/-- An act leaves a batch its identity and its queue. -/
theorem user_treat (desk : Desk) (act : Act) (batch : Batch) :
    (desk.treat act batch).user = batch.user := by
  cases act with
  | declare tracker declaration => exact user_declareOne batch tracker declaration
  | work n tracker call => exact Batch.user_perform batch tracker call
  | draw tracker surfaceIndex n =>
    unfold treat
    dsimp only
    split
    · split
      · rfl
      · exact (Batch.keeps_useMany batch tracker _).user
    · rfl
  | _ => rfl

/-- No act takes it back that a batch is committed. -/
theorem committed_treat (desk : Desk) {act : Act} {n : Nat} (target : act.target? = some n)
    (batch : Batch) (done : batch.committed = true) : (desk.treat act batch).committed = true := by
  cases act with
  | work m tracker call => exact (Batch.committed_perform batch tracker call).2 (.inl done)
  | draw tracker surfaceIndex m =>
    unfold treat
    dsimp only
    split
    · split
      · exact done
      · exact (Batch.keeps_useMany batch tracker _).committed.trans done
    · exact done
  | _ => cases target

section

variable {desk : Desk} {n : Nat} {submission : Submission}

/-- What an act makes of a submission: it is later, and its batch is changed by acts on it only.
This is what any invariant of a single submission has to be kept by. -/
def Treats (desk : Desk) (act : Act) (n : Nat) (submission later : Submission) : Prop :=
  Later submission later ∧
    later.batch =
      if act.target? = some n then desk.treat act submission.batch else submission.batch

/-- An act on something else leaves a submission as it is. -/
theorem Treats.still {act : Act} (other : act.target? ≠ some n) :
    Treats desk act n submission submission :=
  ⟨.refl submission, (if_neg other).symm⟩

/-- Setting a submission changes that one only. -/
theorem getElem?_setSubmission {ring : FrameRing} (numbered : ring.Numbered) {m : Nat}
    {former changed : Submission} (known : ring.submissions[m]? = some former)
    (same : changed.tag = former.tag) (n : Nat) :
    (ring.setSubmission changed).submissions[n]? =
      if m = n then some changed else ring.submissions[n]? := by
  have bound := (List.getElem?_eq_some_iff.1 known).1
  rw [(FrameRing.roll_setSubmission numbered known same).1, List.getElem?_set, if_pos bound]

/-- An act that sets one submission treats them all, if what it sets is what it makes of that one.
The submission in question is the one that is set, or it is left alone. -/
theorem exists_treats_of_set (numbered : desk.ring.Numbered)
    (found : desk.ring.submissions[n]? = some submission) {act : Act} {m : Nat}
    {former changed : Submission} (known : desk.ring.submissions[m]? = some former)
    (itself : Treats desk act m former changed) (others : m ≠ n → act.target? ≠ some n) :
    ∃ later, (desk.ring.setSubmission changed).submissions[n]? = some later ∧
      Treats desk act n submission later := by
  rw [getElem?_setSubmission numbered known itself.1.tag]
  by_cases same : m = n
  · subst same
    cases known.symm.trans found
    exact ⟨changed, if_pos rfl, itself⟩
  · rw [if_neg same]
    exact ⟨submission, found, .still (others same)⟩

/-- What gating makes of the submissions of a ring. -/
theorem submissions_gate (ring : FrameRing) (tracker : Tracker) (surfaceIndex : Nat)
    (surface : Surface) (submission : Submission) :
    (ring.gate tracker surfaceIndex surface submission).ring.submissions =
      if ring.phase ≠ .begun ∨ FrameRing.maxOutputs ≤ ring.currentFrame.outputs.length ∨
          submission.batch.isStarted then ring.submissions
      else
        (ring.setSubmission { submission with
          batch := (submission.batch.useTargets tracker surface.acquire.2.targets).batch
          }).submissions := by
  unfold FrameRing.gate
  by_cases begun : ring.phase = .begun
  case neg =>
    rw [if_pos begun, if_pos (.inl begun)]
    rfl
  by_cases full : FrameRing.maxOutputs ≤ ring.currentFrame.outputs.length
  case pos =>
    rw [if_neg (not_not.2 begun), if_pos full, if_pos (.inr (.inl full))]
    rfl
  by_cases started : submission.batch.isStarted = true
  case pos =>
    rw [if_neg (not_not.2 begun), if_neg full, if_pos started, if_pos (.inr (.inr started))]
    rfl
  rw [if_neg (not_not.2 begun), if_neg full, if_neg started,
    if_neg (by simp [begun, full, started])]
  dsimp only
  split <;> rfl

/-- To begin a frame leaves all submissions alone, those of the former frame in its place included.
-/
theorem submissions_beginFrameAs (ring : FrameRing) (id : FrameId) :
    (ring.beginFrameAs id).ring.submissions = ring.submissions := by
  unfold FrameRing.beginFrameAs
  split
  · rfl
  split
  · rfl
  · dsimp only
    split <;> rfl

/-- To open a batch makes no submission. That is made as the batch is begun. -/
theorem submissions_openBatch (ring : FrameRing) (held : BatchId → Bool) (queue : Queue) :
    (ring.openBatch held queue).ring.submissions = ring.submissions := by
  unfold FrameRing.openBatch
  split
  · rfl
  dsimp only
  split
  · rfl
  split
  · rfl
  split <;> rfl

/-- To take a frame over leaves all submissions alone. -/
theorem submissions_framed {α : Type} (desk : Desk) (outcome : FrameRing.Outcome α)
    (id : α → FrameId) (same : outcome.ring.submissions = desk.ring.submissions) :
    (desk.framed outcome id).ring.submissions = desk.ring.submissions := by
  unfold framed
  split
  · rfl
  split <;> exact same

/-- A change that leaves all submissions alone does so through the desk. -/
theorem submissions_onRing (desk : Desk) (change : FrameRing → FrameRing)
    (same : (change desk.ring).submissions = desk.ring.submissions) :
    (desk.onRing change).ring.submissions = desk.ring.submissions := by
  unfold onRing
  split
  · rfl
  · exact same

/-- To end a frame leaves all submissions alone. -/
theorem submissions_endFrame (ring : FrameRing) :
    ring.endFrame.ring.submissions = ring.submissions := by
  obtain ⟨surfaces, same | ⟨-, same⟩⟩ := ring.endFrame_ring
  · rw [same]
  · rw [same]

/-- To end a frame without presenting leaves all submissions alone. -/
theorem submissions_endFrameQuietly (ring : FrameRing) :
    ring.endFrameQuietly.ring.submissions = ring.submissions := by
  rcases ring.endFrameQuietly_ring with same | ⟨-, same⟩
  · rw [same]
  · rw [same]

/-- What gating one batch on a surface makes of a submission. The render targets are declared on its
batch, and nothing else is changed. -/
theorem drawn_step (numbered : desk.ring.Numbered)
    (found : desk.ring.submissions[n]? = some submission) (tracker : Tracker)
    (surfaceIndex m : Nat) :
    ∃ later, (desk.step (.draw tracker surfaceIndex m)).ring.submissions[n]? = some later ∧
      Treats desk (.draw tracker surfaceIndex m) n submission later := by
  have still (same : (desk.step (.draw tracker surfaceIndex m)).ring.submissions =
        desk.ring.submissions)
      (idle : m = n →
        desk.treat (.draw tracker surfaceIndex m) submission.batch = submission.batch) :
      ∃ later, (desk.step (.draw tracker surfaceIndex m)).ring.submissions[n]? = some later ∧
        Treats desk (.draw tracker surfaceIndex m) n submission later := by
    refine ⟨submission, same ▸ found, .refl submission, ?_⟩
    split
    · rename_i target
      exact (idle (Option.some.inj target)).symm
    · rfl
  -- A batch is gated if the ring is not lent, the surface and the submission exist, and no check
  -- fails. In all other cases nothing happens to any submission.
  cases free : desk.draft with
  | some draft => exact still (by simp [step, onRing, free]) fun _ => by simp [treat, free]
  | none =>
  cases shown : desk.ring.surfaces[surfaceIndex]? with
  | none => exact still (by simp [step, onRing, shown]) fun _ => by simp [treat, shown]
  | some surface =>
  cases known : desk.ring.submissions[m]? with
  | none =>
    refine still (by simp [step, onRing, shown, known]) ?_
    rintro rfl
    rw [found] at known
    cases known
  | some former =>
  have gated := submissions_gate desk.ring tracker surfaceIndex surface former
  have stepped : (desk.step (.draw tracker surfaceIndex m)).ring.submissions =
      (desk.ring.gate tracker surfaceIndex surface former).ring.submissions := by
    simp [step, onRing, free, shown, known]
  rw [← stepped] at gated
  by_cases refused : desk.ring.phase ≠ .begun ∨
      FrameRing.maxOutputs ≤ desk.ring.currentFrame.outputs.length ∨ former.batch.isStarted
  · rw [if_pos refused] at gated
    refine still gated ?_
    rintro rfl
    cases known.symm.trans found
    simp only [treat, free, shown, if_pos refused]
  · rw [if_neg refused] at gated
    have treated : desk.treat (.draw tracker surfaceIndex m) former.batch =
        (former.batch.useTargets tracker surface.acquire.2.targets).batch := by
      simp only [treat, free, shown, if_neg refused]
    have later : Later former { former with
        batch := (former.batch.useTargets tracker surface.acquire.2.targets).batch } := by
      rw [← treated]
      exact former.later_of_batch (user_treat desk _ _) (committed_treat desk rfl _)
    rw [gated]
    exact exists_treats_of_set numbered found known ⟨later, treated.symm.trans (if_pos rfl).symm⟩
      fun apart target => apart (Option.some.inj target)

/-- **What one act makes of a submission.** It stays the same submission, its status moves forward,
and its batch changes only if the act is on it. -/
theorem getElem?_step (numbered : desk.ring.Numbered)
    (found : desk.ring.submissions[n]? = some submission) (act : Act) :
    ∃ later, (desk.step act).ring.submissions[n]? = some later ∧
      Treats desk act n submission later := by
  have still (other : act.target? ≠ some n)
      (same : (desk.step act).ring.submissions = desk.ring.submissions) :
      ∃ later, (desk.step act).ring.submissions[n]? = some later ∧
        Treats desk act n submission later := by
    rw [same]
    exact ⟨submission, found, .still other⟩
  cases act with
  -- Acts on frames and drafts leave the submissions alone.
  | beginFrame =>
    exact still nofun (submissions_framed desk _ _ (submissions_beginFrameAs ..))
  | beginFrameAs id =>
    exact still nofun (submissions_framed desk _ _ (submissions_beginFrameAs ..))
  | openBatch queue held =>
    refine still nofun ?_
    unfold step
    dsimp only
    split
    · rfl
    · exact submissions_openBatch desk.ring held queue
  | declare tracker declaration => exact still nofun rfl
  | giveUp => exact still nofun rfl
  | endFrame => exact still nofun (submissions_onRing desk _ (submissions_endFrame desk.ring))
  | endFrameQuietly =>
    exact still nofun (submissions_onRing desk _ (submissions_endFrameQuietly desk.ring))
  -- A submission is added after the others.
  | beginBatch label =>
    unfold step
    dsimp only
    split
    · exact ⟨submission, found, .still nofun⟩
    · exact ⟨submission, getElem?_concat_eq_some.2 (.inl found), .still nofun⟩
  -- The rest changes one submission, which may be the one in question.
  | complete m =>
    unfold step
    dsimp only
    cases known : desk.ring.submissions[m]? with
    | none => exact ⟨submission, found, .still nofun⟩
    | some former =>
      exact exists_treats_of_set numbered found known
        ⟨former.later_complete, former.batch_complete⟩ fun _ => nofun
  | work m tracker call =>
    unfold step
    dsimp only
    cases known : desk.ring.submissions[m]? with
    | none =>
      refine ⟨submission, found, .still ?_⟩
      rintro ⟨⟩
      rw [found] at known
      cases known
    | some former =>
      have later : Later former { former with
          batch := (former.batch.perform tracker call).batch } :=
        Submission.later_of_batch former (Batch.user_perform former.batch tracker call)
          fun done => (Batch.committed_perform former.batch tracker call).2 (.inl done)
      exact exists_treats_of_set numbered found known ⟨later, (if_pos rfl).symm⟩
        fun apart target => apart (Option.some.inj target)
  | draw tracker surfaceIndex m => exact drawn_step numbered found tracker surfaceIndex m

/-! ## What acts leave alone

Two facts about a ring are needed by nearly every statement on submissions, and are kept here for
all acts: numbers are places in the list, and the pool has all its chunks. -/

/-- A ring at which submissions have their numbers and whose pool has all its chunks. -/
structure Orderly (desk : Desk) : Prop where
  /-- Submissions have their numbers. -/
  numbered : desk.ring.Numbered
  /-- The pool has all its chunks. -/
  whole : desk.ring.slots.Whole

/-- At first there are no submissions, and the pool has all its chunks. -/
theorem orderly_start (config : FrameRing.Config) (surfaces : List Surface) :
    (start config surfaces).Orderly :=
  ⟨fun _ _ found => (nomatch found), Slot.Pool.whole_empty⟩

/-- What an act does keeps the numbers of submissions and the chunks of the pool, one case for each
way to change a desk. -/
theorem Orderly.change {act : Act} {after : Desk} (h : desk.Orderly)
    (change : Change desk act after) : after.Orderly := by
  cases change with
  | quiet quiet =>
    refine ⟨?_, quiet.slots ▸ h.whole⟩
    unfold FrameRing.Numbered
    rw [quiet.roll]
    exact h.numbered
  | frame => exact ⟨h.numbered, h.whole.giveBack _⟩
  | opened => exact ⟨h.numbered, h.whole.take _⟩
  | joined => exact ⟨FrameRing.numbered_beginBatch h.numbered _ _, h.whole⟩

/-- Every act keeps them. -/
theorem Orderly.step (h : desk.Orderly) (act : Act) : (desk.step act).Orderly :=
  h.change (change_step h.numbered h.whole act)

/-- A submission is found under its number. -/
theorem Orderly.getElem?_serial (h : desk.Orderly) {submission : Submission}
    (mem : submission ∈ desk.ring.submissions) :
    desk.ring.submissions[submission.serial]? = some submission := by
  obtain ⟨n, found⟩ := List.mem_iff_getElem?.1 mem
  have serial : submission.serial = n :=
    h.numbered n submission.tag (FrameRing.roll_of_submission found)
  rw [serial, found]

/-- An act that neither opens nor begins a batch leaves the identities in the slots and those of
the submissions as they are, and the frames get no batch. -/
theorem Orderly.calm_step (h : desk.Orderly) {act : Act} (calm : act.Calm) :
    (desk.step act).ring.slots.values = desk.ring.slots.values ∧
      (desk.step act).ring.roll = desk.ring.roll ∧
      ∀ id ∈ (desk.step act).ring.listed, id ∈ desk.ring.listed := by
  have change := change_step h.numbered h.whole act
  generalize desk.step act = after at change
  cases change with
  | quiet quiet =>
    rw [quiet.slots, FrameRing.listed_of_bare quiet.frames]
    exact ⟨rfl, quiet.roll, fun _ mem => mem⟩
  | frame which free idle found done =>
    exact ⟨Slot.Pool.values_giveBack _ _, rfl, FrameRing.listed_turn⟩
  | opened which =>
    rw [which] at calm
    cases calm
  | joined which =>
    rw [which] at calm
    cases calm

/-- A batch that is open stays open or is lost, and is changed by declarations only. -/
theorem draft_step {act : Act} (calm : act.Calm) {draft : FrameRing.Draft}
    (held : (desk.step act).draft = some draft) :
    ∃ former, desk.draft = some former ∧
      draft.batch =
        if act.target? = none then desk.treat act former.batch else former.batch := by
  have still (same : (desk.step act).draft = desk.draft)
      (idle : act.target? = none → ∀ batch, desk.treat act batch = batch) :
      ∃ former, desk.draft = some former ∧ draft.batch =
        if act.target? = none then desk.treat act former.batch else former.batch := by
    refine ⟨draft, same.symm.trans held, ?_⟩
    split
    · rename_i none
      exact (idle none draft.batch).symm
    · rfl
  have lent (change : FrameRing → FrameRing) : (desk.onRing change).draft = desk.draft := by
    unfold onRing
    split <;> rfl
  have framed {α : Type} (outcome : FrameRing.Outcome α) (id : α → FrameId) :
      (desk.framed outcome id).draft = desk.draft := by
    unfold Desk.framed
    split
    · rfl
    split <;> rfl
  -- An act on a submission is none on the draft, even though both may change by calls on a batch.
  cases act with
  | beginFrame | beginFrameAs => exact still (framed ..) fun _ _ => rfl
  | endFrame | endFrameQuietly => exact still (lent _) fun _ _ => rfl
  | draw => exact still (lent _) nofun
  | openBatch | beginBatch => cases calm
  | giveUp => cases held
  | complete n =>
    refine still ?_ fun _ _ => rfl
    unfold step
    dsimp only
    split <;> rfl
  | work n tracker call =>
    refine still ?_ nofun
    unfold step
    dsimp only
    split <;> rfl
  | declare tracker declaration =>
    obtain ⟨former, held', declared⟩ := Option.bind_eq_some_iff.1 held
    dsimp only at declared
    split at declared
    · cases declared
      exact ⟨former, held', rfl⟩
    · cases declared

end

end Desk

end GpuSync
