import GpuSync.Proofs.Ring.Submissions

/-!
# Every image is presented once

Gating a batch on a surface acquires an image of it, and ending the frame presents what was acquired
in the frame. A `Ledger` is a desk with what was asked of the surfaces so far, read off their books:
an image was acquired if the surface counts one more, and presenting was tried if the surface wrote
one more call down. Frames go by how many were begun up to and including them.

* `FrameRing.presentCalls` are the calls to present that some outputs lead to;
  `FrameRing.Presents` says that each output leads to one.
* `FrameRing.ring_gate` says when a batch is gated, and what that changes.
* `Ledger.Sound` is what every act keeps. Most acts do nothing with surfaces (`Desk.Backstage`).
* **`Ledger.images_presented_once`** is the result for all runs.
-/

namespace GpuSync

namespace FrameRing

/-! ## The books of the surfaces

A surface writes down each call to present it, with whether that failed, and counts the images
acquired. The books are what can be seen from outside. -/

/-- How many images of a surface were acquired. -/
def acquisitions (ring : FrameRing) (s : Nat) : Nat :=
  (ring.surfaces[s]?.map (·.acquired)).getD 0

/-- The calls to present a surface, each with the batch and with whether it failed. -/
def book (ring : FrameRing) (s : Nat) : List (Option BatchId × Bool) :=
  (ring.surfaces[s]?.map fun surface =>
    surface.presentations.map fun call => (some call.batch, call.failed)).getD []

/-- What is written down of a call to present, given its failure. -/
def entry (ring : FrameRing) (call : Frame.Output × Option SurfaceError) :
    Option BatchId × Bool :=
  (ring.roll[call.1.submission]?.map (·.id), call.2.isSome)

/-- The calls to present that outputs lead to, each with its failure. -/
def presentCalls (ring : FrameRing) :
    List Frame.Output → List (Frame.Output × Option SurfaceError)
  | [] => []
  | output :: rest =>
    let (failure, first, _) := ring.presentOne output
    let later := first.presentCalls rest
    if first.book output.surface = ring.book output.surface then later
    else (output, failure) :: later

section

variable {ring : FrameRing} {surface changed : Surface} {s : Nat}

/-- A ring with one surface changed. -/
def setSurface (ring : FrameRing) (s : Nat) (surface : Surface) : FrameRing :=
  { ring with surfaces := ring.surfaces.set s surface }

/-- A surface that is changed stays in its place among the others. -/
theorem getElem?_setSurface (found : ring.surfaces[s]? = some surface) (t : Nat) :
    (ring.setSurface s changed).surfaces[t]? =
      if t = s then some changed else ring.surfaces[t]? := by
  have bound := (List.getElem?_eq_some_iff.1 found).1
  unfold setSurface
  rw [List.getElem?_set, if_pos bound]
  simp only [eq_comm]

/-- A surface that is changed changes its own count of acquisitions only. -/
theorem acquisitions_setSurface (found : ring.surfaces[s]? = some surface) (t : Nat) :
    (ring.setSurface s changed).acquisitions t =
      if t = s then changed.acquired else ring.acquisitions t := by
  unfold acquisitions
  rw [getElem?_setSurface found]
  split <;> rfl

/-- A surface that is changed changes its own book only. -/
theorem book_setSurface (found : ring.surfaces[s]? = some surface) (t : Nat) :
    (ring.setSurface s changed).book t =
      if t = s then changed.presentations.map fun call => (some call.batch, call.failed)
      else ring.book t := by
  unfold book
  rw [getElem?_setSurface found]
  split <;> rfl

end

/-! ## Presenting

All outputs of the frame are presented, also after one of them failed; the first failure is what is
answered. So the calls are the outputs in order, one for each. -/

/-- A surface and a submission that there are. -/
def Knows (ring : FrameRing) (output : Frame.Output) : Prop :=
  output.surface < ring.surfaces.length ∧ output.submission < ring.roll.length

/-- Presenting one output is one call, which the surface writes down. -/
theorem presentOne_eq {ring : FrameRing} {output : Frame.Output} (known : ring.Knows output) :
    ∃ surface changed, ring.surfaces[output.surface]? = some surface ∧
      (ring.presentOne output).2.1 = ring.setSurface output.surface changed ∧
      changed.acquired = surface.acquired ∧
      changed.presentations.map (fun call => (some call.batch, call.failed)) =
        ring.book output.surface ++ [ring.entry (output, (ring.presentOne output).1)] := by
  obtain ⟨surface, found⟩ : ∃ surface, ring.surfaces[output.surface]? = some surface :=
    ⟨_, List.getElem?_eq_getElem known.1⟩
  obtain ⟨submission, known'⟩ :
      ∃ submission, ring.submissions[output.submission]? = some submission :=
    ⟨_, List.getElem?_eq_getElem (Nat.lt_of_lt_of_eq known.2 (List.length_map _))⟩
  refine ⟨surface, (surface.present submission.id submission.status).2, found, ?_, rfl, ?_⟩
  · unfold presentOne
    rw [found, known']
    rfl
  · unfold book entry presentOne
    rw [found, known', roll_of_submission known']
    simp [Surface.present, Submission.tag]

/-- What calling a surface for each output comes to. The calls are in the order of the outputs, and
each is written down in the book of its surface. -/
structure Presents (ring : FrameRing) (outputs : List Frame.Output)
    (after : Option SurfaceError × FrameRing × List Log.Entry) : Prop where
  /-- Each output is presented, in order. -/
  calls : (ring.presentCalls outputs).map (·.1) = outputs
  /-- The first failure is answered. -/
  failure : after.1 = (ring.presentCalls outputs).findSome? (·.2)
  /-- There are as many surfaces as before. -/
  surfaces : after.2.1.surfaces.length = ring.surfaces.length
  /-- No image is acquired. -/
  acquisitions : ∀ s, after.2.1.acquisitions s = ring.acquisitions s
  /-- The surfaces write the calls down. -/
  book : ∀ s, after.2.1.book s =
    ring.book s ++ ((ring.presentCalls outputs).filter (·.1.surface == s)).map ring.entry

/-- Presenting goes through the outputs one by one, past those that fail, by induction on them. -/
theorem presents (ring : FrameRing) {outputs : List Frame.Output}
    (known : ∀ output ∈ outputs, ring.Knows output) :
    Presents ring outputs (ring.presentAll outputs) := by
  induction outputs generalizing ring with
  | nil => exact ⟨rfl, rfl, rfl, fun _ => rfl, fun s => (List.append_nil _).symm⟩
  | cons output rest ih =>
    -- One output is presented: its surface changes, the number of surfaces does not, and the rest
    -- is presented on what that leaves.
    obtain ⟨surface, changed, found, first, acquired, written⟩ :=
      presentOne_eq (known output List.mem_cons_self)
    have same : (ring.setSurface output.surface changed).surfaces.length = ring.surfaces.length :=
      List.length_set
    have later := ih (ring.setSurface output.surface changed) fun other mem =>
      ⟨Nat.lt_of_lt_of_eq (known other (List.mem_cons_of_mem _ mem)).1 same.symm,
        (known other (List.mem_cons_of_mem _ mem)).2⟩
    have calls : ring.presentCalls (output :: rest) = (output, (ring.presentOne output).1) ::
        (ring.setSurface output.surface changed).presentCalls rest := by
      -- A call is told from a missing surface by the book of the surface, which it makes longer.
      have grown : ring.book output.surface ++ [ring.entry (output, (ring.presentOne output).1)] ≠
          ring.book output.surface := by
        simp
      rw [presentCalls]
      dsimp only
      rw [first, book_setSurface found, if_pos rfl, written, if_neg grown]
    have all : (ring.presentAll (output :: rest)).2.1 =
        ((ring.setSurface output.surface changed).presentAll rest).2.1 := by
      rw [← first]
      rfl
    refine {
      calls := ?calls
      failure := ?failure
      surfaces := ?surfaces
      acquisitions := ?acquisitions
      book := ?book }
    case calls => rw [calls, List.map_cons, later.calls]
    case failure =>
      rw [calls, List.findSome?_cons, ← later.failure, ← first]
      show ((ring.presentOne output).1 <|> _) = _
      cases (ring.presentOne output).1 <;> rfl
    case surfaces => rw [all, later.surfaces, same]
    case acquisitions =>
      intro s
      rw [all, later.acquisitions, acquisitions_setSurface found]
      split
      · rename_i it
        unfold acquisitions
        rw [it, found, acquired]
        rfl
      · rfl
    case book =>
      intro s
      rw [all, later.book, calls, book_setSurface found, List.filter_cons]
      -- Only the book of the surface that was presented has a new entry, and it comes before those
      -- of the rest.
      by_cases it : s = output.surface
      · rw [if_pos it, written, if_pos (beq_iff_eq.2 it.symm), it, List.append_assoc]
        rfl
      · rw [if_neg it, if_neg (by simpa using Ne.symm it)]
        rfl

/-- Submissions that are added change nothing in the books. -/
theorem entry_of_prefix {ring after : FrameRing} (more : ring.roll <+: after.roll)
    {call : Frame.Output × Option SurfaceError} (known : ring.Knows call.1) :
    after.entry call = ring.entry call := by
  obtain ⟨added, all⟩ := more
  unfold entry
  rw [← all, List.getElem?_append_left known.2]

/-! ## Ending a frame

The frame is over even if presenting failed, so none of its images can be presented again. -/

/-- Presenting concerns the surfaces, and ending the frame its phase. -/
theorem endFrame_eq {ring : FrameRing} (begun : ring.phase = .begun) :
    ring.endFrame.ring =
        { (ring.presentAll ring.currentFrame.outputs).2.1 with phase := .ended } ∧
      ring.endFrame.answer =
        match (ring.presentAll ring.currentFrame.outputs).1 with
        | some error => .error (.surface error)
        | none => .ok () := by
  obtain ⟨surfaces, presented⟩ := ring.presentAll_ring ring.currentFrame.outputs
  have quietly : (ring.presentAll ring.currentFrame.outputs).2.1.phase = .begun := by
    rw [presented]
    exact begun
  unfold endFrame endFrameQuietly
  rw [if_neg (not_not.2 begun)]
  dsimp only
  rw [if_neg (not_not.2 quietly)]
  exact ⟨rfl, rfl⟩

/-- If no frame is begun, ending it is refused. -/
theorem endFrame_of_idle {ring : FrameRing} (idle : ring.phase ≠ .begun) :
    ring.endFrame = ring.refuse (.wrongPhase .begun ring.phase) [] :=
  if_pos idle

/-! ## Gating

Three checks come before an image is acquired. What comes after it may fail as well, since the
targets have to be declared; the image is an output of the frame all the same, and so every acquired
image becomes one. -/

/-- The ring once a batch was gated. -/
def gated (ring : FrameRing) (tracker : Tracker) (surfaceIndex : Nat) (surface : Surface)
    (submission : Submission) : FrameRing :=
  let acquired := surface.acquire.2
  let batch := (submission.batch.useTargets tracker acquired.targets).batch
  ((ring.setSurface surfaceIndex acquired).setSubmission { submission with batch }).modifyCurrent
    fun frame => { frame with outputs := frame.outputs ++ [⟨surfaceIndex, submission.serial⟩] }

/-- A batch is gated if a frame is begun that has room, and nothing of the batch was recorded. -/
theorem ring_gate (ring : FrameRing) (tracker : Tracker) (surfaceIndex : Nat) (surface : Surface)
    (submission : Submission) :
    (ring.gate tracker surfaceIndex surface submission).ring =
      if ring.phase = .begun ∧ ring.currentFrame.outputs.length < maxOutputs ∧
          submission.batch.isStarted = false then
        ring.gated tracker surfaceIndex surface submission
      else ring := by
  unfold gate
  split
  · rename_i idle
    rw [if_neg fun all => idle all.1]
    rfl
  split
  · rename_i full
    rw [if_neg fun all => Nat.not_lt.2 full all.2.1]
    rfl
  split
  · rename_i started
    rw [if_neg (by simp [started])]
    rfl
  · rename_i begun room fresh
    rw [if_pos ⟨not_not.1 begun, Nat.not_le.1 room, by simpa using fresh⟩]
    dsimp only
    split <;> rfl

section

variable {ring : FrameRing} {surface : Surface} {submission : Submission} {s : Nat}

/-- One image more is acquired of the surface. -/
theorem acquisitions_gated (found : ring.surfaces[s]? = some surface) (tracker : Tracker)
    (submission : Submission) (t : Nat) :
    (ring.gated tracker s surface submission).acquisitions t =
      ring.acquisitions t + if t = s then 1 else 0 := by
  refine (acquisitions_setSurface found t).trans ?_
  by_cases it : t = s
  · rw [if_pos it, if_pos it, it]
    unfold acquisitions
    rw [found]
    rfl
  · rw [if_neg it, if_neg it]
    rfl

/-- Nothing is presented. -/
theorem book_gated (found : ring.surfaces[s]? = some surface) (tracker : Tracker)
    (submission : Submission) (t : Nat) :
    (ring.gated tracker s surface submission).book t = ring.book t := by
  refine (book_setSurface found t).trans ?_
  split
  · rename_i it
    unfold book
    rw [it, found]
    rfl
  · rfl

/-- The batch stays the same. -/
theorem roll_gated (numbered : ring.Numbered) {n : Nat}
    (known : ring.submissions[n]? = some submission) (tracker : Tracker) (surface : Surface) :
    (ring.gated tracker s surface submission).roll = ring.roll := by
  have keeps := Batch.keeps_useMany submission.batch tracker
    (surface.acquire.2.targets.map fun target => (⟨.image, target⟩, .colorAttachment, .present))
  have later := Submission.later_of_batch submission keeps.user (keeps.committed.trans ·)
  have numbered : (ring.setSurface s surface.acquire.2).Numbered := numbered
  exact (roll_setSubmission numbered known later.tag).2

/-- What the frame begun last is to present, if it has a place. -/
def staged (ring : FrameRing) : Option (List Frame.Output) :=
  ring.frames[ring.current.index.toNat]?.map (·.outputs)

/-- What the current frame is to present is what is staged. -/
theorem outputs_currentFrame {outputs : List Frame.Output}
    (staged : ring.staged = some outputs) : ring.currentFrame.outputs = outputs := by
  obtain ⟨frame, found, rfl⟩ := Option.map_eq_some_iff.1 staged
  rw [currentFrame_eq found]

/-- A change of the current frame changes what is staged as it changes the frame. -/
theorem staged_modifyCurrent (ring : FrameRing) (f : Frame → Frame) :
    (ring.modifyCurrent f).staged =
      ring.frames[ring.current.index.toNat]?.map fun frame => (f frame).outputs := by
  show ((ring.frames.modify ring.current.index.toNat f)[ring.current.index.toNat]?).map _ = _
  simp [Function.comp_def]

/-- One output more is to present. -/
theorem staged_gated {outputs : List Frame.Output} (staged : ring.staged = some outputs)
    (tracker : Tracker) (surface : Surface) (submission : Submission) :
    (ring.gated tracker s surface submission).staged =
      some (outputs ++ [⟨s, submission.serial⟩]) := by
  obtain ⟨frame, found, rfl⟩ := Option.map_eq_some_iff.1 staged
  refine (staged_modifyCurrent _ _).trans ?_
  show Option.map _ ring.frames[ring.current.index.toNat]? = _
  rw [found]
  rfl

/-- A frame that is begun has nothing to present. -/
theorem staged_turn {id : FrameId} {former : Frame}
    (found : ring.frames[id.index.toNat]? = some former) :
    (ring.turn id former).staged = some [] := by
  have bound := (List.getElem?_eq_some_iff.1 found).1
  show ((ring.frames.set id.index.toNat { id })[id.index.toNat]?).map (·.outputs) = _
  rw [List.getElem?_set_self bound]
  rfl

end

end FrameRing

namespace Desk

open FrameRing (maxOutputs)

/-! ## Acts that do nothing with surfaces

All other acts leave the surfaces and the outputs of the current frame alone. They may add a batch,
so books are compared along a growing roll. -/

/-- The surfaces and what is to present are left alone, and at most a batch is added. -/
structure Backstage (desk after : Desk) : Prop where
  /-- The surfaces stay. -/
  surfaces : after.ring.surfaces = desk.ring.surfaces
  /-- What is to present stays. -/
  staged : after.ring.staged = desk.ring.staged
  /-- At most the frame is ended. -/
  phase : after.ring.phase = .begun → desk.ring.phase = .begun
  /-- No frame is begun. -/
  begun : after.begun = desk.begun
  /-- The submissions keep their tags. -/
  roll : desk.ring.roll <+: after.ring.roll

/-- Nothing happens on stage if nothing happens. -/
theorem Backstage.refl (desk : Desk) : Backstage desk desk :=
  ⟨rfl, rfl, id, rfl, List.prefix_rfl⟩

/-- A submission is changed, but not its tag. -/
theorem Backstage.submission {desk : Desk} (numbered : desk.ring.Numbered) {n : Nat}
    {former changed : Submission} (found : desk.ring.submissions[n]? = some former)
    (same : changed.tag = former.tag) :
    Backstage desk { desk with ring := desk.ring.setSubmission changed } :=
  ⟨rfl, rfl, id, rfl, (FrameRing.roll_setSubmission numbered found same).2 ▸ List.prefix_rfl⟩

/-- An act that may ask something of a surface, or begins a frame. -/
def Act.onStage : Act → Bool
  | .draw .. | .endFrame | .beginFrame | .beginFrameAs _ => true
  | _ => false

/-- An act that is not on stage neither acquires nor presents, by cases on the act. -/
theorem backstage_step {desk : Desk} (orderly : desk.Orderly) {act : Act}
    (off : act.onStage = false) : Backstage desk (desk.step act) := by
  cases act with
  | openBatch queue held =>
    rcases step_openBatch orderly.whole queue held with same | ⟨slot, -, -, -, -, -, same⟩
    · rw [same]
      exact .refl desk
    · rw [same]
      exact ⟨rfl, FrameRing.staged_modifyCurrent _ _, id, rfl, List.prefix_rfl⟩
  | declare | giveUp => exact ⟨rfl, rfl, id, rfl, List.prefix_rfl⟩
  | beginBatch label =>
    cases held : desk.draft with
    | none =>
      unfold step
      rw [held]
      exact .refl desk
    | some draft =>
      rw [step_beginBatch held]
      refine ⟨rfl, FrameRing.staged_modifyCurrent _ _, id, rfl, ?_⟩
      exact FrameRing.roll_beginBatch desk.ring draft label ▸ List.prefix_append _ _
  -- Work on a batch and its completion replace one submission, which keeps its tag.
  | work n tracker call =>
    unfold step
    dsimp only
    split
    · exact .refl desk
    · rename_i submission found
      have later := Submission.later_of_batch submission
        (Batch.user_perform submission.batch tracker call) fun done =>
          (Batch.committed_perform submission.batch tracker call).2 (.inl done)
      exact .submission orderly.numbered found later.tag
  | complete n =>
    unfold step
    dsimp only
    split
    · exact .refl desk
    · rename_i submission found
      exact .submission orderly.numbered found (Submission.tag_complete submission)
  | endFrameQuietly =>
    show Backstage desk (desk.onRing fun ring => ring.endFrameQuietly.ring)
    unfold onRing
    split
    · exact .refl desk
    · rcases desk.ring.endFrameQuietly_ring with same | ⟨-, same⟩
      · dsimp only
        rw [same]
        exact .refl desk
      · dsimp only
        rw [same]
        exact ⟨rfl, rfl, nofun, rfl, List.prefix_rfl⟩
  -- The remaining acts are on stage.
  | _ => cases off

/-! ## Acts on surfaces

A draw either acquires an image and enters it among the outputs of the frame, or does nothing at
all. -/

section

variable {desk : Desk} {s n : Nat}

/-- Whether a batch can be gated now. -/
def CanDraw (desk : Desk) (submission : Submission) : Prop :=
  desk.draft = none ∧ desk.ring.phase = .begun ∧
    desk.ring.currentFrame.outputs.length < maxOutputs ∧ submission.batch.isStarted = false

/-- A batch is gated on a surface if that can be done, else nothing happens. -/
theorem step_draw {surface : Surface} {submission : Submission}
    (found : desk.ring.surfaces[s]? = some surface)
    (known : desk.ring.submissions[n]? = some submission) (tracker : Tracker) :
    desk.CanDraw submission ∧ desk.step (.draw tracker s n) =
        { desk with ring := desk.ring.gated tracker s surface submission } ∨
      ¬ desk.CanDraw submission ∧ desk.step (.draw tracker s n) = desk := by
  unfold step onRing
  dsimp only
  rw [found, known]
  dsimp only
  rw [FrameRing.ring_gate]
  cases lent : desk.draft with
  | some draft => exact .inr ⟨fun can => (nomatch lent.symm.trans can.1), if_pos rfl⟩
  | none =>
    rw [if_neg (by simp)]
    split
    · rename_i can
      exact .inl ⟨⟨lent, can⟩, rfl⟩
    · rename_i cannot
      exact .inr ⟨fun can => cannot can.2, by rw [← lent]⟩

/-- Without the surface or the batch nothing happens. -/
theorem step_draw_of_none
    (missing : desk.ring.surfaces[s]? = none ∨ desk.ring.submissions[n]? = none)
    (tracker : Tracker) : desk.step (.draw tracker s n) = desk := by
  unfold step onRing
  dsimp only
  split
  · rfl
  split
  · rename_i found known
    rcases missing with none | none
    · exact nomatch none.symm.trans found
    · exact nomatch none.symm.trans known
  · rfl

end

/-! ## What was asked of the surfaces

The ledger has its own list of acquired images and of presented ones, each with the number of its
frame. The invariant says that the images of the current frame come last and are its outputs, that
those of earlier frames were presented if the frame was ended with presenting, and that the books of
the surfaces agree with both. -/

/-- The calls to present that ending the frame makes now. -/
def presentCalls (desk : Desk) : List (Frame.Output × Option SurfaceError) :=
  if desk.draft.isSome ∨ desk.ring.phase ≠ .begun then []
  else desk.ring.presentCalls desk.ring.currentFrame.outputs

/-- A desk with what was asked of the surfaces. What was asked of the surfaces is entered act by
act, by what the desk says it would ask. -/
structure Ledger where
  /-- The desk. -/
  desk : Desk
  /-- The images acquired, each with the frame, in order. -/
  acquired : List (Nat × Frame.Output) := []
  /-- The calls to present, each with the frame and with its failure, in order. -/
  presented : List (Nat × Frame.Output × Option SurfaceError) := []
  /-- The frames that were ended with presenting. -/
  shown : List Nat := []

namespace Ledger

/-- The frame begun last. -/
def frame (ledger : Ledger) : Nat := ledger.desk.begun.length

/-- The images acquired in that frame. -/
def thisFrame (ledger : Ledger) : List Frame.Output :=
  (ledger.acquired.filter (·.1 == ledger.frame)).map (·.2)

/-- Does one act, and enters what it asks of the surfaces. -/
def step (ledger : Ledger) (act : Act) : Ledger :=
  let before := ledger.desk.ring
  let desk := ledger.desk.step act
  match act with
  | .draw _ surface n =>
    if desk.ring.acquisitions surface = before.acquisitions surface then { ledger with desk }
    else { ledger with desk, acquired := ledger.acquired ++ [(ledger.frame, ⟨surface, n⟩)] }
  | .endFrame =>
    { ledger with
      desk
      presented := ledger.presented ++ ledger.desk.presentCalls.map (ledger.frame, ·)
      shown := if desk.ring.phase = before.phase then ledger.shown
        else ledger.shown ++ [ledger.frame] }
  | _ => { ledger with desk }

/-- A ledger before anything was done. -/
def start (config : FrameRing.Config) (surfaces : List Surface) : Ledger where
  desk := .start config surfaces

/-- Does acts in order. -/
def run (ledger : Ledger) (acts : List Act) : Ledger := acts.foldl step ledger

/-- A run goes on with the last act. -/
@[simp] theorem run_append (ledger : Ledger) (acts : List Act) (act : Act) :
    ledger.run (acts ++ [act]) = (ledger.run acts).step act := by
  simp [run]

/-- A ledger does to its desk what the act does. -/
theorem desk_step (ledger : Ledger) (act : Act) :
    (ledger.step act).desk = ledger.desk.step act := by
  unfold step
  dsimp only
  split
  · split <;> rfl
  · rfl
  · rfl

/-- What every act keeps, after some desk at first. The first ring is a part of it, as its surfaces
may have been used before. -/
structure Sound (first : FrameRing) (ledger : Ledger) : Prop where
  /-- The desk is in order. -/
  orderly : ledger.desk.Orderly
  /-- The surfaces and the submissions of the images are there. -/
  known : ∀ entry ∈ ledger.acquired, ledger.desk.ring.Knows entry.2
  /-- The images of this frame come last, and as long as it is not ended they are to present. -/
  dated : ∃ earlier outputs, ledger.acquired = earlier ++ outputs.map (ledger.frame, ·) ∧
    (∀ entry ∈ earlier, entry.1 < ledger.frame) ∧
    (ledger.desk.ring.phase = .begun → ledger.desk.ring.staged = some outputs)
  /-- There are not too many of any frame. -/
  few : ∀ k, ledger.acquired.countP (·.1 == k) ≤ maxOutputs
  /-- Only frames that were begun are ended. -/
  shown : ∀ k ∈ ledger.shown, k ≤ ledger.frame
  /-- A frame is ended once. -/
  unended : ledger.desk.ring.phase = .begun → ledger.frame ∉ ledger.shown
  /-- The images of the frames that were ended with presenting are presented. -/
  presented : ledger.presented.map (fun call => (call.1, call.2.1)) =
    ledger.acquired.filter (·.1 ∈ ledger.shown)
  /-- Every image acquired is entered. -/
  acquisitions : ∀ s, ledger.desk.ring.acquisitions s =
    first.acquisitions s + ledger.acquired.countP (·.2.surface == s)
  /-- Every call to present is entered. -/
  book : ∀ s, ledger.desk.ring.book s =
    first.book s ++ (ledger.presented.filter (·.2.1.surface == s)).map
      fun call => ledger.desk.ring.entry call.2

section

variable {first : FrameRing} {ledger : Ledger}

/-- At first no surface was asked for anything. -/
theorem sound_start (config : FrameRing.Config) (surfaces : List Surface) :
    Sound (.new config surfaces) (start config surfaces) where
  orderly := orderly_start config surfaces
  known := nofun
  dated := ⟨[], [], rfl, nofun, nofun⟩
  few := fun _ => Nat.zero_le _
  shown := nofun
  unended := nofun
  presented := rfl
  acquisitions := fun _ => rfl
  book := fun _ => (List.append_nil _).symm

/-- The entries of the current frame are told apart by its number, since all others are of frames
before. -/
theorem filter_past {earlier : List (Nat × Frame.Output)} {k : Nat}
    (past : ∀ entry ∈ earlier, entry.1 < k) (outputs : List Frame.Output) :
    (earlier ++ outputs.map (k, ·)).filter (·.1 == k) = outputs.map (k, ·) := by
  have none : earlier.filter (·.1 == k) = [] := by
    apply List.filter_eq_nil_iff.2
    intro entry mem
    have := past entry mem
    simp only [beq_iff_eq]
    omega
  rw [List.filter_append, none, List.nil_append, List.filter_eq_self]
  simp

/-- The images of the frame that is ended are the last of those of the frames ended so far. -/
theorem filter_shown {earlier : List (Nat × Frame.Output)} {k : Nat} {shown : List Nat}
    (past : ∀ entry ∈ earlier, entry.1 < k) (unended : k ∉ shown) (outputs : List Frame.Output) :
    (earlier ++ outputs.map (k, ·)).filter (·.1 ∈ shown ++ [k]) =
      (earlier ++ outputs.map (k, ·)).filter (·.1 ∈ shown) ++ outputs.map (k, ·) := by
  have before : earlier.filter (·.1 ∈ shown ++ [k]) = earlier.filter (·.1 ∈ shown) := by
    apply List.filter_congr
    intro entry mem
    have apart : entry.1 ≠ k := Nat.ne_of_lt (past entry mem)
    simp [apart]
  have now : (outputs.map (k, ·)).filter (·.1 ∈ shown ++ [k]) = outputs.map (k, ·) := by
    simp
  have none : (outputs.map (k, ·)).filter (·.1 ∈ shown) = [] := by
    simp [unended]
  rw [List.filter_append, List.filter_append, before, now, none, List.append_nil]

/-- The images of the current frame are counted in the ledger by its number. -/
theorem length_thisFrame (ledger : Ledger) :
    ledger.thisFrame.length = ledger.acquired.countP (·.1 == ledger.frame) := by
  unfold thisFrame
  rw [List.length_map, List.countP_eq_length_filter]

/-- The images of this frame come last, and they are what it is to present. -/
theorem Sound.split (h : Sound first ledger) :
    ∃ earlier, ledger.acquired = earlier ++ ledger.thisFrame.map (ledger.frame, ·) ∧
      (∀ entry ∈ earlier, entry.1 < ledger.frame) ∧
      (ledger.desk.ring.phase = .begun →
        ledger.desk.ring.currentFrame.outputs = ledger.thisFrame) := by
  obtain ⟨earlier, outputs, images, past, staged⟩ := h.dated
  have same : ledger.thisFrame = outputs := by
    unfold Ledger.thisFrame
    rw [images, filter_past past]
    simp [Function.comp_def]
  rw [same]
  exact ⟨earlier, images, past, fun begun => FrameRing.outputs_currentFrame (staged begun)⟩

/-- Every call to present concerns an image that was acquired. -/
theorem Sound.knows (h : Sound first ledger) :
    ∀ call ∈ ledger.presented, ledger.desk.ring.Knows call.2.1 := by
  intro call mem
  have listed : (call.1, call.2.1) ∈ ledger.acquired.filter (·.1 ∈ ledger.shown) := by
    rw [← h.presented]
    exact List.mem_map_of_mem mem
  exact h.known _ (List.mem_filter.1 listed).1

/-- An act that does nothing with surfaces. The ledger has no new entries, and the books have
none. -/
theorem Sound.backstage (h : Sound first ledger) {after : Desk} (orderly : after.Orderly)
    (off : Backstage ledger.desk after) : Sound first { ledger with desk := after } := by
  obtain ⟨earlier, outputs, images, past, staged⟩ := h.dated
  have frame : Ledger.frame { ledger with desk := after } = ledger.frame :=
    congrArg List.length off.begun
  have length : after.ring.surfaces.length = ledger.desk.ring.surfaces.length :=
    congrArg List.length off.surfaces
  have acquisitions (s : Nat) : after.ring.acquisitions s = ledger.desk.ring.acquisitions s := by
    unfold FrameRing.acquisitions
    rw [off.surfaces]
  have book (s : Nat) : after.ring.book s = ledger.desk.ring.book s := by
    unfold FrameRing.book
    rw [off.surfaces]
  refine {
    orderly
    known := ?known
    dated := ⟨earlier, outputs, frame ▸ images, frame ▸ past, fun begun => ?dated⟩
    few := h.few
    shown := frame ▸ h.shown
    unended := fun begun => frame ▸ h.unended (off.phase begun)
    presented := h.presented
    acquisitions := fun s => (acquisitions s).trans (h.acquisitions s)
    book := ?book }
  case known =>
    intro entry mem
    obtain ⟨surface, submission⟩ := h.known entry mem
    exact ⟨Nat.lt_of_lt_of_eq surface length.symm, Nat.lt_of_lt_of_le submission off.roll.length_le⟩
  case dated => exact off.staged.trans (staged (off.phase begun))
  case book =>
    intro s
    rw [book, h.book]
    -- The entries of the book name what is presented by its submission, and the roll of submissions
    -- has only grown.
    refine congrArg _ (List.map_congr_left fun call mem => ?_)
    exact (FrameRing.entry_of_prefix off.roll (h.knows call (List.mem_filter.1 mem).1)).symm

/-- A frame is begun. The images of all frames so far are of earlier frames now. -/
theorem Sound.turn (h : Sound first ledger) {id : FrameId} {former : Frame}
    (found : ledger.desk.ring.frames[id.index.toNat]? = some former)
    (orderly : Orderly { ledger.desk with
      ring := ledger.desk.ring.turn id former, begun := ledger.desk.begun ++ [id] }) :
    Sound first { ledger with
      desk := { ledger.desk with
        ring := ledger.desk.ring.turn id former, begun := ledger.desk.begun ++ [id] } } := by
  -- All images so far are of earlier frames now, and the frame that is begun has none yet.
  obtain ⟨earlier, images, past, -⟩ := h.split
  have frame : (ledger.desk.begun ++ [id]).length = ledger.frame + 1 := List.length_append
  have older : ∀ entry ∈ ledger.acquired, entry.1 < ledger.frame + 1 := by
    rw [images]
    intro entry mem
    rcases List.mem_append.1 mem with old | new
    · exact Nat.lt_succ_of_lt (past entry old)
    · obtain ⟨output, -, rfl⟩ := List.mem_map.1 new
      exact Nat.lt_succ_self _
  refine {
    orderly
    known := h.known
    dated := ⟨ledger.acquired, [], (List.append_nil _).symm, ?past, fun _ =>
      FrameRing.staged_turn found⟩
    few := h.few
    shown := ?shown
    unended := ?unended
    presented := h.presented
    acquisitions := h.acquisitions
    book := h.book }
  case past => exact fun entry mem => Nat.lt_of_lt_of_eq (older entry mem) frame.symm
  case shown =>
    intro k mem
    exact Nat.le_trans (Nat.le_succ_of_le (h.shown k mem)) (Nat.le_of_eq frame.symm)
  -- Frames that were ended have a number at most the one before the new.
  case unended =>
    intro _ mem
    exact Nat.not_succ_le_self _ (Nat.le_trans (Nat.le_of_eq frame.symm) (h.shown _ mem))

/-- An image is acquired. It is entered for the frame begun last, as its last image so far. -/
theorem Sound.gated (h : Sound first ledger) {s n : Nat} {surface : Surface}
    {submission : Submission} (found : ledger.desk.ring.surfaces[s]? = some surface)
    (known : ledger.desk.ring.submissions[n]? = some submission)
    (can : ledger.desk.CanDraw submission) (tracker : Tracker)
    (orderly : Orderly { ledger.desk with
      ring := ledger.desk.ring.gated tracker s surface submission }) :
    Sound first { ledger with
      desk := { ledger.desk with ring := ledger.desk.ring.gated tracker s surface submission }
      acquired := ledger.acquired ++ [(ledger.frame, ⟨s, n⟩)] } := by
  obtain ⟨earlier, outputs, images, past, staged⟩ := h.dated
  obtain ⟨-, begun, room, -⟩ := can
  have roll : (ledger.desk.ring.gated tracker s surface submission).roll = ledger.desk.ring.roll :=
    FrameRing.roll_gated h.orderly.numbered known tracker surface
  have serial : submission.serial = n :=
    h.orderly.numbered n submission.tag (FrameRing.roll_of_submission known)
  refine {
    orderly
    known := ?known
    dated := ⟨earlier, outputs ++ [⟨s, n⟩], ?images, past, fun _ => ?staged⟩
    few := ?few
    shown := h.shown
    unended := h.unended
    presented := ?presented
    acquisitions := ?acquisitions
    book := ?book }
  case known =>
    intro entry mem
    rcases List.mem_append.1 mem with old | new
    · obtain ⟨bound, few⟩ := h.known entry old
      exact ⟨Nat.lt_of_lt_of_eq bound List.length_set.symm, roll ▸ few⟩
    · cases List.mem_singleton.1 new
      refine ⟨Nat.lt_of_lt_of_eq (List.getElem?_eq_some_iff.1 found).1 List.length_set.symm, ?_⟩
      exact roll ▸ (List.getElem?_eq_some_iff.1 (FrameRing.roll_of_submission known)).1
  case images =>
    show ledger.acquired ++ _ = _
    rw [images, List.map_append, ← List.append_assoc]
    rfl
  case staged =>
    rw [← serial]
    exact FrameRing.staged_gated (staged begun) tracker surface submission
  -- The frame had room for the image, and the images of other frames are as many as before.
  case few =>
    intro k
    show (ledger.acquired ++ _).countP _ ≤ _
    rw [List.countP_append, List.countP_singleton]
    by_cases it : ledger.frame = k
    · have few : ledger.acquired.countP (·.1 == k) < maxOutputs := by
        obtain ⟨-, -, -, present⟩ := h.split
        rwa [present begun, length_thisFrame, it] at room
      rw [if_pos (beq_iff_eq.2 it)]
      exact few
    · rw [if_neg (by simpa using it)]
      exact h.few k
  case presented =>
    refine h.presented.trans ?_
    -- the frame is not ended yet, so its image does not count
    have out : [(ledger.frame, (⟨s, n⟩ : Frame.Output))].filter (·.1 ∈ ledger.shown) = [] := by
      simp [h.unended begun]
    show _ = (ledger.acquired ++ _).filter _
    rw [List.filter_append, out, List.append_nil]
  case acquisitions =>
    intro t
    refine (FrameRing.acquisitions_gated found tracker submission t).trans ?_
    show _ = first.acquisitions t + (ledger.acquired ++ _).countP _
    rw [h.acquisitions, List.countP_append, List.countP_singleton, Nat.add_assoc]
    -- The only surface with one acquisition more is the one that was drawn to.
    by_cases it : t = s
    · simp [it]
    · simp [it, Ne.symm it]
  case book =>
    intro t
    refine (FrameRing.book_gated found tracker submission t).trans ?_
    rw [h.book]
    unfold FrameRing.entry
    rw [roll]

/-- Ending the frame calls for its images. -/
theorem Sound.presents (h : Sound first ledger) (free : ledger.desk.draft = none)
    (begun : ledger.desk.ring.phase = .begun) :
    ledger.desk.presentCalls = ledger.desk.ring.presentCalls ledger.thisFrame ∧
      FrameRing.Presents ledger.desk.ring ledger.thisFrame
        (ledger.desk.ring.presentAll ledger.desk.ring.currentFrame.outputs) := by
  obtain ⟨earlier, images, -, present⟩ := h.split
  unfold presentCalls
  rw [if_neg (by simp [free, begun]), present begun]
  refine ⟨rfl, FrameRing.presents ledger.desk.ring fun output mem => ?_⟩
  apply h.known (ledger.frame, output)
  rw [images]
  exact List.mem_append_right _ (List.mem_map_of_mem mem)

/-- A frame is ended with presenting. All images of the frame are presented and none of another
frame is. -/
theorem Sound.ended (h : Sound first ledger) (free : ledger.desk.draft = none)
    (begun : ledger.desk.ring.phase = .begun)
    (orderly : Orderly { ledger.desk with ring := ledger.desk.ring.endFrame.ring }) :
    Sound first { ledger with
      desk := { ledger.desk with ring := ledger.desk.ring.endFrame.ring }
      presented := ledger.presented ++ ledger.desk.presentCalls.map (ledger.frame, ·)
      shown := ledger.shown ++ [ledger.frame] } := by
  obtain ⟨earlier, images, past, -⟩ := h.split
  obtain ⟨calls, done⟩ := h.presents free begun
  obtain ⟨ring, -⟩ := FrameRing.endFrame_eq begun
  obtain ⟨surfaces, plain⟩ :=
    ledger.desk.ring.presentAll_ring ledger.desk.ring.currentFrame.outputs
  have roll : ledger.desk.ring.endFrame.ring.roll = ledger.desk.ring.roll := by
    rw [ring, plain]
    rfl
  have ended : ledger.desk.ring.endFrame.ring.phase ≠ .begun := by
    rw [ring]
    nofun
  refine {
    orderly
    known := ?known
    dated := ⟨earlier, _, images, past, (absurd · ended)⟩
    few := h.few
    shown := ?shown
    unended := (absurd · ended)
    presented := ?presented
    acquisitions := ?acquisitions
    book := ?book }
  case known =>
    intro entry mem
    obtain ⟨bound, few⟩ := h.known entry mem
    refine ⟨Nat.lt_of_lt_of_eq bound ?_, roll ▸ few⟩
    rw [ring]
    exact done.surfaces.symm
  case shown =>
    intro k mem
    rcases List.mem_append.1 mem with old | new
    · exact h.shown k old
    · exact Nat.le_of_eq (List.mem_singleton.1 new)
  -- The presented images of this frame are its acquired ones, and from now on they count.
  case presented =>
    have made : (ledger.desk.presentCalls.map (ledger.frame, ·)).map
        (fun call => (call.1, call.2.1)) = ledger.thisFrame.map (ledger.frame, ·) := by
      conv_rhs => rw [← done.calls, ← calls]
      rw [List.map_map, List.map_map]
      rfl
    show (ledger.presented ++ _).map _ = ledger.acquired.filter _
    rw [List.map_append, h.presented, made, images, filter_shown past (h.unended begun)]
  case acquisitions =>
    intro s
    rw [ring]
    exact (done.acquisitions s).trans (h.acquisitions s)
  -- Every call of this frame went to a surface, and the books have them in the order of the calls.
  case book =>
    intro s
    have entry : ledger.desk.ring.endFrame.ring.entry = ledger.desk.ring.entry := by
      unfold FrameRing.entry
      rw [roll]
    show ledger.desk.ring.endFrame.ring.book s = first.book s ++
      ((ledger.presented ++ _).filter _).map fun call => ledger.desk.ring.endFrame.ring.entry call.2
    rw [entry, ring, calls, List.filter_append, List.map_append, ← List.append_assoc, ← h.book]
    refine (done.book s).trans (congrArg _ ?_)
    rw [List.filter_map, List.map_map]
    rfl

/-- Gating enters an image, unless it cannot be done. -/
theorem step_draw {s n : Nat} {surface : Surface} {submission : Submission}
    (found : ledger.desk.ring.surfaces[s]? = some surface)
    (known : ledger.desk.ring.submissions[n]? = some submission) (tracker : Tracker) :
    ledger.desk.CanDraw submission ∧ ledger.step (.draw tracker s n) =
        { ledger with
          desk := { ledger.desk with ring := ledger.desk.ring.gated tracker s surface submission }
          acquired := ledger.acquired ++ [(ledger.frame, ⟨s, n⟩)] } ∨
      ¬ ledger.desk.CanDraw submission ∧ ledger.step (.draw tracker s n) = ledger := by
  unfold step
  dsimp only
  rcases Desk.step_draw found known tracker with ⟨can, same⟩ | ⟨cannot, same⟩
  · rw [same]
    refine .inl ⟨can, if_neg ?_⟩
    rw [FrameRing.acquisitions_gated found, if_pos rfl]
    exact Nat.succ_ne_self _
  · rw [same]
    exact .inr ⟨cannot, if_pos rfl⟩

/-- Ending a frame enters what is presented. -/
theorem step_endFrame (free : ledger.desk.draft = none)
    (begun : ledger.desk.ring.phase = .begun) :
    ledger.step .endFrame =
      { ledger with
        desk := { ledger.desk with ring := ledger.desk.ring.endFrame.ring }
        presented := ledger.presented ++ ledger.desk.presentCalls.map (ledger.frame, ·)
        shown := ledger.shown ++ [ledger.frame] } := by
  have act : ledger.desk.step .endFrame =
      { ledger.desk with ring := ledger.desk.ring.endFrame.ring } := if_neg (by simp [free])
  have ended : ledger.desk.ring.endFrame.ring.phase ≠ ledger.desk.ring.phase := by
    rw [(FrameRing.endFrame_eq begun).1, begun]
    nofun
  unfold step
  dsimp only
  rw [act, if_neg ended]

/-- If it is refused nothing is entered. -/
theorem step_endFrame_of_refused
    (refused : ledger.desk.draft.isSome ∨ ledger.desk.ring.phase ≠ .begun) :
    ledger.step .endFrame = ledger := by
  have act : ledger.desk.step .endFrame = ledger.desk := by
    show ledger.desk.onRing (fun ring => ring.endFrame.ring) = ledger.desk
    unfold onRing
    split
    · rfl
    · rename_i free
      dsimp only
      rw [FrameRing.endFrame_of_idle (refused.resolve_left free)]
      rfl
  have calls : ledger.desk.presentCalls = [] := if_pos refused
  unfold step
  dsimp only
  rw [act, calls, if_pos rfl, List.map_nil, List.append_nil]

/-- **One act.** The acts on stage have a case each: a frame begins, an image is acquired, a frame
ends. -/
theorem Sound.step (h : Sound first ledger) (act : Act) : Sound first (ledger.step act) := by
  have orderly := h.orderly.step act
  -- Beginning the next frame is beginning it under the number that follows, so both share this.
  have begins (id : FrameId) : Sound first (ledger.step (.beginFrameAs id)) := by
    have orderly := h.orderly.step (.beginFrameAs id)
    show Sound first { ledger with desk := ledger.desk.step (.beginFrameAs id) }
    rcases ledger.desk.step_beginFrameAs id with same | ⟨former, -, -, found, -, same⟩
    · rw [same]
      exact h
    · rw [same] at orderly ⊢
      exact h.turn found orderly
  cases act with
  | beginFrame =>
    show Sound first { ledger with desk := ledger.desk.step .beginFrame }
    rw [step_beginFrame]
    exact begins ledger.desk.ring.current.next
  | beginFrameAs id => exact begins id
  -- A draw to a surface or by a batch that does not exist does nothing, and neither does one that
  -- is refused.
  | draw tracker s n =>
    have still (missing : ledger.desk.ring.surfaces[s]? = none ∨
        ledger.desk.ring.submissions[n]? = none) :
        Sound first (ledger.step (.draw tracker s n)) := by
      unfold Ledger.step
      dsimp only
      rw [step_draw_of_none missing, if_pos rfl]
      exact h
    cases found : ledger.desk.ring.surfaces[s]? with
    | none => exact still (.inl found)
    | some surface =>
      cases known : ledger.desk.ring.submissions[n]? with
      | none => exact still (.inr known)
      | some submission =>
        rcases step_draw found known tracker with ⟨can, same⟩ | ⟨-, same⟩
        · rw [← desk_step, same] at orderly
          rw [same]
          exact h.gated found known can tracker orderly
        · rw [same]
          exact h
  | endFrame =>
    by_cases refused : ledger.desk.draft.isSome ∨ ledger.desk.ring.phase ≠ .begun
    · rw [step_endFrame_of_refused refused]
      exact h
    · have free : ledger.desk.draft = none := by
        simpa using fun lent => refused (.inl lent)
      have begun : ledger.desk.ring.phase = .begun := not_not.1 fun idle => refused (.inr idle)
      rw [← desk_step, step_endFrame free begun] at orderly
      rw [step_endFrame free begun]
      exact h.ended free begun orderly
  | _ => exact h.backstage orderly (backstage_step h.orderly rfl)

end

/-- Every run keeps the ledger in order, by induction on the acts. -/
theorem run_sound (config : FrameRing.Config) (surfaces : List Surface) (acts : List Act) :
    Sound (.new config surfaces) ((start config surfaces).run acts) := by
  induction acts using List.reverseRecOn with
  | nil => exact sound_start config surfaces
  | append_singleton acts act ih =>
    rw [run_append]
    exact ih.step act

/-- **Every image is presented once.** Whatever is done with a ring, the calls to present are those
images, in order, that were acquired in the frames ended with presenting, each made as its own frame
was ended, for the surface and the batch it was acquired for. There are at most four in a frame. The
books of the surfaces know of no other calls.

An image is acquired exactly if a frame is begun that has less than four, and nothing of the batch
was recorded; else nothing at all happens. Ending the frame calls for its images in order, however
many of the calls fail, answers the first failure, and leaves the frame ended. -/
theorem images_presented_once (config : FrameRing.Config) (surfaces : List Surface)
    (acts : List Act) :
    let ledger := (start config surfaces).run acts
    let ring := ledger.desk.ring
    ledger.presented.map (fun call => (call.1, call.2.1)) =
        ledger.acquired.filter (·.1 ∈ ledger.shown) ∧
    (∀ k, ledger.acquired.countP (·.1 == k) ≤ 4) ∧
    (∀ s, ring.acquisitions s =
      (FrameRing.new config surfaces).acquisitions s +
        ledger.acquired.countP (·.2.surface == s)) ∧
    (∀ s, ring.book s =
      (FrameRing.new config surfaces).book s ++
        (ledger.presented.filter (·.2.1.surface == s)).map fun call => ring.entry call.2) ∧
    (∀ tracker s n surface submission, ring.surfaces[s]? = some surface →
      ring.submissions[n]? = some submission →
      let after := ledger.step (.draw tracker s n)
      if ledger.desk.draft = none ∧ ring.phase = .begun ∧ ledger.thisFrame.length < 4 ∧
          submission.batch.isStarted = false then
        after.acquired = ledger.acquired ++ [(ledger.frame, ⟨s, n⟩)] ∧
          after.thisFrame = ledger.thisFrame ++ [⟨s, n⟩]
      else after = ledger) ∧
    (ledger.desk.draft = none → ring.phase = .begun →
      ledger.desk.presentCalls.map (·.1) = ledger.thisFrame ∧
      ring.endFrame.ring.phase = .ended ∧
      ring.endFrame.answer =
        match ledger.desk.presentCalls.findSome? (·.2) with
        | some error => .error (.surface error)
        | none => .ok ()) := by
  intro ledger ring
  have sound : Sound (.new config surfaces) ledger := run_sound config surfaces acts
  refine ⟨sound.presented, sound.few, sound.acquisitions, sound.book, ?_, ?_⟩
  · obtain ⟨-, -, -, present⟩ := sound.split
    intro tracker s n surface submission found known after
    rcases step_draw found known tracker with ⟨can, same⟩ | ⟨cannot, same⟩
    · obtain ⟨free, begun, room, fresh⟩ := can
      rw [present begun] at room
      rw [if_pos ⟨free, begun, room, fresh⟩, show after = _ from same]
      exact ⟨rfl, by simp [thisFrame, frame]⟩
    · have closed : ¬ (ledger.desk.draft = none ∧ ring.phase = .begun ∧
          ledger.thisFrame.length < 4 ∧ submission.batch.isStarted = false) := by
        rintro ⟨free, begun, room, fresh⟩
        rw [← present begun] at room
        exact cannot ⟨free, begun, room, fresh⟩
      rw [if_neg closed]
      exact same
  · intro free begun
    obtain ⟨calls, done⟩ := sound.presents free begun
    obtain ⟨ring', answer⟩ := FrameRing.endFrame_eq begun
    rw [calls, ← done.failure, ← answer, ring']
    exact ⟨done.calls, rfl, rfl⟩

end Ledger

end Desk

end GpuSync
