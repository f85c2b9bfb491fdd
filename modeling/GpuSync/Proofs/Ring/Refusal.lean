import GpuSync.Proofs.Ring.Recycling
import GpuSync.Proofs.Ring.Retirement
import GpuSync.Proofs.Ring.Surfaces

/-!
# Operations of a ring that are refused

An operation looks at everything that may be wrong before it changes anything. There are two
exceptions: a surface that fails has been called, and a batch that refuses the images of a surface
has got some of them. All other errors are `early`.

* `FrameRing.RingError.early` tells such errors, and `Desk.Sight.answer?` is what an operation on a
  ring answers.
* `Desk.step_of_early` and `Desk.Heap.step_of_early`: an early error changes nothing.
* `Desk.Waits` is what stays as it is until the next frame is begun.
* **`World.refusal_leaves_world`** is the result for all runs. It tells as well what becomes of a
  frame that was refused because its place was in use.
-/

namespace GpuSync

/-! ## Errors that are found early

Most operations look for all their errors before they change anything. The exceptions are those that
call a surface, which may fail when others were called before; their errors are not early, except
for those found before the first call. -/

/-- Whether an error is found before anything is changed. -/
def FrameRing.RingError.early : FrameRing.RingError → Bool
  | .surface _ => false
  | .batch (.alreadyStarted _) => true
  | .batch _ => false
  | _ => true

/-- What an operation on a ring answers, but for what it yields. -/
def Desk.Sight.answer? : Desk.Sight → Option (Except FrameRing.RingError Unit)
  | .framed answer _ => some (answer.map fun _ => ())
  | .done answer _ => some answer
  | .opened answer _ => some (answer.map fun _ => ())
  | .drawn answer _ => some (answer.map fun _ => ())
  | _ => none

/-- An answer that is only renamed is an error if it was. -/
theorem Except.map_eq_error_iff {ε α β : Type} {answer : Except ε α} {f : α → β} {error : ε} :
    answer.map f = .error error ↔ answer = .error error := by
  cases answer <;> simp [Except.map]

namespace Batch

/-- A declaration does not create tasks. -/
theorem isStarted_use (batch : Batch) (tracker : Tracker) (key : Key) (initial final : Usage) :
    (batch.use tracker key initial final).batch.isStarted = batch.isStarted := by
  unfold use
  split
  · rfl
  split
  · split <;> rfl
  · split <;> rfl

/-- A batch without tasks is not refused anything for having some. -/
theorem use_answer_ne {batch : Batch} (fresh : batch.isStarted = false) (tracker : Tracker)
    (key : Key) (initial final : Usage) (id : BatchId) :
    (batch.use tracker key initial final).answer ≠ .error (.alreadyStarted id) := by
  unfold use
  rw [if_neg (by simp [fresh])]
  split
  · split <;> simp [refuse, answering]
  · split <;> simp [refuse, answering, tooMany]

/-- Before there is a task, a declaration is never refused because there is one. -/
theorem useMany_answer_ne {batch : Batch} (fresh : batch.isStarted = false) (tracker : Tracker)
    (uses : List (Key × Usage × Usage)) (id : BatchId) :
    (batch.useMany tracker uses).answer ≠ .error (.alreadyStarted id) := by
  induction uses generalizing batch with
  | nil => nofun
  | cons use rest ih =>
    obtain ⟨key, initial, final⟩ := use
    have other := use_answer_ne fresh tracker key initial final id
    have fresh' := (batch.isStarted_use tracker key initial final).trans fresh
    unfold useMany
    dsimp only
    cases first : (batch.use tracker key initial final).answer with
    | error error =>
      rintro ⟨⟩
      exact other first
    | ok passage => exact ih fresh'

end Batch

namespace FrameRing

variable {ring : FrameRing} {error : RingError}

/-- A frame that is refused leaves the ring as it is. -/
theorem beginFrameAs_of_error {id : FrameId}
    (refused : (ring.beginFrameAs id).answer = .error error) :
    (ring.beginFrameAs id).ring = ring := by
  by_cases busy : ring.phase = .begun ∨ ring.frames[id.index.toNat]? = none ∨
      ∃ former, ring.frames[id.index.toNat]? = some former ∧ ring.pendingOf former ≠ 0
  · obtain ⟨-, -, same⟩ := beginFrameAs_eq_error busy
    exact same
  · rw [not_or, not_or] at busy
    obtain ⟨idle, place, free⟩ := busy
    obtain ⟨former, found⟩ := Option.ne_none_iff_exists'.1 place
    have done : ring.pendingOf former = 0 := not_not.1 fun pending => free ⟨former, found, pending⟩
    rw [(beginFrameAs_eq_ok idle found done).1] at refused
    cases refused

/-- A frame that is refused because its place is in use is not refused for anything else. -/
theorem of_frameInFlight {id frame : FrameId} {pending : Nat}
    (refused : (ring.beginFrameAs id).answer = .error (.frameInFlight frame pending)) :
    ring.phase ≠ .begun ∧ ∃ former, ring.frames[id.index.toNat]? = some former ∧
      frame = former.id ∧ pending = ring.pendingOf former ∧ 0 < pending := by
  unfold beginFrameAs at refused
  split at refused
  · cases refused
  rename_i idle
  split at refused
  · cases refused
  rename_i former found
  dsimp only at refused
  split at refused
  · rename_i busy
    cases refused
    exact ⟨idle, former, found, rfl, rfl, Nat.pos_of_ne_zero busy⟩
  · cases refused

/-- A batch that is refused leaves the ring as it is. For this the pool has to be whole: otherwise a
search could fail with batches left. -/
theorem openBatch_of_error (whole : ring.slots.Whole) {queue : Queue} {held : BatchId → Bool}
    (refused : (ring.openBatch held queue).answer = .error error) :
    (ring.openBatch held queue).ring = ring := by
  by_cases full : ring.phase ≠ .begun ∨ ring.config.maxPerQueue ≤ ring.submittedTo queue ∨
      ring.config.maxPending ≤ ring.slots.assignedCount ∨ ring.slots.firstFree? 0 = none
  · obtain ⟨-, -, same⟩ := openBatch_eq_error held full
    exact same
  · rw [not_or, not_or, not_or, not_not, Nat.not_le, Nat.not_le] at full
    obtain ⟨begun, room, few, free⟩ := full
    obtain ⟨slot, search⟩ := Option.ne_none_iff_exists'.1 free
    rw [openBatch_eq_ok whole held begun room few search] at refused
    cases refused

/-- A frame whose end is refused leaves the ring as it is. -/
theorem endFrameQuietly_of_error (refused : ring.endFrameQuietly.answer = .error error) :
    ring.endFrameQuietly.ring = ring := by
  unfold endFrameQuietly at refused ⊢
  split
  · rfl
  · rename_i begun
    rw [if_neg begun] at refused
    cases refused

/-- Ending a frame is refused early if no frame is begun. Else the surfaces are called. -/
theorem endFrame_of_early (refused : ring.endFrame.answer = .error error)
    (early : error.early = true) : ring.endFrame.ring = ring := by
  by_cases begun : ring.phase = .begun
  · rw [(endFrame_eq begun).2] at refused
    split at refused
    · cases refused
      cases early
    · cases refused
  · rw [endFrame_of_idle begun]
    rfl

/-- Gating is refused early if there is no frame, if that has enough surfaces, or if the batch has
tasks. -/
theorem gate_of_early {tracker : Tracker} {surfaceIndex : Nat} {surface : Surface}
    {submission : Submission}
    (refused : (ring.gate tracker surfaceIndex surface submission).answer = .error error)
    (early : error.early = true) :
    ring.phase ≠ .begun ∨ maxOutputs ≤ ring.currentFrame.outputs.length ∨
      submission.batch.isStarted = true := by
  by_contra ready
  obtain ⟨begun, room, fresh⟩ : ring.phase = .begun ∧
      ¬ maxOutputs ≤ ring.currentFrame.outputs.length ∧ submission.batch.isStarted = false := by
    simpa [not_or] using ready
  unfold gate at refused
  rw [if_neg (not_not.2 begun), if_neg room, if_neg (by simp [fresh])] at refused
  dsimp only at refused
  split at refused
  · cases refused
  · rename_i cause declared
    cases refused
    cases cause with
    | alreadyStarted id => exact Batch.useMany_answer_ne fresh tracker _ id declared
    | _ => cases early

end FrameRing

/-! ## What an early error leaves

The ring, the object that is changed and the tracker are looked at one after another. If all of them
are as they were, so is the world. -/

namespace Desk

open FrameRing (RingError)

/-- The ring answers only if it is not lent to a batch that is open. -/
theorem answer?_ringSays {desk : Desk} {sight : FrameRing → Sight}
    {answer : Except RingError Unit} (seen : (desk.ringSays sight).answer? = some answer) :
    desk.draft = none ∧ (sight desk.ring).answer? = some answer := by
  unfold ringSays at seen
  cases lent : desk.draft with
  | none => exact ⟨rfl, by simpa [lent] using seen⟩
  | some draft => simp [lent, Sight.answer?] at seen

/-- What is refused and changes no ring changes no desk. -/
theorem framed_of_still {desk : Desk} {α : Type} {outcome : FrameRing.Outcome α} {error : RingError}
    (refused : outcome.answer = .error error) (same : outcome.ring = desk.ring) (id : α → FrameId) :
    desk.framed outcome id = desk := by
  unfold framed
  rw [refused, same]
  exact ite_self desk

/-- A change of a ring that leaves it as it is leaves the desk as it is. -/
theorem onRing_of_still {desk : Desk} (change : FrameRing → FrameRing)
    (same : change desk.ring = desk.ring) : desk.onRing change = desk := by
  unfold onRing
  rw [same]
  exact ite_self desk

namespace Heap

variable {heap : Heap} {error : RingError}

/-- An act that changes nothing on the desk and leaves the object that it changes as it is, is
nothing. -/
theorem perform_of_still {act : Act} (still : heap.desk.step act = heap.desk)
    (touch : heap.touch act = heap.objects) : heap.perform act = heap := by
  unfold perform
  rw [still, touch]
  exact ite_self heap

/-- An act on the ring changes no object, unless one is lent. -/
theorem touch_of_free {act : Act} (target : act.target? = none) (free : heap.desk.draft = none) :
    heap.touch act = heap.objects := by
  simp [touch, touched?, target, free]

/-- A frame that is refused leaves the heap as it is. -/
theorem beginFrame_of_error
    (seen : (heap.desk.ringSays fun ring =>
      .framed ring.beginFrame.answer ring.beginFrame.notes).answer? = some (.error error)) :
    heap.perform .beginFrame = heap := by
  obtain ⟨free, seen⟩ := answer?_ringSays seen
  have refused := Except.map_eq_error_iff.1 (Option.some.inj seen)
  have same := FrameRing.beginFrameAs_of_error (Except.map_eq_error_iff.1 refused)
  exact perform_of_still (framed_of_still refused same id) (touch_of_free rfl free)

/-- So does a frame that the application numbers. -/
theorem beginFrameAs_of_error {id : FrameId}
    (seen : (heap.desk.ringSays fun ring =>
      .done (ring.beginFrameAs id).answer (ring.beginFrameAs id).notes).answer? =
        some (.error error)) :
    heap.perform (.beginFrameAs id) = heap := by
  obtain ⟨free, seen⟩ := answer?_ringSays seen
  have refused := Option.some.inj seen
  have same := FrameRing.beginFrameAs_of_error refused
  exact perform_of_still (framed_of_still refused same fun () => id) (touch_of_free rfl free)

/-- So does a batch that is refused. No object is supplied, as no slot was handed out. -/
theorem Sound.openBatch_of_error (h : heap.Sound) {queue : Queue} {others : BatchId → Bool}
    {draft : FrameRing.Draft → Option Batch × Nat}
    (seen : (heap.desk.ringSays fun ring =>
      .opened ((ring.openBatch others queue).answer.map draft)
        (ring.openBatch others queue).notes).answer? = some (.error error)) :
    heap.openBatch queue others = heap := by
  obtain ⟨free, seen⟩ := answer?_ringSays seen
  have refused := Except.map_eq_error_iff.1 (Except.map_eq_error_iff.1 (Option.some.inj seen))
  have still (held : BatchId → Bool) :
      heap.desk.step (.openBatch queue held) = heap.desk := by
    rw [step_openBatch_congr heap.desk queue held others]
    unfold Desk.step
    dsimp only
    rw [FrameRing.openBatch_of_error h.orderly.whole refused, refused]
    show (if _ then _ else { heap.desk with draft := none }) = heap.desk
    rw [← free, ite_self]
  unfold Heap.openBatch
  split
  · rw [still]
  · dsimp only
    rw [still, free]

/-- A submission that is shown has an object behind it, which shows its batch. -/
theorem exists_of_view {n : Nat} {submission : Submission} (shown : heap.view n = some submission) :
    ∃ c, heap.behind[n]? = some c ∧ heap.objects[c]? = some submission.batch := by
  obtain ⟨former, -, rest⟩ := Option.bind_eq_some_iff.1 shown
  obtain ⟨c, behind, rest⟩ := Option.bind_eq_some_iff.1 rest
  obtain ⟨batch, object, same⟩ := Option.bind_eq_some_iff.1 rest
  cases same
  exact ⟨c, behind, object⟩

/-- So does a surface that is refused before an image is acquired from it. An error that the surface
itself answers comes later, and is not early. -/
theorem Sound.draw_of_early (h : heap.Sound) {tracker : Tracker} {s n : Nat}
    {surface : Surface} {submission : Submission}
    (found : heap.desk.ring.surfaces[s]? = some surface) (shown : heap.view n = some submission)
    (seen : (heap.desk.ringSays fun ring =>
      .drawn (ring.gate tracker s surface submission).answer
        (ring.gate tracker s surface submission).notes).answer? = some (.error error))
    (early : error.early = true) :
    heap.perform (.draw tracker s n) = heap := by
  obtain ⟨free, seen⟩ := answer?_ringSays seen
  have refused := Except.map_eq_error_iff.1 (Option.some.inj seen)
  have busy := FrameRing.gate_of_early refused early
  -- The gate was closed by what it checks first, so neither the desk nor the batch changes. A batch
  -- that is not held cannot be drawn with at all.
  by_cases held : n ∈ heap.held
  · have known := h.view_eq (has_of_held held)
    rw [shown] at known
    obtain ⟨-, still⟩ := (step_draw found known.symm tracker).resolve_left fun can => by
      obtain ⟨-, begun, room, fresh⟩ := can.1
      rcases busy with idle | full | started
      · exact idle begun
      · exact Nat.not_lt.2 full room
      · simp [fresh] at started
    refine perform_of_still still ?_
    obtain ⟨c, behind, batch⟩ := exists_of_view shown
    refine List.ext_getElem? fun d => ?_
    have idle : heap.desk.treat (.draw tracker s n) submission.batch = submission.batch := by
      simp only [treat, free, found, if_pos busy]
    have touched : heap.touched? (.draw tracker s n) = some c := behind
    rw [getElem?_touch, touched]
    by_cases same : c = d
    · subst same
      rw [batch, Option.map_some, if_pos rfl, idle]
    · simp [same]
  · unfold perform
    rw [if_neg]
    simpa [Act.target?] using held

/-- A deed that is refused early leaves the heap as it is, by cases on the deed. -/
theorem Sound.step_of_early (h : heap.Sound) {deed : Deed} {sight : Sight}
    (seen : heap.sight? deed = some sight) (refused : sight.answer? = some (.error error))
    (early : error.early = true) : heap.step deed = heap := by
  -- A refusal has to answer an error, so dropping and fetching are out, and so are the acts that
  -- are never refused early.
  cases deed with
  | drop n => cases seen
  | fetch id =>
    cases seen
    cases refused
  | act act =>
    cases act with
    | beginFrame =>
      cases seen
      exact beginFrame_of_error refused
    | beginFrameAs id =>
      cases seen
      exact beginFrameAs_of_error refused
    | openBatch queue others =>
      cases seen
      exact h.openBatch_of_error refused
    | endFrame =>
      cases seen
      obtain ⟨free, refused⟩ := answer?_ringSays refused
      have same := FrameRing.endFrame_of_early (Option.some.inj refused) early
      exact perform_of_still (onRing_of_still (·.endFrame.ring) same) (touch_of_free rfl free)
    | endFrameQuietly =>
      cases seen
      obtain ⟨free, refused⟩ := answer?_ringSays refused
      have same := FrameRing.endFrameQuietly_of_error (Option.some.inj refused)
      exact perform_of_still (onRing_of_still (·.endFrameQuietly.ring) same)
        (touch_of_free rfl free)
    | draw tracker s n =>
      unfold sight? Desk.seen at seen
      dsimp only at seen
      split at seen
      · rename_i surface submission found shown
        cases seen
        exact h.draw_of_early found shown refused early
      · cases seen
        cases refused
    | declare tracker declaration | beginBatch label | work n tracker call | complete n =>
      unfold sight? Desk.seen at seen
      dsimp only at seen
      split at seen <;> cases seen <;> cases refused
    | giveUp =>
      cases seen
      cases refused

/-- Calls on batches change the tracker, operations on the ring do not. -/
theorem trackerAfter_of_answer {deed : Deed} {sight : Sight} {answer : Except RingError Unit}
    (seen : heap.sight? deed = some sight) (answered : sight.answer? = some answer)
    (tracker : Tracker) : trackerAfter heap.view tracker deed = tracker := by
  cases deed with
  | act act =>
    cases act with
    | work n met call =>
      unfold sight? Desk.seen at seen
      dsimp only at seen
      split at seen <;> cases seen <;> cases answered
    | _ => rfl
  | _ => rfl

end Heap

/-! ## Frames that have to wait

Between the refusal and the next try anything may be done that begins no frame. What the refused
frame would be and what it waits for stay the same meanwhile, and batches only get completed. -/

/-- The frame that an act begins, if it is done. -/
def Act.asked? (ring : FrameRing) : Act → Option FrameId
  | .beginFrame => some ring.current.next
  | .beginFrameAs id => some id
  | _ => none

/-- What stays as it is after a frame until the next one is begun. The place that comes next, its
batches and the phase. Batches may be completed in the meantime. -/
structure Waits (desk after : Desk) : Prop where
  /-- No batch is open. -/
  free : after.draft = none
  /-- No frame is begun. -/
  idle : after.ring.phase ≠ .begun
  /-- It is still the same frame that was begun last. -/
  current : after.ring.current = desk.ring.current
  /-- The places stay, but for the surfaces they present. -/
  frames : after.ring.frames.map Frame.bare = desk.ring.frames.map Frame.bare
  /-- No frame was begun. -/
  begun : after.begun = desk.begun

section

variable {desk after later : Desk}

/-- An act leaves that as it is, or begins a frame. -/
theorem Waits.change (h : Waits desk after) {act : Act} (change : Change after act later) :
    Waits desk later ∨ desk.begun.length < later.begun.length := by
  cases change with
  | quiet quiet =>
    refine .inl ⟨?_, ?_, quiet.current.trans h.current, quiet.frames.trans h.frames,
      quiet.begun.trans h.begun⟩
    · refine Option.eq_none_iff_forall_ne_some.2 fun draft held => ?_
      obtain ⟨former, held', -⟩ := quiet.draft draft held
      cases h.free.symm.trans held'
    · rcases quiet.phase with same | ⟨-, begun, -⟩
      · exact same ▸ h.idle
      · exact absurd begun h.idle
  | frame =>
    refine .inr ?_
    rw [← h.begun, List.length_append]
    exact Nat.lt_succ_self _
  | opened _ _ begun => exact absurd begun h.idle
  | joined _ held => cases h.free.symm.trans held

/-- No act takes it back that a frame was begun. -/
theorem Change.length_begun {act : Act} (change : Change desk act later) :
    desk.begun.length ≤ later.begun.length := by
  cases change with
  | quiet quiet => rw [quiet.begun]
  | frame => simp
  | opened | joined => exact Nat.le_refl _

/-- A frame that had to wait is begun as it was asked for, once all batches in its place are
complete. -/
theorem Waits.begins (h : Waits desk after) {id : FrameId} {former : Frame}
    (found : desk.ring.frames[id.index.toNat]? = some former)
    (done : ∀ batch ∈ former.batches, after.ring.isComplete batch = true) :
    ∃ kept, after.ring.frames[id.index.toNat]? = some kept ∧ kept.bare = former.bare ∧
      (after.ring.beginFrameAs id).answer = .ok () ∧
      (after.ring.beginFrameAs id).ring = after.ring.turn id kept := by
  have bare : (after.ring.frames.map Frame.bare)[id.index.toNat]? = some former.bare := by
    rw [h.frames, List.getElem?_map, found, Option.map_some]
  rw [List.getElem?_map] at bare
  obtain ⟨kept, found', same⟩ := Option.map_eq_some_iff.1 bare
  rw [← (Frame.eq_of_bare same).1] at done
  exact ⟨kept, found', same,
    FrameRing.beginFrameAs_eq_ok h.idle found' (FrameRing.pendingOf_eq_zero.2 done)⟩

end

namespace Heap

variable {heap : Heap} {act : Act} {id : FrameId}

/-- An act that asks for a frame meets no tracker. -/
theorem meeting_of_asked {ring : FrameRing} (asked : act.asked? ring = some id)
    (tracker : Tracker) : (Deed.act act).meeting tracker = .act act := by
  cases act with
  | beginFrame | beginFrameAs _ => rfl
  | _ => cases asked

/-- What an act that asks for a frame does, unless a batch is open. -/
theorem step_of_asked (asked : act.asked? heap.desk.ring = some id) (free : heap.desk.draft = none)
    (done : (heap.desk.ring.beginFrameAs id).answer = .ok ()) :
    (∃ notes, heap.sight? (.act act) = some (.framed (.ok id) notes) ∨
        heap.sight? (.act act) = some (.done (.ok ()) notes)) ∧
      (heap.step (.act act)).desk =
        { heap.desk with
          ring := (heap.desk.ring.beginFrameAs id).ring
          begun := heap.desk.begun ++ [id] } := by
  have lent (sight : FrameRing → Sight) : heap.desk.ringSays sight = sight heap.desk.ring := by
    simp [ringSays, free]
  cases act with
  | beginFrame =>
    cases asked
    have begun : heap.desk.ring.beginFrame.answer = .ok heap.desk.ring.current.next := by
      simp only [FrameRing.beginFrame, done, Except.map]
    refine ⟨⟨heap.desk.ring.beginFrame.notes, .inl ?_⟩, framed_of_ok free begun⟩
    rw [← begun]
    exact congrArg some (lent _)
  | beginFrameAs id =>
    cases asked
    refine ⟨⟨(heap.desk.ring.beginFrameAs id).notes, .inr ?_⟩, framed_of_ok free done⟩
    rw [← done]
    exact congrArg some (lent _)
  | _ => cases asked

/-- An act that asks for a frame answers only if no batch is open. -/
theorem answer_of_asked {sight : Sight} {answer : Except RingError Unit}
    (asked : act.asked? heap.desk.ring = some id) (seen : heap.sight? (.act act) = some sight)
    (answered : sight.answer? = some answer) :
    heap.desk.draft = none ∧ (heap.desk.ring.beginFrameAs id).answer = answer := by
  cases act with
  | beginFrame =>
    cases asked
    cases seen
    obtain ⟨free, same⟩ := answer?_ringSays answered
    refine ⟨free, ?_⟩
    rw [← Option.some.inj same]
    simp only [FrameRing.beginFrame]
    cases (heap.desk.ring.beginFrameAs heap.desk.ring.current.next).answer <;> rfl
  | beginFrameAs id =>
    cases asked
    cases seen
    obtain ⟨free, same⟩ := answer?_ringSays answered
    exact ⟨free, Option.some.inj same⟩
  | _ => cases asked

/-- A deed does an act to the desk, or nothing. -/
theorem Sound.desk_cases (h : heap.Sound) (deed : Deed) :
    (heap.step deed).desk = heap.desk ∨ ∃ act, (heap.step deed).desk = heap.desk.step act := by
  have perform (act : Act) : (heap.perform act).desk = heap.desk ∨
      ∃ act', (heap.perform act).desk = heap.desk.step act' := by
    unfold Heap.perform
    split
    · exact .inr ⟨act, rfl⟩
    · exact .inl rfl
  cases deed with
  | drop n => exact .inl rfl
  | fetch id =>
    show (heap.fetch id).desk = heap.desk ∨ _
    unfold fetch
    split <;> exact .inl rfl
  | act act =>
    cases act with
    | openBatch queue others => exact .inr ⟨_, heap.desk_openBatch queue others⟩
    | beginBatch label => exact .inr ⟨_, h.desk_beginBatch label⟩
    | _ => exact perform _

end Heap

end Desk

/-! ## All runs

The first part says that the refused move can be left out. The second says that it succeeds when it
is repeated after the batches that it waited for are complete. -/

namespace World

/-- A run goes on with the last move. -/
@[simp] theorem run_concat (world : World) (moves : List Move) (move : Move) :
    world.run (moves ++ [move]) = (world.run moves).next move := by
  simp [run]

/-- Every move keeps objects apart. -/
theorem sound_next {world : World} (h : world.heap.Sound) (move : Move) :
    (world.next move).heap.Sound := by
  cases move with
  | deed deed => exact h.step _
  | track call => exact h

/-- Every run keeps objects apart, by induction on the moves. -/
theorem sound_run {world : World} (h : world.heap.Sound) (moves : List Move) :
    (world.run moves).heap.Sound := by
  induction moves using List.reverseRecOn with
  | nil => exact h
  | append_singleton moves move ih =>
    rw [run_concat]
    exact sound_next ih move

/-- A move changes the desk by an act or not at all. -/
theorem desk_cases {world : World} (h : world.heap.Sound) (move : Move) :
    (world.next move).heap.desk = world.heap.desk ∨
      ∃ act, (world.next move).heap.desk = world.heap.desk.step act := by
  cases move with
  | deed deed => exact h.desk_cases _
  | track call => exact .inl rfl

/-- Until a frame is begun, all moves leave the places as they are. -/
theorem waits_run {world : World} (h : world.heap.Sound) (free : world.heap.desk.draft = none)
    (idle : world.heap.desk.ring.phase ≠ .begun) (moves : List Move) :
    world.heap.desk.Waits (world.run moves).heap.desk ∨
      world.heap.desk.begun.length < (world.run moves).heap.desk.begun.length := by
  induction moves using List.reverseRecOn with
  | nil => exact .inl ⟨free, idle, rfl, rfl, rfl⟩
  | append_singleton moves move ih =>
    rw [run_concat]
    have sound := sound_run h moves
    rcases desk_cases sound move with same | ⟨act, same⟩
    · rwa [same]
    · rw [same]
      have change := Desk.change_step sound.orderly.numbered sound.orderly.whole act
      rcases ih with waits | past
      · exact waits.change change
      · exact .inr (Nat.lt_of_lt_of_le past change.length_begun)

/-- A move that is refused early leaves the world as it is. The move may be left out of every later
run. -/
theorem next_of_early {world : World} (h : world.heap.Sound) {move : Move} {sight : Desk.Sight}
    {error : FrameRing.RingError} (seen : world.sight? move = some sight)
    (refused : sight.answer? = some (.error error)) (early : error.early = true) :
    world.next move = world := by
  cases move with
  | track call =>
    cases seen
    cases refused
  | deed deed =>
    have heap := h.step_of_early seen refused early
    have tracker := Desk.Heap.trackerAfter_of_answer seen refused world.tracker
    show World.mk _ _ = world
    rw [heap, tracker]

/-- **An operation that is refused leaves everything as it was.** Take a world after any moves, and
one more move that a ring refuses for something that it finds early. The world is left as it was:
the ring with its frames, its slots, its batches and its surfaces, the objects behind the batches
and who holds what, and the tracker.

If the move asks for a frame and is refused because the place of that frame is in use, then it is
by batches of the frame that has the place. Take any moves after it that begin no frame, and let
all these batches be complete by then. The same move then begins the frame it asked for. -/
theorem refusal_leaves_world (config : FrameRing.Config) (surfaces : List Surface)
    (tracker : Tracker) (moves : List Move) :
    let world := (start config surfaces tracker).run moves
    let ring := world.heap.desk.ring
    (∀ move sight error, world.sight? move = some sight → sight.answer? = some (.error error) →
      error.early = true → world.next move = world) ∧
    ∀ act id sight frame pending, act.asked? ring = some id →
      world.sight? (.deed (.act act)) = some sight →
      sight.answer? = some (.error (.frameInFlight frame pending)) →
        ∃ former, ring.frames[id.index.toNat]? = some former ∧ frame = former.id ∧
          pending = ring.pendingOf former ∧ 0 < pending ∧
          ∀ later, let after := (world.next (.deed (.act act))).run later;
            after.heap.desk.begun = world.heap.desk.begun →
            (∀ batch ∈ former.batches, after.heap.desk.ring.isComplete batch = true) →
              ∃ kept, after.heap.desk.ring.frames[id.index.toNat]? = some kept ∧
                kept.bare = former.bare ∧
                (∃ notes, after.sight? (.deed (.act act)) = some (.framed (.ok id) notes) ∨
                  after.sight? (.deed (.act act)) = some (.done (.ok ()) notes)) ∧
                (after.next (.deed (.act act))).heap.desk =
                  { after.heap.desk with
                    ring := after.heap.desk.ring.turn id kept
                    begun := world.heap.desk.begun ++ [id] } := by
  intro world ring
  have sound : world.heap.Sound := sound_run (Desk.Heap.sound_start config surfaces) moves
  refine ⟨fun move sight error => next_of_early sound, ?_⟩
  intro act id sight frame pending asked seen refused
  have same : world.next (.deed (.act act)) = world := next_of_early sound seen refused rfl
  have seen : world.heap.sight? (.act act) = some sight :=
    (congrArg world.heap.sight? (Desk.Heap.meeting_of_asked asked _)).symm.trans seen
  obtain ⟨free, busy⟩ := Desk.Heap.answer_of_asked asked seen refused
  obtain ⟨idle, former, found, which, count, pending⟩ := FrameRing.of_frameInFlight busy
  refine ⟨former, found, which, count, pending, ?_⟩
  rw [same]
  intro later after none done
  have waits : world.heap.desk.Waits after.heap.desk :=
    (waits_run sound free idle later).resolve_right fun past =>
      Nat.ne_of_lt past (congrArg List.length none).symm
  obtain ⟨kept, found', bare, answer, turned⟩ := waits.begins found done
  have asked : act.asked? after.heap.desk.ring = some id := by
    rw [← asked]
    cases act <;> simp only [Desk.Act.asked?, waits.current, ring]
  obtain ⟨begins, desk⟩ := Desk.Heap.step_of_asked asked waits.free answer
  have met := Desk.Heap.meeting_of_asked asked after.tracker
  refine ⟨kept, found', bare, ?_, ?_⟩
  · show ∃ notes, after.heap.sight? _ = _ ∨ after.heap.sight? _ = _
    rw [met]
    exact begins
  · show (after.heap.step _).desk = _
    rw [met, desk, turned, none]

/-- The next frame has to wait for the slow batch, and is begun after that. -/
theorem refusal_leaves_world_slowFrame :
    let begins : Move := .deed (.act .beginFrame)
    let world := (start {} [] .empty).run (Desk.slowFrame.map fun act => .deed (.act act))
    (∃ notes, world.sight? begins =
      some (.framed (.error (.frameInFlight ⟨1, 1, 2⟩ 1)) notes)) ∧
    world.next begins = world ∧
    (((world.next begins).run [.deed (.act (.complete 0))]).next begins).heap.desk.begun =
      [⟨1, 1, 2⟩, ⟨2, 0, 2⟩, ⟨3, 1, 2⟩] := by
  intro begins world
  obtain ⟨still, retry⟩ := refusal_leaves_world {} [] .empty
    (Desk.slowFrame.map fun act => .deed (.act act))
  have refused : world.heap.desk.ring.beginFrame.answer =
      .error (.frameInFlight ⟨1, 1, 2⟩ 1) := by
    decide +kernel
  have seen : world.sight? begins = some (.framed (.error (.frameInFlight ⟨1, 1, 2⟩ 1))
      world.heap.desk.ring.beginFrame.notes) := by
    rw [← refused]
    rfl
  obtain ⟨former, found, -, -, -, again⟩ :=
    retry .beginFrame world.heap.desk.ring.current.next _ _ _ rfl seen rfl
  have done : ∀ frame ∈ world.heap.desk.ring.frames, ∀ batch ∈ frame.batches,
      ((world.next begins).run [.deed (.act (.complete 0))]).heap.desk.ring.isComplete batch =
        true := by
    decide +kernel
  obtain ⟨kept, -, -, -, desk⟩ := again [.deed (.act (.complete 0))] (by decide +kernel)
    fun batch mem => done former (List.mem_of_getElem? found) batch mem
  refine ⟨⟨_, seen⟩, still begins _ _ seen rfl rfl, ?_⟩
  rw [desk]
  show world.heap.desk.begun ++ [world.heap.desk.ring.current.next] = _
  decide +kernel

end World

end GpuSync
