import GpuSync.Proofs.Batch.Memory
import GpuSync.Proofs.Ring.Heap

/-!
# Objects that are used again

Whether a slot that is handed out again clears the object it has or gets another one depends on who
still has that object. This file shows that nobody can tell.

* `Desk.Heap.sight?` is what is to be seen of a deed. What a batch has to do with it is read off the
  object behind the batch.
* `Desk.sight?` is the same, read off the desk, which has no objects and no handles.
  `Desk.Heap.Sound.sight_eq` says that they agree, and `Desk.Heap.Sound.desk_step` that the desk
  goes its way whatever the objects are.
* `World` is a heap with the tracker that its batches share, and `Facade` a desk with it.
  **`World.follows_facade`** is about all runs: the facade tells what is to be seen.
* `Move.plain?` leaves out who holds what. The facade does not know it (`Facade.plain_moves`).
* **`recycled_is_new`** is the result: clearing a batch leaves nothing of it, and runs that differ
  in who holds what cannot be told apart.
-/

namespace GpuSync

/-- Opening a batch is the same whoever holds former ones. -/
theorem FrameRing.openBatch_congr (ring : FrameRing) (held held' : BatchId → Bool)
    (queue : Queue) : ring.openBatch held queue = ring.openBatch held' queue := by
  unfold openBatch
  simp only [recycle_eq_new]

namespace Desk

/-- What is to be seen of something done to a ring or to one of its batches. -/
inductive Sight where
  /-- A frame is begun, or not. -/
  | framed (answer : Except FrameRing.RingError FrameId) (notes : List Log.Entry)
  /-- Something is done to a frame that answers nothing. -/
  | done (answer : Except FrameRing.RingError Unit) (notes : List Log.Entry)
  /-- A batch is opened, with its place on the queue, or not. -/
  | opened (answer : Except FrameRing.RingError (Option Batch × Nat)) (notes : List Log.Entry)
  /-- Something is declared for the batch that is open. -/
  | declared (answer : Except BatchError Unit) (notes : List Log.Entry)
  /-- The batch that was open is begun. -/
  | begun (submission : Submission) (notes : List Log.Entry)
  /-- A batch is gated on a surface. -/
  | drawn (answer : Except FrameRing.RingError (Option SurfaceError)) (notes : List Log.Entry)
  /-- A call on a batch answers, records commands and writes to the log. -/
  | called (answer : Except BatchError Batch.Reply) (commands : List Command)
    (notes : List Log.Entry)
  /-- A batch is complete, and wakers are woken. -/
  | completed (woken : List Nat) (notes : List Log.Entry)
  /-- A batch is looked up. -/
  | found (submission : Option Submission)
  /-- A call on the tracker answers. -/
  | tracked (answer : Except Slot.PoolError Tracker.Reply)
  /-- There is nothing to be seen. -/
  | nothing

/-- What the ring says, unless it is lent to a batch that is open. -/
def ringSays (desk : Desk) (sight : FrameRing → Sight) : Sight :=
  if desk.draft.isSome then .nothing else sight desk.ring

/-- The same act with another tracker, if it meets one. -/
def Act.meeting (tracker : Tracker) : Act → Act
  | .declare _ declaration => .declare tracker declaration
  | .draw _ surface batch => .draw tracker surface batch
  | .work batch _ call => .work batch tracker call
  | act => act

namespace Deed

/-- The same deed with another tracker, if it meets one. -/
def meeting (tracker : Tracker) : Deed → Deed
  | .act done => .act (done.meeting tracker)
  | deed => deed

/-- A deed but for who holds what. Letting go of a batch is nothing then. -/
def plain? : Deed → Option Deed
  | .drop _ => none
  | .act (.openBatch queue _) => some (.act (.openBatch queue fun _ => false))
  | deed => some (deed.meeting .empty)

end Deed

/-- What is to be seen of a deed. `shown` has the submissions with their batches, `mine` the batch
that is open before, and `later` the one that is open afterwards. Who holds what is not to be
seen. -/
def seen (desk : Desk) (shown : Nat → Option Submission) (mine later : Option Batch) :
    Deed → Option Sight
  | .act .beginFrame =>
    some (desk.ringSays fun ring => .framed ring.beginFrame.answer ring.beginFrame.notes)
  | .act (.beginFrameAs id) =>
    some (desk.ringSays fun ring =>
      .done (ring.beginFrameAs id).answer (ring.beginFrameAs id).notes)
  | .act (.openBatch queue others) =>
    some (desk.ringSays fun ring =>
      .opened ((ring.openBatch others queue).answer.map fun draft => (later, draft.position))
        (ring.openBatch others queue).notes)
  | .act (.declare tracker declaration) =>
    some <| match mine with
    | none => .nothing
    | some batch =>
      .declared (batch.declareOne tracker declaration).answer
        (batch.declareOne tracker declaration).notes
  | .act (.beginBatch label) =>
    some <| match desk.draft, mine with
    | some draft, some batch =>
      let begun := desk.ring.beginBatch { draft with batch } label
      .begun begun.1 begun.2.2
    | _, _ => .nothing
  | .act .giveUp => some .nothing
  | .act (.draw tracker surfaceIndex n) =>
    some <| match desk.ring.surfaces[surfaceIndex]?, shown n with
    | some surface, some submission =>
      desk.ringSays fun ring =>
        let gated := ring.gate tracker surfaceIndex surface submission
        .drawn gated.answer gated.notes
    | _, _ => .nothing
  | .act (.work n tracker call) =>
    some <| match shown n with
    | none => .nothing
    | some submission =>
      let turn := submission.batch.perform tracker call
      .called turn.answer turn.commands turn.notes
  | .act (.complete n) =>
    some <| match desk.ring.submissions[n]? with
    | none => .nothing
    | some submission => .completed submission.complete.1 submission.complete.2.2
  | .act .endFrame =>
    some (desk.ringSays fun ring => .done ring.endFrame.answer ring.endFrame.notes)
  | .act .endFrameQuietly =>
    some (desk.ringSays fun ring => .done ring.endFrameQuietly.answer ring.endFrameQuietly.notes)
  | .drop _ => none
  | .fetch id => some (.found ((desk.ring.find? id).bind fun found => shown found.serial))

/-- The tracker after a deed. Calls on batches change it. -/
def trackerAfter (shown : Nat → Option Submission) (tracker : Tracker) : Deed → Tracker
  | .act (.work n _ call) =>
    match shown n with
    | none => tracker
    | some submission => (submission.batch.perform tracker call).tracker
  | _ => tracker

/-- The desk after a deed. Who holds what makes no difference to it. -/
def after (desk : Desk) : Deed → Desk
  | .act act => desk.step act
  | .drop _ | .fetch _ => desk

/-- What is to be seen of a deed, as far as the desk knows. -/
def sight? (desk : Desk) (deed : Deed) : Option Sight :=
  desk.seen (desk.ring.submissions[·]?) (desk.draft.map (·.batch))
    ((desk.after deed).draft.map (·.batch)) deed

namespace Heap

/-- The batch that is open, as its object shows it. -/
def open? (heap : Heap) : Option Batch :=
  if heap.desk.draft.isSome then heap.lent.bind (heap.objects[·]?) else none

/-- What is to be seen of a deed, as far as the objects show. -/
def sight? (heap : Heap) (deed : Deed) : Option Sight :=
  heap.desk.seen heap.view heap.open? (heap.step deed).open? deed

/-- A deed is permitted if a batch that it changes is held. -/
def Permits (heap : Heap) (deed : Deed) : Prop := ∀ n, deed.target? = some n → n ∈ heap.held

end Heap

/-! ## Who holds what

Whether the object of a slot is shared decides which object a batch gets, and nothing else. All
objects show what the desk knows, so the decision cannot be seen. -/

/-- Who holds what makes no difference to a desk that opens a batch. -/
theorem step_openBatch_congr (desk : Desk) (queue : Queue) (held held' : BatchId → Bool) :
    desk.step (.openBatch queue held) = desk.step (.openBatch queue held') := by
  unfold step
  dsimp only
  rw [FrameRing.openBatch_congr desk.ring held held' queue]

namespace Heap

section

variable {heap : Heap}

/-- A heap opens a batch on its desk as the desk does. -/
theorem desk_openBatch (heap : Heap) (queue : Queue) (others : BatchId → Bool) :
    (heap.openBatch queue others).desk = heap.desk.step (.openBatch queue others) := by
  unfold openBatch
  split
  · rfl
  · dsimp only
    split <;> exact step_openBatch_congr ..

/-- A heap begins the batch that is open as its desk does. -/
theorem Sound.desk_beginBatch (h : heap.Sound) (label : String) :
    (heap.beginBatch label).desk = heap.desk.step (.beginBatch label) := by
  unfold beginBatch
  cases held : heap.desk.draft with
  | none =>
    unfold Desk.step
    rw [held]
  | some draft =>
    obtain ⟨c, lent, -⟩ := h.lent draft held
    rw [lent]

/-- **The desk goes its way whatever the objects are.** -/
theorem Sound.desk_step (h : heap.Sound) {deed : Deed} (permitted : heap.Permits deed) :
    (heap.step deed).desk = heap.desk.after deed := by
  have perform {act : Act} (which : deed = .act act) :
      (heap.perform act).desk = heap.desk.step act := by
    subst which
    unfold Heap.perform
    rw [if_pos]
    cases target : act.target? with
    | none => rfl
    | some n => exact List.contains_iff_mem.2 (permitted n target)
  cases deed with
  | drop n => rfl
  | fetch id =>
    show (heap.fetch id).desk = heap.desk
    unfold fetch
    split <;> rfl
  | act act =>
    cases act with
    | openBatch queue others => exact heap.desk_openBatch queue others
    | beginBatch label => exact h.desk_beginBatch label
    | _ => exact perform rfl

/-- The object of the batch that is open shows it. -/
theorem Sound.open?_eq (h : heap.Sound) : heap.open? = heap.desk.draft.map (·.batch) := by
  unfold open?
  cases held : heap.desk.draft with
  | none => rfl
  | some draft =>
    obtain ⟨c, lent, shown, -⟩ := h.lent draft held
    rw [lent]
    exact shown

/-- Every deed keeps objects apart. -/
theorem Sound.step (h : heap.Sound) (deed : Deed) : (heap.step deed).Sound :=
  h.change (change_step h.orderly deed)

/-- **The objects show what the desk knows.** This covers the answers, the log and the commands of
any deed that is permitted. -/
theorem Sound.sight_eq (h : heap.Sound) {deed : Deed} (permitted : heap.Permits deed) :
    heap.sight? deed = heap.desk.sight? deed := by
  have shown (n : Nat) (target : deed.target? = some n) :
      heap.view n = heap.desk.ring.submissions[n]? :=
    h.view_eq (has_of_held (permitted n target))
  unfold Heap.sight? Desk.sight?
  rw [h.open?_eq, (h.step deed).open?_eq, h.desk_step permitted]
  cases deed with
  | drop n => rfl
  | fetch id =>
    cases looked : heap.desk.ring.find? id with
    | none => simp only [seen, looked, Option.bind_none]
    | some found =>
      have kept := (FrameRing.keeps_of_find? looked).2.2
      simp only [seen, looked, Option.bind_some, h.view_eq (has_iff.2 (.inr kept))]
  | act act =>
    cases act with
    | draw tracker surfaceIndex n => simp only [seen, shown n rfl]
    | work n tracker call => simp only [seen, shown n rfl]
    | _ => rfl

/-- A batch that is held shows the tracker what the desk has for it, so that both publish the same.
-/
theorem Sound.trackerAfter_eq (h : heap.Sound) {deed : Deed} (permitted : heap.Permits deed)
    (tracker : Tracker) :
    trackerAfter heap.view tracker deed =
      trackerAfter (heap.desk.ring.submissions[·]?) tracker deed := by
  cases deed with
  | act act =>
    cases act with
    | work n met call =>
      simp only [trackerAfter, h.view_eq (has_of_held (permitted n rfl))]
    | _ => rfl
  | _ => rfl

end

end Heap

end Desk

/-! ## With the tracker

What a batch publishes depends on what its object shows, and what its calls come to depends on the
tracker. So the world and its facade are run beside each other with the tracker as a part of both.
-/

/-- Something done to a ring, to one of its batches or to the tracker. -/
inductive Move where
  /-- A deed. If it meets a tracker, that is the one the batches share. -/
  | deed (deed : Desk.Deed)
  /-- A call on the tracker by somebody else. -/
  | track (call : Tracker.Call)

/-- A move but for who holds what. -/
def Move.plain? : Move → Option Move
  | .deed done => done.plain?.map .deed
  | .track call => some (.track call)

/-- A desk with the tracker that its batches share: a world without the objects. It has no objects,
so it does not matter in it which object a batch gets. -/
structure Facade where
  /-- The desk. -/
  desk : Desk
  /-- The tracker. -/
  tracker : Tracker

namespace Facade

/-- Goes on with one more move. -/
def next (facade : Facade) : Move → Facade
  | .deed deed =>
    { desk := facade.desk.after (deed.meeting facade.tracker)
      tracker := Desk.trackerAfter (facade.desk.ring.submissions[·]?) facade.tracker
        (deed.meeting facade.tracker) }
  | .track call => { facade with tracker := (facade.tracker.perform call).2 }

/-- What is to be seen of one more move. -/
def sight? (facade : Facade) : Move → Option Desk.Sight
  | .deed deed => facade.desk.sight? (deed.meeting facade.tracker)
  | .track call => some (.tracked (facade.tracker.perform call).1)

/-- Makes moves in order. -/
def run (facade : Facade) (moves : List Move) : Facade := moves.foldl next facade

/-- What is to be seen while moves are made, in order. -/
def watch (facade : Facade) : List Move → List Desk.Sight
  | [] => []
  | move :: rest => (facade.sight? move).toList ++ (facade.next move).watch rest

end Facade

/-- A heap with the tracker that its batches share. Everything that a program can do with the ring,
its batches and the tracker is a move in it. -/
structure World where
  /-- The heap. -/
  heap : Desk.Heap
  /-- The tracker. -/
  tracker : Tracker

namespace World

/-- A world before anything was done. -/
def start (config : FrameRing.Config) (surfaces : List Surface) (tracker : Tracker) : World :=
  ⟨.start config surfaces, tracker⟩

/-- What the desk knows. -/
def facade (world : World) : Facade := ⟨world.heap.desk, world.tracker⟩

/-- Goes on with one more move. -/
def next (world : World) : Move → World
  | .deed deed =>
    { heap := world.heap.step (deed.meeting world.tracker)
      tracker := Desk.trackerAfter world.heap.view world.tracker (deed.meeting world.tracker) }
  | .track call => { world with tracker := (world.tracker.perform call).2 }

/-- What is to be seen of one more move. -/
def sight? (world : World) : Move → Option Desk.Sight
  | .deed deed => world.heap.sight? (deed.meeting world.tracker)
  | .track call => some (.tracked (world.tracker.perform call).1)

/-- Makes moves in order. -/
def run (world : World) (moves : List Move) : World := moves.foldl next world

/-- What is to be seen while moves are made, in order. -/
def watch (world : World) : List Move → List Desk.Sight
  | [] => []
  | move :: rest => (world.sight? move).toList ++ (world.next move).watch rest

/-- A move is permitted if a batch that it changes is held. -/
def Permits (world : World) : Move → Prop
  | .deed deed => world.heap.Permits deed
  | .track _ => True

/-- Moves are permitted one after another. -/
def PermitsAll (world : World) : List Move → Prop
  | [] => True
  | move :: rest => world.Permits move ∧ (world.next move).PermitsAll rest

section

variable {world : World}

/-- To meet another tracker takes no other permission. -/
theorem permits_meeting {heap : Desk.Heap} {deed : Desk.Deed} (permitted : heap.Permits deed)
    (tracker : Tracker) : heap.Permits (deed.meeting tracker) := by
  intro n target
  refine permitted n (Eq.trans ?_ target)
  cases deed with
  | act act => cases act <;> rfl
  | _ => rfl

/-- **One more move.** It goes as the facade says, and so does what is to be seen of it. -/
theorem follows_facade_next (h : world.heap.Sound) {move : Move} (permitted : world.Permits move) :
    (world.next move).facade = world.facade.next move ∧ (world.next move).heap.Sound ∧
      world.sight? move = world.facade.sight? move := by
  cases move with
  | track call => exact ⟨rfl, h, rfl⟩
  | deed deed =>
    have permitted := permits_meeting permitted world.tracker
    refine ⟨?_, h.step _, h.sight_eq permitted⟩
    show Facade.mk _ _ = Facade.mk _ _
    rw [Facade.mk.injEq]
    exact ⟨h.desk_step permitted, h.trackerAfter_eq permitted world.tracker⟩

/-- **All runs go as the facade says**, whatever the objects are. A batch can be changed only while
it is held, which is what the moves have to be permitted for. -/
theorem follows_facade (h : world.heap.Sound) {moves : List Move}
    (permitted : world.PermitsAll moves) :
    (world.run moves).facade = world.facade.run moves ∧ (world.run moves).heap.Sound ∧
      world.watch moves = world.facade.watch moves := by
  induction moves generalizing world with
  | nil => exact ⟨rfl, h, rfl⟩
  | cons move rest ih =>
    obtain ⟨first, others⟩ := permitted
    obtain ⟨same, sound, seen⟩ := follows_facade_next h first
    obtain ⟨same', sound', seen'⟩ := ih sound others
    refine ⟨same'.trans (congrArg (Facade.run · rest) same), sound', ?_⟩
    show (world.sight? move).toList ++ (world.next move).watch rest =
      (world.facade.sight? move).toList ++ (world.facade.next move).watch rest
    rw [seen, seen', same]

end

end World

/-! ## Runs that differ in who holds what

Two runs that differ only in what is held and let go have the same facade. As each world shows what
its facade does, the two look the same. -/

namespace Facade

/-- Letting go of a batch is nothing to the facade. -/
theorem next_of_plain_none {move : Move} (nothing : move.plain? = none) (facade : Facade) :
    facade.next move = facade ∧ facade.sight? move = none := by
  cases move with
  | track call => cases nothing
  | deed deed =>
    cases deed with
    | drop n => exact ⟨rfl, rfl⟩
    | fetch id => cases nothing
    | act act => cases act <;> cases nothing

/-- A move is to the facade what it is but for who holds what. -/
theorem next_of_plain_some {move plain : Move} (same : move.plain? = some plain)
    (facade : Facade) :
    facade.next move = facade.next plain ∧ facade.sight? move = facade.sight? plain := by
  cases move with
  | track call =>
    cases same
    exact ⟨rfl, rfl⟩
  | deed deed =>
    cases deed with
    | drop n => cases same
    | fetch id =>
      cases same
      exact ⟨rfl, rfl⟩
    | act act =>
      cases act with
      | openBatch queue others =>
        cases same
        have step := facade.desk.step_openBatch_congr queue others fun _ => false
        have answer (ring : FrameRing) :=
          ring.openBatch_congr others (fun _ => false) queue
        refine ⟨congrArg (Facade.mk · _) step, ?_⟩
        simp only [sight?, Desk.sight?, Desk.Deed.meeting, Desk.Act.meeting, Desk.after, Desk.seen,
          step, answer]
      | _ =>
        cases same
        exact ⟨rfl, rfl⟩

/-- **The facade does not know who holds what.** Moves that are the same but for that make the same
of it, and look the same. -/
theorem plain_moves (facade : Facade) (moves : List Move) :
    facade.run moves = facade.run (moves.filterMap Move.plain?) ∧
      facade.watch moves = facade.watch (moves.filterMap Move.plain?) := by
  induction moves generalizing facade with
  | nil => exact ⟨rfl, rfl⟩
  | cons move rest ih =>
    cases plain : move.plain? with
    | none =>
      obtain ⟨same, unseen⟩ := next_of_plain_none plain facade
      rw [List.filterMap_cons_none plain, ← (ih facade).1, ← (ih facade).2]
      show (facade.next move).run rest = _ ∧
        (facade.sight? move).toList ++ (facade.next move).watch rest = _
      rw [same, unseen]
      exact ⟨rfl, rfl⟩
    | some plain' =>
      obtain ⟨same, seen⟩ := next_of_plain_some plain facade
      rw [List.filterMap_cons_some plain]
      show (facade.next move).run rest = (facade.next plain').run _ ∧
        (facade.sight? move).toList ++ (facade.next move).watch rest =
          (facade.sight? plain').toList ++ (facade.next plain').watch _
      rw [same, seen, ← (ih (facade.next plain')).1, ← (ih (facade.next plain')).2]
      exact ⟨rfl, rfl⟩

end Facade

/-- **A batch that is used again is a new one.** Take a batch in memory with its tracker and its
command buffers, after any acts since it was new, resets among them. Clear it for another identity
and queue. Nothing is left in memory of what was there, so whatever is done from then on leads to
the same and looks the same as with new memory; and a batch in memory looks like the batch that it
shows.

Take a ring and two series of moves that are the same but for who holds what: callers let go of
batches at other times, and others have other objects. Every act on a batch is by somebody who holds
it. Then whether slots are handed out with the objects they had or with others makes no difference:
everything that is to be seen on the way is the same, and so are the ring and the tracker at the
end, the batch that is open, and the batches that somebody has in both, as their objects show
them. -/
theorem recycled_is_new :
    (∀ (first id : BatchId) (queue queue' : Queue) (tracker : Tracker)
        (contexts : Nat → Transcript) (before acts : List Scene.Act),
      let met := (Stage.mk (.new first queue) tracker contexts).run before
      let recycled := met.next (.reset id queue')
      let fresh : Stage := { met with memory := .new id queue' }
      met.shown = (Scene.mk (.new first queue) tracker contexts).run before ∧
        recycled.run acts = fresh.run acts ∧ recycled.watch acts = fresh.watch acts ∧
        recycled.watch acts = (Scene.mk (.new id queue') met.tracker met.contexts).watch acts) ∧
    ∀ (config : FrameRing.Config) (surfaces : List Surface) (tracker : Tracker)
      (moves moves' : List Move),
      let start := World.start config surfaces tracker
      let one := start.run moves
      let other := start.run moves'
      moves.filterMap Move.plain? = moves'.filterMap Move.plain? →
      start.PermitsAll moves → start.PermitsAll moves' →
        start.watch moves = start.watch moves' ∧ one.heap.desk = other.heap.desk ∧
        one.tracker = other.tracker ∧ one.heap.open? = other.heap.open? ∧
        ∀ n, one.heap.has n = true → other.heap.has n = true →
          one.heap.view n = other.heap.view n := by
  refine ⟨?_, ?_⟩
  · intro first id queue queue' tracker contexts before acts met recycled fresh
    let start : Stage := ⟨.new first queue, tracker, contexts⟩
    have whole : start.memory.Faithful := Batch.Memory.faithful_new first queue
    have shown := (Stage.shown_run whole before).1
    have same : recycled = fresh :=
      congrArg (Stage.mk · met.tracker met.contexts) (met.memory.reset_eq_new id queue')
    refine ⟨shown, by rw [same], by rw [same], ?_⟩
    rw [same]
    exact Stage.watch_eq (Batch.Memory.faithful_new id queue') acts
  · intro config surfaces tracker moves moves' start one other alike permitted permitted'
    have sound : start.heap.Sound := Desk.Heap.sound_start config surfaces
    obtain ⟨ended, sound₁, seen⟩ := World.follows_facade sound permitted
    obtain ⟨ended', sound₂, seen'⟩ := World.follows_facade sound permitted'
    obtain ⟨run, watch⟩ := start.facade.plain_moves moves
    obtain ⟨run', watch'⟩ := start.facade.plain_moves moves'
    have facades : one.facade = other.facade := by
      rw [ended, ended', run, run', alike]
    have desks : one.heap.desk = other.heap.desk := congrArg Facade.desk facades
    refine ⟨?_, desks, congrArg Facade.tracker facades, ?_, fun n has has' => ?_⟩
    · rw [seen, seen', watch, watch', alike]
    · rw [sound₁.open?_eq, sound₂.open?_eq, desks]
    · rw [sound₁.view_eq has, sound₂.view_eq has', desks]

/-- A batch that leaves a task which never began, in a frame whose place has come round. -/
def leftOver : List Move :=
  [.deed (.act .beginFrame), .deed (.act (.openBatch .graphics fun _ => false)),
    .deed (.act (.beginBatch "first")), .deed (.act (.work 0 .empty (.setRelaxed false))),
    .deed (.act (.work 0 .empty .createTask)), .deed (.act (.complete 0)), .deed (.act .endFrame),
    .deed (.act .beginFrame), .deed (.act .endFrame), .deed (.act .beginFrame)]

/-- Opens the next batch. -/
def openAgain : Move := .deed (.act (.openBatch .graphics fun _ => false))

/-- The next batch gets another object as long as the first one is held, and that of the first one
if nobody holds it. -/
theorem recycled_is_new_leftOver :
    let start := World.start {} [] .empty
    let held := leftOver ++ [openAgain]
    let dropped := leftOver ++ [.deed (.drop 0), openAgain]
    (start.run held).heap.objects.length = 2 ∧ (start.run dropped).heap.objects.length = 1 ∧
      start.watch held = start.watch dropped ∧
      (start.run held).heap.open? = (start.run dropped).heap.open? := by
  intro start held dropped
  have permitted : start.PermitsAll held := by
    refine ⟨?_, ?_, ?_, ?_, ?_, ?_, ?_, ?_, ?_, ?_, ?_, trivial⟩
    all_goals
      rintro n target
      cases target <;> decide +kernel
  have permitted' : start.PermitsAll dropped := by
    refine ⟨?_, ?_, ?_, ?_, ?_, ?_, ?_, ?_, ?_, ?_, ?_, ?_, trivial⟩
    all_goals
      rintro n target
      cases target <;> decide +kernel
  obtain ⟨seen, -, -, open', -⟩ :=
    recycled_is_new.2 {} [] .empty held dropped rfl permitted permitted'
  exact ⟨by decide +kernel, by decide +kernel, seen, open'⟩

end GpuSync
