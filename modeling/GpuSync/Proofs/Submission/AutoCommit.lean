import GpuSync.Proofs.Submission.Bench
import GpuSync.Proofs.Tracker.Refinement
import GpuSync.Ring.Batches

/-!
# When a batch is committed

A batch commits itself as soon as all tasks created so far are finished and one of them was to be
the last one. This file follows a batch from its beginning through any deeds (`Bench.Deed`), with
any number of tasks waiting or being recorded at once.

* `Bench.opened` is where a run starts: a batch that was declared and begun, with no task yet.
* `Bench.CommitsAt` and `Bench.PublishesAt` say which deed commits a batch, and what it publishes.
* `Bench.body` are the deeds on one task that is run at once, and `Bench.run_body` says that they
  come to `Recording.run`.
* **`Bench.commits_exactly_when_due`** is the main result.
-/

namespace GpuSync

open Submission (Task)

namespace Tracker

/-- A tracker that stands for some table. Which table it is does not matter for what a batch
publishes. -/
def Tabular (tracker : Tracker) : Prop := ∃ table, Represents tracker table

/-- A call leaves a tracker standing for a table. -/
theorem Tabular.perform {tracker : Tracker} (h : tracker.Tabular) (call : Call) :
    (tracker.perform call).2.Tabular := by
  obtain ⟨table, represents⟩ := h
  exact ⟨_, (represents.perform call).2⟩

/-- So do changes of entries. -/
theorem Tabular.modifyAll {tracker : Tracker} (h : tracker.Tabular) (changes : Changes) :
    (tracker.modifyAll changes).Tabular := by
  induction changes generalizing tracker with
  | nil => exact h
  | cons change rest ih =>
    obtain ⟨table, represents⟩ := h
    rw [modifyAll_cons]
    exact ih ⟨_, represents.modify change.1 change.2⟩

/-- So does a commit, which changes entries only. -/
theorem Tabular.commit {tracker : Tracker} (h : tracker.Tabular) (batch : Batch) :
    (batch.perform tracker .commit).tracker.Tabular := by
  rw [Batch.commit_tracker_eq]
  exact h.modifyAll _

end Tracker

namespace Batch

/-- A batch that has no tasks and was not committed. Such a batch has nothing that could be
finished, so committing it is not due. -/
structure Blank (user : BatchUse) (batch : Batch) : Prop where
  /-- Which batch it is, on which queue. -/
  user : batch.user = user
  /-- It was not committed. -/
  open' : batch.committed = false
  /-- It has no tasks. -/
  scopes : batch.scopes = []
  /-- No task is marked. -/
  last : batch.lastTask = none

section

variable {user : BatchUse} {batch : Batch}

/-- To use a resource leaves a batch blank. -/
theorem Blank.use (h : Blank user batch) (tracker : Tracker) (key : Key) (initial final : Usage) :
    Blank user (batch.use tracker key initial final).batch := by
  unfold Batch.use
  split
  · exact h
  split
  · split
    · exact h
    · exact ⟨h.user, h.open', h.scopes, h.last⟩
  · split
    · exact h
    · exact ⟨h.user, h.open', h.scopes, h.last⟩

/-- To use several resources leaves a batch blank. -/
theorem Blank.useMany (h : Blank user batch) (tracker : Tracker)
    (uses : List (Key × Usage × Usage)) : Blank user (batch.useMany tracker uses).batch := by
  induction uses generalizing batch with
  | nil => exact h
  | cons use rest ih =>
    obtain ⟨key, initial, final⟩ := use
    have first := h.use tracker key initial final
    unfold Batch.useMany
    dsimp only
    cases (batch.use tracker key initial final).answer with
    | error reason => exact first
    | ok passage => exact ih first

/-- Declarations create no task and commit nothing. -/
theorem Blank.declareAll (h : Blank user batch) (tracker : Tracker)
    (declarations : List Declaration) :
    Blank user (batch.declareAll tracker declarations).batch := by
  induction declarations generalizing batch with
  | nil => exact h
  | cons declaration rest ih =>
    have first : Blank user (batch.declareOne tracker declaration).batch := by
      cases declaration with
      | use key initial final => exact h.useMany tracker _
      | useAtRest key => exact h.useMany tracker _
      | useMany uses => exact h.useMany tracker uses
      | upload | readback | strict => exact ⟨h.user, h.open', h.scopes, h.last⟩
    unfold Batch.declareAll
    dsimp only
    cases (batch.declareOne tracker declaration).answer with
    | error reason => exact first
    | ok _ => exact ih first

end

end Batch

namespace Bench

/-- A batch that was declared and is begun in a frame, with no task yet. -/
def opened (ring : FrameRing) (draft : FrameRing.Draft) (label : String) (tracker : Tracker)
    (transcript : Transcript) : Bench where
  recording := { submission := (ring.beginBatch draft label).1, tracker, transcript }

/-- A batch that was just begun has a bench with its counters right: there is no task. -/
theorem sound_opened {user : BatchUse} (ring : FrameRing) {draft : FrameRing.Draft}
    (blank : Batch.Blank user draft.batch) (label : String) (tracker : Tracker)
    (transcript : Transcript) : (opened ring draft label tracker transcript).Sound := by
  have none : (opened ring draft label tracker transcript).batch.taskCount = 0 :=
    congrArg List.length blank.scopes
  have unmarked : (opened ring draft label tracker transcript).batch.lastTask = .none := blank.last
  refine ⟨⟨rfl, none, ?_, nofun, nofun, .nil, ?_⟩, ?_⟩
  · rw [none]
    exact Nat.zero_le _
  · rw [unmarked]
    constructor
    · nofun
    · rintro ⟨_, mem, _⟩
      cases mem
  · rintro ⟨-, -, _, mem, -⟩
    cases mem

/-! ## A task that is run with nothing in between

Tasks are recorded by deeds, with anything in between. A body that runs at once is the special case
that callers use most, and is connected with the deeds here. -/

/-- Works in a row within a running task come to what they do to its recording. -/
theorem run_works (bench : Bench) {index : Nat} {task : Task}
    (found : pick? bench.running index = some task) (works : List Work) :
    bench.run (works.map (.work index)) =
      { bench with
        recording := works.foldl (fun recording work => work.record task.index recording)
          bench.recording } := by
  induction works generalizing bench with
  | nil => rfl
  | cons work rest ih =>
    have first : bench.step (.work index work) =
        { bench with recording := work.record task.index bench.recording } := by
      unfold step
      dsimp only
      rw [found]
    show (bench.step (.work index work)).run (rest.map (.work index)) = _
    rw [first]
    exact ih { bench with recording := work.record task.index bench.recording } found

/-- The deeds on a task that is run at once, by a body that does some works and then answers. -/
def body (index : Nat) (works : List Work) (answer : Except BatchError Unit) : List Deed :=
  .start index :: works.map (.work index) ++ [.close index answer]

/-- Beginning a task, working in it and closing it, with nothing else in between, is running it. -/
theorem run_body {bench : Bench} (h : bench.Sound) {index : Nat} {task : Task}
    (found : pick? bench.waiting index = some task) (works : List Work)
    (answer : Except BatchError Unit) :
    (bench.run (body index works answer)).recording =
      (Recording.run task (fun recording => (answer,
          works.foldl (fun recording work => work.record task.index recording) recording))
        bench.recording).2 := by
  have mem := mem_of_pick? found
  have named : task.index = index := by simpa using List.find?_some found
  obtain ⟨created, unbegun⟩ := h.tallied.unbegun task mem
  obtain ⟨ok, -⟩ :=
    Recording.start_of_unbegun (Nat.lt_of_lt_of_le created h.tallied.few) created unbegun
  have pair : Recording.start task bench.recording =
      (.ok (), (Recording.start task bench.recording).2) := Prod.ext ok rfl
  let started := bench.launch task (Recording.start task bench.recording).2
  have start : bench.step (.start index) = started := by
    unfold step
    dsimp only
    rw [found]
    dsimp only
    rw [pair]
  -- No task that runs has the index, since that of a waiting task was not begun. So closing finds
  -- the task that was begun.
  have found' : pick? started.running index = some task := by
    show List.find? _ (bench.running ++ [task]) = some task
    rw [List.find?_append, List.find?_eq_none.2, Option.none_or]
    · simp [named]
    · intro other runs same
      have begun := h.tallied.begun other runs
      rw [show other.index = task.index by simpa [named] using same, unbegun] at begun
      cases begun
  unfold body
  rw [run_append]
  show ((((bench.step (.start index)).run (works.map (.work index))).step
    (.close index answer))).recording = _
  rw [start, run_works started found' works]
  unfold step Recording.run
  dsimp only
  rw [found', pair]
  rfl

/-! ## The deed that commits

That a batch is committed is a property of a prefix of the deeds. As it can only change from no to
yes, it changes at one deed at most, and at that deed everything is published. -/

/-- The deed with this number commits the batch. The batch was open before the deed and is committed
after it. -/
def CommitsAt (bench : Bench) (deeds : List Deed) (n : Nat) : Prop :=
  n < deeds.length ∧ (bench.run (deeds.take n)).batch.committed = false ∧
    (bench.run (deeds.take (n + 1))).batch.committed = true

/-- The deed with this number publishes the batch. -/
structure PublishesAt (bench : Bench) (deeds : List Deed) (n : Nat) (user : BatchUse)
    (batch : Batch) : Prop where
  /-- All of the batch is published, once, to the tracker that the deed meets. -/
  publishes : batch.Publishes user (bench.run (deeds.take n)).recording.tracker
  /-- That is what becomes of the tracker. -/
  tracker : (bench.run (deeds.take (n + 1))).recording.tracker =
    (batch.perform (bench.run (deeds.take n)).recording.tracker .commit).tracker
  /-- That is what becomes of the batch. -/
  after : (bench.run (deeds.take (n + 1))).batch = { batch with committed := true }
  /-- Whatever was declared until then is published in the final usage declared for it. -/
  finals : ∀ m ≤ n, Batch.KeepsFinals (bench.run (deeds.take m)).batch batch

section

variable {begun : Bench} {deeds : List Deed}

/-- The first deeds and one more. -/
theorem run_take_succ (begun : Bench) {n : Nat} (bound : n < deeds.length) :
    begun.run (deeds.take (n + 1)) = (begun.run (deeds.take n)).step deeds[n] := by
  rw [← List.take_append_getElem bound, run_append]

/-- There are no more deeds to do. -/
theorem run_take_of_le (begun : Bench) {n : Nat} (past : deeds.length ≤ n) :
    begun.run (deeds.take (n + 1)) = begun.run (deeds.take n) := by
  rw [List.take_of_length_le past, List.take_of_length_le (Nat.le_succ_of_le past)]

/-- A batch that is committed stays so. -/
theorem committed_mono (h : begun.Sound) {m n : Nat} (le : m ≤ n)
    (done : (begun.run (deeds.take m)).batch.committed = true) :
    (begun.run (deeds.take n)).batch.committed = true := by
  induction le with
  | refl => exact done
  | @step n _ ih =>
    by_cases bound : n < deeds.length
    · rw [run_take_succ begun bound]
      exact ((h.run _).committed_step _).2 (.inl ih)
    · rw [run_take_of_le begun (Nat.not_lt.1 bound)]
      exact ih

/-- A deed takes no resource out of the batch, and changes no final usage once it was declared. -/
theorem keepsFinals_step (h : begun.Sound) (deed : Deed) :
    Batch.KeepsFinals begun.batch (begun.step deed).batch := by
  by_cases own : ∀ call, deed ≠ .elsewhere call
  · exact (h.advances own).finals
  · obtain ⟨call, rfl⟩ := by simpa using own
    exact .refl _

/-- A deed does not change on whose behalf resources are used. -/
theorem user_step (h : begun.Sound) (deed : Deed) :
    (begun.step deed).batch.user = begun.batch.user := by
  by_cases own : ∀ call, deed ≠ .elsewhere call
  · exact (h.advances own).user
  · obtain ⟨call, rfl⟩ := by simpa using own
    rfl

/-- Nor do deeds in a row change what was to become of a resource. -/
theorem keepsFinals_run (h : begun.Sound) {m n : Nat} (le : m ≤ n) :
    Batch.KeepsFinals (begun.run (deeds.take m)).batch (begun.run (deeds.take n)).batch := by
  induction le with
  | refl => exact .refl _
  | @step n _ ih =>
    by_cases bound : n < deeds.length
    · rw [run_take_succ begun bound]
      exact ih.trans (keepsFinals_step (h.run _) _)
    · rw [run_take_of_le begun (Nat.not_lt.1 bound)]
      exact ih

/-- Nor do they change on whose behalf resources are used. -/
theorem user_run (h : begun.Sound) (deeds : List Deed) :
    (begun.run deeds).batch.user = begun.batch.user := by
  induction deeds using List.reverseRecOn with
  | nil => rfl
  | append_singleton deeds deed ih =>
    rw [run_append, user_step (h.run deeds), ih]

/-- A tracker keeps standing for a table. -/
theorem tabular_run (h : begun.Sound) (tabular : begun.recording.tracker.Tabular)
    (deeds : List Deed) : (begun.run deeds).recording.tracker.Tabular := by
  induction deeds using List.reverseRecOn with
  | nil => exact tabular
  | append_singleton deeds deed ih =>
    rw [run_append]
    by_cases own : ∀ call, deed ≠ .elsewhere call
    · rcases ((h.run deeds).advances own).publishing with ⟨-, same⟩ | ⟨-, batch, -, -, -, made⟩
      · rw [same]
        exact ih
      · rw [made]
        exact ih.commit batch
    · obtain ⟨call, rfl⟩ := by simpa using own
      exact ih.perform call

/-- A batch is committed once it was told to be or that was due, and not before. -/
theorem committed_take (h : begun.Sound) (open' : begun.batch.committed = false)
    (fresh : ¬begun.Due) {n : Nat} (bound : n ≤ deeds.length) :
    (begun.run (deeds.take n)).batch.committed = true ↔
      .commit ∈ deeds.take n ∨ ∃ m ≤ n, (begun.run (deeds.take m)).Due := by
  -- On the number of deeds. One deed commits the batch if it is told to or makes that due.
  induction n with
  | zero => simp [open', fresh]
  | succ n ih =>
    have split : (∃ m ≤ n + 1, (begun.run (deeds.take m)).Due) ↔
        (∃ m ≤ n, (begun.run (deeds.take m)).Due) ∨ (begun.run (deeds.take (n + 1))).Due := by
      constructor
      · rintro ⟨m, le, due⟩
        rcases Nat.lt_or_eq_of_le le with less | rfl
        · exact .inl ⟨m, Nat.le_of_lt_succ less, due⟩
        · exact .inr due
      · rintro (⟨m, le, due⟩ | due)
        · exact ⟨m, Nat.le_succ_of_le le, due⟩
        · exact ⟨n + 1, Nat.le_refl _, due⟩
    rw [split, run_take_succ begun bound, (h.run _).committed_step, ih (Nat.le_of_succ_le bound),
      ← List.take_append_getElem bound]
    simp only [List.mem_append, List.mem_singleton]
    rw [eq_comm (a := deeds[n])]
    exact or_or_or_comm

/-- Only one deed commits a batch. -/
theorem commitsAt_unique (h : begun.Sound) {m n : Nat} (commits : begun.CommitsAt deeds m)
    (commits' : begun.CommitsAt deeds n) : m = n := by
  have le {m n : Nat} (commits : begun.CommitsAt deeds m) (commits' : begun.CommitsAt deeds n) :
      m ≤ n := by
    by_contra less
    have done := committed_mono h (Nat.not_le.1 less) commits'.2.2
    rw [commits.2.1] at done
    cases done
  exact Nat.le_antisymm (le commits commits') (le commits' commits)

/-- A batch that was open and is committed was committed by some deed: by induction, at the first
one after which it is. -/
theorem exists_commitsAt (open' : begun.batch.committed = false) {n : Nat}
    (bound : n ≤ deeds.length) (done : (begun.run (deeds.take n)).batch.committed = true) :
    ∃ m, begun.CommitsAt deeds m := by
  induction n with
  | zero =>
    rw [List.take_zero, run_nil, open'] at done
    cases done
  | succ n ih =>
    by_cases before : (begun.run (deeds.take n)).batch.committed = true
    · exact ih (Nat.le_of_succ_le bound) before
    · exact ⟨n, bound, eq_false_of_ne_true before, done⟩

/-- The deed that commits a batch publishes it. What was declared by then is published all at once,
with the final usages that were declared. -/
theorem publishesAt_of_commitsAt (h : begun.Sound) (tabular : begun.recording.tracker.Tabular)
    {n : Nat} (commits : begun.CommitsAt deeds n) :
    ∃ batch, begun.PublishesAt deeds n begun.batch.user batch := by
  obtain ⟨bound, before, after⟩ := commits
  rw [run_take_succ begun bound] at after
  -- Calls on the tracker alone commit no batch, and so the deed was one on this batch.
  have own : ∀ call, deeds[n] ≠ .elsewhere call := by
    intro call same
    rw [same] at after
    have unchanged : (begun.run (deeds.take n)).batch.committed = true := after
    rw [before] at unchanged
    cases unchanged
  rcases ((h.run (deeds.take n)).advances own).publishing with
    ⟨same, -⟩ | ⟨-, batch, open', user, made, tracker⟩
  -- A deed that publishes nothing leaves the mark of the batch as it was.
  · have unchanged : (begun.run (deeds.take n)).batch.committed = true := same.symm.trans after
    rw [before] at unchanged
    cases unchanged
  · have user' : batch.user = begun.batch.user := user.trans (user_run h _)
    obtain ⟨table, represents⟩ := tabular_run h tabular (deeds.take n)
    refine ⟨batch, ⟨?_, ?_, ?_, fun m le => ?_⟩⟩
    · rw [← user']
      exact Batch.publishes_of_open batch represents.wellFormed open'
    · rw [run_take_succ begun bound]
      exact tracker
    · rw [run_take_succ begun bound]
      exact made
    · have kept : Batch.KeepsFinals (begun.run (deeds.take m)).batch
          (begun.run (deeds.take (n + 1))).batch := keepsFinals_run h (Nat.le_succ_of_le le)
      rw [run_take_succ begun bound] at kept
      intro key passage known
      obtain ⟨later, known', same⟩ := kept key passage known
      refine ⟨later, ?_, same⟩
      rw [show ((begun.run (deeds.take n)).step deeds[n]).batch = _ from made] at known'
      exact known'

/-- A deed of the batch's own that does not commit it leaves the tracker as it is. -/
theorem tracker_of_not_commitsAt (h : begun.Sound) {n : Nat} (bound : n < deeds.length)
    (own : ∀ call, deeds[n] ≠ .elsewhere call) (quiet : ¬begun.CommitsAt deeds n) :
    (begun.run (deeds.take (n + 1))).recording.tracker =
      (begun.run (deeds.take n)).recording.tracker := by
  rcases ((h.run (deeds.take n)).advances own).publishing with
    ⟨-, same⟩ | ⟨before, batch, -, -, made, -⟩
  · rw [run_take_succ begun bound]
    exact same
  · refine absurd ⟨bound, before, ?_⟩ quiet
    rw [run_take_succ begun bound]
    exact congrArg Batch.committed made

end

/-- **A batch is committed exactly when it should be.** Take a batch that was declared and begun,
and any deeds done to it through its tasks, while others use the tracker.

After the deeds, the batch is committed if and only if it was told to be, or there was a time at
which all tasks created so far were finished and one of them was to be the last one. One deed
commits it, and that one publishes all that was declared until then; no other deed of the batch's
own changes the tracker. Once the batch is committed, no further task is created.

A task may be begun, worked on and closed with other deeds in between, as its recording takes its
time. Running it at once is the case where there are none: a task that waits after the deeds is run
by its deeds as by `Recording.run`, and so all of the above holds of it. -/
theorem commits_exactly_when_due (ring : FrameRing) (id : BatchId) (queue : Queue)
    (declaredWith : Tracker) (declarations : List Batch.Declaration) (position : Nat)
    (label : String) (trackerCalls : List Tracker.Call) (transcript : Transcript)
    (deeds : List Deed) :
    let batch := ((Batch.new id queue).declareAll declaredWith declarations).batch
    let tracker := (Tracker.runWith Tracker.perform .empty trackerCalls).2
    let begun := opened ring ⟨batch, position⟩ label tracker transcript
    let bench := begun.run deeds
    (bench.batch.committed = true ↔
      .commit ∈ deeds ∨ ∃ n ≤ deeds.length, (begun.run (deeds.take n)).Due) ∧
    (bench.batch.committed = true → ∃! n, begun.CommitsAt deeds n) ∧
    (∀ n, begun.CommitsAt deeds n →
      ∃ published, begun.PublishesAt deeds n ⟨id, queue⟩ published) ∧
    (∀ (n : Nat) (bound : n < deeds.length), (∀ call, deeds[n] ≠ .elsewhere call) →
      ¬begun.CommitsAt deeds n →
      (begun.run (deeds.take (n + 1))).recording.tracker =
        (begun.run (deeds.take n)).recording.tracker) ∧
    (bench.batch.committed = true → ∀ label,
      (Recording.createTask label bench.recording).1 = .error (.alreadyCommitted id)) ∧
    ∀ index task, pick? bench.waiting index = some task → ∀ works answer,
      (begun.run (deeds ++ body index works answer)).recording =
        (Recording.run task (fun recording => (answer,
            works.foldl (fun recording work => work.record task.index recording) recording))
          bench.recording).2 := by
  intro batch tracker begun bench
  have new : Batch.Blank ⟨id, queue⟩ (.new id queue) := ⟨rfl, rfl, rfl, rfl⟩
  -- Declarations before the first task neither mark nor commit anything, so the bench is sound at
  -- the beginning, and not due.
  have blank : Batch.Blank ⟨id, queue⟩ batch := new.declareAll declaredWith declarations
  have sound : begun.Sound := sound_opened ring blank label tracker transcript
  have tabular : begun.recording.tracker.Tabular :=
    ⟨_, (Tracker.represents_empty.runWith trackerCalls).2⟩
  have user : begun.batch.user = ⟨id, queue⟩ := blank.user
  have open' : begun.batch.committed = false := blank.open'
  refine ⟨?_, fun done => ?_, fun n commits => ?_, fun n bound own quiet => ?_,
    fun done label => ?_, fun index task found works answer => ?_⟩
  · have fresh : ¬begun.Due := by
      rintro ⟨-, -, _, mem, -⟩
      cases mem
    have all := committed_take sound open' fresh (Nat.le_refl deeds.length)
    rw [List.take_length] at all
    exact all
  · have all : (begun.run (deeds.take deeds.length)).batch.committed = true := by
      rw [List.take_length]
      exact done
    obtain ⟨n, commits⟩ := exists_commitsAt open' (Nat.le_refl deeds.length) all
    exact ⟨n, commits, fun m commits' => commitsAt_unique sound commits' commits⟩
  · rw [← user]
    exact publishesAt_of_commitsAt sound tabular commits
  · exact tracker_of_not_commitsAt sound bound own quiet
  · have same : bench.batch.user = ⟨id, queue⟩ := (user_run sound deeds).trans user
    rw [Recording.createTask_of_committed label done,
      show bench.recording.batch.id = id from congrArg BatchUse.batch same]
  · rw [show begun.run (deeds ++ body index works answer) = bench.run (body index works answer) from
      List.foldl_append]
    exact run_body (sound.run deeds) found works answer

end Bench

end GpuSync
