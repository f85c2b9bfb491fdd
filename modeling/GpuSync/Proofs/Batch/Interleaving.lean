import GpuSync.Command.Transcript
import GpuSync.Proofs.Batch.Footprint

/-!
# Recording tasks side by side

Each task of a batch is recorded by a script of calls, into a transcript of its own. The scripts may
be interleaved in any way; it makes no difference.

* `Interleaves scripts calls`: the calls are those of the scripts, each script in its own order.
* `Interchange` exchanges neighbouring calls on different tasks, step by step. Interleavings of the
  same scripts come from each other in this way (`Interchange.of_interleaves`).
* `SameWork`: two runs come to the same batch and to the same for every task, which is kept by every
  step of an interchange (`Interchange.sameWork`).
* `recording_order_irrelevant` is the result.
-/

namespace GpuSync.Batch

/-- The calls interleave scripts, one for each task. The calls of each script come in its order;
between them there may be any calls on other tasks. -/
structure Interleaves (scripts : Nat → List Call) (calls : List Call) : Prop where
  /-- There are no other calls. -/
  scripted : ∀ call ∈ calls, call.Scripted
  /-- The calls on a task are those of its script, in order. -/
  order : ∀ task, calls.filter (·.recorded? = some task) = scripts task

/-- What the calls on a task were answered, in order. -/
def answersOf (task : Nat) (log : List Event) : List (Except BatchError Reply) :=
  (recordingOf task log).map (·.answer)

/-- The transcript of a task after the calls on it. -/
def transcriptOf (task : Nat) (log : List Event) (start : Transcript) : Transcript :=
  start.run ((recordingOf task log).flatMap (·.commands))

/-! ## Exchanging neighbours

Two lists of calls with the same calls on every task, each in the same order, come from each other
by exchanging neighbours on different tasks. This is about lists only; no batch is involved yet. -/

/-- Lists of calls that come from each other by exchanging neighbours on different tasks. -/
inductive Interchange : List Call → List Call → Prop where
  /-- Nothing is exchanged. -/
  | refl (calls : List Call) : Interchange calls calls
  /-- Something is exchanged after the first call. -/
  | cons (call : Call) {a b : List Call} : Interchange a b → Interchange (call :: a) (call :: b)
  /-- The first two calls are exchanged. -/
  | swap (c d : Call) (rest : List Call) (apart : c.recorded? ≠ d.recorded?) :
    Interchange (c :: d :: rest) (d :: c :: rest)
  /-- One exchange after the other. -/
  | trans {a b c : List Call} : Interchange a b → Interchange b c → Interchange a c

namespace Interchange

/-- To interchange calls is to reorder them. -/
theorem perm {a b : List Call} (h : Interchange a b) : a.Perm b := by
  induction h with
  | refl calls => exact .refl calls
  | cons call _ ih => exact ih.cons call
  | swap c d rest => exact .swap d c rest
  | trans _ _ ih ih' => exact ih.trans ih'

/-- A call moves back, past calls on other tasks. -/
theorem moveBack (call : Call) (before after : List Call)
    (others : ∀ other ∈ before, call.recorded? ≠ other.recorded?) :
    Interchange (call :: (before ++ after)) (before ++ call :: after) := by
  induction before with
  | nil => exact .refl _
  | cons other before ih =>
    have moved := ih fun c mem => others c (List.mem_cons_of_mem _ mem)
    apply trans (swap call other _ (others other List.mem_cons_self))
    exact cons other moved

/-- Lists with the same calls on every task come from each other. The first call of one list is
found in the other behind calls on other tasks only, and is moved to the front there. -/
theorem of_filter_eq {a b : List Call} (ofTask : ∀ call ∈ a ++ b, call.recorded?.isSome = true)
    (same : ∀ task, a.filter (·.recorded? = some task) = b.filter (·.recorded? = some task)) :
    Interchange a b := by
  -- On the first list: its head is moved to the front of the second one.
  induction a generalizing b with
  | nil =>
    cases b with
    | nil => exact .refl _
    | cons call rest =>
      obtain ⟨task, on⟩ := Option.isSome_iff_exists.1 (ofTask call (by simp))
      have none := same task
      simp [on] at none
  | cons call rest ih =>
    obtain ⟨task, on⟩ := Option.isSome_iff_exists.1 (ofTask call (by simp))
    -- the first call on the task is the same in both lists, with calls on other tasks before it
    have first := same task
    rw [List.filter_cons_of_pos (by simpa using on)] at first
    obtain ⟨before, after, rfl, others, -, same'⟩ := List.filter_eq_cons_iff.1 first.symm
    have others : ∀ other ∈ before, call.recorded? ≠ other.recorded? := by
      intro other mem eq
      exact others other mem (by simpa [on] using eq.symm)
    apply trans (cons call (ih (b := before ++ after) ?_ ?_)) (moveBack call before after others)
    · intro other mem
      apply ofTask other
      simp only [List.cons_append, List.mem_cons, List.mem_append] at mem ⊢
      tauto
    · intro t
      rw [List.filter_append]
      -- Without that call, both lists have the same calls on its task, and on any other task as
      -- well.
      by_cases here : task = t
      · subst here
        have none : before.filter (·.recorded? = some task) = [] := by
          apply List.filter_eq_nil_iff.2
          intro other mem eq
          exact others other mem (on.trans (of_decide_eq_true eq).symm)
        rw [none, List.nil_append, same']
      · have away : ¬ call.recorded? = some t := by simpa [on] using here
        have elsewhere := same t
        rw [List.filter_append, List.filter_cons_of_neg (by simpa using away),
          List.filter_cons_of_neg (by simpa using away)] at elsewhere
        exact elsewhere

/-- **Interleavings of the same scripts** come from each other by exchanging neighbours on different
tasks. -/
theorem of_interleaves {scripts : Nat → List Call} {a b : List Call}
    (h : Interleaves scripts a) (h' : Interleaves scripts b) : Interchange a b := by
  apply of_filter_eq
  · intro call mem
    have scripted : call.Scripted := by
      rcases List.mem_append.1 mem with mem | mem
      · exact h.scripted call mem
      · exact h'.scripted call mem
    exact Option.isSome_iff_exists.2 scripted.exists_task
  · intro task
    rw [h.order, h'.order]

end Interchange

/-! ## Runs that come to the same

What two runs have in common has to say enough to be kept when both go on, so it has the whole batch
and, for every task, its answers and its transcript. The order among the answers of different tasks
is what gets lost. -/

/-- The two runs come to the same batch, and to the same for every task. Answers and transcripts are
compared task by task. -/
structure SameWork (a b : Run) : Prop where
  /-- The batch. -/
  batch : a.batch = b.batch
  /-- The calls on each task, with their answers and their commands. -/
  recording : ∀ task, recordingOf task a.log = recordingOf task b.log

namespace SameWork

/-- Every run does the same work as itself. -/
theorem refl (run : Run) : SameWork run run := ⟨rfl, fun _ => rfl⟩

/-- Doing the same work is transitive. -/
theorem trans {a b c : Run} (h : SameWork a b) (h' : SameWork b c) : SameWork a c :=
  ⟨h.batch.trans h'.batch, fun task => (h.recording task).trans (h'.recording task)⟩

/-- Runs that did the same work do the same work with the next call. -/
theorem next {a b : Run} (h : SameWork a b) (call : Tracker × Call) :
    SameWork (a.next call) (b.next call) := by
  constructor
  · simp only [Run.next, h.batch]
  · intro task
    simp only [Run.next, recordingOf_append, h.recording, h.batch]

/-- Runs that did the same work do the same work with any calls from there on. -/
theorem foldl {a b : Run} (h : SameWork a b) (calls : List (Tracker × Call)) :
    SameWork (calls.foldl Run.next a) (calls.foldl Run.next b) := by
  induction calls generalizing a b with
  | nil => exact h
  | cons call rest ih => exact ih (h.next call)

/-- Two calls on different tasks may be exchanged. Neither sees what the other changes, and the
stroke of each is what it was. -/
theorem exchange (run : Run) (tracker : Tracker) {c d : Call} (scripted : c.Scripted ∧ d.Scripted)
    (apart : c.recorded? ≠ d.recorded?) (oneLast : ¬ (c.beginsLast = true ∧ d.beginsLast = true)) :
    SameWork ((run.next (tracker, c)).next (tracker, d))
      ((run.next (tracker, d)).next (tracker, c)) := by
  obtain ⟨t, on⟩ := scripted.1.exists_task
  obtain ⟨u, beside⟩ := scripted.2.exists_task
  have distinct : t ≠ u := by
    rintro rfl
    exact apart (on.trans beside.symm)
  constructor
  · exact perform_comm run.batch tracker scripted on beside distinct oneLast
  · intro task
    obtain ⟨answer, commands⟩ :=
      perform_beside run.batch tracker scripted on beside distinct
    obtain ⟨answer', commands'⟩ :=
      perform_beside run.batch tracker scripted.symm beside on distinct.symm
    simp only [Run.next, recordingOf_append, List.append_assoc, answer, commands, answer',
      commands']
    -- a task takes part in one of the two calls at most
    by_cases first : t = task
    · have second : u ≠ task := fun eq => distinct (first.trans eq.symm)
      simp [recordingOf, on, beside, first, second]
    · simp [recordingOf, on, first]

end SameWork

/-- **Exchanges make no difference**, if one task at most is begun as the last one. -/
theorem Interchange.sameWork {a b : List Call} (h : Interchange a b) (tracker : Tracker) (run : Run)
    (scripted : ∀ call ∈ a, call.Scripted)
    (oneLast : ∀ c ∈ a, ∀ d ∈ a, c.beginsLast = true → d.beginsLast = true →
      c.recorded? = d.recorded?) :
    SameWork ((a.map (tracker, ·)).foldl Run.next run)
      ((b.map (tracker, ·)).foldl Run.next run) := by
  induction h generalizing run with
  | refl => exact .refl _
  | cons call _ ih =>
    apply ih
    · intro c mem
      exact scripted c (List.mem_cons_of_mem _ mem)
    · intro c mem d mem'
      exact oneLast c (List.mem_cons_of_mem _ mem) d (List.mem_cons_of_mem _ mem')
  | swap c d rest apart =>
    refine SameWork.foldl (SameWork.exchange run tracker ⟨?_, ?_⟩ apart ?_) _
    · exact scripted c (by simp)
    · exact scripted d (by simp)
    · intro both
      exact apart (oneLast c (by simp) d (by simp) both.1 both.2)
  | trans first _ ih ih' =>
    have mem (call : Call) := first.perm.mem_iff (a := call)
    apply (ih run scripted oneLast).trans
    apply ih'
    · intro c mem'
      exact scripted c ((mem c).2 mem')
    · intro c mem' d mem''
      exact oneLast c ((mem c).2 mem') d ((mem d).2 mem'')

/-- **The order of recording does not matter.** Take a batch in any state and a script for every
task, at most one of which begins its task as the last one. However the scripts are interleaved,
every call is answered the same, every task's transcript ends the same, the batch ends the same with
the passages of its resources, and committing it then comes to the same. -/
theorem recording_order_irrelevant (batch : Batch) (tracker : Tracker) (scripts : Nat → List Call)
    (oneLast : ∀ t u, .beginTask t true ∈ scripts t → .beginTask u true ∈ scripts u → t = u)
    {first second : List Call} (h : Interleaves scripts first) (h' : Interleaves scripts second) :
    let a := batch.run (first.map (tracker, ·))
    let b := batch.run (second.map (tracker, ·))
    (∀ task, answersOf task a.log = answersOf task b.log) ∧
    (∀ task start, transcriptOf task a.log start = transcriptOf task b.log start) ∧
    a.batch.passages = b.batch.passages ∧ a.batch = b.batch ∧
    a.batch.perform tracker .commit = b.batch.perform tracker .commit := by
  intro a b
  have same : SameWork a b := by
    apply (Interchange.of_interleaves h h').sameWork tracker { batch } h.scripted
    intro c mem d mem' last last'
    have inScript {call : Call} (mem : call ∈ first) (last : call.beginsLast = true) :
        ∃ task, call = .beginTask task true ∧ .beginTask task true ∈ scripts task := by
      cases call with
      | beginTask task mark =>
        obtain rfl : mark = true := last
        refine ⟨task, rfl, ?_⟩
        rw [← h.order]
        exact List.mem_filter.2 ⟨mem, by simp [Call.recorded?]⟩
      | _ => cases last
    obtain ⟨t, rfl, on⟩ := inScript mem last
    obtain ⟨u, rfl, beside⟩ := inScript mem' last'
    rw [oneLast t u on beside]
  refine ⟨?_, ?_, ?_, same.batch, ?_⟩
  · intro task
    unfold answersOf
    rw [same.recording]
  · intro task start
    unfold transcriptOf
    rw [same.recording]
  · rw [same.batch]
  · rw [same.batch]

/-! ## Two scripts

An image goes from the first task to the second one, so that the barrier of the second starts from
what the first declared, also if the second is recorded in the middle of the first. -/

/-- A batch with an image that its first task fills and its second task reads. -/
def tandemBatch : Batch :=
  ((new ⟨0, 0⟩ .graphics).run ([.use ⟨.image, ⟨0⟩⟩ .shaderSample .general, .createTask,
    .declare 0 ⟨.image, ⟨0⟩⟩ .copyDst .copyDst, .createTask].map (Tracker.empty, ·))).batch

/-- The scripts of both tasks; the second one is the last. -/
def tandem : Nat → List Call
  | 0 => [.beginTask 0 false, .report 0 ⟨.image, ⟨0⟩⟩ .clearDst, .discard 0 ⟨.image, ⟨0⟩⟩,
      .finish 0]
  | 1 => [.isIn 1 ⟨.image, ⟨0⟩⟩ .copyDst, .beginTask 1 true, .isIn 1 ⟨.image, ⟨0⟩⟩ .copyDst,
      .override 1 ⟨.buffer, ⟨1⟩⟩ .hostRead, .finish 1]
  | _ => []

/-- One task after the other. -/
def inTurn : List Call := tandem 0 ++ tandem 1

/-- The second task in between the calls of the first one. -/
def sideways : List Call := (tandem 1).take 3 ++ (tandem 0).take 3 ++ (tandem 1).drop 3 ++
  (tandem 0).drop 3

/-- Both orders come to the same. -/
theorem recording_order_irrelevant_tandem :
    Interleaves tandem inTurn ∧ Interleaves tandem sideways ∧ inTurn ≠ sideways ∧
    let a := tandemBatch.run (inTurn.map (Tracker.empty, ·))
    let b := tandemBatch.run (sideways.map (Tracker.empty, ·))
    (∀ task, answersOf task a.log = answersOf task b.log) ∧
    (∀ task start, transcriptOf task a.log start = transcriptOf task b.log start) ∧
    a.batch.passages = b.batch.passages ∧ a.batch = b.batch ∧
    a.batch.perform Tracker.empty .commit = b.batch.perform Tracker.empty .commit := by
  have inTurn_tandem : Interleaves tandem inTurn := by
    constructor
    · simp [inTurn, tandem, Call.Scripted]
    · intro task
      rcases task with _ | _ | task <;> simp [inTurn, tandem, Call.recorded?]
  have sideways_tandem : Interleaves tandem sideways := by
    constructor
    · simp [sideways, tandem, Call.Scripted]
    · intro task
      rcases task with _ | _ | task <;> simp [sideways, tandem, Call.recorded?]
  refine ⟨inTurn_tandem, sideways_tandem, by decide, ?_⟩
  refine recording_order_irrelevant tandemBatch .empty tandem ?_ inTurn_tandem sideways_tandem
  intro t u last last'
  rcases t with _ | _ | t <;> rcases u with _ | _ | u <;> simp [tandem] at last last' ⊢

end GpuSync.Batch
