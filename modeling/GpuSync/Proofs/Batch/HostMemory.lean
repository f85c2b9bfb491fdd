import GpuSync.Proofs.Batch.Compound
import Mathlib.Data.List.Induction
import Mathlib.Tactic.Common

/-!
# Barriers between a batch and the host

A barrier that makes the device's writes visible to the host serves the task that asked for it and
all tasks before that one; a barrier that makes the host's writes visible serves its task and all
tasks after it. So a task that asks takes a barrier only if none serves it yet.

The batch keeps which tasks asked, and not which of them took a barrier. That is enough: of the
tasks that asked for the former kind, the last one took a barrier, since nobody after it asked, and
likewise the first one of the latter kind.

* `Run.readBackBy` and `Run.uploadedTo` are the tasks whose calls emitted a barrier, read off the
  log.
* `TaskSet.Covered` says that a set of tasks that asked is served by those that took a barrier.
  A task that asks keeps it so, whether it takes a barrier (`Covered.insert_emitter`) or is served
  (`Covered.insert_served`).
* `Accounted` is the invariant of a batch, and `Accounted.perform` its step lemma.
* **`host_barriers_where_uncovered`** is the result for all runs.
-/

namespace GpuSync

/-! ## Tasks that ask, and tasks that take a barrier

Two sets are kept, of which one is a word of bits in the batch and the other is a list read off the
log. They need not be equal: a task that was served by the barrier of another asked, and took none.
-/

/-- A set of tasks is served by some of them, where `serves task emitter` tells that a barrier of
`emitter` serves `task`. -/
structure TaskSet.Covered (set : TaskSet) (serves : Nat → Nat → Prop) (emitters : List Nat) :
    Prop where
  /-- Those that took a barrier are in the set. -/
  asked : ∀ emitter ∈ emitters, emitter ∈ set
  /-- Every task of the set is served by one of them. -/
  served : ∀ task ∈ set, ∃ emitter ∈ emitters, serves task emitter

namespace TaskSet.Covered

variable {set : TaskSet} {serves : Nat → Nat → Prop} {emitters : List Nat} {task : Nat}

/-- Nothing was emitted, and the record is empty. -/
theorem nil : Covered {} serves [] where
  asked := nofun
  served := fun task mem => absurd mem (not_mem_empty task)

/-- What passes from a task to those that serve it holds of a task that asked exactly if it holds of
one that took a barrier. -/
theorem exists_iff (h : set.Covered serves emitters) {P : Nat → Prop}
    (passes : ∀ {task emitter}, serves task emitter → P task → P emitter) :
    (∃ task ∈ set, P task) ↔ ∃ emitter ∈ emitters, P emitter := by
  constructor
  · rintro ⟨task, mem, holds⟩
    obtain ⟨emitter, emits, serves⟩ := h.served task mem
    exact ⟨emitter, emits, passes serves holds⟩
  · rintro ⟨emitter, emits, holds⟩
    exact ⟨emitter, h.asked emitter emits, holds⟩

/-- A task that asks and takes a barrier. -/
theorem insert_emitter (h : set.Covered serves emitters) (fits : task < 32)
    (self : serves task task) : (set.insert task).Covered serves (emitters ++ [task]) where
  asked := by
    intro emitter mem
    rcases List.mem_append.1 mem with old | new
    · exact (mem_insert fits).2 (.inr (h.asked emitter old))
    · exact (mem_insert fits).2 (.inl (List.mem_singleton.1 new))
  served := by
    intro other mem
    rcases (mem_insert fits).1 mem with rfl | old
    · exact ⟨other, List.mem_append_right _ List.mem_cons_self, self⟩
    · obtain ⟨emitter, emits, serves⟩ := h.served other old
      exact ⟨emitter, List.mem_append_left _ emits, serves⟩

/-- A task that asks and is served. -/
theorem insert_served (h : set.Covered serves emitters) (fits : task < 32)
    (already : ∃ emitter ∈ emitters, serves task emitter) :
    (set.insert task).Covered serves emitters where
  asked := fun emitter mem => (mem_insert fits).2 (.inr (h.asked emitter mem))
  served := by
    intro other mem
    rcases (mem_insert fits).1 mem with rfl | old
    · exact already
    · exact h.served other old

end TaskSet.Covered

namespace Batch

/-! ## Who took a barrier

The accounts relate the word of the batch to what the log shows. A later task serves an earlier one
for reading back, and an earlier task serves a later one for uploading; the two records are
otherwise alike, and are kept by the same lemmas. -/

/-- The task for which a call made the device's writes visible to the host by a barrier. -/
def Event.readsBack? (event : Event) : Option Nat :=
  match event.call with
  | .readback task =>
    if Barrier.memory .copyDst .hostRead ∈ Command.barriers event.commands then some task else none
  | _ => none

/-- The task to which a call made the host's writes visible by a barrier. -/
def Event.uploads? (event : Event) : Option Nat :=
  match event.call with
  | .upload task dst =>
    if Barrier.memory .hostWrite dst ∈ Command.barriers event.commands then some task else none
  | _ => none

/-- The tasks whose calls made the device's writes visible to the host by a barrier, in order. -/
def Run.readBackBy (run : Run) : List Nat := run.log.filterMap Event.readsBack?

/-- The tasks to which calls made the host's writes visible by a barrier, in order. -/
def Run.uploadedTo (run : Run) : List Nat := run.log.filterMap Event.uploads?

/-- The tasks that asked are served by those that took a barrier. Both sets are words of bits, which
the batch goes by. -/
structure Accounted (batch : Batch) (readers writers : List Nat) : Prop where
  /-- What a later task made visible to the host includes the writes of an earlier one. -/
  readbacks : batch.readbacks.Covered (· ≤ ·) readers
  /-- What is visible to an earlier task is visible to a later one. -/
  uploads : batch.uploads.Covered (· ≥ ·) writers

namespace Accounted

variable {batch after : Batch} {readers writers : List Nat} {task : Nat}

/-- The batch knows by its word of bits whether a later task made memory visible to the host. -/
theorem anyAfter_iff (h : batch.Accounted readers writers) :
    batch.readbacks.anyAfter task = true ↔ ∃ emitter ∈ readers, task < emitter :=
  TaskSet.anyAfter_iff.trans
    (h.readbacks.exists_iff fun serves later => Nat.lt_of_lt_of_le later serves)

/-- The batch knows by its word of bits whether this task or a later one did. -/
theorem anyFrom_iff (h : batch.Accounted readers writers) :
    batch.readbacks.anyFrom task = true ↔ ∃ emitter ∈ readers, task ≤ emitter :=
  TaskSet.anyFrom_iff.trans (h.readbacks.exists_iff fun serves later => Nat.le_trans later serves)

/-- The batch knows by its word of bits whether an earlier task made uploads visible. -/
theorem anyBefore_iff (h : batch.Accounted readers writers) :
    batch.uploads.anyBefore task = true ↔ ∃ emitter ∈ writers, emitter < task :=
  TaskSet.anyBefore_iff.trans
    (h.uploads.exists_iff fun serves earlier => Nat.lt_of_le_of_lt serves earlier)

/-- The batch knows by its word of bits whether this task or an earlier one did. -/
theorem anyUpTo_iff (h : batch.Accounted readers writers) :
    batch.uploads.anyUpTo task = true ↔ ∃ emitter ∈ writers, emitter ≤ task :=
  TaskSet.anyUpTo_iff.trans
    (h.uploads.exists_iff fun serves earlier => Nat.le_trans serves earlier)

/-- Calls that are about neither are not in the accounts. -/
theorem of_same (h : batch.Accounted readers writers)
    (readbacks : after.readbacks = batch.readbacks) (uploads : after.uploads = batch.uploads) :
    after.Accounted readers writers :=
  ⟨readbacks ▸ h.readbacks, uploads ▸ h.uploads⟩

/-- A task that asks for its writes to be visible is in the accounts from then on. -/
theorem readBack (h : batch.Accounted readers writers) (inRange : task < maxTasks) :
    { batch with readbacks := batch.readbacks.insert task }.Accounted
      (readers ++ if batch.readbacks.anyAfter task then [] else [task]) writers := by
  refine ⟨?_, h.uploads⟩
  split
  · rename_i later
    obtain ⟨emitter, mem, later⟩ := h.anyAfter_iff.1 later
    rw [List.append_nil]
    exact h.readbacks.insert_served inRange ⟨emitter, mem, Nat.le_of_lt later⟩
  · exact h.readbacks.insert_emitter inRange (Nat.le_refl task)

/-- A task that asks for the host's writes to be visible is in the accounts from then on. -/
theorem uploaded (h : batch.Accounted readers writers) (inRange : task < maxTasks) :
    { batch with uploads := batch.uploads.insert task }.Accounted readers
      (writers ++ if batch.uploads.anyBefore task then [] else [task]) := by
  refine ⟨h.readbacks, ?_⟩
  split
  · rename_i earlier
    obtain ⟨emitter, mem, earlier⟩ := h.anyBefore_iff.1 earlier
    rw [List.append_nil]
    exact h.uploads.insert_served inRange ⟨emitter, mem, Nat.le_of_lt earlier⟩
  · exact h.uploads.insert_emitter inRange (Nat.le_refl task)

end Accounted

/-! ## One call

Only two calls are about memory as a whole. Every other call leaves both words alone, and emits no
barrier that is on no resource. -/

/-- The accounts once a call was made. -/
def Event.Accounts (event : Event) (after : Batch) (readers writers : List Nat) : Prop :=
  after.Accounted (readers ++ event.readsBack?.toList) (writers ++ event.uploads?.toList)

/-- A call without commands reads nothing back. -/
theorem readsBack?_nil (call : Call) (answer : Except BatchError Reply) :
    (Event.mk call answer []).readsBack? = none := by
  cases call <;> rfl

/-- A call without commands uploads nothing. -/
theorem uploads?_nil (call : Call) (answer : Except BatchError Reply) :
    (Event.mk call answer []).uploads? = none := by
  cases call <;> rfl

section

variable {tracker : Tracker} {batch after : Batch} {call : Call}
  {answer : Except BatchError Reply} {commands : List Command} {readers writers : List Nat}

/-- A call that records nothing and leaves both sets alone leaves the accounts. -/
theorem Accounted.quiet (h : batch.Accounted readers writers)
    (readbacks : after.readbacks = batch.readbacks) (uploads : after.uploads = batch.uploads)
    (reads : (Event.mk call answer commands).readsBack? = none)
    (writes : (Event.mk call answer commands).uploads? = none) :
    (Event.mk call answer commands).Accounts after readers writers := by
  unfold Event.Accounts
  rw [reads, writes, Option.toList_none, List.append_nil, List.append_nil]
  exact h.of_same readbacks uploads

/-- A call with a case in `Effect` keeps the accounts. Two of the cases are about memory as a whole.
In the others nothing is said of it. -/
theorem Effect.accounts (effect : Effect tracker batch call answer after commands)
    (h : batch.Accounted readers writers) :
    (Event.mk call answer commands).Accounts after readers writers := by
  cases effect with
  | refused call error =>
    exact h.quiet rfl rfl (readsBack?_nil call _) (uploads?_nil call _)
  | @readBack task inRange =>
    have account := h.readBack inRange
    unfold Event.Accounts
    cases later : batch.readbacks.anyAfter task <;> rw [later] at account <;>
      simpa [Event.readsBack?, Event.uploads?, Command.barriers, emitted, Command.barrier?]
        using account
  | @uploaded task dst inRange =>
    have account := h.uploaded inRange
    unfold Event.Accounts
    cases earlier : batch.uploads.anyBefore task <;> rw [earlier] at account <;>
      simpa [Event.readsBack?, Event.uploads?, Command.barriers, emitted, Command.barrier?]
        using account
  | _ => exact h.quiet rfl rfl rfl rfl

/-- **One call** keeps the accounts. -/
theorem Accounted.perform (h : batch.Accounted readers writers) (tracker : Tracker) (call : Call) :
    let turn := batch.perform tracker call
    (Event.mk call turn.answer turn.commands).Accounts turn.batch readers writers := by
  intro turn
  by_cases several : ∃ targets, call = .useTargets targets
  · obtain ⟨targets, rfl⟩ := several
    have same : turn.batch.Accounted readers writers :=
      useMany_induction (P := (Accounted · readers writers)) tracker
        (fun mid key initial final h => by
          simpa [Event.Accounts, Event.readsBack?, Event.uploads?]
            using (Effect.of_use key initial final).accounts h)
        _ h
    exact same.quiet rfl rfl rfl rfl
  · obtain ⟨basic, stands, same⟩ :=
      exists_standsFor batch tracker fun targets is => several ⟨targets, is⟩
    have account := (perform_effect batch tracker stands.isBasic).accounts h
    rw [← same] at account
    cases stands <;> exact account

end

/-! ## All runs

That a barrier is emitted is decided by the word of bits. The accounts turn this into a statement
about the barriers that were emitted before, which is all that the host can rely on. -/

/-- A new batch has emitted nothing, and nothing is on its record. -/
theorem accounted_new (id : BatchId) (queue : Queue) : (new id queue).Accounted [] [] :=
  ⟨.nil, .nil⟩

/-- One more event adds what is read off it. -/
theorem filterMap_concat (f : Event → Option Nat) (log : List Event) (event : Event) :
    (log ++ [event]).filterMap f = log.filterMap f ++ (f event).toList := by
  rw [List.filterMap_append]
  cases added : f event <;> simp [added]

/-- **Every run keeps the accounts.** -/
theorem Accounted.run {start : Batch} (h : start.Accounted [] [])
    (calls : List (Tracker × Call)) :
    (start.run calls).batch.Accounted (start.run calls).readBackBy
      (start.run calls).uploadedTo := by
  induction calls using List.reverseRecOn with
  | nil => exact h
  | append_singleton calls call ih =>
    have account := ih.perform call.1 call.2
    unfold Event.Accounts at account
    rw [run_append]
    unfold Run.readBackBy Run.uploadedTo Run.next
    rw [filterMap_concat, filterMap_concat]
    exact account

/-- What is answered to a task that asks for its writes to be visible to the host. -/
theorem perform_readback (batch : Batch) (tracker : Tracker) {task : Nat}
    (inRange : task < maxTasks) :
    ((batch.perform tracker (.readback task)).answer,
      (batch.perform tracker (.readback task)).commands) =
      if batch.readbacks.anyAfter task then (.ok (.flag false), [])
      else (.ok (.flag true), [.barrier (Barrier.memory .copyDst .hostRead)]) := by
  show ((batch.readback task).answer.map Reply.flag, (batch.readback task).commands) = _
  unfold readback
  rw [if_neg (Nat.not_le.2 inRange)]
  dsimp only
  split <;> rfl

/-- What is answered to a task that asks for the host's writes to be visible. -/
theorem perform_upload (batch : Batch) (tracker : Tracker) {task : Nat} (dst : Usage)
    (inRange : task < maxTasks) :
    ((batch.perform tracker (.upload task dst)).answer,
      (batch.perform tracker (.upload task dst)).commands) =
      if batch.uploads.anyBefore task then (.ok (.flag false), [])
      else (.ok (.flag true), [.barrier (Barrier.memory .hostWrite dst)]) := by
  show ((batch.upload task dst).answer.map Reply.flag, (batch.upload task dst).commands) = _
  unfold upload
  rw [if_neg (Nat.not_le.2 inRange)]
  dsimp only
  split <;> rfl

/-- **A task takes a barrier exactly where none serves it yet.** Take a batch that is new or was
cleared, and any calls on it.

A call that asks for the writes of a task to be visible to the host emits one barrier and says so,
if all tasks that took such a barrier so far come before the task or are the task itself; else it
emits nothing. A call that asks for the host's writes to be visible to a task does so if all tasks
that took such a barrier come after the task or are the task itself.

Whether a task or a later one made its writes visible, and whether the host's writes were made
visible to a task or an earlier one, is answered by those barriers alone, for every task index that
is a word. -/
theorem host_barriers_where_uncovered (former : Option Batch) (id : BatchId) (queue : Queue)
    (calls : List (Tracker × Call)) :
    let start := former.elim (new id queue) (·.reset id queue)
    let run := start.run calls
    (∀ (tracker : Tracker) (task : Nat), task < maxTasks →
      let turn := run.batch.perform tracker (.readback task)
      (turn.answer, turn.commands) =
        if ∀ emitter ∈ run.readBackBy, emitter ≤ task then
          (.ok (.flag true), [.barrier (Barrier.memory .copyDst .hostRead)])
        else (.ok (.flag false), [])) ∧
    (∀ (tracker : Tracker) (task : Nat) (dst : Usage), task < maxTasks →
      let turn := run.batch.perform tracker (.upload task dst)
      (turn.answer, turn.commands) =
        if ∀ emitter ∈ run.uploadedTo, task ≤ emitter then
          (.ok (.flag true), [.barrier (Barrier.memory .hostWrite dst)])
        else (.ok (.flag false), [])) ∧
    ∀ task < span 32,
      (run.batch.hasReadback task = true ↔ ∃ emitter ∈ run.readBackBy, task ≤ emitter) ∧
      (run.batch.hasUpload task = true ↔ ∃ emitter ∈ run.uploadedTo, emitter ≤ task) := by
  intro start run
  have accounted : run.batch.Accounted run.readBackBy run.uploadedTo :=
    Accounted.run (by cases former <;> exact accounted_new id queue) calls
  refine ⟨fun tracker task inRange => ?_, fun tracker task dst inRange => ?_,
    fun task word => ⟨?_, ?_⟩⟩
  · refine (perform_readback run.batch tracker inRange).trans ?_
    by_cases later : ∃ emitter ∈ run.readBackBy, task < emitter
    · rw [if_pos (accounted.anyAfter_iff.2 later), if_neg (by simpa using later)]
    · rw [if_neg (mt accounted.anyAfter_iff.1 later), if_pos (by simpa using later)]
  · refine (perform_upload run.batch tracker dst inRange).trans ?_
    by_cases earlier : ∃ emitter ∈ run.uploadedTo, emitter < task
    · rw [if_pos (accounted.anyBefore_iff.2 earlier), if_neg (by simpa using earlier)]
    · rw [if_neg (mt accounted.anyBefore_iff.1 earlier), if_pos (by simpa using earlier)]
  · rw [hasReadback, Nat.mod_eq_of_lt word]
    exact accounted.anyFrom_iff
  · exact accounted.anyUpTo_iff

/-- The last task and an earlier one ask for both, the earlier one first. -/
def hostCalls : List (Tracker × Call) :=
  [.readback 3, .upload 3 .copySrc, .readback 31, .upload 31 .copySrc, .readback 7].map (.empty, ·)

/-- Task 7 asks for a barrier that a later task asked for, task 31 for one that an earlier one did.
-/
theorem host_barriers_where_uncovered_lastTask :
    let run := (new ⟨0, 0⟩ .asyncTransfer).run hostCalls
    run.readBackBy = [3, 31] ∧ run.uploadedTo = [3] ∧
      (run.batch.perform .empty (.readback 30)).answer = .ok (.flag false) ∧
      (run.batch.perform .empty (.upload 2 .general)).answer = .ok (.flag true) ∧
      run.batch.hasReadback 31 = true ∧ run.batch.hasReadback 32 = false ∧
      run.batch.hasUpload 2 = false ∧ run.batch.hasUpload 4294967295 = true := by
  intro run
  have readers : run.readBackBy = [3, 31] := by decide +kernel
  have writers : run.uploadedTo = [3] := by decide +kernel
  obtain ⟨reads, writes, has⟩ :=
    host_barriers_where_uncovered none ⟨0, 0⟩ .asyncTransfer hostCalls
  have later : ¬ ∀ emitter ∈ run.readBackBy, emitter ≤ 30 := by simp [readers]
  have first : ∀ emitter ∈ run.uploadedTo, 2 ≤ emitter := by simp [writers]
  have reads := (reads .empty 30 (by decide)).trans (if_neg later)
  have writes := (writes .empty 2 .general (by decide)).trans (if_pos first)
  have reader (task : Nat) (word : task < span 32) :=
    (readers ▸ (has task word).1 :
      run.batch.hasReadback task = true ↔ ∃ emitter ∈ [3, 31], task ≤ emitter)
  have writer (task : Nat) (word : task < span 32) :=
    (writers ▸ (has task word).2 :
      run.batch.hasUpload task = true ↔ ∃ emitter ∈ [3], emitter ≤ task)
  refine ⟨readers, writers, (Prod.mk.inj reads).1, (Prod.mk.inj writes).1,
    (reader 31 (by decide)).2 (by simp), ?_, ?_, (writer 4294967295 (by decide)).2 (by simp)⟩
  · exact eq_false_of_ne_true (mt (reader 32 (by decide)).1 (by simp))
  · exact eq_false_of_ne_true (mt (writer 2 (by decide)).1 (by simp))

end Batch

end GpuSync
