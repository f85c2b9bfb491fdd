import GpuSync.Proofs.Batch.Calls
import Mathlib.Tactic.Common

/-!
# Runs that record every task once

A batch is meant to be used in one way: resources are declared, tasks are created and declare
theirs, and every task is recorded once, from its beginning to its finish. The calls may come in
any order that the batch accepts, so tasks may be recorded side by side and before others exist.

* `Orderly n log`: the log of a run that records each of `n` tasks so.
* `firstTask?` is the task in which a resource joined the batch, and `walk` the barriers on it from
  there on, task by task.
* `Fits n log event` is what a call of such a run may rely on, given the calls before it
  (`Orderly.fits`).
-/

namespace GpuSync.Batch

/-! ## Runs that record every task once

An order of recording is anything that is accepted, so the scripts of the tasks may be mixed in any
way. What is fixed is the script of each task, and that the highest task alone is begun as the last
one. -/

/-- The calls of such a run. -/
def Call.Plain : Call → Prop
  | .use _ _ _ | .setRelaxed _ | .createTask | .declare _ _ _ _ | .beginTask _ _ | .report _ _ _
  | .discard _ _ | .finish _ => True
  | _ => False

/-- The calls between the beginning and the end of a task. -/
def Call.Within : Call → Prop
  | .report _ _ _ | .discard _ _ => True
  | _ => False

/-- The calls that record one task, without what they came to. -/
def callsOn (task : Nat) (log : List Event) : List Call :=
  (recordingOf task log).map (·.call)

/-- The calls of one task of `n`: it is begun, uses its resources and is finished. The highest task
is begun as the last one, and no other. -/
def Script (n task : Nat) (calls : List Call) : Prop :=
  ∃ within : List Call, (∀ call ∈ within, call.Within) ∧
    calls = .beginTask task (task + 1 = n) :: within ++ [.finish task]

/-- A run that records each of `n` tasks exactly once, in any order that is accepted. Between the
calls on one task there may be any calls on the others. -/
structure Orderly (n : Nat) (log : List Event) : Prop where
  /-- There are no other calls. -/
  plain : ∀ event ∈ log, event.call.Plain
  /-- A task is begun only when the batch accepts it. -/
  begins : ∀ event ∈ log, ∀ task last, event.call = .beginTask task last → event.accepted = true
  /-- Every task is recorded once. -/
  scripts : ∀ task < n, Script n task (callsOn task log)

/-- The first task with a resource that an accepted call declares: the very first one, if it is
declared for the whole batch. -/
def Event.introduces? (key : Key) (event : Event) : Option Nat :=
  match event.call with
  | .use other _ _ => if other = key ∧ event.accepted = true then some 0 else none
  | .declare task other _ _ => if other = key ∧ event.accepted = true then some task else none
  | _ => none

/-- The first task with a resource: that of the first call to declare it. -/
def firstTask? (key : Key) (log : List Event) : Option Nat := log.findSome? (·.introduces? key)

/-- The barriers on one resource, task by task from `first` to the last of `n` tasks. -/
def walk (log : List Event) (key : Key) (first n : Nat) : List Barrier :=
  (List.range' first (n - first)).flatMap fun task => barriersBy log task key

/-! ## One call of such a run

Orderliness is a property of the whole log, while invariants are kept call by call. `Fits` is what
remains of it for one call and the log before it; it is all that the steps below may use. -/

/-- What is known of a call from the run that it belongs to. -/
structure Fits (n : Nat) (log : List Event) (event : Event) : Prop where
  /-- It is one of the calls of the run. -/
  plain : event.call.Plain
  /-- If it begins a task it is accepted, and the task is the last one if it is the highest. -/
  begins : ∀ task last, event.call = .beginTask task last →
    event.accepted = true ∧ (task < n → last = decide (task + 1 = n))
  /-- The task it records was not finished before. -/
  unfinished : ∀ task < n, event.call.recorded? = some task →
    ∀ earlier ∈ log, earlier.call ≠ .finish task
  /-- The task it finishes was begun before. -/
  begun : ∀ task < n, event.call = .finish task →
    ∃ earlier ∈ log, ∃ last, earlier.call = .beginTask task last

/-- The script of a task has the calls that its log has on that task. -/
theorem mem_callsOn {task : Nat} {log : List Event} {call : Call} :
    call ∈ callsOn task log ↔ ∃ event ∈ log, event.call.recorded? = some task ∧
      event.call = call := by
  simp [callsOn, recordingOf, and_assoc]

/-- An event on a task splits the script of the task where it splits the log. -/
theorem callsOn_split {task : Nat} {event : Event} (records : event.call.recorded? = some task)
    (before after : List Event) :
    callsOn task (before ++ event :: after) =
      callsOn task before ++ event.call :: callsOn task after := by
  simp [callsOn, recordingOf, records]

/-- In an orderly log, every event fits what comes before it. What is said of the calls before is
read off the part of the script that was done, and what is said of the event off its place in it. -/
theorem Orderly.fits {n : Nat} {before after : List Event} {event : Event}
    (h : Orderly n (before ++ event :: after)) : Fits n before event where
  plain := h.plain event (by simp)
  -- The begin is in the script of its task, and that has just one, with the flag for the highest
  -- task.
  begins := by
    intro task last eq
    refine ⟨h.begins event (by simp) task last eq, fun bound => ?_⟩
    obtain ⟨within, touches, calls⟩ := h.scripts task bound
    have mem : Call.beginTask task last ∈ callsOn task (before ++ event :: after) :=
      mem_callsOn.2 ⟨event, by simp, by rw [eq]; rfl, eq⟩
    rw [calls] at mem
    rcases List.mem_append.1 mem with mem | mem
    · rcases List.mem_cons.1 mem with same | mem
      · injection same
      · exact (touches _ mem).elim
    · simp at mem
  unfinished := by
    intro task bound records earlier mem finishes
    obtain ⟨within, touches, calls⟩ := h.scripts task bound
    rw [callsOn_split records] at calls
    have mem : Call.finish task ∈ callsOn task before :=
      mem_callsOn.2 ⟨earlier, mem, by rw [finishes]; rfl, finishes⟩
    -- the calls before are among all but the last one, and only the last one finishes the task
    have early : callsOn task before <+: .beginTask task (task + 1 = n) :: within := by
      refine List.prefix_of_prefix_length_le ⟨_, calls⟩ (List.prefix_append _ _) ?_
      have := congrArg List.length calls
      simp only [List.length_append, List.length_cons, List.length_nil] at this ⊢
      omega
    rcases List.mem_cons.1 (early.subset mem) with same | mem
    · cases same
    · exact touches _ mem
  -- The script of the task starts with its begin, which is not the finish, so it came earlier.
  begun := by
    intro task bound finishes
    obtain ⟨within, -, calls⟩ := h.scripts task bound
    rw [callsOn_split (by rw [finishes]; rfl)] at calls
    cases first : callsOn task before with
    | nil =>
      rw [first, finishes] at calls
      injection calls with head
      cases head
    | cons call rest =>
      rw [first] at calls
      injection calls with head
      have mem : call ∈ callsOn task before := by simp [first]
      obtain ⟨earlier, mem, -, eq⟩ := mem_callsOn.1 mem
      exact ⟨earlier, mem, _, eq.trans head⟩

end GpuSync.Batch
