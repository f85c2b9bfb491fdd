import GpuSync.Proofs.Batch.Handover
import GpuSync.Proofs.Batch.Publication

/-!
# Batches that share a tracker

Several batches are declared, recorded and committed in any order, and commits alone change the
tracker they share. The owner that a batch finds when it first declares a resource decides whether
it hands the resource over, whatever other batches commit in between.

* `Batch.Fleet` is a tracker with its batches, and `Batch.Fleet.run` carries calls on them out.
* `Batch.Fleet.Sound` is what holds of all batches, and `Batch.Fleet.Owes` of one that knows a
  resource.
* **`Batch.Fleet.handed_over_as_foreseen`**: a batch all of whose tasks have begun has emitted the
  hand-over that the tracker asked for when the resource was declared, once, and no other. So a
  resource changes its queue with a hand-over if its last queue is still the one it was then.
* `Batch.Fleet.overtaken_without_handover`: if another batch commits in between, there is none.
-/

namespace GpuSync.Batch

/-! ## One batch

For the owner of a resource, a call is one of two things: the first declaration, or one that moves
what is queued. The count of hand-overs, emitted or queued, does not tell these two places apart,
and is therefore kept by all calls but first declarations. -/

/-- The barriers that the calls of a run emitted. -/
def Run.barriers (run : Run) : List Barrier :=
  run.log.flatMap fun event => Command.barriers event.commands

/-- A run goes on to emit what its last call emits. -/
theorem Run.barriers_next (run : Run) (tracker : Tracker) (call : Call) :
    (run.next (tracker, call)).barriers =
      run.barriers ++ Command.barriers (run.batch.perform tracker call).commands := by
  unfold Run.barriers Run.next
  rw [List.flatMap_append, List.flatMap_singleton]

/-- The changes of queue of one resource that were emitted or are queued. -/
def Run.handovers (run : Run) (key : Key) : List QueueTransfer :=
  transfers key run.barriers ++ transfers key run.batch.queued

/-- Every call of a batch moves transfers as `Moves` says, those made of other calls included. -/
theorem moves_perform (batch : Batch) (tracker : Tracker) (call : Call) (key : Key) :
    Moves tracker key batch (batch.perform tracker call).batch
      (batch.perform tracker call).commands :=
  perform_induction (R := Moves tracker key batch) tracker (.refl tracker key batch)
    (fun h effect => h.trans effect.moves) call

/-- No call queues anything for a task that has begun. -/
theorem emptied_perform {batch : Batch} (h : batch.Emptied) (tracker : Tracker) (call : Call) :
    (batch.perform tracker call).batch.Emptied :=
  perform_induction (R := fun after _ => after.Emptied) tracker h
    (fun h effect => effect.emptied h) call

/-- A new batch has no task for which anything could be queued. -/
theorem emptied_new (id : BatchId) (queue : Queue) : (new id queue).Emptied :=
  fun _ _ found => nomatch found

/-- One more call adds a hand-over if it makes the resource known. -/
theorem Run.handovers_next (run : Run) (tracker : Tracker) (call : Call) (key : Key) :
    ((run.next (tracker, call)).handovers key).Perm
      (run.handovers key ++ newly tracker key run.batch (run.next (tracker, call)).batch) := by
  have moves := (moves_perform run.batch tracker call key).transfers
  unfold handovers
  rw [barriers_next, transfers_append, List.append_assoc, List.append_assoc]
  exact moves.append_left _

/-! ## Several batches

The batches see each other through the tracker alone, and change it only as they commit. A commit
writes owners and usages, and never whether a resource is exclusive, so this can be read off the
tracker at any time. -/

/-- Batches that share a tracker. No order is fixed among the calls on different batches. -/
structure Fleet where
  /-- The tracker. -/
  tracker : Tracker
  /-- The batches with what was called on them. -/
  members : List Run

namespace Fleet

/-- Batches that are new, each on its queue. -/
def start (tracker : Tracker) (users : List BatchUse) : Fleet :=
  ⟨tracker, users.map fun user => { batch := new user.batch user.queue }⟩

/-- Batches that are new, and a tracker after some calls. -/
def setOut (trackerCalls : List Tracker.Call) (users : List BatchUse) : Fleet :=
  start (Tracker.runWith Tracker.perform .empty trackerCalls).2 users

/-- Goes on with a call on one of the batches. -/
def next (fleet : Fleet) (act : Nat × Call) : Fleet :=
  match fleet.members[act.1]? with
  | none => fleet
  | some run =>
    { tracker := (run.batch.perform fleet.tracker act.2).tracker
      members := fleet.members.set act.1 (run.next (fleet.tracker, act.2)) }

/-- Carries calls out in order. -/
def run (fleet : Fleet) (acts : List (Nat × Call)) : Fleet := acts.foldl next fleet

/-- A fleet goes on with its last act. -/
@[simp] theorem run_append (fleet : Fleet) (acts : List (Nat × Call)) (act : Nat × Call) :
    fleet.run (acts ++ [act]) = (fleet.run acts).next act := by
  simp [run]

/-- Whether one of the batches uses a resource. -/
def knows (fleet : Fleet) (i : Nat) (key : Key) : Bool :=
  fleet.members[i]?.any (·.batch.knows key)

/-- What a call on one of the batches leaves of each. -/
theorem getElem?_next (fleet : Fleet) (i : Nat) (call : Call) (j : Nat) :
    (fleet.next (i, call)).members[j]? =
      if j = i then fleet.members[j]?.map fun run => run.next (fleet.tracker, call)
      else fleet.members[j]? := by
  unfold next
  dsimp only
  cases found : fleet.members[i]? with
  | none =>
    by_cases same : j = i
    · rw [if_pos same, same, found]
      rfl
    · rw [if_neg same]
  | some run =>
    show (fleet.members.set i _)[j]? = _
    have bound := (List.getElem?_eq_some_iff.1 found).1
    rw [List.getElem?_set]
    by_cases same : i = j
    · subst same
      rw [if_pos rfl, if_pos bound, if_pos rfl, found]
      rfl
    · rw [if_neg same, if_neg (Ne.symm same)]

/-- What holds of all batches. -/
structure Sound (fleet : Fleet) : Prop where
  /-- The parts of the tracker fit together. -/
  wellFormed : fleet.tracker.WellFormed
  /-- Tasks that have begun have emitted what was queued for them. -/
  emptied : ∀ (i : Nat) (run : Run), fleet.members[i]? = some run → run.batch.Emptied
  /-- A batch does not hand over what it does not use. -/
  unaware : ∀ (i : Nat) (run : Run) (key : Key), fleet.members[i]? = some run →
    run.batch.knows key = false → run.handovers key = []

/-- A batch uses a resource, and has handed it over as was due, or will. What is owed is a list,
which has no transfer or one. -/
def Owes (fleet : Fleet) (i : Nat) (key : Key) (due : Option QueueTransfer) : Prop :=
  ∃ run, fleet.members[i]? = some run ∧ run.batch.knows key = true ∧
    (run.handovers key).Perm due.toList

section

variable {fleet : Fleet} {key : Key}

/-- Batches that are new are sound with any tracker that is well formed. -/
theorem sound_start {tracker : Tracker} (h : tracker.WellFormed) (users : List BatchUse) :
    (start tracker users).Sound := by
  have fresh (i : Nat) (run : Run) (found : (start tracker users).members[i]? = some run) :
      ∃ user : BatchUse, run = { batch := new user.batch user.queue } := by
    obtain ⟨user, -, same⟩ := List.mem_map.1 (List.mem_of_getElem? found)
    exact ⟨user, same.symm⟩
  refine ⟨h, fun i run found => ?_, fun i run key found _ => ?_⟩
  · obtain ⟨user, rfl⟩ := fresh i run found
    exact emptied_new user.batch user.queue
  · obtain ⟨user, rfl⟩ := fresh i run found
    rfl

/-- Batches that are new are sound with any tracker that calls lead to. -/
theorem sound_setOut (trackerCalls : List Tracker.Call) (users : List BatchUse) :
    (setOut trackerCalls users).Sound :=
  sound_start (Tracker.represents_empty.runWith trackerCalls).2.wellFormed users

/-- A commit leaves a resource to one queue at a time, or not, as it was. So the batches of a fleet
cannot make a resource exclusive, or common to all queues. -/
theorem perform_exclusive (batch : Batch) {tracker : Tracker} (h : tracker.WellFormed)
    (call : Call) (key : Key) :
    (batch.perform tracker call).tracker.WellFormed ∧
      ((batch.perform tracker call).tracker.lookup key).map (·.exclusive) =
        (tracker.lookup key).map (·.exclusive) := by
  by_cases commits : call = .commit
  · subst commits
    refine ⟨?_, ?_⟩
    · rw [commit_tracker_eq]
      exact h.modifyAll _
    · cases open' : batch.committed with
      | true =>
        have same := congrArg Commit.tracker (commit_of_committed open' tracker)
        exact congrArg (fun after : Tracker => (after.lookup key).map (·.exclusive)) same
      | false =>
        rw [(publishes_of_open batch h open').lookup key]
        cases batch.passage? key with
        | none => rfl
        | some passage =>
          rw [Option.map_map]
          rfl
  · rw [perform_tracker batch tracker commits]
    exact ⟨h, rfl⟩

/-- An act on one batch keeps all of them sound: the others only see the tracker change, and no call
changes who owns a resource exclusively. -/
theorem Sound.next (h : fleet.Sound) (act : Nat × Call) : (fleet.next act).Sound := by
  obtain ⟨i, call⟩ := act
  refine {
    wellFormed := ?wellFormed
    emptied := fun j later found => ?emptied
    unaware := fun j later key found unknown => ?unaware }
  case wellFormed =>
    unfold Fleet.next
    split
    · exact h.wellFormed
    · rename_i run _
      exact (perform_exclusive run.batch h.wellFormed call ⟨.image, ⟨0⟩⟩).1
  case emptied =>
    rw [getElem?_next] at found
    split at found
    · obtain ⟨run, member, rfl⟩ := Option.map_eq_some_iff.1 found
      exact emptied_perform (h.emptied j run member) fleet.tracker call
    · exact h.emptied j later found
  case unaware =>
    rw [getElem?_next] at found
    split at found
    · obtain ⟨run, member, rfl⟩ := Option.map_eq_some_iff.1 found
      have moves := moves_perform run.batch fleet.tracker call key
      have before : run.batch.knows key = false := by
        refine eq_false_of_ne_true fun known => ?_
        have later : (run.next (fleet.tracker, call)).batch.knows key = true := moves.knows known
        rw [later] at unknown
        cases unknown
      -- A batch that still does not know the resource did not know it before, so it had no
      -- transfers, and the call added none.
      have added := run.handovers_next fleet.tracker call key
      rw [h.unaware j run key member before,
        newly_of_knows_eq fleet.tracker (unknown.trans before.symm)] at added
      exact List.perm_nil.1 added
    · exact h.unaware j later key found unknown

/-- Every run keeps the batches sound. -/
theorem Sound.run (h : fleet.Sound) (acts : List (Nat × Call)) : (fleet.run acts).Sound := by
  induction acts using List.reverseRecOn with
  | nil => exact h
  | append_singleton acts act ih =>
    rw [run_append]
    exact ih.next act

/-- No act of a batch changes whether a resource is exclusive. -/
theorem exclusive_next (h : fleet.Sound) (act : Nat × Call) (key : Key) :
    ((fleet.next act).tracker.lookup key).map (·.exclusive) =
      (fleet.tracker.lookup key).map (·.exclusive) := by
  unfold next
  split
  · rfl
  · rename_i run _
    exact (perform_exclusive run.batch h.wellFormed act.2 key).2

/-- No run changes whether a resource is exclusive. -/
theorem exclusive_run (h : fleet.Sound) (acts : List (Nat × Call)) (key : Key) :
    ((fleet.run acts).tracker.lookup key).map (·.exclusive) =
      (fleet.tracker.lookup key).map (·.exclusive) := by
  induction acts using List.reverseRecOn with
  | nil => rfl
  | append_singleton acts act ih =>
    rw [run_append, exclusive_next (h.run acts) act, ih]

/-! ## The batch that declares a resource

From its first declaration on, a batch owes the transfer that the tracker asked for at that time.
What the other batches do to the tracker afterwards does not enter into what is owed. -/

/-- What a fleet knows of a member is what the batch of that member knows. -/
theorem knows_eq {i : Nat} {run : Run} (member : fleet.members[i]? = some run) :
    fleet.knows i key = run.batch.knows key := by
  unfold knows
  rw [member]
  rfl

/-- With its first declaration a batch owes what the tracker asks for. From then on the tracker is
not asked for this resource by this batch any more. -/
theorem Sound.owes (h : fleet.Sound) {i : Nat} {call : Call}
    (unknown : fleet.knows i key = false) (known : (fleet.next (i, call)).knows i key = true) :
    ∃ run, fleet.members[i]? = some run ∧
      (fleet.next (i, call)).Owes i key (handover? fleet.tracker key run.batch.queue) := by
  -- The member exists, since the call made the resource known to it.
  cases member : fleet.members[i]? with
  | none =>
    unfold knows at known
    rw [getElem?_next, if_pos rfl, member] at known
    cases known
  | some run =>
    have member' : (fleet.next (i, call)).members[i]? =
        some (run.next (fleet.tracker, call)) := by
      rw [getElem?_next, if_pos rfl, member]
      rfl
    rw [knows_eq member] at unknown
    rw [knows_eq member'] at known
    refine ⟨run, rfl, _, member', known, ?_⟩
    -- Before, it had no transfers for the resource. By this call it gets what the tracker asks for.
    have added := run.handovers_next fleet.tracker call key
    rw [h.unaware i run key member unknown, List.nil_append, newly,
      if_pos ⟨unknown, known⟩] at added
    exact added

/-- What a batch owes stays the same from then on. It may be emitted by the call, or stay queued;
together it is the same. -/
theorem Owes.next {i : Nat} {due : Option QueueTransfer} (h : fleet.Owes i key due)
    (act : Nat × Call) : (fleet.next act).Owes i key due := by
  obtain ⟨run, member, known, owed⟩ := h
  obtain ⟨j, call⟩ := act
  by_cases same : i = j
  · subst same
    have known' : (run.next (fleet.tracker, call)).batch.knows key = true :=
      (moves_perform run.batch fleet.tracker call key).knows known
    refine ⟨run.next (fleet.tracker, call), ?_, known', ?_⟩
    · rw [getElem?_next, if_pos rfl, member]
      rfl
    · have added := run.handovers_next fleet.tracker call key
      rw [newly_of_knows_eq fleet.tracker (known'.trans known.symm), List.append_nil] at added
      exact added.trans owed
  · exact ⟨run, by rw [getElem?_next, if_neg same, member], known, owed⟩

/-- A transfer that is owed stays owed until it is emitted, whatever the batches do. -/
theorem Owes.run {i : Nat} {due : Option QueueTransfer} (h : fleet.Owes i key due)
    (acts : List (Nat × Call)) : (fleet.run acts).Owes i key due := by
  induction acts using List.reverseRecOn with
  | nil => exact h
  | append_singleton acts act ih =>
    rw [run_append]
    exact ih.next act

/-- A batch stays on its queue. -/
theorem queue_run {i : Nat} {run later : Run} (member : fleet.members[i]? = some run)
    (acts : List (Nat × Call)) (member' : (fleet.run acts).members[i]? = some later) :
    later.batch.queue = run.batch.queue := by
  induction acts using List.reverseRecOn generalizing later with
  | nil =>
    cases member.symm.trans member'
    rfl
  | append_singleton acts act ih =>
    obtain ⟨j, call⟩ := act
    rw [run_append, getElem?_next] at member'
    split at member'
    · obtain ⟨before, member'', rfl⟩ := Option.map_eq_some_iff.1 member'
      rw [← ih member'']
      exact congrArg BatchUse.queue (user_perform before.batch _ call)
    · exact ih member'

end

/-- **Resources are handed over as foreseen.** Take batches on any queues, and a tracker that they
alone change, by committing. Say that a batch first declares a resource when the tracker is as in
`early`, and that later all of its tasks, of which there is one at least, have begun.

Then the batch has emitted the hand-over of the resource that the tracker asked for in `early`, if
it asked for one, and no other.

So if the resource belongs to one queue at a time, and was last used on another queue than that of
the batch, which is so before the batch commits, then exactly one barrier has handed it over from
that queue to this, provided that this was its last queue in `early` already. -/
theorem handed_over_as_foreseen (trackerCalls : List Tracker.Call) (users : List BatchUse)
    (before after : List (Nat × Call)) (i : Nat) (call : Call) (key : Key) {run : Run}
    (unknown : ((setOut trackerCalls users).run before).knows i key = false)
    (declared : ((setOut trackerCalls users).run (before ++ [(i, call)])).knows i key = true)
    (member : ((setOut trackerCalls users).run (before ++ [(i, call)] ++ after)).members[i]? =
      some run)
    (started : 0 < run.batch.taskCount)
    (recorded : ∀ task < run.batch.taskCount, run.batch.isBegun task = true) :
    let early := ((setOut trackerCalls users).run before).tracker
    let late := ((setOut trackerCalls users).run (before ++ [(i, call)] ++ after)).tracker
    transfers key run.barriers = (handover? early key run.batch.queue).toList ∧
      ∀ entry src, late.lookup key = some entry → entry.exclusive = true →
        entry.lastQueue = some src → src ≠ run.batch.queue →
        (early.lookup key).bind (·.lastQueue) = some src →
        transfers key run.barriers = [⟨src, run.batch.queue⟩] := by
  have sound : ((setOut trackerCalls users).run before).Sound :=
    (sound_setOut trackerCalls users).run before
  generalize setOut trackerCalls users = fleet at *
  intro early late
  have join : fleet.run (before ++ [(i, call)] ++ after) =
      ((fleet.run before).next (i, call)).run after := by
    simp [Fleet.run]
  rw [run_append] at declared
  rw [join] at member
  -- What is owed from the first declaration on is owed at the end.
  obtain ⟨former, was, owes⟩ := sound.owes unknown declared
  obtain ⟨other, member', -, owed⟩ := owes.run after
  obtain rfl := Option.some.inj (member.symm.trans member')
  have queue : run.batch.queue = former.batch.queue := by
    refine queue_run was ((i, call) :: after) ?_
    rw [← member]
    rfl
  -- All tasks have begun, so that nothing is queued and all that was owed was emitted.
  have emptied := (((sound.next (i, call)).run after).emptied i run member).queued_eq_nil
    (List.length_pos_iff.1 started) recorded
  have emitted : transfers key run.barriers = (handover? early key run.batch.queue).toList := by
    unfold Run.handovers at owed
    rw [emptied, transfers_nil, List.append_nil, ← queue] at owed
    cases due : handover? early key run.batch.queue with
    | none =>
      rw [show handover? (fleet.run before).tracker key _ = _ from due] at owed
      exact List.perm_nil.1 owed
    | some transfer =>
      rw [show handover? (fleet.run before).tracker key _ = _ from due] at owed
      exact List.perm_singleton.1 owed
  refine ⟨emitted, fun entry src found exclusive _ other owner => ?_⟩
  -- Only calls on the tracker change whether a resource is exclusive, and there were none since.
  have kept : (late.lookup key).map (·.exclusive) = (early.lookup key).map (·.exclusive) := by
    show ((fleet.run _).tracker.lookup key).map _ = _
    rw [join]
    exact exclusive_run sound ((i, call) :: after) key
  rw [found] at kept
  obtain ⟨former, found', last⟩ := Option.bind_eq_some_iff.1 owner
  rw [found', Option.map_some, Option.map_some, exclusive] at kept
  have due : handover? early key run.batch.queue = some ⟨src, run.batch.queue⟩ := by
    unfold handover?
    rw [found', Option.bind_eq_bind, Option.bind_some, last, Option.bind_eq_bind,
      Option.bind_some, ← Option.some.inj kept, if_pos (by simpa using other)]
  rw [emitted, due]
  rfl

/-- A buffer that belongs to one queue at a time, before any queue used it. -/
def unused : List Tracker.Call := [.add 0 ⟨.buffer, ⟨0⟩⟩ .shaderRead .shaderRead none]

/-- A batch on the graphics queue, and one on the queue beside it. -/
def neighbours : List BatchUse := [⟨⟨0, 0⟩, .graphics⟩, ⟨⟨1, 0⟩, .asyncCompute⟩]

/-- A batch declares the buffer and is committed. -/
def passingBy (i : Nat) : List (Nat × Call) :=
  [(i, .use ⟨.buffer, ⟨0⟩⟩ .shaderRead .shaderRead), (i, .commit)]

/-- A batch records its one task. -/
def recording (i : Nat) : List (Nat × Call) :=
  [(i, .createTask), (i, .beginTask 0 true), (i, .finish 0)]

/-- The second batch declares the buffer after the first was committed. -/
theorem handed_over_as_foreseen_inTurn :
    ∃ run, ((setOut unused neighbours).run (passingBy 0 ++
        [(1, .use ⟨.buffer, ⟨0⟩⟩ .shaderRead .shaderRead)] ++ recording 1)).members[1]? =
        some run ∧
      transfers ⟨.buffer, ⟨0⟩⟩ run.barriers = [⟨.graphics, .asyncCompute⟩] := by
  obtain ⟨run, member, started, begun, queue⟩ : ∃ run,
      ((setOut unused neighbours).run (passingBy 0 ++
        [(1, .use ⟨.buffer, ⟨0⟩⟩ .shaderRead .shaderRead)] ++ recording 1)).members[1]? =
        some run ∧ run.batch.taskCount = 1 ∧ run.batch.isBegun 0 = true ∧
        run.batch.queue = .asyncCompute := ⟨_, rfl, rfl, rfl, rfl⟩
  obtain ⟨-, handed⟩ := handed_over_as_foreseen unused neighbours (passingBy 0) (recording 1) 1
    (.use ⟨.buffer, ⟨0⟩⟩ .shaderRead .shaderRead) ⟨.buffer, ⟨0⟩⟩ (by decide +kernel)
    (by decide +kernel) member (by omega) (by
      intro task bound
      obtain rfl : task = 0 := by omega
      exact begun)
  rw [queue] at handed
  refine ⟨run, member, handed ⟨.shaderRead, .shaderRead, some ⟨0, 0⟩, some .graphics, true⟩
    .graphics ?_ rfl rfl (by decide) ?_⟩
  · decide +kernel
  · decide +kernel

/-- **A hand-over that is not foreseen is missing.** The second batch declares the buffer before any
queue used it, and is recorded once the first is committed. As it is to be committed itself, the
buffer belongs to one queue at a time and was last used on the queue of the first, so that it should
have been handed over; but the second batch has emitted no barriers. -/
theorem overtaken_without_handover :
    ∃ run entry,
      ((setOut unused neighbours).run ((1, .use ⟨.buffer, ⟨0⟩⟩ .shaderRead .shaderRead) ::
        passingBy 0 ++ recording 1)).members[1]? = some run ∧
      ((setOut unused neighbours).run ((1, .use ⟨.buffer, ⟨0⟩⟩ .shaderRead .shaderRead) ::
        passingBy 0 ++ recording 1)).tracker.lookup ⟨.buffer, ⟨0⟩⟩ = some entry ∧
      run.log.all (·.accepted) = true ∧ run.batch.committed = false ∧
      run.batch.queue = .asyncCompute ∧ run.batch.knows ⟨.buffer, ⟨0⟩⟩ = true ∧
      run.batch.taskCount = 1 ∧ run.log.any (·.call = .finish 0) = true ∧
      entry.exclusive = true ∧ entry.lastQueue = some .graphics ∧ run.barriers = [] :=
  ⟨_, _, rfl, rfl, rfl, rfl, rfl, rfl, rfl, rfl, rfl, rfl, rfl⟩

end Fleet

end GpuSync.Batch
