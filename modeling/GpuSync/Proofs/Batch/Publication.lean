import GpuSync.Proofs.Batch.Effect
import GpuSync.Proofs.Batch.KeyTable
import GpuSync.Proofs.Tracker.Changes
import GpuSync.Proofs.Tracker.Refinement
import Mathlib.Data.List.Induction
import Mathlib.Tactic.Common

/-!
# What a batch publishes

A batch changes the tracker once, as it is committed for the first time.

* `Batch.publications` are the changes that a commit makes; `commit_tracker` and `commit_answer` say
  that it makes them, and counts the resources that are tracked.
* `perform_tracker`: no other call changes the tracker.
* `committed_run`: a batch knows whether it was committed.
* `Publishes` says what a first commit does (`publishes_of_open`), and `commits_commute` what the
  commits of two batches do.
* `only_first_commit_publishes` is the result for all runs.
-/

namespace GpuSync.Batch

/-! ## The changes of a commit

A commit walks through its table and changes the tracker at each resource. As the keys of a table
are distinct, the changes can be said as a list of edits in which no key comes twice. -/

/-- What publishing some passages changes: each resource is left in its final usage. -/
def publications (user : BatchUse) (entries : List (Key × Passage)) : Tracker.Changes :=
  entries.map fun entry => (entry.1, (·.leftBy (some entry.2.final) user))

/-- A commit publishes each resource of its table once and in its place. -/
theorem keys_publications (user : BatchUse) (entries : List (Key × Passage)) :
    (publications user entries).map (·.1) = entries.map (·.1) := by
  simp [publications]

/-- Publishing passages in order makes their changes in order. -/
theorem foldl_publish_tracker (batch : Batch) (entries : List (Key × Passage))
    (publication : Publication) :
    (entries.foldl batch.publish publication).tracker =
      publication.tracker.modifyAll (publications batch.user entries) := by
  induction entries generalizing publication with
  | nil => rfl
  | cons entry rest ih =>
    rw [List.foldl_cons, ih]
    have one : (batch.publish publication entry).tracker =
        publication.tracker.modify entry.1 (·.leftBy (some entry.2.final) batch.user) := by
      unfold publish Tracker.update
      dsimp only
      cases found : publication.tracker.lookup entry.1 with
      | none => exact (Tracker.modify_of_lookup_none found _).symm
      | some old => rfl
    rw [one]
    rfl

/-- Publishing passages counts the resources that are tracked. -/
theorem foldl_publish_updated (batch : Batch) (entries : List (Key × Passage))
    {publication : Publication} (h : publication.tracker.WellFormed) :
    (entries.foldl batch.publish publication).updated =
      publication.updated + (entries.map (·.1)).countP publication.tracker.isTracked := by
  induction entries generalizing publication with
  | nil => rfl
  | cons entry rest ih =>
    have tracker := foldl_publish_tracker batch [entry] publication
    rw [List.foldl_cons, List.foldl_nil] at tracker
    have same : (batch.publish publication entry).tracker.isTracked =
        publication.tracker.isTracked := by
      funext key
      rw [tracker, Tracker.isTracked_modifyAll]
    have one : (batch.publish publication entry).updated =
        publication.updated + if publication.tracker.isTracked entry.1 then 1 else 0 := by
      rw [← h.isSome_lookup]
      unfold publish Tracker.update
      dsimp only
      cases publication.tracker.lookup entry.1 with
      | none => rfl
      | some old => rfl
    rw [List.foldl_cons, ih (by rw [tracker]; exact h.modifyAll _), same, one, List.map_cons,
      List.countP_cons]
    omega

/-- The first commit of a batch changes the tracker as its publications say. -/
theorem commit_tracker (batch : Batch) (tracker : Tracker) (open' : batch.committed = false) :
    (batch.commit tracker).tracker =
      tracker.modifyAll (publications batch.user batch.passages.entries) := by
  unfold commit
  rw [if_neg (by simp [open'])]
  exact foldl_publish_tracker batch batch.passages.entries { tracker }

/-- The first commit of a batch answers with the number of its resources that are tracked. -/
theorem commit_answer (batch : Batch) {tracker : Tracker} (h : tracker.WellFormed)
    (open' : batch.committed = false) :
    (batch.commit tracker).answer = .ok (batch.passages.keys.countP tracker.isTracked) := by
  unfold commit
  rw [if_neg (by simp [open'])]
  have count := foldl_publish_updated batch batch.passages.entries
    (show ({ tracker } : Publication).tracker.WellFormed from h)
  rw [Nat.zero_add] at count
  exact congrArg Except.ok count

/-- No call but a commit changes the tracker. -/
theorem perform_tracker (batch : Batch) (tracker : Tracker) {call : Call}
    (other : call ≠ .commit) : (batch.perform tracker call).tracker = tracker := by
  cases call with
  | commit => exact absurd rfl other
  | _ => rfl

/-! ## Whether a batch was committed

The mark of a batch is set by a commit and by nothing else, and no call takes it back. Together with
the user, who never changes, this is all that the tracker ever gets to see of the batch. -/

/-- What a batch keeps until it is committed: who it is, and whether it was committed. These are the
parts of a batch that a commit looks at, apart from its passages. -/
structure Keeps (batch after : Batch) : Prop where
  /-- It is the same batch on the same queue. -/
  user : after.user = batch.user
  /-- It is committed if it was. -/
  committed : after.committed = batch.committed

/-- A batch that is left alone keeps its user and its mark. -/
theorem Keeps.refl (batch : Batch) : Keeps batch batch := ⟨rfl, rfl⟩

/-- What two calls in turn keep, both of them keep. -/
theorem Keeps.trans {a b c : Batch} (h : Keeps a b) (h' : Keeps b c) : Keeps a c :=
  ⟨h'.user.trans h.user, h'.committed.trans h.committed⟩

/-- Only a commit touches the mark of a batch. No call touches its user. -/
theorem Effect.keeps {tracker : Tracker} {batch after : Batch} {call : Call}
    {answer : Except BatchError Reply} {commands : List Command}
    (effect : Effect tracker batch call answer after commands) (other : call ≠ .commit) :
    Keeps batch after := by
  cases effect with
  | committed => exact absurd rfl other
  | _ => exact ⟨rfl, rfl⟩

/-- To use resources with the batch is no commit. -/
theorem keeps_useMany (batch : Batch) (tracker : Tracker) (uses : List (Key × Usage × Usage)) :
    Keeps batch (batch.useMany tracker uses).batch := by
  induction uses generalizing batch with
  | nil => exact .refl batch
  | cons use rest ih =>
    obtain ⟨key, initial, final⟩ := use
    have first : Keeps batch (batch.use tracker key initial final).batch :=
      (Effect.of_use key initial final).keeps nofun
    unfold useMany
    dsimp only
    cases (batch.use tracker key initial final).answer with
    | error reason => exact first
    | ok passage => exact first.trans (ih _)

/-- To declare a resource by default is no commit. -/
theorem keeps_declareDefault (batch : Batch) (tracker : Tracker) (task : Nat) (key : Key) :
    Keeps batch (batch.declareDefault tracker task key).batch := by
  have declares (initial final : Usage) :
      Keeps batch (batch.declare tracker task key initial final).batch :=
    (Effect.of_declare task key initial final).keeps nofun
  unfold declareDefault
  split
  · exact declares _ _
  · dsimp only
    split
    · exact declares _ _
    · exact declares _ _

/-- No call but a commit commits a batch. -/
theorem keeps_perform (batch : Batch) (tracker : Tracker) {call : Call} (other : call ≠ .commit) :
    Keeps batch (batch.perform tracker call).batch := by
  cases call with
  | useAtRest key =>
    exact (Effect.of_use key _ _).keeps nofun
  | useTargets targets => exact keeps_useMany batch tracker _
  | declareDefault task key => exact keeps_declareDefault batch tracker task key
  | _ =>
    refine Effect.keeps (perform_effect batch tracker ?_) other
    trivial

/-- A call never changes on whose behalf the batch uses resources. -/
theorem user_perform (batch : Batch) (tracker : Tracker) (call : Call) :
    (batch.perform tracker call).batch.user = batch.user := by
  by_cases commits : call = .commit
  · subst commits
    show (batch.commit tracker).batch.user = batch.user
    rw [commit_batch]
    rfl
  · exact (keeps_perform batch tracker commits).user

/-- A batch is committed just if it was before or the call is a commit. -/
theorem committed_perform (batch : Batch) (tracker : Tracker) (call : Call) :
    (batch.perform tracker call).batch.committed = true ↔
      batch.committed = true ∨ call = .commit := by
  by_cases commits : call = .commit
  · subst commits
    show (batch.commit tracker).batch.committed = true ↔ _
    rw [commit_batch]
    simp [markCommitted]
  · rw [(keeps_perform batch tracker commits).committed]
    simp [commits]

/-- A batch in a slot that was used before starts like a new one. -/
theorem reset_eq_new (batch : Batch) (id : BatchId) (queue : Queue) :
    batch.reset id queue = new id queue := rfl

/-- A batch knows who it is. -/
theorem user_run (batch : Batch) (calls : List (Tracker × Call)) :
    (batch.run calls).batch.user = batch.user := by
  induction calls using List.reverseRecOn with
  | nil => rfl
  | append_singleton calls call ih =>
    rw [run_append]
    exact (user_perform _ call.1 call.2).trans ih

/-- A batch knows whether it was committed. -/
theorem committed_run (id : BatchId) (queue : Queue) (calls : List (Tracker × Call)) :
    ((new id queue).run calls).batch.committed = true ↔ ∃ call ∈ calls, call.2 = .commit := by
  induction calls using List.reverseRecOn with
  | nil => simp [new]
  | append_singleton calls call ih =>
    rw [run_append]
    refine (committed_perform _ call.1 call.2).trans ?_
    rw [ih]
    simp [or_and_right, exists_or]

/-! ## The first commit, and every later one

A first commit does what its list of edits says, key by key. Commits of batches without a common
resource therefore commute, whatever tracker they meet. -/

/-- What the first commit of a batch does to the tracker it meets. Each resource that the tracker
knows is left in the final usage that the batch declared, with the batch as its last user, and the
answer counts these resources. All other keys are as they were. -/
structure Publishes (batch : Batch) (user : BatchUse) (tracker : Tracker) : Prop where
  /-- It answers how many of its resources are tracked. -/
  answer : (batch.perform tracker .commit).answer =
    .ok (.updated (batch.passages.keys.countP tracker.isTracked))
  /-- Its resources are left in their final usages, by this batch on its queue, and keep where they
  rest and whether they belong to one queue at a time. All others are as before. -/
  lookup : ∀ key, (batch.perform tracker .commit).tracker.lookup key =
    match batch.passage? key with
    | some passage =>
      (tracker.lookup key).map fun entry =>
        { entry with
          current := passage.final
          lastBatch := some user.batch
          lastQueue := some user.queue }
    | none => tracker.lookup key
  /-- No resource is registered or forgotten. -/
  isTracked : ∀ key, (batch.perform tracker .commit).tracker.isTracked key = tracker.isTracked key
  /-- It makes no difference in which order the passages are published. -/
  order : ∀ order : List (Key × Passage), order.Perm batch.passages.entries →
    (order.foldl batch.publish { tracker }).tracker = (batch.perform tracker .commit).tracker ∧
    (order.foldl batch.publish { tracker }).updated =
      batch.passages.keys.countP tracker.isTracked

/-- **The first commit** publishes all of a batch and nothing else. The keys of a table are
distinct, so the edits can be looked at one at a time. -/
theorem publishes_of_open (batch : Batch) {tracker : Tracker} (h : tracker.WellFormed)
    (open' : batch.committed = false) : Publishes batch batch.user tracker := by
  have after : (batch.perform tracker .commit).tracker =
      tracker.modifyAll (publications batch.user batch.passages.entries) :=
    commit_tracker batch tracker open'
  have nodup : ((publications batch.user batch.passages.entries).map (·.1)).Nodup := by
    rw [keys_publications]
    exact batch.passages.nodup_keys
  refine ⟨?_, fun key => ?_, fun key => ?_, fun order same => ⟨?_, ?_⟩⟩
  · exact congrArg (Except.map Reply.updated) (commit_answer batch h open')
  · rw [after, passage?]
    cases found : batch.passages.find? key with
    | some passage =>
      refine Tracker.lookup_modifyAll_of_mem h nodup (List.mem_map.2 ⟨(key, passage), ?_, rfl⟩)
      exact batch.passages.mem_entries_iff.2 found
    | none =>
      refine Tracker.lookup_modifyAll_of_notMem h fun mem => ?_
      rw [keys_publications] at mem
      have known := batch.passages.mem_keys_iff.1 mem
      rw [found] at known
      cases known
  · rw [after, Tracker.isTracked_modifyAll]
  · rw [after, foldl_publish_tracker]
    refine (Tracker.modifyAll_perm ?_ nodup h).symm
    exact (same.map _).symm
  · have met : ({ tracker } : Publication).tracker.WellFormed := h
    rw [foldl_publish_updated batch order met, Nat.zero_add]
    exact (same.map _).countP_eq _

/-- A commit that publishes nothing any more leaves the tracker as it is. -/
theorem commit_tracker_eq (batch : Batch) (tracker : Tracker) :
    (batch.perform tracker .commit).tracker =
      tracker.modifyAll
        (if batch.committed then [] else publications batch.user batch.passages.entries) := by
  cases state : batch.committed with
  | true => exact congrArg Commit.tracker (commit_of_committed state tracker)
  | false => exact commit_tracker batch tracker state

/-- **Commits of batches without a common resource** may come in either order. -/
theorem commits_commute (first second : Batch) {tracker : Tracker} (h : tracker.WellFormed)
    (disjoint : ∀ key, first.passage? key = none ∨ second.passage? key = none) :
    (second.perform (first.perform tracker .commit).tracker .commit).tracker =
      (first.perform (second.perform tracker .commit).tracker .commit).tracker := by
  have nodup (batch : Batch) : ((if batch.committed then []
      else publications batch.user batch.passages.entries).map (·.1)).Nodup := by
    split
    · exact .nil
    · rw [keys_publications]
      exact batch.passages.nodup_keys
  have declared (batch : Batch) {key : Key} (mem : key ∈ (if batch.committed then []
      else publications batch.user batch.passages.entries).map (·.1)) :
      (batch.passage? key).isSome = true := by
    split at mem
    · cases mem
    · rw [keys_publications] at mem
      exact batch.passages.mem_keys_iff.1 mem
  rw [commit_tracker_eq second, commit_tracker_eq first, commit_tracker_eq first,
    commit_tracker_eq second, ← Tracker.modifyAll_append, ← Tracker.modifyAll_append]
  refine Tracker.modifyAll_perm List.perm_append_comm ?_ h
  rw [List.map_append]
  refine List.nodup_append.2 ⟨nodup first, nodup second, ?_⟩
  rintro key mem _ mem' rfl
  have known := declared first mem
  have known' := declared second mem'
  rcases disjoint key with none | none
  · rw [none] at known
    cases known
  · rw [none] at known'
    cases known'

/-- **Only a first commit publishes.** Take a batch after any calls and a tracker after any calls.

No call on the batch changes a tracker unless it is the first commit. The first commit publishes all
of the batch, once (`Publishes`). Every later commit is refused and changes nothing. Commits of two
batches without a common resource may come in either order. -/
theorem only_first_commit_publishes (id : BatchId) (queue : Queue) (calls : List (Tracker × Call))
    (trackerCalls : List Tracker.Call) :
    let batch := ((new id queue).run calls).batch
    let tracker := (Tracker.runWith Tracker.perform .empty trackerCalls).2
    (∀ (met : Tracker) (call : Call),
      (call = .commit → ∃ earlier ∈ calls, earlier.2 = .commit) →
        (batch.perform met call).tracker = met) ∧
    ((∀ earlier ∈ calls, earlier.2 ≠ .commit) → Publishes batch ⟨id, queue⟩ tracker) ∧
    ((∃ earlier ∈ calls, earlier.2 = .commit) → ∀ met : Tracker,
      batch.perform met .commit = ⟨.error (.alreadyCommitted id), batch, met, [], []⟩) ∧
    (∀ (id' : BatchId) (queue' : Queue) (calls' : List (Tracker × Call)),
      let other := ((new id' queue').run calls').batch
      (∀ key, batch.passage? key = none ∨ other.passage? key = none) →
        (other.perform (batch.perform tracker .commit).tracker .commit).tracker =
          (batch.perform (other.perform tracker .commit).tracker .commit).tracker) := by
  intro batch tracker
  have wellFormed : tracker.WellFormed :=
    (Tracker.represents_empty.runWith trackerCalls).2.wellFormed
  have user : batch.user = ⟨id, queue⟩ := user_run (new id queue) calls
  have state : batch.committed = true ↔ ∃ call ∈ calls, call.2 = .commit :=
    committed_run id queue calls
  have later (done : ∃ earlier ∈ calls, earlier.2 = .commit) (met : Tracker) :
      batch.perform met .commit = ⟨.error (.alreadyCommitted id), batch, met, [], []⟩ := by
    have eq := congrArg Commit.turn (commit_of_committed (state.2 done) met)
    rw [show batch.id = id from congrArg BatchUse.batch user] at eq
    exact eq
  refine ⟨fun met call first => ?_, fun first => ?_, later, fun id' queue' calls' disjoint => ?_⟩
  · by_cases commits : call = .commit
    · rw [commits, later (first commits)]
    · exact perform_tracker batch met commits
  · have open' : batch.committed = false := by
      refine eq_false_of_ne_true fun done => ?_
      obtain ⟨earlier, mem, commits⟩ := state.1 done
      exact first earlier mem commits
    rw [← user]
    exact publishes_of_open batch wellFormed open'
  · exact commits_commute batch _ wellFormed disjoint

end GpuSync.Batch
