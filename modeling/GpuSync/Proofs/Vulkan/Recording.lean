import GpuSync.Command.Transcript
import GpuSync.Vulkan.Recorder

/-!
# Recording for the device and for later

The same commands may be written down in a transcript or carried out on a command buffer. The
transcript keeps the groups of barriers as they are; the recorder has only Vulkan's form of the
barriers that are queued, in three lists, and makes no call while these are empty.

* `Lookup.translate` is the form that Vulkan has for a group of barriers. It is made barrier by
  barrier (`Lookup.translate_append`), and has one entry for every barrier whose resource is known
  (`Lookup.size_translate`).
* `Recorder.Follows` says that a recorder has the form of what is queued in a transcript.
  `Recorder.Follows.apply` is the step lemma: it goes on doing so, and the calls it makes are those
  for the groups that the transcript gets.
* **`Recorder.records_every_group`** is the result for all commands, followed by closing the
  recorder.
-/

namespace GpuSync.Vulkan

/-! ## Groups in Vulkan's form

A group is put into Vulkan's form barrier by barrier, and pushing is appending. So the form of a
group does not depend on where it is cut. -/

namespace Barriers

/-- The barriers of two collections. -/
def append (a b : Barriers) : Barriers :=
  ⟨a.memory ++ b.memory, a.buffers ++ b.buffers, a.images ++ b.images⟩

/-- How many barriers there are. -/
def size (barriers : Barriers) : Nat :=
  barriers.memory.length + barriers.buffers.length + barriers.images.length

/-- Nothing is appended. -/
@[simp] theorem append_empty (barriers : Barriers) : barriers.append {} = barriers := by
  simp [append]

/-- Something is appended to nothing. -/
@[simp] theorem empty_append (barriers : Barriers) : append {} barriers = barriers := by
  simp [append]

/-- It makes no difference where a collection is cut. -/
theorem append_assoc (a b c : Barriers) : (a.append b).append c = a.append (b.append c) := by
  simp [append]

/-- Collections appended have as many barriers as both. -/
theorem size_append (a b : Barriers) : (a.append b).size = a.size + b.size := by
  simp only [size, append, List.length_append]
  omega

/-- A collection without barriers is the empty one. -/
theorem isEmpty_iff (barriers : Barriers) : barriers.isEmpty = true ↔ barriers = {} := by
  obtain ⟨memory, buffers, images⟩ := barriers
  simp [isEmpty, and_assoc]

end Barriers

namespace Lookup

/-- Whether the resource of a barrier is known, or need not be. -/
def knows (lookup : Lookup) (barrier : Barrier) : Bool :=
  match barrier.key with
  | some ⟨.image, handle⟩ => (lookup.image handle).isSome
  | some ⟨.buffer, handle⟩ => (lookup.buffer handle).isSome
  | some ⟨.rtGeometry, _⟩ | some ⟨.rtScene, _⟩ | none => true

/-- A group of barriers in Vulkan's form: each is pushed, in order. -/
def translate (lookup : Lookup) (group : List Barrier) : Barriers :=
  (Barriers.addAll (·.push · lookup) group {}).2.1

variable (lookup : Lookup)

/-- No barrier, nothing to record. -/
@[simp] theorem translate_nil : lookup.translate [] = {} := rfl

/-- What is pushed does not depend on what was pushed before, and it is one entry if the resource
is known and none if it is not. -/
theorem push_eq (barriers : Barriers) (barrier : Barrier) :
    (barriers.push barrier lookup).barriers = barriers.append (lookup.translate [barrier]) ∧
      (lookup.translate [barrier]).size = if lookup.knows barrier then 1 else 0 := by
  unfold translate Barriers.addAll Barriers.push Barriers.addHalf knows
  rcases barrier with ⟨_ | ⟨_ | _ | _ | _, handle⟩, src, dst, discard, transfer⟩
  case some.image =>
    cases found : lookup.image handle <;>
      simp [found, Barriers.addAll, Barriers.append, Barriers.size, Barriers.leaveOut]
  case some.buffer =>
    cases found : lookup.buffer handle <;>
      simp [found, Barriers.addAll, Barriers.append, Barriers.size, Barriers.leaveOut]
  all_goals simp [Barriers.addAll, Barriers.append, Barriers.size]

/-- Pushing a group onto a collection appends the form of the group. -/
theorem addAll_push (group : List Barrier) (barriers : Barriers) :
    (Barriers.addAll (·.push · lookup) group barriers).2.1 =
      barriers.append (lookup.translate group) := by
  induction group generalizing barriers with
  | nil => simp [Barriers.addAll]
  | cons barrier rest ih =>
    have first (barriers : Barriers) :
        (Barriers.addAll (·.push · lookup) (barrier :: rest) barriers).2.1 =
          (barriers.append (lookup.translate [barrier])).append (lookup.translate rest) := by
      rw [← (lookup.push_eq barriers barrier).1, ← ih]
      rfl
    have alone : lookup.translate (barrier :: rest) =
        (lookup.translate [barrier]).append (lookup.translate rest) :=
      (first {}).trans (by rw [Barriers.empty_append])
    rw [first, alone, Barriers.append_assoc]

/-- A group is put into Vulkan's form barrier by barrier. -/
theorem translate_cons (barrier : Barrier) (rest : List Barrier) :
    lookup.translate (barrier :: rest) =
      (lookup.translate [barrier]).append (lookup.translate rest) :=
  lookup.addAll_push rest _

/-- Groups are translated part by part. -/
theorem translate_append (a b : List Barrier) :
    lookup.translate (a ++ b) = (lookup.translate a).append (lookup.translate b) := by
  induction a with
  | nil => simp
  | cons barrier rest ih =>
    rw [List.cons_append, translate_cons, ih, lookup.translate_cons barrier rest,
      Barriers.append_assoc]

/-- Every barrier whose resource is known has one entry, and no other barrier has any. -/
theorem size_translate (group : List Barrier) :
    (lookup.translate group).size = group.countP lookup.knows := by
  induction group with
  | nil => rfl
  | cons barrier rest ih =>
    rw [translate_cons, Barriers.size_append, ih, (lookup.push_eq {} barrier).2,
      List.countP_cons, Nat.add_comm]

end Lookup

/-! ## Recording

The recorder keeps the form of what the transcript keeps as it was queued. A group whose form is
empty, since nothing in it is known, is recorded by no call. -/

/-- The barriers that a call records, with the command buffer. -/
def Call.group? : Call → Option (UInt64 × Barriers)
  | .pipelineBarrier buffer barriers => some (buffer, barriers)
  | .insertLabel .. => none

namespace Recorder

/-- What has to be recorded for some groups: their form in order, but for those that have none. -/
def Setup.record (setup : Setup) (groups : List (List Barrier)) : List (UInt64 × Barriers) :=
  ((groups.map setup.lookup.translate).filter fun group => !group.isEmpty).map (setup.buffer, ·)

/-- Groups are recorded one after the other. -/
theorem Setup.record_append (setup : Setup) (a b : List (List Barrier)) :
    setup.record (a ++ b) = setup.record a ++ setup.record b := by
  simp [record]

/-- A group without barriers is not recorded. -/
theorem Setup.record_nil (setup : Setup) : setup.record [[]] = [] := by
  simp [record, Barriers.isEmpty]

/-- What is queued in a recorder is the form of what is queued in a transcript. -/
def Follows (recorder : Recorder) (transcript : Transcript) : Prop :=
  recorder.pending = recorder.setup.lookup.translate transcript.pending

section

variable {recorder : Recorder} {transcript : Transcript}

/-- Recording what is queued is one call, or none if it has no form. An empty form is not recorded,
as a call without barriers would be for nothing. -/
theorem Follows.flush (follows : recorder.Follows transcript) :
    recorder.flush.recorder = { recorder with pending := {} } ∧
      recorder.flush.calls.filterMap Call.group? = recorder.setup.record [transcript.pending] := by
  unfold Recorder.flush Setup.record
  rw [List.map_singleton, ← follows]
  cases empty : recorder.pending.isEmpty with
  | true =>
    have none := (Barriers.isEmpty_iff _).1 empty
    simp [empty, ← none]
  | false => simp [empty, Call.group?]

/-- **One command.** The recorder follows the transcript, and records the groups that the transcript
gets. -/
theorem Follows.apply (follows : recorder.Follows transcript) (command : Command) :
    (recorder.apply command).recorder.setup = recorder.setup ∧
      (recorder.apply command).recorder.Follows (transcript.apply command) ∧
      ∃ more, (transcript.apply command).groups = transcript.groups ++ more ∧
        (recorder.apply command).calls.filterMap Call.group? = recorder.setup.record more := by
  -- A barrier waits on both sides. A flush makes what waits a group there and a call here, unless
  -- nothing does. A label only ends what waits.
  cases command with
  | barrier queued =>
    refine ⟨rfl, ?_, [], by simp [Transcript.apply], rfl⟩
    show (recorder.pending.push queued recorder.setup.lookup).barriers =
      recorder.setup.lookup.translate (transcript.pending ++ [queued])
    rw [(Lookup.push_eq ..).1, Lookup.translate_append, ← follows]
  | flush =>
    obtain ⟨after, calls⟩ := follows.flush
    show recorder.flush.recorder.setup = _ ∧ recorder.flush.recorder.Follows _ ∧ ∃ more, _ ∧
      recorder.flush.calls.filterMap Call.group? = _
    rw [after, calls]
    refine ⟨rfl, ?_⟩
    unfold Transcript.apply
    cases queued : transcript.pending with
    | nil =>
      refine ⟨?_, [], by simp, Setup.record_nil _⟩
      simp [Follows, queued]
    | cons barrier rest => exact ⟨rfl, [barrier :: rest], rfl, rfl⟩
  | label text =>
    refine ⟨?_, ?_, [], by simp [Transcript.apply], ?_⟩ <;>
      simp only [Recorder.apply, Recorder.label, Transcript.apply] <;> split
    · rfl
    · rfl
    · exact follows
    · exact follows
    · rfl
    · rfl

/-- Several commands. -/
theorem Follows.run (follows : recorder.Follows transcript) (commands : List Command) :
    (recorder.run commands).recorder.setup = recorder.setup ∧
      (recorder.run commands).recorder.Follows (transcript.run commands) ∧
      ∃ more, (transcript.run commands).groups = transcript.groups ++ more ∧
        (recorder.run commands).calls.filterMap Call.group? = recorder.setup.record more := by
  induction commands generalizing recorder transcript with
  | nil => exact ⟨rfl, follows, [], by simp [Transcript.run], rfl⟩
  | cons command rest ih =>
    obtain ⟨setup, follows', first, groups, calls⟩ := follows.apply command
    obtain ⟨setup', follows'', others, groups', calls'⟩ := ih follows'
    refine ⟨setup'.trans setup, follows'', first ++ others, ?_, ?_⟩
    · rw [← List.append_assoc, ← groups]
      exact groups'
    · show ((recorder.apply command).calls ++
        ((recorder.apply command).recorder.run rest).calls).filterMap Call.group? = _
      rw [List.filterMap_append, calls, calls', setup, Setup.record_append]

/-- Closing records what is still queued. -/
theorem Follows.close (follows : recorder.Follows transcript) :
    recorder.close.recorder.pending = {} ∧
      recorder.close.calls.filterMap Call.group? = recorder.setup.record [transcript.pending] := by
  obtain ⟨after, calls⟩ := follows.flush
  unfold Recorder.close
  cases empty : recorder.pending.isEmpty with
  | true =>
    rw [if_pos rfl]
    unfold Recorder.flush at calls
    rw [if_pos empty] at calls
    exact ⟨(Barriers.isEmpty_iff _).1 empty, calls⟩
  | false =>
    rw [if_neg Bool.false_ne_true]
    exact ⟨congrArg Recorder.pending after, calls⟩

end

/-- A transcript has every barrier in one group, or queued, in the order of the commands. -/
theorem flatten_groups (commands : List Command) (transcript : Transcript) :
    ((transcript.run commands).groups ++ [(transcript.run commands).pending]).flatten =
      (transcript.groups ++ [transcript.pending]).flatten ++ Command.barriers commands := by
  induction commands generalizing transcript with
  | nil => simp [Transcript.run, Command.barriers]
  | cons command rest ih =>
    refine (ih (transcript.apply command)).trans ?_
    cases command with
    | barrier queued =>
      simp [Transcript.apply, Command.barriers, Command.barrier?]
    | flush =>
      unfold Transcript.apply
      cases queued : transcript.pending <;>
        simp [queued, Command.barriers, List.filterMap_cons, Command.barrier?]
    | label text =>
      simp [Transcript.apply, Command.barriers, List.filterMap_cons, Command.barrier?]

/-- **Every group is recorded, each in a call of its own.** Carry commands out on a command buffer,
close the recorder, and write the same commands down in a transcript. The calls that record barriers
are, in order, the forms of the groups in the transcript and of what is queued at the end, all on
the same command buffer; a group without a form makes no call, so no call is without barriers.

A group has the forms of its barriers, in order. A barrier has one if its resource is known, and
else none; and every barrier is in one group. So none is lost, doubled or recorded with another
group. -/
theorem records_every_group (setup : Setup) (commands : List Command) :
    let recorded := (Recorder.mk setup {}).run commands
    let closed := recorded.recorder.close
    let transcript := Transcript.run {} commands
    let groups := transcript.groups ++ [transcript.pending]
    let translate := setup.lookup.translate
    (recorded.calls ++ closed.calls).filterMap Call.group? =
        ((groups.map translate).filter fun group => !group.isEmpty).map (setup.buffer, ·) ∧
      closed.recorder.pending = {} ∧
      groups.flatten = Command.barriers commands ∧
      (∀ a b, translate (a ++ b) = (translate a).append (translate b)) ∧
      ∀ group, (translate group).size = group.countP setup.lookup.knows := by
  intro recorded closed transcript groups translate
  have follows : (Recorder.mk setup {}).Follows {} := setup.lookup.translate_nil.symm
  obtain ⟨same, follows', more, groups', calls⟩ := follows.run commands
  obtain ⟨done, calls'⟩ := follows'.close
  refine ⟨?_, done, flatten_groups commands {}, setup.lookup.translate_append,
    setup.lookup.size_translate⟩
  have all : groups = more ++ [transcript.pending] :=
    congrArg (· ++ [transcript.pending]) (groups'.trans (List.nil_append more))
  rw [List.filterMap_append, calls, calls', same, all]
  exact (Setup.record_append ..).symm

end Recorder

end GpuSync.Vulkan
