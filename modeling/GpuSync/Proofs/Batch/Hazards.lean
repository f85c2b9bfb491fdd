import GpuSync.Proofs.Batch.Stations
import GpuSync.Proofs.Tracker.Refinement
import GpuSync.Vulkan.Access

/-!
# Accesses that have to wait for each other

Two accesses to a resource in one task have to wait for each other if one of them writes. Only the
usage a resource is in is remembered, so a barrier is between usages that follow on each other.

* `Usage.waitsFor` and `Usage.shows`: what a usage covers as the source and as the destination of a
  barrier, by its stages and kinds of access in Vulkan.
* `report_cases`: a report that is accepted takes the resource to the usage, or it only reads a
  resource that is no image and not known to the task, and leaves no trace.
* **`accesses_ordered`** is the result for two reports with any calls in between: the earlier usage
  is the source of a barrier if it or the usage after it writes, the later one is the destination of
  one if it or the usage before it writes, and no other barrier keeps the contents but those at a
  change of layout.
* `readers_share_barriers`: of several readers after a write only the first one is the destination
  of a barrier, before a write only the last one is the source of one, and a read that leaves no
  trace is neither.
-/

namespace GpuSync

/-! ## What a barrier covers

Some bits of a mask stand for several stages or several kinds of access, so masks are compared by
what they stand for and not bit by bit. A barrier waits for the whole of the usage that it comes
from and shows the contents to the whole of the usage that it leads to. -/

/-- The stages that a mask stands for: some of its bits stand for several. -/
def Vulkan.Stage.meant (stages : UInt64) : UInt64 :=
  if stages &&& Stage.allCommands ≠ 0 then ~~~0
  else if stages &&& Stage.allGraphics ≠ 0 then
    stages ||| Stage.drawIndirect ||| Stage.fragmentShader ||| Stage.earlyFragmentTests |||
      Stage.lateFragmentTests ||| Stage.colorAttachmentOutput ||| Stage.indexInput |||
      Stage.vertexAttributeInput
  else stages

/-- The kinds of access that a mask stands for: two of its bits stand for several. -/
def Vulkan.Flag.meant (flags : UInt64) : UInt64 :=
  let reads := Flag.indirectCommandRead ||| Flag.indexRead ||| Flag.vertexAttributeRead |||
    Flag.uniformRead ||| Flag.inputAttachmentRead ||| Flag.colorAttachmentRead |||
    Flag.depthStencilAttachmentRead ||| Flag.transferRead ||| Flag.hostRead |||
    Flag.accelerationStructureRead ||| Flag.shaderSampledRead ||| Flag.shaderStorageRead
  let writes := Flag.colorAttachmentWrite ||| Flag.depthStencilAttachmentWrite |||
    Flag.transferWrite ||| Flag.hostWrite ||| Flag.accelerationStructureWrite |||
    Flag.shaderStorageWrite
  flags ||| (if flags &&& Flag.memoryRead ≠ 0 then reads else 0) |||
    (if flags &&& Flag.memoryWrite ≠ 0 then writes else 0)

/-- Whether a barrier from one usage waits for all stages of another. -/
def Usage.waitsFor (src earlier : Usage) : Bool :=
  Vulkan.Stage.meant earlier.access.stages &&& ~~~(Vulkan.Stage.meant src.access.stages) == 0

/-- Whether a barrier to one usage makes the contents visible to all stages and accesses of
another. -/
def Usage.shows (dst later : Usage) : Bool :=
  Vulkan.Stage.meant later.access.stages &&& ~~~(Vulkan.Stage.meant dst.access.stages) == 0 &&
    Vulkan.Flag.meant later.access.flags &&& ~~~(Vulkan.Flag.meant dst.access.flags) == 0

namespace Batch

/-! ## Reports

An accepted report of a known resource takes it along the way of the task. One that leaves no trace
is a report of a memory that is not in the table and is only read, which is what the exception for
unknown buffers comes from. -/

section

variable {batch : Batch} {tracker : Tracker} {task : Nat} {key : Key} {usage : Usage}

/-- A report that is accepted is on a task that has begun. -/
theorem sees_of_report
    (accepted : (batch.perform tracker (.report task key usage)).answer = .ok .done) :
    ∃ known, batch.Sees task key known := by
  cases opened : batch.begunScope task with
  | ok scope => exact ⟨_, scope, opened, rfl⟩
  | error error =>
    have accepted : (batch.report tracker task key usage).answer.map (fun _ => Reply.done) =
      .ok .done := accepted
    unfold report at accepted
    rw [opened] at accepted
    cases accepted

/-- A report that is accepted takes the resource to the usage, or leaves no trace. -/
theorem report_cases
    (accepted : (batch.perform tracker (.report task key usage)).answer = .ok .done) :
    (∃ use, (batch.perform tracker (.report task key usage)).batch.Sees task key (some use) ∧
        use.current = usage) ∨
      (key.isImage = false ∧ usage.readOnly = true ∧ batch.Sees task key none ∧
        (batch.perform tracker (.report task key usage)).batch = batch) := by
  obtain ⟨known, sees⟩ := sees_of_report accepted
  have effect := perform_effect batch tracker (show (Call.report task key usage).Basic from trivial)
  generalize (batch.perform tracker (.report task key usage)).commands = commands at effect
  generalize (batch.perform tracker (.report task key usage)).batch = after at effect ⊢
  rw [accepted] at effect
  cases effect with
  | moved found =>
    refine .inl ⟨_, (if_pos (⟨rfl, rfl⟩ : task = task ∧ key = key)) ▸ sees.setUse found key _, rfl⟩
  | fetched found =>
    refine .inl ⟨_, (if_pos (⟨rfl, rfl⟩ : task = task ∧ key = key)) ▸ sees.setUse found key _, rfl⟩
  | passedOver found begun unknown memory reads =>
    obtain rfl := unknown.symm.trans (sees.eq_of_found found).2
    exact .inr ⟨memory, reads, sees, rfl⟩

/-- What a report of a resource that is no image and not known emits. If it is only read it takes no
barrier and leaves no trace; else it is fetched from its rest. -/
theorem emits_report_unseen (relaxed : batch.relaxed = true) (sees : batch.Sees task key none)
    (memory : key.isImage = false)
    (accepted : (batch.perform tracker (.report task key usage)).answer = .ok .done) :
    (Call.report task key usage).emits
        (batch.perform tracker (.report task key usage)).commands task key =
      if usage.readOnly = true ∨ (tracker.restingUsage key).1 = usage then []
      else [Barrier.resource key (tracker.restingUsage key).1 usage] := by
  have effect := perform_effect batch tracker (show (Call.report task key usage).Basic from trivial)
  rw [Call.emits_of_eq rfl]
  generalize (batch.perform tracker (.report task key usage)).commands = commands at effect ⊢
  generalize (batch.perform tracker (.report task key usage)).batch = after at effect
  rw [accepted] at effect
  cases effect with
  | moved found begun known =>
    rw [(sees.eq_of_found found).2] at known
    cases known
  | passedOver found begun unknown memory reads => rw [if_pos (.inl reads)]; rfl
  | fetched found begun unknown counts =>
    have writes : usage.readOnly = false := by simpa [memory] using counts
    rw [barriers_emitted, onKey_transition_self]
    by_cases rests : (tracker.restingUsage key).1 = usage
    · rw [if_pos (.inr rests)]
      simp [transition, needsBarrier, memory, Usage.needsMemoryBarrier, relaxed, rests]
    · rw [if_neg (by simp [writes, rests])]
      simp [transition, needsBarrier, memory, Usage.needsMemoryBarrier, Usage.skipsBarrier, rests,
        writes, Barrier.withDiscard, Barrier.resource]

end

/-! ## Two reports in one task

The usages between two reports are the stations of the resource. Each leg from one station to the
next has a barrier unless both ends only read in one layout; so a write at either end is next to a
barrier, and what is covered is the first leg and the last one, not every leg in between. -/

/-- The usages that a task was in go on with the one in which the last call leaves it. -/
theorem stations_append (batch : Batch) (calls : List (Tracker × Call)) (last : Tracker × Call)
    (task : Nat) (key : Key) :
    batch.stations task key (calls ++ [last]) =
      batch.stations task key calls ++
        (((batch.run calls).batch.perform last.1 last.2).batch.usage?
          task key).toOption.join.toList := by
  induction calls generalizing batch with
  | nil => exact List.append_nil _
  | cons call rest ih =>
    rw [List.cons_append, stations, stations, ih, (run_cons batch call rest).1, List.append_assoc]

section

variable {batch : Batch} {task : Nat} {key : Key} {a b : Usage} {later : Tracker}
  {between : List (Tracker × Call)}

/-- The usages a resource passes until a report end in the usage reported. -/
theorem getLast?_stations {use : TaskUse}
    (sees : (batch.run between).batch.Sees task key (some use))
    (accepted : ((batch.run between).batch.perform later (.report task key b)).answer =
      .ok .done) :
    (batch.stations task key (between ++ [(later, .report task key b)])).getLast? = some b := by
  rw [stations_append]
  rcases report_cases accepted with ⟨left, sees', rfl⟩ | ⟨-, -, unseen, -⟩
  · rw [usage?_eq_ok sees']
    exact List.getLast?_concat
  · obtain ⟨scope, opened, known⟩ := sees
    obtain ⟨scope', opened', unknown⟩ := unseen
    cases opened.symm.trans opened'
    cases known.symm.trans unknown

/-- Along a trail to another usage, the resource leaves the first usage and comes to the last one,
each time with a barrier if one is due. -/
theorem Trail.covers {barriers : List Barrier} {passed : List Usage}
    (trail : Trail key a barriers passed) (ends : passed.getLast? = some b) (apart : a ≠ b) :
    ∃ next prev, passed.find? (· ≠ a) = some next ∧ (a :: passed).findRev? (· ≠ b) = some prev ∧
      (a.writes = true ∨ next.writes = true ∨ (key.isImage = true ∧ a.layout ≠ next.layout) →
        ∃ barrier ∈ barriers, barrier.key = some key ∧ barrier.src = a ∧ barrier.dst = next) ∧
      (prev.writes = true ∨ b.writes = true ∨ (key.isImage = true ∧ prev.layout ≠ b.layout) →
        ∃ barrier ∈ barriers, barrier.key = some key ∧ barrier.src = prev ∧ barrier.dst = b) := by
  have leaves : (passed.find? (· ≠ a)).isSome = true :=
    List.find?_isSome.2 ⟨b, List.mem_of_getLast? ends, by simpa using apart.symm⟩
  have enters : ((a :: passed).findRev? (· ≠ b)).isSome = true := by
    rw [List.findRev?_eq_find?_reverse]
    exact List.find?_isSome.2 ⟨a, by simp, by simpa using apart⟩
  obtain ⟨next, leaves⟩ := Option.isSome_iff_exists.1 leaves
  obtain ⟨prev, enters⟩ := Option.isSome_iff_exists.1 enters
  have other : a ≠ next := Ne.symm (by simpa using List.find?_some leaves)
  have other' : prev ≠ b := by
    rw [List.findRev?_eq_find?_reverse] at enters
    simpa using List.find?_some enters
  exact ⟨next, prev, leaves, enters,
    fun due => trail.departs leaves ((Key.not_agrees_iff other).2 due),
    fun due => trail.arrives ends enters ((Key.not_agrees_iff other').2 due)⟩

/-- **Accesses to a resource are ordered by barriers.** Take a task in which a resource is reported
to be in a usage and later in another, in a relaxed batch, with any calls in between but those that
set the usage of the resource in the task without a barrier.

If the task knows the resource once the first report was made, the barriers that it emits on the
resource from then on are a trail along the usages that the resource passes. The first usage is the
source of one if it writes, or the first different one after it writes, or an image changes its
layout there; likewise the last usage is the destination of one. All other barriers that keep the
contents are of that kind, too: readers in a row in one layout have none between them.

Else the first report only reads a resource that is no image and leaves no trace. If it is only read
until the second report, what that one emits is a barrier from the usage in which the resource
rests, and none if that is the usage or the usage only reads. -/
theorem accesses_ordered (relaxed : batch.relaxed = true) (apart : a ≠ b) {first : Tracker}
    (stays : ∀ call ∈ between, call.2 ≠ .setRelaxed false)
    (unset : ∀ call ∈ between, ∀ usage, call.2 ≠ .override task key usage)
    (accepted : (batch.perform first (.report task key a)).answer = .ok .done)
    (accepted' : (((batch.perform first (.report task key a)).batch.run between).batch.perform
      later (.report task key b)).answer = .ok .done) :
    let met := (batch.perform first (.report task key a)).batch
    let calls := between ++ [(later, .report task key b)]
    let emitted := met.emissions calls task key
    let passed := met.stations task key calls
    (met.usage? task key = .ok (some a) ∧ Trail key a emitted passed ∧
        ∃ next prev, passed.find? (· ≠ a) = some next ∧
          (a :: passed).findRev? (· ≠ b) = some prev ∧
          (a.writes = true ∨ next.writes = true ∨ (key.isImage = true ∧ a.layout ≠ next.layout) →
            ∃ barrier ∈ emitted, barrier.key = some key ∧ barrier.src = a ∧ barrier.dst = next) ∧
          (prev.writes = true ∨ b.writes = true ∨ (key.isImage = true ∧ prev.layout ≠ b.layout) →
            ∃ barrier ∈ emitted, barrier.key = some key ∧ barrier.src = prev ∧ barrier.dst = b)) ∨
      (key.isImage = false ∧ a.readOnly = true ∧ batch.usage? task key = .ok none ∧ met = batch ∧
        ((∀ call ∈ between, ∀ usage, call.2 = .report task key usage → usage.readOnly = true) →
          emitted = if b.readOnly = true ∨ (later.restingUsage key).1 = b then []
            else [Barrier.resource key (later.restingUsage key).1 b])) := by
  intro met calls emitted passed
  have relaxed' : met.relaxed = true :=
    (perform_effect batch first (show (Call.report task key a).Basic from trivial)).relaxed
      relaxed nofun
  rcases report_cases accepted with ⟨use, sees, rfl⟩ | ⟨memory, reads, unseen, same⟩
  · left
    obtain ⟨-, -, left, sees'⟩ := trail_run between relaxed' stays sees unset
    have stays' : ∀ call ∈ calls, call.2 ≠ .setRelaxed false :=
      List.forall_mem_append.2 ⟨stays, List.forall_mem_singleton.2 nofun⟩
    have unset' : ∀ call ∈ calls, ∀ usage, call.2 ≠ .override task key usage :=
      List.forall_mem_append.2 ⟨unset, List.forall_mem_singleton.2 nofun⟩
    obtain ⟨-, trail, -⟩ := trail_run calls relaxed' stays' sees unset'
    exact ⟨usage?_eq_ok sees, trail, trail.covers (getLast?_stations sees' accepted') apart⟩
  · right
    refine ⟨memory, reads, usage?_eq_ok unseen, same, fun onlyRead => ?_⟩
    have same' : met = batch := same
    have unseen' : met.Sees task key none := by
      rw [same']
      exact unseen
    obtain ⟨kept, silent, still⟩ :=
      unseen_run between relaxed' stays unseen' unset memory onlyRead
    show met.emissions calls task key = _
    rw [emissions_append, silent, List.nil_append]
    exact emits_report_unseen kept still memory accepted'

end

/-- A buffer that is written, drawn from and copied. -/
def vertices : Key := ⟨.buffer, ⟨0⟩⟩

/-- A batch with a task that has begun. -/
def drawing : Batch :=
  ((new ⟨0, 0⟩ .graphics).run
    [(.empty, .createTask), (.empty, .beginTask 0 false)]).batch

/-- A buffer written by shaders and then read as vertices is written by a copy: the first write is
waited for, and so is the second one. -/
theorem accesses_ordered_drawing :
    let met := (drawing.perform .empty (.report 0 vertices .shaderWrite)).batch
    let emitted := met.emissions
      [(.empty, .report 0 vertices .vertexBuffer), (.empty, .report 0 vertices .copyDst)] 0 vertices
    (∃ barrier ∈ emitted, barrier.src = .shaderWrite) ∧
      ∃ barrier ∈ emitted, barrier.dst = .copyDst := by
  intro met emitted
  have accepted : (drawing.perform .empty (.report 0 vertices .shaderWrite)).answer = .ok .done :=
    rfl
  have accepted' : ((met.run [(.empty, .report 0 vertices .vertexBuffer)]).batch.perform .empty
      (.report 0 vertices .copyDst)).answer = .ok .done := rfl
  have relaxed : drawing.relaxed = true := rfl
  rcases accesses_ordered relaxed (by decide) (by simp) (by simp) accepted accepted' with
    ⟨-, -, next, prev, -, -, waits, shows⟩ | ⟨-, reads, -⟩
  · obtain ⟨barrier, mem, -, src, -⟩ := waits (.inl rfl)
    obtain ⟨barrier', mem', -, -, dst⟩ := shows (.inr (.inl rfl))
    exact ⟨⟨barrier, mem, src⟩, barrier', mem', dst⟩
  · cases reads

/-- A tracker in which the buffer rests written by a copy. -/
def restingCopied : Tracker := (Tracker.perform .empty (.add 0 vertices .copyDst .copyDst none)).2

/-- **Readers share barriers.** After a write only the first of two readers is shown what was
written; before a write only the last one is waited for; and a read of a buffer that the task does
not know is not waited for at all, if the buffer rests in the usage of the write. -/
theorem readers_share_barriers :
    let written := (drawing.perform .empty (.report 0 vertices .shaderWrite)).batch
    let read := (written.perform .empty (.report 0 vertices .vertexBuffer)).batch
    let unknown := (drawing.perform restingCopied (.report 0 vertices .vertexBuffer)).batch
    let calls (tracker : Tracker) (usages : List Usage) : List (Tracker × Call) :=
      usages.map fun usage => (tracker, .report 0 vertices usage)
    let accepts (batch : Batch) (calls : List (Tracker × Call)) : Prop :=
      ∀ event ∈ (batch.run calls).log, event.accepted = true
    (accepts written (calls .empty [.vertexBuffer, .copySrc]) ∧
      written.emissions (calls .empty [.vertexBuffer, .copySrc]) 0 vertices =
        [Barrier.resource vertices .shaderWrite .vertexBuffer] ∧
      Usage.vertexBuffer.shows .copySrc = false) ∧
    (accepts read (calls .empty [.copySrc, .shaderWrite]) ∧
      read.emissions (calls .empty [.copySrc, .shaderWrite]) 0 vertices =
        [Barrier.resource vertices .copySrc .shaderWrite] ∧
      Usage.copySrc.waitsFor .vertexBuffer = false) ∧
    accepts unknown (calls restingCopied [.copyDst]) ∧
      unknown.emissions (calls restingCopied [.copyDst]) 0 vertices = [] := by
  refine ⟨⟨?_, rfl, by decide⟩, ⟨?_, rfl, by decide⟩, ?_, rfl⟩
  all_goals decide

end Batch

end GpuSync
