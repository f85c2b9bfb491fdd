import GpuSync.Proofs.Ring.Heap

/-!
# Identities are not used again

A slot that is handed out gets the identity after the one that the pool has for it, so the
identities of one slot are `0, 1, 2, …` by generation, wrapped. As long as no slot is handed out so
often that its generations come round, all identities are different, and so the one by which a
batch is looked up leads to that batch only.

* `BatchId.nth` is the identity that a slot gets at its `n`-th use.
* `Desk.Heap.Dealt` says that every slot got its identities in that order and that the batches have
  them in the order in which they were handed out; every change keeps it (`Desk.Heap.Dealt.change`).
* **`Desk.Heap.batches_keep_apart`** is the result for all runs, about identities and about the
  objects behind batches that are held.
-/

namespace GpuSync

/-- The identity of a slot at one of its uses, counted from zero. -/
def BatchId.nth (slot n : Nat) : BatchId := ⟨UInt32.ofNat slot, UInt32.ofNat n⟩

/-- The identity that follows one is that of the next use of the slot, also when the count of uses
wraps. -/
theorem BatchId.next_nth (slot n : Nat) : (nth slot n).next = nth slot (n + 1) := by
  unfold next nth
  rw [UInt32.ofNat_add, UInt32.ofNat_one]

/-- The first uses of a slot have different identities. -/
theorem BatchId.nodup_nth (slot : Nat) {n : Nat} (few : n < 2 ^ 32) :
    ((List.range n).map (nth slot)).Nodup := by
  refine List.nodup_range.map_on fun i hi j hj same => ?_
  have generation : UInt32.ofNat i = UInt32.ofNat j := congrArg BatchId.generation same
  have word := congrArg UInt32.toNat generation
  rwa [UInt32.toNat_ofNat_of_lt' (Nat.lt_trans (List.mem_range.1 hi) few),
    UInt32.toNat_ofNat_of_lt' (Nat.lt_trans (List.mem_range.1 hj) few)] at word

namespace Desk.Heap

open Submission (Later)

/-- The identities that a slot was handed out with, in order. -/
def issuedTo (heap : Heap) (slot : Nat) : List BatchId :=
  (heap.issued.filter (·.1 == slot)).map (·.2)

/-- The identities of the batches begun, in order, and of the one that is open. -/
def batchIds (desk : Desk) : List BatchId :=
  desk.ring.roll.map (·.id) ++ desk.draft.toList.map (·.batch.id)

/-- Every slot got its identities in order, and the batches have identities that were handed out.
The generation of an identity is a word and comes round, so identities are distinct only as long as
it does not. -/
structure Dealt (heap : Heap) : Prop where
  /-- The uses of a slot are counted. -/
  inOrder : ∀ slot, heap.issuedTo slot =
    (List.range (heap.issuedTo slot).length).map (BatchId.nth slot)
  /-- The pool has the last identity of a slot. -/
  last : ∀ slot, heap.desk.ring.slots.values.find? slot = (heap.issuedTo slot).getLast?
  /-- An identity leads to its slot. -/
  index : ∀ entry ∈ heap.issued, entry.2.index.toNat = entry.1
  /-- Every batch has one of its own. -/
  begun : (batchIds heap.desk).Sublist (heap.issued.map (·.2))

section

variable {heap : Heap}

/-- No identity was dealt at first. -/
theorem dealt_start (config : FrameRing.Config) (surfaces : List Surface) :
    (start config surfaces).Dealt where
  inOrder := fun _ => rfl
  last := RadixMap.find?_empty
  index := nofun
  begun := .slnil

/-- The identity with which a slot is handed out next is that of its next use. -/
theorem Dealt.nextId_eq (h : heap.Dealt) (slot : Nat) :
    heap.desk.ring.nextId slot = BatchId.nth slot (heap.issuedTo slot).length := by
  unfold FrameRing.nextId
  rw [h.last slot, h.inOrder slot]
  cases (heap.issuedTo slot).length with
  | zero => rfl
  | succ n =>
    rw [List.range_succ, List.map_append, List.map_singleton, List.getLast?_concat]
    simp [BatchId.next_nth]

/-- Identities that are handed out stay in order if the pool and the batches keep theirs. -/
theorem Dealt.of_desk (h : heap.Dealt) {after : Heap} (issued : after.issued = heap.issued)
    (values : after.desk.ring.slots.values = heap.desk.ring.slots.values)
    (fewer : (batchIds after.desk).Sublist (batchIds heap.desk)) : after.Dealt := by
  have same (slot : Nat) : after.issuedTo slot = heap.issuedTo slot := by
    unfold issuedTo
    rw [issued]
  refine {
    inOrder := ?inOrder
    last := ?last
    index := ?index
    begun := ?begun }
  case inOrder =>
    intro slot
    rw [same]
    exact h.inOrder slot
  case last =>
    intro slot
    rw [same, values]
    exact h.last slot
  case index =>
    rw [issued]
    exact h.index
  case begun =>
    rw [issued]
    exact fewer.trans h.begun

/-- Acts that neither open nor begin a batch hand nothing out. -/
theorem batchIds_step {desk : Desk} (orderly : desk.Orderly) {act : Act} (calm : act.Calm) :
    (batchIds (desk.step act)).Sublist (batchIds desk) := by
  unfold batchIds
  rw [(orderly.calm_step calm).2.1]
  refine List.Sublist.append_left ?_ _
  cases held : (desk.step act).draft with
  | none => exact List.nil_sublist _
  | some draft =>
    obtain ⟨former, held', changed⟩ := draft_step calm held
    have id : draft.batch.id = former.batch.id := by
      rw [changed]
      split
      · exact congrArg BatchUse.batch (user_treat desk act former.batch)
      · rfl
    rw [held']
    simp [id]

/-- A slot that is handed out gets its next identity: the pool has the last one, or the slot was
never used. -/
theorem Dealt.lend (h : heap.Dealt) (orderly : heap.desk.Orderly) (free : heap.desk.draft = none)
    {slot : Nat} (search : heap.desk.ring.slots.firstFree? 0 = some slot) (queue : Queue)
    (supplied : Nat × List Batch) : (heap.lend slot queue supplied).Dealt := by
  have next := h.nextId_eq slot
  have issuedTo (other : Nat) : (heap.lend slot queue supplied).issuedTo other =
      if other = slot then heap.issuedTo slot ++ [heap.desk.ring.nextId slot]
      else heap.issuedTo other := by
    unfold Heap.issuedTo Heap.lend
    dsimp only
    rw [List.filter_append, List.map_append]
    by_cases same : other = slot
    · simp [same]
    · simp [same, Ne.symm same]
  -- In turn: the identities of a slot are numbered in order, the pool has the last of them, they
  -- have the index of the slot, and the begun batches have theirs in the order of issue.
  refine {
    inOrder := ?inOrder
    last := ?last
    index := ?index
    begun := ?begun }
  case inOrder =>
    intro other
    rw [issuedTo]
    split
    · rename_i same
      subst same
      rw [List.length_append, List.length_singleton, List.range_succ, List.map_append,
        List.map_singleton, ← h.inOrder, ← next]
    · exact h.inOrder other
  case last =>
    intro other
    rw [issuedTo]
    refine (FrameRing.find?_handOut orderly.whole search queue other).trans ?_
    split
    · exact List.getLast?_concat.symm
    · exact h.last other
  case index =>
    intro entry mem
    rcases List.mem_append.1 mem with mem | mem
    · exact h.index entry mem
    · rw [List.mem_singleton.1 mem]
      have bound := (Slot.Pool.firstFree?_eq_some orderly.whole search).1
      rw [next]
      exact UInt32.toNat_ofNat_of_lt' (Nat.lt_trans bound (by decide))
  case begun =>
    have old := h.begun
    unfold batchIds at old
    rw [free] at old
    show List.Sublist _ (List.map _ (heap.issued ++ [(slot, heap.desk.ring.nextId slot)]))
    rw [List.map_append]
    refine List.Sublist.append ?_ (.refl _)
    rw [Option.toList_none, List.map_nil, List.append_nil] at old
    exact old

/-- **Every change deals identities in order.** -/
theorem Dealt.change (h : heap.Dealt) (orderly : heap.desk.Orderly) {deed : Deed} {after : Heap}
    (change : Change heap deed after) : after.Dealt := by
  cases change with
  | still => exact h
  | dropped | fetched => exact h.of_desk rfl rfl (.refl _)
  | performed _ calm _ =>
    exact h.of_desk rfl (orderly.calm_step calm).1 (batchIds_step orderly calm)
  | opened _ free search => exact h.lend orderly free search _ _
  | begun _ held _ =>
    -- The identity of the batch that was open is now the last one begun.
    refine h.of_desk rfl rfl ?_
    unfold batchIds Heap.join
    dsimp only
    rw [FrameRing.roll_beginBatch, held, List.map_append, List.append_assoc]
    exact .refl _

/-- Every run deals identities in order, by induction on the deeds. -/
theorem Dealt.run (h : heap.Dealt) (sound : heap.Sound) (deeds : List Deed) :
    (heap.run deeds).Dealt := by
  induction deeds using List.reverseRecOn with
  | nil => exact h
  | append_singleton deeds deed ih =>
    rw [run_append]
    have orderly := (sound.run deeds).orderly
    exact ih.change orderly (change_step orderly deed)

/-- As long as no slot is handed out so often that its generations come round, all identities are
different. -/
theorem Dealt.nodup (h : heap.Dealt)
    (few : ∀ slot, heap.issued.countP (·.1 == slot) < 2 ^ 32) :
    (heap.issued.map (·.2)).Nodup := by
  rw [List.nodup_iff_count_le_one]
  intro id
  have length (slot : Nat) : (heap.issuedTo slot).length < 2 ^ 32 := by
    unfold issuedTo
    rw [List.length_map, ← List.countP_eq_length_filter]
    exact few slot
  have nodup : (heap.issuedTo id.index.toNat).Nodup := by
    rw [h.inOrder]
    exact BatchId.nodup_nth _ (length _)
  -- Only the slot that the identity leads to can have got it.
  have same : (heap.issued.map (·.2)).count id = (heap.issuedTo id.index.toNat).count id := by
    unfold issuedTo
    rw [List.count_eq_countP, List.count_eq_countP, List.countP_map, List.countP_map,
      List.countP_filter]
    refine List.countP_congr fun entry mem => ?_
    have index := h.index entry mem
    constructor
    · intro named
      have named : entry.2 = id := beq_iff_eq.1 named
      simp [← index, named]
    · intro named
      exact (Bool.and_eq_true_iff.1 named).1
  rw [same]
  exact List.nodup_iff_count_le_one.1 nodup id

/-- With identities that are all different, one belongs to one submission. Without this, the
identity of an old batch could be that of a new one. -/
theorem Dealt.submission_unique (h : heap.Dealt) (nodup : (heap.issued.map (·.2)).Nodup)
    {m n : Nat} {a b : Submission} (found : heap.desk.ring.submissions[m]? = some a)
    (found' : heap.desk.ring.submissions[n]? = some b) (same : a.id = b.id) : m = n := by
  have ids := (List.nodup_append.1 (nodup.sublist h.begun)).1
  have listed {k : Nat} {submission : Submission}
      (found : heap.desk.ring.submissions[k]? = some submission) :
      (heap.desk.ring.roll.map (·.id))[k]? = some submission.id := by
    rw [List.getElem?_map, FrameRing.roll_of_submission found]
    rfl
  have first := listed found
  rw [same, ← listed found'] at first
  exact (List.getElem?_inj (List.getElem?_eq_some_iff.1 (listed found)).1 ids).1 first

end

/-- **Batches keep apart.** Take any ring, and any deeds `before` and `after`: acts on the ring and
on batches that are held, and callers that let go of batches or look them up.

As long as no slot is handed out `2 ^ 32` times, the identities handed out are all different. A
batch that is found by an identity has it, and so has its object; and no other batch ever had it.

A batch that was held before and was not let go of since has its identity, its queue and its label
as before, whatever became of its slot, and its status did not go back. If none of the later deeds
was on that batch, no call on it and no gating on a surface, all of its book-keeping is as
before. -/
theorem batches_keep_apart (config : FrameRing.Config) (surfaces : List Surface)
    (before after : List Deed) :
    let early := (start config surfaces).run before
    let late := early.run after
    ((∀ slot, late.issued.countP (·.1 == slot) < 2 ^ 32) →
      (late.issued.map (·.2)).Nodup ∧
      ∀ id found, late.desk.ring.find? id = some found →
        found.id = id ∧ late.view found.serial = some found ∧
        ∀ n other, early.desk.ring.submissions[n]? = some other → other.id = id →
          n = found.serial) ∧
    ∀ n ∈ early.held, .drop n ∉ after →
      ∃ former later, early.view n = some former ∧ late.view n = some later ∧
        later.id = former.id ∧ later.batch.queue = former.batch.queue ∧
        later.label = former.label ∧ former.status.rank ≤ later.status.rank ∧
        ((∀ deed ∈ after, deed.target? ≠ some n) → later.batch = former.batch) := by
  intro early late
  have start := sound_start config surfaces
  have sound : early.Sound := start.run before
  have sound' : late.Sound := sound.run after
  have dealt : late.Dealt :=
    ((dealt_start config surfaces).run start before).run sound after
  refine ⟨fun few => ⟨dealt.nodup few, ?_⟩, ?_⟩
  · intro id found looked
    obtain ⟨named, mem, kept⟩ := FrameRing.keeps_of_find? looked
    have at' := sound'.orderly.getElem?_serial mem
    refine ⟨named, (sound'.view_eq (has_iff.2 (.inr kept))).trans at', ?_⟩
    intro n other found' same
    obtain ⟨later, found'', stays, -⟩ := sound.later_run found' after
    exact dealt.submission_unique (dealt.nodup few) found'' at'
      (stays.id_eq.trans (same.trans named.symm))
  · intro n held keeps
    obtain ⟨former, found⟩ : ∃ former, early.desk.ring.submissions[n]? = some former :=
      ⟨_, List.getElem?_eq_getElem (sound.known n held)⟩
    obtain ⟨later, found', stays, same⟩ := sound.later_run found after
    refine ⟨former, later, (sound.view_eq (has_of_held held)).trans found,
      (sound'.view_eq (has_of_held (sound.held_run held keeps))).trans found', stays.id_eq, ?_,
      stays.label, stays.rank_le, same⟩
    exact congrArg Submission.Tag.queue stays.tag

/-- A batch in a frame whose place has come round. -/
def comeRound : List Deed :=
  [.act .beginFrame, .act (.openBatch .graphics fun _ => false), .act (.beginBatch "first"),
    .act (.complete 0), .act .endFrame, .act .beginFrame, .act .endFrame, .act .beginFrame]

/-- Opens the next batch. -/
def openNext : Deed := .act (.openBatch .graphics fun _ => false)

example :
    let heap := (start {} []).run (comeRound ++ [openNext])
    heap.issued = [(0, ⟨0, 0⟩), (0, ⟨0, 1⟩)] ∧ heap.objects.map (·.id) = [⟨0, 0⟩, ⟨0, 1⟩] := by
  decide +kernel

example :
    let heap := (start {} []).run (comeRound ++ [.drop 0, openNext])
    heap.issued = [(0, ⟨0, 0⟩), (0, ⟨0, 1⟩)] ∧ heap.objects.map (·.id) = [⟨0, 1⟩] := by
  decide +kernel

end Desk.Heap

end GpuSync
