import GpuSync.Proofs.Batch.Calls

/-!
# Chains of barriers

The barriers on one resource, in the order in which they take effect, should carry on from one
another: each comes from the usage in which the one before left the resource. Where no barrier was
due there may be a gap, but only between usages that both read, and for an image in one layout.

* `Key.Agrees` is the relation between usages that need no barrier between them; it is an
  equivalence.
* `Chain` is the property of a list of barriers, and `arrival` the usage it ends in.
* `Path key a barriers b`: the barriers lead from `a` to a usage that agrees with `b`. Paths can be
  put together (`Path.trans`), and a transition is a path whether or not it takes a barrier
  (`path_transition`).
-/

namespace GpuSync

/-- Two usages of a resource with no need of a barrier between them: they are the same, or both
only read, for an image in one and the same layout. -/
def Key.Agrees (key : Key) (a b : Usage) : Prop :=
  a = b ∨ (a.readOnly = true ∧ b.readOnly = true ∧ (key.isImage = true → a.layout = b.layout))

namespace Key.Agrees

variable {key : Key} {a b c : Usage}

/-- A usage needs no barrier to itself. -/
theorem refl (key : Key) (a : Usage) : key.Agrees a a := .inl rfl

/-- No barrier is needed one way if none is needed the other way. -/
theorem symm (h : key.Agrees a b) : key.Agrees b a := by
  rcases h with rfl | ⟨ha, hb, layouts⟩
  · exact refl key a
  · exact .inr ⟨hb, ha, fun image => (layouts image).symm⟩

/-- Usages that agree with a third agree with each other. Reading usages of an image agree only in
one layout, so that the layouts agree along the way, too. -/
theorem trans (hab : key.Agrees a b) (hbc : key.Agrees b c) : key.Agrees a c := by
  rcases hab with rfl | ⟨ha, hb, layouts⟩
  · exact hbc
  · rcases hbc with rfl | ⟨-, hc, others⟩
    · exact .inr ⟨ha, hb, layouts⟩
    · exact .inr ⟨ha, hc, fun image => (layouts image).trans (others image)⟩

end Key.Agrees

namespace Batch

/-- The barriers carry on from one another, the first one from `state`. Where one barrier ends the
next one starts, up to usages with no need of a barrier between them. -/
def Chain (key : Key) : Usage → List Barrier → Prop
  | _, [] => True
  | state, barrier :: rest => key.Agrees state barrier.src ∧ Chain key barrier.dst rest

/-- The usage reached by barriers that start in `state`. -/
def arrival (state : Usage) (barriers : List Barrier) : Usage :=
  barriers.foldl (fun _ barrier => barrier.dst) state

/-- The barriers lead from one usage to another. The chain starts at the one usage and arrives at
the other, again up to usages that agree. -/
structure Path (key : Key) (start : Usage) (barriers : List Barrier) (target : Usage) : Prop where
  /-- They carry on from one another. -/
  chain : Chain key start barriers
  /-- They end in the target, or where no barrier to it is due. -/
  arrives : key.Agrees (arrival start barriers) target

variable {key : Key} {a b c : Usage}

/-- A chain may be cut anywhere. The second part starts from where the first one arrives. -/
theorem chain_append (first second : List Barrier) :
    Chain key a (first ++ second) ↔ Chain key a first ∧ Chain key (arrival a first) second := by
  induction first generalizing a with
  | nil => simp [Chain, arrival]
  | cons barrier rest ih =>
    simp only [List.cons_append, Chain, ih, arrival, List.foldl_cons, and_assoc]

/-- Where barriers arrive depends on the first of them only through where those arrive. -/
theorem arrival_append (first second : List Barrier) :
    arrival a (first ++ second) = arrival (arrival a first) second := by
  simp [arrival]

/-- A chain may start from any usage that needs no barrier to its own start. -/
theorem Chain.of_agrees {barriers : List Barrier} (agree : key.Agrees a b)
    (h : Chain key b barriers) : Chain key a barriers := by
  cases barriers with
  | nil => trivial
  | cons barrier rest => exact ⟨agree.trans h.1, h.2⟩

/-- Barriers lead usages that agree to usages that agree. -/
theorem agrees_arrival (agree : key.Agrees a b) (barriers : List Barrier) :
    key.Agrees (arrival a barriers) (arrival b barriers) := by
  cases barriers with
  | nil => exact agree
  | cons barrier rest => exact .refl key _

namespace Path

/-- No barrier is needed between usages that agree. -/
theorem nil (agree : key.Agrees a b) : Path key a [] b := ⟨trivial, agree⟩

/-- A usage leads to itself without a barrier. -/
theorem refl (key : Key) (a : Usage) : Path key a [] a := nil (.refl key a)

/-- One barrier is a path between its usages. -/
theorem single (barrier : Barrier) : Path key barrier.src [barrier] barrier.dst :=
  ⟨⟨.refl key _, trivial⟩, .refl key _⟩

/-- Paths that meet can be put together. -/
theorem trans {first second : List Barrier} (h : Path key a first b) (h' : Path key b second c) :
    Path key a (first ++ second) c where
  chain := (chain_append first second).2 ⟨h.chain, h'.chain.of_agrees h.arrives⟩
  arrives := by
    rw [arrival_append]
    exact (agrees_arrival h.arrives second).trans h'.arrives

end Path

/-! ## The barriers of a transition

A transition is where barriers come from, apart from first uses and opening barriers. It leads from
the usage of the table to the one that is asked for, whether a barrier is needed or not; where none
is needed, the two agree. -/

/-- No barrier is needed only between usages that agree. The strictness of the batch makes no
difference here: a strict batch only takes more barriers. -/
theorem agrees_of_needsBarrier_eq_false {batch : Batch} {src dst : Usage}
    (h : batch.needsBarrier key src dst = false) : key.Agrees src dst := by
  by_cases same : src = dst
  · exact .inl same
  · refine .inr ?_
    have apart : (src == dst) = false := beq_eq_false_iff_ne.2 same
    unfold needsBarrier at h
    cases image : key.isImage with
    | true =>
      simp only [Usage.skipsBarrier, Usage.needsImageBarrier, Usage.needsMemoryBarrier, apart,
        image] at h
      obtain ⟨layouts, reads⟩ :
          src.layout = dst.layout ∧ src.readOnly = true ∧ dst.readOnly = true := by
        simpa using h
      exact ⟨reads.1, reads.2, fun _ => layouts⟩
    | false =>
      simp only [Usage.skipsBarrier, Usage.needsMemoryBarrier, apart, image] at h
      simpa using h

/-- A transition takes one barrier, if it takes any. -/
theorem mem_transition {batch : Batch} {src dst : Usage} {discard : Bool} {barrier : Barrier} :
    barrier ∈ batch.transition key src dst discard ↔
      (discard || batch.needsBarrier key src dst) = true ∧
        barrier = (Barrier.resource key src dst).withDiscard discard := by
  unfold transition
  split <;> rename_i taken <;> simp [taken]

/-- All barriers of a transition are on the resource that changes. -/
theorem onKey_transition_self (batch : Batch) (key : Key) (src dst : Usage) (discard : Bool) :
    onKey key (batch.transition key src dst discard) = batch.transition key src dst discard := by
  unfold transition onKey
  split <;> simp [Barrier.resource, Barrier.withDiscard]

/-- A transition of one resource has no barrier on another. -/
theorem onKey_transition_of_ne (batch : Batch) {key other : Key} (apart : other ≠ key)
    (src dst : Usage) (discard : Bool) :
    onKey key (batch.transition other src dst discard) = [] := by
  unfold transition onKey
  split <;> simp [Barrier.resource, Barrier.withDiscard, apart]

/-- **A transition is a path**, whether or not it takes a barrier. -/
theorem path_transition (batch : Batch) (key : Key) (src dst : Usage) (discard : Bool) :
    Path key src (batch.transition key src dst discard) dst := by
  unfold transition
  split
  · exact .single ((Barrier.resource key src dst).withDiscard discard)
  · rename_i idle
    simp only [Bool.or_eq_true, not_or, Bool.not_eq_true] at idle
    exact .nil (agrees_of_needsBarrier_eq_false idle.2)

/-- The barrier before the first use of a resource leaves it where it is. It discards or hands over,
and does not change the usage. -/
theorem path_firstUse (batch : Batch) (tracker : Tracker) (key : Key) (initial : Usage) :
    Path key initial (batch.firstUse tracker key initial).toList initial := by
  unfold firstUse
  split
  · split
    · exact .single ((Barrier.resource key initial initial).withDiscard true)
    · exact .refl key initial
  · split
    · split
      · exact .single ((Barrier.resource key initial initial).withDiscard true)
      · exact .refl key initial
    · split
      · exact .single ((Barrier.resource key initial initial).withTransfer _ _)
      · exact .refl key initial

/-- The barrier before the first use of a resource is on that resource. -/
theorem key_of_mem_firstUse {batch : Batch} {tracker : Tracker} {key : Key} {initial : Usage}
    {barrier : Barrier} (h : barrier ∈ (batch.firstUse tracker key initial).toList) :
    barrier.key = some key := by
  have plain : ∀ b ∈ batch.firstUse tracker key initial, b.key = some key := by
    unfold firstUse
    split
    · split <;> simp [Barrier.resource, Barrier.withDiscard]
    · split
      · split <;> simp [Barrier.resource, Barrier.withDiscard]
      · split <;> simp [Barrier.resource, Barrier.withTransfer]
  exact plain barrier (Option.mem_toList.1 h)

end Batch

end GpuSync
