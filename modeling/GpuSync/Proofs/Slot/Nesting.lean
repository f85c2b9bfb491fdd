import GpuSync.Proofs.Slot.Settled
import Mathlib.Tactic.Common

/-!
# Closures keep pools settled

A closure runs in a slot that is taken, and whatever it assigns meanwhile are other slots. So slots
in use are left alone (`Slot.Keeps`), and what the closure leaves is a settled pool and a value that
is in no slot yet, or the value it was handed, or nothing (`Slot.Leaves`).

* `Run.assignBy_spec`: an assignment is sound (`Slot.Assigns`) if its closures are.
* `Closure.leaves`: all closures are, by induction, the assignments of a closure being sound because
  their closures are parts of it.
-/

namespace GpuSync.Slot

variable {shape : Shape} {β : Type}

/-! ## Slots in use

A closure runs with its own slot taken. Whatever it assigns in turn gets other slots, so all slots
in use keep their values, with the one exception of a value that is lent to a closure. -/

/-- Slots that are taken stay so with their values, but for one whose value was lent: its content
may change. The slot whose value is lent to a closure is the exception: its value may be changed in
place. -/
structure Keeps (lent : Option Nat) (pool after : Pool shape (Token β)) : Prop where
  /-- Slots that are taken stay so. -/
  taken : ∀ {i}, pool.isAssigned i = true → after.isAssigned i = true
  /-- They keep their values. -/
  value : ∀ {i}, pool.isAssigned i = true → lent ≠ some i →
    after.values.find? i = pool.values.find? i
  /-- A value that was lent is still the same value. -/
  mark : ∀ {i}, pool.isAssigned i = true →
    (after.values.find? i).map (·.mark) = (pool.values.find? i).map (·.mark)

namespace Keeps

variable {lent : Option Nat} {pool mid after : Pool shape (Token β)} {i : Nat}

/-- A pool that is left alone keeps all slots. -/
theorem refl (lent : Option Nat) (pool : Pool shape (Token β)) : Keeps lent pool pool :=
  ⟨id, fun _ _ => rfl, fun _ => rfl⟩

/-- What is kept twice in turn is kept. -/
theorem trans (first : Keeps lent pool mid) (second : Keeps lent mid after) :
    Keeps lent pool after where
  taken assigned := second.taken (first.taken assigned)
  value assigned apart := (second.value (first.taken assigned) apart).trans
    (first.value assigned apart)
  mark assigned := (second.mark (first.taken assigned)).trans (first.mark assigned)

/-- What lends nothing lends at most one value. -/
theorem lend (k : Keeps none pool after) (lent : Option Nat) : Keeps lent pool after where
  taken := k.taken
  value assigned _ := k.value assigned nofun
  mark := k.mark

/-- Changing the content of a value that was lent. -/
theorem modify (pool : Pool shape (Token β)) (i : Nat) (content : β) :
    Keeps (some i) pool (pool.modify i (·.setContent content)) := by
  refine {
    taken := fun {j} assigned => ?taken
    value := fun {j} _ apart => ?value
    mark := fun {j} _ => ?mark }
  case taken =>
    rw [Pool.isAssigned_modify]
    exact assigned
  case value =>
    have other : j ≠ i := fun same => apart (same ▸ rfl)
    rw [Pool.find?_modify, if_neg fun lends => other lends.1]
  case mark =>
    rw [Pool.find?_modify]
    split
    · rename_i lends
      rw [lends.1]
      cases pool.values.find? i <;> rfl
    · rfl

/-- Slots in use before a free one was taken, whose value may have been lent. -/
theorem claim (k : Keeps lent (pool.take i) after) (own : ∀ j, lent = some j → j = i)
    (whole : pool.Whole) (hi : i < shape.capacity) (free : pool.isAssigned i = false) :
    Keeps none pool after := by
  have still {j : Nat} (assigned : pool.isAssigned j = true) :
      (pool.take i).isAssigned j = true := by
    rw [Pool.isAssigned_take whole j hi, if_neg (Pool.ne_of_isAssigned assigned free)]
    exact assigned
  refine ⟨fun assigned => k.taken (still assigned), fun {j} assigned _ => ?_,
    fun assigned => k.mark (still assigned)⟩
  exact k.value (still assigned) fun lends => Pool.ne_of_isAssigned assigned free (own j lends)

/-- Storing a value in a slot that was free. -/
theorem store (k : Keeps none pool after) (hi : i < shape.capacity)
    (free : pool.isAssigned i = false) (token : Token β) :
    Keeps none pool (after.store i token) := by
  have other {j : Nat} (assigned : pool.isAssigned j = true) :
      (after.store i token).values.find? j = after.values.find? j := by
    rw [Pool.store, after.values.find?_insert j token (Settled.lt_span hi),
      if_neg (Pool.ne_of_isAssigned assigned free)]
  refine ⟨k.taken, fun assigned lends => ?_, fun assigned => ?_⟩
  · rw [other assigned]
    exact k.value assigned lends
  · rw [other assigned]
    exact k.mark assigned

end Keeps

/-! ## Running in a slot

What a closure needs is a slot that is taken and, if it expects a former value, that value in it.
What it leaves is the same for every closure, so that assignments can be nested to any depth. -/

/-- The slot whose value is lent to what runs in it. -/
def lent (handed : Bool) (slot : Nat) : Option Nat := if handed then some slot else none

/-- A closure can be run in a slot: the slot is taken, and has a value to hand over if the closure
expects one. -/
structure Ready (handed : Bool) (slot : Nat) (way : Way) (run : Run shape β) : Prop where
  /-- The pool is as its journal says. -/
  settled : Settled run
  /-- The slot is taken. -/
  assigned : run.pool.isAssigned slot = true
  /-- There is a value to hand over. -/
  former : handed = true → (run.pool.values.find? slot).isSome = true
  /-- A new value is made only where no value was to be gone on with. -/
  vacant : handed = false → ∀ seed, way = .again seed → run.pool.values.find? slot = none

/-- How a closure ends. -/
inductive Ends (slot : Nat) (way : Way) :
    (handed : Bool) → Run shape β → Option (Token β) → Prop where
  /-- It gave up. -/
  | gaveUp {handed : Bool} {run : Run shape β} (settled : Settled run) :
    Ends slot way handed run none
  /-- It made a value, which is in no slot yet. -/
  | made {run : Run shape β} (settled : Settled run) (content : β) :
    Ends slot way false { run with journal := run.journal ++ [.made way slot content] }
      (some ⟨run.account.made, content⟩)
  /-- It is done with the value that it was handed. -/
  | left {run : Run shape β} {token : Token β} (settled : Settled run)
    (found : run.pool.values.find? slot = some token) : Ends slot way true run (some token)

/-- What a closure leaves when it ran in a slot. -/
structure Leaves (handed : Bool) (slot : Nat) (way : Way) (run : Run shape β) (ran : Ran shape β) :
    Prop where
  /-- Slots in use were left alone. -/
  keeps : Keeps (lent handed slot) run.pool ran.making.pool
  /-- The pool was as its journal said all the time. -/
  points : ∀ point ∈ ran.points, Settled point
  /-- It ended with a value or gave up. -/
  ends : Ends slot way handed
    ⟨ran.making.pool, ran.journal, run.dropped ++ ran.making.dropped⟩ ran.making.value

/-- What an assignment does. It says where the closure started, at which points it went on, what was
dropped and what the slot holds in the end. -/
structure Assigns (way : Way) (run : Run shape β) (assigned : Assigned shape β) : Prop where
  /-- The pool is as its journal says. -/
  settled : Settled assigned.after
  /-- So it was when closures went on. -/
  points : ∀ point ∈ assigned.points, Settled point
  /-- The values dropped on the way are those that the pool says were. -/
  dropped : assigned.after.dropped = run.dropped ++ assigned.assignment.dropped
  /-- Slots in use are left alone. -/
  keeps : Keeps none run.pool assigned.after.pool
  /-- The slot was free. -/
  free : run.pool.isAssigned assigned.assignment.index = false
  /-- The slot is taken, whether or not its value could be made. -/
  taken : assigned.after.pool.isAssigned assigned.assignment.index = true
  /-- A former value goes on if it should and there is one. -/
  reused : assigned.assignment.reused =
    (run.pool.handed? assigned.assignment.index way).isSome
  /-- A new value is the last that was made. -/
  made : assigned.assignment.made = true → assigned.assignment.reused = false →
    ∃ journal content, assigned.after.journal =
      journal ++ [.made way assigned.assignment.index content]
  /-- If none is made, the slot keeps the value it has. -/
  kept : assigned.assignment.made = false → assigned.assignment.reused = false →
    assigned.after.pool.values.find? assigned.assignment.index =
      run.pool.values.find? assigned.assignment.index
  /-- A value that goes on is still the same value, even if what it was handed to gives up. -/
  went : assigned.assignment.reused = true →
    (assigned.after.pool.values.find? assigned.assignment.index).map (·.mark) =
      (run.pool.values.find? assigned.assignment.index).map (·.mark)

variable {handed : Bool} {slot : Nat} {way : Way} {run : Run shape β}

/-- A closure can be run in a slot that was just taken. -/
theorem Settled.ready_claim (h : Settled run) (hi : slot < shape.capacity) (handed : Bool)
    (agree : ((run.claim slot).pool.handed? slot way).isSome = handed) :
    Ready handed slot way (run.claim slot) := by
  refine {
    settled := h.claim hi
    assigned := ?assigned
    former := fun hands => ?former
    vacant := fun makes seed again => ?vacant }
  case assigned => rw [Run.claim, Pool.isAssigned_take h.whole slot hi, if_pos rfl]
  case former =>
    subst hands
    cases way with
    | again seed => exact agree
    | anew seed => cases agree
    | there i => cases agree
  case vacant =>
    subst makes again
    exact Option.not_isSome_iff_eq_none.1 (ne_true_of_eq_false agree)

/-- A closure can go on in its slot. -/
theorem Ready.keeps (ready : Ready handed slot way run) {after : Run shape β}
    (settled : Settled after) (keeps : Keeps (lent handed slot) run.pool after.pool) :
    Ready handed slot way after := by
  refine ⟨settled, keeps.taken ready.assigned, fun hands => ?_, fun makes seed again => ?_⟩
  · have same := congrArg Option.isSome (keeps.mark ready.assigned)
    rw [Option.isSome_map, Option.isSome_map] at same
    rw [same]
    exact ready.former hands
  · rw [keeps.value ready.assigned (by rw [makes]; nofun)]
    exact ready.vacant makes seed again

/-- What came before a closure went on counts to what it leaves. -/
theorem Leaves.precede {mid : Run shape β} {ran : Ran shape β}
    (leaves : Leaves handed slot way mid ran) {points : List (Run shape β)}
    {dropped : List (Token β)} (keeps : Keeps (lent handed slot) run.pool mid.pool)
    (before : ∀ point ∈ points, Settled point) (drops : mid.dropped = run.dropped ++ dropped) :
    Leaves handed slot way run (ran.precede points dropped) where
  keeps := keeps.trans leaves.keeps
  points := by
    intro point mem
    rcases List.mem_append.1 mem with mem | mem
    · exact before point mem
    · exact leaves.points point mem
  ends := by
    have ends := leaves.ends
    rw [drops, List.append_assoc] at ends
    exact ends

/-! ## Assigning

An assignment is sound if its closures leave what they should. This is the step from closures to
assignments; the step back is in the induction below. -/

/-- An assignment that constructs a value. If the closure gives up, the slot keeps the value that it
had, and stays taken. -/
theorem Leaves.construct {ran : Ran shape β} (leaves : Leaves false slot way (run.claim slot) ran)
    (h : Settled run) (hi : slot < shape.capacity) (free : run.pool.isAssigned slot = false)
    (agree : run.pool.handed? slot way = none) :
    Assigns way run
      (run.conclude ((run.pool.take slot).construct slot fun _ _ => ran.making) ran) := by
  have ready : Ready false slot way (run.claim slot) :=
    h.ready_claim hi false (congrArg Option.isSome agree)
  have keeps := leaves.keeps.claim nofun h.whole hi free
  have taken := leaves.keeps.taken ready.assigned
  have same := leaves.keeps.value ready.assigned nofun
  obtain ⟨⟨value, pool, dropped⟩, journal, points⟩ := ran
  have ends : Ends slot way false ⟨pool, journal, run.dropped ++ dropped⟩ value := leaves.ends
  generalize total : run.dropped ++ dropped = all at ends
  -- The closure gave up, and the slot stays taken with what it had, or it made a value, which
  -- replaces and drops that.
  cases ends with
  | gaveUp settled =>
    subst total
    exact {
      settled
      points := leaves.points
      dropped := rfl
      keeps
      free
      taken
      reused := (congrArg Option.isSome agree).symm
      made := nofun
      kept := fun _ _ => same
      went := nofun }
  | @made before settled content =>
    have spares : ∀ seed, way = .again seed → before.pool.values.find? slot = none :=
      fun seed again => same.trans (ready.vacant rfl seed again)
    have sound := settled.make hi spares content
    rw [← total, List.append_assoc] at sound
    exact {
      settled := sound
      points := leaves.points
      dropped := rfl
      keeps := keeps.store hi free _
      free
      taken
      reused := (congrArg Option.isSome agree).symm
      made := fun _ _ => ⟨before.journal, content, rfl⟩
      kept := nofun
      went := nofun }

/-- An assignment that hands a former value over. The former value stays in its slot, changed or
not, even if the closure gives up. -/
theorem Leaves.handOver {ran : Ran shape β} (leaves : Leaves true slot way (run.claim slot) ran)
    (h : Settled run) (hi : slot < shape.capacity) (free : run.pool.isAssigned slot = false)
    {old : Token β} (agree : run.pool.handed? slot way = some old) :
    Assigns way run
      (run.conclude ((run.pool.take slot).handOver slot old fun _ _ _ => ran.making) ran) := by
  have ready : Ready true slot way (run.claim slot) :=
    h.ready_claim hi true (congrArg Option.isSome agree)
  have keeps := leaves.keeps.claim (by rintro j ⟨⟩; rfl) h.whole hi free
  have taken := leaves.keeps.taken ready.assigned
  have same := leaves.keeps.mark ready.assigned
  obtain ⟨⟨value, pool, dropped⟩, journal, points⟩ := ran
  have ends : Ends slot way true ⟨pool, journal, run.dropped ++ dropped⟩ value := leaves.ends
  -- The closure gave up, or it left the value, changed or not. The value is in the slot either way.
  cases ends with
  | gaveUp settled =>
    exact {
      settled
      points := leaves.points
      dropped := rfl
      keeps
      free
      taken
      reused := (congrArg Option.isSome agree).symm
      made := fun made => by cases made
      kept := fun _ new => by cases new
      went := fun _ => same }
  | @left _ token settled found =>
    have stored : (pool.store slot token).values.find? slot = pool.values.find? slot := by
      rw [Pool.store, pool.values.find?_insert slot token (Settled.lt_span hi), if_pos rfl, found]
    exact {
      settled := settled.store found
      points := leaves.points
      dropped := rfl
      keeps := keeps.store hi free token
      free
      taken
      reused := (congrArg Option.isSome agree).symm
      made := fun _ new => by cases new
      kept := fun _ new => by cases new
      went := fun _ => (congrArg _ stored).trans same }

/-- What an assignment that succeeds comes to: it takes the slot it gets, and runs one closure
there. -/
inductive Claims (way : Way) (make : Nat → Runner shape β) (reuse : β → Nat → Runner shape β)
    (run : Run shape β) : Assigned shape β → Prop where
  /-- The value is made. -/
  | makes {i : Nat} {ran : Ran shape β} (claims : run.pool.claim? way = .ok i)
    (agree : (run.pool.take i).handed? i way = none) (runs : ran = make i (run.claim i)) :
    Claims way make reuse run
      (run.conclude ((run.pool.take i).construct i fun _ _ => ran.making) ran)
  /-- A former value is handed over. -/
  | reuses {i : Nat} {old : Token β} {ran : Ran shape β} (claims : run.pool.claim? way = .ok i)
    (agree : (run.pool.take i).handed? i way = some old)
    (runs : ran = reuse old.content i (run.claim i)) :
    Claims way make reuse run
      (run.conclude ((run.pool.take i).handOver i old fun _ _ _ => ran.making) ran)

/-- An assignment that succeeds made a new value or handed a former one over, and ran one closure
for it. -/
theorem Run.claims_assignBy {make : Nat → Runner shape β} {reuse : β → Nat → Runner shape β}
    {assigned : Assigned shape β} (ok : run.assignBy way make reuse = .ok assigned) :
    Claims way make reuse run assigned := by
  rw [Run.assignBy, Pool.assignBy_eq] at ok
  cases claims : run.pool.claim? way with
  | error error =>
    rw [claims] at ok
    cases ok
  | ok i =>
    rw [claims] at ok
    injection ok with ok
    subst ok
    -- Which closure runs depends on whether the slot has a former value that the way of assignment
    -- hands over.
    cases agree : (run.pool.take i).handed? i way with
    | none =>
      have handed : (run.claim i).pool.handed? i way = none := agree
      simp only [agree, Pool.index_construct, handed]
      exact .makes claims agree rfl
    | some old =>
      have handed : (run.claim i).pool.handed? i way = some old := agree
      simp only [agree, Pool.index_handOver, handed]
      exact .reuses claims agree rfl

/-- An assignment is sound if its closures are. Its closures are run with the slot taken, so what
they assign goes elsewhere. -/
theorem Run.assignBy_spec (h : Settled run) {make : Nat → Runner shape β}
    {reuse : β → Nat → Runner shape β}
    (makes : ∀ i start, Ready false i way start → Leaves false i way start (make i start))
    (reuses : ∀ content i start, Ready true i way start →
      Leaves true i way start (reuse content i start))
    {assigned : Assigned shape β} (ok : run.assignBy way make reuse = .ok assigned) :
    Assigns way run assigned := by
  cases Run.claims_assignBy ok with
  | @makes i ran claims agree runs =>
    obtain ⟨hi, free⟩ := Pool.claim?_eq_ok h.whole claims
    have leaves := makes i _ (h.ready_claim hi false (congrArg Option.isSome agree))
    rw [← runs] at leaves
    exact leaves.construct h hi free agree
  | @reuses i old ran claims agree runs =>
    obtain ⟨hi, free⟩ := Pool.claim?_eq_ok h.whole claims
    have leaves := reuses old.content i _ (h.ready_claim hi true (congrArg Option.isSome agree))
    rw [← runs] at leaves
    exact leaves.handOver h hi free agree

/-! ## Closures

The induction is on the closure, all of whose parts are smaller, also those for what a nested
assignment makes. No bound on the depth is needed. -/

/-- The point at which a closure goes on is settled. -/
theorem Ready.point (ready : Ready handed slot way run) : ∀ point ∈ [run], Settled point := by
  intro point mem
  rw [List.mem_singleton.1 mem]
  exact ready.settled

/-- A closure that ends where it is. -/
theorem Ready.stop (ready : Ready handed slot way run) {journal : List (Event β)}
    {value : Option (Token β)} (ends : Ends slot way handed { run with journal } value) :
    Leaves handed slot way run ⟨⟨value, run.pool, []⟩, journal, [run]⟩ where
  keeps := .refl _ _
  points := ready.point
  ends := by
    show Ends slot way handed ⟨run.pool, journal, run.dropped ++ []⟩ value
    rw [List.append_nil]
    exact ends

/-- Whatever a closure does, it leaves slots in use alone and the pool as its journal says. -/
theorem Closure.leaves (closure : Closure β handed) (ready : Ready handed slot way run) :
    Leaves handed slot way run (closure.run slot way run) := by
  -- On the closure, for every run that it may start in. A nested assignment is two closures, and
  -- what follows it.
  induction closure generalizing slot way run with
  | make content => exact ready.stop (.made ready.settled content)
  | leave =>
    obtain ⟨token, found⟩ := Option.isSome_iff_exists.1 (ready.former rfl)
    refine ready.stop ?_
    rw [found]
    exact .left ready.settled found
  | change content next ih =>
    have keeps := Keeps.modify run.pool slot content
    have settled := ready.settled.change ready.assigned content
    exact (ih (ready.keeps settled keeps)).precede keeps ready.point (List.append_nil _).symm
  | giveUp => exact ready.stop (.gaveUp ready.settled)
  | look i next ih =>
    exact (ih _ ready).precede (.refl _ _) ready.point (List.append_nil _).symm
  -- The nested assignment takes a slot that is free, hence not the one that this closure has.
  | @assign handed way' maker reuse next ihm ihr ih =>
    rw [Closure.run]
    cases result : run.assignBy way' (fun i => (maker i).run i way')
      (fun content i => (reuse content i).run i way') with
    | error error =>
      exact (ih _ ready).precede (.refl _ _) ready.point (List.append_nil _).symm
    | ok assigned =>
      have assigns := Run.assignBy_spec ready.settled (fun i _ start => ihm i start)
        (fun content i _ start => ihr content i start) result
      have keeps := assigns.keeps.lend (lent handed slot)
      refine (ih _ (ready.keeps assigns.settled keeps)).precede keeps ?_ assigns.dropped
      intro point mem
      rcases List.mem_cons.1 mem with rfl | mem
      · exact ready.settled
      · exact assigns.points point mem

end GpuSync.Slot
