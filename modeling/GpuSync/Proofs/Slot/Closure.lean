import GpuSync.Proofs.Slot.Pool
import Mathlib.Tactic.Common

/-!
# Closures that use their pool

A value is made by a closure, which may assign further slots of the same pool before it yields a
value or gives up; so may a closure that a former value is handed to. This file gives closures as
data, runs them by the operations of the pool, and keeps a journal of what happened.

* `Slot.Token` is a value with a mark of its own: two values are told apart by their marks.
* `Slot.Closure` is a closure, and `Closure.run` its run in a slot.
* `Slot.Event` is an entry of the journal, and `Slot.account` what the journal says of the pool:
  which slots are taken, what each holds, and which values were dropped for which cause.
* `Slot.Run` is a pool with its journal. `Slot.Call` is a call on a pool, `Slot.run` carries calls
  out in order, and `Run.within` are the points at which the closures of a call use the pool.
-/

namespace GpuSync.Slot

/-- A value, told apart from all others. -/
structure Token (β : Type) where
  /-- How many values were made before it. -/
  mark : Nat
  /-- What it is. -/
  content : β

/-- The value with another content in its place. -/
def Token.setContent {β : Type} (content : β) (token : Token β) : Token β := { token with content }

/-- How a slot is assigned. -/
inductive Way where
  /-- A free slot gets a new value. -/
  | anew (seed : Nat)
  /-- A free slot goes on with the value it has, or gets a new one if it has none. -/
  | again (seed : Nat)
  /-- The slot asked for gets a new value. -/
  | there (i : Nat)
  deriving DecidableEq

/-! ## Assigning in some way

There are three ways to assign a slot. They differ in how the slot is found and in whether a former
value is handed over, so all of them are a claim of a slot followed by one of two endings. -/

namespace Pool

variable {shape : Shape} {α : Type}

/-- Assigns a slot in some way. -/
def assignBy (pool : Pool shape α) (way : Way) (make : Nat → Pool shape α → Making shape α)
    (reuse : α → Nat → Pool shape α → Making shape α) : Except PoolError (Assignment shape α) :=
  match way with
  | .anew seed => pool.assign seed make
  | .again seed => pool.assignWith seed make reuse
  | .there i => pool.assignAt i make

/-- The slot that an assignment gets. -/
def claim? (pool : Pool shape α) : Way → Except PoolError Nat
  | .anew seed | .again seed =>
    match pool.firstFree? seed with
    | none => .error (.full shape.capacity)
    | some i => .ok i
  | .there i =>
    if shape.capacity ≤ i then .error (.outOfRange i shape.capacity)
    else if pool.isAssigned i then .error (.alreadyAssigned i)
    else .ok i

/-- The former value that an assignment hands over. -/
def handed? (pool : Pool shape α) (i : Nat) : Way → Option α
  | .again _ => pool.values.find? i
  | _ => none

/-- Hands the value of a slot just taken over. -/
def handOver (pool : Pool shape α) (i : Nat) (old : α)
    (reuse : α → Nat → Pool shape α → Making shape α) : Assignment shape α :=
  let making := reuse old i pool
  match making.value with
  | none =>
    { index := i, made := false, pool := making.pool, dropped := making.dropped, reused := true }
  | some value =>
    { index := i, made := true, pool := making.pool.store i value, dropped := making.dropped,
      reused := true }

/-- Making a value does not change the slot. -/
@[simp] theorem index_construct (pool : Pool shape α) (i : Nat)
    (make : Nat → Pool shape α → Making shape α) : (pool.construct i make).index = i := by
  unfold construct
  dsimp only
  cases (make i pool).value <;> rfl

/-- Handing a value over does not change the slot. -/
@[simp] theorem index_handOver (pool : Pool shape α) (i : Nat) (old : α)
    (reuse : α → Nat → Pool shape α → Making shape α) : (pool.handOver i old reuse).index = i := by
  unfold handOver
  dsimp only
  cases (reuse old i pool).value <;> rfl

/-- In whatever way, an assignment takes a free slot and then constructs a value or hands the former
one over. -/
theorem assignBy_eq (pool : Pool shape α) (way : Way)
    (make : Nat → Pool shape α → Making shape α)
    (reuse : α → Nat → Pool shape α → Making shape α) :
    pool.assignBy way make reuse =
      (pool.claim? way).map fun i =>
        match (pool.take i).handed? i way with
        | none => (pool.take i).construct i make
        | some old => (pool.take i).handOver i old reuse := by
  cases way with
  | anew seed =>
    unfold assignBy claim? assign
    dsimp only
    cases pool.firstFree? seed <;> rfl
  | again seed =>
    unfold assignBy claim? assignWith
    dsimp only
    cases pool.firstFree? seed with
    | none => rfl
    | some i =>
      dsimp only [Except.map, handed?]
      cases (pool.take i).values.find? i with
      | none => rfl
      | some old =>
        unfold handOver
        dsimp only
        cases (reuse old i (pool.take i)).value <;> rfl
  | there i =>
    unfold assignBy claim? assignAt
    dsimp only
    by_cases out : shape.capacity ≤ i
    · simp [out, Except.map]
    · by_cases taken : pool.isAssigned i = true
      · simp [out, taken, Except.map]
      · simp [out, taken, Except.map, handed?]

/-- The slot that an assignment gets is free. -/
theorem claim?_eq_ok {pool : Pool shape α} (h : pool.Whole) {way : Way} {i : Nat}
    (claims : pool.claim? way = .ok i) : i < shape.capacity ∧ pool.isAssigned i = false := by
  -- Two of the ways search with a seed, and the third names the slot.
  have search {seed : Nat} (found : (match pool.firstFree? seed with
      | none => .error (.full shape.capacity)
      | some i => .ok i : Except PoolError Nat) = .ok i) :
      i < shape.capacity ∧ pool.isAssigned i = false := by
    cases result : pool.firstFree? seed with
    | none =>
      rw [result] at found
      cases found
    | some j =>
      rw [result] at found
      obtain rfl : j = i := by injection found
      exact firstFree?_eq_some h result
  cases way with
  | anew seed | again seed => exact search claims
  | there j =>
    unfold claim? at claims
    dsimp only at claims
    split at claims
    · cases claims
    · rename_i inRange
      split at claims
      · cases claims
      · rename_i free
        obtain rfl : j = i := by injection claims
        exact ⟨by omega, by simpa using free⟩

end Pool

/-! ## The journal

The journal keeps what happened to values and slots, in order and without the pool. From it an
account is made up of which slots are taken, what they hold and what was dropped, against which the
pool is compared. -/

/-- What happened to a pool. Assigning a slot with a new value takes two events, one for the slot
and one for the value. -/
inductive Event (β : Type) where
  /-- A slot was taken. -/
  | claimed (i : Nat)
  /-- A new value was made for a slot that was taken in some way. -/
  | made (way : Way) (i : Nat) (content : β)
  /-- The value of a slot was changed in place. -/
  | changed (i : Nat) (content : β)
  /-- A slot was given back. -/
  | freed (i : Nat)
  /-- All slots were given back. -/
  | freedAll
  /-- The pool was released. -/
  | released

/-- Why a value was dropped. -/
inductive Cause where
  /-- A new value was made in its slot, which was taken in some way. -/
  | replaced (way : Way)
  /-- The pool was released. -/
  | released
  deriving DecidableEq

/-- A value that was dropped. -/
structure Drop (β : Type) where
  /-- The value. -/
  token : Token β
  /-- Why it was dropped. -/
  cause : Cause

/-- What a journal says of a pool. -/
structure Account (β : Type) where
  /-- How many values were made. -/
  made : Nat := 0
  /-- Which slots are taken. -/
  taken : Nat → Bool := fun _ => false
  /-- What each slot holds: the value last made for it, as last changed. -/
  held : Nat → Option (Token β) := fun _ => none
  /-- The values dropped so far, in order. -/
  dropped : List (Drop β) := []

/-- Enters an event, for a pool with so many slots. -/
def Account.enter {β : Type} (capacity : Nat) (account : Account β) : Event β → Account β
  | .claimed i => { account with taken := fun j => if j = i then true else account.taken j }
  | .made way i content =>
    { account with
      made := account.made + 1
      held := fun j => if j = i then some ⟨account.made, content⟩ else account.held j
      dropped := account.dropped ++ (account.held i).toList.map (⟨·, .replaced way⟩) }
  | .changed i content =>
    { account with
      held := fun j =>
        if j = i then (account.held i).map (·.setContent content) else account.held j }
  | .freed i => { account with taken := fun j => if j = i then false else account.taken j }
  | .freedAll => { account with taken := fun _ => false }
  | .released =>
    { account with
      taken := fun _ => false
      held := fun _ => none
      dropped := account.dropped ++
        ((List.range capacity).filterMap account.held).map (⟨·, .released⟩) }

/-- What a journal says. -/
def account {β : Type} (capacity : Nat) (journal : List (Event β)) : Account β :=
  journal.foldl (Account.enter capacity) {}

/-! ## Closures

Closures are data here, trees of what they do next, so that a closure may look at the pool, assign
further slots with further closures, and give up at any point. Giving up stands for a panic. -/

/-- A closure that makes a value, or that a former value is handed to. It may look whether a slot
has a value, assign further slots, change the value that it was handed, and end with a value or
without one. -/
inductive Closure (β : Type) : (handed : Bool) → Type
  /-- Yields a new value. -/
  | make (content : β) : Closure β false
  /-- Is done with the value it was handed. -/
  | leave : Closure β true
  /-- Changes the value it was handed in place. -/
  | change (content : β) (next : Closure β true) : Closure β true
  /-- Gives up. -/
  | giveUp {handed : Bool} : Closure β handed
  /-- Reads the value of a slot. -/
  | look {handed : Bool} (i : Nat) (next : Option β → Closure β handed) : Closure β handed
  /-- Assigns another slot, and learns which it is and whether it got a value, or why there is
  none. -/
  | assign {handed : Bool} (way : Way) (maker : Nat → Closure β false)
    (reuse : β → Nat → Closure β true) (next : Except PoolError (Nat × Bool) → Closure β handed) :
    Closure β handed

/-- A pool with what happened to it. -/
structure Run (shape : Shape) (β : Type) where
  /-- The pool. -/
  pool : Pool shape (Token β) := .empty
  /-- What happened, in order. -/
  journal : List (Event β) := []
  /-- The values dropped so far, in order. -/
  dropped : List (Token β) := []

/-- What its journal says. -/
def Run.account {shape : Shape} {β : Type} (run : Run shape β) : Account β :=
  Slot.account shape.capacity run.journal

/-- An event is entered once, after the others. -/
@[simp] theorem Run.account_append {shape : Shape} {β : Type} (run : Run shape β) (event : Event β)
    (pool : Pool shape (Token β)) (dropped : List (Token β)) :
    (⟨pool, run.journal ++ [event], dropped⟩ : Run shape β).account =
      run.account.enter shape.capacity event := by
  simp [Run.account, Slot.account]

/-- What running a closure comes to. -/
structure Ran (shape : Shape) (β : Type) where
  /-- What became of the value. -/
  making : Making shape (Token β)
  /-- The journal afterwards. -/
  journal : List (Event β)
  /-- The points at which the closure, or one that it brought about, went on. -/
  points : List (Run shape β)

/-- What became of an assignment. -/
structure Assigned (shape : Shape) (β : Type) where
  /-- What the pool says. -/
  assignment : Assignment shape (Token β)
  /-- The pool with what happened to it. -/
  after : Run shape β
  /-- The points at which closures went on. -/
  points : List (Run shape β)

/-- How a pool runs a closure in a slot. -/
abbrev Runner (shape : Shape) (β : Type) : Type := Run shape β → Ran shape β

/-- What was run after such points and drops. -/
def Ran.precede {shape : Shape} {β : Type} (points : List (Run shape β)) (dropped : List (Token β))
    (ran : Ran shape β) : Ran shape β :=
  { ran with
    making := { ran.making with dropped := dropped ++ ran.making.dropped }
    points := points ++ ran.points }

/-- A pool that took a slot. -/
def Run.claim {shape : Shape} {β : Type} (run : Run shape β) (i : Nat) : Run shape β :=
  { run with pool := run.pool.take i, journal := run.journal ++ [.claimed i] }

/-- Goes on after an assignment whose closure was run. -/
def Run.conclude {shape : Shape} {β : Type} (run : Run shape β)
    (assignment : Assignment shape (Token β)) (ran : Ran shape β) : Assigned shape β :=
  ⟨assignment, ⟨assignment.pool, ran.journal, run.dropped ++ assignment.dropped⟩, ran.points⟩

/-- Assigns a slot in some way. -/
def Run.assignBy {shape : Shape} {β : Type} (run : Run shape β) (way : Way)
    (make : Nat → Runner shape β) (reuse : β → Nat → Runner shape β) :
    Except PoolError (Assigned shape β) :=
  (run.pool.assignBy way (fun i pool => (make i { run.claim i with pool }).making)
    (fun old i pool => (reuse old.content i { run.claim i with pool }).making)).map
    fun assignment =>
      let start := run.claim assignment.index
      run.conclude assignment <|
        match start.pool.handed? assignment.index way with
        | none => make assignment.index start
        | some old => reuse old.content assignment.index start

/-- Runs a closure in a slot that was taken in some way. By recursion on the closure. What is run in
a further slot is one of its parts. -/
def Closure.run {shape : Shape} {β : Type} :
    {handed : Bool} → Closure β handed → Nat → Way → Runner shape β
  | _, .make content, slot, way, run =>
    ⟨⟨some ⟨run.account.made, content⟩, run.pool, []⟩,
      run.journal ++ [.made way slot content], [run]⟩
  | _, .leave, slot, _, run => ⟨⟨run.pool.values.find? slot, run.pool, []⟩, run.journal, [run]⟩
  | _, .change content next, slot, way, run =>
    (next.run slot way
      { run with
        pool := run.pool.modify slot (·.setContent content)
        journal := run.journal ++ [.changed slot content] }).precede [run] []
  | _, .giveUp, _, _, run => ⟨⟨none, run.pool, []⟩, run.journal, [run]⟩
  | _, .look i next, slot, way, run =>
    ((next ((run.pool.get? i).map (·.content))).run slot way run).precede [run] []
  | _, .assign way' maker reuse next, slot, way, run =>
    match run.assignBy way' (fun i => (maker i).run i way')
      (fun content i => (reuse content i).run i way') with
    | .error error => ((next (.error error)).run slot way run).precede [run] []
    | .ok assigned =>
      ((next (.ok (assigned.assignment.index, assigned.assignment.made))).run slot way
        assigned.after).precede (run :: assigned.points) assigned.assignment.dropped

/-! ## Calls

A call on the pool is one entry point with the closures that it is given. Every point at which a
closure goes on counts as a state of the pool that can be seen. -/

/-- A call on a pool, with its arguments. -/
inductive Call (β : Type) where
  /-- Assigns a slot in some way. -/
  | assign (way : Way) (maker : Nat → Closure β false) (reuse : β → Nat → Closure β true)
  /-- Gives a slot back. -/
  | unassign (i : Nat)
  /-- Changes the value of a slot that is taken and has one. -/
  | modify (i : Nat) (change : β → β)
  /-- Changes every such value and gives all slots back. -/
  | unassignAll (visit : Nat → β → β)
  /-- Releases the pool, as dropping it does too. -/
  | release

namespace Run

variable {shape : Shape} {β : Type}

/-- Assigns a slot in some way, with closures to make its value. -/
def assign (run : Run shape β) (way : Way) (maker : Nat → Closure β false)
    (reuse : β → Nat → Closure β true) : Except PoolError (Assigned shape β) :=
  run.assignBy way (fun i => (maker i).run i way) (fun content i => (reuse content i).run i way)

/-- Goes on with one more call. -/
def next (run : Run shape β) : Call β → Run shape β
  | .assign way maker reuse =>
    match run.assign way maker reuse with
    | .error _ => run
    | .ok assigned => assigned.after
  | .unassign i =>
    { run with
      pool := (run.pool.unassign i).2
      journal := if (run.pool.unassign i).1 then run.journal ++ [.freed i] else run.journal }
  | .modify i change =>
    { run with
      pool := run.pool.modify i fun token => token.setContent (change token.content)
      journal :=
        match run.pool.get? i with
        | some token => run.journal ++ [.changed i (change token.content)]
        | none => run.journal }
  | .unassignAll visit =>
    { run with
      pool := run.pool.unassignAll fun i token => token.setContent (visit i token.content)
      journal := run.journal ++
        run.pool.live.map (fun entry => .changed entry.1 (visit entry.1 entry.2.content)) ++
        [.freedAll] }
  | .release =>
    ⟨run.pool.release.2, run.journal ++ [.released], run.dropped ++ run.pool.release.1⟩

/-- The points at which the closures of a call went on. -/
def within (run : Run shape β) : Call β → List (Run shape β)
  | .assign way maker reuse =>
    match run.assign way maker reuse with
    | .error _ => []
    | .ok assigned => assigned.points
  | _ => []

end Run

/-- Carries calls out in order, on a pool that was never used. -/
def run {shape : Shape} {β : Type} (calls : List (Call β)) : Run shape β :=
  calls.foldl Run.next {}

end GpuSync.Slot
