import GpuSync.Proofs.Batch.Effect

/-!
# Calls made of other calls

Three calls have no case in `Batch.Effect`. Two of them are one other call with arguments read off
the batch or the tracker (`perform_useAtRest`, `exists_perform_declareDefault`; `Call.StandsFor` and
`exists_standsFor`), and declaring the images of a surface declares one after another: what every
declaration keeps is kept by it (`useMany_induction`). So what is proved case by case on `Effect`
reaches every call (`perform_induction`).
-/

namespace GpuSync.Batch

/-- Declaring a resource at rest is declaring it. -/
theorem perform_useAtRest (batch : Batch) (tracker : Tracker) (key : Key) :
    batch.perform tracker (.useAtRest key) =
      batch.perform tracker
        (.use key (tracker.restingUsage key).1 (tracker.restingUsage key).1) := rfl

/-- Declaring a resource for a task as it is left is declaring it. -/
theorem exists_perform_declareDefault (batch : Batch) (tracker : Tracker) (task : Nat)
    (key : Key) :
    ∃ initial final, batch.perform tracker (.declareDefault task key) =
      batch.perform tracker (.declare task key initial final) := by
  show ∃ initial final, (batch.declareDefault tracker task key).turn tracker .taskUse =
    (batch.declare tracker task key initial final).turn tracker .taskUse
  unfold declareDefault
  split
  · exact ⟨_, _, rfl⟩
  · dsimp only
    split
    · exact ⟨_, _, rfl⟩
    · exact ⟨_, _, rfl⟩

/-- A call that has a case in `Effect`, and the calls that come to it. -/
inductive Call.StandsFor : Call → Call → Prop where
  /-- The call itself. -/
  | self {call : Call} (basic : call.Basic) : StandsFor call call
  /-- Declaring a resource at rest. -/
  | atRest (key : Key) (initial final : Usage) : StandsFor (.use key initial final) (.useAtRest key)
  /-- Declaring a resource for a task as it is left. -/
  | default (task : Nat) (key : Key) (initial final : Usage) :
    StandsFor (.declare task key initial final) (.declareDefault task key)

namespace Call.StandsFor

variable {basic call : Call}

/-- The calls that others come to have a case of their own in `Effect`. -/
theorem isBasic (h : basic.StandsFor call) : basic.Basic := by
  cases h with
  | self basic => exact basic
  | _ => trivial

/-- A call comes to a call that is recorded for the same task. -/
theorem recorded? (h : basic.StandsFor call) : basic.recorded? = call.recorded? := by
  cases h <;> rfl

end Call.StandsFor

/-- Every call but the declaration of several images comes to one that has a case in `Effect`. -/
theorem exists_standsFor (batch : Batch) (tracker : Tracker) {call : Call}
    (single : ∀ targets, call ≠ .useTargets targets) :
    ∃ basic, Call.StandsFor basic call ∧
      batch.perform tracker call = batch.perform tracker basic := by
  cases call with
  | useTargets targets => exact absurd rfl (single targets)
  | useAtRest key => exact ⟨_, .atRest key _ _, perform_useAtRest batch tracker key⟩
  | declareDefault task key =>
    obtain ⟨initial, final, same⟩ := exists_perform_declareDefault batch tracker task key
    exact ⟨_, .default task key initial final, same⟩
  | _ => exact ⟨_, .self trivial, rfl⟩

/-- What every declaration keeps is kept by several. It need not be looked at in which of them the
first refusal came. -/
theorem useMany_induction {P : Batch → Prop} (tracker : Tracker)
    (step : ∀ (batch : Batch) (key : Key) (initial final : Usage), P batch →
      P (batch.use tracker key initial final).batch)
    (uses : List (Key × Usage × Usage)) {batch : Batch} (h : P batch) :
    P (batch.useMany tracker uses).batch := by
  induction uses generalizing batch with
  | nil => exact h
  | cons use rest ih =>
    obtain ⟨key, initial, final⟩ := use
    have first := step batch key initial final h
    unfold useMany
    dsimp only
    cases (batch.use tracker key initial final).answer with
    | error reason => exact first
    | ok passage => exact ih first

/-- Declaring a resource for the whole batch writes no task and leaves a batch as relaxed as it
was. -/
theorem use_keeps (batch : Batch) (tracker : Tracker) (key : Key) (initial final : Usage) :
    (batch.use tracker key initial final).batch.scopes = batch.scopes ∧
      (batch.use tracker key initial final).batch.relaxed = batch.relaxed := by
  unfold use
  repeat' split
  all_goals exact ⟨rfl, rfl⟩

/-- To use a resource with the batch is to declare, never to record. -/
theorem commands_use (batch : Batch) (tracker : Tracker) (key : Key) (initial final : Usage) :
    (batch.use tracker key initial final).commands = [] := by
  unfold use
  repeat' split
  all_goals rfl

/-- Declarations record nothing. -/
theorem commands_useMany (batch : Batch) (tracker : Tracker) (uses : List (Key × Usage × Usage)) :
    (batch.useMany tracker uses).commands = [] := by
  induction uses generalizing batch with
  | nil => rfl
  | cons use rest ih =>
    obtain ⟨key, initial, final⟩ := use
    unfold useMany
    dsimp only
    cases (batch.use tracker key initial final).answer with
    | error reason => rfl
    | ok passage => exact ih _

/-- **What every case of `Effect` carries on holds after every call**, with the commands recorded:
it holds at first, and a call goes on from where nothing was recorded yet. -/
theorem perform_induction {R : Batch → List Command → Prop} {batch : Batch} (tracker : Tracker)
    (start : R batch [])
    (step : ∀ {mid after : Batch} {call : Call} {answer : Except BatchError Reply}
      {commands : List Command}, R mid [] → Effect tracker mid call answer after commands →
      R after commands)
    (call : Call) :
    R (batch.perform tracker call).batch (batch.perform tracker call).commands := by
  by_cases several : ∃ targets, call = .useTargets targets
  · obtain ⟨targets, rfl⟩ := several
    show R (batch.useTargets tracker targets).batch (batch.useTargets tracker targets).commands
    unfold useTargets
    rw [commands_useMany]
    refine useMany_induction (P := fun after => R after []) tracker
      (fun mid key initial final h => ?_) _ start
    have declared := step h (Effect.of_use key initial final)
    rwa [commands_use] at declared
  · obtain ⟨basic, stands, same⟩ :=
      exists_standsFor batch tracker fun targets is => several ⟨targets, is⟩
    rw [same]
    exact step start (perform_effect batch tracker stands.isBasic)

/-- A task that has begun has begun after every call. -/
theorem isBegun_perform {batch : Batch} {task : Nat} (begun : batch.isBegun task = true)
    (tracker : Tracker) (call : Call) :
    (batch.perform tracker call).batch.isBegun task = true :=
  perform_induction (R := fun after _ => after.isBegun task = true) tracker begun
    (fun begun effect => effect.isBegun_mono begun) call

end GpuSync.Batch
