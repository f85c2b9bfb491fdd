import GpuSync.Completion.Watched
import Mathlib.Data.List.Induction

/-!
# Who is woken

A poll that finds a future not done leaves a waker with the signal, and is to be woken once the
future is done. There are two ways for that: the signal is raised, or it is given up.

* `Watched.Request` is anything done to a signal or to its futures, and `Watched.Run` keeps beside
  them which wakers were left and how often raising was answered by true.
* `Watched.Sound` is the invariant: the wakers left are with the signal until it is raised, and
  from then on they are those that were woken.
* **`Watched.raising_wakes_all`** is the result for all runs: raising the signal, and nothing else,
  wakes the wakers left so far, each of them once.
* **`Watched.lost_with_signal`**: a signal that is given up takes its wakers with it.
-/

namespace GpuSync.Completion.Watched

/-! ## Runs

A request may come to nothing because the signal is gone or because there is no such future. Then it
is passed over, and so a run takes any requests in any order. -/

/-- Something done to a signal or to one of its futures. -/
inductive Request where
  /-- Raises the signal. -/
  | raise
  /-- Gives the signal up. -/
  | giveUp
  /-- Adds a future, which watches the signal or nothing. -/
  | addFuture (watches : Bool)
  /-- Asks whether a future is done. -/
  | isDone (i : Nat)
  /-- Polls a future, on behalf of some waker. -/
  | poll (i waker : Nat)
  deriving DecidableEq

/-- A watched signal with what was answered so far. Futures are told apart by their number, and are
never removed. -/
structure Run where
  /-- The signal and its futures. -/
  watched : Watched := {}
  /-- The wakers of the polls that found their future not done, in order. -/
  left : List Nat := []
  /-- How often raising the signal was answered by true. -/
  raises : Nat := 0

/-- Goes on with one more request. One that has no result changes nothing. -/
def Run.next (run : Run) : Request → Run
  | .raise =>
    match run.watched.raise? with
    | none => run
    | some (first, watched) => { run with watched, raises := run.raises + first.toNat }
  | .giveUp => { run with watched := run.watched.giveUp.2 }
  | .addFuture watches => { run with watched := (run.watched.addFuture watches).2 }
  | .isDone _ => run
  | .poll i waker =>
    match run.watched.poll? i waker with
    | none => run
    | some (true, watched) => { run with watched }
    | some (false, watched) => { run with watched, left := run.left ++ [waker] }

/-- Carries requests out in order, on a signal that is new. -/
def run (requests : List Request) : Run := requests.foldl Run.next {}

/-- A run goes on with the last request. -/
@[simp] theorem run_append (requests : List Request) (request : Request) :
    run (requests ++ [request]) = (run requests).next request := by
  simp [run]

/-! ## One request

What a poll or a raise comes to depends on two things, whether the signal is there and whether it is
up. -/

/-- What it watches once a waker was left with the signal. -/
def leave (watched : Watched) (waker : Nat) : Watched :=
  { watched with
    signal := watched.signal.map fun signal =>
      { signal with waiting := signal.waiting ++ [waker] } }

/-- A poll answers whether the future is done. If it is not, the signal gets the waker. -/
theorem poll?_eq (watched : Watched) (i waker : Nat) :
    watched.poll? i waker =
      (watched.isDone? i).map fun ready =>
        (ready, if ready then watched else watched.leave waker) := by
  unfold poll? isDone?
  cases at' : watched.source? i with
  | none => rfl
  | some source =>
    cases source with
    | none => rfl
    | some signal =>
      have there : watched.signal = some signal := by
        obtain ⟨watches, -, same⟩ := Option.map_eq_some_iff.1 at'
        cases watches <;> simp_all
      cases down : signal.done <;> simp [isDone, Completion.poll, leave, there, down]

/-- Raising a signal that is down wakes all wakers it has; one that is up stays as it is. -/
theorem raise?_eq {watched : Watched} {signal : Completion} (there : watched.signal = some signal) :
    watched.raise? = some (!signal.done,
      if signal.done then watched
      else
        { watched with
          signal := some { done := true, waiting := [] }
          woken := watched.woken ++ signal.waiting }) := by
  unfold raise? raise
  cases down : signal.done with
  | false => simp [there, down]
  | true =>
    have same : { watched with signal := some signal } = watched := by rw [← there]
    simp [there, down, same]

/-- A future is done if it watches nothing, or if the signal is up or gone. -/
theorem isDone?_eq (watched : Watched) (i : Nat) :
    watched.isDone? i =
      watched.futures[i]?.map fun watches => !watches || watched.signal.all (·.done) := by
  unfold isDone? source?
  rw [Option.map_map]
  congr 1
  funext watches
  cases watches <;> cases watched.signal <;> simp [isDone]

/-! ## All runs

The book lists the wakers that were left and those that were woken. As long as the signal is there
and down, the wakers left are exactly those that it has; raising moves them over in one step. -/

/-- The wakers that were left are with the signal until it is raised, and are woken then. Nothing is
said of the wakers of a signal that is gone, as they went with it. -/
structure Sound (run : Run) : Prop where
  /-- The signal is up exactly if it was raised once. -/
  up : ∀ signal, run.watched.signal = some signal → run.raises = signal.done.toNat
  /-- A signal that is down has all the wakers. -/
  waiting : ∀ signal, run.watched.signal = some signal → signal.done = false →
    signal.waiting = run.left
  /-- Raising was answered by true once at most. -/
  once : run.raises ≤ 1
  /-- It woke all the wakers, and nobody else did. -/
  woken : run.watched.woken = if run.raises = 1 then run.left else []

/-- A new signal is down, and nobody waits for it. -/
theorem sound_new : Sound {} := by
  refine ⟨?_, ?_, Nat.zero_le 1, rfl⟩ <;> simp

section

variable {run : Run}

/-- Raising wakes all that were left, once: another time finds the signal up and wakes nobody. -/
theorem Sound.raise (h : Sound run) : Sound (run.next .raise) := by
  unfold Run.next
  cases there : run.watched.signal with
  | none => simpa [raise?, there] using h
  | some signal =>
    have up := h.up signal there
    rw [raise?_eq there]
    cases down : signal.done with
    | true => simpa using h
    | false =>
      have waiting := h.waiting signal there down
      have woken := h.woken
      rw [down] at up
      refine ⟨?_, ?_, ?_, ?_⟩ <;> simp_all

/-- A poll leaves its waker with the signal while that is down, and nowhere else. -/
theorem Sound.poll (h : Sound run) (i waker : Nat) : Sound (run.next (.poll i waker)) := by
  unfold Run.next
  dsimp only
  rw [poll?_eq]
  cases answer : run.watched.isDone? i with
  | none => exact h
  | some ready =>
    cases ready with
    | true => exact h
    | false =>
      -- The future is not done, so the signal is there and down.
      rw [isDone?_eq] at answer
      obtain ⟨watches, -, down⟩ := Option.map_eq_some_iff.1 answer
      obtain ⟨signal, there, down⟩ : ∃ signal, run.watched.signal = some signal ∧
          signal.done = false := by
        cases there : run.watched.signal <;> simp_all
      have up := h.up signal there
      have waiting := h.waiting signal there down
      have woken := h.woken
      rw [down] at up
      refine ⟨?_, ?_, h.once, ?_⟩ <;> simp_all [leave]

/-- Every request keeps the book of wakers, by cases on the request. -/
theorem Sound.next (h : Sound run) (request : Request) : Sound (run.next request) := by
  cases request with
  | raise => exact h.raise
  | giveUp => exact ⟨nofun, nofun, h.once, h.woken⟩
  | addFuture watches => exact ⟨h.up, h.waiting, h.once, h.woken⟩
  | isDone i => exact h
  | poll i waker => exact h.poll i waker

end

/-- Every run keeps the book of wakers, by induction on the requests. -/
theorem sound_run (requests : List Request) : Sound (run requests) := by
  induction requests using List.reverseRecOn with
  | nil => exact sound_new
  | append_singleton requests request ih =>
    rw [run_append]
    exact ih.next request

/-- **Raising wakes everybody, once, and nothing else wakes anybody.** Whatever is done to a signal
and to its futures, raising is answered by true once at most. If it was, all wakers left by polls so
far were woken, each as often as it was left and in that order; if it was not, no waker was woken,
though the futures may be done because the signal was given up. A future is done if it watches
nothing, or if the signal was raised or given up; polling it then is answered by just that, and
leaves nothing behind. -/
theorem raising_wakes_all (requests : List Request) :
    let run := run requests
    run.raises ≤ 1 ∧
    run.watched.woken = (if run.raises = 1 then run.left else []) ∧
    (∀ i, run.watched.isDone? i = run.watched.futures[i]?.map fun watches =>
      !watches || run.watched.signal.isNone || run.raises == 1) ∧
    ∀ i waker ready after, run.watched.poll? i waker = some (ready, after) →
      run.watched.isDone? i = some ready ∧ (ready = true → after = run.watched) := by
  intro run
  have sound : Sound run := sound_run requests
  refine ⟨sound.once, sound.woken, fun i => ?_, fun i waker ready after polled => ?_⟩
  · rw [isDone?_eq]
    congr 1
    funext watches
    cases there : run.watched.signal with
    | none => simp
    | some signal =>
      have up := sound.up signal there
      cases done : signal.done <;> simp_all
  · rw [poll?_eq] at polled
    obtain ⟨_, answer, same⟩ := Option.map_eq_some_iff.1 polled
    obtain ⟨rfl, rfl⟩ := Prod.mk.inj same
    refine ⟨answer, ?_⟩
    rintro rfl
    rfl

/-- **Wakers are lost with their signal.** A future was polled and left a waker; then the signal is
given up. The future is done, but nobody is woken. -/
theorem lost_with_signal :
    let run := run [.addFuture true, .poll 0 7, .giveUp]
    run.watched.isDone? 0 = some true ∧ run.left = [7] ∧ run.watched.woken = [] := by
  decide

end GpuSync.Completion.Watched
