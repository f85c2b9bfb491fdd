/-!
# Attempts

## Main definitions

* `GpuSync.attempt` changes a state unless the change is refused.
* `GpuSync.attempts` repeats an action until it is refused.
-/

namespace GpuSync

variable {m : Type → Type} [Monad m] {ε α : Type}

/-- Attempts a change of the state; a refused one leaves the state as it is. -/
@[specialize] def attempt {σ : Type} (change : σ → Except ε (α × σ)) :
    StateT σ m (Except ε α) := do
  match change (← get) with
  | .ok (a, next) => do
    set next
    return .ok a
  | .error e => return .error e

/-- Attempts an action for the numbers from `k` on, `n` of them, until it is refused. Yields the
answers, those of earlier attempts first, and the refusal. -/
@[specialize] def attemptsFrom (action : Nat → m (Except ε α)) :
    Nat → Nat → List α → m (List α × Option ε)
  | 0, _, earlier => pure (earlier.reverse, none)
  | n + 1, k, earlier =>
    action k >>= fun answer =>
      match answer with
      | .ok a => attemptsFrom action n (k + 1) (a :: earlier)
      | .error e => pure (earlier.reverse, some e)

/-- Attempts an action `n` times, numbered from zero, until it is refused. Yields the answers and
the refusal. -/
@[specialize] def attempts (n : Nat) (action : Nat → m (Except ε α)) : m (List α × Option ε) :=
  attemptsFrom action n 0 []

end GpuSync
