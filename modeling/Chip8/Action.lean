/-!
Actions: things done to a state that may be refused. What an action did before the refusal stays
done.
-/

namespace Chip8

abbrev Action (ε σ α : Type) := EStateM ε σ α

namespace Action

variable {ε σ τ α : Type}

def attempt (answer : Except ε α) : Action ε σ α := fun state =>
  match answer with
  | .ok value => .ok value state
  | .error refusal => .error refusal state

/-- An action on a part of the state; the rest is left alone, also by a refusal. -/
def within (part : σ → τ) (replace : σ → τ → σ) (action : Action ε τ α) : Action ε σ α :=
  fun state =>
    match action (part state) with
    | .ok value done => .ok value (replace state done)
    | .error refusal done => .error refusal (replace state done)

/-- Repeats an action up to `count` times and collects the answers; stops at the first refusal. -/
def times (action : Action ε σ α) : Nat → Action ε σ (List α)
  | 0 => pure []
  | count + 1 => do
    let first ← action
    let rest ← times action count
    return first :: rest

end Action

end Chip8
