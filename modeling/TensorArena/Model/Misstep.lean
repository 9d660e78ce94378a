import TensorArena.Model.Step

/-!
Steps that break a rule of runs on purpose, to see it enforced.
-/

namespace TensorArena.Step

variable {σ : Type}

/-- Claims bytes straight from an arena while evaluating and keeps them. -/
def leaky (name : String) (pool : Pool) (size : Nat) : Step σ where
  name
  demand := .zero
  body := stateless do
    match ← ExceptT.lift (.ask (.onArena pool (.allocate size 1))) with
    | .error fault => throw (.arena fault)
    | .ok _ => return ()

/-- Binds a buffer while evaluating. -/
def late (name binding : String) : Step σ where
  name
  demand := .zero
  body := stateless (.mk (.ask (.bind binding .ram 1 1)))

/-- Succeeds `limit` times and fails from then on. `count` answers how often the step has
been taken before and counts this time. -/
def failing (name : String) (limit : Nat) (count : σ → Nat × σ) : Step σ where
  name
  demand := .zero
  body := fun s =>
    let (taken, s) := count s
    if limit ≤ taken then return (.error (.failed s!"failed after {limit} calls"), s)
    else return (.ok (), s)

end TensorArena.Step
