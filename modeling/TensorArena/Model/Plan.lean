import TensorArena.Model.Step

/-!
Plans: what a model needs in each pool, found out before any run.

The bindings of all declaring steps are alive together, and the scratch of an evaluating
step only while it runs. So a run needs the sum of the declared demands and the largest
of the scratch demands. A plan exists for a model whose capacities are acceptable, which
evaluates something, whose steps and tensors have names of their own, and whose need fits
both capacities; the checks are made in this order.
-/

namespace TensorArena

/-- What a model is made from. -/
structure Blueprint (σ : Type) where
  name : String
  capacities : Capacities
  inputs : List String
  outputs : List String
  declarations : List (Step σ)
  evaluations : List (Step σ)

/-- The memory needs of a model. -/
structure Plan where
  capacities : Capacities
  /-- What all bindings together take. -/
  declared : PerPool Nat
  /-- The most that the scratch of one step takes. -/
  maxScratch : PerPool Nat
  /-- What each step asked for. -/
  demands : Table (PerPool Nat)
deriving DecidableEq, Repr

namespace Plan

/-- Why there is no plan, or no model. -/
inductive Fault where
  /-- The model has no evaluating step. -/
  | noEvaluation
  /-- The model's name is empty. -/
  | emptyName
  /-- Two steps share a name. -/
  | duplicateStep (name : String)
  /-- A name appears twice among inputs and outputs. -/
  | duplicateTensor (name : String)
  /-- A capacity is not acceptable. -/
  | capacities (cause : Arena.Fault)
  /-- The need exceeds a capacity. -/
  | exceedsPool (pool : Pool) (required capacity : Nat)
deriving DecidableEq, Repr

/-- The fault as a message. -/
def Fault.message : Fault → String
  | .noEvaluation => "model has no evaluation steps"
  | .emptyName => "model name is empty"
  | .duplicateStep name => s!"step name '{name}' used twice"
  | .duplicateTensor name => s!"tensor name '{name}' used twice in inputs/outputs"
  | .capacities cause => s!"capacities: {cause.message}"
  | .exceedsPool pool required capacity =>
    s!"model requires {required} bytes of {pool.name}, capacity is {capacity}"

/-- The messages of the causes. -/
def Fault.causes : Fault → List String
  | .capacities cause => [cause.message]
  | _ => []

variable (plan : Plan)

/-- What a run needs free in each pool. -/
def required : PerPool Nat := plan.declared.satAdd plan.maxScratch

/-- Capacity left over. -/
def headroom (pool : Pool) : Nat := plan.capacities.get pool - plan.required.get pool

/-- What a step asked for, by its name. -/
def demand? (step : String) : Option (PerPool Nat) := plan.demands.get? step

/-- The number of steps. -/
def size : Nat := plan.demands.size

/-- The first name of a list that stands earlier in it or in `seen`. -/
def firstRepeated? (seen : List String) : List String → Option String
  | [] => none
  | name :: rest => if name ∈ seen then some name else firstRepeated? (name :: seen) rest

end Plan

namespace Blueprint

variable {σ : Type} (b : Blueprint σ)

/-- All steps, declaring ones first. -/
def steps : List (Step σ) := b.declarations ++ b.evaluations

/-- The sum of the declared demands. -/
def declared : PerPool Nat := .satSum (b.declarations.map (·.demand))

/-- The largest scratch demand. -/
def maxScratch : PerPool Nat := .largest (b.evaluations.map (·.demand))

/-- The plan that the checks are about. -/
def needs : Plan where
  capacities := b.capacities
  declared := b.declared
  maxScratch := b.maxScratch
  demands := .ofList (b.steps.map fun step => (step.name, step.demand))

/-- The plan of a model, or the first check that fails. -/
def plan : Except Plan.Fault Plan :=
  match b.capacities.check with
  | .error fault => .error (.capacities fault)
  | .ok () =>
    if b.evaluations.isEmpty then .error .noEvaluation
    else
      match Plan.firstRepeated? [] (b.steps.map (·.name)) with
      | some name => .error (.duplicateStep name)
      | none =>
        match Plan.firstRepeated? [] (b.inputs ++ b.outputs) with
        | some name => .error (.duplicateTensor name)
        | none =>
          match b.capacities.firstExceeded? b.needs.required with
          | some pool =>
            .error (.exceedsPool pool (b.needs.required.get pool) (b.capacities.get pool))
          | none => .ok b.needs

end Blueprint

end TensorArena
