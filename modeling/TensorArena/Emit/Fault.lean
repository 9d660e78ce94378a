import TensorArena.Arena.Fault

/-!
Why code cannot be emitted.
-/

namespace TensorArena.Emit

/-- Why a fragment or a compilation unit cannot be emitted. -/
inductive Fault where
  /-- No constructor is registered for the operator type. -/
  | unsupportedOperator (kind : String)
  /-- A name that is to be an identifier is none. -/
  | invalidIdentifier (name : String)
  /-- Two symbols of a unit share a name. -/
  | duplicateSymbol (name : String)
  /-- A required attribute is absent. -/
  | missingAttribute (operator key : String)
  /-- An attribute has the wrong kind or value. -/
  | invalidAttribute (operator key reason : String)
  /-- The scale of an output is no finite number. -/
  | nonFiniteScale (output : String)
  /-- A capacity is not acceptable. -/
  | capacities (cause : Arena.Fault)
  /-- What the unit binds does not fit a pool. -/
  | exceedsPool (pool : Pool) (required capacity : Nat)
deriving DecidableEq, Repr

namespace Fault

/-- The fault as a message. -/
def message : Fault → String
  | .unsupportedOperator kind => s!"unsupported op type: {kind}"
  | .invalidIdentifier name => s!"'{name}' is not a valid identifier"
  | .duplicateSymbol name => s!"symbol '{name}' defined twice"
  | .missingAttribute operator key =>
    s!"op '{operator}' is missing attribute '{key}'"
  | .invalidAttribute operator key reason =>
    s!"op '{operator}' attribute '{key}': {reason}"
  | .nonFiniteScale output => s!"output '{output}' has a non-finite quantization scale"
  | .capacities cause => s!"capacities: {cause.message}"
  | .exceedsPool pool required capacity =>
    s!"declarations require {required} bytes of {pool.name}, capacity is {capacity}"

/-- The messages of the causes. -/
def causes : Fault → List String
  | .capacities cause => [cause.message]
  | _ => []

end Fault

end TensorArena.Emit
