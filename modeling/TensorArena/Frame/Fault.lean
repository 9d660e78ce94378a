import TensorArena.Arena.Fault
import TensorArena.Tensor.Descriptor

/-!
Why a step of a run fails.

A fault of an arena or of a descriptor is passed on with its cause; all others say what
the step asked for in vain.
-/

namespace TensorArena.Frame

/-- Why a step fails. -/
inductive Fault where
  /-- An arena refused. -/
  | arena (cause : Arena.Fault)
  /-- A descriptor has no size or no record. -/
  | descriptor (cause : Tensor.Fault)
  /-- Nothing is bound under the name. -/
  | unknownBinding (name : String)
  /-- Something is bound under the name already. -/
  | duplicateBinding (name : String)
  /-- Binding is over once evaluation has begun. -/
  | lateBinding (name : String)
  /-- The binding has no descriptor record. -/
  | missingDescriptor (name : String)
  /-- No scratch claim stands at this position. -/
  | unknownScratch (index : Nat)
  /-- The caller supplied no such input. -/
  | missingInput (name : String)
  /-- The caller supplied no such output. -/
  | missingOutput (name : String)
  /-- A copy between different sizes, into `name`. -/
  | sizeMismatch (name : String) (expected got : Nat)
  /-- The step's own computation failed. -/
  | failed (reason : String)
deriving DecidableEq, Repr

namespace Fault

/-- The fault as a message. -/
def message : Fault → String
  | .arena cause => s!"arena: {cause.message}"
  | .descriptor cause => s!"descriptor: {cause.message}"
  | .unknownBinding name => s!"unknown binding '{name}'"
  | .duplicateBinding name => s!"binding '{name}' already exists"
  | .lateBinding name => s!"cannot bind '{name}' outside a declaration step"
  | .missingDescriptor name => s!"binding '{name}' has no descriptor record"
  | .unknownScratch index => s!"unknown scratch allocation {index}"
  | .missingInput name => s!"input tensor '{name}' not supplied"
  | .missingOutput name => s!"output tensor '{name}' not supplied"
  | .sizeMismatch name expected got => s!"'{name}' holds {expected} bytes, source has {got}"
  | .failed reason => s!"execution failed: {reason}"

/-- The messages of the causes, nearest first. -/
def causes : Fault → List String
  | .arena cause => [cause.message]
  | .descriptor cause => [cause.message]
  | _ => []

/-- The pool that ran out and the bytes requested, where that is the cause. -/
def outOfSpace? : Fault → Option (Pool × Nat)
  | .arena (.outOfSpace pool requested _ _ _) => some (pool, requested)
  | _ => none

end Fault

end TensorArena.Frame
