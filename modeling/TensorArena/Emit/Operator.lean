import TensorArena.Decimal.Binary32
import TensorArena.Emit.Fault
import TensorArena.Table
import TensorArena.Tensor.Descriptor

/-!
Operator records: one node of a source graph, with its tensors and its attributes.
-/

namespace TensorArena.Emit

/-- The value of an attribute. -/
inductive Attribute where
  | int (n : Int)
  | float (x : Binary32)
  | text (s : String)
  | ints (ns : List Int)
deriving DecidableEq, Repr

namespace Attribute

/-- The value as messages and emitted texts show it. -/
def describe : Attribute → String
  | .int n => toString n
  | .float x => x.describe
  | .text s => s
  | .ints ns => "\x7b" ++ ", ".intercalate (ns.map toString) ++ "\x7d"

end Attribute

/-- A slot of an operator and the variable of the tensor in it. -/
abbrev Connection := String × String

/-- One operator of a source graph. -/
structure Operator where
  /-- The variable of the operator in the emitted code. -/
  name : String
  /-- The type of the operator in the source graph. -/
  kind : String
  /-- The element type for which the operator is made. -/
  dtype : Tensor.ElementType
  inputs : List Connection
  outputs : List Connection
  attributes : Table Attribute
deriving DecidableEq, Repr

namespace Operator

variable (op : Operator)

/-- The value of an attribute that has to be there. -/
def require (key : String) : Except Fault Attribute :=
  match op.attributes.get? key with
  | none => .error (.missingAttribute op.name key)
  | some value => .ok value

/-- The value of an integer attribute that has to be there. -/
def requireInt (key : String) : Except Fault Int :=
  match op.require key with
  | .error fault => .error fault
  | .ok (.int n) => .ok n
  | .ok other =>
    .error (.invalidAttribute op.name key s!"expected an integer, got {other.describe}")

/-- The value of an integer attribute, or `default` where it is absent. -/
def intOr (key : String) (default : Int) : Except Fault Int :=
  if op.attributes.contains key then op.requireInt key else .ok default

end Operator

end TensorArena.Emit
