import TensorArena.Arena.Inspect
import TensorArena.Emit.Registry
import TensorArena.Emit.CompilationUnit
import TensorArena.Text.Quoted

/-!
Inspection texts of operator records, registries and compilation units. A unit shows its
fragments by their number and leaves out the variables of the arenas; a registry shows the
operator types that it serves.
-/

namespace TensorArena

open Text.Quoted (quote)
open Text.Inspect (record variant list pair table)

/-- The element type as a variant. -/
def Tensor.ElementType.inspect : Tensor.ElementType → String
  | .u8 => "U8"
  | .i8 => "I8"
  | .i16 => "I16"
  | .i32 => "I32"
  | .f32 => "F32"

namespace Emit

/-- The value with its kind. -/
def Attribute.inspect : Attribute → String
  | .int n => variant "Int" (toString n)
  | .float x => variant "Float" x.inspect
  | .text s => variant "Str" (quote s)
  | .ints ns => variant "Ints" (list (ns.map toString))

/-- A slot and its tensor. -/
def Connection.inspect (c : Connection) : String := pair (quote c.1) (quote c.2)

/-- The whole record. -/
def Operator.inspect (op : Operator) : String :=
  record "OpInfo" [
    ("name", quote op.name),
    ("op_type", quote op.kind),
    ("dtype", op.dtype.inspect),
    ("inputs", list (op.inputs.map Connection.inspect)),
    ("outputs", list (op.outputs.map Connection.inspect)),
    ("attrs", table (op.attributes.entries.map fun entry =>
      (quote entry.1, entry.2.inspect)))]

/-- The operator types. -/
def Registry.inspect (r : Registry) : String := list (r.kinds.map quote)

/-- The parameters of an output. -/
def Quantization.inspect (q : Quantization) : String :=
  record "QuantizeParams" [("zero_point", toString q.zeroPoint), ("scale", q.scale.inspect)]

/-- A unit before it is text. -/
def CompilationUnit.inspect (u : CompilationUnit) : String :=
  record "ModelIr" [
    ("model_name", quote u.name),
    ("placeholders", list (u.placeholders.map quote)),
    ("outputs", list (u.outputs.map quote)),
    ("capacities", u.capacities.inspect),
    ("global_declarations", toString u.globals.length),
    ("local_declarations", toString u.locals.length),
    ("evaluations", toString u.evaluations.length),
    ("quantize_params", table (u.quantization.entries.map fun entry =>
      (quote entry.1, entry.2.inspect)))]

end Emit

end TensorArena
