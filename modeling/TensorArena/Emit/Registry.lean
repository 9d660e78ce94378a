import TensorArena.Emit.OperatorCall
import TensorArena.Emit.Window

/-!
The registry of operator types: how a fragment is made from an operator record.

Most reference operators only connect their inputs and outputs. Three slide a window and
take parameters from attributes.
-/

namespace TensorArena.Emit

/-- Makes a fragment from an operator record. -/
abbrev Constructor := Operator → Except Fault Fragment

/-! ### Reference operators -/

/-- The class of a reference operator for an element type. -/
def referenceClass (name : String) (dtype : Tensor.ElementType) : String :=
  s!"ReferenceOperators::{name}<{scalarTypeName dtype}>"

/-- The call of a reference operator with the record's inputs and outputs. -/
def referenceCall (name : String) (op : Operator) : OperatorCall :=
  ((OperatorCall.new op.name (referenceClass name op.dtype)).addInputs op.inputs).addOutputs
    op.outputs

/-- A reference operator without parameters. -/
def reference (name : String) : Constructor := fun op => .ok (referenceCall name op).fragment

/-- The parameters of a depthwise separable convolution as they are emitted. -/
def Convolution.parameters (c : Convolution) : List (String × String) := [
  ("padding", c.padding.constant),
  ("stride_width", toString c.stride.width),
  ("stride_height", toString c.stride.height),
  ("depth_multiplier", toString c.depthMultiplier),
  ("activation", c.activation.constant),
  ("dilation_width_factor", toString c.dilation.width),
  ("dilation_height_factor", toString c.dilation.height)]

/-- The call of a depthwise separable convolution. -/
def depthwiseSeparableCall (op : Operator) : Except Fault OperatorCall := do
  let c ← Convolution.ofOperator op
  return (referenceCall "DepthwiseSeparableConvOperator" op).setParameters c.parameters

/-- The call of a quantized convolution: strides and padding are required. -/
def quantizedConvolutionCall (op : Operator) : Except Fault OperatorCall := do
  let stride ← op.requireExtent "strides"
  let padding ← op.padding
  return (referenceCall "QuantizedConv2DOperator" op).setParameters [
    ("stride_height", toString stride.height),
    ("stride_width", toString stride.width),
    ("padding", padding.constant)]

/-- The call of a quantized maximum pool: window size, strides and padding are required. -/
def quantizedMaxPoolCall (op : Operator) : Except Fault OperatorCall := do
  let size ← op.requireExtent "ksize"
  let stride ← op.requireExtent "strides"
  let padding ← op.padding
  return (referenceCall "QuantizedMaxPoolOperator" op).setParameters [
    ("ksize_height", toString size.height),
    ("ksize_width", toString size.width),
    ("stride_height", toString stride.height),
    ("stride_width", toString stride.width),
    ("padding", padding.constant)]

/-- A constructor from the call that it makes. -/
def Constructor.ofCall (make : Operator → Except Fault OperatorCall) : Constructor :=
  fun op => (make op).map OperatorCall.fragment

/-! ### The registry -/

/-- Constructors under the operator types that they serve. -/
structure Registry where
  constructors : Table Constructor

namespace Registry

/-- A registry without operator types. -/
def empty : Registry := ⟨.empty⟩

variable (r : Registry)

/-- The constructor of an operator type. -/
def constructor? (kind : String) : Option Constructor := r.constructors.get? kind

/-- Register a constructor, in the place of any that serves the type already. -/
def register (kind : String) (make : Constructor) : Registry :=
  ⟨r.constructors.insert kind make⟩

/-- The type has a constructor. -/
def supports (kind : String) : Bool := r.constructors.contains kind

/-- The operator types in the order in which they were registered. -/
def kinds : List String := r.constructors.names

/-- The fragment of an operator. -/
def create (op : Operator) : Except Fault Fragment :=
  match r.constructor? op.kind with
  | none => .error (.unsupportedOperator op.kind)
  | some make => make op

/-- The registry of the reference operators. -/
def standard : Registry := ⟨.ofList [
  ("Add", reference "AddOperator"),
  ("ArgMax", reference "ArgMaxOperator"),
  ("DepthwiseSeparableConv2D", .ofCall depthwiseSeparableCall),
  ("Dequantize", reference "DequantizeOperator"),
  ("MatMul", reference "MatrixMultOperator"),
  ("Max", reference "MaxOperator"),
  ("Min", reference "MinOperator"),
  ("QuantizeV2", reference "QuantizeV2Operator"),
  ("QuantizedAdd", reference "QuantizedAddOperator"),
  ("QuantizedConv2D", .ofCall quantizedConvolutionCall),
  ("QuantizedMatMul", reference "QuantizedMatMulOperator"),
  ("QuantizedMaxPool", .ofCall quantizedMaxPoolCall),
  ("QuantizedRelu", reference "QuantizedReluOperator"),
  ("QuantizedReshape", reference "QuantizedReshapeOperator"),
  ("Relu", reference "ReLUOperator"),
  ("RequantizationRange", reference "RequantizationRangeOperator"),
  ("Requantize", reference "RequantizeOperator"),
  ("Reshape", reference "ReshapeOperator"),
  ("Softmax", reference "SoftmaxOperator")]⟩

end Registry

end TensorArena.Emit
