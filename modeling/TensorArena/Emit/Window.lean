import TensorArena.Emit.Operator

/-!
Attributes of operators that slide a window over an image.

Sizes, strides and dilations are lists of four integers in the order batch, height, width,
channel, of which height and width are read; each is positive and fits in 32 bits. Padding
and activation are names, in upper or lower case.
-/

namespace TensorArena.Emit

/-- How a window treats the border of the image. -/
inductive Padding where
  | same
  | valid
deriving DecidableEq, Repr

/-- What is applied to the output of a convolution. -/
inductive Activation where
  | identity
  | relu
  | relu6
deriving DecidableEq, Repr

/-- The emitted constant. -/
def Padding.constant : Padding → String
  | .same => "kTfLitePaddingSame"
  | .valid => "kTfLitePaddingValid"

/-- The emitted constant. -/
def Activation.constant : Activation → String
  | .identity => "kTfLiteActNone"
  | .relu => "kTfLiteActRelu"
  | .relu6 => "kTfLiteActRelu6"

/-- A text with its ASCII letters in lower case. -/
def lowerCase (s : String) : String := s.map Char.toLower

/-- The padding of this name. -/
def Padding.ofName? (name : String) : Option Padding :=
  if lowerCase name = "same" then some .same
  else if lowerCase name = "valid" then some .valid
  else none

/-- The activation of this name. -/
def Activation.ofName? (name : String) : Option Activation :=
  if lowerCase name = "none" then some .identity
  else if lowerCase name = "relu" then some .relu
  else if lowerCase name = "relu6" then some .relu6
  else none

/-- Height and width of a window, a stride or a dilation. -/
structure Extent where
  height : UInt32
  width : UInt32
deriving DecidableEq, Repr

namespace Operator

variable (op : Operator)

/-- A text attribute, where it is present. -/
def text? (key : String) : Except Fault (Option String) :=
  match op.attributes.get? key with
  | none => .ok none
  | some (.text s) => .ok (some s)
  | some other =>
    .error (.invalidAttribute op.name key s!"expected a string, got {other.describe}")

/-- The value as a positive word. -/
def positive (key : String) (n : Int) : Except Fault UInt32 :=
  if 0 < n ∧ n ≤ 4294967295 then .ok n.toNat.toUInt32
  else .error (.invalidAttribute op.name key s!"expected a positive integer, got {n}")

/-- An extent, where the attribute is present. Height is checked before width. -/
def extent? (key : String) : Except Fault (Option Extent) :=
  match op.attributes.get? key with
  | none => .ok none
  | some (.ints [_, height, width, _]) =>
    match op.positive key height with
    | .error fault => .error fault
    | .ok height =>
      match op.positive key width with
      | .error fault => .error fault
      | .ok width => .ok (some ⟨height, width⟩)
  | some other =>
    .error (.invalidAttribute op.name key s!"expected four integers, got {other.describe}")

/-- An extent that has to be there. -/
def requireExtent (key : String) : Except Fault Extent :=
  match op.extent? key with
  | .error fault => .error fault
  | .ok none => .error (.missingAttribute op.name key)
  | .ok (some extent) => .ok extent

/-- An extent, one by one where the attribute is absent. -/
def extentOrUnit (key : String) : Except Fault Extent :=
  match op.extent? key with
  | .error fault => .error fault
  | .ok none => .ok ⟨1, 1⟩
  | .ok (some extent) => .ok extent

/-- The padding, which has to be there. -/
def padding : Except Fault Padding :=
  match op.text? "padding" with
  | .error fault => .error fault
  | .ok none => .error (.missingAttribute op.name "padding")
  | .ok (some name) =>
    match Padding.ofName? name with
    | some padding => .ok padding
    | none => .error (.invalidAttribute op.name "padding" s!"unknown mode {name}")

/-- The activation, none where the attribute is absent. -/
def activation : Except Fault Activation :=
  match op.text? "activation" with
  | .error fault => .error fault
  | .ok none => .ok .identity
  | .ok (some name) =>
    match Activation.ofName? name with
    | some activation => .ok activation
    | none => .error (.invalidAttribute op.name "activation" s!"unknown activation {name}")

/-- The depth multiplier, one where the attribute is absent. -/
def depthMultiplier : Except Fault UInt32 :=
  match op.intOr "depth_multiplier" 1 with
  | .error fault => .error fault
  | .ok n => op.positive "depth_multiplier" n

end Operator

/-- The parameters of a depthwise separable convolution. -/
structure Convolution where
  padding : Padding
  stride : Extent
  depthMultiplier : UInt32
  activation : Activation
  dilation : Extent
deriving DecidableEq, Repr

namespace Convolution

/-- The parameters that leave the image its size and its values, with no border. -/
def identity : Convolution := ⟨.valid, ⟨1, 1⟩, 1, .identity, ⟨1, 1⟩⟩

/-- The parameters of an operator. Its attributes are read in the order padding, activation,
strides, dilations, depth multiplier. -/
def ofOperator (op : Operator) : Except Fault Convolution := do
  let padding ← op.padding
  let activation ← op.activation
  let stride ← op.extentOrUnit "strides"
  let dilation ← op.extentOrUnit "dilations"
  let depthMultiplier ← op.depthMultiplier
  return { padding, stride, depthMultiplier, activation, dilation }

end Convolution

end TensorArena.Emit
