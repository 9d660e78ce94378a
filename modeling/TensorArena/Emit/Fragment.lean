import TensorArena.Emit.Identifier
import TensorArena.Model.Step

/-!
Fragments: the pieces of emitted code that a compilation unit is put together from.

A fragment has a text, may need a declaration at file scope, takes bytes in the arenas when
it runs, and defines names. Texts depend on the variables of the two arenas and are not
indented.
-/

namespace TensorArena.Emit

/-- The variables of the two arenas in the emitted code. -/
abbrev PoolNames := PerPool String

/-- The usual variables. -/
def PoolNames.standard : PoolNames := ⟨"meta_allocator", "ram_allocator"⟩

/-- A piece of emitted code. -/
structure Fragment where
  render : PoolNames → Except Fault String
  declaration : PoolNames → Except Fault (Option String)
  footprint : PerPool Nat
  symbols : List String

/-- The element type in a tensor's constructor. -/
def tensorTypeName : Tensor.ElementType → String
  | .u8 => "u8"
  | .i8 => "i8"
  | .i16 => "i16"
  | .i32 => "i32"
  | .f32 => "flt"

/-- The element type as a template argument. -/
def scalarTypeName : Tensor.ElementType → String
  | .u8 => "uint8_t"
  | .i8 => "int8_t"
  | .i16 => "int16_t"
  | .i32 => "int32_t"
  | .f32 => "float"

namespace Fragment

/-- A text as it is. -/
def verbatim (text : String) : Fragment where
  render _ := .ok text
  declaration _ := .ok none
  footprint := .zero
  symbols := []

/-- The definition of a tensor in the arenas. -/
def tensorText (var : String) (d : Tensor.Descriptor) : String :=
  s!"Tensor {var} = new RamTensor(\x7b " ++ ", ".intercalate (d.shape.map toString)
    ++ s!" \x7d, {tensorTypeName d.dtype});"

/-- A tensor claimed from the arenas. It takes what declaring the tensor takes. -/
def ramTensor (var : String) (d : Tensor.Descriptor) : Fragment where
  render _ :=
    match checkIdentifier var with
    | .error fault => .error fault
    | .ok () => .ok (tensorText var d)
  declaration _ := .ok none
  footprint := Step.tensorDemand d
  symbols := [var]

end Fragment

end TensorArena.Emit
