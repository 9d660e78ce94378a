import TensorArena.ByteCount

/-!
Tensor element types, shapes and descriptors.

A descriptor says what a tensor is (element type and dimensions) and where its payload
lies. Sizes are products of the dimensions taken left to right; a size that leaves the
range of byte counts on the way has no value.
-/

namespace TensorArena.Tensor

/-- Element types of tensors. -/
inductive ElementType where
  | u8
  | i8
  | i16
  | i32
  | f32
deriving DecidableEq, Repr

namespace ElementType

/-- Bytes of one element. -/
def size : ElementType → Nat
  | .u8 | .i8 => 1
  | .i16 => 2
  | .i32 | .f32 => 4

/-- Elements are aligned to their own size. -/
def align (t : ElementType) : Nat := t.size

end ElementType

/-- Dimensions, outermost first. A scalar has none. -/
abbrev Shape := List UInt32

/-- What a tensor is and the byte offset of its payload in the ram pool. -/
structure Descriptor where
  dtype : ElementType
  shape : Shape
  offset : UInt32 := 0
deriving DecidableEq, Repr

/-- The largest number of dimensions that a descriptor record holds. -/
def maxRank : Nat := 4

/-- Why a descriptor has no size or no record. -/
inductive Fault where
  /-- The shape has more than `maxRank` dimensions. -/
  | rankTooLarge (rank : Nat)
  /-- The buffer is shorter than one record. -/
  | bufferTooSmall (needed got : Nat)
  /-- No element type has this code. -/
  | unknownElementType (code : UInt8)
  /-- The payload size is not a byte count. -/
  | sizeOverflow
deriving DecidableEq, Repr

/-- The fault as a message. -/
def Fault.message : Fault → String
  | .rankTooLarge rank => s!"tensor rank {rank} exceeds descriptor maximum {maxRank}"
  | .bufferTooSmall needed got => s!"descriptor record needs {needed} bytes, buffer has {got}"
  | .unknownElementType code => s!"unknown dtype code {code}"
  | .sizeOverflow => "tensor byte size overflows usize"

/-- The product of the dimensions, multiplied in order from the left; none as soon as a
partial product is no byte count. -/
def Shape.elementCount? (shape : Shape) : Option Nat :=
  shape.foldlM (fun n d => ByteCount.mul? n d.toNat) 1

namespace Descriptor

/-- The number of elements: one for a scalar. -/
def elementCount? (d : Descriptor) : Option Nat := d.shape.elementCount?

/-- The payload size in bytes. -/
def byteLength (d : Descriptor) : Except Fault Nat :=
  match d.elementCount?.bind (ByteCount.mul? · d.dtype.size) with
  | some n => .ok n
  | none => .error .sizeOverflow

end Descriptor

end TensorArena.Tensor
