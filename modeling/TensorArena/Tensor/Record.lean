import TensorArena.Tensor.Descriptor

/-!
The descriptor record: a descriptor as twenty-four bytes.

The first byte is the code of the element type and the second the rank; two reserved
bytes follow, then four dimensions and the offset as little-endian words. Fields that a
descriptor does not use are zero. Writing changes the first twenty-four bytes of a
buffer or none of them.
-/

namespace TensorArena.Tensor

/-- The code of an element type in a record. -/
def ElementType.code : ElementType → UInt8
  | .u8 => 1
  | .i8 => 2
  | .i16 => 3
  | .i32 => 4
  | .f32 => 5

/-- The element type with this code. -/
def ElementType.ofCode? : UInt8 → Option ElementType
  | 1 => some .u8
  | 2 => some .i8
  | 3 => some .i16
  | 4 => some .i32
  | 5 => some .f32
  | _ => none

@[simp] theorem ElementType.ofCode?_code (t : ElementType) : ofCode? t.code = some t := by
  cases t <;> rfl

namespace Record

/-- Bytes of one record. -/
def size : Nat := 4 + 4 * maxRank + 4

/-- Alignment of a record in the metadata pool. -/
def align : Nat := 4

/-- A word as four bytes, lowest first. -/
def wordBytes (w : UInt32) : List UInt8 :=
  [UInt8.ofNat w.toNat, UInt8.ofNat (w.toNat / 256), UInt8.ofNat (w.toNat / 65536),
    UInt8.ofNat (w.toNat / 16777216)]

/-- The word whose lowest byte stands at `pos`; bytes past the end count as zero. -/
def wordAt (bytes : List UInt8) (pos : Nat) : UInt32 :=
  let digit (i : Nat) : Nat := (bytes.getD (pos + i) 0).toNat
  UInt32.ofNat (digit 0 + 256 * digit 1 + 65536 * digit 2 + 16777216 * digit 3)

theorem wordAt_wordBytes (w : UInt32) (rest : List UInt8) : wordAt (wordBytes w ++ rest) 0 = w := by
  have := w.toNat_lt
  apply UInt32.toNat_inj.mp
  simp [wordAt, wordBytes]
  omega

/-- The four dimension fields of a record: those of the shape, then zeros. -/
def dimensionFields (shape : Shape) : List UInt32 :=
  shape ++ List.replicate (maxRank - shape.length) 0

end Record

namespace Descriptor

/-- The record of a descriptor whose rank is at most `maxRank`. -/
def record (d : Descriptor) : List UInt8 :=
  [d.dtype.code, d.shape.length.toUInt8, 0, 0]
    ++ (Record.dimensionFields d.shape).flatMap Record.wordBytes
    ++ Record.wordBytes d.offset

/-- Write the record over the front of a buffer and answer the buffer after it. The rank is
checked before the size of the buffer. -/
def encodeInto (d : Descriptor) (buffer : List UInt8) : Except Fault Unit × List UInt8 :=
  if maxRank < d.shape.length then
    (.error (.rankTooLarge d.shape.length), buffer)
  else if buffer.length < Record.size then
    (.error (.bufferTooSmall Record.size buffer.length), buffer)
  else
    (.ok (), d.record ++ buffer.drop Record.size)

/-- Read the record at the front of a buffer. The size of the buffer is checked first,
then the element type, then the rank; reserved and unused fields are not looked at. -/
def decode (buffer : List UInt8) : Except Fault Descriptor :=
  if buffer.length < Record.size then
    .error (.bufferTooSmall Record.size buffer.length)
  else
    match ElementType.ofCode? (buffer.getD 0 0) with
    | none => .error (.unknownElementType (buffer.getD 0 0))
    | some dtype =>
      let rank := (buffer.getD 1 0).toNat
      if maxRank < rank then
        .error (.rankTooLarge rank)
      else
        .ok {
          dtype
          shape := (List.range rank).map fun i => Record.wordAt buffer (4 + 4 * i)
          offset := Record.wordAt buffer (4 + 4 * maxRank) }

end Descriptor

end TensorArena.Tensor
