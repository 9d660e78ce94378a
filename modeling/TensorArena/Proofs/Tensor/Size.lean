import TensorArena.Tensor.Descriptor
import Mathlib.Algebra.BigOperators.Ring.List
import Mathlib.Algebra.BigOperators.Group.List.Basic
import Mathlib.Algebra.Ring.Nat
import Mathlib.Data.List.TakeWhile

/-!
How a size differs from the product of the dimensions.

The dimensions are multiplied from the left, and a partial product that is no byte count ends
the multiplication. Up to the first zero the partial products only grow, and after it they are
all zero, so the multiplication ends early exactly where the dimensions before the first zero
are already too large (`Shape.elementCount?_eq`). Without a zero the whole product is then too
large as well. With one it is zero, and the size is refused although it fits: such a shape has
a late zero, and it is the only kind of shape whose size depends on the order of its dimensions.
-/

namespace TensorArena

/-- The count itself where it is a byte count. -/
def ByteCount.fit? (n : Nat) : Option Nat := if n ≤ largest then some n else none

namespace Tensor

namespace Shape

variable {shape : Shape}

/-- The product of the dimensions. -/
def volume (shape : Shape) : Nat := (shape.map UInt32.toNat).prod

/-- The dimensions before the first zero. -/
def leading (shape : Shape) : Shape := shape.takeWhile (· ≠ 0)

/-- A dimension is zero, and those before the first zero multiply to no byte count. -/
def LateZero (shape : Shape) : Prop := 0 ∈ shape ∧ ByteCount.largest < shape.leading.volume

instance (shape : Shape) : Decidable shape.LateZero := inferInstanceAs (Decidable (_ ∧ _))

@[simp] theorem volume_nil : volume [] = 1 := rfl

@[simp] theorem volume_cons (dim : UInt32) (rest : Shape) :
    volume (dim :: rest) = dim.toNat * rest.volume := by
  simp [volume]

@[simp] theorem leading_zero (rest : Shape) : leading (0 :: rest) = [] := by
  simp [leading]

theorem leading_cons {dim : UInt32} (nonzero : dim ≠ 0) (rest : Shape) :
    leading (dim :: rest) = dim :: rest.leading := by
  simp [leading, nonzero]

theorem leading_eq_self (nonzero : 0 ∉ shape) : shape.leading = shape :=
  List.takeWhile_eq_self_iff.mpr fun dim mem => by
    exact decide_eq_true fun zero => nonzero (zero ▸ mem)

theorem volume_eq_zero_iff : shape.volume = 0 ↔ 0 ∈ shape := by
  rw [volume, List.prod_eq_zero_iff, List.mem_map]
  constructor
  · rintro ⟨dim, mem, zero⟩
    exact UInt32.toNat_inj.mp (zero.trans UInt32.toNat_zero.symm) ▸ mem
  · exact fun mem => ⟨0, mem, UInt32.toNat_zero⟩

theorem volume_leading_pos (shape : Shape) : 0 < shape.leading.volume := by
  refine Nat.pos_of_ne_zero fun zero => ?_
  simpa using List.mem_takeWhile_imp (volume_eq_zero_iff.mp zero)

theorem volume_perm {other : Shape} (perm : other.Perm shape) : other.volume = shape.volume :=
  (perm.map UInt32.toNat).prod_eq

/-- The multiplication from a start that is a byte count. Once the start is zero it stays so,
and nothing is too large any more. -/
theorem foldlM_mul? (shape : Shape) {start : Nat} (fits : start ≤ ByteCount.largest) :
    shape.foldlM (fun n dim => ByteCount.mul? n dim.toNat) start =
      if ByteCount.largest < start * shape.leading.volume then none
      else some (start * shape.volume) := by
  induction shape generalizing start with
  | nil => simp [leading, Nat.not_lt.mpr fits]
  | cons dim rest ih =>
    rw [List.foldlM_cons]
    by_cases zero : dim = 0
    · subst zero
      have first : ByteCount.mul? start (0 : UInt32).toNat = some 0 := by
        simp [ByteCount.mul?]
      rw [first, Option.bind_eq_bind, Option.bind_some, ih (Nat.zero_le _)]
      simp [Nat.not_lt.mpr fits]
    · rw [leading_cons zero, volume_cons, volume_cons, ← Nat.mul_assoc, ← Nat.mul_assoc,
        ByteCount.mul?]
      by_cases product : start * dim.toNat ≤ ByteCount.largest
      · rw [if_pos product, Option.bind_eq_bind, Option.bind_some, ih product]
      · have grown := Nat.le_mul_of_pos_right (start * dim.toNat) (volume_leading_pos rest)
        rw [if_neg product, Option.bind_eq_bind, Option.bind_none, if_pos (by omega)]

/-- The multiplication ends early exactly where the dimensions before the first zero are too
large. -/
theorem elementCount?_eq (shape : Shape) :
    shape.elementCount? =
      if ByteCount.largest < shape.leading.volume then none else some shape.volume := by
  rw [elementCount?, foldlM_mul? shape (by decide), Nat.one_mul, Nat.one_mul]

theorem elementCount?_eq_none (late : shape.LateZero) : shape.elementCount? = none := by
  rw [elementCount?_eq, if_pos late.2]

theorem elementCount?_eq_fit? (early : ¬ shape.LateZero) :
    shape.elementCount? = ByteCount.fit? shape.volume := by
  rw [elementCount?_eq, ByteCount.fit?]
  by_cases zero : 0 ∈ shape
  · have small : ¬ ByteCount.largest < shape.leading.volume := fun large => early ⟨zero, large⟩
    rw [if_neg small, volume_eq_zero_iff.mpr zero, if_pos (Nat.zero_le _)]
  · rw [leading_eq_self zero]
    split <;> rename_i large
    · exact (if_neg (Nat.not_le.mpr large)).symm
    · exact (if_pos (Nat.not_lt.mp large)).symm

end Shape

theorem ElementType.size_pos (t : ElementType) : 0 < t.size := by
  cases t <;> decide

namespace Descriptor

variable {d e : Descriptor}

/-- The number of bytes of all elements, or the refusal where it is no byte count. -/
def exactLength (d : Descriptor) : Except Fault Nat :=
  if d.shape.volume * d.dtype.size ≤ ByteCount.largest then
    .ok (d.shape.volume * d.dtype.size)
  else
    .error .sizeOverflow

theorem byteLength_late (late : d.shape.LateZero) : d.byteLength = .error .sizeOverflow := by
  rw [byteLength, elementCount?, Shape.elementCount?_eq_none late]
  rfl

theorem byteLength_exact (early : ¬ d.shape.LateZero) : d.byteLength = d.exactLength := by
  rw [byteLength, elementCount?, Shape.elementCount?_eq_fit? early, exactLength, ByteCount.fit?]
  by_cases count : d.shape.volume ≤ ByteCount.largest
  · rw [if_pos count, Option.bind_some, ByteCount.mul?]
    by_cases length : d.shape.volume * d.dtype.size ≤ ByteCount.largest
    · rw [if_pos length, if_pos length]
    · rw [if_neg length, if_neg length]
  · have more := Nat.le_mul_of_pos_right d.shape.volume d.dtype.size_pos
    rw [if_neg count, if_neg (by omega)]
    rfl

/-- With a zero among the dimensions there is nothing to count. -/
theorem exact_of_zero (zero : 0 ∈ d.shape) :
    ByteCount.fit? d.shape.volume = some 0 ∧ d.exactLength = .ok 0 := by
  rw [exactLength, Shape.volume_eq_zero_iff.mpr zero, Nat.zero_mul]
  exact ⟨rfl, rfl⟩

theorem exactLength_perm (perm : e.shape.Perm d.shape) (sameType : e.dtype = d.dtype) :
    e.exactLength = d.exactLength := by
  rw [exactLength, exactLength, Shape.volume_perm perm, sameType]

/-- Of two orders of the same dimensions one has a late zero and the other has none: the first
has no size, and the size of the second is zero. -/
theorem sizes_differ (perm : e.shape.Perm d.shape) (late : e.shape.LateZero)
    (early : ¬ d.shape.LateZero) :
    e.elementCount? ≠ d.elementCount? ∧ e.byteLength ≠ d.byteLength := by
  obtain ⟨count, length⟩ := exact_of_zero (perm.mem_iff.mp late.1)
  rw [elementCount?, elementCount?, Shape.elementCount?_eq_none late,
    Shape.elementCount?_eq_fit? early, count, byteLength_late late, byteLength_exact early, length]
  exact ⟨Option.some_ne_none _ ∘ Eq.symm, nofun⟩

/-- **Sizes are exact but for a late zero.** The number of elements is the product of the
dimensions where that is a byte count and none where it is not, and the payload size is that
product times the element size or refused in the same way, exactly for the shapes without a
late zero. A shape with one has no size, though its size is zero. Hence two orders of the same
dimensions have the same size exactly if both have a late zero or neither has. -/
theorem sizes_exact_iff_no_late_zero (d : Descriptor) :
    (d.elementCount? = ByteCount.fit? d.shape.volume ↔ ¬ d.shape.LateZero) ∧
      (d.byteLength = d.exactLength ↔ ¬ d.shape.LateZero) ∧
      (d.shape.LateZero →
        d.shape.volume = 0 ∧ d.elementCount? = none ∧ d.byteLength = .error .sizeOverflow) ∧
      ∀ e : Descriptor, e.shape.Perm d.shape → e.dtype = d.dtype →
        (e.elementCount? = d.elementCount? ↔ (e.shape.LateZero ↔ d.shape.LateZero)) ∧
          (e.byteLength = d.byteLength ↔ (e.shape.LateZero ↔ d.shape.LateZero)) := by
  refine ⟨⟨fun exact late => ?_, Shape.elementCount?_eq_fit?⟩,
    ⟨fun exact late => ?_, byteLength_exact⟩,
    fun late => ⟨Shape.volume_eq_zero_iff.mpr late.1, Shape.elementCount?_eq_none late,
      byteLength_late late⟩, fun e perm sameType => ?_⟩
  · rw [elementCount?, Shape.elementCount?_eq_none late, (exact_of_zero late.1).1] at exact
    cases exact
  · rw [byteLength_late late, (exact_of_zero late.1).2] at exact
    cases exact
  · by_cases lateE : e.shape.LateZero <;> by_cases lateD : d.shape.LateZero
    · simp [elementCount?, Shape.elementCount?_eq_none, byteLength_late, lateE, lateD]
    · have differ := sizes_differ perm lateE lateD
      simp [differ, lateE, lateD]
    · have differ := sizes_differ perm.symm lateD lateE
      simp [differ.1.symm, differ.2.symm, lateE, lateD]
    · rw [byteLength_exact lateE, byteLength_exact lateD, exactLength_perm perm sameType,
        elementCount?, elementCount?, Shape.elementCount?_eq_fit? lateE,
        Shape.elementCount?_eq_fit? lateD, Shape.volume_perm perm]
      simp [lateE, lateD]

/-- Bytes in two large dimensions, four planes of them, and a last dimension that is zero. -/
def emptyPlanes : Descriptor :=
  { dtype := .u8, shape := [4294967295, 4294967295, 4, 0] }

/-- The same dimensions with the zero first. -/
def planesOfNone : Descriptor :=
  { dtype := .u8, shape := [0, 4294967295, 4294967295, 4] }

/-- The planes hold nothing, but have no size; with the zero first they have one. -/
theorem emptyPlanes_sizes_differ :
    planesOfNone.shape.Perm emptyPlanes.shape ∧ planesOfNone.dtype = emptyPlanes.dtype ∧
      ¬ (planesOfNone.elementCount? = emptyPlanes.elementCount?) ∧
      ¬ (planesOfNone.byteLength = emptyPlanes.byteLength) := by
  have perm : planesOfNone.shape.Perm emptyPlanes.shape := by decide
  have late : ¬ (planesOfNone.shape.LateZero ↔ emptyPlanes.shape.LateZero) := by decide
  obtain ⟨count, length⟩ := (sizes_exact_iff_no_late_zero emptyPlanes).2.2.2 planesOfNone perm rfl
  exact ⟨perm, rfl, fun same => late (count.mp same), fun same => late (length.mp same)⟩

/-- The sizes of the planes are not exact: their product is zero, which is a byte count, and
they have neither a number of elements nor a payload size. -/
theorem emptyPlanes_not_exact :
    emptyPlanes.elementCount? ≠ ByteCount.fit? emptyPlanes.shape.volume ∧
      emptyPlanes.byteLength ≠ emptyPlanes.exactLength ∧
      ByteCount.fit? emptyPlanes.shape.volume = some 0 ∧ emptyPlanes.elementCount? = none ∧
      emptyPlanes.exactLength = .ok 0 ∧ emptyPlanes.byteLength = .error .sizeOverflow := by
  decide

end Descriptor

end Tensor

end TensorArena
