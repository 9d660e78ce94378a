import Mathlib.Algebra.BigOperators.Group.Finset.Basic
import Mathlib.Algebra.BigOperators.Intervals
import TensorArena.Model.Layered
import TensorArena.Proofs.Tensor.Record

/-!
The numbers of a layered network.

The network is defined on signed numbers (`reference`). Its layers work on bytes: they sum words
of 32 bits and keep a byte of each. Over as many bytes as the ram arena of the network holds, no
sum and no part of one leaves the range of a word (`weighted_fits`), so the bytes of every
activation are the numbers of the network (`signed_activations`).
-/

namespace TensorArena.Layered

/-- The network on signed numbers: the input before the first layer, and after a layer a quarter
of each weighted sum, rounded down, clamped to a signed byte, and zero where it is negative. -/
def reference (x : Bytes) : Nat → Nat → Int
  | 0, i => signed (x.getD i 0)
  | l + 1, j => max 0 (max (-128) (min 127
      ((∑ i ∈ Finset.range x.length, reference x l i * weight i j) / 4)))

/-- The bytes that a layer makes of its input. -/
def layer (x : Bytes) : Bytes := (quantize (accumulate x x.length)).map rectify

/-- The bytes of the activation before layer `l`. -/
def activations (x : Bytes) : Nat → Bytes
  | 0 => x
  | l + 1 => layer (activations x l)

variable {x rest : Bytes} {n : Int}

/-! ### Bytes as signed numbers -/

theorem signed_bounds (b : UInt8) : -128 ≤ signed b ∧ signed b ≤ 127 := by
  have low := b.toInt8.le_toInt
  have high := b.toInt8.toInt_lt
  rw [signed]
  omega

/-- Clamping makes a byte of the nearest signed number. -/
theorem signed_clampByte (n : Int) : signed (clampByte n) = max (-128) (min 127 n) := by
  rw [signed, clampByte, Int8.toInt8_toUInt8]
  apply Int8.toInt_ofInt_of_le <;> omega

theorem signed_rectify (b : UInt8) : signed (rectify b) = max 0 (signed b) := by
  unfold rectify
  split
  · rename_i negative
    rw [max_eq_left (Int.le_of_lt negative)]
    rfl
  · rename_i positive
    rw [max_eq_right (Int.not_lt.mp positive)]

/-! ### Weighted sums -/

theorem weight_bounds (i j : Nat) : -1 ≤ weight i j ∧ weight i j ≤ 1 := by
  have := Nat.mod_lt (i + j) (by decide : 3 > 0)
  rw [weight]
  omega

theorem product_bounds (b : UInt8) (i j : Nat) :
    -128 ≤ signed b * weight i j ∧ signed b * weight i j ≤ 128 := by
  obtain ⟨low, high⟩ := signed_bounds b
  obtain ⟨below, above⟩ := weight_bounds i j
  have cases : weight i j = -1 ∨ weight i j = 0 ∨ weight i j = 1 := by omega
  rcases cases with same | same | same <;> rw [same] <;> omega

theorem weighted_eq_sum (j i : Nat) (x : Bytes) : weighted j i x =
    ∑ k ∈ Finset.range x.length, signed (x.getD k 0) * weight (i + k) j := by
  induction x generalizing i with
  | nil => rfl
  | cons b rest ih =>
    rw [weighted, ih, List.length_cons, Finset.sum_range_succ', Int.add_comm]
    simp only [List.getD_cons_succ, List.getD_cons_zero, Nat.add_zero, Nat.succ_add_eq_add_succ]

theorem weighted_bounds (j i : Nat) (x : Bytes) :
    -(128 * (x.length : Int)) ≤ weighted j i x ∧ weighted j i x ≤ 128 * (x.length : Int) := by
  induction x generalizing i with
  | nil => exact ⟨Int.le_refl _, Int.le_refl _⟩
  | cons b rest ih =>
    obtain ⟨low, high⟩ := ih (i + 1)
    obtain ⟨below, above⟩ := product_bounds b i j
    rw [weighted, List.length_cons]
    omega

/-- **No sum overflows** over as many bytes as the network's ram arena holds. -/
theorem weighted_fits (j i : Nat) (narrow : x.length ≤ 64 * 1024) :
    -2 ^ 31 ≤ weighted j i x ∧ weighted j i x < 2 ^ 31 := by
  obtain ⟨low, high⟩ := weighted_bounds j i x
  omega

/-! ### Words -/

theorem length_sumBytes (n : Int) : (sumBytes n).length = 4 := rfl

/-- A sum that fits a word is read back. -/
theorem sums_sumBytes_append (low : -2 ^ 31 ≤ n) (high : n < 2 ^ 31) (rest : Bytes) :
    sums (sumBytes n ++ rest) = n :: sums rest := by
  have word := Tensor.Record.wordAt_wordBytes (Int32.ofInt n).toUInt32 []
  rw [List.append_nil, Tensor.Record.wordBytes] at word
  simp only [sumBytes, Tensor.Record.wordBytes, List.cons_append, List.nil_append, sums]
  rw [word, Int32.toInt32_toUInt32, Int32.toInt_ofInt_of_le low high]

theorem sums_flatMap {f : Nat → Int} (fits : ∀ j, -2 ^ 31 ≤ f j ∧ f j < 2 ^ 31)
    (outputs : List Nat) : sums (outputs.flatMap fun j => sumBytes (f j)) = outputs.map f := by
  induction outputs with
  | nil => rfl
  | cons j rest ih =>
    rw [List.flatMap_cons, sums_sumBytes_append (fits j).1 (fits j).2, ih, List.map_cons]

theorem length_accumulate (x : Bytes) (words : Nat) : (accumulate x words).length = 4 * words := by
  rw [accumulate, List.length_flatMap]
  simp only [length_sumBytes, List.map_const', List.length_range, List.sum_replicate_nat,
    Nat.mul_comm]

/-! ### Layers -/

/-- The words of a dense layer are its sums. -/
theorem quantize_accumulate (narrow : x.length ≤ 64 * 1024) (words : Nat) :
    quantize (accumulate x words) =
      (List.range words).map fun j => clampByte (weighted j 0 x / 4) := by
  rw [quantize, accumulate, sums_flatMap (fun j => weighted_fits j 0 narrow), List.map_map]
  rfl

theorem length_quantize_accumulate (narrow : x.length ≤ 64 * 1024) (words : Nat) :
    (quantize (accumulate x words)).length = words := by
  rw [quantize_accumulate narrow, List.length_map, List.length_range]

theorem length_layer (narrow : x.length ≤ 64 * 1024) : (layer x).length = x.length := by
  rw [layer, List.length_map, length_quantize_accumulate narrow]

theorem length_activations (narrow : x.length ≤ 64 * 1024) (l : Nat) :
    (activations x l).length = x.length := by
  induction l with
  | zero => rfl
  | succ l ih => rw [activations, length_layer (ih ▸ narrow), ih]

/-- A layer makes of its input what the network does. -/
theorem signed_layer (narrow : x.length ≤ 64 * 1024) {j : Nat} (within : j < x.length) :
    signed ((layer x).getD j 0) = max 0 (max (-128) (min 127 (weighted j 0 x / 4))) := by
  have there : (layer x).getD j 0 = rectify (clampByte (weighted j 0 x / 4)) := by
    rw [layer, quantize_accumulate narrow]
    simp [within]
  rw [there, signed_rectify, signed_clampByte]

/-- **The bytes of every activation are the numbers of the network.** -/
theorem signed_activations (narrow : x.length ≤ 64 * 1024) (l : Nat) {j : Nat}
    (within : j < x.length) : signed ((activations x l).getD j 0) = reference x l j := by
  induction l generalizing j with
  | zero => rfl
  | succ l ih =>
    have same := length_activations narrow l
    have sum : weighted j 0 (activations x l) =
        ∑ i ∈ Finset.range x.length, reference x l i * weight i j := by
      rw [weighted_eq_sum, same]
      refine Finset.sum_congr rfl fun i mem => ?_
      rw [ih (Finset.mem_range.mp mem), Nat.zero_add]
    rw [activations, signed_layer (same ▸ narrow) (same ▸ within), sum, reference]

example : (activations [3, 200, 90] 1).map signed = [21, 0, 14] := by decide

end TensorArena.Layered
