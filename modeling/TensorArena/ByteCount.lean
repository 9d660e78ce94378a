import TensorArena.Pool

/-!
Byte counts, alone and per pool.

A byte count is a natural number that fits in 64 bits. Sums of counts saturate at the
largest count, so a total that does not fit is never mistaken for a small one, and a
product that does not fit has no value.
-/

namespace TensorArena

namespace ByteCount

/-- The largest byte count, `2^64 - 1`. -/
def largest : Nat := 18446744073709551615

/-- The sum, or `largest` where the sum exceeds it. -/
def satAdd (a b : Nat) : Nat := min (a + b) largest

/-- The product, where it is a byte count. -/
def mul? (a b : Nat) : Option Nat :=
  if a * b ≤ largest then some (a * b) else none

theorem mul?_eq_some_iff {a b n : Nat} : mul? a b = some n ↔ n = a * b ∧ n ≤ largest := by
  unfold mul?
  split <;> simp <;> omega

end ByteCount

namespace PerPool

/-- Nothing in either pool. -/
def zero : PerPool Nat := ⟨0, 0⟩

/-- `bytes` in `p` and nothing in the other pool. -/
def only (p : Pool) (bytes : Nat) : PerPool Nat := zero.set p bytes

/-- Saturating sum in each pool. -/
def satAdd (v w : PerPool Nat) : PerPool Nat := v.zipWith ByteCount.satAdd w

/-- The larger count in each pool. -/
def larger (v w : PerPool Nat) : PerPool Nat := v.zipWith max w

/-- The saturating sum of counts, taken in order. -/
def satSum (counts : List (PerPool Nat)) : PerPool Nat := counts.foldl satAdd zero

/-- The largest of counts in each pool, zero where there are none. -/
def largest (counts : List (PerPool Nat)) : PerPool Nat := counts.foldl larger zero

@[simp] theorem get_zero (p : Pool) : zero.get p = 0 := by
  cases p <;> rfl

theorem get_only (p q : Pool) (bytes : Nat) :
    (only p bytes).get q = if q = p then bytes else 0 := by
  cases p <;> cases q <;> rfl

theorem get_foldl_larger (counts : List (PerPool Nat)) (start : PerPool Nat) (p : Pool) :
    start.get p ≤ (counts.foldl larger start).get p ∧
      ∀ v ∈ counts, v.get p ≤ (counts.foldl larger start).get p := by
  induction counts generalizing start with
  | nil => simp
  | cons u rest ih =>
    obtain ⟨first, others⟩ := ih (start.larger u)
    rw [larger, get_zipWith] at first
    refine ⟨Nat.le_trans (Nat.le_max_left _ _) first, fun v mem => ?_⟩
    rcases List.mem_cons.mp mem with rfl | later
    · exact Nat.le_trans (Nat.le_max_right _ _) first
    · exact others v later

/-- No count is above the largest. -/
theorem get_le_largest {counts : List (PerPool Nat)} {v : PerPool Nat} (mem : v ∈ counts)
    (p : Pool) : v.get p ≤ (largest counts).get p :=
  (get_foldl_larger counts zero p).2 v mem

/-- The counts as a message shows them. -/
def describe (v : PerPool Nat) : String :=
  s!"metadata={v.metadata}B ram={v.ram}B"

end PerPool

end TensorArena
