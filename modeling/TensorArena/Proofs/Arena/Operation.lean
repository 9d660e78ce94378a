import TensorArena.Arena.Call

/-!
The operations of an arena, opened once.

For each operation this module says exactly when it succeeds and what it then does, and
that a refused operation leaves the arena as it was. For ranges of discarded issue numbers
it says which clock readings a further discard can affect: those above its first number,
and no others (`discards_bury_of_le`). Everything later about the liveness of handles and
marks rests on that.
-/

namespace TensorArena

/-! ### Ranges of discarded numbers -/

namespace IssueRange

variable {i : IssueRange} {reading first clock : Nat}

/-- A number is discarded exactly when the clock reading just after it shows a discard. -/
theorem holds_eq_discards (i : IssueRange) (seq : Nat) : i.holds seq = i.discards (seq + 1) := by
  simp only [holds, discards, Nat.lt_succ_iff, Nat.succ_le_iff]

/-- A reading shows no discard whose numbers all come after it. -/
theorem discards_bury_of_le (kept : i.discards reading = false) (above : reading ≤ first) :
    (i.bury first clock).discards reading = false := by
  simp only [discards, Bool.and_eq_false_iff, decide_eq_false_iff_not] at kept ⊢
  unfold bury
  split <;> simp only <;> omega

/-- A reading shows every discard that reaches below it and happens at or after it. -/
theorem discards_bury_of_lt (reached : first < reading) (after : reading ≤ clock) :
    (i.bury first clock).discards reading = true := by
  simp only [discards, Bool.and_eq_true, decide_eq_true_eq]
  unfold bury
  split <;> simp only <;> omega

/-- Which readings that both discards come after stay free of a discard: those below its
first number, once the range is replaced or where it did not show them before. -/
theorem discards_bury_eq_false_iff (after : reading ≤ clock) (seen : reading ≤ i.high) :
    (i.bury first clock).discards reading = false ↔
      reading ≤ first ∧ (i.high < first ∨ i.discards reading = false) := by
  simp only [discards, Bool.and_eq_false_iff, decide_eq_false_iff_not]
  unfold bury
  split <;> simp only <;> omega

@[simp] theorem high_bury (i : IssueRange) (first clock : Nat) :
    (i.bury first clock).high = clock := by
  unfold bury
  split <;> rfl

@[simp] theorem discards_empty (reading : Nat) : empty.discards reading = false := by
  simp [empty, discards, Nat.pos_iff_ne_zero]

/-- A reading past the range shows no discard. -/
theorem discards_eq_false_of_lt (passed : i.high < reading) : i.discards reading = false := by
  simp only [discards, Bool.and_eq_false_iff, decide_eq_false_iff_not]
  omega

end IssueRange

namespace Arena

/-! ### Where a claim is placed -/

theorem pos_of_isAlignment {align : Nat} (aligned : isAlignment align = true) : 0 < align := by
  obtain ⟨k, rfl⟩ := isAlignment_iff.mp aligned
  rw [Nat.one_shiftLeft]
  exact Nat.two_pow_pos k

/-- Rounding up never moves down. -/
theorem le_roundUp {align : Nat} (aligned : isAlignment align = true) (n : Nat) :
    n ≤ roundUp n align := by
  have positive := pos_of_isAlignment aligned
  have := Nat.lt_div_mul_add (a := n + (align - 1)) positive
  unfold roundUp
  omega

/-- Rounding up adds padding, less than the alignment. -/
theorem roundUp_le (n align : Nat) : roundUp n align ≤ n + (align - 1) :=
  Nat.div_mul_le_self _ _

/-- Rounding up stays where the number is a multiple, and only there. -/
theorem roundUp_eq_self_iff {align : Nat} (aligned : isAlignment align = true) {n : Nat} :
    roundUp n align = n ↔ align ∣ n := by
  have positive := pos_of_isAlignment aligned
  constructor
  · intro same
    exact same ▸ Nat.dvd_mul_left _ _
  · rintro ⟨q, rfl⟩
    have within : (align - 1) / align = 0 := Nat.div_eq_of_lt (by omega)
    rw [roundUp, Nat.mul_add_div positive, within, Nat.add_zero, Nat.mul_comm]

/-! ### The operations, opened once -/

variable {a b : Arena}

/-- The capacities of arenas, and the arena that is built. -/
theorem build_ok_iff {id : ArenaId} {pool : Pool} {capacity : Nat} :
    build id pool capacity = .ok a ↔ 0 < capacity ∧ capacity ≤ Capacity.largest ∧
      a = ⟨id, pool, Buffer.zeroed capacity, 0, 0, 0, 0, Top.empty, IssueRange.empty, 0⟩ := by
  unfold build Capacity.check
  split
  · rename_i refused
    split at refused
    · rename_i outside
      simp only [reduceCtorEq, false_iff, not_and]
      omega
    · cases refused
  · rename_i accepted
    split at accepted
    · cases accepted
    · rename_i inside
      simp only [Except.ok.injEq]
      constructor
      · rintro rfl
        exact ⟨by omega, by omega, rfl⟩
      · rintro ⟨-, -, rfl⟩
        rfl

/-- A claim that succeeds: where it lies, what the handle remembers, and the arena after
it. -/
theorem allocate_ok {size align : Nat} {h : Handle} (done : a.allocate size align = (.ok h, b)) :
    isAlignment align = true ∧ roundUp a.highWater align + size ≤ a.capacity ∧
      h = ⟨a.id, a.pool, (roundUp a.highWater align).toUInt32, size.toUInt32,
        ⟨a.epoch, a.clock⟩, a.top⟩ ∧
      b = { a with
        highWater := roundUp a.highWater align + size
        peak := max a.peak (roundUp a.highWater align + size)
        clock := a.clock + 1
        top := ⟨some a.clock, (roundUp a.highWater align + size).toUInt32⟩ } := by
  unfold allocate at done
  dsimp only at done
  split at done
  · rename_i aligned
    split at done
    · rename_i fits
      simp only [Prod.mk.injEq, Except.ok.injEq] at done
      exact ⟨aligned, fits, done.1.symm, done.2.symm⟩
    · simp at done
  · simp at done

/-- A number below `2^32` survives being stored in a word. -/
theorem toNat_toUInt32 {n bound : Nat} (le : n ≤ bound) (fits : bound ≤ Capacity.largest) :
    n.toUInt32.toNat = n := by
  have small : n < 2 ^ 32 := by
    simp only [Capacity.largest] at fits
    omega
  simpa using Nat.mod_eq_of_lt small

/-- Where a claim lies: its range is the one that was computed, above the old high-water mark
and up to the new one. -/
theorem allocate_range {size align : Nat} {h : Handle} (words : a.capacity ≤ Capacity.largest)
    (done : a.allocate size align = (.ok h, b)) :
    h.start = roundUp a.highWater align ∧ h.length = size ∧ b.highWater = h.stop ∧
      a.highWater ≤ h.start ∧ h.stop ≤ a.capacity := by
  obtain ⟨aligned, fits, rfl, rfl⟩ := allocate_ok done
  have start : (roundUp a.highWater align).toUInt32.toNat = roundUp a.highWater align :=
    toNat_toUInt32 (Nat.le_trans (Nat.le_add_right _ size) fits) words
  have length : size.toUInt32.toNat = size :=
    toNat_toUInt32 (Nat.le_trans (Nat.le_add_left size _) fits) words
  simp only [Handle.stop, Handle.start, Handle.length, start, length]
  exact ⟨trivial, trivial, trivial, le_roundUp aligned _, fits⟩

/-- A claim that is refused leaves the arena as it was. -/
theorem allocate_error {size align : Nat} {fault : Fault}
    (refused : a.allocate size align = (.error fault, b)) : b = a := by
  unfold allocate at refused
  dsimp only at refused
  split at refused
  · split at refused
    · simp at refused
    · simp only [Prod.mk.injEq] at refused
      exact refused.2.symm
  · simp only [Prod.mk.injEq] at refused
    exact refused.2.symm

/-- Where there is room for the bytes and for padding, a claim is refused for its alignment
only. -/
theorem allocate_error_of_room {size align : Nat} {fault : Fault}
    (room : a.highWater + (size + align - 1) ≤ a.capacity)
    (refused : a.allocate size align = (.error fault, b)) :
    isAlignment align = false ∧ fault = .invalidAlignment align := by
  unfold allocate at refused
  dsimp only at refused
  split at refused
  · rename_i aligned
    have positive := pos_of_isAlignment aligned
    have padded := roundUp_le a.highWater align
    split at refused
    · simp at refused
    · omega
  · rename_i unaligned
    simp only [Prod.mk.injEq, Except.error.injEq] at refused
    exact ⟨Bool.not_eq_true _ ▸ unaligned, refused.1.symm⟩

theorem checkIssued_ok_iff {h : Handle} : a.checkIssued h = .ok () ↔
    h.arena = a.id ∧ h.stamp.epoch = a.epoch ∧ a.dead.discards (h.stamp.seq + 1) = false := by
  unfold checkIssued
  rw [IssueRange.holds_eq_discards]
  split
  · rename_i foreign
    simp [foreign]
  · rename_i own
    split
    · rename_i stale
      simp only [reduceCtorEq, false_iff, not_and, Bool.not_eq_false]
      rintro - epoch
      simpa [epoch] using stale
    · rename_i fresh
      simp only [not_or, Decidable.not_not, Bool.not_eq_true] at own fresh
      simp [own, fresh]

theorem checkLive_ok_iff {h : Handle} :
    a.checkLive h = .ok () ↔ a.checkIssued h = .ok () ∧ h.stop ≤ a.highWater := by
  unfold checkLive
  split
  · rename_i refused
    simp [refused]
  · rename_i issued
    split
    · rename_i above
      simpa [issued] using above
    · rename_i below
      simpa [issued] using below

/-- A handle that its own arena refuses is refused as stale. -/
theorem checkLive_error {h : Handle} (own : h.arena = a.id) (refused : a.checkLive h ≠ .ok ()) :
    a.checkLive h = .error (a.stale h) := by
  unfold checkLive checkIssued at refused ⊢
  split
  · rename_i fault issued
    split at issued
    · contradiction
    · split at issued
      · simpa using issued.symm
      · cases issued
  · rename_i issued
    split
    · rfl
    · simp_all

/-- A handle is read exactly when it is live, and then its range of the buffer is. -/
theorem bytes_ok_iff {h : Handle} {bytes : Bytes} :
    a.bytes h = .ok bytes ↔ a.checkLive h = .ok () ∧ a.view h = bytes := by
  unfold Arena.bytes
  split
  · rename_i refused
    simp [refused]
  · rename_i live
    simp [live]

theorem checkMark_ok_iff {m : Mark} : a.checkMark m = .ok () ↔
    m.arena = a.id ∧ m.epoch = a.epoch ∧ a.dead.discards m.clock = false ∧
      m.height ≤ a.highWater := by
  unfold checkMark
  split
  · rename_i foreign
    simp [foreign]
  · rename_i own
    split
    · rename_i stale
      simp only [reduceCtorEq, false_iff, not_and]
      rintro - epoch kept
      simp [epoch, kept] at stale
    · rename_i fresh
      simp only [not_or, Decidable.not_not, Bool.not_eq_true] at own fresh
      split
      · rename_i above
        simpa [own, fresh] using above
      · rename_i below
        simpa [own, fresh] using below

/-- A release succeeds on an issued handle that is the top, and on no other. -/
theorem release_ok_iff {h : Handle} : a.release h = (.ok (), b) ↔
    a.checkIssued h = .ok () ∧ a.top.seq = some h.stamp.seq ∧
      b = { a.bury h.stamp.seq with highWater := h.start, top := h.below } := by
  unfold release
  split
  · rename_i refused
    simp [refused]
  · rename_i issued
    split
    · rename_i lower
      simp [lower]
    · rename_i top
      simp only [Decidable.not_not] at top
      simp [issued, top, eq_comm]

/-- A refused release leaves the arena as it was. -/
theorem release_error {h : Handle} {fault : Fault} (refused : a.release h = (.error fault, b)) :
    b = a := by
  unfold release at refused
  split at refused
  · simp only [Prod.mk.injEq] at refused
    exact refused.2.symm
  · split at refused <;> simp only [Prod.mk.injEq, reduceCtorEq, false_and] at refused
    exact refused.2.symm

/-- An unwinding succeeds on a mark that the arena can come back to, and on no other. -/
theorem unwindTo_ok_iff {m : Mark} : a.unwindTo m = (.ok (), b) ↔
    a.checkMark m = .ok () ∧ b = { a.bury m.clock with highWater := m.height, top := m.top } := by
  unfold unwindTo
  split
  · rename_i refused
    simp [refused]
  · rename_i fits
    simp [fits, eq_comm]

/-- An unwinding is refused as the check of its mark is, and leaves the arena as it was. -/
theorem unwindTo_error {m : Mark} {fault : Fault} (refused : a.checkMark m = .error fault) :
    a.unwindTo m = (.error fault, a) := by
  simp only [unwindTo, refused]

end Arena

end TensorArena
