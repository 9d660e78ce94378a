import TensorArena.Proofs.Arena.Since
import TensorArena.Proofs.Arena.Stack

/-!
Which calls spare what an arena issued.

A state `b` spares the state `a` if it came after `a` and nothing that `a` had issued was
discarded in between: the level is not lower, and readings up to the clock of `a` show no discard
that they did not show. Then handles that `a` accepted are accepted, and marks that it recalled
are recalled, whatever was written. Claiming always spares; releasing and unwinding do where the
token was issued at `a` or later.
-/

namespace TensorArena

namespace Arena

/-- The arena is in the state `b` after `a`, and still has what `a` had issued. -/
structure Spares (a b : Arena) : Prop where
  id : b.id = a.id
  capacity : b.capacity = a.capacity
  epoch : b.epoch = a.epoch
  clock : a.clock ≤ b.clock
  highWater : a.highWater ≤ b.highWater
  shown : ∀ reading ≤ a.clock, a.dead.discards reading = false → b.dead.discards reading = false

variable {a b c : Arena} {log : List Discard} {h : Handle} {m n : Mark} {ground : Top}
  {base : List Handle}

theorem Spares.refl (a : Arena) : Spares a a :=
  ⟨rfl, rfl, rfl, Nat.le_refl _, Nat.le_refl _, fun _ _ kept => kept⟩

theorem Spares.trans (first : Spares a b) (second : Spares b c) : Spares a c where
  id := second.id.trans first.id
  capacity := second.capacity.trans first.capacity
  epoch := second.epoch.trans first.epoch
  clock := Nat.le_trans first.clock second.clock
  highWater := Nat.le_trans first.highWater second.highWater
  shown reading before kept :=
    second.shown reading (Nat.le_trans before first.clock) (first.shown reading before kept)

/-- What has to hold of changes, so that they spare `a`. -/
theorem Spares.of_continues (spares : Spares a b) (continues : Continues b log c)
    (above : ∀ d ∈ log, a.clock ≤ d.first) (level : a.highWater ≤ c.highWater) : Spares a c where
  id := continues.id.trans spares.id
  capacity := continues.capacity.trans spares.capacity
  epoch := continues.epoch.trans spares.epoch
  clock := Nat.le_trans spares.clock continues.clock
  highWater := level
  shown reading before kept := by
    rw [continues.dead]
    exact IssueRange.discards_buryAll_of_le (spares.shown reading before kept)
      fun d mem => Nat.le_trans before (above d mem)

/-! ### Operations -/

theorem Spares.allocate (spares : Spares a b) (sound : b.Sound) {size align : Nat}
    (done : b.allocate size align = (.ok h, c)) : Spares a c := by
  obtain ⟨-, -, height, above, -⟩ := allocate_range sound.words done
  refine spares.of_continues (allocate_continues done) (by simp) ?_
  rw [height]
  exact Nat.le_trans spares.highWater (Nat.le_trans above (Nat.le_add_right _ _))

/-- Releasing a claim that was issued since spares what was issued before. -/
theorem Spares.release (spares : Spares a b) (clock : a.clock ≤ h.stamp.seq)
    (level : a.highWater ≤ h.start) : Spares a (b.release h).2 := by
  cases done : b.release h with
  | mk answer c =>
    cases answer with
    | error fault => exact release_error done ▸ spares
    | ok =>
      refine spares.of_continues (release_continues done) (by simpa using clock) ?_
      obtain ⟨-, -, rfl⟩ := release_ok_iff.mp done
      exact level

/-- Unwinding to a mark that was taken since spares what was issued before. -/
theorem Spares.unwindTo (spares : Spares a b) (clock : a.clock ≤ m.clock)
    (level : a.highWater ≤ m.height) : Spares a (b.unwindTo m).2 := by
  cases fits : b.checkMark m with
  | error fault => exact unwindTo_error fits ▸ spares
  | ok =>
    have done := unwindTo_ok_iff.mpr ⟨fits, rfl⟩
    rw [done]
    exact spares.of_continues (unwindTo_continues done) (by simpa using clock) level

/-! ### What is spared -/

theorem Spares.checkLive (spares : Spares a b) (past : h.stamp.seq < a.clock)
    (live : a.checkLive h = .ok ()) : b.checkLive h = .ok () := by
  obtain ⟨issued, within⟩ := checkLive_ok_iff.mp live
  obtain ⟨own, epoch, kept⟩ := checkIssued_ok_iff.mp issued
  refine checkLive_ok_iff.mpr ⟨checkIssued_ok_iff.mpr ⟨?_, ?_, spares.shown _ past kept⟩, ?_⟩
  · exact own.trans spares.id.symm
  · exact epoch.trans spares.epoch.symm
  · exact Nat.le_trans within spares.highWater

theorem Spares.recallsOn (spares : Spares a b) (recalls : a.RecallsOn ground m base) :
    b.RecallsOn ground m base where
  arena := recalls.arena.trans spares.id.symm
  epoch := recalls.epoch.trans spares.epoch.symm
  clock := Nat.le_trans recalls.clock spares.clock
  kept := spares.shown _ recalls.clock recalls.kept
  height := Nat.le_trans recalls.height spares.highWater
  top := recalls.top
  base := recalls.base

/-- A handle that its own arena refuses is not read. -/
theorem bytes_stale (own : h.arena = a.id) (refused : a.checkLive h ≠ .ok ()) :
    a.bytes h = .error (.staleHandle a.pool h.stop a.highWater) := by
  simp only [Arena.bytes, checkLive_error own refused]
  rfl

/-- A new claim is live. -/
theorem Sound.checkLive_allocate (sound : a.Sound) {size align : Nat}
    (done : a.allocate size align = (.ok h, b)) : b.checkLive h = .ok () ∧ h.stamp.seq < b.clock := by
  have stacked := (sound.stacksOn.allocate done).1
  exact ⟨stacked.checkLive List.mem_cons_self, (stacked.owned h List.mem_cons_self).2.2.1⟩

/-! ### Marks and what lies above them -/

/-- A mark is recalled through the release of a claim that was issued after it. -/
theorem RecallsOn.release (recalls : a.RecallsOn ground m base) (clock : m.clock ≤ h.stamp.seq)
    (height : m.height ≤ h.start) : (a.release h).2.RecallsOn ground m base := by
  cases done : a.release h with
  | mk answer c =>
    cases answer with
    | error fault => exact release_error done ▸ recalls
    | ok =>
      refine recalls.of_continues (release_continues done) (by simpa using clock) ?_
      obtain ⟨-, -, rfl⟩ := release_ok_iff.mp done
      exact height

/-- A recalled mark is unwound to, which discards what was issued after it, but spares older
marks. -/
theorem RecallsOn.unwindTo (recalls : a.RecallsOn ground m base) :
    ∃ b, a.unwindTo m = (.ok (), b) ∧ Continues a [⟨m.clock, a.clock⟩] b ∧
      b.highWater = m.height := by
  have fits := checkMark_ok_iff.mpr ⟨recalls.arena, recalls.epoch, recalls.kept, recalls.height⟩
  have done := unwindTo_ok_iff.mpr ⟨fits, rfl⟩
  exact ⟨_, done, unwindTo_continues done, rfl⟩

/-- After an unwinding the claims that were issued after the mark are discarded. -/
theorem discards_of_unwound (continues : Continues a [⟨m.clock, a.clock⟩] b)
    (after : m.clock ≤ h.stamp.seq) (past : h.stamp.seq < a.clock) :
    b.dead.discards (h.stamp.seq + 1) = true := by
  rw [continues.dead]
  exact IssueRange.discards_bury_of_lt (Nat.lt_succ_of_le after) past

end Arena

end TensorArena
