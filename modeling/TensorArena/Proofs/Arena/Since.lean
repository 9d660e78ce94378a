import TensorArena.Proofs.Arena.Reach

/-!
What calls cannot touch below a state of the arena.

Fix a state `a` of an arena, and let it be called, without a reset, by callers who present
only tokens that it issued from then on (`Token.After`). Then nothing that `a` had is lost:
the high-water mark does not fall below that of `a`, readings up to `a`'s clock show no
discard that they did not show, and the bytes below stay as they are (`Since`). So the mark
of `a` can be restored at any time, and what `a` accepted is accepted.
-/

namespace TensorArena

/-- The arena issued the token at its state `a` or later. -/
def Token.After (a : Arena) : Token → Prop
  | .handle h => a.clock ≤ h.stamp.seq ∧ a.highWater ≤ h.start ∧ h.stop ≤ a.capacity
  | .mark m => a.clock ≤ m.clock ∧ a.highWater ≤ m.height ∧ m.height ≤ a.capacity

namespace Arena

/-- The arena is in the state `b` after `a`, and what `a` had is still there. -/
structure Since (a b : Arena) : Prop where
  id : b.id = a.id
  pool : b.pool = a.pool
  capacity : b.capacity = a.capacity
  epoch : b.epoch = a.epoch
  clock : a.clock ≤ b.clock
  lowest : a.highWater ≤ b.highWater
  highWater : b.highWater ≤ a.capacity
  shown : ∀ reading ≤ a.clock, a.dead.discards reading = false → b.dead.discards reading = false
  bytes : ∀ start length, start + length ≤ a.highWater →
    b.buffer.view start length = a.buffer.view start length

variable {a b c : Arena} {shown : Token → Prop} {log : List Discard}

theorem Since.refl (sound : a.Sound) : a.Since a where
  id := rfl
  pool := rfl
  capacity := rfl
  epoch := rfl
  clock := Nat.le_refl _
  lowest := Nat.le_refl _
  highWater := sound.highWater
  shown _ _ kept := kept
  bytes _ _ _ := rfl

theorem Since.trans (first : a.Since b) (second : b.Since c) : a.Since c where
  id := second.id.trans first.id
  pool := second.pool.trans first.pool
  capacity := second.capacity.trans first.capacity
  epoch := second.epoch.trans first.epoch
  clock := Nat.le_trans first.clock second.clock
  lowest := Nat.le_trans first.lowest second.lowest
  highWater := first.capacity ▸ second.highWater
  shown reading before kept :=
    second.shown reading (Nat.le_trans before first.clock) (first.shown reading before kept)
  bytes start length below :=
    (second.bytes start length (Nat.le_trans below first.lowest)).trans
      (first.bytes start length below)

/-! ### One change -/

/-- What a change has to respect, so that what `a` had stays. -/
theorem Since.of_continues (since : a.Since b) (continues : Continues b log c)
    (discards : ∀ d ∈ log, a.clock ≤ d.first) (lowest : a.highWater ≤ c.highWater)
    (highWater : c.highWater ≤ a.capacity)
    (bytes : ∀ start length, start + length ≤ a.highWater →
      c.buffer.view start length = b.buffer.view start length) : a.Since c where
  id := continues.id.trans since.id
  pool := continues.pool.trans since.pool
  capacity := continues.capacity.trans since.capacity
  epoch := continues.epoch.trans since.epoch
  clock := Nat.le_trans since.clock continues.clock
  lowest := lowest
  highWater := highWater
  shown reading before kept := by
    rw [continues.dead]
    exact IssueRange.discards_buryAll_of_le (since.shown reading before kept)
      fun d mem => Nat.le_trans before (discards d mem)
  bytes start length below := (bytes start length below).trans (since.bytes start length below)

theorem Change.since (change : Change shown b log c) (sound : a.Sound) (since : a.Since b)
    (after : ∀ t, shown t → t.arena = a.id → t.After a) : a.Since c := by
  have continues := change.continues
  have words : b.capacity ≤ Capacity.largest := since.capacity ▸ sound.words
  cases change with
  | claim done =>
    obtain ⟨-, -, height, above, within⟩ := allocate_range words done
    refine since.of_continues continues (by simp) ?_ ?_ ?_
    · rw [height]
      exact Nat.le_trans since.lowest (Nat.le_trans above (Nat.le_add_right _ _))
    · exact height ▸ since.capacity ▸ within
    · obtain ⟨-, -, -, rfl⟩ := allocate_ok done
      exact fun _ _ _ => rfl
  | @release h _ held done =>
    obtain ⟨issued, -, rfl⟩ := release_ok_iff.mp done
    have own := (checkIssued_ok_iff.mp issued).1.trans since.id
    obtain ⟨clock, lowest, within⟩ := after _ held own
    refine since.of_continues continues (by simpa using clock) lowest ?_ fun _ _ _ => rfl
    exact Nat.le_trans (Nat.le_add_right _ _) within
  | @unwind m _ held done =>
    obtain ⟨fits, rfl⟩ := unwindTo_ok_iff.mp done
    have own := (checkMark_ok_iff.mp fits).1.trans since.id
    obtain ⟨clock, lowest, within⟩ := after _ held own
    exact since.of_continues continues (by simpa using clock) lowest within fun _ _ _ => rfl
  | @write h bytes held live =>
    have own := (checkIssued_ok_iff.mp (checkLive_ok_iff.mp live).1).1.trans since.id
    obtain ⟨-, lowest, -⟩ := after _ held own
    refine since.of_continues continues (by simp) since.lowest since.highWater ?_
    exact fun start length below => Buffer.view_write_of_le (Nat.le_trans below lowest)
  | openScope =>
    exact since.of_continues continues (by simp) since.lowest since.highWater fun _ _ _ => rfl

theorem Changes.since (changes : Changes shown b log c) (sound : a.Sound) (since : a.Since b)
    (after : ∀ t, shown t → t.arena = a.id → t.After a) : a.Since c := by
  induction changes with
  | none => exact since
  | more _ change ih => exact change.since sound ih after

/-! ### One call -/

theorem Since.perform (sound : a.Sound) (since : a.Since b) (c : Arena.Call)
    (kept : c.isReset = false) (after : ∀ t ∈ c.presents, t.arena = a.id → t.After a) :
    a.Since (b.perform c).2 := by
  have changes : Changes (· ∈ c.presents) b (b.discards c) (b.perform c).2 :=
    perform_changes b c (fun _ mem => mem) kept
  exact changes.since sound since after

/-- What a call answers was issued since. -/
theorem Since.yields (sound : a.Sound) (since : a.Since b) (c : Arena.Call)
    (after : ∀ t ∈ c.presents, t.arena = a.id → t.After a) :
    ∀ t ∈ c.yields (b.perform c).1, t.arena = a.id → t.After a := by
  have words : b.capacity ≤ Capacity.largest := since.capacity ▸ sound.words
  intro t yielded own
  rcases yields_cases b c yielded with presented | rfl | ⟨size, align, h, done, rfl⟩
  · exact after t presented own
  · have height : b.mark.height = b.highWater :=
      toNat_toUInt32 since.highWater sound.words
    refine ⟨since.clock, ?_, ?_⟩
    · exact height ▸ since.lowest
    · exact height ▸ since.highWater
  · obtain ⟨-, -, -, above, within⟩ := allocate_range words done
    refine ⟨?_, Nat.le_trans since.lowest above, since.capacity ▸ within⟩
    obtain ⟨-, -, rfl, -⟩ := allocate_ok done
    exact since.clock

/-! ### What is still accepted -/

theorem Since.checkIssued_ok (since : a.Since b) {h : Handle} (past : h.stamp.seq < a.clock)
    (issued : a.checkIssued h = .ok ()) : b.checkIssued h = .ok () := by
  obtain ⟨own, epoch, kept⟩ := checkIssued_ok_iff.mp issued
  exact checkIssued_ok_iff.mpr
    ⟨own.trans since.id.symm, epoch.trans since.epoch.symm, since.shown _ past kept⟩

/-- A handle that was accepted is accepted, and reads the same bytes. -/
theorem Since.bytes_ok (since : a.Since b) {h : Handle} (past : h.stamp.seq < a.clock)
    {bytes : Bytes} (read : a.bytes h = .ok bytes) : b.bytes h = .ok bytes := by
  obtain ⟨live, rfl⟩ := bytes_ok_iff.mp read
  obtain ⟨issued, within⟩ := checkLive_ok_iff.mp live
  refine bytes_ok_iff.mpr ⟨checkLive_ok_iff.mpr ⟨since.checkIssued_ok past issued, ?_⟩, ?_⟩
  · exact Nat.le_trans within since.lowest
  · exact since.bytes _ _ within

/-- The handle that could be released can be released when the top is what it was. -/
theorem Since.release_ok (since : a.Since b) (top : b.top = a.top) {h : Handle}
    (past : h.stamp.seq < a.clock) (done : (a.release h).1 = .ok ()) :
    (b.release h).1 = .ok () := by
  obtain ⟨issued, newest, -⟩ := release_ok_iff.mp (Prod.ext done rfl)
  have again := release_ok_iff.mpr
    ⟨since.checkIssued_ok past issued, (congrArg Top.seq top).trans newest, rfl⟩
  rw [again]

/-- A mark that could be restored can be restored. -/
theorem Since.checkMark_ok (since : a.Since b) {m : Mark} (past : m.clock ≤ a.clock)
    (accepted : a.checkMark m = .ok ()) : b.checkMark m = .ok () := by
  obtain ⟨own, epoch, kept, within⟩ := checkMark_ok_iff.mp accepted
  refine checkMark_ok_iff.mpr ⟨?_, ?_, since.shown _ past kept, ?_⟩
  · exact own.trans since.id.symm
  · exact epoch.trans since.epoch.symm
  · exact Nat.le_trans within since.lowest

/-- The state's own mark can be restored, which brings back its level and its top. -/
theorem Since.unwindTo_mark (sound : a.Sound) (since : a.Since b) :
    ∃ c, b.unwindTo a.mark = (.ok (), c) ∧ a.Since c ∧ c.highWater = a.highWater ∧
      c.top = a.top := by
  have height := sound.height_mark
  have own : a.checkMark a.mark = .ok () :=
    checkMark_ok_iff.mpr ⟨rfl, rfl, sound.discards_of_le (Nat.le_refl _), Nat.le_of_eq height⟩
  have fits := since.checkMark_ok (Nat.le_refl _) own
  have done := unwindTo_ok_iff.mpr ⟨fits, rfl⟩
  have after : Token.After a (.mark a.mark) :=
    ⟨Nat.le_refl _, Nat.le_of_eq height.symm, Nat.le_trans (Nat.le_of_eq height) sound.highWater⟩
  have change : Change (· = .mark a.mark) b [⟨a.mark.clock, b.clock⟩] _ := .unwind rfl done
  refine ⟨_, done, change.since sound since ?_, height, rfl⟩
  rintro t rfl -
  exact after

/-- An arena that was unwound is sound, if what a sound one had is still there. -/
theorem Since.sound_of_unwindTo {m : Mark} (sound : a.Sound) (since : a.Since c)
    (done : b.unwindTo m = (.ok (), c)) : c.Sound where
  words := since.capacity ▸ sound.words
  highWater := since.capacity ▸ since.highWater
  dead := by
    obtain ⟨-, rfl⟩ := unwindTo_ok_iff.mp done
    exact .inl (by simp [bury])

end Arena

end TensorArena
