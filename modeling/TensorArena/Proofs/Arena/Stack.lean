import TensorArena.Proofs.Arena.Reach

/-!
Live claims as a stack.

The arena stores no stack, but what it stores is enough to name one. `Stacks a live` says
that `live`, newest first, are the live claims of `a`: the arena's top is the first of them,
every handle remembers the top below it, numbers and ranges descend, and no discard shows
any of them. `Recalls a m base` says that the mark `m` still stands for the lower part
`base` of the stack.

A stack may also stand on what was there before (`StacksOn`, `RecallsOn`): any sound arena is
the empty stack on its own top, and what is claimed from then on piles up on it.

Claiming pushes, releasing the first claim pops, and unwinding to a recalled mark leaves
its part of the stack. A mark is recalled through everything that discards no number issued
before it (`RecallsOn.of_continues`), so inner marks never cost an outer one.
-/

namespace TensorArena

/-- The top that stands for live claims, newest first, on the top `ground`. -/
def Top.over (ground : Top) : List Handle → Top
  | [] => ground
  | h :: _ => ⟨some h.stamp.seq, h.stop.toUInt32⟩

namespace Arena

variable {a b : Arena} {ground : Top} {live base : List Handle} {m : Mark}

/-- The live claims of the arena on top of `ground`, newest first. -/
structure StacksOn (a : Arena) (ground : Top) (live : List Handle) : Prop where
  sound : a.Sound
  top : a.top = ground.over live
  below : ∀ h rest, h :: rest <:+ live → h.below = ground.over rest
  order : live.Pairwise fun newer older =>
    older.stamp.seq < newer.stamp.seq ∧ older.stop ≤ newer.start
  owned : ∀ h ∈ live, h.arena = a.id ∧ h.stamp.epoch = a.epoch ∧ h.stamp.seq < a.clock ∧
    h.stop ≤ a.highWater
  kept : ∀ h ∈ live, a.dead.discards (h.stamp.seq + 1) = false

/-- The live claims of the arena, newest first. -/
abbrev Stacks (a : Arena) (live : List Handle) : Prop := a.StacksOn .empty live

/-- The arena still knows the mark, which stands for the claims `base` on top of `ground`. -/
structure RecallsOn (a : Arena) (ground : Top) (m : Mark) (base : List Handle) : Prop where
  arena : m.arena = a.id
  epoch : m.epoch = a.epoch
  clock : m.clock ≤ a.clock
  kept : a.dead.discards m.clock = false
  height : m.height ≤ a.highWater
  top : m.top = ground.over base
  base : ∀ h ∈ base, h.stamp.seq < m.clock ∧ h.stop ≤ m.height

/-- The arena still knows the mark, which stands for the claims `base`. -/
abbrev Recalls (a : Arena) (m : Mark) (base : List Handle) : Prop := a.RecallsOn .empty m base

/-! ### What stays recalled -/

/-- A mark is recalled through changes that discard nothing issued before it and do not end
below it. -/
theorem RecallsOn.of_continues {log : List Discard} (recalls : a.RecallsOn ground m base)
    (continues : Continues a log b) (above : ∀ d ∈ log, m.clock ≤ d.first)
    (height : m.height ≤ b.highWater) : b.RecallsOn ground m base where
  arena := recalls.arena.trans continues.id.symm
  epoch := recalls.epoch.trans continues.epoch.symm
  clock := Nat.le_trans recalls.clock continues.clock
  kept := by
    rw [continues.dead]
    exact IssueRange.discards_buryAll_of_le recalls.kept above
  height := height
  top := recalls.top
  base := recalls.base

/-- The present mark stands for all live claims. -/
theorem StacksOn.recalls_mark (stacked : a.StacksOn ground live) :
    a.RecallsOn ground a.mark live where
  arena := rfl
  epoch := rfl
  clock := Nat.le_refl _
  kept := stacked.sound.discards_of_le (Nat.le_refl _)
  height := Nat.le_of_eq stacked.sound.height_mark
  top := stacked.top
  base h mem := by
    obtain ⟨-, -, before, within⟩ := stacked.owned h mem
    exact ⟨before, Nat.le_trans within (Nat.le_of_eq stacked.sound.height_mark.symm)⟩

/-! ### The operations on the stack -/

/-- Any sound arena is the empty stack on its own top. -/
theorem Sound.stacksOn (sound : a.Sound) : a.StacksOn a.top [] :=
  ⟨sound, rfl, by simp, .nil, by simp, by simp⟩

/-- A fresh arena has no live claims. -/
theorem stacks_of_build {id : ArenaId} {pool : Pool} {capacity : Nat}
    (built : build id pool capacity = .ok a) : a.Stacks [] := by
  have sound := sound_of_build built
  obtain ⟨-, -, rfl⟩ := build_ok_iff.mp built
  exact ⟨sound, rfl, by simp, .nil, by simp, by simp⟩

/-- Claiming pushes. -/
theorem StacksOn.allocate {size align : Nat} {h : Handle} (stacked : a.StacksOn ground live)
    (done : a.allocate size align = (.ok h, b)) :
    b.StacksOn ground (h :: live) ∧ h.start = roundUp a.highWater align ∧ h.length = size ∧
      b.highWater = h.stop := by
  obtain ⟨start, length, height, above, -⟩ := allocate_range stacked.sound.words done
  have sound := stacked.sound.allocate done
  have higher : a.highWater ≤ h.stop := Nat.le_trans above (Nat.le_add_right _ _)
  refine ⟨?_, start, length, height⟩
  obtain ⟨-, -, rfl, rfl⟩ := allocate_ok done
  exact {
    sound := sound
    top := by rw [Top.over, ← height]
    below := by
      intro k rest suffix
      rcases List.suffix_cons_iff.mp suffix with whole | part
      · cases whole
        exact stacked.top
      · exact stacked.below k rest part
    order := by
      refine List.pairwise_cons.mpr ⟨fun k mem => ?_, stacked.order⟩
      obtain ⟨-, -, before, within⟩ := stacked.owned k mem
      exact ⟨before, Nat.le_trans within above⟩
    owned := by
      intro k mem
      rcases List.mem_cons.mp mem with rfl | old
      · exact ⟨rfl, rfl, Nat.lt_succ_self _, Nat.le_of_eq height.symm⟩
      · obtain ⟨arena, epoch, before, within⟩ := stacked.owned k old
        refine ⟨arena, epoch, Nat.lt_succ_of_lt before, ?_⟩
        exact Nat.le_trans within (Nat.le_trans higher (Nat.le_of_eq height.symm))
    kept := by
      intro k mem
      rcases List.mem_cons.mp mem with rfl | old
      · exact stacked.sound.discards_of_le (Nat.le_succ _)
      · exact stacked.kept k old }

/-- The newest claim can be released, which pops it. -/
theorem StacksOn.release {h : Handle} (stacked : a.StacksOn ground (h :: live)) :
    ∃ b, a.release h = (.ok (), b) ∧ b.StacksOn ground live ∧ b.highWater = h.start ∧
      Continues a [⟨h.stamp.seq, a.clock⟩] b := by
  obtain ⟨arena, epoch, before, within⟩ := stacked.owned h List.mem_cons_self
  have issued := checkIssued_ok_iff.mpr ⟨arena, epoch, stacked.kept h List.mem_cons_self⟩
  have done := release_ok_iff.mpr ⟨issued, congrArg Top.seq stacked.top, rfl⟩
  have lower := (List.pairwise_cons.mp stacked.order).1
  have start : h.start ≤ a.capacity :=
    Nat.le_trans (Nat.le_add_right _ _) (Nat.le_trans within stacked.sound.highWater)
  refine ⟨_, done, ?_, rfl, release_continues done⟩
  exact {
    sound := stacked.sound.release done start
    top := stacked.below h live (List.suffix_refl _)
    below := fun k rest suffix =>
      stacked.below k rest (suffix.trans (List.suffix_cons h live))
    order := (List.pairwise_cons.mp stacked.order).2
    owned := by
      intro k mem
      obtain ⟨arena, epoch, before, -⟩ := stacked.owned k (List.mem_cons_of_mem _ mem)
      exact ⟨arena, epoch, Nat.lt_succ_of_lt before, (lower k mem).2⟩
    kept := fun k mem => IssueRange.discards_bury_of_le
      (stacked.kept k (List.mem_cons_of_mem _ mem)) (lower k mem).1 }

/-- No other live claim can be released. -/
theorem StacksOn.release_lower {h k : Handle} (stacked : a.StacksOn ground (h :: live))
    (mem : k ∈ live) : a.release k = (.error (.releaseOrder a.pool h.stop k.stop), a) := by
  obtain ⟨arena, epoch, -, -⟩ := stacked.owned k (List.mem_cons_of_mem _ mem)
  have issued := checkIssued_ok_iff.mpr
    ⟨arena, epoch, stacked.kept k (List.mem_cons_of_mem _ mem)⟩
  have within := (stacked.owned h List.mem_cons_self).2.2.2
  have other : h.stamp.seq ≠ k.stamp.seq :=
    Nat.ne_of_gt ((List.pairwise_cons.mp stacked.order).1 k mem).1
  have stop : h.stop.toUInt32.toNat = h.stop :=
    toNat_toUInt32 (Nat.le_trans within stacked.sound.highWater) stacked.sound.words
  simp [Arena.release, issued, stacked.top, Top.over, other, stop]

/-- A live claim can be read, in its own range. -/
theorem StacksOn.checkLive {h : Handle} (stacked : a.StacksOn ground live) (mem : h ∈ live) :
    a.checkLive h = .ok () := by
  obtain ⟨arena, epoch, -, within⟩ := stacked.owned h mem
  exact checkLive_ok_iff.mpr
    ⟨checkIssued_ok_iff.mpr ⟨arena, epoch, stacked.kept h mem⟩, within⟩

/-- Unwinding to a recalled mark leaves its part of the stack, and the mark is still
recalled. -/
theorem StacksOn.unwindTo {above : List Handle} (stacked : a.StacksOn ground (above ++ base))
    (recalls : a.RecallsOn ground m base) :
    ∃ b, a.unwindTo m = (.ok (), b) ∧ b.StacksOn ground base ∧ b.RecallsOn ground m base ∧
      b.highWater = m.height ∧ Continues a [⟨m.clock, a.clock⟩] b := by
  have fits := checkMark_ok_iff.mpr
    ⟨recalls.arena, recalls.epoch, recalls.kept, recalls.height⟩
  have done := unwindTo_ok_iff.mpr ⟨fits, rfl⟩
  have continues := unwindTo_continues done
  refine ⟨_, done, ?_, ?_, rfl, continues⟩
  · exact {
      sound := stacked.sound.unwindTo done (Nat.le_trans recalls.height stacked.sound.highWater)
      top := recalls.top
      below := fun h rest suffix =>
        stacked.below h rest (suffix.trans (List.suffix_append above base))
      order := (List.pairwise_append.mp stacked.order).2.1
      owned := by
        intro h mem
        obtain ⟨arena, epoch, before, -⟩ := stacked.owned h (List.mem_append_right _ mem)
        exact ⟨arena, epoch, Nat.lt_succ_of_lt before, (recalls.base h mem).2⟩
      kept := fun h mem => IssueRange.discards_bury_of_le
        (stacked.kept h (List.mem_append_right _ mem)) (recalls.base h mem).1 }
  · exact recalls.of_continues continues (by simp) (Nat.le_refl _)

/-- Writing moves nothing on the stack. -/
theorem StacksOn.write (stacked : a.StacksOn ground live) (h : Handle) (bytes : Bytes) :
    (a.write h bytes).StacksOn ground live :=
  { stacked with sound := stacked.sound.write h bytes }

/-- Resetting empties the stack. -/
theorem StacksOn.reset (stacked : a.StacksOn ground live) : a.reset.Stacks [] :=
  ⟨stacked.sound.reset, rfl, by simp, .nil, by simp, by simp⟩

end Arena

end TensorArena
