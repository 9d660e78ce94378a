import TensorArena.Proofs.Arena.Discard
import TensorArena.Proofs.Arena.History

/-!
An arena refuses nothing that is live.

The arena decides by one range of discarded numbers, which discards widen or replace, and by
one comparison of levels. Here it is shown to err on one side only: as long as its callers
come back to standing marks alone, every live handle is read, the newest one can be released,
and every standing mark can be restored as often as one likes (`nothing_live_refused`). How
long it refuses what is *not* live is another matter (`unwound_handle_stale_iff`).
-/

namespace TensorArena

namespace Arena

instance Standing.decidable (m : Mark) : ∀ past, Decidable (Standing m past)
  | [] => inferInstanceAs (Decidable False)
  | .marked k :: past =>
    have := Standing.decidable m past
    inferInstanceAs (Decidable (k = m ∨ Standing m past))
  | .released h :: past =>
    have := Standing.decidable m past
    inferInstanceAs (Decidable (Standing m past ∧ h ∉ liveAt m past))
  | .unwound k :: past =>
    have := Standing.decidable m past
    inferInstanceAs (Decidable (Standing m past ∧ ¬ k.clock < m.clock))
  | .reset :: _ => inferInstanceAs (Decidable False)
  | .claimed _ _ :: past => Standing.decidable m past
  | .wrote _ _ :: past => Standing.decidable m past

/-! ### Runs -/

/-- The arena was built, and its history is `past`. Every call, refused ones included, presents
handles that the arena issued or that it did not issue at all; and every unwinding that
succeeds is to a standing mark. -/
inductive Orderly : Arena → List Deed → Prop where
  | built {id : ArenaId} {pool : Pool} {capacity : Nat} {a : Arena} :
      build id pool capacity = .ok a → Orderly a []
  | called {a : Arena} {past : List Deed} (c : Arena.Call) : Orderly a past →
      c.isScoped = false →
      (∀ h, .handle h ∈ c.presents → h ∈ claims past ∨ h.arena ≠ a.id) →
      (∀ m, c = .unwindTo m → (a.unwindTo m).1 = .ok () → Standing m past) →
      Orderly (a.perform c).2 (a.deeds c ++ past)

variable {a : Arena} {past : List Deed} {m : Mark}

/-- **Every run.** Each call leaves the history telling the state of the arena. -/
theorem Orderly.tells (run : Orderly a past) : a.Tells past := by
  induction run with
  | built done => exact tells_of_build done
  | called c _ plain honest orderly ih => exact ih.perform c plain honest orderly

/-! ### What an arena honours -/

/-- The arena honours its history: a live handle is read in exactly its range; of all handles
that it issued, live ones among them, the newest live one can be released, and no other; every
standing mark is accepted; and a mark taken now records the high-water mark. -/
structure Honours (a : Arena) (past : List Deed) : Prop where
  reads : ∀ h ∈ live past, h.stop ≤ a.capacity ∧
    a.bytes h = .ok (a.buffer.extract h.start h.stop).toList
  issued : ∀ h ∈ live past, h ∈ claims past
  releases : ∀ h ∈ claims past, (a.release h).1 = .ok () ↔ (live past).head? = some h
  restores : ∀ m, Standing m past → a.checkMark m = .ok ()
  records : a.mark.height = a.highWater

theorem Tells.honours (tells : a.Tells past) : Honours a past where
  reads h mem := by
    have within := (tells.stacked.owned h mem).2.2.2
    exact ⟨Nat.le_trans within tells.stacked.sound.highWater,
      bytes_ok_iff.mpr ⟨tells.stacked.checkLive mem, rfl⟩⟩
  issued := tells.issued
  releases h mem := tells.release_ok_iff mem
  restores m standing := by
    obtain ⟨recalls, -⟩ := tells.recalled m standing
    exact checkMark_ok_iff.mpr ⟨recalls.arena, recalls.epoch, recalls.kept, recalls.height⟩
  records := tells.stacked.sound.height_mark

/-! ### Coming back to a standing mark -/

/-- Coming back to a standing mark is itself an orderly call, and the mark stands after it. -/
theorem Orderly.unwound (run : Orderly a past) (standing : Standing m past) :
    ∃ b, a.unwindTo m = (.ok (), b) ∧ b.highWater = m.height ∧
      Orderly b (.unwound m :: past) ∧ Standing m (.unwound m :: past) := by
  obtain ⟨b, done, height, -⟩ := run.tells.unwound standing
  have again : Orderly (a.perform (.unwindTo m)).2 (a.deeds (.unwindTo m) ++ past) := by
    refine .called (.unwindTo m) run rfl (by simp [Call.presents]) ?_
    rintro k same -
    cases same
    exact standing
  simp only [perform, deeds, done] at again
  exact ⟨b, done, height, again, standing, Nat.lt_irrefl _⟩

namespace Nested

/-- A fresh arena of thirty-two bytes. -/
def start : Arena := ⟨⟨1⟩, .ram, Buffer.zeroed 32, 0, 0, 0, 0, .empty, .empty, 0⟩

def low : Handle := ⟨⟨1⟩, .ram, 0, 5, ⟨0, 0⟩, .empty⟩

def outer : Mark := ⟨⟨1⟩, 5, 0, 1, ⟨some 0, 5⟩⟩

def middle : Handle := ⟨⟨1⟩, .ram, 8, 4, ⟨0, 1⟩, ⟨some 0, 5⟩⟩

def inner : Mark := ⟨⟨1⟩, 12, 0, 2, ⟨some 1, 12⟩⟩

def high : Handle := ⟨⟨1⟩, .ram, 12, 3, ⟨0, 2⟩, ⟨some 1, 12⟩⟩

/-- Three claims with a mark between each two, and the inner mark restored. -/
def calls : List Arena.Call :=
  [.allocate 5 1, .mark, .allocate 4 8, .mark, .allocate 3 1, .unwindTo inner]

def log : List Deed :=
  [.unwound inner, .claimed high [0, 0, 0], .marked inner, .claimed middle [0, 0, 0, 0],
    .marked outer, .claimed low [0, 0, 0, 0, 0]]

theorem orderly : Orderly (start.after calls) log := by
  have built : Orderly start [] := .built (build_ok_iff.mpr ⟨by decide, by decide, rfl⟩)
  have first := built.called (.allocate 5 1) rfl (by simp [Call.presents]) (by simp)
  have second := first.called .mark rfl (by simp [Call.presents]) (by simp)
  have third := second.called (.allocate 4 8) rfl (by simp [Call.presents]) (by simp)
  have fourth := third.called .mark rfl (by simp [Call.presents]) (by simp)
  have fifth := fourth.called (.allocate 3 1) rfl (by simp [Call.presents]) (by simp)
  refine fifth.called (.unwindTo inner) rfl (by simp [Call.presents]) ?_
  rintro m same -
  cases same
  exact .inl rfl

end Nested

end Arena

end TensorArena
