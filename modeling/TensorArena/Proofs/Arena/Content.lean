import Mathlib.Data.List.Pairwise
import TensorArena.Proofs.Arena.History

/-!
What live claims hold.

Live claims lie apart, so writing through one of them shows in no other, and two of them can be
viewed at once unless they are one claim with bytes in it. An arena keeps its history (`Keeps`)
while each live range holds what the history says was last written through it. Calls preserve
this as long as what is written through is live.
-/

namespace TensorArena

/-- Some byte lies in both ranges. -/
def Handle.SharesByte (h k : Handle) : Prop :=
  ∃ byte, (h.start ≤ byte ∧ byte < h.stop) ∧ k.start ≤ byte ∧ byte < k.stop

/-- One range ends before the other begins. -/
def Handle.Apart (h k : Handle) : Prop := h.stop ≤ k.start ∨ k.stop ≤ h.start

instance : Std.Symm Handle.Apart := ⟨fun _ _ => Or.symm⟩

theorem Handle.Apart.overlaps_eq_false {h k : Handle} (apart : h.Apart k) :
    h.overlaps k = false := by
  simp only [Handle.overlaps, Bool.and_eq_false_iff, decide_eq_false_iff_not]
  rcases apart with before | after <;> omega

/-- Only a range without a byte does not overlap itself. -/
theorem Handle.overlaps_self_eq_false_iff {h : Handle} : h.overlaps h = false ↔ h.length = 0 := by
  simp [Handle.overlaps, Handle.stop]

namespace Arena

variable {a b : Arena} {ground : Top} {past : List Deed} {claims : List Handle} {h k : Handle}

/-! ### Ranges of live claims -/

/-- Different live claims lie apart. -/
theorem StacksOn.apart (stacked : a.StacksOn ground claims) (first : h ∈ claims)
    (second : k ∈ claims) (other : h ≠ k) : h.Apart k :=
  (stacked.order.imp fun order => .inr order.2).forall first second other

/-- Two live claims overlap exactly if some byte lies in both. -/
theorem StacksOn.overlaps_iff (stacked : a.StacksOn ground claims) (first : h ∈ claims)
    (second : k ∈ claims) : h.overlaps k = true ↔ h.SharesByte k := by
  have own : h.arena = k.arena :=
    (stacked.owned h first).1.trans (stacked.owned k second).1.symm
  simp only [Handle.overlaps, own, beq_self_eq_true, Bool.true_and, Bool.and_eq_true,
    decide_eq_true_eq]
  constructor
  · rintro ⟨left, right⟩
    by_cases same : h = k
    · subst same
      exact ⟨h.start, ⟨Nat.le_refl _, left⟩, Nat.le_refl _, left⟩
    · rcases stacked.apart first second same with before | after <;> omega
  · rintro ⟨byte, inFirst, inSecond⟩
    omega

/-- Two live claims that do not overlap lie apart, even if they are one empty claim. -/
theorem StacksOn.apart_of_not_overlaps (stacked : a.StacksOn ground claims) (first : h ∈ claims)
    (second : k ∈ claims) (free : h.overlaps k = false) : h.Apart k := by
  by_cases same : h = k
  · subst same
    exact .inl (Nat.le_of_eq (by rw [Handle.stop, Handle.overlaps_self_eq_false_iff.mp free]; rfl))
  · exact stacked.apart first second same

/-! ### Writing -/

/-- A range that lies apart from the one that is written stays as it is. -/
theorem view_write_of_apart (bytes : Bytes) (apart : h.Apart k) :
    (a.write h bytes).view k = a.view k := by
  rcases apart with before | after
  · refine Buffer.view_write_of_ge (Nat.le_trans ?_ before)
    rw [List.length_take]
    exact Nat.add_le_add_left (Nat.min_le_left _ _) _
  · exact Buffer.view_write_of_le after

/-- The range that is written shows the new bytes. -/
theorem view_write_self (bytes : Bytes) (within : h.stop ≤ a.capacity) :
    (a.write h bytes).view h = Bytes.overlay bytes (a.view h) :=
  Buffer.view_write_self bytes within

/-! ### Two views at once -/

/-- Two ranges are viewed at once exactly if both are live and they do not overlap. -/
theorem bytesPair_ok_iff {x y : Bytes} : a.bytesPair h k = .ok (x, y) ↔
    a.checkLive h = .ok () ∧ a.checkLive k = .ok () ∧ h.overlaps k = false ∧
      a.view h = x ∧ a.view k = y := by
  unfold bytesPair
  split
  · rename_i refused
    simp [refused]
  · rename_i first
    split
    · rename_i refused
      simp [refused]
    · rename_i second
      split
      · rename_i overlapping
        simp [overlapping]
      · rename_i free
        simp [first, second, free]

/-! ### Keeping the history -/

/-- Each live claim's range holds what the history says. -/
def Keeps (a : Arena) (past : List Deed) : Prop := ∀ h ∈ live past, a.view h = content h past

theorem Keeps.claimed {size align : Nat} (keeps : a.Keeps past) (tells : a.Tells past)
    (done : a.allocate size align = (.ok h, b)) : b.Keeps (.claimed h (b.view h) :: past) := by
  obtain ⟨-, -, new, after⟩ := allocate_ok done
  intro k mem
  rcases List.mem_cons.mp mem with rfl | old
  · simp [content]
  · have other : h ≠ k := by
      rintro rfl
      have before := (tells.own h (tells.issued h old)).2
      rw [new] at before
      exact Nat.lt_irrefl _ before
    have same : b.view k = a.view k := by rw [after]; rfl
    simp only [content, other, if_false]
    exact same.trans (keeps k old)

/-- Where the buffer stays and no claim joins the live ones, each holds what it held. -/
theorem Keeps.of_subset {d : Deed} (keeps : a.Keeps past) (same : b.buffer = a.buffer)
    (fewer : ∀ k ∈ live (d :: past), k ∈ live past)
    (silent : ∀ k, content k (d :: past) = content k past) : b.Keeps (d :: past) := by
  intro k mem
  rw [silent, ← keeps k (fewer k mem), view, view, same]

/-- Writing through a live claim. -/
theorem Keeps.wrote (keeps : a.Keeps past) (tells : a.Tells past) (mem : h ∈ live past)
    (bytes : Bytes) :
    (a.write h bytes).Keeps (.wrote h (Bytes.overlay bytes (a.view h)) :: past) := by
  have within := Nat.le_trans (tells.stacked.owned h mem).2.2.2 tells.stacked.sound.highWater
  intro k live
  by_cases same : h = k
  · subst same
    simp only [content, if_true]
    exact view_write_self bytes within
  · simp only [content, same, if_false]
    exact (view_write_of_apart bytes (tells.stacked.apart mem live same)).trans (keeps k live)

/-- Writing through two live claims that do not overlap. -/
theorem Keeps.wrotePair (keeps : a.Keeps past) (tells : a.Tells past) (first : h ∈ live past)
    (second : k ∈ live past) (free : h.overlaps k = false) (p q : Bytes) :
    ((a.write h p).write k q).Keeps (.wrote k (Bytes.overlay q (a.view k)) ::
      .wrote h (Bytes.overlay p (a.view h)) :: past) := by
  have apart := tells.stacked.apart_of_not_overlaps first second free
  have once := keeps.wrote tells first p
  have twice := once.wrote (tells.wrote h h p _) second q
  rwa [view_write_of_apart p apart] at twice

/-- The handles that a call writes through. -/
def Call.writes : Arena.Call → List Handle
  | .modify h _ => [h]
  | .modifyPair h k _ => [h, k]
  | _ => []

/-- **One call.** Where callers come back to standing marks alone, and what the arena lets them
write through is live, live claims go on to hold what the history says. -/
theorem Keeps.perform (keeps : a.Keeps past) (tells : a.Tells past) (c : Arena.Call)
    (plain : c.isScoped = false)
    (orderly : ∀ m, c = .unwindTo m → (a.unwindTo m).1 = .ok () → Standing m past)
    (writes : ∀ h ∈ c.writes, a.checkLive h = .ok () → h ∈ live past) :
    (a.perform c).2.Keeps (a.deeds c ++ past) := by
  cases c with
  | allocate size align =>
    simp only [Arena.perform, deeds]
    cases done : a.allocate size align with
    | mk answer b =>
      cases answer with
      | error fault => exact allocate_error done ▸ keeps
      | ok h => exact keeps.claimed tells done
  | release h =>
    simp only [Arena.perform, deeds]
    cases done : a.release h with
    | mk answer b =>
      cases answer with
      | error fault => exact release_error done ▸ keeps
      | ok =>
        obtain ⟨-, -, after⟩ := Arena.release_ok_iff.mp done
        exact keeps.of_subset (after ▸ rfl) (fun k => List.mem_of_mem_erase) fun k => rfl
  | reset => exact keeps.of_subset rfl (fun k mem => by cases mem) fun k => rfl
  | mark => exact keeps.of_subset rfl (fun k mem => mem) fun k => rfl
  | unwindTo m =>
    simp only [Arena.perform, deeds]
    cases done : a.unwindTo m with
    | mk answer b =>
      cases answer with
      | error fault =>
        cases checked : a.checkMark m with
        | error other =>
          rw [unwindTo_error checked] at done
          cases done
          exact keeps
        | ok =>
          rw [unwindTo_ok_iff.mpr ⟨checked, rfl⟩] at done
          cases done
      | ok =>
        obtain ⟨-, after⟩ := unwindTo_ok_iff.mp done
        obtain ⟨-, above, parts, -⟩ := tells.recalled m (orderly m rfl (congrArg Prod.fst done))
        refine keeps.of_subset (after ▸ rfl) (fun k mem => ?_) fun k => rfl
        exact parts ▸ List.mem_append_right above mem
  | modify h change =>
    simp only [Arena.perform, deeds, modify]
    split <;> rename_i read
    · exact keeps
    · obtain ⟨live, rfl⟩ := bytes_ok_iff.mp read
      exact keeps.wrote tells (writes h List.mem_cons_self live) _
  | modifyPair h k change =>
    simp only [Arena.perform, deeds, modifyPair]
    split <;> rename_i read
    · exact keeps
    · obtain ⟨liveFirst, liveSecond, free, rfl, rfl⟩ := bytesPair_ok_iff.mp read
      exact keeps.wrotePair tells (writes h List.mem_cons_self liveFirst)
        (writes k (List.mem_cons_of_mem _ List.mem_cons_self) liveSecond) free _ _
  | openScope => exact keeps.of_subset rfl (fun k mem => mem) fun k => rfl
  | inScope s c => cases plain
  | id => exact keeps
  | pool => exact keeps
  | capacity => exact keeps
  | highWater => exact keeps
  | peak => exact keeps
  | checkMark m => exact keeps
  | bytes h => exact keeps

end Arena

end TensorArena
