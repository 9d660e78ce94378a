import TensorArena.Proofs.Workspace.Stack

/-!
What a refused operation leaves behind.

An operation of an arena answers either a result or a refusal, and the state after it is
computed either way. Here every refusal leaves every field as it was: of one arena, whatever the
call, and of an installed pair, whatever is asked of it. Unwinding a pair is the one operation
that moves both arenas, one after the other. Both marks are checked first, and moving the
metadata arena cannot spoil the check of the ram mark, so it moves both arenas or none, even
with marks taken at different times or from other arenas.
-/

namespace TensorArena

/-- The answer to a call of a scope is a refusal. -/
def Scope.Call.refused : (c : Scope.Call) → c.Answer → Bool
  | .allocate _ _, (slot, _) => !slot.isOk
  | .bytes _, answer => !answer.isOk
  | .modify _ _, answer => !answer.isOk
  | .modifyPair _ _ _, answer => !answer.isOk
  | .used, _ => false
  | .leave, _ => false
  | .finish, answer => !answer.isOk

/-- The answer to a call of an arena is a refusal. -/
def Arena.Call.refused : (c : Arena.Call) → c.Answer → Bool
  | .allocate _ _, answer => !answer.isOk
  | .release _, answer => !answer.isOk
  | .checkMark _, answer => !answer.isOk
  | .unwindTo _, answer => !answer.isOk
  | .bytes _, answer => !answer.isOk
  | .modify _ _, answer => !answer.isOk
  | .modifyPair _ _ _, answer => !answer.isOk
  | .inScope _ c, answer => c.refused answer
  | _, _ => false

namespace Arena

variable {a b : Arena} {fault : Fault}

/-! ### One arena -/

/-- A refused change of bytes leaves the arena as it was. -/
theorem modify_error {h : Handle} {change : Bytes → Bytes}
    (refused : a.modify h change = (.error fault, b)) : b = a := by
  unfold modify at refused
  split at refused
  · simp only [Prod.mk.injEq] at refused
    exact refused.2.symm
  · simp at refused

/-- A refused change of two ranges leaves the arena as it was. -/
theorem modifyPair_error {h k : Handle} {change : Bytes → Bytes → Bytes × Bytes}
    (refused : a.modifyPair h k change = (.error fault, b)) : b = a := by
  unfold modifyPair at refused
  split at refused
  · simp only [Prod.mk.injEq] at refused
    exact refused.2.symm
  · simp at refused

/-- A refused unwinding leaves the arena as it was. -/
theorem unwindTo_refused {m : Mark} (refused : a.unwindTo m = (.error fault, b)) : b = a := by
  unfold unwindTo at refused
  split at refused
  · simp only [Prod.mk.injEq] at refused
    exact refused.2.symm
  · simp at refused

/-- The state after an operation whose refusals keep the state, where it was refused. -/
theorem eq_of_refused {α : Type} {done : Except Fault α × Arena}
    (keeps : ∀ {fault : Fault} {b : Arena}, done = (.error fault, b) → b = a)
    (refused : (!done.1.isOk) = true) : done.2 = a := by
  obtain ⟨answer, b⟩ := done
  cases answer with
  | error fault => exact keeps rfl
  | ok result => cases refused

/-- A refused call of a scope leaves the arena as it was. -/
theorem performScope_refused (s : Scope) (c : Scope.Call)
    (refused : c.refused (s.perform c a).1 = true) : (s.perform c a).2 = a := by
  cases c with
  | allocate size align =>
    simp only [Scope.perform, Scope.allocate] at refused ⊢
    split at refused
    · rename_i fault b done
      simpa only [done] using allocate_error done
    · cases refused
  | bytes slot => rfl
  | modify slot change =>
    simp only [Scope.perform, Scope.modify] at refused ⊢
    split at refused
    · rfl
    · exact eq_of_refused modify_error refused
  | modifyPair p q change =>
    simp only [Scope.perform, Scope.modifyPair] at refused ⊢
    split at refused
    · rfl
    · split at refused
      · rfl
      · exact eq_of_refused modifyPair_error refused
  | used => cases refused
  | leave => cases refused
  | finish =>
    have kept : (a.unwindTo s.mark).2 = a := eq_of_refused unwindTo_refused refused
    -- The second unwinding of the closing starts where the first one left off.
    show ((a.unwindTo s.mark).2.unwindTo s.mark).2 = a
    rw [kept, kept]

/-- **A refused call leaves the arena as it was.** -/
theorem perform_refused (a : Arena) (c : Arena.Call) (refused : c.refused (a.perform c).1 = true) :
    (a.perform c).2 = a := by
  cases c with
  | allocate size align => exact eq_of_refused allocate_error refused
  | release h => exact eq_of_refused release_error refused
  | unwindTo m => exact eq_of_refused unwindTo_refused refused
  | modify h change => exact eq_of_refused modify_error refused
  | modifyPair h k change => exact eq_of_refused modifyPair_error refused
  | inScope s c => exact performScope_refused s c refused
  | reset => cases refused
  | openScope => cases refused
  | id => rfl
  | pool => rfl
  | capacity => rfl
  | highWater => rfl
  | peak => rfl
  | mark => rfl
  | checkMark m => rfl
  | bytes h => rfl

/-- An unwinding succeeds where its mark checks. -/
theorem unwindTo_of_checkMark {m : Mark} (fits : a.checkMark m = .ok ()) :
    (a.unwindTo m).1 = .ok () ∧ (a.unwindTo m).2.highWater = m.height ∧
      (a.unwindTo m).2.top = m.top := by
  have done := unwindTo_ok_iff.mpr ⟨fits, rfl⟩
  rw [done]
  exact ⟨rfl, rfl, rfl⟩

end Arena

namespace Workspace

/-! ### An installed pair -/

variable {w v : Workspace} {fault : Arena.Fault}

/-- A refused call of one arena leaves both as they were. -/
theorem perform_refused (w : Workspace) (p : Pool) (c : Arena.Call)
    (refused : c.refused (w.perform p c).1 = true) : (w.perform p c).2 = w := by
  refine eq_of_arena fun q => ?_
  by_cases here : q = p
  · subst here
    rw [arena_perform_self]
    exact Arena.perform_refused _ c refused
  · exact arena_perform_of_ne w c here

theorem release_error {h : Handle} (refused : w.release h = (.error fault, v)) : v = w := by
  have answer : (w.perform h.pool (.release h)).1 = .error fault := congrArg Prod.fst refused
  have kept := w.perform_refused h.pool (.release h) (by rw [answer]; rfl)
  exact (congrArg Prod.snd refused).symm.trans kept

theorem modify_error {h : Handle} {change : Bytes → Bytes}
    (refused : w.modify h change = (.error fault, v)) : v = w := by
  have answer : (w.perform h.pool (.modify h change)).1 = .error fault :=
    congrArg Prod.fst refused
  have kept := w.perform_refused h.pool (.modify h change) (by rw [answer]; rfl)
  exact (congrArg Prod.snd refused).symm.trans kept

/-- Two ranges are changed together or not at all, also where they lie in different pools. -/
theorem modifyPair_error {h k : Handle} {change : Bytes → Bytes → Bytes × Bytes}
    (refused : w.modifyPair h k change = (.error fault, v)) : v = w := by
  unfold modifyPair at refused
  split at refused
  · have answer : (w.perform h.pool (.modifyPair h k change)).1 = .error fault :=
      congrArg Prod.fst refused
    have kept := w.perform_refused h.pool (.modifyPair h k change) (by rw [answer]; rfl)
    exact (congrArg Prod.snd refused).symm.trans kept
  · split at refused
    · simp only [Prod.mk.injEq] at refused
      exact refused.2.symm
    · split at refused
      · simp only [Prod.mk.injEq] at refused
        exact refused.2.symm
      · simp at refused

/-- A pair is installed exactly if each arena serves its pool, and then as it is. -/
theorem install_ok_iff {metadata ram : Arena} :
    install metadata ram = .ok w ↔
      metadata.pool = .metadata ∧ ram.pool = .ram ∧ w.arenas = ⟨metadata, ram⟩ := by
  unfold install
  split
  · rename_i first
    split
    · rename_i second
      constructor
      · intro done
        cases done
        exact ⟨first, second, rfl⟩
      · rintro ⟨-, -, same⟩
        cases w
        cases same
        rfl
    · rename_i second
      simp [second]
  · rename_i first
    simp [first]

/-- A pair that is refused leaves the installed one. -/
theorem replace_error {metadata ram : Arena}
    (refused : w.replace metadata ram = (.error fault, v)) : v = w := by
  unfold replace at refused
  split at refused
  · simp only [Prod.mk.injEq] at refused
    exact refused.2.symm
  · simp at refused

/-- A pair that is accepted is installed whole. -/
theorem replace_ok {metadata ram : Arena} (done : w.replace metadata ram = (.ok (), v)) :
    v.arena .metadata = metadata ∧ v.arena .ram = ram := by
  unfold replace at done
  split at done
  · simp at done
  · rename_i new installed
    simp only [Prod.mk.injEq, true_and] at done
    obtain ⟨-, -, same⟩ := install_ok_iff.mp (done ▸ installed)
    rw [arena, arena, same]
    exact ⟨rfl, rfl⟩

/-! ### Unwinding both arenas -/

/-- Both arenas can come back to their marks. -/
def Recalls (w : Workspace) (m : PerPool Mark) : Prop :=
  ∀ p, (w.arena p).checkMark (m.get p) = .ok ()

/-- Each arena stands where its mark was taken. -/
structure StandsAt (w : Workspace) (m : PerPool Mark) : Prop where
  highWater : ∀ p, (w.arena p).highWater = (m.get p).height
  top : ∀ p, (w.arena p).top = (m.get p).top

/-- Once both marks check, neither arena can refuse to unwind. -/
theorem unwindTo_of_recalls {m : PerPool Mark} (recalls : w.Recalls m) :
    ∃ v, w.unwindTo m = (.ok (), v) ∧ v.StandsAt m ∧
      ∀ p, v.arena p = ((w.arena p).unwindTo (m.get p)).2 := by
  have metadata : (w.arena .metadata).checkMark m.metadata = .ok () := recalls .metadata
  have ram : (w.arena .ram).checkMark m.ram = .ok () := recalls .ram
  -- The ram arena is still the one whose mark was checked when its turn comes.
  have untouched : (w.perform .metadata (.unwindTo m.metadata)).2.arena .ram = w.arena .ram :=
    arena_perform_of_ne w _ (by decide)
  have first : (w.perform .metadata (.unwindTo m.metadata)).1 = .ok () :=
    (Arena.unwindTo_of_checkMark metadata).1
  have second : ((w.perform .metadata (.unwindTo m.metadata)).2.perform .ram
      (.unwindTo m.ram)).1 = .ok () := by
    show (((w.perform .metadata (.unwindTo m.metadata)).2.arena .ram).unwindTo m.ram).1 = .ok ()
    rw [untouched]
    exact (Arena.unwindTo_of_checkMark ram).1
  have moved : ∀ p, ((w.perform .metadata (.unwindTo m.metadata)).2.perform .ram
      (.unwindTo m.ram)).2.arena p = ((w.arena p).unwindTo (m.get p)).2 := by
    intro p
    cases p with
    | metadata =>
      rw [arena_perform_of_ne _ _ (by decide), arena_perform_self]
      rfl
    | ram =>
      rw [arena_perform_self, untouched]
      rfl
  refine ⟨_, ?_, ⟨fun p => ?_, fun p => ?_⟩, moved⟩
  · simp only [unwindTo, metadata, ram]
    rw [← Prod.eta (w.perform .metadata (.unwindTo m.metadata)), first]
    exact Prod.ext second rfl
  · rw [moved]
    exact (Arena.unwindTo_of_checkMark (recalls p)).2.1
  · rw [moved]
    exact (Arena.unwindTo_of_checkMark (recalls p)).2.2

/-- Where one mark fails its check, neither arena moves. -/
theorem unwindTo_of_not_recalls {m : PerPool Mark} (refused : ¬ w.Recalls m) :
    ∃ p fault, (w.arena p).checkMark (m.get p) = .error fault ∧
      w.unwindTo m = (.error fault, w) := by
  cases metadata : (w.arena .metadata).checkMark m.metadata with
  | error fault => exact ⟨.metadata, fault, metadata, by simp only [unwindTo, metadata]⟩
  | ok =>
    cases ram : (w.arena .ram).checkMark m.ram with
    | error fault => exact ⟨.ram, fault, ram, by simp only [unwindTo, metadata, ram]⟩
    | ok =>
      refine absurd (fun p => ?_) refused
      cases p with
      | metadata => exact metadata
      | ram => exact ram

/-! ### Every operation -/

/-- What is refused by a pair of arenas changes nothing in it, and unwinding moves both arenas or
neither. -/
structure KeepsOnRefusal (w : Workspace) : Prop where
  perform : ∀ (p : Pool) (c : Arena.Call), c.refused (w.perform p c).1 = true →
    (w.perform p c).2 = w
  allocate : ∀ (p : Pool) (size align : Nat) (fault : Arena.Fault) (v : Workspace),
    w.allocate p size align = (.error fault, v) → v = w
  release : ∀ (h : Handle) (fault : Arena.Fault) (v : Workspace),
    w.release h = (.error fault, v) → v = w
  modify : ∀ (h : Handle) (change : Bytes → Bytes) (fault : Arena.Fault) (v : Workspace),
    w.modify h change = (.error fault, v) → v = w
  modifyPair : ∀ (h k : Handle) (change : Bytes → Bytes → Bytes × Bytes) (fault : Arena.Fault)
    (v : Workspace), w.modifyPair h k change = (.error fault, v) → v = w
  replace : ∀ (metadata ram : Arena) (fault : Arena.Fault) (v : Workspace),
    w.replace metadata ram = (.error fault, v) → v = w
  replaceBoth : ∀ (metadata ram : Arena) (v : Workspace),
    w.replace metadata ram = (.ok (), v) → v.arena .metadata = metadata ∧ v.arena .ram = ram
  unwindBoth : ∀ m : PerPool Mark, w.Recalls m → ∃ v, w.unwindTo m = (.ok (), v) ∧ v.StandsAt m ∧
    ∀ p, v.arena p = ((w.arena p).unwindTo (m.get p)).2
  unwindNeither : ∀ m : PerPool Mark, ¬ w.Recalls m → ∃ p fault,
    (w.arena p).checkMark (m.get p) = .error fault ∧ w.unwindTo m = (.error fault, w)

/-- **A refused operation changes nothing**, in any arena and in any installed pair. A pair is
unwound to any two marks, wherever they come from, in both arenas or in neither. -/
theorem refusal_changes_nothing :
    (∀ (a : Arena) (c : Arena.Call), c.refused (a.perform c).1 = true → (a.perform c).2 = a) ∧
      (∀ metadata ram : Arena, (∃ w, install metadata ram = .ok w) ↔
        metadata.pool = .metadata ∧ ram.pool = .ram) ∧
      ∀ w : Workspace, w.KeepsOnRefusal := by
  refine ⟨Arena.perform_refused, fun metadata ram => ?_, fun w => ?_⟩
  · constructor
    · rintro ⟨w, done⟩
      obtain ⟨first, second, -⟩ := install_ok_iff.mp done
      exact ⟨first, second⟩
    · rintro ⟨first, second⟩
      refine ⟨⟨⟨metadata, ram⟩, fun p => ?_⟩, install_ok_iff.mpr ⟨first, second, rfl⟩⟩
      cases p with
      | metadata => exact first
      | ram => exact second
  · constructor
    · exact w.perform_refused
    · exact fun p size align fault v refused => allocate_error refused
    · exact fun h fault v refused => release_error refused
    · exact fun h change fault v refused => modify_error refused
    · exact fun h k change fault v refused => modifyPair_error refused
    · exact fun metadata ram fault v refused => replace_error refused
    · exact fun metadata ram v done => replace_ok done
    · exact fun m recalls => unwindTo_of_recalls recalls
    · exact fun m refused => unwindTo_of_not_recalls refused

/-! Both arenas are marked, the metadata arena claims four bytes and the ram arena is reset. The
early marks are refused for the ram arena's sake; with the ram arena's present mark in the place
of its early one they are accepted. -/

namespace MixedMarks

def metadata : Arena := ⟨⟨1⟩, .metadata, Buffer.zeroed 8, 0, 0, 0, 0, .empty, .empty, 0⟩

def ram : Arena := ⟨⟨2⟩, .ram, Buffer.zeroed 8, 0, 0, 0, 0, .empty, .empty, 0⟩

def early : Workspace := ⟨⟨metadata, ram⟩, fun p => by cases p <;> rfl⟩

def late : Workspace := ((early.allocate .metadata 4 1).2.perform .ram .reset).2

def mixed : PerPool Mark := ⟨early.mark.metadata, late.mark.ram⟩

end MixedMarks

open MixedMarks in
/-- The early marks move neither arena, the mixed ones both. -/
theorem refusal_changes_nothing_mixed_marks : late.usage = ⟨4, 0⟩ ∧
    (∃ fault, late.unwindTo early.mark = (.error fault, late)) ∧
    ∃ v, late.unwindTo mixed = (.ok (), v) ∧ v.usage = ⟨0, 0⟩ := by
  have keeps := refusal_changes_nothing.2.2 late
  have stale : ¬ late.Recalls early.mark := by
    intro recalls
    exact absurd (recalls .ram) (by decide)
  have recalls : late.Recalls mixed := fun p => by cases p <;> decide
  obtain ⟨-, fault, -, refused⟩ := keeps.unwindNeither early.mark stale
  obtain ⟨v, done, stands, -⟩ := keeps.unwindBoth mixed recalls
  refine ⟨by decide, ⟨fault, refused⟩, v, done, ?_⟩
  ext p
  rw [usage, PerPool.get_map]
  exact (stands.highWater p).trans (by cases p <;> rfl)

end Workspace

end TensorArena
