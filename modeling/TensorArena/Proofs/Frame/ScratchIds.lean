import TensorArena.Proofs.Frame.ArenaCalls

/-!
What a scratch id names after its scratch was released.

An id is a position on the scratch stack, so after any calls it names whatever stands there:
the claim that stood there before, or one that was granted on the way, as long as no release came
in between (`Frame.lookupScratch_after`). An id whose claim was released is therefore refused only
until a later claim reaches its position. From then on it reads and writes the bytes of that
claim, which is never the one that the id was answered for.
-/

namespace TensorArena.Frame

variable {f g : Frame} {c : Frame.Call} {calls later : List Frame.Call} {id : ScratchId}
  {h old : Handle}

/-! ### Claims and their ids -/

/-- The call claims scratch: it is answered with the id, and the arena grants it the handle. -/
inductive Grants (f : Frame) : Frame.Call → ScratchId → Handle → Prop where
  | claim {pool : Pool} {size align : Nat} {id : ScratchId} {h : Handle} :
      (f.claimScratch pool size align).1 = .ok id →
      (f.workspace.allocate pool size align).1 = .ok h →
      Grants f (.claimScratch pool size align) id h

/-- One of the calls is granted the id and the handle, and none after it releases scratch. -/
inductive Issues : Frame → List Frame.Call → ScratchId → Handle → Prop where
  | now {f : Frame} {c : Frame.Call} {rest : List Frame.Call} {id : ScratchId} {h : Handle} :
      f.Grants c id h → .releaseScratch ∉ rest → Issues f (c :: rest) id h
  | later {f : Frame} {c : Frame.Call} {rest : List Frame.Call} {id : ScratchId} {h : Handle} :
      Issues (f.perform c).2 rest id h → Issues f (c :: rest) id h

theorem issues_cons_iff : Issues f (c :: later) id h ↔
    (f.Grants c id h ∧ .releaseScratch ∉ later) ∨ Issues (f.perform c).2 later id h := by
  constructor
  · intro issues
    cases issues with
    | now grants kept => exact .inl ⟨grants, kept⟩
    | later issues => exact .inr issues
  · rintro (⟨grants, kept⟩ | issues)
    · exact .now grants kept
    · exact .later issues

/-- A claim is put on top of the stack under the position that it takes, or refused. -/
theorem claimScratch_cases (f : Frame) (pool : Pool) (size align : Nat) :
    (∃ fault, (f.claimScratch pool size align).1 = .error fault ∧
      (f.claimScratch pool size align).2.scratch = f.scratch) ∨
    ∃ h, (f.workspace.allocate pool size align).1 = .ok h ∧
      (f.claimScratch pool size align).1 = .ok ⟨f.scratch.length⟩ ∧
      (f.claimScratch pool size align).2.scratch =
        ⟨(f.workspace.arena pool).mark, h⟩ :: f.scratch := by
  unfold claimScratch
  rcases f.workspace.allocate pool size align with ⟨fault | h, v⟩
  · exact .inl ⟨_, rfl, rfl⟩
  · exact .inr ⟨h, rfl, rfl, rfl⟩

/-- A claim that succeeds is granted the position on top of the stack, and the handle that the
arena gave. -/
theorem grants_iff_of_claimed {pool : Pool} {size align : Nat} {given : Handle}
    (answer : (f.claimScratch pool size align).1 = .ok ⟨f.scratch.length⟩)
    (granted : (f.workspace.allocate pool size align).1 = .ok given) :
    f.Grants (.claimScratch pool size align) id h ↔ id.index = f.scratch.length ∧ given = h := by
  constructor
  · rintro ⟨told, here⟩
    rw [answer, Except.ok.injEq] at told
    rw [granted, Except.ok.injEq] at here
    exact ⟨told ▸ rfl, here⟩
  · rintro ⟨position, rfl⟩
    exact .claim (answer.trans (by rw [← position])) granted

/-- The stack is moved by claiming and by releasing scratch only. -/
theorem scratch_perform (f : Frame) (c : Frame.Call) (claims : c.claimsScratch = false)
    (kept : c ≠ .releaseScratch) : (f.perform c).2.scratch = f.scratch := by
  cases c with
  | claimScratch => cases claims
  | releaseScratch => exact absurd rfl kept
  | bind name pool size align =>
    simp only [perform, bind]
    split
    · rfl
    · split <;> rfl
  | bindTensor name d =>
    simp only [perform, bindTensor]
    split
    · rfl
    · split
      · rfl
      · split
        · rfl
        · split
          · split <;> rfl
          · rename_i payload _ _ _ record u _
            have same := (quiet_writeRecord { f with workspace := u }
              { d with offset := payload.offset } record).scratch
            split <;> rename_i written <;> rw [written] at same <;> exact same
  | onArena pool c => rfl
  | _ => exact (quiet_perform f _ rfl rfl).scratch

/-! ### Positions on the stack -/

theorem lookupScratch_ok_iff :
    f.lookupScratch id = .ok h ↔ (f.scratch.reverse[id.index]?).map (·.handle) = some h := by
  unfold lookupScratch
  cases f.scratch.reverse[id.index]? <;> simp

theorem lookupScratch_error_iff :
    f.lookupScratch id = .error (.unknownScratch id.index) ↔ f.scratch.length ≤ id.index := by
  unfold lookupScratch
  rw [← List.length_reverse, ← List.getElem?_eq_none_iff]
  cases f.scratch.reverse[id.index]? <;> simp

/-- An id is refused exactly if no claim stands at its position. -/
theorem lookupScratch_error_iff_forall :
    f.lookupScratch id = .error (.unknownScratch id.index) ↔ ∀ h, f.lookupScratch id ≠ .ok h := by
  unfold lookupScratch
  cases f.scratch.reverse[id.index]? <;> simp

/-- A claim on top of the stack stands at the first position that the stack did not reach. -/
theorem lookupScratch_push {e : ScratchEntry} (pushed : g.scratch = e :: f.scratch) :
    g.lookupScratch id = .ok h ↔
      f.lookupScratch id = .ok h ∨ id.index = f.scratch.length ∧ e.handle = h := by
  rw [lookupScratch_ok_iff, lookupScratch_ok_iff, pushed, List.reverse_cons]
  rcases Nat.lt_trichotomy id.index f.scratch.length with below | top | above
  · have other : id.index ≠ f.scratch.length := Nat.ne_of_lt below
    rw [List.getElem?_append_left (by simpa using below)]
    simp [other]
  · rw [top, List.getElem?_append_right (by simp)]
    simp
  · have other : id.index ≠ f.scratch.length := Nat.ne_of_gt above
    rw [List.getElem?_eq_none (by simpa using Nat.succ_le_of_lt above),
      List.getElem?_eq_none (by simpa using Nat.le_of_lt above)]
    simp [other]

/-- **One call** leaves the claim at a position unless it releases scratch, and puts one there
if it is granted the position. -/
theorem lookupScratch_perform (f : Frame) (c : Frame.Call) (id : ScratchId) (h : Handle) :
    (f.perform c).2.lookupScratch id = .ok h ↔
      (c ≠ .releaseScratch ∧ f.lookupScratch id = .ok h) ∨ f.Grants c id h := by
  cases claims : c.claimsScratch with
  | false =>
    have none : ¬ f.Grants c id h := by
      rintro ⟨⟩
      cases claims
    by_cases released : c = .releaseScratch
    · subst released
      simp [lookupScratch_ok_iff, perform, releaseScratch_snd, none]
    · simp [lookupScratch_ok_iff, scratch_perform f c claims released, released, none]
  | true =>
    cases c <;> simp only [Call.claimsScratch, reduceCtorEq] at claims
    rename_i pool size align
    rcases f.claimScratch_cases pool size align with
      ⟨fault, refused, same⟩ | ⟨k, granted, answer, stack⟩
    · have none : ¬ f.Grants (.claimScratch pool size align) id h := by
        rintro ⟨answer, -⟩
        rw [refused] at answer
        cases answer
      simp [lookupScratch_ok_iff, perform, same, none]
    · have pushed : (f.perform (.claimScratch pool size align)).2.scratch =
          ⟨(f.workspace.arena pool).mark, k⟩ :: f.scratch := stack
      rw [lookupScratch_push pushed, grants_iff_of_claimed answer granted]
      simp

/-- **Calls in order** leave at a position the claim that stood there, if none of them releases
scratch, or one that they were granted for it. -/
theorem lookupScratch_after (f : Frame) (calls : List Frame.Call) (id : ScratchId) (h : Handle) :
    (f.after calls).lookupScratch id = .ok h ↔
      (.releaseScratch ∉ calls ∧ f.lookupScratch id = .ok h) ∨ Issues f calls id h := by
  induction calls generalizing f with
  | nil => simp [after, show ¬ Issues f [] id h from nofun]
  | cons c rest ih =>
    rw [after, ih, lookupScratch_perform, issues_cons_iff, List.mem_cons, not_or, eq_comm]
    tauto

/-! ### Numbers of claims -/

/-- A granted handle has the number that the clock of its arena shows. -/
theorem Grants.clock (grants : f.Grants c id h) :
    h.stamp.seq = (f.workspace.arena h.pool).clock ∧
      h.stamp.seq < ((f.perform c).2.workspace.arena h.pool).clock := by
  obtain ⟨-, granted⟩ := grants
  rename_i pool size align
  have claimed : f.workspace.allocate pool size align =
      (.ok h, (f.workspace.allocate pool size align).2) := Prod.ext granted rfl
  obtain ⟨done, -, -⟩ := Workspace.allocate_ok claimed
  have after := (f.rewrites_arenaCalls (.claimScratch pool size align)).clock pool
  obtain ⟨-, -, same, arena⟩ := Arena.allocate_ok done
  have here : h.pool = pool := by
    rw [same]
    exact f.workspace.pool_arena pool
  have ticked : (f.workspace.performAll [(pool, .allocate size align)]).arena pool =
      (f.workspace.allocate pool size align).2.arena pool := rfl
  rw [here, after, arenaCalls, ticked, arena, same]
  exact ⟨rfl, Nat.lt_succ_self _⟩

/-- What calls issue has a number that the clock had not passed before them. -/
theorem Issues.clock_le (issues : Issues f calls id h) :
    (f.workspace.arena h.pool).clock ≤ h.stamp.seq := by
  induction issues with
  | now grants => exact Nat.le_of_eq grants.clock.1.symm
  | @later f c _ _ h _ ih => exact Nat.le_trans (f.clock_after [c] h.pool) ih

/-- What is issued later is not what was granted before. -/
theorem Issues.ne (issues : Issues (f.after (c :: calls)) later id h) {other : ScratchId}
    (granted : f.Grants c other old) : h ≠ old := by
  rintro rfl
  have passed := granted.clock.2
  have since := (f.perform c).2.clock_after calls h.pool
  exact absurd issues.clock_le (Nat.not_le.mpr (Nat.lt_of_lt_of_le passed since))

/-! ### Operations that take an id -/

/-- Every operation refuses the id and changes nothing. -/
structure RefusesId (f : Frame) (id : ScratchId) : Prop where
  scratchBytes : f.scratchBytes id = .error (.unknownScratch id.index)
  modifyScratch : ∀ change,
    f.modifyScratch id change = (.error (.unknownScratch id.index), f)
  modifyPair : ∀ q change,
    f.modifyPair (.scratch id) q change = (.error (.unknownScratch id.index), f)
  modifyPair_second : ∀ r k change, f.resolve r = .ok k →
    f.modifyPair r (.scratch id) change = (.error (.unknownScratch id.index), f)

/-- Every operation takes the id for the handle. -/
structure ReachesId (f : Frame) (id : ScratchId) (h : Handle) : Prop where
  scratchBytes : f.scratchBytes id = (f.workspace.bytes h).mapError .arena
  modifyScratch : ∀ change, f.modifyScratch id change = f.modifyHandle h change
  modifyPair : ∀ q k change, f.resolve q = .ok k →
    f.modifyPair (.scratch id) q change =
      ((f.workspace.modifyPair h k change).1.mapError .arena,
        { f with workspace := (f.workspace.modifyPair h k change).2 })
  modifyPair_second : ∀ r k change, f.resolve r = .ok k →
    f.modifyPair r (.scratch id) change =
      ((f.workspace.modifyPair k h change).1.mapError .arena,
        { f with workspace := (f.workspace.modifyPair k h change).2 })

theorem refuses_iff :
    f.RefusesId id ↔ f.lookupScratch id = .error (.unknownScratch id.index) := by
  constructor
  · intro refuses
    have answer := refuses.modifyScratch fun bytes => bytes
    rw [lookupScratch_error_iff_forall]
    intro h found
    have bytes := refuses.scratchBytes
    simp only [Frame.scratchBytes, found] at bytes
    cases read : f.workspace.bytes h <;> rw [read] at bytes <;> cases bytes
  · intro unknown
    have resolved : f.resolve (.scratch id) = .error (.unknownScratch id.index) := unknown
    constructor
    · simp only [Frame.scratchBytes, unknown]
    · intro change
      simp only [Frame.modifyScratch, unknown]
    · intro q change
      simp only [Frame.modifyPair, resolved]
    · intro r k change first
      simp only [Frame.modifyPair, first, resolved]

theorem reaches_of_lookupScratch (found : f.lookupScratch id = .ok h) : f.ReachesId id h := by
  have resolved : f.resolve (.scratch id) = .ok h := found
  constructor
  · simp only [Frame.scratchBytes, found]
  · intro change
    simp only [Frame.modifyScratch, found]
  · intro q k change second
    simp only [Frame.modifyPair, resolved, second]
  · intro r k change first
    simp only [Frame.modifyPair, first, resolved]

/-- **A released id is refused until its position is claimed again.** A claim of scratch is
granted and, after any calls, released. After any further calls its id is refused exactly if the
stack does not reach its position, that is if none of these calls was granted the id and kept its
scratch. If one was, then every operation takes the id for that claim, which is another one. -/
theorem released_id_refused_iff (granted : f.Grants c id old) {before : List Frame.Call}
    (released : f.after (c :: (before ++ [.releaseScratch])) = g) (later : List Frame.Call) :
    ((g.after later).RefusesId id ↔ (g.after later).scratch.length ≤ id.index) ∧
      ((g.after later).RefusesId id ↔ ∀ h, ¬ Issues g later id h) ∧
      ∀ h, Issues g later id h → (g.after later).ReachesId id h ∧ h ≠ old := by
  have empty : g.scratch = [] := by
    rw [← released, ← List.cons_append, after_append]
    simp only [after, perform, releaseScratch_snd]
  have gone : ∀ h, g.lookupScratch id ≠ .ok h := by
    simp [lookupScratch_ok_iff, empty]
  have found : ∀ h, (g.after later).lookupScratch id = .ok h ↔ Issues g later id h := by
    intro h
    simp [lookupScratch_after, gone]
  refine ⟨refuses_iff.trans lookupScratch_error_iff, ?_, fun h issues => ⟨?_, ?_⟩⟩
  · rw [refuses_iff, lookupScratch_error_iff_forall]
    simp only [ne_eq, found]
  · exact reaches_of_lookupScratch ((found h).mpr issues)
  · subst released
    exact issues.ne granted

/-! Four bytes of scratch are written and released, and four bytes are claimed again. -/

namespace Refilled

def begin : Frame := start (.zeroed 64 64) .empty .empty

def claim : Frame.Call := .claimScratch .ram 4 1

def fill : Frame.Call := .modifyScratch ⟨0⟩ fun _ => [7, 7, 7, 7]

def first : Handle := ⟨⟨2⟩, .ram, 0, 4, ⟨0, 0⟩, .empty⟩

/-- The same bytes under a later number. -/
def second : Handle := { first with stamp := ⟨0, 3⟩ }

/-- The scratch was released. -/
def idle : Frame := begin.after [claim, fill, .releaseScratch]

end Refilled

open Refilled in
/-- The id of the first claim is refused before the second claim, and reaches it afterwards. -/
theorem released_id_refused_iff_refilled :
    begin.Grants claim ⟨0⟩ first ∧ idle.RefusesId ⟨0⟩ ∧ Issues idle [claim] ⟨0⟩ second ∧
      ¬ (idle.after [claim]).RefusesId ⟨0⟩ ∧ (idle.after [claim]).ReachesId ⟨0⟩ second ∧
      second ≠ first := by
  have granted : begin.Grants claim ⟨0⟩ first := .claim (by decide) (by decide)
  have issues : Issues idle [claim] ⟨0⟩ second :=
    .now (.claim (by decide +kernel) (by decide +kernel)) List.not_mem_nil
  have released : begin.after (claim :: ([fill] ++ [.releaseScratch])) = idle := rfl
  obtain ⟨height, -, -⟩ := released_id_refused_iff granted released []
  obtain ⟨-, refused, reached⟩ := released_id_refused_iff granted released [claim]
  refine ⟨granted, height.mpr (by decide +kernel), issues, ?_, reached second issues⟩
  exact fun refuses => refused.mp refuses second issues

open Refilled in
/-- The first claim is released, and its id reads and writes the second one. -/
theorem released_id_reads_again :
    (begin.claimScratch .ram 4 1).1 = .ok ⟨0⟩ ∧
      idle.scratchBytes ⟨0⟩ = .error (.unknownScratch 0) ∧
      (idle.after [claim]).lookupScratch ⟨0⟩ = .ok second ∧
      (idle.after [claim]).scratchBytes ⟨0⟩ = .ok [7, 7, 7, 7] ∧
      (idle.after [claim, .modifyScratch ⟨0⟩ fun _ => [1, 2, 3, 4]]).scratchBytes ⟨0⟩ =
        .ok [1, 2, 3, 4] := by
  decide +kernel

end TensorArena.Frame
