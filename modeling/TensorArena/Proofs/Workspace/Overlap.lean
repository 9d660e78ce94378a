import TensorArena.Proofs.Arena.Content
import TensorArena.Proofs.Workspace.Fleet

/-!
When handles overlap.

Two handles of one arena overlap if each starts before the other stops. For ranges that hold
bytes this says that they share one. A range without bytes shares none with any other, yet it
overlaps every range in whose middle it lies: it starts after the first byte and before the end
(`Handle.StrictlyInside`). Live claims never lie like that, as a claim begins where those below
it have ended; but offsets are claimed again after a release, an unwinding or a reset, and the
handle of an earlier claim may span the place of an empty one
(`claims_overlap_iff`, `empty_claim_overlaps`).
-/

namespace TensorArena

namespace Handle

/-- The range has no byte and lies between two bytes of the other's. -/
structure StrictlyInside (h k : Handle) : Prop where
  empty : h.length = 0
  after : k.start < h.start
  before : h.start < k.stop

variable {h k : Handle}

/-- A range without a byte shares none. -/
theorem StrictlyInside.not_sharesByte (inside : h.StrictlyInside k) : ¬ h.SharesByte k := by
  rintro ⟨byte, mine, -⟩
  have empty := inside.empty
  unfold stop at mine
  omega

theorem SharesByte.symm (shared : h.SharesByte k) : k.SharesByte h := by
  obtain ⟨byte, mine, yours⟩ := shared
  exact ⟨byte, yours, mine⟩

/-- Handles of one arena overlap if they share a byte, and where an empty range lies strictly
inside another. -/
theorem overlaps_iff : h.overlaps k = true ↔
    h.arena = k.arena ∧ (h.SharesByte k ∨ h.StrictlyInside k ∨ k.StrictlyInside h) := by
  simp only [overlaps, Bool.and_eq_true, beq_iff_eq, decide_eq_true_eq, and_assoc]
  refine and_congr_right fun _ => ?_
  constructor
  · rintro ⟨left, right⟩
    -- The later of the two starts is the byte, if its range has one.
    rcases Nat.lt_or_ge h.start k.start with before | after
    · by_cases bytes : k.start < k.stop
      · exact .inl ⟨k.start, ⟨Nat.le_of_lt before, right⟩, Nat.le_refl _, bytes⟩
      · have empty : k.length = 0 := by
          unfold stop at bytes
          omega
        exact .inr (.inr ⟨empty, before, right⟩)
    · by_cases bytes : h.start < h.stop
      · exact .inl ⟨h.start, ⟨Nat.le_refl _, bytes⟩, after, left⟩
      · have empty : h.length = 0 := by
          unfold stop at bytes
          omega
        have between : k.start < h.start := by omega
        exact .inr (.inl ⟨empty, between, left⟩)
  · rintro (⟨byte, mine, yours⟩ | inside | inside)
    · omega
    · exact ⟨inside.before, Nat.lt_of_lt_of_le inside.after (Nat.le_add_right _ _)⟩
    · exact ⟨Nat.lt_of_lt_of_le inside.after (Nat.le_add_right _ _), inside.before⟩

end Handle

/-! ### Claims of a run -/

namespace Arena

/-- The claims that an exchange made: the handle that the caller was given, or the one that a
scope keeps for its caller. -/
def Exchange.claims : Exchange → List Handle
  | ⟨.allocate _ _, .ok h⟩ => [h]
  | ⟨.inScope s (.allocate _ _), (_, grown)⟩ => grown.handles.drop s.handles.length
  | _ => []

variable {a : Arena} {h : Handle}

/-- An arena puts its number into what it claims, within scopes and outside of them. -/
theorem arena_of_claims {c : Arena.Call} (claimed : h ∈ Exchange.claims ⟨c, (a.perform c).1⟩) :
    h.arena = a.id := by
  cases c with
  | allocate size align =>
    cases done : a.allocate size align with
    | mk answer b =>
      simp only [perform, done] at claimed
      cases answer with
      | error fault => cases claimed
      | ok k =>
        obtain ⟨-, -, rfl, -⟩ := allocate_ok done
        rw [List.mem_singleton.mp claimed]
  | inScope s c =>
    cases c with
    | allocate size align =>
      cases done : a.allocate size align with
      | mk answer b =>
        simp only [perform, Scope.perform, Scope.allocate, done] at claimed
        cases answer with
        | error fault =>
          simp only [Exchange.claims, List.drop_length] at claimed
          cases claimed
        | ok k =>
          simp only [Exchange.claims, List.drop_left] at claimed
          obtain ⟨-, -, rfl, -⟩ := allocate_ok done
          rw [List.mem_singleton.mp claimed]
    | _ => cases claimed
  | _ => cases claimed

end Arena

namespace Fleet

section Claims

variable {ι κ : Type} [DecidableEq ι] [DecidableEq κ] {f : Fleet ι κ} {ops : List (Op ι κ)}
  {i j : ι} {h k : Handle}

/-- The claims that an arena made in a run, whatever has become of them since. -/
def claims (f : Fleet ι κ) (ops : List (Op ι κ)) (i : ι) : List Handle :=
  (f.share ops i).flatMap Arena.Exchange.claims

/-- What an arena claimed carries its number. -/
theorem arena_of_mem_claims (mem : h ∈ f.claims ops i) : h.arena = (f.arena i).id := by
  obtain ⟨e, spoken, claimed⟩ := List.mem_flatMap.mp mem
  obtain ⟨a, c, id, rfl⟩ := exists_of_mem_share spoken
  exact (Arena.arena_of_claims claimed).trans id

/-- **Two claims overlap** if and only if one arena made both and they share a byte, or one of
them is empty and lies strictly inside the other. So overlapping means sharing a byte of one
arena exactly for the pairs of which neither lies so. -/
theorem claims_overlap_iff (distinct : Function.Injective fun i => (f.arena i).id)
    (first : h ∈ f.claims ops i) (second : k ∈ f.claims ops j) :
    (h.overlaps k = true ↔
      i = j ∧ (h.SharesByte k ∨ h.StrictlyInside k ∨ k.StrictlyInside h)) ∧
    ((h.overlaps k = true ↔ i = j ∧ h.SharesByte k) ↔
      ¬ (i = j ∧ (h.StrictlyInside k ∨ k.StrictlyInside h))) := by
  have same : h.arena = k.arena ↔ i = j := by
    rw [arena_of_mem_claims first, arena_of_mem_claims second]
    exact distinct.eq_iff
  have exact : h.overlaps k = true ↔
      i = j ∧ (h.SharesByte k ∨ h.StrictlyInside k ∨ k.StrictlyInside h) := by
    rw [Handle.overlaps_iff, same]
  refine ⟨exact, ?_⟩
  rw [exact]
  constructor
  · rintro sound ⟨own, inside⟩
    have shared := (sound.mp ⟨own, .inr inside⟩).2
    rcases inside with inside | inside
    · exact inside.not_sharesByte shared
    · exact inside.not_sharesByte shared.symm
  · intro neither
    constructor
    · rintro ⟨own, shared | inside⟩
      · exact ⟨own, shared⟩
      · exact absurd ⟨own, inside⟩ neither
    · rintro ⟨own, shared⟩
      exact ⟨own, .inl shared⟩

end Claims

/-! Eight bytes are claimed and given back by a reset; then four bytes are claimed, and none above
them. -/

namespace Respanned

def fleet : Fleet Unit Empty where
  arena _ := .zeroed ⟨1⟩ .ram 16
  installed := Empty.rec
  serves k := k.rec

def ops : List (Op Unit Empty) :=
  [.direct () (.allocate 8 1), .direct () .reset, .direct () (.allocate 4 1),
    .direct () (.allocate 0 1)]

def earlier : Handle := ⟨⟨1⟩, .ram, 0, 8, ⟨0, 0⟩, .empty⟩

def empty : Handle := ⟨⟨1⟩, .ram, 4, 0, ⟨1, 2⟩, ⟨some 1, 4⟩⟩

theorem distinct : Function.Injective fun i => (fleet.arena i).id := fun _ _ _ => rfl

theorem earlier_mem : earlier ∈ fleet.claims ops () := by decide

theorem empty_mem : empty ∈ fleet.claims ops () := by decide

theorem inside : empty.StrictlyInside earlier := ⟨rfl, by decide, by decide⟩

end Respanned

open Respanned in
/-- The empty claim lies at the fifth byte of the eight that were given back, and overlaps them. -/
theorem claims_overlap_iff_respanned :
    earlier ∈ fleet.claims ops () ∧ empty ∈ fleet.claims ops () ∧
      earlier.overlaps empty = true ∧
      ¬ (earlier.overlaps empty = true ↔ () = () ∧ earlier.SharesByte empty) := by
  obtain ⟨exact, shares⟩ := claims_overlap_iff distinct earlier_mem empty_mem
  refine ⟨earlier_mem, empty_mem, exact.mpr ⟨rfl, .inr (.inr inside)⟩, ?_⟩
  rw [shares, not_not]
  exact ⟨rfl, .inr inside⟩

open Respanned in
/-- A claim without bytes overlaps one with which it shares none. -/
theorem empty_claim_overlaps :
    earlier ∈ fleet.claims ops () ∧ empty ∈ fleet.claims ops () ∧ empty.length = 0 ∧
      earlier.overlaps empty = true ∧ ¬ earlier.SharesByte empty := by
  refine ⟨earlier_mem, empty_mem, rfl, by decide, ?_⟩
  exact fun shared => inside.not_sharesByte shared.symm

end Fleet

end TensorArena
