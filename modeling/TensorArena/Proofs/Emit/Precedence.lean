import TensorArena.Proofs.Emit.Render

/-!
Which of several refusals is reported.

Checks that are made in order are refused with the fault of the first that fails. An answer
that is put together from others in order has the fault of the first of them that is one
(`fault?_bind`, `fault?_mapM`), so what a sequence of operations reports can be read off the
list of their checks (`findSome?_eq_some_iff`).
-/

namespace TensorArena.Emit

variable {ε φ α β γ : Type}

/-- The fault of an answer that is one. -/
def fault? : Except ε α → Option ε
  | .error fault => some fault
  | .ok _ => none

/-- The check fails, and all before it pass. -/
def FirstFailing (passes : α → Prop) (checks : List α) (c : α) : Prop :=
  ∃ passed rest, checks = passed ++ c :: rest ∧ (∀ d ∈ passed, passes d) ∧ ¬ passes c

section Answers

variable {x : Except ε α} {fault : ε}

theorem fault?_eq_none_iff : fault? x = none ↔ ∃ a, x = .ok a := by
  cases x with
  | error fault => simp [fault?]
  | ok a => simp [fault?]

theorem fault?_eq_some_iff : fault? x = some fault ↔ x = .error fault := by
  cases x with
  | error other => simp [fault?]
  | ok a => simp [fault?]

theorem fault?_mapError (f : ε → φ) : fault? (x.mapError f) = (fault? x).map f := by
  cases x <;> rfl

/-- What comes later is reported only if what comes first is accepted. -/
theorem fault?_bind {next : α → Except ε β} (later : Option ε)
    (rest : ∀ a, x = .ok a → fault? (next a) = later) :
    fault? (x >>= next) = (fault? x).or later := by
  cases x with
  | error fault => rfl
  | ok a => exact rest a rfl

/-- The first fault among answers in order is that of all of them together. -/
theorem fault?_mapM (f : α → Except ε β) (xs : List α) :
    fault? (xs.mapM f) = xs.findSome? fun x => fault? (f x) := by
  induction xs with
  | nil => rfl
  | cons x rest ih =>
    rw [List.mapM_cons, fault?_bind (rest.findSome? fun x => fault? (f x)),
      List.findSome?_cons]
    · cases fault? (f x) <;> rfl
    · intro y _
      rw [fault?_bind none, ih, Option.or_none]
      exact fun _ _ => rfl

end Answers

/-- The first refusal among checks is that of the first check that fails. -/
theorem findSome?_eq_some_iff {refusal? : α → Option ε} {passes : α → Prop}
    {reports : α → ε → Prop} (accepts : ∀ c, refusal? c = none ↔ passes c)
    (refuses : ∀ c fault, refusal? c = some fault ↔ ¬ passes c ∧ reports c fault)
    {checks : List α} {fault : ε} : checks.findSome? refusal? = some fault ↔
      ∃ c, FirstFailing passes checks c ∧ reports c fault := by
  rw [List.findSome?_eq_some_iff]
  constructor
  · rintro ⟨passed, c, rest, parts, refused, before⟩
    obtain ⟨fails, reported⟩ := (refuses c fault).mp refused
    exact ⟨c, ⟨passed, rest, parts, fun d mem => (accepts d).mp (before d mem), fails⟩, reported⟩
  · rintro ⟨c, ⟨passed, rest, parts, before, fails⟩, reported⟩
    exact ⟨passed, c, rest, parts, (refuses c fault).mpr ⟨fails, reported⟩,
      fun d mem => (accepts d).mpr (before d mem)⟩

/-- Nothing is refused if and only if every check passes. -/
theorem findSome?_eq_none_iff {refusal? : α → Option ε} {passes : α → Prop}
    (accepts : ∀ c, refusal? c = none ↔ passes c) {checks : List α} :
    checks.findSome? refusal? = none ↔ ∀ c ∈ checks, passes c := by
  rw [List.findSome?_eq_none_iff]
  exact forall₂_congr fun c _ => accepts c

end TensorArena.Emit
