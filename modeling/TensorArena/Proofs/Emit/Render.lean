import Mathlib.Data.List.Forall2
import TensorArena.Emit.CompilationUnit
import TensorArena.Emit.OperatorCall

/-!
What it takes to emit a unit.

A unit is emitted if and only if all its checks pass and every fragment has its texts. The
text is then put together from them.
-/

namespace TensorArena.Emit

section Answers

variable {ε α β : Type} {x : Except ε α} {next : α → Except ε β}

theorem bind_ok_iff {b : β} : x >>= next = .ok b ↔ ∃ a, x = .ok a ∧ next a = .ok b := by
  cases x with
  | error fault => simp [bind, Except.bind]
  | ok a => simp [bind, Except.bind]

theorem check_bind_ok_iff {x : Except ε Unit} {next : Unit → Except ε β} {b : β} :
    x >>= next = .ok b ↔ x = .ok () ∧ next () = .ok b := by
  rw [bind_ok_iff]
  exact ⟨fun ⟨(), checked, rest⟩ => ⟨checked, rest⟩, fun ⟨checked, rest⟩ => ⟨(), checked, rest⟩⟩

theorem mapM_ok_iff {f : α → Except ε β} {xs : List α} {ys : List β} :
    xs.mapM f = .ok ys ↔ List.Forall₂ (fun x y => f x = .ok y) xs ys := by
  induction xs generalizing ys with
  | nil =>
    rw [List.mapM_nil, List.forall₂_nil_left_iff]
    exact ⟨fun same => (Except.ok.inj same).symm, fun none => none ▸ rfl⟩
  | cons x rest ih =>
    simp only [List.mapM_cons, bind_ok_iff, ih]
    constructor
    · rintro ⟨y, first, zs, others, same⟩
      cases same
      exact .cons first others
    · intro all
      cases all with
      | cons first others => exact ⟨_, first, _, others, rfl⟩

end Answers

/-! ### Identifiers -/

/-- An ASCII letter or an underscore. -/
def IsLetter (c : Char) : Prop := 'A' ≤ c ∧ c ≤ 'Z' ∨ 'a' ≤ c ∧ c ≤ 'z' ∨ c = '_'

/-- An ASCII digit. -/
def IsDigit (c : Char) : Prop := '0' ≤ c ∧ c ≤ '9'

/-- A letter, then letters and digits. -/
def IsIdentifier (name : String) : Prop :=
  ∃ first rest, name.toList = first :: rest ∧ IsLetter first ∧ ∀ c ∈ rest, IsLetter c ∨ IsDigit c

theorem isIdentifierHead_iff {c : Char} : isIdentifierHead c = true ↔ IsLetter c := by
  have upper : c.isUpper = true ↔ 'A' ≤ c ∧ c ≤ 'Z' := decide_eq_true_iff
  have lower : c.isLower = true ↔ 'a' ≤ c ∧ c ≤ 'z' := by
    rw [← decide_eq_true_iff (p := 'a' ≤ c), ← decide_eq_true_iff (p := c ≤ 'z'),
      ← Bool.and_eq_true]
    rfl
  have alpha : c.isAlpha = true ↔ c.isUpper = true ∨ c.isLower = true := by
    rw [← Bool.or_eq_true]
    rfl
  rw [isIdentifierHead, Bool.or_eq_true, beq_iff_eq, alpha, upper, lower, or_assoc]
  rfl

theorem isIdentifierTail_iff {c : Char} : isIdentifierTail c = true ↔ IsLetter c ∨ IsDigit c := by
  have digit : c.isDigit = true ↔ IsDigit c := by
    rw [IsDigit, ← decide_eq_true_iff (p := '0' ≤ c), ← decide_eq_true_iff (p := c ≤ '9'),
      ← Bool.and_eq_true]
    rfl
  rw [← isIdentifierHead_iff, ← digit]
  simp only [isIdentifierTail, isIdentifierHead, Char.isAlphanum, Bool.or_eq_true]
  tauto

theorem isIdentifier_iff {name : String} : isIdentifier name = true ↔ IsIdentifier name := by
  unfold isIdentifier IsIdentifier
  cases name.toList with
  | nil => simp
  | cons first rest =>
    simp [isIdentifierHead_iff, isIdentifierTail_iff]

theorem all_tail_of_isIdentifier {name : String} (identifier : isIdentifier name = true) :
    name.toList.all isIdentifierTail = true := by
  unfold isIdentifier at identifier
  split at identifier
  · cases identifier
  · rename_i c rest chars
    rw [Bool.and_eq_true] at identifier
    have head : isIdentifierTail c = true := by
      have := identifier.1
      simp only [isIdentifierHead, isIdentifierTail, Char.isAlphanum, Bool.or_eq_true] at this ⊢
      tauto
    rw [chars, List.all_cons, head, identifier.2]
    rfl

/-- An identifier holds no character with which none goes on. -/
theorem notMem_of_isIdentifier {name : String} {c : Char} (identifier : isIdentifier name = true)
    (other : isIdentifierTail c = false) : c ∉ name.toList := by
  intro mem
  have tail := List.all_eq_true.mp (all_tail_of_isIdentifier identifier) c mem
  rw [other] at tail
  cases tail

/-! ### Checks -/

@[simp] theorem checkIdentifier_ok_iff {name : String} :
    checkIdentifier name = .ok () ↔ isIdentifier name = true := by
  unfold checkIdentifier
  split <;> simp_all

theorem checkIdentifiers_ok_iff {names : List String} :
    checkIdentifiers names = .ok () ↔ ∀ name ∈ names, isIdentifier name = true := by
  induction names with
  | nil => simp [checkIdentifiers]
  | cons name rest ih =>
    rw [checkIdentifiers, List.forall_mem_cons, ← ih, ← checkIdentifier_ok_iff]
    cases checkIdentifier name <;> simp

/-! ### Calls -/

namespace OperatorCall

variable {call : OperatorCall} {pools : PoolNames}

theorem parameterLine_eq (entry : String × String) : call.parameterLine entry =
    call.var ++ "_params." ++ entry.1 ++ " = " ++ entry.2 ++ ";\n" := by
  have dot : "_params." = "_params" ++ "." := rfl
  rw [dot, ← String.append_assoc]
  rfl

theorem render_ok_iff {text : String} : call.fragment.render pools = .ok text ↔
    (∀ name ∈ call.names, isIdentifier name = true) ∧ call.text = text := by
  rw [← checkIdentifiers_ok_iff]
  simp only [fragment]
  cases checkIdentifiers call.names <;> simp

theorem declaration_ok_iff {text : Option String} : call.fragment.declaration pools = .ok text ↔
    isIdentifier call.var = true ∧ some call.definition = text := by
  rw [← checkIdentifier_ok_iff]
  simp only [fragment]
  cases checkIdentifier call.var <;> simp

end OperatorCall

namespace CompilationUnit

/-- Names are accepted if they are identifiers, no two of them are the same, and none was
seen before. -/
theorem checkDistinct_ok_iff {seen names : List String} :
    checkDistinct seen names = .ok () ↔
      (∀ name ∈ names, isIdentifier name = true) ∧ names.Nodup ∧ ∀ name ∈ names, name ∉ seen := by
  induction names generalizing seen with
  | nil => simp [checkDistinct]
  | cons name rest ih =>
    rw [checkDistinct]
    cases checked : checkIdentifier name with
    | error fault =>
      have bad : isIdentifier name ≠ true := fun good => by
        simp [checkIdentifier_ok_iff.mpr good] at checked
      simp [bad]
    | ok =>
      have good := checkIdentifier_ok_iff.mp checked
      by_cases old : name ∈ seen
      · simp [old]
      · rw [if_neg old, ih]
        constructor
        · rintro ⟨identifiers, distinct, new⟩
          have once : name ∉ rest := fun again => new name again List.mem_cons_self
          refine ⟨List.forall_mem_cons.mpr ⟨good, identifiers⟩,
            List.nodup_cons.mpr ⟨once, distinct⟩, List.forall_mem_cons.mpr ⟨old, ?_⟩⟩
          exact fun other mem seen => new other mem (List.mem_cons_of_mem _ seen)
        · rintro ⟨identifiers, distinct, new⟩
          obtain ⟨once, distinct⟩ := List.nodup_cons.mp distinct
          refine ⟨(List.forall_mem_cons.mp identifiers).2, distinct, fun other mem => ?_⟩
          rw [List.mem_cons, not_or]
          exact ⟨fun same => once (same ▸ mem), (List.forall_mem_cons.mp new).2 other mem⟩

variable {u : CompilationUnit}

/-- The check passes if and only if each of its five parts does. -/
theorem check_ok_iff :
    u.check = .ok () ↔ isIdentifier u.name = true ∧ u.capacities.check = .ok () ∧
      ((∀ name ∈ u.symbols, isIdentifier name = true) ∧ u.symbols.Nodup) ∧
      u.checkScales = .ok () ∧ u.checkFits = .ok () := by
  have capacities : u.capacities.check.mapError Fault.capacities = .ok () ↔
      u.capacities.check = .ok () := by
    cases u.capacities.check <;> simp [Except.mapError]
  have distinct : checkDistinct [] u.symbols = .ok () ↔
      (∀ name ∈ u.symbols, isIdentifier name = true) ∧ u.symbols.Nodup := by
    simp [checkDistinct_ok_iff]
  rw [← distinct, ← capacities, ← checkIdentifier_ok_iff]
  simp only [check, check_bind_ok_iff]

/-! ### Texts -/

/-- The texts that a unit is put together from. -/
structure Texts (u : CompilationUnit) where
  globals : List String
  declarations : List (Option String)
  locals : List String
  evaluations : List String
  globals_rendered : List.Forall₂ (fun f text => f.render u.pools = .ok text) u.globals globals
  evaluations_declared :
    List.Forall₂ (fun f text => f.declaration u.pools = .ok text) u.evaluations declarations
  locals_rendered : List.Forall₂ (fun f text => f.render u.pools = .ok text) u.locals locals
  evaluations_rendered :
    List.Forall₂ (fun f text => f.render u.pools = .ok text) u.evaluations evaluations

/-- The whole text. -/
def Texts.assembled (texts : Texts u) : String :=
  u.assemble texts.globals (texts.declarations.filterMap id) texts.locals texts.evaluations

/-- A unit is emitted if and only if its checks pass and its fragments have texts, and its
text is put together from theirs. -/
theorem render_ok_iff {text : String} :
    u.render = .ok text ↔ u.check = .ok () ∧ ∃ texts : Texts u, texts.assembled = text := by
  rw [render, check_bind_ok_iff]
  simp only [declareAll, renderAll, bind_ok_iff, mapM_ok_iff]
  constructor
  · rintro ⟨checked, globals, hg, kept, ⟨declarations, hd, same⟩, locals, hl, evaluations, he, done⟩
    cases same
    exact ⟨checked, ⟨globals, declarations, locals, evaluations, hg, hd, hl, he⟩,
      Except.ok.inj done⟩
  · rintro ⟨checked, texts, rfl⟩
    exact ⟨checked, _, texts.globals_rendered, _, ⟨_, texts.evaluations_declared, rfl⟩,
      _, texts.locals_rendered, _, texts.evaluations_rendered, rfl⟩

end CompilationUnit

end TensorArena.Emit
