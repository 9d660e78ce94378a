import Mathlib.Data.List.Flatten
import TensorArena.Emit.OperatorCall
import TensorArena.Proofs.Emit.Render

/-!
The names that an emitted unit defines at file scope.

These are the two arenas, what the fragments at file scope define, the operators declared for
the evaluations with the objects that hold their parameters, and the function. All of them are
identifiers and stand in definitions that the text contains. Two of them are the same only
where the function has the name of something defined before it: the function's name is not
among those that are checked.
-/

namespace TensorArena.Emit

/-- The part stands in the text. -/
def Occurs (part text : String) : Prop := ∃ before after, text = before ++ part ++ after

namespace Occurs

variable {part text : String}

theorem self (text : String) : Occurs text text := ⟨"", "", by simp⟩

theorem append_left (found : Occurs part text) (more : String) : Occurs part (more ++ text) := by
  obtain ⟨before, after, rfl⟩ := found
  exact ⟨more ++ before, after, by simp [String.append_assoc]⟩

theorem append_right (found : Occurs part text) (more : String) : Occurs part (text ++ more) := by
  obtain ⟨before, after, rfl⟩ := found
  exact ⟨before, after ++ more, by simp [String.append_assoc]⟩

/-- What stands in one of several texts stands in all of them joined. -/
theorem join {texts : List String} (found : Occurs part text) (mem : text ∈ texts) :
    Occurs part (String.join texts) := by
  induction texts with
  | nil => cases mem
  | cons first rest ih =>
    rw [String.join_cons]
    rcases List.mem_cons.mp mem with rfl | later
    · exact found.append_right _
    · exact (ih later).append_left _

end Occurs

/-! ### Identifiers -/

/-- An identifier stays one with another put before it. -/
theorem isIdentifier_append {first second : String} (identifier : isIdentifier first = true)
    (more : isIdentifier second = true) : isIdentifier (first ++ second) = true := by
  unfold isIdentifier at identifier ⊢
  rw [String.toList_append]
  split at identifier
  · cases identifier
  · rename_i c rest chars
    rw [Bool.and_eq_true] at identifier
    simp [chars, List.all_append, identifier.1, identifier.2, all_tail_of_isIdentifier more]

/-! ### Definitions at file scope -/

/-- The names that the fragment's declaration defines: its symbols, where it needs one. -/
def Fragment.declared (f : Fragment) (pools : PoolNames) : List String :=
  match f.declaration pools with
  | .ok (some _) => f.symbols
  | _ => []

theorem Fragment.declared_sublist (f : Fragment) (pools : PoolNames) :
    (f.declared pools).Sublist f.symbols := by
  unfold declared
  split
  · exact .refl _
  · exact List.nil_sublist _

theorem Fragment.mem_declared_iff {f : Fragment} {pools : PoolNames} {name : String} :
    name ∈ f.declared pools ↔
      (∃ text, f.declaration pools = .ok (some text)) ∧ name ∈ f.symbols := by
  unfold declared
  split
  · rename_i text needed
    exact ⟨fun mem => ⟨⟨text, needed⟩, mem⟩, fun both => both.2⟩
  · rename_i no
    exact ⟨fun mem => absurd mem List.not_mem_nil, fun ⟨⟨text, needed⟩, _⟩ => (no text needed).elim⟩

/-- The declaration of an operator defines its variable and that of its parameters. -/
theorem OperatorCall.declared_eq (call : OperatorCall) (pools : PoolNames)
    (identifier : isIdentifier call.var = true) :
    call.fragment.declared pools =
      call.var :: (if call.hasParameters then [call.parametersVar] else []) := by
  simp [Fragment.declared, fragment, checkIdentifier_ok_iff.mpr identifier]

namespace CompilationUnit

variable {u : CompilationUnit} {text : String}

/-- The names defined at file scope before the function, in the order of the text. -/
def declaredNames (u : CompilationUnit) : List String :=
  [u.pools.metadata, u.pools.ram] ++ u.globals.flatMap Fragment.symbols
    ++ u.evaluations.flatMap (·.declared u.pools)

/-- All names defined at file scope, in the order of the text. -/
def fileNames (u : CompilationUnit) : List String := u.declaredNames ++ [u.functionName]

/-- A piece of the unit at file scope and the names that it defines. -/
inductive Defines (u : CompilationUnit) : List String → String → Prop
  | arenas : Defines u [u.pools.metadata, u.pools.ram] u.arenaLines
  | global {f : Fragment} {definition : String} (mem : f ∈ u.globals)
      (rendered : f.render u.pools = .ok definition) : Defines u f.symbols definition
  | operator {f : Fragment} {definition : String} (mem : f ∈ u.evaluations)
      (needed : f.declaration u.pools = .ok (some definition)) : Defines u f.symbols definition
  | function : Defines u [u.functionName] u.functionHead

/-- What stands at file scope of a unit's text: every piece that defines something, and no
name without a piece that defines it. -/
structure FileScope (u : CompilationUnit) (text : String) : Prop where
  emitted : ∀ names definition, u.Defines names definition → Occurs definition text
  defined : ∀ name, name ∈ u.fileNames ↔
    ∃ names definition, u.Defines names definition ∧ name ∈ names

theorem forall₂_mem_left {α β : Type} {related : α → β → Prop} {xs : List α} {ys : List β} {x : α}
    (all : List.Forall₂ related xs ys) (mem : x ∈ xs) : ∃ y ∈ ys, related x y := by
  induction all with
  | nil => cases mem
  | cons first _ ih =>
    rcases List.mem_cons.mp mem with rfl | later
    · exact ⟨_, List.mem_cons_self, first⟩
    · obtain ⟨y, memY, holds⟩ := ih later
      exact ⟨y, List.mem_cons_of_mem _ memY, holds⟩

/-- The text of a unit as far as the function's head. -/
theorem Texts.assembled_eq (texts : Texts u) : ∃ first second third rest : String,
    texts.assembled = first ++ u.arenaLines ++ second ++ String.join (texts.globals.map line)
      ++ String.join ((texts.declarations.filterMap id).map line) ++ third ++ u.functionHead
      ++ rest := by
  unfold assembled assemble
  refine ⟨line "using namespace uTensor;" ++ "\n",
    "\n" ++ line "// start rendering global declare snippets",
    line "// end of rendering global declare snippets" ++ "\n", ?_⟩
  simp only [String.append_assoc]
  exact ⟨_, rfl⟩

/-- Every piece at file scope stands in the unit's text. -/
theorem Texts.occurs_of_defines (texts : Texts u) {names : List String} {definition : String}
    (piece : u.Defines names definition) : Occurs definition texts.assembled := by
  have occurs_line : Occurs definition (line definition) := (Occurs.self _).append_right _
  obtain ⟨first, second, third, rest, shape⟩ := texts.assembled_eq
  rw [shape]
  cases piece with
  | arenas =>
    iterate 6 apply Occurs.append_right
    exact (Occurs.self _).append_left first
  | global mem rendered =>
    obtain ⟨text, memTexts, same⟩ := forall₂_mem_left texts.globals_rendered mem
    cases rendered.symm.trans same
    iterate 4 apply Occurs.append_right
    exact (occurs_line.join (List.mem_map_of_mem memTexts)).append_left _
  | operator mem needed =>
    obtain ⟨text, memTexts, same⟩ := forall₂_mem_left texts.evaluations_declared mem
    cases needed.symm.trans same
    have kept : definition ∈ texts.declarations.filterMap id :=
      List.mem_filterMap.mpr ⟨_, memTexts, rfl⟩
    iterate 3 apply Occurs.append_right
    exact (occurs_line.join (List.mem_map_of_mem kept)).append_left _
  | function =>
    apply Occurs.append_right
    exact (Occurs.self _).append_left _

/-- A name is defined at file scope if and only if some piece defines it. -/
theorem Texts.mem_fileNames_iff (texts : Texts u) {name : String} : name ∈ u.fileNames ↔
    ∃ names definition, u.Defines names definition ∧ name ∈ names := by
  simp only [fileNames, declaredNames, List.mem_append, List.mem_flatMap]
  constructor
  · rintro (((pool | ⟨f, mem, symbol⟩) | ⟨f, mem, symbol⟩) | function)
    · exact ⟨_, _, .arenas, pool⟩
    · obtain ⟨text, -, rendered⟩ := forall₂_mem_left texts.globals_rendered mem
      exact ⟨_, _, .global mem rendered, symbol⟩
    · obtain ⟨⟨text, needed⟩, symbol⟩ := Fragment.mem_declared_iff.mp symbol
      exact ⟨_, _, .operator mem needed, symbol⟩
    · exact ⟨_, _, .function, function⟩
  · rintro ⟨names, definition, piece, mem⟩
    cases piece with
    | arenas => exact .inl (.inl (.inl mem))
    | global memGlobal _ => exact .inl (.inl (.inr ⟨_, memGlobal, mem⟩))
    | operator memOperator needed =>
      exact .inl (.inr ⟨_, memOperator, Fragment.mem_declared_iff.mpr ⟨⟨_, needed⟩, mem⟩⟩)
    | function => exact .inr mem

theorem fileScope_of_render (rendered : u.render = .ok text) : FileScope u text := by
  obtain ⟨-, texts, rfl⟩ := render_ok_iff.mp rendered
  exact ⟨fun _ _ piece => texts.occurs_of_defines piece, fun _ => texts.mem_fileNames_iff⟩

/-- The names before the function are among those that are checked, in their order. -/
theorem declaredNames_sublist (u : CompilationUnit) : u.declaredNames.Sublist u.symbols := by
  have evaluations : (u.evaluations.flatMap (·.declared u.pools)).Sublist
      ((u.locals ++ u.evaluations).flatMap Fragment.symbols) := by
    rw [List.flatMap_append]
    exact (List.Sublist.flatMap_right _ fun f _ => f.declared_sublist _).trans
      (List.sublist_append_right _ _)
  have fragments : (u.globals.flatMap Fragment.symbols
      ++ u.evaluations.flatMap (·.declared u.pools)).Sublist
      ((u.globals ++ u.locals ++ u.evaluations).flatMap Fragment.symbols) := by
    rw [List.append_assoc, List.flatMap_append]
    exact (List.Sublist.refl _).append evaluations
  unfold declaredNames symbols
  rw [List.append_assoc, List.append_assoc, List.append_assoc]
  exact (List.Sublist.refl _).append
    (fragments.trans ((List.sublist_append_right _ _).trans (List.sublist_append_right _ _)))

theorem isIdentifier_of_mem_fileNames (checked : u.check = .ok ()) {name : String}
    (mem : name ∈ u.fileNames) : isIdentifier name = true := by
  obtain ⟨model, -, ⟨identifiers, -⟩, -⟩ := check_ok_iff.mp checked
  rcases List.mem_append.mp mem with before | function
  · exact identifiers name (u.declaredNames_sublist.subset before)
  · rw [List.mem_singleton.mp function]
    exact isIdentifier_append (by decide) model

theorem isIdentifier_of_operator (checked : u.check = .ok ()) {call : OperatorCall}
    (mem : call.fragment ∈ u.evaluations) : isIdentifier call.var = true := by
  obtain ⟨-, -, ⟨identifiers, -⟩, -⟩ := check_ok_iff.mp checked
  apply identifiers
  apply List.mem_append_right
  exact List.mem_flatMap.mpr ⟨call.fragment, List.mem_append_right _ mem, List.mem_cons_self⟩

/-- The names before the function differ from each other. -/
theorem nodup_declaredNames (checked : u.check = .ok ()) : u.declaredNames.Nodup := by
  obtain ⟨-, -, ⟨-, distinct⟩, -⟩ := check_ok_iff.mp checked
  exact distinct.sublist u.declaredNames_sublist

/-- **No name is defined twice** in the text of a unit, the function's name apart. What stands
at file scope are the arenas, the fragments there, the operators with their parameter objects,
and the function; their names are identifiers, those before the function differ from each
other, and all of them differ if and only if none is the function's. -/
theorem file_names_distinct_iff (rendered : u.render = .ok text) :
    FileScope u text ∧
    (∀ call : OperatorCall, call.fragment ∈ u.evaluations → call.var ∈ u.declaredNames ∧
      (call.hasParameters = true → call.parametersVar ∈ u.declaredNames)) ∧
    (∀ name ∈ u.fileNames, isIdentifier name = true) ∧
    u.declaredNames.Nodup ∧
    (u.fileNames.Nodup ↔ u.functionName ∉ u.declaredNames) := by
  have checked := (render_ok_iff.mp rendered).1
  have distinct := nodup_declaredNames checked
  refine ⟨fileScope_of_render rendered, fun call mem => ?_,
    fun _ => isIdentifier_of_mem_fileNames checked, distinct, ?_⟩
  · have declared {name : String} (symbol : name ∈ call.fragment.declared u.pools) :
        name ∈ u.declaredNames :=
      List.mem_append_right _ (List.mem_flatMap.mpr ⟨_, mem, symbol⟩)
    have needed := call.declared_eq u.pools (isIdentifier_of_operator checked mem)
    rw [needed] at declared
    exact ⟨declared List.mem_cons_self, fun takes => declared (by simp [takes])⟩
  · rw [fileNames, List.nodup_append]
    constructor
    · rintro ⟨-, -, apart⟩ again
      exact apart _ again _ (List.mem_singleton_self _) rfl
    · intro new
      refine ⟨distinct, List.pairwise_singleton _ _, fun name before other last => ?_⟩
      rw [List.mem_singleton.mp last]
      exact fun same => new (same ▸ before)

namespace Naming

/-- A unit with a table at file scope, a tensor and two operators, one with parameters. -/
def network : CompilationUnit where
  name := "net"
  placeholders := ["x"]
  outputs := ["y"]
  capacities := ⟨64, 256⟩
  pools := .standard
  globals := [{ Fragment.verbatim "static const int8_t w[2] = \x7b1, 2\x7d;" with symbols := ["w"] }]
  locals := [.ramTensor "t" ⟨.i8, [2, 3], 0⟩]
  evaluations := [
    (((OperatorCall.new "conv" "Conv").setParameter "stride" "1").addInputs [("in", "x")]).fragment,
    ((OperatorCall.new "relu" "ReLU").addOutputs [("out", "y")]).fragment]
  quantization := .empty

theorem network_rendered : ∃ text, network.render = .ok text := ⟨_, rfl⟩

/-- A unit called `m` whose only operator has the name of its function. -/
def clash : CompilationUnit where
  name := "m"
  placeholders := []
  outputs := []
  capacities := ⟨64, 64⟩
  pools := .standard
  globals := []
  locals := []
  evaluations := [(OperatorCall.new "compute_m" "Conv").fragment]
  quantization := .empty

theorem clash_rendered : ∃ text, clash.render = .ok text := ⟨_, rfl⟩

end Naming

open Naming in
/-- The seven names of a network with two operators, one of which has parameters, differ. -/
theorem file_names_distinct_iff_network : ∃ text, network.render = .ok text ∧
    FileScope network text ∧
    network.fileNames =
      ["meta_allocator", "ram_allocator", "w", "conv", "conv_params", "relu", "compute_net"] ∧
    network.fileNames.Nodup := by
  obtain ⟨text, rendered⟩ := network_rendered
  obtain ⟨scope, -, -, -, distinct⟩ := file_names_distinct_iff rendered
  exact ⟨text, rendered, scope, rfl, distinct.mpr (by decide)⟩

open Naming in
/-- A unit is emitted although its operator and its function share the name `compute_m`. -/
theorem function_name_taken : (∃ text, clash.render = .ok text) ∧
    clash.fileNames = ["meta_allocator", "ram_allocator", "compute_m", "compute_m"] ∧
    ¬ clash.fileNames.Nodup :=
  ⟨clash_rendered, rfl, by decide⟩

end CompilationUnit

end TensorArena.Emit
