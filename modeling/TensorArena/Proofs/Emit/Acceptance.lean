import TensorArena.Proofs.Emit.Precedence
import TensorArena.Proofs.Model.Planning

/-!
What emission accepts.

A unit is emitted exactly if its name is an identifier, its capacities are acceptable, the names
that it defines are identifiers and differ, the scales of its outputs are finite, its local
fragments and the largest of its evaluations fit each arena together, and every fragment has the
texts that are asked of it. The sums are exact, of any size. A unit that is not accepted is
refused for the first check that it fails; names are looked at one by one, and texts in the order
in which they are emitted.
-/

namespace TensorArena.Emit

/-! ### Identifiers -/

@[simp] theorem fault?_checkIdentifier_eq_none_iff {name : String} :
    fault? (checkIdentifier name) = none ↔ IsIdentifier name := by
  rw [← isIdentifier_iff, ← checkIdentifier_ok_iff, fault?_eq_none_iff]
  exact ⟨fun ⟨(), passed⟩ => passed, fun passed => ⟨(), passed⟩⟩

theorem checkIdentifier_error {name : String} {fault : Fault}
    (refused : checkIdentifier name = .error fault) : fault = .invalidIdentifier name := by
  unfold checkIdentifier at refused
  split at refused <;> cases refused
  rfl

namespace CompilationUnit

variable (u : CompilationUnit)

/-! ### Checks -/

/-- What the local fragments take together and the largest evaluation besides, exactly. -/
def neededBytes (p : Pool) : Nat :=
  (u.locals.map (·.footprint.get p)).sum + (u.evaluations.map (·.footprint.get p)).max?.getD 0

/-- What a unit is asked for. A name is asked for twice: to be an identifier, and not to stand
among those before it. -/
inductive Check where
  | identifier (name : String)
  | capacity (p : Pool)
  | fresh (earlier : List String) (name : String)
  | scale (output : String)
  | fits (p : Pool)
  | rendered (f : Fragment)
  | declared (f : Fragment)

/-- The checks of names, of which those in `earlier` come before. -/
def nameChecks (earlier : List String) : List String → List Check
  | [] => []
  | name :: rest =>
    .identifier name :: .fresh earlier name :: nameChecks (earlier ++ [name]) rest

/-- The checks that come before the texts, in order. -/
def formChecks : List Check :=
  [Check.identifier u.name] ++ [Check.capacity .metadata, Check.capacity .ram]
    ++ nameChecks [] u.symbols ++ u.outputs.map Check.scale
    ++ [Check.fits .metadata, Check.fits .ram]

/-- The texts in the order in which they are emitted. -/
def textChecks : List Check :=
  u.globals.map .rendered ++ u.evaluations.map .declared ++ u.locals.map .rendered
    ++ u.evaluations.map .rendered

/-- All checks in order. -/
def checks : List Check := u.formChecks ++ u.textChecks

/-- What each check asks for. -/
def Passes : Check → Prop
  | .identifier name => IsIdentifier name
  | .capacity p => 0 < u.capacities.get p ∧ u.capacities.get p ≤ Capacity.largest
  | .fresh earlier name => name ∉ earlier
  | .scale output => ∀ q, u.quantization.get? output = some q → q.scale.isFinite = true
  | .fits p => u.neededBytes p ≤ u.capacities.get p
  | .rendered f => ∃ text, f.render u.pools = .ok text
  | .declared f => ∃ text, f.declaration u.pools = .ok text

/-- The fault that a failed check is refused with. -/
inductive Reports : Check → Fault → Prop where
  | identifier (name : String) : Reports (.identifier name) (.invalidIdentifier name)
  | capacity (p : Pool) :
      Reports (.capacity p) (.capacities (.invalidCapacity p (u.capacities.get p)))
  | fresh (earlier : List String) (name : String) :
      Reports (.fresh earlier name) (.duplicateSymbol name)
  | scale (output : String) : Reports (.scale output) (.nonFiniteScale output)
  | fits (p : Pool) : Reports (.fits p)
      (.exceedsPool p (min (u.neededBytes p) ByteCount.largest) (u.capacities.get p))
  | rendered {f : Fragment} {fault : Fault} : f.render u.pools = .error fault →
      Reports (.rendered f) fault
  | declared {f : Fragment} {fault : Fault} : f.declaration u.pools = .error fault →
      Reports (.declared f) fault

/-- A unit that can be emitted. -/
structure Valid : Prop where
  name : IsIdentifier u.name
  capacities : ∀ p, 0 < u.capacities.get p ∧ u.capacities.get p ≤ Capacity.largest
  identifiers : ∀ name ∈ u.symbols, IsIdentifier name
  distinct : u.symbols.Nodup
  scales : ∀ output ∈ u.outputs, ∀ q, u.quantization.get? output = some q →
    q.scale.isFinite = true
  fits : ∀ p, u.neededBytes p ≤ u.capacities.get p
  globals : ∀ f ∈ u.globals, ∃ text, f.render u.pools = .ok text
  declarations : ∀ f ∈ u.evaluations, ∃ text, f.declaration u.pools = .ok text
  locals : ∀ f ∈ u.locals, ∃ text, f.render u.pools = .ok text
  evaluations : ∀ f ∈ u.evaluations, ∃ text, f.render u.pools = .ok text

/-- The fault of a check, where it fails. -/
def refusal? : Check → Option Fault
  | .identifier name => fault? (checkIdentifier name)
  | .capacity p => (fault? (Capacity.check p (u.capacities.get p))).map .capacities
  | .fresh earlier name => if name ∈ earlier then some (.duplicateSymbol name) else none
  | .scale output =>
    (u.quantization.get? output).bind fun q =>
      if q.scale.isFinite then none else some (.nonFiniteScale output)
  | .fits p =>
    if u.neededBytes p ≤ u.capacities.get p then none
    else some (.exceedsPool p (min (u.neededBytes p) ByteCount.largest) (u.capacities.get p))
  | .rendered f => fault? (f.render u.pools)
  | .declared f => fault? (f.declaration u.pools)

variable {u} {c : Check} {fault : Fault}

theorem refusal?_eq_none_iff : u.refusal? c = none ↔ u.Passes c := by
  cases c with
  | identifier name => exact fault?_checkIdentifier_eq_none_iff
  | capacity p =>
    rw [refusal?, Option.map_eq_none_iff, fault?_eq_none_iff, Passes,
      ← Capacity.check_ok_iff (p := p)]
    exact ⟨fun ⟨(), passed⟩ => passed, fun passed => ⟨(), passed⟩⟩
  | fresh earlier name => simp [refusal?, Passes]
  | scale output => simp [refusal?, Passes, Option.bind_eq_none_iff]
  | fits p => simp [refusal?, Passes]
  | rendered f => exact fault?_eq_none_iff
  | declared f => exact fault?_eq_none_iff

theorem reports_of_refusal? (refused : u.refusal? c = some fault) : u.Reports c fault := by
  cases c with
  | identifier name =>
    cases checkIdentifier_error (fault?_eq_some_iff.mp refused)
    exact .identifier name
  | capacity p =>
    obtain ⟨cause, unacceptable, rfl⟩ := Option.map_eq_some_iff.mp refused
    cases Capacity.check_error (fault?_eq_some_iff.mp unacceptable)
    exact .capacity p
  | fresh earlier name =>
    rw [refusal?] at refused
    split at refused <;> cases refused
    exact .fresh earlier name
  | scale output =>
    obtain ⟨q, -, infinite⟩ := Option.bind_eq_some_iff.mp refused
    split at infinite <;> cases infinite
    exact .scale output
  | fits p =>
    rw [refusal?] at refused
    split at refused <;> cases refused
    exact .fits p
  | rendered f => exact .rendered (fault?_eq_some_iff.mp refused)
  | declared f => exact .declared (fault?_eq_some_iff.mp refused)

/-- A check has one fault. -/
theorem Reports.eq {other : Fault} (first : u.Reports c fault) (second : u.Reports c other) :
    fault = other := by
  cases first with
  | rendered refused =>
    cases second with
    | rendered again => exact Except.error.inj (refused.symm.trans again)
  | declared refused =>
    cases second with
    | declared again => exact Except.error.inj (refused.symm.trans again)
  | _ =>
    cases second
    rfl

theorem refusal?_eq_some_iff :
    u.refusal? c = some fault ↔ ¬ u.Passes c ∧ u.Reports c fault := by
  rw [← refusal?_eq_none_iff]
  constructor
  · intro refused
    exact ⟨by simp [refused], reports_of_refusal? refused⟩
  · rintro ⟨fails, reported⟩
    cases refused : u.refusal? c with
    | none => exact absurd refused fails
    | some other => rw [(reports_of_refusal? refused).eq reported]

/-! ### Every stage -/

/-- Both capacities are checked, metadata first. -/
theorem fault?_capacities : fault? (u.capacities.check.mapError Fault.capacities) =
    [.capacity .metadata, .capacity .ram].findSome? u.refusal? := by
  rw [fault?_mapError]
  simp only [Capacities.check, List.findSome?_cons, List.findSome?_nil, refusal?, PerPool.get]
  cases Capacity.check .metadata u.capacities.metadata with
  | error fault => rfl
  | ok _ => cases Capacity.check .ram u.capacities.ram <;> rfl

/-- Names are scanned from left to right, each for its form and then for its repetition. -/
theorem fault?_checkDistinct {seen earlier names : List String}
    (same : ∀ name, name ∈ seen ↔ name ∈ earlier) :
    fault? (checkDistinct seen names) = (nameChecks earlier names).findSome? u.refusal? := by
  induction names generalizing seen earlier with
  | nil => rfl
  | cons name rest ih =>
    have next : ∀ other, other ∈ name :: seen ↔ other ∈ earlier ++ [name] := by
      intro other
      rw [List.mem_cons, List.mem_append, List.mem_singleton, same, or_comm]
    rw [checkDistinct, nameChecks]
    simp only [List.findSome?_cons, refusal?, ← same]
    cases checkIdentifier name with
    | error fault => rfl
    | ok _ =>
      by_cases old : name ∈ seen
      · simp [old, fault?]
      · simp only [if_neg old, ih next]
        rfl

/-- Outputs without parameters have no scale to be checked. -/
theorem fault?_checkScales : fault? u.checkScales =
    (u.outputs.map .scale).findSome? u.refusal? := by
  have scan : ∀ outputs : List String, fault? { u with outputs }.checkScales =
      (outputs.map Check.scale).findSome? u.refusal? := by
    intro outputs
    induction outputs with
    | nil => rfl
    | cons output rest ih =>
      rw [List.map_cons, List.findSome?_cons, ← ih, refusal?, checkScales, checkScales, quantized,
        quantized, List.filterMap_cons]
      cases u.quantization.get? output with
      | none => rfl
      | some q =>
        rw [Option.map_some, List.find?_cons, Option.bind_some]
        cases q.scale.isFinite <;> rfl
  exact scan u.outputs

/-- Where the capacities are acceptable, what is compared with them are the exact sums. -/
theorem fault?_checkFits (acceptable : u.capacities.check = .ok ()) :
    fault? u.checkFits = [.fits .metadata, .fits .ram].findSome? u.refusal? := by
  have small : ∀ p, u.capacities.get p ≤ Capacity.largest :=
    fun p => (Capacities.check_ok_iff.mp acceptable p).2
  have saturated : ∀ p, u.required.get p = min (u.neededBytes p) ByteCount.largest := by
    intro p
    rw [required, PerPool.get_total, List.map_map, List.map_map]
    rfl
  rw [checkFits, Capacities.firstExceeded?_eq small saturated]
  simp only [Pool.all, List.findSome?_cons, List.findSome?_nil, refusal?, saturated]
  by_cases inMetadata : u.neededBytes .metadata ≤ u.capacities.get .metadata
  · by_cases inRam : u.neededBytes .ram ≤ u.capacities.get .ram
    · simp [inMetadata, inRam, fault?]
    · simp [inMetadata, inRam, Nat.lt_of_not_le inRam, fault?]
  · simp [inMetadata, Nat.lt_of_not_le inMetadata, fault?]

/-- The checks before the texts are made in order. -/
theorem fault?_check : fault? u.check = u.formChecks.findSome? u.refusal? := by
  have name : [Check.identifier u.name].findSome? u.refusal? = fault? (checkIdentifier u.name) := by
    simp only [List.findSome?_cons, List.findSome?_nil, refusal?]
    cases fault? (checkIdentifier u.name) <;> rfl
  have distinct : fault? (checkDistinct [] u.symbols) =
      (nameChecks [] u.symbols).findSome? u.refusal? := fault?_checkDistinct fun _ => Iff.rfl
  have acceptable (accepted : u.capacities.check.mapError Fault.capacities = .ok ()) :
      u.capacities.check = .ok () := by
    cases checked : u.capacities.check with
    | error fault => simp [checked, Except.mapError] at accepted
    | ok => rfl
  simp only [formChecks, List.findSome?_append, Option.or_assoc, name, ← fault?_capacities,
    ← distinct, ← fault?_checkScales]
  refine fault?_bind _ fun _ _ => ?_
  refine fault?_bind _ fun _ accepted => ?_
  refine fault?_bind _ fun _ _ => ?_
  refine fault?_bind _ fun _ _ => ?_
  exact fault?_checkFits (acceptable accepted)

theorem fault?_renderAll (fragments : List Fragment) : fault? (u.renderAll fragments) =
    (fragments.map .rendered).findSome? u.refusal? := by
  rw [renderAll, fault?_mapM, List.findSome?_map]
  rfl

theorem fault?_declareAll (fragments : List Fragment) : fault? (u.declareAll fragments) =
    (fragments.map .declared).findSome? u.refusal? := by
  rw [declareAll, fault?_bind none, Option.or_none, fault?_mapM, List.findSome?_map]
  · rfl
  · exact fun _ _ => rfl

/-- A unit is refused for the first of all its checks that fails. -/
theorem fault?_render : fault? u.render = u.checks.findSome? u.refusal? := by
  simp only [checks, textChecks, List.findSome?_append, Option.or_assoc, ← fault?_check,
    ← fault?_renderAll, ← fault?_declareAll]
  refine fault?_bind _ fun _ _ => ?_
  refine fault?_bind _ fun _ _ => ?_
  refine fault?_bind _ fun _ _ => ?_
  refine fault?_bind _ fun _ _ => ?_
  rw [fault?_bind none, Option.or_none]
  exact fun _ _ => rfl

/-! ### Valid units -/

/-- The checks of names pass if all are identifiers, differ, and are not among those before. -/
theorem nameChecks_pass_iff {earlier names : List String} :
    (∀ c ∈ nameChecks earlier names, u.Passes c) ↔
      (∀ name ∈ names, IsIdentifier name) ∧ names.Nodup ∧ ∀ name ∈ names, name ∉ earlier := by
  induction names generalizing earlier with
  | nil => simp [nameChecks]
  | cons name rest ih =>
    rw [nameChecks, List.forall_mem_cons, List.forall_mem_cons, ih]
    simp only [List.forall_mem_cons, List.nodup_cons, List.mem_append, List.mem_singleton, not_or]
    constructor
    · rintro ⟨identifier, new, identifiers, distinct, others⟩
      exact ⟨⟨identifier, identifiers⟩, ⟨fun mem => (others name mem).2 rfl, distinct⟩, new,
        fun other mem => (others other mem).1⟩
    · rintro ⟨⟨identifier, identifiers⟩, ⟨apart, distinct⟩, new, others⟩
      refine ⟨identifier, new, identifiers, distinct, fun other mem => ⟨others other mem, ?_⟩⟩
      rintro rfl
      exact apart mem

/-- A unit is valid if and only if it passes every check. -/
theorem valid_iff : u.Valid ↔ ∀ c ∈ u.checks, u.Passes c := by
  have names : (∀ c ∈ nameChecks [] u.symbols, u.Passes c) ↔
      (∀ name ∈ u.symbols, IsIdentifier name) ∧ u.symbols.Nodup := by
    simp [nameChecks_pass_iff]
  have both {q : Pool → Prop} : (∀ p, q p) ↔ q .metadata ∧ q .ram :=
    ⟨fun all => ⟨all _, all _⟩, fun ⟨metadata, ram⟩ p => by cases p <;> assumption⟩
  simp only [checks, formChecks, textChecks, List.forall_mem_append, List.forall_mem_map, names,
    List.forall_mem_cons, List.not_mem_nil, false_implies, implies_true, and_true]
  constructor
  · intro valid
    exact ⟨⟨⟨⟨⟨valid.name, both.mp valid.capacities⟩, valid.identifiers, valid.distinct⟩,
      valid.scales⟩, both.mp valid.fits⟩, ⟨⟨valid.globals, valid.declarations⟩, valid.locals⟩,
      valid.evaluations⟩
  · rintro ⟨⟨⟨⟨⟨name, capacities⟩, identifiers, distinct⟩, scales⟩, fits⟩,
      ⟨⟨globals, declarations⟩, locals⟩, evaluations⟩
    exact {
      name, identifiers, distinct, scales, globals, declarations, locals, evaluations
      capacities := both.mpr capacities
      fits := both.mpr fits }

/-- **A unit is emitted exactly if it is valid**, and one that is refused is refused for the first
of its checks that fails: its name, the metadata and the ram capacity, the form and the repetition
of each name from left to right, the scales of its outputs, the metadata and the ram that it
needs, and then the texts, at file scope those of the fragments there and what the evaluations
declare, and in the function those of the local fragments and of the evaluations. -/
theorem emitted_exactly (u : CompilationUnit) :
    ((∃ text, u.render = .ok text) ↔ u.Valid) ∧
      ∀ fault, u.render = .error fault ↔
        ∃ c, FirstFailing u.Passes u.checks c ∧ u.Reports c fault := by
  constructor
  · rw [← fault?_eq_none_iff, fault?_render, findSome?_eq_none_iff fun _ => refusal?_eq_none_iff,
      valid_iff]
  · intro fault
    rw [← fault?_eq_some_iff, fault?_render]
    exact findSome?_eq_some_iff (fun _ => refusal?_eq_none_iff) fun _ _ => refusal?_eq_some_iff

end CompilationUnit

end TensorArena.Emit
