import TensorArena.Proofs.Model.Planning

/-!
What the names of an accepted model are good for.

A model is accepted only if it has a name and its steps have names that differ. Nothing more is
asked of names: under any others the same model is accepted exactly if this holds of them too, so
one of its steps may have the empty name. Names that differ are enough to tell where a run failed:
the fault names the step that was taken last, and no other step of the model has that name
(`identifiable_of_accepted`).
-/

namespace TensorArena

variable {σ : Type}

/-! ### Other names -/

/-- The same step under another name. -/
def Step.rename (ρ : String → String) (step : Step σ) : Step σ :=
  { step with name := ρ step.name }

namespace Blueprint

variable {b : Blueprint σ} {m : Model σ} {name : String} {ρ : String → String}

/-- The same blueprint under another name, with its steps under others. -/
def rename (name : String) (ρ : String → String) (b : Blueprint σ) : Blueprint σ :=
  { b with
    name
    declarations := b.declarations.map (.rename ρ)
    evaluations := b.evaluations.map (.rename ρ) }

theorem names_rename :
    (b.rename name ρ).steps.map (·.name) = (b.steps.map (·.name)).map ρ := by
  simp only [steps, rename, ← List.map_append, List.map_map]
  rfl

theorem neededBytes_rename (p : Pool) : (b.rename name ρ).neededBytes p = b.neededBytes p := by
  simp only [neededBytes, declaredBytes, scratchBytes, rename, List.map_map]
  rfl

/-- No check but that of the steps' names looks at them. -/
theorem passes_rename {c : Check} (other : c ≠ .steps) :
    (b.rename name ρ).Passes c ↔ b.Passes c := by
  cases c with
  | capacity p => rfl
  | evaluates => simp only [Passes, rename, ne_eq, List.map_eq_nil_iff]
  | steps => exact absurd rfl other
  | tensors => rfl
  | fits p =>
    rw [Passes, neededBytes_rename]
    rfl

/-- An accepted blueprint has a name and passes every check. -/
theorem named_and_passes (accepted : b.model = .ok m) :
    b.name ≠ "" ∧ ∀ c ∈ checks, b.Passes c := by
  unfold Blueprint.model at accepted
  split at accepted
  · cases accepted
  · rename_i named
    refine ⟨named, ?_⟩
    rcases b.plan_cases with ⟨-, passes⟩ | ⟨c, fault, -, -, refused⟩
    · exact passes
    · rw [refused] at accepted
      cases accepted

/-- Where all other checks pass, that of the steps' names decides. -/
theorem findSome?_refusal? (others : ∀ c ∈ checks, c ≠ .steps → b.Passes c) :
    checks.findSome? b.refusal? = b.refusal? .steps := by
  simp only [checks, List.forall_mem_cons, ← refusal?_eq_none_iff, ne_eq, reduceCtorEq,
    not_false_eq_true, forall_const] at others
  obtain ⟨metadata, ram, evaluates, -, tensors, fitsMetadata, fitsRam, -⟩ := others
  simp only [checks, List.findSome?, metadata, ram, evaluates, tensors, fitsMetadata, fitsRam]
  cases b.refusal? .steps <;> rfl

/-- **Under other names** an accepted blueprint is refused for an empty name of its own, and then
for the first name of a step that repeats an earlier one. -/
theorem model_rename (accepted : b.model = .ok m) (name : String) (ρ : String → String) :
    (b.rename name ρ).model =
      if name = "" then .error .emptyName
      else
        match Plan.firstRepeated? [] ((b.steps.map (·.name)).map ρ) with
        | some repeated => .error (.duplicateStep repeated)
        | none => .ok ⟨b.rename name ρ, (b.rename name ρ).needs⟩ := by
  obtain ⟨-, passes⟩ := named_and_passes accepted
  have others : ∀ c ∈ checks, c ≠ .steps → (b.rename name ρ).Passes c := by
    intro c mem other
    exact (passes_rename other).mpr (passes c mem)
  rw [Blueprint.model, plan_eq, findSome?_refusal? others, refusal?, names_rename]
  cases Plan.firstRepeated? [] ((b.steps.map (·.name)).map ρ) <;> rfl

/-- Names are accepted exactly if that of the model is not empty and those of the steps differ. -/
theorem model_rename_ok_iff (accepted : b.model = .ok m) :
    (∃ renamed, (b.rename name ρ).model = .ok renamed) ↔
      name ≠ "" ∧ ((b.steps.map (·.name)).map ρ).Nodup := by
  rw [model_rename accepted, ← Plan.nodup_iff]
  by_cases empty : name = ""
  · simp [empty]
  · cases Plan.firstRepeated? [] ((b.steps.map (·.name)).map ρ) <;> simp [empty]

/-- Names are refused for two reasons only. -/
theorem model_rename_error_iff (accepted : b.model = .ok m) {fault : Plan.Fault} :
    (b.rename name ρ).model = .error fault ↔ name = "" ∧ fault = .emptyName ∨
      name ≠ "" ∧ ∃ repeated, Plan.FirstRepeat ((b.steps.map (·.name)).map ρ) repeated ∧
        fault = .duplicateStep repeated := by
  simp only [model_rename accepted, ← Plan.firstRepeat_iff]
  by_cases empty : name = ""
  · simp [empty, eq_comm]
  · cases Plan.firstRepeated? [] ((b.steps.map (·.name)).map ρ) <;> simp [empty, eq_comm]

end Blueprint

/-! ### The step that is blamed -/

namespace Model

section

variable {b : Blueprint σ} {m : Model σ} {fault : Fault}

/-- The turns end with `t`, which fails with the fault. The steps before it went well, those
`after` it were not taken, and no other step of the model has its name. -/
structure EndsAt (m : Model σ) (turns : List (Turn σ)) (fault : Fault) (earlier : List (Turn σ))
    (t : Turn σ) (after : List (Step σ)) : Prop where
  last : turns = earlier ++ [t]
  steps : m.blueprint.steps = earlier.map (·.step) ++ t.step :: after
  went : ∀ u ∈ earlier, u.outcome = .ok ()
  failed : t.outcome = .error fault
  alone : ∀ other ∈ earlier.map (·.step) ++ after, other.name ≠ t.step.name

/-- In a list of steps whose names differ, no step before or after one has its name. -/
theorem alone_of_nodup {before after : List (Step σ)} {step : Step σ}
    (nodup : ((before ++ step :: after).map (·.name)).Nodup) :
    ∀ other ∈ before ++ after, other.name ≠ step.name := by
  rw [List.map_append, List.map_cons, List.nodup_middle, ← List.map_append] at nodup
  obtain ⟨new, -⟩ := List.nodup_cons.mp nodup
  intro other mem same
  apply new
  rw [← same]
  exact List.mem_map_of_mem mem

/-- A run of an accepted model that fails with the fault of a step ends at that step. -/
theorem endsAt_of_run_error (accepted : b.model = .ok m) {w : Workspace}
    {inputs outputs : Table Bytes} {s : σ} {name : String} (blames : fault.step? = some name)
    (failed : (m.run w inputs outputs s).outcome = .error fault) :
    ∃ earlier t after, t.step.name = name ∧
      m.EndsAt (m.turns w inputs outputs s) fault earlier t after := by
  obtain ⟨u, taken, ended⟩ := (m.run_error_iff blames).mp failed
  simp only [turns] at taken ⊢
  cases entered : m.checkEntry w inputs outputs with
  | error _ =>
    rw [entered] at taken
    cases taken
  | ok =>
    rw [entered] at taken
    have inTurn := m.takeSteps_inTurn (Frame.start w inputs outputs) s
    rw [inTurn.error_iff.mpr ⟨u, taken, ended⟩] at inTurn
    obtain ⟨earlier, t, after, last, steps, went, failed⟩ := inTurn.ends
    have named := step?_of_outcome failed
    have nodup := names_nodup accepted
    rw [steps] at nodup
    exact ⟨earlier, t, after, Option.some.inj (named.symm.trans blames),
      last, steps, went, failed, alone_of_nodup nodup⟩

/-- What the names of a model tell. -/
structure Identifiable (m : Model σ) : Prop where
  named : m.name ≠ ""
  distinct : (m.blueprint.steps.map (·.name)).Nodup
  /-- Other names would do exactly if that of the model is not empty and those of the steps
  differ. -/
  accepted_iff : ∀ name ρ, (∃ renamed, (m.blueprint.rename name ρ).model = .ok renamed) ↔
    name ≠ "" ∧ ((m.blueprint.steps.map (·.name)).map ρ).Nodup
  /-- So any step may give up its name for the empty one. -/
  nameless : ∀ step ∈ m.blueprint.steps, ∃ renamed,
    (m.blueprint.rename m.name (Equiv.swap step.name "")).model = .ok renamed
  /-- Names that will not do are refused as an empty name of the model, or as the first name of a
  step that repeats an earlier one. -/
  refused_iff : ∀ name ρ fault, (m.blueprint.rename name ρ).model = .error fault ↔
    name = "" ∧ fault = .emptyName ∨
      name ≠ "" ∧ ∃ repeated,
        Plan.FirstRepeat ((m.blueprint.steps.map (·.name)).map ρ) repeated ∧
        fault = .duplicateStep repeated
  /-- A run that fails at a step fails at the last one taken, the only one of that name. -/
  blamed_iff : ∀ w inputs outputs s fault name, fault.step? = some name →
    ((m.run w inputs outputs s).outcome = .error fault ↔
      ∃ earlier t after, t.step.name = name ∧
        m.EndsAt (m.turns w inputs outputs s) fault earlier t after)

/-- **What the names of an accepted model tell.** The model has a name, and its steps have names
that differ. Nothing else is asked of names, and any one step may have the empty name. In every
run, in arenas in any state, a fault of a step names the step that was taken last, after steps that
went well, and no other step of the model has that name. -/
theorem identifiable_of_accepted (accepted : b.model = .ok m) : m.Identifiable := by
  obtain ⟨rfl, -⟩ := model_ok accepted
  have named := (Blueprint.named_and_passes accepted).1
  have distinct := names_nodup accepted
  constructor
  case named => exact named
  case distinct => exact distinct
  case accepted_iff =>
    intro name ρ
    exact Blueprint.model_rename_ok_iff accepted
  case nameless =>
    intro step _
    -- A step that had the empty name before gets the other one.
    exact (Blueprint.model_rename_ok_iff accepted).mpr
      ⟨named, distinct.map (Equiv.swap step.name "").injective⟩
  case refused_iff =>
    intro name ρ fault
    exact Blueprint.model_rename_error_iff accepted
  case blamed_iff =>
    intro w inputs outputs s fault name blames
    refine ⟨endsAt_of_run_error accepted blames, ?_⟩
    rintro ⟨earlier, t, after, -, ends⟩
    refine (m.run_error_iff blames).mpr ⟨t, ?_, ends.failed⟩
    rw [ends.last]
    exact List.mem_append_right _ List.mem_cons_self

end

/-! A model of three steps whose second one fails, and the same without a name for that step. -/

namespace Nameless

def quiet (name : String) : Step Unit := ⟨name, .zero, Step.stateless (pure ())⟩

def raise : Step Unit := ⟨"raise", .zero, Step.stateless (throw (.failed "raised"))⟩

def named : Blueprint Unit where
  name := "m"
  capacities := ⟨64, 64⟩
  inputs := []
  outputs := []
  declarations := [quiet "prepare"]
  evaluations := [raise, quiet "finish"]

/-- The failing step gives up its name. -/
def nameless : Blueprint Unit := named.rename "m" (Equiv.swap "raise" "")

def model : Model Unit := ⟨nameless, nameless.needs⟩

/-- What a run of the nameless model ends with. -/
def fault : Fault := .stepFailed "" (.failed "raised")

end Nameless

open Nameless in
/-- The model is accepted without a name for its second step, or for its first one, but not for
both. The empty name is then that of the step at which the run ends. -/
theorem identifiable_of_accepted_nameless :
    named.model = .ok ⟨named, named.needs⟩ ∧ nameless.model = .ok model ∧
      (∃ renamed, (named.rename "m" (Equiv.swap "prepare" "")).model = .ok renamed) ∧
      (named.rename "m" fun _ => "").model = .error (.duplicateStep "") ∧
      ∃ earlier t after, t.step.name = "" ∧
        model.EndsAt (model.turns (.zeroed 64 64) .empty .empty ()) fault earlier t after := by
  have accepted : named.model = .ok ⟨named, named.needs⟩ := rfl
  have acceptedNameless : nameless.model = .ok model := rfl
  have failed : (model.run (.zeroed 64 64) .empty .empty ()).outcome = .error fault := rfl
  have before := identifiable_of_accepted accepted
  have after := identifiable_of_accepted acceptedNameless
  refine ⟨accepted, acceptedNameless, ?_, ?_, ?_⟩
  · exact before.nameless (quiet "prepare") (by simp [Blueprint.steps, named])
  · refine (before.refused_iff "m" (fun _ => "") _).mpr (.inr ⟨by decide, "", ?_, rfl⟩)
    exact ⟨[""], [""], rfl, by decide, by decide⟩
  · exact (after.blamed_iff _ _ _ _ fault "" rfl).mp failed

open Nameless in
/-- A model is accepted, one of its steps has the empty name, and its run fails with a fault that
names a step by it. -/
theorem nameless_step_accepted :
    nameless.model = .ok model ∧ "" ∈ model.blueprint.steps.map (·.name) ∧
      (model.run (.zeroed 64 64) .empty .empty ()).outcome =
        .error (.stepFailed "" (.failed "raised")) :=
  ⟨rfl, by decide, rfl⟩

end Model

end TensorArena
