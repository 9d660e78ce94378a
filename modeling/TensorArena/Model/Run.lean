import TensorArena.Model.Plan

/-!
Models and their runs.

A run takes every declaring step and then every evaluating step on one frame. The scratch
of an evaluating step is released when the step is over, and the step has to leave both
arenas at the level at which it found them. Whatever the steps did, the run ends by
unwinding both arenas to their state at its start, so that the next run finds what this
one found.

Before anything is claimed a run checks that the arenas have room for the plan and that
the caller supplied every tensor.
-/

namespace TensorArena

/-- A model with its plan. -/
structure Model (σ : Type) where
  blueprint : Blueprint σ
  plan : Plan

/-- The model of a blueprint, where it has a name and a plan. -/
def Blueprint.model {σ : Type} (b : Blueprint σ) : Except Plan.Fault (Model σ) :=
  if b.name = "" then .error .emptyName
  else
    match b.plan with
    | .error fault => .error fault
    | .ok plan => .ok ⟨b, plan⟩

/-- What a successful run tells. -/
structure Report where
  model : String
  declarations : Nat
  evaluations : Nat
  bindings : Nat
  /-- The largest usage noted, usage at the start included. -/
  peak : PerPool Nat
deriving DecidableEq, Repr

namespace Model

/-- Why a run fails. -/
inductive Fault where
  /-- An arena has less room than the plan requires. -/
  | noRoom (pool : Pool) (required available : Nat)
  /-- The caller did not supply an input. -/
  | missingInput (name : String)
  /-- The caller did not supply an output. -/
  | missingOutput (name : String)
  /-- A step failed. -/
  | stepFailed (step : String) (reason : Frame.Fault)
  /-- An evaluating step left an arena at another level. -/
  | unbalanced (step : String) (pool : Pool) (before after : Nat)
  /-- The arenas did not come back to their state at the start. -/
  | unwind (cause : Arena.Fault)
deriving DecidableEq, Repr

/-- The fault as a message. -/
def Fault.message : Fault → String
  | .noRoom pool required available =>
    s!"{pool.name} pool has {available} bytes free, model requires {required}"
  | .missingInput name => s!"input tensor '{name}' not supplied"
  | .missingOutput name => s!"output tensor '{name}' not supplied"
  | .stepFailed step reason => s!"step '{step}' failed: {reason.message}"
  | .unbalanced step pool before after =>
    s!"step '{step}' left the {pool.name} pool unbalanced ({before} -> {after})"
  | .unwind cause => s!"unwind failed: {cause.message}"

/-- The messages of the causes, nearest first. -/
def Fault.causes : Fault → List String
  | .stepFailed _ reason => reason.message :: reason.causes
  | .unwind cause => [cause.message]
  | _ => []

/-- The outcome of a part of a run, with the frame and the steps' state after it. -/
structure Progress (σ : Type) where
  outcome : Except Fault Unit
  frame : Frame
  state : σ

/-- The outcome of a run, with what it leaves behind. -/
structure Finish (σ : Type) where
  outcome : Except Fault Report
  workspace : Workspace
  outputs : Table Bytes
  state : σ

variable {σ : Type}

/-- Take declaring steps up to the first that fails. Usage is noted after each success. -/
def declareAll : List (Step σ) → Frame → σ → Progress σ
  | [], f, s => ⟨.ok (), f, s⟩
  | step :: rest, f, s =>
    match (step.body s).run f with
    | ((.error reason, s), f) => ⟨.error (.stepFailed step.name reason), f, s⟩
    | ((.ok (), s), f) => declareAll rest f.noteUsage s

/-- The first pool whose level is not what it was; metadata is looked at first. -/
def firstMoved? (before after : PerPool Nat) : Option Pool :=
  Pool.all.find? fun pool => before.get pool ≠ after.get pool

/-- Take one evaluating step. Usage is noted and scratch released whatever the step says;
a fault of the step comes before one of the release, and both before imbalance. -/
def evaluate (step : Step σ) (f : Frame) (s : σ) : Progress σ :=
  let before := f.usage
  match (step.body s).run f with
  | ((evaluated, s), f) =>
    match f.noteUsage.releaseScratch with
    | (released, f) =>
      match evaluated, released with
      | .error reason, _ => ⟨.error (.stepFailed step.name reason), f, s⟩
      | .ok (), .error reason => ⟨.error (.stepFailed step.name reason), f, s⟩
      | .ok (), .ok () =>
        match firstMoved? before f.usage with
        | some pool =>
          ⟨.error (.unbalanced step.name pool (before.get pool) (f.usage.get pool)), f, s⟩
        | none => ⟨.ok (), f, s⟩

/-- Take evaluating steps up to the first that fails. -/
def evaluateAll : List (Step σ) → Frame → σ → Progress σ
  | [], f, s => ⟨.ok (), f, s⟩
  | step :: rest, f, s =>
    match evaluate step f s with
    | ⟨.error fault, f, s⟩ => ⟨.error fault, f, s⟩
    | ⟨.ok (), f, s⟩ => evaluateAll rest f s

variable (m : Model σ)

/-- The name of the model. -/
def name : String := m.blueprint.name

/-- Take every step of the model. -/
def takeSteps (f : Frame) (s : σ) : Progress σ :=
  match declareAll m.blueprint.declarations f s with
  | ⟨.error fault, f, s⟩ => ⟨.error fault, f, s⟩
  | ⟨.ok (), f, s⟩ => evaluateAll m.blueprint.evaluations f.beginEvaluation s

/-- A run can start: first there is room in both arenas, metadata looked at first, then the
inputs and then the outputs are supplied. -/
def checkEntry (w : Workspace) (inputs outputs : Table Bytes) : Except Fault Unit :=
  match Pool.all.find? fun pool => (w.arena pool).remaining < m.plan.required.get pool with
  | some pool => .error (.noRoom pool (m.plan.required.get pool) (w.arena pool).remaining)
  | none =>
    match m.blueprint.inputs.find? fun name => !inputs.contains name with
    | some name => .error (.missingInput name)
    | none =>
      match m.blueprint.outputs.find? fun name => !outputs.contains name with
      | some name => .error (.missingOutput name)
      | none => .ok ()

/-- What a run reports that left the frame `f`. -/
def report (f : Frame) : Report where
  model := m.name
  declarations := m.blueprint.declarations.length
  evaluations := m.blueprint.evaluations.length
  bindings := f.bindings.size
  peak := f.peak

/-- Run the model once. A fault of a step comes before one of the final unwinding. -/
def run (w : Workspace) (inputs outputs : Table Bytes) (s : σ) : Finish σ :=
  match m.checkEntry w inputs outputs with
  | .error fault => ⟨.error fault, w, outputs, s⟩
  | .ok () =>
    match m.takeSteps (Frame.start w inputs outputs) s with
    | ⟨outcome, f, s⟩ =>
      match f.workspace.unwindTo w.mark with
      | (unwound, w) =>
        match outcome, unwound with
        | .error fault, _ => ⟨.error fault, w, f.outputs, s⟩
        | .ok (), .error fault => ⟨.error (.unwind fault), w, f.outputs, s⟩
        | .ok (), .ok () => ⟨.ok (m.report f), w, f.outputs, s⟩

end Model

end TensorArena
