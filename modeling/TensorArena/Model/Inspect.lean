import TensorArena.Arena.Inspect
import TensorArena.Model.Run
import TensorArena.Text.Quoted

/-!
Inspection texts of workspaces, blueprints, plans and models. A workspace shows its levels
and capacities; steps are shown by their number.
-/

namespace TensorArena

open Text.Quoted (quote)
open Text.Inspect (record list table)

/-- The marks of both pools. -/
def PerPool.inspectMarks (m : PerPool Mark) : String :=
  record "ContextMark" [("metadata", m.metadata.inspect), ("ram", m.ram.inspect)]

/-- The installed pair. -/
def Workspace.inspect (w : Workspace) : String :=
  record "ExecutionContext" [
    ("usage", w.usage.inspectBytes),
    ("capacities", w.capacities.inspect)]

/-- A plan with every step's demand. -/
def Plan.inspect (plan : Plan) : String :=
  record "ModelPlan" [
    ("capacities", plan.capacities.inspect),
    ("declared", plan.declared.inspectBytes),
    ("max_scratch", plan.maxScratch.inspectBytes),
    ("footprints", table (plan.demands.entries.map fun entry =>
      (quote entry.1, entry.2.inspectBytes)))]

variable {σ : Type}

/-- What a model is made from. -/
def Blueprint.inspect (b : Blueprint σ) : String :=
  record "ModelConfig" [
    ("name", quote b.name),
    ("capacities", b.capacities.inspect),
    ("inputs", list (b.inputs.map quote)),
    ("outputs", list (b.outputs.map quote)),
    ("declarations", toString b.declarations.length),
    ("evaluations", toString b.evaluations.length)]

/-- A model with its plan. -/
def Model.inspect (m : Model σ) : String :=
  record "Model" [
    ("name", quote m.blueprint.name),
    ("inputs", list (m.blueprint.inputs.map quote)),
    ("outputs", list (m.blueprint.outputs.map quote)),
    ("declarations", toString m.blueprint.declarations.length),
    ("evaluations", toString m.blueprint.evaluations.length),
    ("plan", m.plan.inspect)]

end TensorArena
