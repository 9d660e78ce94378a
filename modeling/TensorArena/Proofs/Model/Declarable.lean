import TensorArena.Proofs.Model.Leftover
import TensorArena.Proofs.Model.Served

/-!
Which planned tensors a run can declare.

A plan counts the padded bytes of every tensor, and counts a tensor without a size as larger
than any arena, so a run that starts has room for all of them. It does not look at ranks, and a
rank that no record holds is found out only when the tensor is declared. So the declarations of
a run that starts are done exactly if every rank fits a record, and otherwise the first tensor
whose rank does not fit ends the run.
-/

namespace TensorArena.Model

section

variable {σ : Type} {b : Blueprint σ} {m : Model σ} {w : Workspace} {inputs outputs : Table Bytes}
  {s : σ} {tensors before after : List (String × Tensor.Descriptor)}

theorem tensorSteps_append :
    (tensorSteps (before ++ after) : List (Step σ)) = tensorSteps before ++ tensorSteps after :=
  List.map_append

/-- Planned tensors have names of their own, and share none with an evaluating step. -/
theorem tensors_names (accepted : b.model = .ok m)
    (declares : b.declarations = tensorSteps tensors) :
    (tensors.map (·.1)).Nodup ∧
      ∀ t ∈ tensors, ∀ step ∈ b.evaluations, step.name ≠ t.1 := by
  obtain ⟨rfl, -⟩ := model_ok accepted
  have names : (tensors.map (·.1) ++ m.blueprint.evaluations.map (·.name)).Nodup := by
    have all := names_nodup accepted
    rw [Blueprint.steps, List.map_append, declares, tensorSteps, List.map_map] at all
    exact all
  obtain ⟨own, -, apart⟩ := List.nodup_append.mp names
  refine ⟨own, fun t mem step evaluated same => ?_⟩
  exact apart t.1 (List.mem_map_of_mem mem) step.name (List.mem_map_of_mem evaluated) same.symm

/-- A run that starts declares its tensors in order as long as their ranks fit a record. -/
theorem declares_of_entered (accepted : b.model = .ok m)
    (declares : b.declarations = tensorSteps (before ++ after)) (sound : ∀ p, (w.arena p).Sound)
    (entered : m.checkEntry w inputs outputs = .ok ())
    (ranks : ∀ t ∈ before, t.2.shape.length ≤ Tensor.maxRank) :
    ∃ g, declareAll (tensorSteps before) (Frame.start w inputs outputs) s = ⟨.ok (), g, s⟩ ∧
      Declares (fun p => (w.arena p).top) before (Frame.start w inputs outputs) g := by
  have distinct : (before.map (·.1)).Nodup := by
    have own := (tensors_names accepted declares).1
    rw [List.map_append] at own
    exact (List.nodup_append.mp own).1
  obtain ⟨rfl, plan, -⟩ := model_ok accepted
  have room : ∀ p, (w.arena p).highWater + tensorsDemand p before ≤ (w.arena p).capacity := by
    intro p
    obtain ⟨sum, enough⟩ := room_for_steps m.blueprint (sound p) (plan ▸ room_of_entered entered p)
    have part : tensorsDemand p before + tensorsDemand p after = m.blueprint.declared.get p := by
      rw [← sum, declares, tensorSteps, List.map_map, List.map_append, List.sum_append]
      rfl
    omega
  exact declare_tensors (.start sound inputs outputs) rfl (fun _ _ => rfl) distinct
    (measured_of_fit (sound .ram) ranks (Nat.le_trans (Nat.le_add_left _ _) (room .ram))) room

/-- A new tensor whose rank no record holds is refused before anything is claimed. -/
theorem declareAll_rankTooLarge {f : Frame} {t : String × Tensor.Descriptor}
    (declaring : f.phase = .declaring) (new : f.bindings.get? t.1 = none)
    (large : Tensor.maxRank < t.2.shape.length) :
    declareAll (tensorSteps (t :: after)) f s =
      ⟨.error (.stepFailed t.1 (.descriptor (.rankTooLarge t.2.shape.length))), f, s⟩ := by
  have bindable : f.checkBindable t.1 = .ok () := by
    simp [Frame.checkBindable, declaring, Table.contains, new]
  have refused : f.bindTensor t.1 t.2 =
      (.error (.descriptor (.rankTooLarge t.2.shape.length)), f) := by
    simp only [Frame.bindTensor, bindable, Frame.payloadLength, if_pos large]
  have ran : ((Step.tensor t.1 t.2).body s).run f =
      ((.error (.descriptor (.rankTooLarge t.2.shape.length)), s), f) := by
    simp only [Step.tensor, Step.stateless, ExceptT.run_mk, Program.run_bind, Program.ask,
      Program.run, Frame.perform, refused, Program.run_pure]
  simp only [tensorSteps, List.map_cons, declareAll, ran]
  rfl

/-- The run ends with the fault of its declarations. -/
theorem run_of_declareAll_error {fault : Fault} {g : Frame} {t : σ}
    (entered : m.checkEntry w inputs outputs = .ok ())
    (failed : declareAll m.blueprint.declarations (Frame.start w inputs outputs) s =
      ⟨.error fault, g, t⟩) :
    (m.run w inputs outputs s).outcome = .error fault := by
  simp only [run, entered, takeSteps, failed]

/-- The first tensor whose rank no record holds ends the run. -/
theorem run_rankTooLarge (accepted : b.model = .ok m) {t : String × Tensor.Descriptor}
    (declares : b.declarations = tensorSteps (before ++ t :: after))
    (sound : ∀ p, (w.arena p).Sound) (entered : m.checkEntry w inputs outputs = .ok ())
    (ranks : ∀ u ∈ before, u.2.shape.length ≤ Tensor.maxRank)
    (large : Tensor.maxRank < t.2.shape.length) :
    (m.run w inputs outputs s).outcome =
      .error (.stepFailed t.1 (.descriptor (.rankTooLarge t.2.shape.length))) := by
  obtain ⟨g, declared, done⟩ := declares_of_entered (s := s) accepted declares sound entered ranks
  have other : t.1 ∉ before.map (·.1) := by
    have own := (tensors_names accepted declares).1
    rw [List.map_append, List.map_cons] at own
    exact fun mem => (List.nodup_append.mp own).2.2 t.1 mem t.1 List.mem_cons_self rfl
  have refused : declareAll (tensorSteps (t :: after)) g s = _ :=
    declareAll_rankTooLarge done.phase (done.names t.1 other) large
  obtain ⟨rfl, -⟩ := model_ok accepted
  refine run_of_declareAll_error (g := g) (t := s) entered ?_
  rw [declares, tensorSteps_append, declareAll_append, declared]
  exact refused

/-- Where the declarations are done, the run blames none of them: what fails later has another
name. -/
theorem run_spares_declared (accepted : b.model = .ok m)
    (declares : b.declarations = tensorSteps tensors)
    (entered : m.checkEntry w inputs outputs = .ok ()) {g : Frame} {t : σ}
    (declared : declareAll b.declarations (Frame.start w inputs outputs) s = ⟨.ok (), g, t⟩)
    {u : String × Tensor.Descriptor} (mem : u ∈ tensors) (reason : Frame.Fault) :
    (m.run w inputs outputs s).outcome ≠ .error (.stepFailed u.1 reason) := by
  have apart := (tensors_names accepted declares).2 u mem
  obtain ⟨rfl, -⟩ := model_ok accepted
  intro failed
  obtain ⟨turn, taken, ended⟩ := (m.run_error_iff rfl).mp failed
  -- All turns are over, so the one that failed is that of an evaluating step.
  have none : ∀ v ∈ declareTurns m.blueprint.declarations (Frame.start w inputs outputs) s,
      v.outcome ≠ .error (.stepFailed u.1 reason) := by
    intro v turned other
    have all := (declareAll_inTurn _ _ _).error_iff.mpr ⟨v, turned, other⟩
    rw [declared] at all
    cases all
  simp only [turns, entered, stepsTurns, declared, List.mem_append] at taken
  rcases taken with declaring | evaluating
  · exact none turn declaring ended
  · have step := (evaluateAll_inTurn _ _ _).isPrefix.subset (List.mem_map_of_mem evaluating)
    exact apart turn.step step (Option.some.inj (step?_of_outcome ended)).symm

/-- **Planned tensors are declared exactly if their ranks fit a record.** Take a model whose
declarations are tensors, of any element types and shapes, that was accepted, and a run of it
that starts, in arenas of any capacities that were brought to any levels. No declaration fails
exactly if every rank fits a record. Otherwise the run ends at the first tensor whose rank does
not, with that rank. If all fit, then every tensor is declared in its size. -/
theorem planned_tensors_declared_iff (accepted : b.model = .ok m)
    (declares : b.declarations = tensorSteps tensors) {issued : PerPool (List Token)}
    (reached : ∀ p, (w.arena p).Reached (issued.get p))
    (entered : m.checkEntry w inputs outputs = .ok ()) (s : σ) :
    ((∀ t ∈ tensors, ∀ reason,
        (m.run w inputs outputs s).outcome ≠ .error (.stepFailed t.1 reason)) ↔
      ∀ t ∈ tensors, t.2.shape.length ≤ Tensor.maxRank) ∧
    (∀ before t after, tensors = before ++ t :: after →
      (∀ u ∈ before, u.2.shape.length ≤ Tensor.maxRank) → Tensor.maxRank < t.2.shape.length →
      (m.run w inputs outputs s).outcome =
        .error (.stepFailed t.1 (.descriptor (.rankTooLarge t.2.shape.length)))) ∧
    ((∀ t ∈ tensors, t.2.shape.length ≤ Tensor.maxRank) →
      ∃ f, declareAll b.declarations (Frame.start w inputs outputs) s = ⟨.ok (), f, s⟩ ∧
        ∀ t ∈ tensors, ∃ z, f.read (.binding t.1) = .ok z ∧ t.2.byteLength = .ok z.length) := by
  have sound := fun p => (reached p).sound.1
  have refused : ∀ before t after, tensors = before ++ t :: after →
      (∀ u ∈ before, u.2.shape.length ≤ Tensor.maxRank) → Tensor.maxRank < t.2.shape.length →
      (m.run w inputs outputs s).outcome =
        .error (.stepFailed t.1 (.descriptor (.rankTooLarge t.2.shape.length))) :=
    fun before t after split => run_rankTooLarge accepted (split ▸ declares) sound entered
  have done : (∀ t ∈ tensors, t.2.shape.length ≤ Tensor.maxRank) →
      ∃ f, declareAll b.declarations (Frame.start w inputs outputs) s = ⟨.ok (), f, s⟩ ∧
        ∀ t ∈ tensors, ∃ z, f.read (.binding t.1) = .ok z ∧ t.2.byteLength = .ok z.length := by
    intro ranks
    have all : b.declarations = tensorSteps (tensors ++ []) := by
      rw [List.append_nil, declares]
    obtain ⟨f, declared, bound⟩ := declares_of_entered (s := s) accepted all sound entered ranks
    refine ⟨f, declares ▸ declared, fun t mem => ?_⟩
    obtain ⟨z, read, measured⟩ := bound.bound t mem
    exact ⟨z, read, (Frame.payloadLength_ok_iff.mp measured).2⟩
  refine ⟨⟨fun spared => ?_, fun ranks => ?_⟩, refused, done⟩
  · by_contra large
    obtain ⟨t, first⟩ : ∃ t, tensors.find? (Tensor.maxRank < ·.2.shape.length) = some t := by
      refine Option.ne_none_iff_exists'.mp fun none => large fun t mem => ?_
      simpa using List.find?_eq_none.mp none t mem
    obtain ⟨exceeds, before, after, split, fit⟩ := List.find?_eq_some_iff_append.mp first
    have mem : t ∈ tensors := by simp [split]
    have ended := refused before t after split (by simpa using fit) (by simpa using exceeds)
    exact spared t mem _ ended
  · obtain ⟨f, declared, -⟩ := done ranks
    intro t mem
    exact run_spares_declared accepted declares entered declared mem

end

/-! A tensor of one byte in five dimensions, after one that fits. -/

namespace Hypercube

def tensors : List (String × Tensor.Descriptor) :=
  [("plane", { dtype := .i16, shape := [2, 0, 3] }),
    ("hypercube", { dtype := .u8, shape := [1, 1, 1, 1, 1] })]

def shapes : Blueprint Unit where
  name := "hypercube"
  capacities := ⟨64, 64⟩
  inputs := []
  outputs := []
  declarations := tensorSteps tensors
  evaluations := [⟨"idle", .zero, Step.stateless (pure ())⟩]

def model : Model Unit := ⟨shapes, shapes.needs⟩

end Hypercube

open Hypercube in
/-- The first tensor is declared, and the run ends at the second. -/
theorem planned_tensors_declared_iff_hypercube :
    shapes.model = .ok model ∧ model.checkEntry (.zeroed 64 64) .empty .empty = .ok () ∧
      (model.run (.zeroed 64 64) .empty .empty ()).outcome =
        .error (.stepFailed "hypercube" (.descriptor (.rankTooLarge 5))) ∧
      ¬ ∀ t ∈ tensors, ∀ reason,
        (model.run (.zeroed 64 64) .empty .empty ()).outcome ≠ .error (.stepFailed t.1 reason) := by
  have accepted : shapes.model = .ok model := rfl
  have entered : model.checkEntry (.zeroed 64 64) .empty .empty = .ok () := rfl
  have declares : shapes.declarations = tensorSteps tensors := rfl
  have reached := Workspace.reached_zeroed (show 0 < 64 ∧ 0 < 64 by decide) (by decide)
  obtain ⟨iff, ends, -⟩ := planned_tensors_declared_iff accepted declares reached entered ()
  refine ⟨accepted, entered, ends [_] _ [] rfl (by decide) (by decide), ?_⟩
  rw [iff]
  decide

open Hypercube in
/-- A model that was accepted starts its run, and a declaration fails. -/
theorem hypercube_planned_not_declared :
    shapes.model = .ok model ∧ shapes.declarations = tensorSteps tensors ∧
      model.checkEntry (.zeroed 64 64) .empty .empty = .ok () ∧
      (model.run (.zeroed 64 64) .empty .empty ()).outcome =
        .error (.stepFailed "hypercube" (.descriptor (.rankTooLarge 5))) :=
  ⟨rfl, rfl, rfl, rfl⟩

end TensorArena.Model
