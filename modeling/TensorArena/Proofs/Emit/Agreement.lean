import TensorArena.Proofs.Emit.Render
import TensorArena.Proofs.Model.Leftover
import TensorArena.Proofs.Model.Served

/-!
Emission and plans agree on memory.

A unit and a model of the same tensors, whose evaluations take the same, are refused for their
size together: with the same pool, requirement and capacity. If they are accepted and every rank
fits a record, then the tensors can be declared in arenas that were just built, and what is left
is enough for each evaluation: padding and records are part of what both count.
-/

namespace TensorArena.Emit

variable {σ : Type}

namespace CompilationUnit

/-- All checks of the unit but the last pass, and its fragments have texts. -/
structure Emittable (u : CompilationUnit) : Prop where
  name : checkIdentifier u.name = .ok ()
  capacities : u.capacities.check = .ok ()
  symbols : checkDistinct [] u.symbols = .ok ()
  scales : u.checkScales = .ok ()
  texts : Nonempty (Texts u)

/-- Such a unit is emitted or refused as its size says. -/
theorem Emittable.render_cases {u : CompilationUnit} (emittable : u.Emittable) :
    (u.checkFits = .ok () ∧ ∃ text, u.render = .ok text) ∨
      ∃ fault, u.checkFits = .error fault ∧ u.render = .error fault := by
  have checked : u.check = u.checkFits := by
    simp only [check, emittable.name, emittable.capacities, emittable.symbols, emittable.scales]
    rfl
  cases fits : u.checkFits with
  | ok =>
    obtain ⟨texts⟩ := emittable.texts
    exact .inl ⟨rfl, _, render_ok_iff.mpr ⟨checked.trans fits, texts, rfl⟩⟩
  | error fault =>
    refine .inr ⟨fault, rfl, ?_⟩
    rw [render, checked, fits]
    rfl

end CompilationUnit

/-- All checks of the plan but the last pass. -/
structure Plannable (b : Blueprint σ) : Prop where
  capacities : b.capacities.check = .ok ()
  evaluations : b.evaluations ≠ []
  steps : Plan.firstRepeated? [] (b.steps.map (·.name)) = none
  tensors : Plan.firstRepeated? [] (b.inputs ++ b.outputs) = none

/-- Such a model is planned or refused as its size says. -/
theorem Plannable.plan_cases {b : Blueprint σ} (plannable : Plannable b) :
    (b.capacities.firstExceeded? b.needs.required = none ∧ b.plan = .ok b.needs) ∨
      ∃ pool, b.capacities.firstExceeded? b.needs.required = some pool ∧
        b.plan =
          .error (.exceedsPool pool (b.needs.required.get pool) (b.capacities.get pool)) := by
  have evaluates : b.evaluations.isEmpty = false := by
    simpa using plannable.evaluations
  cases exceeded : b.capacities.firstExceeded? b.needs.required with
  | none =>
    refine .inl ⟨rfl, ?_⟩
    simp [Blueprint.plan, plannable.capacities, evaluates, plannable.steps, plannable.tensors,
      exceeded]
  | some pool =>
    refine .inr ⟨pool, rfl, ?_⟩
    simp [Blueprint.plan, plannable.capacities, evaluates, plannable.steps, plannable.tensors,
      exceeded]

/-- The unit and the model are of the same tensors, under any names, of evaluations that take the
same, and of the same capacities. -/
structure SameMemory (tensors : List (String × Tensor.Descriptor))
    (footprints : List (PerPool Nat)) (u : CompilationUnit) (b : Blueprint σ) : Prop where
  capacities : u.capacities = b.capacities
  locals : List.Forall₂ (fun f t => ∃ var, f = .ramTensor var t.2) u.locals tensors
  declarations : b.declarations = Model.tensorSteps tensors
  taken : u.evaluations.map (·.footprint) = footprints
  asked : b.evaluations.map (·.demand) = footprints

section Agreement

variable {tensors : List (String × Tensor.Descriptor)} {footprints : List (PerPool Nat)}
  {u : CompilationUnit} {b : Blueprint σ}

/-- Both count the same. -/
theorem SameMemory.required (same : SameMemory tensors footprints u b) :
    u.required = b.needs.required := by
  have tensors : u.locals.map (·.footprint) = b.declarations.map (·.demand) := by
    have each : List.Forall₂ (· = ·) (u.locals.map (·.footprint))
        (tensors.map fun t => Step.tensorDemand t.2) := by
      rw [List.forall₂_map_left_iff, List.forall₂_map_right_iff]
      refine same.locals.imp ?_
      rintro f t ⟨var, rfl⟩
      rfl
    rw [List.forall₂_eq_eq_eq] at each
    rw [each, same.declarations, Model.tensorSteps, List.map_map]
    rfl
  rw [CompilationUnit.required, tensors, same.taken, ← same.asked]
  rfl

/-- Both are accepted, or both are refused with the same pool, requirement and capacity. -/
theorem SameMemory.verdicts (same : SameMemory tensors footprints u b) (emittable : u.Emittable)
    (plannable : Plannable b) :
    ((∃ text, u.render = .ok text) ∧ b.plan = .ok b.needs) ∨
      ∃ pool required capacity, u.render = .error (.exceedsPool pool required capacity) ∧
        b.plan = .error (.exceedsPool pool required capacity) := by
  rcases plannable.plan_cases with ⟨exceeded, planned⟩ | ⟨pool, exceeded, planned⟩
  · have fits : u.checkFits = .ok () := by
      simp only [CompilationUnit.checkFits, same.capacities, same.required, exceeded]
    rcases emittable.render_cases with ⟨-, rendered⟩ | ⟨fault, refused, -⟩
    · exact .inl ⟨rendered, planned⟩
    · cases fits.symm.trans refused
  · have exceeds : u.checkFits = .error (.exceedsPool pool (b.needs.required.get pool)
        (b.capacities.get pool)) := by
      simp only [CompilationUnit.checkFits, same.capacities, same.required, exceeded]
    rcases emittable.render_cases with ⟨passed, -⟩ | ⟨fault, refused, rendered⟩
    · cases exceeds.symm.trans passed
    · cases exceeds.symm.trans refused
      exact .inr ⟨pool, _, _, rendered, planned⟩

/-! ### Arenas just built -/

/-- Both arenas have just been built, with these capacities. -/
def Fresh (capacities : Capacities) (w : Workspace) : Prop :=
  ∀ p, ∃ id, Arena.build id p (capacities.get p) = .ok (w.arena p)

theorem exists_build {pool : Pool} {bytes : Nat} (checked : Capacity.check pool bytes = .ok ())
    (id : ArenaId) : ∃ a, Arena.build id pool bytes = .ok a ∧ a.pool = pool := by
  simp only [Arena.build, checked]
  exact ⟨_, rfl, rfl⟩

theorem exists_fresh {capacities : Capacities} (checked : capacities.check = .ok ()) :
    ∃ w, Fresh capacities w := by
  unfold Capacities.check at checked
  split at checked
  · cases checked
  · rename_i first
    obtain ⟨metadata, builtMetadata, poolMetadata⟩ := exists_build first ⟨1⟩
    obtain ⟨ram, builtRam, poolRam⟩ := exists_build checked ⟨2⟩
    have serves : ∀ p, ((⟨metadata, ram⟩ : PerPool Arena).get p).pool = p := by
      intro p
      cases p with
      | metadata => exact poolMetadata
      | ram => exact poolRam
    refine ⟨⟨⟨metadata, ram⟩, serves⟩, fun p => ?_⟩
    cases p with
    | metadata => exact ⟨⟨1⟩, builtMetadata⟩
    | ram => exact ⟨⟨2⟩, builtRam⟩

theorem Fresh.sound {capacities : Capacities} {w : Workspace} (fresh : Fresh capacities w)
    (p : Pool) : (w.arena p).Sound :=
  (fresh p).elim fun _ built => Arena.sound_of_build built

/-- An arena that was just built has all its capacity left. -/
theorem Fresh.level {capacities : Capacities} {w : Workspace} (fresh : Fresh capacities w)
    (p : Pool) : (w.arena p).highWater = 0 ∧ (w.arena p).capacity = capacities.get p := by
  obtain ⟨id, built⟩ := fresh p
  obtain ⟨-, -, same⟩ := Arena.build_ok_iff.mp built
  rw [same]
  exact ⟨rfl, List.length_replicate⟩

/-- Tensors of a planned model are declared in arenas just built, and leave room for every
evaluation. -/
theorem declares_of_planned (same : SameMemory tensors footprints u b) (plannable : Plannable b)
    {plan : Plan} (planned : b.plan = .ok plan)
    (ranks : ∀ t ∈ tensors, t.2.shape.length ≤ Tensor.maxRank) {w : Workspace}
    (fresh : Fresh b.capacities w) (inputs outputs : Table Bytes) (s : σ) :
    ∃ f, Model.declareAll b.declarations (Frame.start w inputs outputs) s = ⟨.ok (), f, s⟩ ∧
      Model.Declares (fun p => (w.arena p).top) tensors (Frame.start w inputs outputs) f ∧
      ∀ footprint ∈ footprints, ∀ p, footprint.get p ≤ (f.workspace.arena p).remaining := by
  have fits := (Model.plan_ok planned).2
  -- The declared demands fit, and the largest evaluation on top of them.
  have enough : ∀ p, Model.tensorsDemand p tensors + b.maxScratch.get p ≤
      (w.arena p).capacity := by
    intro p
    obtain ⟨level, capacity⟩ := fresh.level p
    obtain ⟨sum, room⟩ := Model.room_for_steps b (fresh.sound p) (by
      rw [Arena.remaining, level, capacity]
      exact fits p)
    rw [same.declarations, Model.tensorSteps, List.map_map] at sum
    have total : Model.tensorsDemand p tensors = b.declared.get p := sum
    omega
  have distinct : (tensors.map (·.1)).Nodup := by
    have all := (Model.nodup_of_firstRepeated? plannable.steps).1
    rw [Blueprint.steps, List.map_append, same.declarations, Model.tensorSteps,
      List.map_map] at all
    exact (List.nodup_append.mp all).1
  have measured : ∀ t ∈ tensors, ∃ length, Frame.payloadLength t.2 = .ok length :=
    Model.measured_of_fit (fresh.sound .ram) ranks
      (Nat.le_trans (Nat.le_add_right _ _) (enough .ram))
  obtain ⟨f, declared, declares⟩ := Model.declare_tensors (s := s)
    (Frame.Tidy.start fresh.sound inputs outputs) rfl (fun _ _ => rfl) distinct measured fun p => by
      have := (fresh.level p).1
      have := enough p
      simp only [Frame.start]
      omega
  refine ⟨f, same.declarations ▸ declared, declares, fun footprint mem p => ?_⟩
  have largest : footprint.get p ≤ b.maxScratch.get p := by
    rw [Blueprint.maxScratch, same.asked]
    exact PerPool.get_le_largest mem p
  have level := declares.level p
  have capacity := declares.capacity p
  have start := (fresh.level p).1
  have := enough p
  simp only [Frame.start] at level capacity
  rw [Arena.remaining]
  omega

/-- **Emission and plan agree.** Take a unit and a model of the same tensors, whose evaluations
take the same, and let every other check pass. Then they are refused for their size together, with
the same pool, requirement and capacity, and accepted together. If they are accepted and all ranks
fit a record, then there are arenas of these capacities, and in all that were just built the
tensors are declared in order, each in its size, and leave room for every evaluation. -/
theorem emission_agrees (same : SameMemory tensors footprints u b) (emittable : u.Emittable)
    (plannable : Plannable b) :
    (∀ pool required capacity, u.render = .error (.exceedsPool pool required capacity) ↔
      b.plan = .error (.exceedsPool pool required capacity)) ∧
    ((∃ text, u.render = .ok text) ↔ ∃ plan, b.plan = .ok plan) ∧
    ((∃ text, u.render = .ok text) → (∀ t ∈ tensors, t.2.shape.length ≤ Tensor.maxRank) →
      (∃ w, Fresh b.capacities w) ∧
      ∀ w, Fresh b.capacities w → ∀ inputs outputs (s : σ), ∃ f,
        Model.declareAll b.declarations (Frame.start w inputs outputs) s = ⟨.ok (), f, s⟩ ∧
        (∀ t ∈ tensors, ∃ z, f.read (.binding t.1) = .ok z ∧ t.2.byteLength = .ok z.length) ∧
        ∀ footprint ∈ footprints, ∀ p, footprint.get p ≤ (f.workspace.arena p).remaining) := by
  rcases same.verdicts emittable plannable with
    ⟨⟨text, rendered⟩, planned⟩ | ⟨pool, required, capacity, rendered, planned⟩
  · refine ⟨?_, ?_, fun _ ranks => ⟨exists_fresh plannable.capacities, ?_⟩⟩
    · intro pool required capacity
      rw [rendered, planned]
      exact ⟨nofun, nofun⟩
    · exact ⟨fun _ => ⟨_, planned⟩, fun _ => ⟨_, rendered⟩⟩
    · intro w fresh inputs outputs s
      obtain ⟨f, declared, declares, room⟩ :=
        declares_of_planned same plannable planned ranks fresh inputs outputs s
      refine ⟨f, declared, fun t mem => ?_, room⟩
      obtain ⟨z, read, measured⟩ := declares.bound t mem
      exact ⟨z, read, (Frame.payloadLength_ok_iff.mp measured).2⟩
  · rw [rendered, planned]
    refine ⟨?_, ⟨nofun, nofun⟩, nofun⟩
    intro pool required capacity
    simp only [Except.error.injEq, Fault.exceedsPool.injEq, Plan.Fault.exceedsPool.injEq]

end Agreement

/-! Tensors of every element type and of ranks zero to four, and two evaluations of which either
takes more in one of the pools. -/

namespace Snug

def tensors : List (String × Tensor.Descriptor) := [
  ("scale", ⟨.f32, [], 0⟩), ("bias", ⟨.i32, [3], 0⟩), ("mask", ⟨.u8, [2, 5], 0⟩),
  ("steps", ⟨.i16, [1, 7, 1], 0⟩), ("weights", ⟨.i8, [1, 2, 2, 3], 0⟩)]

def footprints : List (PerPool Nat) := [⟨8, 40⟩, ⟨16, 24⟩]

/-- The unit for arenas of these capacities. -/
def unit (capacities : Capacities) : CompilationUnit where
  name := "snug"
  placeholders := ["x"]
  outputs := ["y"]
  capacities
  pools := .standard
  globals := []
  locals := tensors.map fun t => .ramTensor ("local_" ++ t.1) t.2
  evaluations := footprints.map fun footprint => { Fragment.verbatim "y = x;" with footprint }
  quantization := .empty

/-- A step that asks for scratch and does nothing. -/
def idle (name : String) (demand : PerPool Nat) : Step Unit :=
  ⟨name, demand, Step.stateless (pure ())⟩

/-- The model for arenas of these capacities. -/
def model (capacities : Capacities) : Blueprint Unit where
  name := "snug"
  capacities
  inputs := ["x"]
  outputs := ["y"]
  declarations := Model.tensorSteps tensors
  evaluations := [idle "first" ⟨8, 40⟩, idle "second" ⟨16, 24⟩]

theorem same (capacities : Capacities) :
    SameMemory tensors footprints (unit capacities) (model capacities) where
  capacities := rfl
  locals := List.forall₂_map_left_iff.mpr (List.forall₂_same.mpr fun _ _ => ⟨_, rfl⟩)
  declarations := rfl
  taken := rfl
  asked := rfl

theorem emittable {capacities : Capacities} (checked : capacities.check = .ok ()) :
    (unit capacities).Emittable where
  name := show checkIdentifier "snug" = .ok () from rfl
  capacities := checked
  symbols := show CompilationUnit.checkDistinct [] (unit ⟨1, 1⟩).symbols = .ok () from rfl
  scales := rfl
  texts := ⟨{
    globals := _
    declarations := _
    locals := _
    evaluations := _
    globals_rendered := mapM_ok_iff.mp rfl
    evaluations_declared := mapM_ok_iff.mp rfl
    locals_rendered := mapM_ok_iff.mp rfl
    evaluations_rendered := mapM_ok_iff.mp rfl }⟩

theorem plannable {capacities : Capacities} (checked : capacities.check = .ok ()) :
    Plannable (model capacities) :=
  ⟨checked, by simp [model], rfl, rfl⟩

end Snug

open Snug in
/-- In arenas of 151 and 99 bytes everything fits, and of 151 and 98 bytes both refuse with the same
three values. -/
theorem emission_agrees_snug :
    (∃ text, (unit ⟨151, 99⟩).render = .ok text) ∧
      (∀ w, Fresh ⟨151, 99⟩ w → ∃ f,
        Model.declareAll (model ⟨151, 99⟩).declarations (Frame.start w .empty .empty) () =
          ⟨.ok (), f, ()⟩ ∧
        ∀ footprint ∈ footprints, ∀ p, footprint.get p ≤ (f.workspace.arena p).remaining) ∧
      (unit ⟨151, 98⟩).render = .error (.exceedsPool .ram 99 98) ∧
      (model ⟨151, 98⟩).plan = .error (.exceedsPool .ram 99 98) := by
  have large : Capacities.check ⟨151, 99⟩ = .ok () := rfl
  have small : Capacities.check ⟨151, 98⟩ = .ok () := rfl
  obtain ⟨-, accepted, declares⟩ :=
    emission_agrees (same ⟨151, 99⟩) (emittable large) (plannable large)
  obtain ⟨refused, -⟩ := emission_agrees (same ⟨151, 98⟩) (emittable small) (plannable small)
  have planned : (model ⟨151, 98⟩).plan = .error (.exceedsPool .ram 99 98) := rfl
  have rendered := accepted.mpr ⟨_, rfl⟩
  refine ⟨rendered, fun w fresh => ?_, (refused _ _ _).mpr planned, planned⟩
  obtain ⟨-, room⟩ := declares rendered (by decide)
  obtain ⟨f, declared, -, left⟩ := room w fresh .empty .empty ()
  exact ⟨f, declared, left⟩

end TensorArena.Emit
