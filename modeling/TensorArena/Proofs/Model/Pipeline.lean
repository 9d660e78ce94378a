import TensorArena.Proofs.Model.Served

/-!
Pipelines of increments, run after run.

A pipeline loads an input into a buffer, counts every byte of it up once for each of its counters,
and stores it in an output. A counter goes through scratch, in the pool of the buffer or in the
other one, over whatever bytes earlier steps and runs left there. Each step adds one
(`evaluate_increment`), so a run adds the number of counters, and it leaves the arenas at the
levels that it found, so the next run does the same.
-/

namespace TensorArena

/-- The tensors that a caller supplies to one run. -/
structure Supply where
  inputs : Table Bytes
  outputs : Table Bytes

/-- Runs one after the other, each on what the one before left behind. -/
def Model.runs {σ : Type} (m : Model σ) (w : Workspace) (s : σ) : List Supply → List (Finish σ)
  | [] => []
  | supply :: rest =>
    let finish := m.run w supply.inputs supply.outputs s
    finish :: m.runs finish.workspace finish.state rest

/-- What a pipeline counts up and how. -/
structure Pipeline where
  binding : String
  length : Nat
  input : String
  output : String
  /-- The steps that count up, each with the pool of its scratch. -/
  counters : List (String × Pool)

namespace Pipeline

variable {σ : Type}

/-- The step of a counter. -/
def count (p : Pipeline) (counter : String × Pool) : Step σ :=
  .increment counter.1 p.binding counter.2 p.length

/-- The steps of the blueprint are those of the pipeline. -/
structure Describes (p : Pipeline) (b : Blueprint σ) : Prop where
  declarations : b.declarations = [.ramBuffer p.binding p.length]
  evaluations : b.evaluations =
    .load p.input p.binding :: p.counters.map p.count ++ [.store p.binding p.output]

/-- The caller supplies every tensor of the blueprint, and those of the pipeline in its length. -/
structure Supplied (p : Pipeline) (b : Blueprint σ) (supply : Supply) : Prop where
  listedInputs : ∀ name ∈ b.inputs, supply.inputs.contains name = true
  listedOutputs : ∀ name ∈ b.outputs, supply.outputs.contains name = true
  given : ∃ x, supply.inputs.get? p.input = some x ∧ x.length = p.length
  wanted : ∃ y, supply.outputs.get? p.output = some y ∧ y.length = p.length

/-- Every byte of `x` and `k`, modulo 256. -/
def raised (k : Nat) (x : Bytes) : Bytes := x.map (· + UInt8.ofNat k)

theorem raised_zero (x : Bytes) : raised 0 x = x := by
  simp [raised]

theorem raised_succ (k : Nat) (x : Bytes) : raised k (x.map (· + 1)) = raised (k + 1) x := by
  simp only [raised, List.map_map]
  congr 1
  funext b
  simp [UInt8.ofNat_add, UInt8.add_assoc, UInt8.add_comm 1]

theorem toNat_getD_raised {k i : Nat} {x : Bytes} (within : i < x.length) :
    ((raised k x).getD i 0).toNat = ((x.getD i 0).toNat + k) % 256 := by
  simp [raised, within]

/-! ### Steps -/

section Steps

variable {f : Frame} {grounds : Pool → Top} {s : σ} {p : Pipeline} {x : Bytes}

/-- **An increment** adds one to every byte of its binding, whatever bytes its scratch was claimed
over. -/
theorem evaluate_increment (name : String) {binding : String} {pool : Pool}
    (rests : f.Resting grounds) (room : f.workspace.HasRoom (.only pool x.length))
    (held : f.read (.binding binding) = .ok x) :
    ∃ g, Model.evaluate (Step.increment name binding pool x.length) f s = ⟨.ok (), g, s⟩ ∧
      g.Resting grounds ∧ f.Beside g ∧ g.read (.binding binding) = .ok (x.map (· + 1)) := by
  obtain ⟨f₁, claimed, tidy₁, beside₁, ⟨old, found, size⟩, kept₁⟩ :=
    rests.tidy.claimScratch_served rests.evaluating pool x.length 1 (by decide) room
  obtain ⟨f₂, staged, tidy₂, beside₂, source, raised, -⟩ := tidy₁.modifyPair_served
    (kept₁ _ _ (by simp) held) found (by simp) Step.countUp
  -- The scratch has the size of the binding, so all of it is written before it is read.
  have both : Step.countUp x old = (x, x.map (· + 1)) := if_pos size.symm
  rw [both, Bytes.overlay_of_length_eq rfl] at source
  rw [both, Bytes.overlay_of_length_eq ((List.length_map _).trans size.symm)] at raised
  obtain ⟨f₃, copied, tidy₃, beside₃, shows, -, -⟩ := tidy₂.modifyPair_served source raised
    (by simp) fun _ staged => (staged, staged)
  rw [Bytes.overlay_of_length_eq (List.length_map _)] at shows
  have ran : ((Step.increment name binding pool x.length).body s).run f = ((.ok (), s), f₃) := by
    simp only [Step.increment, Step.stateless, ExceptT.run_bind, ExceptT.run_mk, Program.run_bind,
      Program.ask, Program.run, Frame.perform, claimed, staged, size, ne_eq, not_true_eq_false,
      if_false, copied, ExceptT.run_pure, Program.run_pure]
  obtain ⟨h, evaluated, after, still, reads⟩ := Model.evaluate_resting rests ran tidy₃
    ((beside₁.trans beside₂).trans beside₃)
  exact ⟨h, evaluated, after, still, reads _ _ shows⟩

/-- The counters add their number. -/
theorem evaluate_counters (counters : List (String × Pool)) (rests : f.Resting grounds)
    (size : x.length = p.length)
    (room : ∀ counter ∈ counters, f.workspace.HasRoom (.only counter.2 p.length))
    (held : f.read (.binding p.binding) = .ok x) :
    ∃ g, Model.evaluateAll (counters.map p.count) f s = ⟨.ok (), g, s⟩ ∧ g.Resting grounds ∧
      f.Beside g ∧ g.read (.binding p.binding) = .ok (raised counters.length x) := by
  induction counters generalizing f x with
  | nil => exact ⟨f, rfl, rests, .refl f, (raised_zero x).symm ▸ held⟩
  | cons counter rest ih =>
    obtain ⟨first, others⟩ := List.forall_mem_cons.mp room
    obtain ⟨g, counts, rests₁, beside₁, shows⟩ :=
      evaluate_increment counter.1 (s := s) rests (size.symm ▸ first) held
    have left : ∀ counter ∈ rest, g.workspace.HasRoom (.only counter.2 p.length) := by
      intro counter mem pool
      rw [beside₁.highWater rests.idle rests₁.idle, beside₁.capacity]
      exact others counter mem pool
    obtain ⟨h, later, rests₂, beside₂, last⟩ :=
      ih rests₁ ((List.length_map _).trans size) left shows
    refine ⟨h, ?_, rests₂, beside₁.trans beside₂, raised_succ _ _ ▸ last⟩
    rw [size] at counts
    simp only [List.map_cons, Model.evaluateAll, count, counts]
    exact later

end Steps

/-! ### Runs -/

section Runs

variable {p : Pipeline} {b : Blueprint σ} {m : Model σ} {w : Workspace}
  {inputs outputs : Table Bytes}

/-- The buffer is bound where there is room for it. -/
theorem declare_buffer (p : Pipeline) (sound : ∀ q, (w.arena q).Sound)
    (room : w.HasRoom (.only .ram p.length)) (inputs outputs : Table Bytes) (s : σ) :
    ∃ g, Model.declareAll [.ramBuffer p.binding p.length] (Frame.start w inputs outputs) s =
        ⟨.ok (), g, s⟩ ∧ g.beginEvaluation.Resting (fun q => (w.arena q).top) ∧
      g.inputs = inputs ∧ g.outputs = outputs ∧ g.bindings.size = 1 ∧
      w.Takes (.only .ram p.length) g.workspace ∧
      ∃ z, g.read (.binding p.binding) = .ok z ∧ z.length = p.length := by
  have new : (Frame.start w inputs outputs).bindings.get? p.binding = none := rfl
  have enough : w.HasRoom (.only .ram (p.length + 1 - 1)) := room
  obtain ⟨bound, v, served, tidy, takes, shows, -⟩ :=
    (Frame.Tidy.start sound inputs outputs).bind_served rfl new (by decide) enough
  have ran : ((Step.ramBuffer p.binding p.length : Step σ).body s).run
      (Frame.start w inputs outputs) = ((.ok (), s), Frame.noteUsage
        { Frame.start w inputs outputs with
          workspace := v
          bindings := (Frame.start w inputs outputs).bindings.insert p.binding bound }) := by
    simp only [Step.ramBuffer, Step.buffer, Step.stateless, ExceptT.run_mk, Program.run_bind,
      Program.ask, Program.run, Frame.perform, served, Program.run_pure]
  refine ⟨Frame.noteUsage (Frame.noteUsage { Frame.start w inputs outputs with
    workspace := v
    bindings := (Frame.start w inputs outputs).bindings.insert p.binding bound }), ?_,
    ⟨⟨tidy.stacked, tidy.piled, fun _ => rfl⟩, rfl, rfl⟩, rfl, rfl, rfl, takes, shows⟩
  simp only [Model.declareAll, ran]

/-- The steps of a pipeline make their calls on the frame only. -/
theorem Describes.asks_harmless (describes : p.Describes b) : ∀ step ∈ b.steps, ∀ s,
    (step.body s).Asks Frame.Call.Harmless := by
  intro step mem s
  simp only [Blueprint.steps, describes.declarations, describes.evaluations, List.mem_append,
    List.mem_cons, List.mem_map, List.not_mem_nil, or_false] at mem
  rcases mem with rfl | (rfl | ⟨counter, -, rfl⟩) | rfl
  · exact ⟨⟨rfl, rfl⟩, fun _ => trivial⟩
  · exact ⟨⟨rfl, rfl⟩, fun _ => trivial⟩
  · refine ⟨⟨rfl, rfl⟩, fun claimed => ?_⟩
    cases claimed with
    | error => trivial
    | ok id =>
      refine ⟨⟨rfl, rfl⟩, fun staged => ?_⟩
      cases staged with
      | error => trivial
      | ok both =>
        dsimp only [Program.andThen, ExceptT.bindCont]
        split
        · trivial
        · refine ⟨⟨rfl, rfl⟩, fun copied => ?_⟩
          cases copied <;> trivial
  · exact ⟨⟨rfl, rfl⟩, fun _ => trivial⟩

/-- The evaluations leave the raised input in the output. -/
theorem evaluations_compute {f : Frame} {grounds : Pool → Top} {s : σ} {x y z : Bytes}
    (rests : f.Resting grounds) (bound : f.read (.binding p.binding) = .ok z)
    (size : z.length = p.length) (given : f.inputs.get? p.input = some x)
    (wanted : f.outputs.get? p.output = some y) (sizeIn : x.length = p.length)
    (sizeOut : y.length = p.length)
    (room : ∀ counter ∈ p.counters, f.workspace.HasRoom (.only counter.2 p.length)) :
    ∃ g, Model.evaluateAll (.load p.input p.binding :: p.counters.map p.count ++
        [.store p.binding p.output]) f s = ⟨.ok (), g, s⟩ ∧
      g.bindings = f.bindings ∧
      g.outputs = f.outputs.insert p.output (raised p.counters.length x) := by
  obtain ⟨f₁, loads, rests₁, beside₁, held⟩ :=
    Model.evaluate_load (s := s) rests given bound (size.trans sizeIn.symm)
  have left : ∀ counter ∈ p.counters, f₁.workspace.HasRoom (.only counter.2 p.length) := by
    intro counter mem pool
    rw [beside₁.highWater rests.idle rests₁.idle, beside₁.capacity]
    exact room counter mem pool
  obtain ⟨f₂, counts, rests₂, beside₂, last⟩ :=
    evaluate_counters (s := s) p.counters rests₁ sizeIn left held
  have beside := beside₁.trans beside₂
  have whole : (raised p.counters.length x).length = p.length := (List.length_map _).trans sizeIn
  obtain ⟨g, stores, bindings, result⟩ := Model.evaluate_store (.store p.binding p.output)
    (s := s) rfl rests₂ last (beside.outputs ▸ wanted) (sizeOut.trans whole.symm)
  refine ⟨g, ?_, bindings.trans beside.bindings, ?_⟩
  · rw [Model.evaluateAll_append]
    simp only [Model.evaluateAll, loads, counts, stores]
  · rw [result, beside.outputs]

/-- The steps of an accepted pipeline succeed in arenas that have room for its plan. -/
theorem Describes.takeSteps_computes (describes : p.Describes b) (accepted : b.model = .ok m)
    (sound : ∀ q, (w.arena q).Sound) (room : ∀ q, m.plan.required.get q ≤ (w.arena q).remaining)
    {x y : Bytes} (given : inputs.get? p.input = some x) (wanted : outputs.get? p.output = some y)
    (sizeIn : x.length = p.length) (sizeOut : y.length = p.length) (s : σ) :
    ∃ g, m.takeSteps (Frame.start w inputs outputs) s = ⟨.ok (), g, s⟩ ∧ g.bindings.size = 1 ∧
      g.outputs = outputs.insert p.output (raised p.counters.length x) := by
  obtain ⟨made, plan, -⟩ := Model.model_ok accepted
  have enough := fun q => Model.room_for_steps b (sound q) (plan ▸ room q)
  have declared : ∀ q, b.declared.get q = (PerPool.only .ram p.length).get q := by
    intro q
    have sum := (enough q).1
    rw [describes.declarations] at sum
    exact sum.symm
  obtain ⟨f, declares, rests, sameInputs, sameOutputs, one, takes, z, read, size⟩ :=
    declare_buffer p sound (fun q => by
      have := (enough q).2
      have := declared q
      omega) inputs outputs s
  have left : ∀ counter ∈ p.counters,
      f.beginEvaluation.workspace.HasRoom (.only counter.2 p.length) := by
    intro counter mem q
    have asked : (PerPool.only counter.2 p.length).get q ≤ b.maxScratch.get q := by
      apply PerPool.get_le_largest
      rw [describes.evaluations]
      refine List.mem_map.mpr ⟨p.count counter, List.mem_append_left _ ?_, rfl⟩
      exact List.mem_cons_of_mem _ (List.mem_map_of_mem mem)
    have := (enough q).2
    have := declared q
    have := takes.level q
    have := takes.capacity q
    simp only [Frame.beginEvaluation]
    omega
  obtain ⟨g, evaluates, bindings, result⟩ := evaluations_compute (s := s) rests read size
    (sameInputs ▸ given) (sameOutputs ▸ wanted) sizeIn sizeOut left
  refine ⟨g, ?_, (congrArg Table.size bindings).trans one, ?_⟩
  · rw [Model.takeSteps, made, describes.declarations, declares, describes.evaluations]
    exact evaluates
  · rw [result, show f.beginEvaluation.outputs = outputs from sameOutputs]

/-- A run of a pipeline with `k` counters adds `k` to every byte, modulo 256, and leaves the arenas
at the levels of `w`. -/
structure Adds (p : Pipeline) (m : Model σ) (w : Workspace) (supply : Supply)
    (finish : Model.Finish σ) : Prop where
  succeeds : ∃ peak, finish.outcome = .ok {
    model := m.name
    declarations := 1
    evaluations := p.counters.length + 2
    bindings := 1
    peak }
  output : ∃ x z, supply.inputs.get? p.input = some x ∧
    finish.outputs = supply.outputs.insert p.output z ∧ z.length = p.length ∧
    ∀ i < p.length, (z.getD i 0).toNat = ((x.getD i 0).toNat + p.counters.length) % 256
  levels : ∀ q, (finish.workspace.arena q).highWater = (w.arena q).highWater

/-- One run adds the number of counters, and leaves arenas in which the next one can do so. -/
theorem Describes.run_adds (describes : p.Describes b) (accepted : b.model = .ok m)
    (sound : w.Sound) (room : ∀ q, m.plan.required.get q ≤ (w.arena q).remaining)
    {supply : Supply} (supplied : p.Supplied b supply) (s : σ) :
    p.Adds m w supply (m.run w supply.inputs supply.outputs s) ∧
      Model.Leaves w (m.run w supply.inputs supply.outputs s).workspace := by
  obtain ⟨x, given, sizeIn⟩ := supplied.given
  obtain ⟨y, wanted, sizeOut⟩ := supplied.wanted
  obtain ⟨made, -⟩ := Model.model_ok accepted
  obtain ⟨g, taken, one, result⟩ := describes.takeSteps_computes accepted sound.arenas room given
    wanted sizeIn sizeOut s
  have entered : m.checkEntry w supply.inputs supply.outputs = .ok () :=
    Model.checkEntry_ok room (made.symm ▸ supplied.listedInputs)
      (made.symm ▸ supplied.listedOutputs)
  obtain ⟨v, ran, leaves⟩ :=
    Model.run_served (made.symm ▸ describes.asks_harmless) sound entered taken
  rw [ran]
  refine ⟨⟨⟨g.peak, ?_⟩, ⟨x, _, given, result, (List.length_map _).trans sizeIn, ?_⟩,
    leaves.highWater⟩, leaves⟩
  · have declarations : m.blueprint.declarations.length = 1 := by
      rw [made, describes.declarations, List.length_singleton]
    have evaluations : m.blueprint.evaluations.length = p.counters.length + 2 := by
      rw [made, describes.evaluations]
      simp
    rw [Model.report, declarations, evaluations, one]
  · intro i within
    exact toNat_getD_raised (sizeIn.symm ▸ within)

/-- Runs in a row add the number of counters each. What carries them is that the arenas are left
at the levels of the first, so that there is room for the next. -/
theorem Describes.runs_add (describes : p.Describes b) (accepted : b.model = .ok m)
    {v : Workspace} (leaves : Model.Leaves w v)
    (room : ∀ q, m.plan.required.get q ≤ (w.arena q).remaining) (supplies : List Supply)
    (supplied : ∀ supply ∈ supplies, p.Supplied b supply) (s : σ) :
    List.Forall₂ (p.Adds m w) supplies (m.runs v s supplies) := by
  induction supplies generalizing v s with
  | nil => exact .nil
  | cons supply rest ih =>
    obtain ⟨first, others⟩ := List.forall_mem_cons.mp supplied
    have enough : ∀ q, m.plan.required.get q ≤ (v.arena q).remaining := by
      intro q
      rw [leaves.remaining]
      exact room q
    obtain ⟨adds, after⟩ := describes.run_adds accepted leaves.sound enough first s
    refine .cons ⟨adds.succeeds, adds.output, fun q => ?_⟩ (ih (leaves.trans after) others _)
    rw [adds.levels, leaves.highWater]

/-- **Increments add up, run after run.** Take a pipeline that was accepted, with any number of
counters in either pool, and arenas that were brought to any levels and hold any bytes, with room
for its plan. However often it is run, each run succeeds, adds the number of counters to every byte
of its input, and leaves both arenas at the levels at which the first one found them. -/
theorem increments_add_up (describes : p.Describes b) (accepted : b.model = .ok m)
    {issued : PerPool (List Token)} (reached : ∀ q, (w.arena q).Reached (issued.get q))
    (distinct : (w.arena .metadata).id ≠ (w.arena .ram).id)
    (room : ∀ q, m.plan.required.get q ≤ (w.arena q).remaining) (supplies : List Supply)
    (supplied : ∀ supply ∈ supplies, p.Supplied b supply) (s : σ) :
    List.Forall₂ (p.Adds m w) supplies (m.runs w s supplies) := by
  have sound := Workspace.sound_of_distinct (fun q => (reached q).sound.1) distinct
  exact describes.runs_add accepted (.refl sound) room supplies supplied s

end Runs

/-! A pipeline of three counters whose scratch lies in either pool, run twice in arenas where five
bytes of each are claimed. The bytes of the ram arena were all written before. -/

namespace Staged

def pipeline : Pipeline where
  binding := "x"
  length := 3
  input := "input"
  output := "output"
  counters := [("first", .ram), ("second", .metadata), ("third", .ram)]

def blueprint : Blueprint Unit where
  name := "staged"
  capacities := ⟨8, 16⟩
  inputs := ["input"]
  outputs := ["output"]
  declarations := [.ramBuffer "x" 3]
  evaluations := .load "input" "x" :: pipeline.counters.map pipeline.count ++ [.store "x" "output"]

def model : Model Unit := ⟨blueprint, blueprint.needs⟩

def emptyMetadata : Arena := ⟨⟨1⟩, .metadata, Buffer.zeroed 8, 0, 0, 0, 0, .empty, .empty, 0⟩

def emptyRam : Arena := ⟨⟨2⟩, .ram, Buffer.zeroed 16, 0, 0, 0, 0, .empty, .empty, 0⟩

/-- A claim of the whole ram arena. -/
def whole : Handle := ⟨⟨2⟩, .ram, 0, 16, ⟨0, 0⟩, .empty⟩

/-- The ram arena after its bytes were written and given back. -/
def worn : Arena :=
  ((((emptyRam.perform (.allocate 16 1)).2.perform
    (.modify whole fun _ => List.replicate 16 171)).2).perform (.release whole)).2

def arenas : Workspace where
  arenas := ⟨(emptyMetadata.perform (.allocate 5 1)).2, (worn.perform (.allocate 5 1)).2⟩
  serves p := by cases p <;> decide +kernel

def issued : PerPool (List Token) :=
  ⟨[.handle ⟨⟨1⟩, .metadata, 0, 5, ⟨0, 0⟩, .empty⟩],
    [.handle ⟨⟨2⟩, .ram, 0, 5, ⟨0, 2⟩, .empty⟩, .handle whole]⟩

theorem reached_worn : worn.Reached [.handle whole] := by
  have fresh : emptyRam.Reached [] :=
    .built (Arena.build_ok_iff.mpr ⟨by decide, by decide, rfl⟩)
  have claimed : (emptyRam.perform (.allocate 16 1)).2.Reached [.handle whole] :=
    .called (.allocate 16 1) fresh (by decide)
  have written : ((emptyRam.perform (.allocate 16 1)).2.perform
      (.modify whole fun _ => List.replicate 16 171)).2.Reached [.handle whole] :=
    .called (.modify whole fun _ => List.replicate 16 171) claimed (by decide)
  exact .called (.release whole) written (by decide)

theorem reached (p : Pool) : (arenas.arena p).Reached (issued.get p) := by
  cases p with
  | metadata =>
    have fresh : emptyMetadata.Reached [] :=
      .built (Arena.build_ok_iff.mpr ⟨by decide, by decide, rfl⟩)
    exact .called (.allocate 5 1) fresh (by decide)
  | ram =>
    have answer : (worn.perform (.allocate 5 1)).1 =
        .ok ⟨⟨2⟩, .ram, 0, 5, ⟨0, 2⟩, .empty⟩ := by decide +kernel
    have again := reached_worn.called (.allocate 5 1) (by decide)
    rw [answer] at again
    exact again

def supply (input : Bytes) : Supply :=
  ⟨.ofList [("input", input)], .ofList [("output", [9, 9, 9])]⟩

theorem supplied (input : Bytes) (size : input.length = 3) :
    pipeline.Supplied blueprint (supply input) where
  listedInputs name mem := by
    cases List.mem_singleton.mp mem
    rfl
  listedOutputs name mem := by
    cases List.mem_singleton.mp mem
    rfl
  given := ⟨input, rfl, size⟩
  wanted := ⟨[9, 9, 9], rfl, rfl⟩

theorem output_of_adds {input : Bytes} {finish : Model.Finish Unit}
    (adds : pipeline.Adds model arenas (supply input) finish) :
    ∃ z, finish.outputs.get? "output" = some z ∧
      ∀ i < 3, (z.getD i 0).toNat = ((input.getD i 0).toNat + 3) % 256 := by
  obtain ⟨x, z, given, result, -, each⟩ := adds.output
  have same : input = x := Option.some.inj given
  subst same
  refine ⟨z, ?_, each⟩
  rw [result, Table.get?_insert]
  exact if_pos rfl

end Staged

open Staged in
/-- Three is added to `[254, 255, 0]` in the first run and to `[7, 8, 9]` in the second. -/
theorem increments_add_up_staged :
    pipeline.Describes blueprint ∧ blueprint.model = .ok model ∧
      (∀ p, (arenas.arena p).Reached (issued.get p)) ∧
      (arenas.arena .metadata).id ≠ (arenas.arena .ram).id ∧
      (∀ p, model.plan.required.get p ≤ (arenas.arena p).remaining) ∧
      (arenas.arena .ram).buffer.view 5 3 = [171, 171, 171] ∧
      ∃ first second, model.runs arenas () [supply [254, 255, 0], supply [7, 8, 9]] =
          [first, second] ∧
        (∃ z, first.outputs.get? "output" = some z ∧
          ∀ i < 3, (z.getD i 0).toNat = [1, 2, 3].getD i 0) ∧
        (∃ z, second.outputs.get? "output" = some z ∧
          ∀ i < 3, (z.getD i 0).toNat = [10, 11, 12].getD i 0) ∧
        ∀ p, (second.workspace.arena p).highWater = 5 := by
  have describes : pipeline.Describes blueprint := ⟨rfl, rfl⟩
  have accepted : blueprint.model = .ok model := rfl
  have distinct : (arenas.arena .metadata).id ≠ (arenas.arena .ram).id := by decide +kernel
  have room : ∀ p, model.plan.required.get p ≤ (arenas.arena p).remaining := by
    intro p
    cases p <;> decide +kernel
  have dirty : (arenas.arena .ram).buffer.view 5 3 = [171, 171, 171] := by decide +kernel
  have both : ∀ s ∈ [supply [254, 255, 0], supply [7, 8, 9]], pipeline.Supplied blueprint s :=
    List.forall_mem_cons.mpr ⟨supplied _ rfl, List.forall_mem_singleton.mpr (supplied _ rfl)⟩
  have adds := increments_add_up describes accepted reached distinct room _ both ()
  refine ⟨describes, accepted, reached, distinct, room, dirty, ?_⟩
  obtain ⟨first, second, ran⟩ : ∃ first second,
      model.runs arenas () [supply [254, 255, 0], supply [7, 8, 9]] = [first, second] :=
    ⟨_, _, rfl⟩
  rw [ran] at adds
  cases adds with
  | cons one rest =>
    cases rest with
    | cons two _ =>
      obtain ⟨z, firstOutput, each⟩ := output_of_adds one
      obtain ⟨u, secondOutput, every⟩ := output_of_adds two
      have level : ∀ p, (arenas.arena p).highWater = 5 := by
        intro p
        cases p <;> decide +kernel
      have sums : ∀ i < 3, ((([254, 255, 0] : Bytes).getD i 0).toNat + 3) % 256 =
          [1, 2, 3].getD i 0 := by decide
      have others : ∀ i < 3, ((([7, 8, 9] : Bytes).getD i 0).toNat + 3) % 256 =
          [10, 11, 12].getD i 0 := by decide
      exact ⟨first, second, ran,
        ⟨z, firstOutput, fun i within => (each i within).trans (sums i within)⟩,
        ⟨u, secondOutput, fun i within => (every i within).trans (others i within)⟩,
        fun p => (two.levels p).trans (level p)⟩

end Pipeline

end TensorArena
