import TensorArena.Proofs.Model.LayeredSums
import TensorArena.Proofs.Model.Served

/-!
A layered network computes what it says.

A run of the network binds its activations, one after the other, and then takes two steps for
each layer. Between steps the frame has no scratch and every activation is there in its size
(`Ready`). A dense step claims scratch over whatever bytes lie there, fills every word of it
before it reads one, and its scratch is given back; the rectifier works in place. So each layer
leaves the next activation as the network defines it, in arenas of any levels and contents that
have room for the plan.
-/

namespace TensorArena

namespace Layered

variable {σ : Type} {f g : Frame} {grounds : Pool → Top} {s : σ} {layers width l : Nat}
  {x y : Bytes}

/-- Activations have names of their own. -/
theorem activation_injective {k : Nat} (same : activation l = activation k) : l = k := by
  have digits : l.repr = k.repr := by simpa [activation] using same
  exact Nat.repr_inj.mp digits

/-! ### Between steps -/

/-- The frame rests and has every activation in its size. -/
structure Ready (grounds : Pool → Top) (layers width : Nat) (f : Frame) : Prop
    extends f.Resting grounds where
  sized : ∀ l ≤ layers, ∃ z, f.read (.binding (activation l)) = .ok z ∧ z.length = width

/-- A step that rewrites one activation in its size leaves a frame that is ready. -/
theorem Ready.evaluated {step : Step σ} (ready : Ready grounds layers width f)
    (ran : (step.body s).run f = ((.ok (), s), g)) (tidy : g.Tidy grounds) (beside : f.Beside g)
    (shows : g.read (.binding (activation l)) = .ok y) (size : y.length = width)
    (others : ∀ k ≠ l, ∀ z, f.read (.binding (activation k)) = .ok z →
      g.read (.binding (activation k)) = .ok z) :
    ∃ h, Model.evaluate step f s = ⟨.ok (), h, s⟩ ∧ Ready grounds layers width h ∧ f.Beside h ∧
      h.read (.binding (activation l)) = .ok y := by
  obtain ⟨h, evaluated, rests, still, reads⟩ :=
    Model.evaluate_resting ready.toResting ran tidy beside
  refine ⟨h, evaluated, ⟨rests, ?_⟩, still, reads _ _ shows⟩
  intro k within
  by_cases here : k = l
  · exact ⟨y, reads _ _ (here ▸ shows), size⟩
  · obtain ⟨z, read, length⟩ := ready.sized k within
    exact ⟨z, reads _ _ (others k here z read), length⟩

/-! ### Steps -/

theorem evaluate_load (ready : Ready grounds layers width f)
    (given : f.inputs.get? "input" = some x) (size : x.length = width) :
    ∃ g, Model.evaluate load f s = ⟨.ok (), g, s⟩ ∧ Ready grounds layers width g ∧ f.Beside g ∧
      g.read (.binding (activation 0)) = .ok x := by
  obtain ⟨z, read, length⟩ := ready.sized 0 (Nat.zero_le _)
  obtain ⟨g, done, tidy, beside, shows, others⟩ :=
    ready.tidy.load_served given read (length.trans size.symm)
  have ran : ((load : Step σ).body s).run f = ((.ok (), s), g) := by
    simp only [load, Step.stateless, ExceptT.run_mk, Program.run_bind, Program.ask, Program.run,
      Frame.perform, done, Program.run_pure]
  refine ready.evaluated ran tidy beside shows size ?_
  intro k other z there
  exact others _ _ (by simpa using fun same => other (activation_injective same)) there

/-- **A dense step** leaves a clamped quarter of each weighted sum. It reads no word of its scratch
that it has not written. -/
theorem evaluate_dense (ready : Ready grounds layers width f) (within : l < layers)
    (room : f.workspace.HasRoom (.only .ram (width * 4 + 3))) (narrow : width ≤ 64 * 1024)
    (held : f.read (.binding (activation l)) = .ok x) (size : x.length = width) :
    ∃ g, Model.evaluate (dense l width) f s = ⟨.ok (), g, s⟩ ∧ Ready grounds layers width g ∧
      f.Beside g ∧
      g.read (.binding (activation (l + 1))) = .ok (quantize (accumulate x width)) := by
  obtain ⟨z, next, length⟩ := ready.sized (l + 1) within
  obtain ⟨f₁, claimed, tidy₁, beside₁, ⟨words, found, wide⟩, kept₁⟩ :=
    ready.tidy.claimScratch_served ready.evaluating .ram (width * 4) 4 (by decide) room
  obtain ⟨f₂, summed, tidy₂, beside₂, input, sums, kept₂⟩ := tidy₁.modifyPair_served
    (kept₁ _ _ (by simp) held) found (by simp)
    (fun input words => (input, accumulate input (words.length / 4)))
  have filled : Bytes.overlay (accumulate x (words.length / 4)) words = accumulate x width := by
    have count : words.length / 4 = width := by omega
    rw [count]
    apply Bytes.overlay_of_length_eq
    rw [length_accumulate, wide, Nat.mul_comm]
  rw [filled] at sums
  rw [Bytes.overlay_of_length_eq rfl] at input
  have before : f₂.read (.binding (activation (l + 1))) = .ok z := by
    refine kept₂ _ _ ?_ (kept₁ _ _ (by simp) next)
    simpa using fun same => Nat.succ_ne_self l (activation_injective same)
  obtain ⟨f₃, quantized, tidy₃, beside₃, -, shows, kept₃⟩ := tidy₂.modifyPair_served sums before
    (by simp) (fun words output => (words, (quantize words).take output.length))
  have whole : (quantize (accumulate x width)).length = width :=
    length_quantize_accumulate (size.symm ▸ narrow) width
  rw [length, List.take_of_length_le (Nat.le_of_eq whole),
    Bytes.overlay_of_length_eq (whole.trans length.symm)] at shows
  have ran : ((dense l width).body s).run f = ((.ok (), s), f₃) := by
    simp only [dense, Step.stateless, ExceptT.run_bind, ExceptT.run_mk, Program.run_bind,
      Program.ask, Program.run, Frame.perform, claimed, summed, quantized, ExceptT.run_pure,
      Program.run_pure]
  refine ready.evaluated ran tidy₃ ((beside₁.trans beside₂).trans beside₃) shows whole ?_
  intro k other y there
  have last : ∀ y, f₂.read (.binding (activation k)) = .ok y →
      f₃.read (.binding (activation k)) = .ok y :=
    fun y => kept₃ _ y (by simpa using fun same => other (activation_injective same))
  by_cases here : k = l
  · subst here
    cases held.symm.trans there
    exact last _ input
  · refine last y (kept₂ _ _ ?_ (kept₁ _ _ (by simp) there))
    simpa using fun same => here (activation_injective same)

/-- The rectifier works in place. -/
theorem evaluate_rectifier (ready : Ready grounds layers width f)
    (held : f.read (.binding (activation (l + 1))) = .ok x) (size : x.length = width) :
    ∃ g, Model.evaluate (rectifier l) f s = ⟨.ok (), g, s⟩ ∧ Ready grounds layers width g ∧
      f.Beside g ∧ g.read (.binding (activation (l + 1))) = .ok (x.map rectify) := by
  obtain ⟨g, done, tidy, beside, shows, others⟩ := ready.tidy.write_served held (List.map rectify)
  rw [Bytes.overlay_of_length_eq (List.length_map _)] at shows
  have wrote : f.modifyBinding (activation (l + 1)) (List.map rectify) = (.ok x, g) := done
  have ran : ((rectifier l).body s).run f = ((.ok (), s), g) := by
    simp only [rectifier, Step.stateless, ExceptT.run_bind, ExceptT.run_mk, Program.run_bind,
      Program.ask, Program.run, Frame.perform, wrote, ExceptT.run_pure, Program.run_pure]
  refine ready.evaluated ran tidy beside shows ((List.length_map _).trans size) ?_
  intro k other z there
  exact others _ _ (by simpa using fun same => other (activation_injective same)) there

/-! ### Layers -/

/-- **The layers** leave the activations of the network, each read from the one before. -/
theorem evaluate_layers (ready : Ready grounds layers width f)
    (room : layers ≠ 0 → f.workspace.HasRoom (.only .ram (width * 4 + 3)))
    (narrow : width ≤ 64 * 1024) (held : f.read (.binding (activation 0)) = .ok x)
    (size : x.length = width) {n : Nat} (within : n ≤ layers) :
    ∃ g, Model.evaluateAll ((List.range n).flatMap fun l => [dense l width, rectifier l]) f s =
        ⟨.ok (), g, s⟩ ∧
      Ready grounds layers width g ∧ f.Beside g ∧
      g.read (.binding (activation n)) = .ok (activations x n) := by
  induction n with
  | zero => exact ⟨f, rfl, ready, .refl f, held⟩
  | succ n ih =>
    obtain ⟨g, before, ready₁, beside₁, read⟩ := ih (Nat.le_of_succ_le within)
    have length : (activations x n).length = width :=
      (length_activations (size.symm ▸ narrow) n).trans size
    have enough : g.workspace.HasRoom (.only .ram (width * 4 + 3)) := by
      intro p
      rw [beside₁.highWater ready.idle ready₁.idle, beside₁.capacity]
      exact room (Nat.ne_zero_of_lt within) p
    obtain ⟨h, summed, ready₂, beside₂, sums⟩ :=
      evaluate_dense (s := s) ready₁ within enough narrow read length
    have whole : (quantize (accumulate (activations x n) width)).length = width :=
      length_quantize_accumulate (length.symm ▸ narrow) width
    obtain ⟨k, rectified, ready₃, beside₃, shows⟩ := evaluate_rectifier (s := s) ready₂ sums whole
    refine ⟨k, ?_, ready₃, (beside₁.trans beside₂).trans beside₃, ?_⟩
    · rw [List.range_succ, List.flatMap_append, Model.evaluateAll_append, before]
      simp only [List.flatMap_singleton, Model.evaluateAll, summed, rectified]
    · rw [shows, activations, layer, length]

/-- **The evaluations** leave the last activation in the output. -/
theorem evaluations_compute (ready : Ready grounds layers width f)
    (room : layers ≠ 0 → f.workspace.HasRoom (.only .ram (width * 4 + 3)))
    (narrow : width ≤ 64 * 1024) (given : f.inputs.get? "input" = some x)
    (wanted : f.outputs.get? "output" = some y) (sizeIn : x.length = width)
    (sizeOut : y.length = width) :
    ∃ g, Model.evaluateAll (evaluations layers width) f s = ⟨.ok (), g, s⟩ ∧
      g.bindings = f.bindings ∧ g.outputs = f.outputs.insert "output" (activations x layers) := by
  obtain ⟨f₁, loads, ready₁, beside₁, held⟩ := evaluate_load (s := s) ready given sizeIn
  have enough : layers ≠ 0 → f₁.workspace.HasRoom (.only .ram (width * 4 + 3)) := by
    intro some p
    rw [beside₁.highWater ready.idle ready₁.idle, beside₁.capacity]
    exact room some p
  obtain ⟨f₂, computes, ready₂, beside₂, last⟩ :=
    evaluate_layers (s := s) ready₁ enough narrow held sizeIn (Nat.le_refl layers)
  have beside := beside₁.trans beside₂
  have length : (activations x layers).length = width :=
    (length_activations (sizeIn.symm ▸ narrow) layers).trans sizeIn
  obtain ⟨g, stores, bindings, result⟩ := Model.evaluate_store (store layers) (s := s) rfl
    ready₂.toResting last (beside.outputs ▸ wanted) (sizeOut.trans length.symm)
  refine ⟨g, ?_, bindings.trans beside.bindings, ?_⟩
  · rw [evaluations, Model.evaluateAll_append]
    simp only [Model.evaluateAll, loads, computes, stores]
  · rw [result, beside.outputs]

/-! ### Declarations -/

/-- The descriptor of an activation. -/
def descriptor (width : Nat) : Tensor.Descriptor := ⟨.i8, [1, width.toUInt32], 0⟩

theorem byteLength_descriptor (small : width < UInt32.size) :
    (descriptor width).byteLength = .ok width := by
  have same : width.toUInt32.toNat = width := UInt32.toNat_ofNat_of_lt' small
  simp only [UInt32.size] at small
  have count : (descriptor width).elementCount? = some width := by
    have first : ByteCount.mul? 1 1 = some 1 := rfl
    have second : ByteCount.mul? 1 width.toUInt32.toNat = some width :=
      ByteCount.mul?_eq_some_iff.mpr ⟨by omega, by simp only [ByteCount.largest]; omega⟩
    show ((ByteCount.mul? 1 1).bind fun n => (ByteCount.mul? n width.toUInt32.toNat).bind some) = _
    rw [first, Option.bind_some, second, Option.bind_some]
  have size : ByteCount.mul? width 1 = some width :=
    ByteCount.mul?_eq_some_iff.mpr ⟨by omega, by simp only [ByteCount.largest]; omega⟩
  have element : (descriptor width).dtype.size = 1 := rfl
  rw [Tensor.Descriptor.byteLength, count, Option.bind_some, element, size]

theorem payloadLength_descriptor (small : width < UInt32.size) :
    Frame.payloadLength (descriptor width) = .ok width :=
  Frame.payloadLength_ok_iff.mpr ⟨by show 2 ≤ 4; decide, byteLength_descriptor small⟩

/-- The first `n` activations with their descriptors. -/
def activationTensors (width n : Nat) : List (String × Tensor.Descriptor) :=
  (List.range n).map fun l => (activation l, descriptor width)

theorem tensorsDemand_activations (p : Pool) (n : Nat) :
    Model.tensorsDemand p (activationTensors width n) =
      n * (Step.tensorDemand (descriptor width)).get p := by
  have each : (activationTensors width n).map (fun t => (Step.tensorDemand t.2).get p) =
      (List.range n).map fun _ => (Step.tensorDemand (descriptor width)).get p := List.map_map
  rw [Model.tensorsDemand, each, List.map_const', List.length_range, List.sum_replicate_nat]

/-- **The declarations** bind every activation, where there is room for them all. -/
theorem declare_activations {w : Workspace} (sound : ∀ p, (w.arena p).Sound)
    (inputs outputs : Table Bytes) (small : width < UInt32.size) {n : Nat}
    (room : ∀ p, (w.arena p).highWater + n * (Step.tensorDemand (descriptor width)).get p ≤
      (w.arena p).capacity) :
    ∃ g, Model.declareAll
        ((List.range n).map fun l => Step.tensor (activation l) (descriptor width))
        (Frame.start w inputs outputs) s = ⟨.ok (), g, s⟩ ∧
      Model.Declares (fun p => (w.arena p).top) (activationTensors width n)
        (Frame.start w inputs outputs) g := by
  have names : (activationTensors width n).map (·.1) = (List.range n).map activation :=
    List.map_map
  have distinct : ((activationTensors width n).map (·.1)).Nodup := by
    rw [names]
    exact List.nodup_range.map fun _ _ same => activation_injective same
  have measured : ∀ t ∈ activationTensors width n,
      ∃ length, Frame.payloadLength t.2 = .ok length := by
    intro t mem
    obtain ⟨l, -, rfl⟩ := List.mem_map.mp mem
    exact ⟨width, payloadLength_descriptor small⟩
  obtain ⟨g, declared, declares⟩ := Model.declare_tensors (s := s)
    (Frame.Tidy.start sound inputs outputs) rfl (fun _ _ => rfl) distinct measured fun p => by
      rw [tensorsDemand_activations]
      exact room p
  refine ⟨g, ?_, declares⟩
  rw [← declared, Model.tensorSteps, activationTensors, List.map_map]
  rfl

/-! ### Runs -/

section Runs

variable {m : Model σ} {w : Workspace} {inputs outputs : Table Bytes}

/-- What the activations ask for together. -/
theorem sum_declared (p : Pool) :
    ((declarations layers width : List (Step σ)).map (·.demand.get p)).sum =
      (layers + 1) * (Step.tensorDemand (descriptor width)).get p := by
  rw [← tensorsDemand_activations, Model.tensorsDemand, declarations, activationTensors,
    List.map_map, List.map_map]
  rfl

/-- A network that is accepted is no wider than its ram arena. -/
theorem narrow_of_model (small : width < UInt32.size)
    (accepted : (blueprint layers width : Blueprint σ).model = .ok m) : width ≤ 64 * 1024 := by
  have fits : (blueprint layers width : Blueprint σ).needs.required.get .ram ≤ 64 * 1024 :=
    (Model.model_ok accepted).2.2 .ram
  obtain ⟨sum, exact⟩ := Model.required_eq (blueprint layers width : Blueprint σ)
    (Nat.lt_of_le_of_lt fits (by decide))
  have all : (layers + 1) * (Step.tensorDemand (descriptor width)).get .ram =
      (blueprint layers width : Blueprint σ).declared.get .ram := (sum_declared .ram).symm.trans sum
  have one : (Step.tensorDemand (descriptor width)).get .ram =
      min (width + ((descriptor width).dtype.align - 1)) ByteCount.largest := by
    simp only [Step.tensorDemand, Step.tensorBytes, PerPool.get, byteLength_descriptor small,
      ByteCount.satAdd]
  rw [Nat.succ_mul] at all
  simp only [ByteCount.largest] at one
  omega

/-- The steps of the network make their calls on the frame only. -/
theorem asks_harmless : ∀ step ∈ (blueprint layers width : Blueprint σ).steps, ∀ s,
    (step.body s).Asks Frame.Call.Harmless := by
  intro step mem s
  simp only [Blueprint.steps, blueprint, declarations, evaluations, List.mem_append, List.mem_map,
    List.mem_cons, List.mem_flatMap, List.not_mem_nil, or_false] at mem
  rcases mem with ⟨l, -, rfl⟩ | (rfl | ⟨l, -, rfl | rfl⟩) | rfl
  · exact ⟨⟨rfl, rfl⟩, fun _ => trivial⟩
  · exact ⟨⟨rfl, rfl⟩, fun _ => trivial⟩
  · refine ⟨⟨rfl, rfl⟩, fun claimed => ?_⟩
    cases claimed with
    | error => trivial
    | ok id =>
      refine ⟨⟨rfl, rfl⟩, fun summed => ?_⟩
      cases summed with
      | error => trivial
      | ok bytes =>
        refine ⟨⟨rfl, rfl⟩, fun quantized => ?_⟩
        cases quantized <;> trivial
  · refine ⟨⟨rfl, rfl⟩, fun rectified => ?_⟩
    cases rectified <;> trivial
  · exact ⟨⟨rfl, rfl⟩, fun _ => trivial⟩

/-- A network with a layer asks for the scratch of one. -/
theorem scratch_le_maxScratch (some : layers ≠ 0) (p : Pool) :
    (PerPool.only .ram (width * 4 + 3)).get p ≤
      (blueprint layers width : Blueprint σ).maxScratch.get p := by
  apply PerPool.get_le_largest
  refine List.mem_map.mpr ⟨dense 0 width, ?_, rfl⟩
  apply List.mem_append_left
  apply List.mem_cons_of_mem
  exact List.mem_flatMap.mpr ⟨0, List.mem_range.mpr (Nat.pos_of_ne_zero some), List.mem_cons_self⟩

/-- The steps bind every activation and leave the last one in the output. -/
theorem takeSteps_computes (small : width < UInt32.size)
    (accepted : (blueprint layers width : Blueprint σ).model = .ok m)
    (sound : ∀ p, (w.arena p).Sound) (room : ∀ p, m.plan.required.get p ≤ (w.arena p).remaining)
    (given : inputs.get? "input" = some x) (wanted : outputs.get? "output" = some y)
    (sizeIn : x.length = width) (sizeOut : y.length = width) :
    ∃ g, m.takeSteps (Frame.start w inputs outputs) s = ⟨.ok (), g, s⟩ ∧
      g.bindings.size = layers + 1 ∧
      g.outputs = outputs.insert "output" (activations x layers) := by
  obtain ⟨made, plan, -⟩ := Model.model_ok accepted
  have enough := fun p => Model.room_for_steps (blueprint layers width : Blueprint σ) (sound p)
    (plan ▸ room p)
  have total : ∀ p, (layers + 1) * (Step.tensorDemand (descriptor width)).get p =
      (blueprint layers width : Blueprint σ).declared.get p :=
    fun p => (sum_declared p).symm.trans (enough p).1
  obtain ⟨f, declares, declared⟩ := declare_activations (s := s) (n := layers + 1) sound inputs
    outputs small fun p => by
      have fits := (enough p).2
      rw [total]
      omega
  have ready : Ready (fun p => (w.arena p).top) layers width f.beginEvaluation := by
    refine ⟨⟨⟨declared.tidy.stacked, declared.tidy.piled, fun _ => rfl⟩, rfl,
      declared.tidy.scratch_eq_nil declared.phase⟩, fun l within => ?_⟩
    obtain ⟨z, read, measured⟩ := declared.bound _
      (List.mem_map_of_mem (List.mem_range.mpr (Nat.lt_succ_of_le within)))
    cases (payloadLength_descriptor small).symm.trans measured
    exact ⟨z, read, rfl⟩
  have left : layers ≠ 0 → f.beginEvaluation.workspace.HasRoom (.only .ram (width * 4 + 3)) := by
    intro some p
    have asked : (PerPool.only .ram (width * 4 + 3)).get p ≤
        (blueprint layers width : Blueprint σ).maxScratch.get p := scratch_le_maxScratch some p
    have fits := (enough p).2
    have level := declared.level p
    rw [tensorsDemand_activations, total] at level
    have capacity := declared.capacity p
    simp only [Frame.beginEvaluation, Frame.start] at level capacity ⊢
    omega
  obtain ⟨g, evaluates, bindings, result⟩ := evaluations_compute (s := s) ready left
    (narrow_of_model small accepted) (declared.inputs ▸ given) (declared.outputs ▸ wanted) sizeIn sizeOut
  have before : Model.declareAll (blueprint layers width : Blueprint σ).declarations
      (Frame.start w inputs outputs) s = ⟨.ok (), f, s⟩ := declares
  refine ⟨g, ?_, (congrArg Table.size bindings).trans ?_, ?_⟩
  · rw [Model.takeSteps, made, before]
    exact evaluates
  · refine declared.count.trans ?_
    simp [activationTensors, Frame.start, Table.size, Table.empty]
  · rw [result, show f.beginEvaluation.outputs = outputs from declared.outputs]

/-- **A layered network computes what it says.** Take a network that was accepted, arenas that
were brought to any levels and hold any bytes, with room for its plan, and an input and an output
of its width. The run succeeds, the output is what the network makes of the input, and whatever
bytes an activation holds, no part of a weighted sum of them leaves the range of a word. -/
theorem layered_computes (small : width < 2 ^ 32)
    (accepted : (blueprint layers width : Blueprint σ).model = .ok m)
    {issued : PerPool (List Token)} (reached : ∀ p, (w.arena p).Reached (issued.get p))
    (distinct : (w.arena .metadata).id ≠ (w.arena .ram).id)
    (room : ∀ p, m.plan.required.get p ≤ (w.arena p).remaining)
    (given : inputs.get? "input" = some x) (wanted : outputs.get? "output" = some y)
    (sizeIn : x.length = width) (sizeOut : y.length = width) (s : σ) :
    (∃ peak, (m.run w inputs outputs s).outcome = .ok {
        model := m.name
        declarations := layers + 1
        evaluations := 2 * layers + 2
        bindings := layers + 1
        peak }) ∧
      (∃ z, (m.run w inputs outputs s).outputs = outputs.insert "output" z ∧ z.length = width ∧
        ∀ j < width, signed (z.getD j 0) = reference x layers j) ∧
      ∀ a : Bytes, a.length = width → ∀ j n,
        -2 ^ 31 ≤ weighted j 0 (a.take n) ∧ weighted j 0 (a.take n) < 2 ^ 31 := by
  have sound := Workspace.sound_of_distinct (fun p => (reached p).sound.1) distinct
  have narrow := narrow_of_model small accepted
  obtain ⟨made, -⟩ := Model.model_ok accepted
  obtain ⟨g, taken, bound, result⟩ := takeSteps_computes (s := s) small accepted sound.arenas room
    given wanted sizeIn sizeOut
  have entered : m.checkEntry w inputs outputs = .ok () := by
    apply Model.checkEntry_ok room
    · simp [made, blueprint, Table.contains, given]
    · simp [made, blueprint, Table.contains, wanted]
  obtain ⟨u, ran, -⟩ := Model.run_served (made.symm ▸ asks_harmless) sound entered taken
  refine ⟨⟨g.peak, ?_⟩, ⟨activations x layers, ?_, ?_, ?_⟩, ?_⟩
  · have declarations : m.blueprint.declarations.length = layers + 1 := by
      simp [made, blueprint, Layered.declarations]
    have evaluations : m.blueprint.evaluations.length = 2 * layers + 2 := by
      simp [made, blueprint, Layered.evaluations, List.length_flatMap, Nat.mul_comm]
    rw [ran, Model.report, declarations, evaluations, bound]
  · rw [ran, result]
  · exact (length_activations (sizeIn.symm ▸ narrow) layers).trans sizeIn
  · intro j within
    exact signed_activations (sizeIn.symm ▸ narrow) layers (sizeIn.symm ▸ within)
  · intro a size j n
    apply weighted_fits
    rw [List.length_take]
    omega

end Runs

/-! A network of two layers, in a ram arena whose bytes were all written before and where five of
them are still claimed. -/

namespace Dirty

def metadata : Arena := ⟨⟨1⟩, .metadata, Buffer.zeroed 96, 0, 0, 0, 0, .empty, .empty, 0⟩

def emptyRam : Arena := ⟨⟨2⟩, .ram, Buffer.zeroed 32, 0, 0, 0, 0, .empty, .empty, 0⟩

/-- A claim of the whole ram arena. -/
def whole : Handle := ⟨⟨2⟩, .ram, 0, 32, ⟨0, 0⟩, .empty⟩

def written : Arena :=
  ((emptyRam.perform (.allocate 32 1)).2.perform
    (.modify whole fun _ => List.replicate 32 171)).2

def arenas : Workspace where
  arenas := ⟨metadata, ((written.perform (.release whole)).2.perform (.allocate 5 1)).2⟩
  serves p := by cases p <;> decide +kernel

def issued : PerPool (List Token) :=
  ⟨[], [.handle ⟨⟨2⟩, .ram, 0, 5, ⟨0, 2⟩, .empty⟩, .handle whole]⟩

theorem reached (p : Pool) : (arenas.arena p).Reached (issued.get p) := by
  cases p with
  | metadata => exact .built (Arena.build_ok_iff.mpr ⟨by decide, by decide, rfl⟩)
  | ram =>
    have fresh : emptyRam.Reached [] :=
      .built (Arena.build_ok_iff.mpr ⟨by decide, by decide, rfl⟩)
    have claimed : (emptyRam.perform (.allocate 32 1)).2.Reached [.handle whole] :=
      .called (.allocate 32 1) fresh (by decide)
    have wrote : written.Reached [.handle whole] :=
      .called (.modify whole fun _ => List.replicate 32 171) claimed (by decide)
    have released : (written.perform (.release whole)).2.Reached [.handle whole] :=
      .called (.release whole) wrote (by decide)
    have answer : ((written.perform (.release whole)).2.perform (.allocate 5 1)).1 =
        .ok ⟨⟨2⟩, .ram, 0, 5, ⟨0, 2⟩, .empty⟩ := by decide +kernel
    have again := released.called (.allocate 5 1) (by decide)
    rw [answer] at again
    simp only [Workspace.arena, arenas, issued, PerPool.get]
    exact again

def model : Model Unit := ⟨blueprint 2 3, (blueprint 2 3 : Blueprint Unit).needs⟩

def inputs : Table Bytes := .ofList [("input", [100, 200, 90])]

def outputs : Table Bytes := .ofList [("output", [1, 2, 3])]

end Dirty

open Dirty in
/-- The network makes `[9, 0, 0]` of `[100, -56, 90]`. -/
theorem layered_computes_dirty :
    (blueprint 2 3 : Blueprint Unit).model = .ok model ∧
      (∀ p, (arenas.arena p).Reached (issued.get p)) ∧
      (arenas.arena .metadata).id ≠ (arenas.arena .ram).id ∧
      (∀ p, model.plan.required.get p ≤ (arenas.arena p).remaining) ∧
      (arenas.arena .ram).highWater = 5 ∧ (arenas.arena .ram).buffer.view 5 3 = [171, 171, 171] ∧
      (∃ peak, (model.run arenas inputs outputs ()).outcome = .ok ⟨"layered_2x3", 3, 6, 3, peak⟩) ∧
      ∃ z, (model.run arenas inputs outputs ()).outputs = outputs.insert "output" z ∧
        z.length = 3 ∧ ∀ j < 3, signed (z.getD j 0) = [9, 0, 0].getD j 0 := by
  have accepted : (blueprint 2 3 : Blueprint Unit).model = .ok model := rfl
  have distinct : (arenas.arena .metadata).id ≠ (arenas.arena .ram).id := by decide +kernel
  have room : ∀ p, model.plan.required.get p ≤ (arenas.arena p).remaining := by
    intro p
    cases p <;> decide +kernel
  have given : inputs.get? "input" = some [100, 200, 90] := rfl
  have wanted : outputs.get? "output" = some [1, 2, 3] := rfl
  obtain ⟨⟨peak, outcome⟩, ⟨z, result, length, shows⟩, -⟩ :=
    layered_computes (by decide) accepted reached distinct room given wanted rfl rfl ()
  have level : (arenas.arena .ram).highWater = 5 := by decide +kernel
  have dirty : (arenas.arena .ram).buffer.view 5 3 = [171, 171, 171] := by decide +kernel
  have values : ∀ j < 3, reference [100, 200, 90] 2 j = [9, 0, 0].getD j 0 := by decide +kernel
  refine ⟨accepted, reached, distinct, room, level, dirty, ⟨peak, outcome⟩, z, result, length, ?_⟩
  intro j within
  rw [shows j within, values j within]

end Layered

end TensorArena
