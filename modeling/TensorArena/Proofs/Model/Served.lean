import TensorArena.Proofs.Frame.Served
import TensorArena.Proofs.Model.Sufficiency
import TensorArena.Proofs.Workspace.Refusal

/-!
Steps and runs that are served.

Between evaluating steps a frame rests: it has no scratch. A step that succeeds on a resting
frame and changes bytes only leaves one that rests. Tensors are declared one after the other
where there is room for their demands together. A run whose steps make their calls on the frame
only gives back what it took, so that the next run finds sound arenas at the same levels.
-/

namespace TensorArena

/-- The frame evaluates and has no scratch. -/
structure Frame.Resting (grounds : Pool → Top) (f : Frame) : Prop where
  tidy : f.Tidy grounds
  evaluating : f.phase = .evaluating
  idle : f.scratch = []

namespace Model

variable {σ : Type} {f g : Frame} {grounds : Pool → Top} {s t : σ}

/-! ### Evaluating -/

/-- An evaluating step that succeeds and keeps the level below its scratch is done. Its bindings
are read as it left them. -/
theorem evaluate_served {step : Step σ} (ran : (step.body s).run f = ((.ok (), t), g))
    (tidy : g.Tidy grounds) (level : ∀ p, g.base p = (f.workspace.arena p).highWater) :
    ∃ v, let h := { g.noteUsage with workspace := v, scratch := [] }
      evaluate step f s = ⟨.ok (), h, t⟩ ∧ h.Tidy grounds ∧
        (∀ p, (v.arena p).highWater = g.base p ∧
          (v.arena p).capacity = (g.workspace.arena p).capacity) ∧
        ∀ name x, g.read (.binding name) = .ok x → h.read (.binding name) = .ok x := by
  have noted : g.noteUsage.Tidy grounds := tidy.withWorkspace tidy.stacked tidy.piled
  obtain ⟨v, released, -, levels, views⟩ := noted.releaseScratch_ok
  have after := noted.releaseScratch
  rw [released] at after
  refine ⟨v, ?_, after, levels, ?_⟩
  · have balanced : firstMoved? f.usage
        (Frame.usage { g.noteUsage with workspace := v, scratch := [] }) = none := by
      refine firstMoved?_eq_none fun p => ?_
      rw [get_usage, get_usage, ← level]
      exact (levels p).1.symm
    simp only [evaluate, ran, released, balanced]
  · intro name x read
    exact tidy.read_of_views after rfl (fun k _ => views k) read

/-- A step that changes bytes and scratch only leaves a frame that rests. -/
theorem evaluate_resting {step : Step σ} (rests : f.Resting grounds)
    (ran : (step.body s).run f = ((.ok (), t), g)) (tidy : g.Tidy grounds)
    (beside : f.Beside g) : ∃ h, evaluate step f s = ⟨.ok (), h, t⟩ ∧ h.Resting grounds ∧
      f.Beside h ∧ ∀ name x, g.read (.binding name) = .ok x → h.read (.binding name) = .ok x := by
  have level : ∀ p, g.base p = (f.workspace.arena p).highWater := by
    intro p
    rw [beside.base, Frame.base_of_idle rests.idle]
  obtain ⟨v, evaluated, after, levels, reads⟩ := evaluate_served ran tidy level
  have still : f.Beside { g.noteUsage with workspace := v, scratch := [] } := by
    refine beside.trans ⟨rfl, rfl, rfl, rfl, ?_, fun p => (levels p).2⟩
    intro p
    rw [Frame.base_of_idle rfl]
    exact (levels p).1
  exact ⟨_, evaluated, ⟨after, still.phase.trans rests.evaluating, rfl⟩, still, reads⟩

/-- A step that loads an input of its size over a binding is done. -/
theorem evaluate_load {input binding : String} {x z : Bytes} (rests : f.Resting grounds)
    (given : f.inputs.get? input = some x) (held : f.read (.binding binding) = .ok z)
    (same : z.length = x.length) :
    ∃ g, evaluate (Step.load input binding) f s = ⟨.ok (), g, s⟩ ∧ g.Resting grounds ∧
      f.Beside g ∧ g.read (.binding binding) = .ok x := by
  obtain ⟨g, done, tidy, beside, shows, -⟩ := rests.tidy.load_served given held same
  have ran : ((Step.load input binding).body s).run f = ((.ok (), s), g) := by
    simp only [Step.load, Step.stateless, ExceptT.run_mk, Program.run_bind, Program.ask,
      Program.run, Frame.perform, done, Program.run_pure]
  obtain ⟨h, evaluated, after, still, reads⟩ := evaluate_resting rests ran tidy beside
  exact ⟨h, evaluated, after, still, reads _ _ shows⟩

/-- A step that stores a binding in an output of its size is done. -/
theorem evaluate_store (step : Step σ) {binding output : String} {x y : Bytes}
    (stores : step.body = Step.stateless (.mk (.ask (.store binding output))))
    (rests : f.Resting grounds) (held : f.read (.binding binding) = .ok x)
    (wanted : f.outputs.get? output = some y) (same : y.length = x.length) :
    ∃ g, evaluate step f s = ⟨.ok (), g, s⟩ ∧ g.bindings = f.bindings ∧
      g.outputs = f.outputs.insert output x := by
  have done := Frame.store_served held wanted same
  have ran : (step.body s).run f =
      ((.ok (), s), { f with outputs := f.outputs.insert output x }) := by
    simp only [stores, Step.stateless, ExceptT.run_mk, Program.run_bind, Program.ask, Program.run,
      Frame.perform, done, Program.run_pure]
  have tidy : Frame.Tidy grounds { f with outputs := f.outputs.insert output x } :=
    ⟨rests.tidy.stacked, rests.tidy.piled, rests.tidy.phase⟩
  obtain ⟨v, evaluated, -⟩ := evaluate_served ran tidy fun p => Frame.base_of_idle rests.idle p
  exact ⟨_, evaluated, rfl, rfl⟩

theorem declareAll_append (first second : List (Step σ)) (f : Frame) (s : σ) :
    declareAll (first ++ second) f s =
      match declareAll first f s with
      | ⟨.error fault, g, t⟩ => ⟨.error fault, g, t⟩
      | ⟨.ok (), g, t⟩ => declareAll second g t := by
  induction first generalizing f s with
  | nil => rfl
  | cons step rest ih =>
    simp only [List.cons_append, declareAll]
    rcases (step.body s).run f with ⟨⟨_ | _, t⟩, g⟩
    · rfl
    · exact ih g.noteUsage t

theorem evaluateAll_append (first second : List (Step σ)) (f : Frame) (s : σ) :
    evaluateAll (first ++ second) f s =
      match evaluateAll first f s with
      | ⟨.error fault, g, t⟩ => ⟨.error fault, g, t⟩
      | ⟨.ok (), g, t⟩ => evaluateAll second g t := by
  induction first generalizing f s with
  | nil => rfl
  | cons step rest ih =>
    simp only [List.cons_append, evaluateAll]
    rcases evaluate step f s with ⟨_ | _, g, t⟩
    · rfl
    · exact ih g t

/-! ### Declaring tensors -/

/-- The steps that declare tensors under their names, in order. -/
def tensorSteps (tensors : List (String × Tensor.Descriptor)) : List (Step σ) :=
  tensors.map fun t => .tensor t.1 t.2

/-- What declaring tensors may take of a pool. -/
def tensorsDemand (p : Pool) (tensors : List (String × Tensor.Descriptor)) : Nat :=
  (tensors.map fun t => (Step.tensorDemand t.2).get p).sum

/-- A tensor whose demand fits a sound arena has a size, if its rank fits a record. -/
theorem measured_of_room {d : Tensor.Descriptor} {a : Arena} (sound : a.Sound)
    (rank : d.shape.length ≤ Tensor.maxRank)
    (room : (Step.tensorDemand d).get .ram ≤ a.capacity) :
    ∃ length, Frame.payloadLength d = .ok length := by
  cases measured : d.byteLength with
  | ok length => exact ⟨length, Frame.payloadLength_ok_iff.mpr ⟨rank, measured⟩⟩
  | error fault =>
    -- A tensor without a size asks for more than any arena has.
    have asks : (Step.tensorDemand d).get .ram = ByteCount.largest := by
      simp only [Step.tensorDemand, Step.tensorBytes, PerPool.get, measured]
    have words := sound.words
    simp only [ByteCount.largest, Capacity.largest] at asks words
    omega

/-- Tensors whose demands fit a sound arena together have sizes, if their ranks fit a record. -/
theorem measured_of_fit {tensors : List (String × Tensor.Descriptor)} {a : Arena}
    (sound : a.Sound) (ranks : ∀ t ∈ tensors, t.2.shape.length ≤ Tensor.maxRank)
    (fit : tensorsDemand .ram tensors ≤ a.capacity) :
    ∀ t ∈ tensors, ∃ length, Frame.payloadLength t.2 = .ok length := by
  intro t mem
  have one : (Step.tensorDemand t.2).get .ram ≤ tensorsDemand .ram tensors :=
    List.single_le_sum (fun _ _ => Nat.zero_le _) _ (List.mem_map_of_mem mem)
  exact measured_of_room sound (ranks t mem) (one.trans fit)

/-- What a frame `g` has over a frame `f` after tensors were declared: each of them in its size,
and all that was there before, at levels raised by no more than the tensors' demand. -/
structure Declares (grounds : Pool → Top) (tensors : List (String × Tensor.Descriptor))
    (f g : Frame) : Prop where
  tidy : g.Tidy grounds
  phase : g.phase = f.phase
  inputs : g.inputs = f.inputs
  outputs : g.outputs = f.outputs
  count : g.bindings.size = f.bindings.size + tensors.length
  names : ∀ name, name ∉ tensors.map (·.1) → g.bindings.get? name = f.bindings.get? name
  capacity : ∀ p, (g.workspace.arena p).capacity = (f.workspace.arena p).capacity
  level : ∀ p, (g.workspace.arena p).highWater ≤
    (f.workspace.arena p).highWater + tensorsDemand p tensors
  bound : ∀ t ∈ tensors, ∃ z, g.read (.binding t.1) = .ok z ∧
    Frame.payloadLength t.2 = .ok z.length
  kept : ∀ name x, name ∉ tensors.map (·.1) → f.read (.binding name) = .ok x →
    g.read (.binding name) = .ok x

variable {first second : List (String × Tensor.Descriptor)}

theorem Declares.refl (tidy : f.Tidy grounds) : Declares grounds [] f f :=
  ⟨tidy, rfl, rfl, rfl, rfl, fun _ _ => rfl, fun _ => rfl, fun _ => Nat.le_add_right _ _,
    fun _ mem => absurd mem List.not_mem_nil, fun _ _ _ read => read⟩

theorem Declares.trans {h : Frame} (before : Declares grounds first f g)
    (after : Declares grounds second g h)
    (apart : ∀ t ∈ first, t.1 ∉ second.map (·.1)) : Declares grounds (first ++ second) f h where
  tidy := after.tidy
  phase := after.phase.trans before.phase
  inputs := after.inputs.trans before.inputs
  outputs := after.outputs.trans before.outputs
  count := by
    rw [after.count, before.count, List.length_append, Nat.add_assoc]
  names name other := by
    rw [List.map_append, List.mem_append, not_or] at other
    rw [after.names name other.2, before.names name other.1]
  capacity p := (after.capacity p).trans (before.capacity p)
  level p := by
    have sum : tensorsDemand p (first ++ second) =
        tensorsDemand p first + tensorsDemand p second := by
      simp only [tensorsDemand, List.map_append, List.sum_append]
    have := before.level p
    have := after.level p
    omega
  bound t mem := by
    rcases List.mem_append.mp mem with earlier | later
    · obtain ⟨z, read, length⟩ := before.bound t earlier
      exact ⟨z, after.kept _ _ (apart t earlier) read, length⟩
    · exact after.bound t later
  kept name x other read := by
    rw [List.map_append, List.mem_append, not_or] at other
    exact after.kept name x other.2 (before.kept name x other.1 read)

/-- One tensor is declared. -/
theorem declare_tensor {name : String} {d : Tensor.Descriptor} {length : Nat}
    (tidy : f.Tidy grounds) (declaring : f.phase = .declaring)
    (new : f.bindings.get? name = none) (measured : Frame.payloadLength d = .ok length)
    (room : f.workspace.HasRoom (Step.tensorDemand d)) :
    ∃ g, ((Step.tensor name d).body s).run f = ((.ok (), s), g) ∧
      Declares grounds [(name, d)] f g.noteUsage := by
  obtain ⟨b, v, served, after, takes, ⟨z, shows, whole⟩, kept⟩ :=
    tidy.bindTensor_served declaring new measured room
  refine ⟨Frame.noteUsage { f with workspace := v, bindings := f.bindings.insert name b }, ?_, ?_⟩
  · simp only [Step.tensor, Step.stateless, ExceptT.run_mk, Program.run_bind, Program.ask,
      Program.run, Frame.perform, served, Program.run_pure]
  · refine ⟨after.withWorkspace after.stacked after.piled, rfl, rfl, rfl, ?_, ?_, takes.capacity,
      takes.level, ?_, ?_⟩
    · have last := Table.put_of_lookup_eq_none new b
      show (Table.put f.bindings.entries name b).length = _
      rw [last, List.length_append]
      rfl
    · intro other apart
      refine (Table.get?_insert f.bindings name other b).trans (if_neg ?_)
      exact fun same => apart (List.mem_singleton.mpr same.symm)
    · intro t mem
      cases List.mem_singleton.mp mem
      exact ⟨z, shows, whole ▸ measured⟩
    · intro other x apart read
      exact kept _ _ (by simpa using apart) read

/-- **Tensors are declared** in order where they have new names of their own and sizes, and there
is room for their demands together. -/
theorem declare_tensors {tensors : List (String × Tensor.Descriptor)} (tidy : f.Tidy grounds)
    (declaring : f.phase = .declaring) (new : ∀ t ∈ tensors, f.bindings.get? t.1 = none)
    (distinct : (tensors.map (·.1)).Nodup)
    (measured : ∀ t ∈ tensors, ∃ length, Frame.payloadLength t.2 = .ok length)
    (room : ∀ p, (f.workspace.arena p).highWater + tensorsDemand p tensors ≤
      (f.workspace.arena p).capacity) :
    ∃ g, declareAll (tensorSteps tensors) f s = ⟨.ok (), g, s⟩ ∧
      Declares grounds tensors f g := by
  induction tensors generalizing f with
  | nil => exact ⟨f, rfl, .refl tidy⟩
  | cons t rest ih =>
    obtain ⟨name, d⟩ := t
    simp only [List.forall_mem_cons, List.map_cons, List.nodup_cons] at new measured distinct
    have sum : ∀ p, tensorsDemand p ((name, d) :: rest) =
        (Step.tensorDemand d).get p + tensorsDemand p rest := fun _ => rfl
    have one : ∀ p, tensorsDemand p [(name, d)] = (Step.tensorDemand d).get p := fun _ => rfl
    obtain ⟨length, size⟩ := measured.1
    obtain ⟨g, ran, bound⟩ := declare_tensor (s := s) tidy declaring new.1 size fun p => by
      have := room p
      have := sum p
      omega
    have others : ∀ u ∈ rest, g.noteUsage.bindings.get? u.1 = none := by
      intro u mem
      have apart : u.1 ≠ name := fun same => distinct.1 (same ▸ List.mem_map_of_mem mem)
      exact (bound.names _ (mt List.mem_singleton.mp apart)).trans (new.2 u mem)
    obtain ⟨h, declared, later⟩ := ih bound.tidy (bound.phase.trans declaring) others distinct.2
      measured.2 fun p => by
        have := room p
        have := sum p
        have := one p
        have := bound.level p
        have := bound.capacity p
        omega
    refine ⟨h, ?_, bound.trans later ?_⟩
    · simp only [tensorSteps, List.map_cons, declareAll, ran]
      exact declared
    · intro u mem
      rw [List.mem_singleton.mp mem]
      exact distinct.1

/-! ### Runs -/

section Runs

variable {m : Model σ} {w : Workspace} {inputs outputs : Table Bytes}

/-- A run can start where there is room for the plan and every tensor is supplied. -/
theorem checkEntry_ok
    (room : ∀ p, m.plan.required.get p ≤ (w.arena p).remaining)
    (given : ∀ name ∈ m.blueprint.inputs, inputs.contains name = true)
    (wanted : ∀ name ∈ m.blueprint.outputs, outputs.contains name = true) :
    m.checkEntry w inputs outputs = .ok () := by
  have free : (Pool.all.find? fun p => (w.arena p).remaining < m.plan.required.get p) = none :=
    List.find?_eq_none.mpr fun p _ => by simpa using room p
  have all : m.blueprint.inputs.find? (fun name => !inputs.contains name) = none :=
    List.find?_eq_none.mpr fun name mem => by simp [given name mem]
  have both : m.blueprint.outputs.find? (fun name => !outputs.contains name) = none :=
    List.find?_eq_none.mpr fun name mem => by simp [wanted name mem]
  simp only [checkEntry, free, all, both]

/-- The arenas of `v` are those of `w`, sound, at the same levels. -/
structure Leaves (w v : Workspace) : Prop where
  sound : v.Sound
  capacity : ∀ p, (v.arena p).capacity = (w.arena p).capacity
  highWater : ∀ p, (v.arena p).highWater = (w.arena p).highWater

theorem Leaves.refl (sound : w.Sound) : Leaves w w := ⟨sound, fun _ => rfl, fun _ => rfl⟩

theorem Leaves.trans {v u : Workspace} (first : Leaves w v) (second : Leaves v u) : Leaves w u where
  sound := second.sound
  capacity p := (second.capacity p).trans (first.capacity p)
  highWater p := (second.highWater p).trans (first.highWater p)

theorem Leaves.remaining {v : Workspace} (leaves : Leaves w v) (p : Pool) :
    (v.arena p).remaining = (w.arena p).remaining := by
  rw [Arena.remaining, Arena.remaining, leaves.capacity, leaves.highWater]

/-- Steps that present no tokens leave what the arenas had at the start. -/
theorem takeSteps_since_of_asks (asks : ∀ step ∈ m.blueprint.steps, ∀ s,
    (step.body s).Asks Frame.Call.Harmless) (sound : w.Sound) (inputs outputs : Table Bytes)
    (s : σ) : (m.takeSteps (Frame.start w inputs outputs) s).frame.Since w := by
  apply takeSteps_since sound m (.start sound inputs outputs)
  apply honest_of_harmless
  exact stepsTranscript_asks asks _ s

/-- A run whose steps present no tokens leaves sound arenas of the same capacities, at the levels
that it found. -/
theorem run_leaves (asks : ∀ step ∈ m.blueprint.steps, ∀ s,
    (step.body s).Asks Frame.Call.Harmless) (sound : w.Sound) (s : σ) :
    Leaves w (m.run w inputs outputs s).workspace := by
  cases entered : m.checkEntry w inputs outputs with
  | error fault =>
    simp only [run, entered]
    exact .refl sound
  | ok =>
    have since := takeSteps_since_of_asks asks sound inputs outputs s
    have unwinds := fun p => (since.workspace p).unwindTo_mark (sound.arenas p)
    have marks : ∀ p, w.mark.get p = (w.arena p).mark := fun p => PerPool.get_map _ _ p
    obtain ⟨u, done, -, arenas⟩ := Workspace.unwindTo_of_recalls (m := w.mark) fun p => by
      obtain ⟨c, done, -⟩ := unwinds p
      rw [marks]
      exact (Arena.unwindTo_ok_iff.mp done).1
    rw [(m.run_of_entered entered done).1]
    have each : ∀ p, (w.arena p).Since (u.arena p) ∧ (u.arena p).Sound ∧
        (u.arena p).highWater = (w.arena p).highWater := by
      intro p
      obtain ⟨c, unwound, after, level, -⟩ := unwinds p
      rw [arenas, marks, unwound]
      exact ⟨after, after.sound_of_unwindTo (sound.arenas p) unwound, level⟩
    refine ⟨⟨fun p => (each p).2.1, fun p q same => ?_⟩, fun p => (each p).1.capacity,
      fun p => (each p).2.2⟩
    rw [(each p).1.id, (each q).1.id] at same
    exact sound.distinct p q same

/-- A run that can start and whose steps succeed succeeds. -/
theorem run_served {g : Frame} {t : σ} (asks : ∀ step ∈ m.blueprint.steps, ∀ s,
    (step.body s).Asks Frame.Call.Harmless) (sound : w.Sound)
    (entered : m.checkEntry w inputs outputs = .ok ())
    (taken : m.takeSteps (Frame.start w inputs outputs) s = ⟨.ok (), g, t⟩) :
    ∃ v, m.run w inputs outputs s = ⟨.ok (m.report g), v, g.outputs, t⟩ ∧ Leaves w v := by
  have since := takeSteps_since_of_asks asks sound inputs outputs s
  rw [taken] at since
  obtain ⟨v, unwound, -⟩ := since.workspace.unwindTo_mark sound
  have ran : m.run w inputs outputs s = ⟨.ok (m.report g), v, g.outputs, t⟩ := by
    simp only [run, entered, taken, unwound]
  have leaves : Leaves w (m.run w inputs outputs s).workspace := run_leaves asks sound s
  rw [ran] at leaves
  exact ⟨v, ran, leaves⟩

end Runs

end Model

end TensorArena
