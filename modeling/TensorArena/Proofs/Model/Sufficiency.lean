import Mathlib
import TensorArena.Proofs.Arena.Reach
import TensorArena.Proofs.Frame.Calls
import TensorArena.Proofs.Model.Restore

/-!
The plan suffices.

A step of a run is modest when it leaves the arenas to its frame, claims scratch while
evaluating only, asks for no more than it told the plan, padding included, and says that space
ran out only if it was told so. In a run that starts, modest declaring steps take no more than
the declared sum together, and each modest evaluating step no more than the largest scratch
demand on top of that; its scratch is released to the level at which it began. So whatever
stood in the arenas before, no call of the run is refused for lack of space, and no step is
found to be unbalanced.
-/

namespace TensorArena

/-- The call was refused because an arena had no space left. -/
def Event.fellShort (e : Event) : Bool := e.call.fellShort e.answer

/-- What events may take of a pool, padding included. -/
def demanded (p : Pool) (events : List Event) : Nat :=
  (events.map fun e => e.call.demand.get p).sum

@[simp] theorem demanded_cons (p : Pool) (e : Event) (rest : List Event) :
    demanded p (e :: rest) = e.call.demand.get p + demanded p rest := rfl

/-! ### Sums -/

theorem PerPool.get_foldl_satAdd (counts : List (PerPool Nat)) {p : Pool} {start : PerPool Nat}
    (le : start.get p ≤ ByteCount.largest) : (counts.foldl satAdd start).get p =
      min (start.get p + (counts.map (·.get p)).sum) ByteCount.largest := by
  induction counts generalizing start with
  | nil => simpa using (Nat.min_eq_left le).symm
  | cons v rest ih =>
    have next : (start.satAdd v).get p = min (start.get p + v.get p) ByteCount.largest :=
      get_zipWith _ _ _ _
    rw [List.foldl_cons, ih (next ▸ Nat.min_le_right _ _), next, List.map_cons, List.sum_cons]
    omega

/-- Saturating on the way comes to the same as saturating the sum. -/
theorem PerPool.get_satSum (counts : List (PerPool Nat)) (p : Pool) :
    (satSum counts).get p = min (counts.map (·.get p)).sum ByteCount.largest := by
  have start : zero.get p ≤ ByteCount.largest := get_zero p ▸ Nat.zero_le _
  rw [satSum, get_foldl_satAdd counts start, get_zero, Nat.zero_add]

/-! ### Programs -/

section Programs

variable {α : Type} {f : Frame} {grounds : Pool → Top}

/-- A program whose calls demand no more than there is room for is not refused for lack of space,
and takes no more than that. -/
theorem Program.run_takes (program : Program α) (budget : PerPool Nat) (tidy : f.Tidy grounds)
    (plain : ∀ e ∈ program.transcript f, e.call.isRaw = false)
    (orderly : f.phase = .evaluating ∨
      ∀ e ∈ program.transcript f, e.call.claimsScratch = false)
    (within : ∀ p, demanded p (program.transcript f) ≤ budget.get p)
    (room : f.workspace.HasRoom budget) :
    (∀ e ∈ program.transcript f, e.fellShort = false) ∧ (program.run f).2.Tidy grounds ∧
      f.workspace.Takes budget (program.run f).2.workspace := by
  induction program generalizing f budget with
  | done value => exact ⟨by simp [transcript], tidy, .refl _ _⟩
  | call c next ih =>
    simp only [transcript, List.forall_mem_cons, demanded_cons] at plain orderly within ⊢
    have part : ∀ p, c.demand.get p ≤ budget.get p := by
      intro p
      exact Nat.le_trans (Nat.le_add_right _ _) (within p)
    obtain ⟨served, takes⟩ := tidy.perform_takes c plain.1 (room.mono part)
    have allowed : f.Allows c := by
      refine ⟨plain.1, ?_⟩
      intro claims
      rcases orderly with evaluating | ⟨silent, -⟩
      · exact evaluating
      · rw [silent] at claims
        cases claims
    have later : (f.perform c).2.phase = .evaluating ∨
        ∀ e ∈ (next (f.perform c).1).transcript (f.perform c).2, e.call.claimsScratch = false :=
      orderly.imp (fun evaluating => (tidy.base_perform c plain.1 evaluating).1) fun all => all.2
    have rest : ∀ p, demanded p ((next (f.perform c).1).transcript (f.perform c).2) ≤
        (budget.zipWith (· - ·) c.demand).get p := by
      intro p
      rw [PerPool.get_zipWith]
      exact Nat.le_sub_of_add_le' (within p)
    obtain ⟨others, tidy, more⟩ :=
      ih _ _ (tidy.perform c allowed) plain.2 later rest (room.left takes part)
    exact ⟨⟨served, others⟩, tidy, takes.all more part⟩

/-- A program that runs while evaluating leaves the level below scratch. -/
theorem Program.run_base (program : Program α) (tidy : f.Tidy grounds)
    (plain : ∀ e ∈ program.transcript f, e.call.isRaw = false)
    (evaluating : f.phase = .evaluating) :
    (program.run f).2.phase = .evaluating ∧ ∀ p, (program.run f).2.base p = f.base p := by
  induction program generalizing f with
  | done value => exact ⟨evaluating, fun _ => rfl⟩
  | call c next ih =>
    simp only [transcript, List.forall_mem_cons] at plain
    obtain ⟨still, same⟩ := tidy.base_perform c plain.1 evaluating
    obtain ⟨after, level⟩ :=
      ih _ (tidy.perform c ⟨plain.1, fun _ => evaluating⟩) plain.2 still
    exact ⟨after, fun p => (level p).trans (same p)⟩

/-- A program that claims no scratch leaves none. -/
theorem Program.run_scratch (program : Program α) (tidy : f.Tidy grounds)
    (plain : ∀ e ∈ program.transcript f, e.call.isRaw = false)
    (silent : ∀ e ∈ program.transcript f, e.call.claimsScratch = false)
    (none : f.scratch = []) : (program.run f).2.scratch = [] := by
  induction program generalizing f with
  | done value => exact none
  | call c next ih =>
    simp only [transcript, List.forall_mem_cons] at plain silent
    have allowed : f.Allows c := ⟨plain.1, by simp [silent.1]⟩
    exact ih _ (tidy.perform c allowed) plain.2 silent.2
      (tidy.scratch_perform c plain.1 silent.1 none)

end Programs

/-! ### Steps -/

/-- A step as it was taken: in which phase, what it asked and was answered, and what it said. -/
structure Visit (σ : Type) where
  step : Step σ
  phase : Phase
  events : List Event
  said : Except Frame.Fault Unit

section Visits

variable {σ : Type}

/-- Taking a step on a frame. -/
def Step.visit (step : Step σ) (phase : Phase) (f : Frame) (s : σ) : Visit σ where
  step
  phase
  events := (step.body s).transcript f
  said := ((step.body s).run f).1.1

/-- The step left the arenas to its frame, claimed scratch while evaluating only, asked for no
more than its demand, and said that space ran out only if it was told so. -/
structure Visit.Modest (v : Visit σ) : Prop where
  plain : ∀ e ∈ v.events, e.call.isRaw = false
  orderly : v.phase = .evaluating ∨ ∀ e ∈ v.events, e.call.claimsScratch = false
  within : ∀ p, demanded p v.events ≤ v.step.demand.get p
  honest : Frame.short v.said = true → ∃ e ∈ v.events, e.fellShort = true

instance (v : Visit σ) : Decidable v.Modest :=
  decidable_of_iff ((∀ e ∈ v.events, e.call.isRaw = false) ∧
      (v.phase = .evaluating ∨ ∀ e ∈ v.events, e.call.claimsScratch = false) ∧
      (∀ p ∈ Pool.all, demanded p v.events ≤ v.step.demand.get p) ∧
      (Frame.short v.said = true → ∃ e ∈ v.events, e.fellShort = true))
    ⟨fun ⟨plain, orderly, within, honest⟩ =>
        ⟨plain, orderly, fun p => within p p.mem_all, honest⟩,
      fun modest => ⟨modest.plain, modest.orderly, fun p _ => modest.within p, modest.honest⟩⟩

/-- A modest step whose calls were all served does not say that space ran out. -/
theorem Visit.Modest.spared {v : Visit σ} (modest : v.Modest)
    (served : ∀ e ∈ v.events, e.fellShort = false) : Frame.short v.said = false := by
  rw [← Bool.not_eq_true]
  intro claimed
  obtain ⟨e, mem, short⟩ := modest.honest claimed
  rw [served e mem] at short
  cases short

/-- Declaring a tensor is modest: what the step tells the plan covers its payload and its record,
padding included. -/
theorem Step.tensor_modest (name : String) (d : Tensor.Descriptor) (f : Frame) (s : σ) :
    ((Step.tensor name d).visit .declaring f s).Modest where
  plain := List.forall_mem_singleton.mpr rfl
  orderly := .inr (List.forall_mem_singleton.mpr rfl)
  within p := by
    show (Frame.Call.bindTensor name d).demand.get p + 0 ≤ (Step.tensorDemand d).get p
    rw [Nat.add_zero, Frame.Call.demand]
    split
    · exact PerPool.get_zero p ▸ Nat.zero_le _
    · exact Nat.le_refl _
  honest short := ⟨_, List.mem_singleton_self _, short⟩

/-- Declaring a raw buffer is modest. -/
theorem Step.buffer_modest (name binding : String) (pool : Pool) (size align : Nat) (f : Frame)
    (s : σ) : ((Step.buffer name binding pool size align).visit .declaring f s).Modest where
  plain := List.forall_mem_singleton.mpr rfl
  orderly := .inr (List.forall_mem_singleton.mpr rfl)
  within _ := Nat.le_refl _
  honest short := ⟨_, List.mem_singleton_self _, short⟩

end Visits

namespace Model

variable {σ : Type} {f : Frame} {s : σ} {grounds : Pool → Top}

/-- The declaring steps that are taken. -/
def declareVisits : List (Step σ) → Frame → σ → List (Visit σ)
  | [], _, _ => []
  | step :: rest, f, s =>
    step.visit .declaring f s ::
      match (step.body s).run f with
      | ((.error _, _), _) => []
      | ((.ok (), s), f) => declareVisits rest f.noteUsage s

/-- The evaluating steps that are taken. -/
def evaluateVisits : List (Step σ) → Frame → σ → List (Visit σ)
  | [], _, _ => []
  | step :: rest, f, s =>
    step.visit .evaluating f s ::
      match evaluate step f s with
      | ⟨.error _, _, _⟩ => []
      | ⟨.ok (), f, s⟩ => evaluateVisits rest f s

/-- All steps that are taken, from a frame on. -/
def stepsVisits (m : Model σ) (f : Frame) (s : σ) : List (Visit σ) :=
  declareVisits m.blueprint.declarations f s ++
    match declareAll m.blueprint.declarations f s with
    | ⟨.error _, _, _⟩ => []
    | ⟨.ok (), f, s⟩ => evaluateVisits m.blueprint.evaluations f.beginEvaluation s

/-- The steps that a run takes. A run that cannot start takes none. -/
def visits (m : Model σ) (w : Workspace) (inputs outputs : Table Bytes) (s : σ) :
    List (Visit σ) :=
  match m.checkEntry w inputs outputs with
  | .error _ => []
  | .ok () => m.stepsVisits (Frame.start w inputs outputs) s

theorem declareTranscript_eq (steps : List (Step σ)) (f : Frame) (s : σ) :
    declareTranscript steps f s = (declareVisits steps f s).flatMap (·.events) := by
  induction steps generalizing f s with
  | nil => rfl
  | cons step rest ih =>
    simp only [declareTranscript, declareVisits, List.flatMap_cons, Step.visit]
    rcases (step.body s).run f with ⟨⟨_ | _, t⟩, g⟩
    · rfl
    · exact congrArg _ (ih _ _)

theorem evaluateTranscript_eq (steps : List (Step σ)) (f : Frame) (s : σ) :
    evaluateTranscript steps f s = (evaluateVisits steps f s).flatMap (·.events) := by
  induction steps generalizing f s with
  | nil => rfl
  | cons step rest ih =>
    simp only [evaluateTranscript, evaluateVisits, List.flatMap_cons, Step.visit]
    rcases evaluate step f s with ⟨_ | _, g, t⟩
    · rfl
    · exact congrArg _ (ih _ _)

/-- The calls of a run are those of the steps that it takes. -/
theorem transcript_eq (m : Model σ) (w : Workspace) (inputs outputs : Table Bytes) (s : σ) :
    m.transcript w inputs outputs s = (m.visits w inputs outputs s).flatMap (·.events) := by
  simp only [transcript, visits]
  cases m.checkEntry w inputs outputs with
  | error fault => rfl
  | ok =>
    simp only [stepsTranscript, stepsVisits, List.flatMap_append, declareTranscript_eq]
    rcases declareAll m.blueprint.declarations (Frame.start w inputs outputs) s with ⟨_ | _, g, t⟩
    · rfl
    · exact congrArg _ (evaluateTranscript_eq _ _ _)

/-- The fault shows that the plan was too small: a step ran out of space, or left an arena at
another level. -/
def Fault.blamesPlan : Fault → Bool
  | .stepFailed _ reason => reason.outOfSpace?.isSome
  | .unbalanced _ _ _ _ => true
  | _ => false

/-- No call of the steps was refused for lack of space, and nothing shows that the plan was too
small. -/
structure Sufficed {α : Type} (visits : List (Visit σ)) (outcome : Except Fault α) : Prop where
  served : ∀ v ∈ visits, ∀ e ∈ v.events, e.fellShort = false
  blameless : ∀ fault, outcome = .error fault → fault.blamesPlan = false

/-! ### Declaring -/

/-- **Declaring steps** that are modest take no more than their demands together. -/
theorem declareAll_takes (steps : List (Step σ)) (total : PerPool Nat) (tidy : f.Tidy grounds)
    (idle : f.scratch = []) (modest : ∀ v ∈ declareVisits steps f s, v.Modest)
    (within : ∀ p, (steps.map (·.demand.get p)).sum ≤ total.get p)
    (room : f.workspace.HasRoom total) :
    Sufficed (declareVisits steps f s) (declareAll steps f s).outcome ∧
      (declareAll steps f s).frame.Tidy grounds ∧ (declareAll steps f s).frame.scratch = [] ∧
      f.workspace.Takes total (declareAll steps f s).frame.workspace := by
  induction steps generalizing f s total with
  | nil => exact ⟨⟨by simp [declareVisits], by simp [declareAll]⟩, tidy, idle, .refl _ _⟩
  | cons step rest ih =>
    simp only [declareVisits, List.forall_mem_cons, List.map_cons, List.sum_cons]
      at modest within
    obtain ⟨first, others⟩ := modest
    have part : ∀ p, step.demand.get p ≤ total.get p := by
      intro p
      exact Nat.le_trans (Nat.le_add_right _ _) (within p)
    have silent : ∀ e ∈ (step.body s).transcript f, e.call.claimsScratch = false := by
      rcases first.orderly with wrong | silent
      · cases wrong
      · exact silent
    obtain ⟨served, after, takes⟩ := (step.body s).run_takes step.demand tidy first.plain
      (.inr silent) first.within (room.mono part)
    have none := (step.body s).run_scratch tidy first.plain silent idle
    have spared : Frame.short ((step.body s).run f).1.1 = false := first.spared served
    simp only [declareAll, declareVisits]
    rcases done : (step.body s).run f with ⟨⟨reason | _, t⟩, g⟩ <;>
      rw [done] at others after takes none spared
    · refine ⟨⟨List.forall_mem_cons.mpr ⟨served, by simp⟩, ?_⟩, after, none,
        takes.trans (.refl _ .zero) (by simpa using part)⟩
      rintro fault same
      cases same
      exact spared
    · have left : ∀ p, (rest.map (·.demand.get p)).sum ≤
          (total.zipWith (· - ·) step.demand).get p := by
        intro p
        rw [PerPool.get_zipWith]
        exact Nat.le_sub_of_add_le' (within p)
      obtain ⟨sufficed, tidy, idle, more⟩ :=
        ih (f := g.noteUsage) _ (after.withWorkspace after.stacked after.piled) none others left
          (room.left takes part)
      refine ⟨⟨?_, sufficed.blameless⟩, tidy, idle, takes.all more part⟩
      exact List.forall_mem_cons.mpr ⟨served, sufficed.served⟩

/-! ### Evaluating -/

theorem get_usage (f : Frame) (p : Pool) : f.usage.get p = (f.workspace.arena p).highWater :=
  PerPool.get_map _ _ p

theorem firstMoved?_eq_none {before after : PerPool Nat}
    (same : ∀ p, before.get p = after.get p) : firstMoved? before after = none := by
  simp [firstMoved?, same]

/-- A modest evaluating step leaves the arenas at the levels at which it found them. -/
theorem evaluate_takes (step : Step σ) (tidy : f.Tidy grounds)
    (evaluating : f.phase = .evaluating) (idle : f.scratch = [])
    (modest : (step.visit .evaluating f s).Modest) (room : f.workspace.HasRoom step.demand) :
    Sufficed [step.visit .evaluating f s] (evaluate step f s).outcome ∧
      (evaluate step f s).frame.Tidy grounds ∧ (evaluate step f s).frame.phase = .evaluating ∧
      (evaluate step f s).frame.scratch = [] ∧
      f.workspace.Takes .zero (evaluate step f s).frame.workspace := by
  obtain ⟨served, after, takes⟩ := (step.body s).run_takes step.demand tidy modest.plain
    (.inl evaluating) modest.within room
  obtain ⟨still, base⟩ := (step.body s).run_base tidy modest.plain evaluating
  have spared : Frame.short ((step.body s).run f).1.1 = false := modest.spared served
  have all : ∀ v ∈ [step.visit .evaluating f s], ∀ e ∈ v.events, e.fellShort = false :=
    List.forall_mem_singleton.mpr served
  simp only [evaluate]
  rcases ran : (step.body s).run f with ⟨⟨said, t⟩, g⟩
  rw [ran] at after takes still base spared
  have noted : g.noteUsage.Tidy grounds := after.withWorkspace after.stacked after.piled
  obtain ⟨v, released, -, levels, -⟩ := noted.releaseScratch_ok
  have clean := noted.releaseScratch
  rw [released] at clean
  have level : ∀ p, (v.arena p).highWater = (f.workspace.arena p).highWater := by
    intro p
    have bottom : f.base p = (f.workspace.arena p).highWater := by rw [Frame.base, idle, floor]
    exact ((levels p).1.trans (base p)).trans bottom
  have taken : f.workspace.Takes .zero v :=
    ⟨fun p => (levels p).2.trans (takes.capacity p), fun p => level p ▸ Nat.le_add_right _ _⟩
  simp only [released]
  cases said with
  | error reason =>
    refine ⟨⟨all, ?_⟩, clean, still, rfl, taken⟩
    rintro fault same
    cases same
    exact spared
  | ok =>
    have balanced : firstMoved? f.usage
        (Frame.usage { g.noteUsage with workspace := v, scratch := [] }) = none := by
      refine firstMoved?_eq_none fun p => ?_
      rw [get_usage, get_usage, level]
    rw [balanced]
    exact ⟨⟨all, by simp⟩, clean, still, rfl, taken⟩

/-- **Evaluating steps** that are modest take no more than one of their demands at a time. -/
theorem evaluateAll_takes (steps : List (Step σ)) (tidy : f.Tidy grounds)
    (evaluating : f.phase = .evaluating) (idle : f.scratch = [])
    (modest : ∀ v ∈ evaluateVisits steps f s, v.Modest)
    (room : ∀ step ∈ steps, f.workspace.HasRoom step.demand) :
    Sufficed (evaluateVisits steps f s) (evaluateAll steps f s).outcome := by
  induction steps generalizing f s with
  | nil => exact ⟨by simp [evaluateVisits], by simp [evaluateAll]⟩
  | cons step rest ih =>
    simp only [evaluateVisits, List.forall_mem_cons] at modest room
    obtain ⟨first, tidy, evaluating, idle, takes⟩ :=
      evaluate_takes step tidy evaluating idle modest.1 room.1
    simp only [evaluateAll, evaluateVisits]
    rcases done : evaluate step f s with ⟨fault | _, g, t⟩ <;>
      rw [done] at modest first tidy evaluating idle takes
    · exact ⟨first.served, first.blameless⟩
    · have still : ∀ step ∈ rest, g.workspace.HasRoom step.demand := by
        intro step mem
        have left := (room.2 step mem).left takes (by simp)
        exact left.mono (by simp)
      have later := ih tidy evaluating idle modest.2 still
      exact ⟨List.forall_mem_cons.mpr ⟨first.served _ (List.mem_singleton_self _), later.served⟩,
        later.blameless⟩

/-! ### Plans -/

/-- A plan is that of the blueprint's needs, and these fit both capacities. -/
theorem plan_ok {b : Blueprint σ} {plan : Plan} (planned : b.plan = .ok plan) :
    plan = b.needs ∧ ∀ p, b.needs.required.get p ≤ b.capacities.get p := by
  unfold Blueprint.plan at planned
  split at planned
  · cases planned
  · split at planned
    · cases planned
    · split at planned
      · cases planned
      · split at planned
        · cases planned
        · split at planned <;> cases planned
          rename_i fits
          refine ⟨rfl, fun p => ?_⟩
          simpa using List.find?_eq_none.mp fits p p.mem_all

/-- A model is made from its blueprint, with the plan of its needs. These fit both capacities. -/
theorem model_ok {b : Blueprint σ} {m : Model σ} (accepted : b.model = .ok m) :
    m.blueprint = b ∧ m.plan = b.needs ∧ ∀ p, b.needs.required.get p ≤ b.capacities.get p := by
  unfold Blueprint.model at accepted
  split at accepted
  · cases accepted
  · split at accepted
    · cases accepted
    · rename_i plan planned
      cases accepted
      exact ⟨rfl, plan_ok planned⟩

/-- A run starts only if both arenas have room for what the plan requires. -/
theorem room_of_entered {m : Model σ} {w : Workspace} {inputs outputs : Table Bytes}
    (entered : m.checkEntry w inputs outputs = .ok ()) (p : Pool) :
    m.plan.required.get p ≤ (w.arena p).remaining := by
  unfold checkEntry at entered
  split at entered
  · cases entered
  · rename_i room
    simpa using List.find?_eq_none.mp room p p.mem_all

/-- A requirement that has not saturated is the sum of the declared demands and the largest
scratch demand. -/
theorem required_eq (b : Blueprint σ) {p : Pool}
    (small : b.needs.required.get p < ByteCount.largest) :
    (b.declarations.map (·.demand.get p)).sum = b.declared.get p ∧
      b.needs.required.get p = b.declared.get p + b.maxScratch.get p := by
  have required : b.needs.required.get p =
      min (b.declared.get p + b.maxScratch.get p) ByteCount.largest := PerPool.get_zipWith _ _ _ _
  have declared : b.declared.get p =
      min (b.declarations.map (·.demand.get p)).sum ByteCount.largest := by
    rw [Blueprint.declared, PerPool.get_satSum, List.map_map]
    rfl
  omega

/-- Where there is room for what the plan requires, the declared demands fit together, and the
largest scratch demand on top of them. -/
theorem room_for_steps (b : Blueprint σ) {a : Arena} {p : Pool} (sound : a.Sound)
    (free : b.needs.required.get p ≤ a.remaining) :
    (b.declarations.map (·.demand.get p)).sum = b.declared.get p ∧
      a.highWater + (b.declared.get p + b.maxScratch.get p) ≤ a.capacity := by
  have level := sound.highWater
  have words := sound.words
  rw [Arena.remaining] at free
  have small : b.needs.required.get p < ByteCount.largest := by
    simp only [Capacity.largest, ByteCount.largest] at words ⊢
    omega
  obtain ⟨sum, exact⟩ := required_eq b small
  exact ⟨sum, by omega⟩

/-! ### Runs -/

/-- The steps of a run that starts are served, if they are modest. -/
theorem takeSteps_sufficed {b : Blueprint σ} {m : Model σ} (accepted : b.model = .ok m)
    {w : Workspace} (sound : ∀ p, (w.arena p).Sound) {inputs outputs : Table Bytes}
    (entered : m.checkEntry w inputs outputs = .ok ())
    (modest : ∀ v ∈ m.stepsVisits (Frame.start w inputs outputs) s, v.Modest) :
    Sufficed (m.stepsVisits (Frame.start w inputs outputs) s)
      (m.takeSteps (Frame.start w inputs outputs) s).outcome := by
  obtain ⟨rfl, plan, -⟩ := model_ok accepted
  have enough := fun p => room_for_steps m.blueprint (sound p) (plan ▸ room_of_entered entered p)
  simp only [stepsVisits, List.forall_mem_append] at modest
  obtain ⟨declaring, evaluating⟩ := modest
  obtain ⟨first, tidy, idle, takes⟩ := declareAll_takes m.blueprint.declarations
    m.blueprint.declared (Frame.Tidy.start sound inputs outputs) rfl declaring
    (fun p => Nat.le_of_eq (enough p).1)
    (fun p => Nat.le_trans (Nat.add_le_add_left (Nat.le_add_right _ _) _) (enough p).2)
  simp only [stepsVisits, takeSteps]
  rcases done : declareAll m.blueprint.declarations (Frame.start w inputs outputs) s with
    ⟨_ | _, g, t⟩ <;> rw [done] at first tidy idle takes evaluating
  · simpa using first
  · have begun : g.beginEvaluation.Tidy fun p => (w.arena p).top :=
      ⟨tidy.stacked, tidy.piled, fun _ => rfl⟩
    have room : ∀ step ∈ m.blueprint.evaluations, g.workspace.HasRoom step.demand := by
      intro step mem p
      have largest : step.demand.get p ≤ m.blueprint.maxScratch.get p :=
        PerPool.get_le_largest (List.mem_map_of_mem mem) p
      have level := takes.level p
      have fits := (enough p).2
      rw [takes.capacity]
      simp only [Frame.start] at level ⊢
      omega
    have second := evaluateAll_takes m.blueprint.evaluations begun rfl idle evaluating room
    refine ⟨fun v mem => ?_, second.blameless⟩
    rcases List.mem_append.mp mem with declared | evaluated
    · exact first.served v declared
    · exact second.served v evaluated

/-- A run answers a fault of its start, of its steps, or of the final unwinding. -/
theorem run_fault (m : Model σ) {w : Workspace} {inputs outputs : Table Bytes} {fault : Fault}
    (failed : (m.run w inputs outputs s).outcome = .error fault) :
    fault.isEntry = true ∨ (∃ cause, fault = .unwind cause) ∨
      (m.takeSteps (Frame.start w inputs outputs) s).outcome = .error fault := by
  simp only [run] at failed
  split at failed
  · rename_i refused
    cases failed
    exact .inl (m.checkEntry_fault refused)
  · rcases taken : m.takeSteps (Frame.start w inputs outputs) s with ⟨stepped, g, t⟩
    rw [taken] at failed
    dsimp only at failed
    split at failed
    · cases failed
      exact .inr (.inr rfl)
    · cases failed
      exact .inr (.inl ⟨_, rfl⟩)
    · cases failed

/-- **The plan suffices.** Take a model that was accepted, arenas of any capacities that were
brought to any levels, and a run whose steps are modest. If the run starts, no call of its steps
is refused for lack of space, no step fails for it, and no step is found to be unbalanced. -/
theorem plan_suffices {b : Blueprint σ} {m : Model σ} (accepted : b.model = .ok m)
    {w : Workspace} {issued : PerPool (List Token)}
    (reached : ∀ p, (w.arena p).Reached (issued.get p)) (inputs outputs : Table Bytes) (s : σ)
    (modest : ∀ v ∈ m.visits w inputs outputs s, v.Modest) :
    (∀ v ∈ m.visits w inputs outputs s, ∀ e ∈ v.events, e.fellShort = false) ∧
      (∀ step reason, (m.run w inputs outputs s).outcome = .error (.stepFailed step reason) →
        reason.outOfSpace? = none) ∧
      ∀ step pool before after, (m.run w inputs outputs s).outcome ≠
        .error (.unbalanced step pool before after) := by
  have sound := fun p => (reached p).sound.1
  have blameless : Sufficed (m.visits w inputs outputs s) (m.run w inputs outputs s).outcome := by
    simp only [visits] at modest ⊢
    cases entered : m.checkEntry w inputs outputs with
    | error fault =>
      refine ⟨by simp, fun other failed => ?_⟩
      simp only [run, entered, Except.error.injEq] at failed
      have entry := m.checkEntry_fault entered
      subst failed
      cases fault <;> simp only [Fault.isEntry, Fault.blamesPlan, reduceCtorEq] at entry ⊢
    | ok =>
      rw [entered] at modest
      have steps := takeSteps_sufficed accepted sound entered modest
      refine ⟨steps.served, fun fault failed => ?_⟩
      rcases m.run_fault failed with entry | ⟨cause, rfl⟩ | stepped
      · cases fault <;> simp only [Fault.isEntry, Fault.blamesPlan, reduceCtorEq] at entry ⊢
      · rfl
      · exact steps.blameless fault stepped
  refine ⟨blameless.served, fun step reason failed => ?_, fun step pool before after failed => ?_⟩
  · simpa [Fault.blamesPlan] using blameless.blameless _ failed
  · cases blameless.blameless _ failed

/-! A run in arenas that have as much room as the plan requires and no more, above a claim after
which bindings and scratch need padding. -/

namespace Tight

def metadata : Arena := ⟨⟨1⟩, .metadata, Buffer.zeroed 32, 0, 0, 0, 0, .empty, .empty, 0⟩

def emptyRam : Arena := ⟨⟨2⟩, .ram, Buffer.zeroed 37, 0, 0, 0, 0, .empty, .empty, 0⟩

/-- Three bytes are claimed in the ram arena. -/
def arenas : Workspace where
  arenas := ⟨metadata, (emptyRam.perform (.allocate 3 1)).2⟩
  serves p := by cases p <;> decide

def issued : PerPool (List Token) := ⟨[], [.handle ⟨⟨2⟩, .ram, 0, 3, ⟨0, 0⟩, .empty⟩]⟩

theorem reached (p : Pool) : (arenas.arena p).Reached (issued.get p) := by
  cases p with
  | metadata => exact .built (Arena.build_ok_iff.mpr ⟨by decide, by decide, rfl⟩)
  | ram =>
    have fresh : emptyRam.Reached [] :=
      .built (Arena.build_ok_iff.mpr ⟨by decide, by decide, rfl⟩)
    exact .called (.allocate 3 1) fresh (by decide)

/-- Claims scratch at a multiple of eight. -/
def padded : Step Unit where
  name := "padded"
  demand := .only .ram 11
  body := Step.stateless do
    let _ ← ExceptT.mk (.ask (.claimScratch .ram 4 8))
    return ()

def tight : Blueprint Unit where
  name := "tight"
  capacities := ⟨64, 64⟩
  inputs := []
  outputs := []
  declarations := [Step.tensor "weights" { dtype := .i32, shape := [2] },
    Step.buffer "declare_raw" "raw" .ram 5 8]
  evaluations := [Step.increment "count_weights" "weights" .ram 8,
    Step.increment "count_raw" "raw" .metadata 5, padded]

def model : Model Unit := ⟨tight, tight.needs⟩

end Tight

open Tight in
/-- The run takes five steps. -/
theorem plan_suffices_tight :
    tight.model = .ok model ∧ (∀ p, (arenas.arena p).Reached (issued.get p)) ∧
      (∀ p, (arenas.arena p).remaining = model.plan.required.get p) ∧
      (∀ v ∈ model.visits arenas .empty .empty (), v.Modest) ∧
      (model.visits arenas .empty .empty ()).length = 5 ∧
      (∀ v ∈ model.visits arenas .empty .empty (), ∀ e ∈ v.events, e.fellShort = false) ∧
      ∀ step pool before after, (model.run arenas .empty .empty ()).outcome ≠
        .error (.unbalanced step pool before after) := by
  have accepted : tight.model = .ok model := rfl
  have room : ∀ p, (arenas.arena p).remaining = model.plan.required.get p := by
    intro p
    cases p <;> decide +kernel
  have modest : ∀ v ∈ model.visits arenas .empty .empty (), v.Modest := by decide +kernel
  obtain ⟨served, -, balanced⟩ := plan_suffices accepted reached .empty .empty () modest
  exact ⟨accepted, reached, room, modest, by decide +kernel, served, balanced⟩

end Model

end TensorArena
