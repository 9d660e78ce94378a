import TensorArena.Proofs.Frame.Lifetime
import TensorArena.Proofs.Model.Sufficiency

/-!
Scratch that a step finds on the stack.

A run releases scratch after every evaluating step, but not after a declaring one. So a step
finds on the stack what the declaring steps before it claimed and did not release, and the first
evaluating step gives it back. An evaluating step that claims nothing itself ends at the level at
which it began if it found no scratch, and below that level if it found some that takes space:
then the run fails, and the fault names this step instead of the one that made the claim
(`leftover_scratch_blames`).
-/

namespace TensorArena

/-! ### Scratch of a program -/

namespace Frame

variable {f g : Frame}

theorem Steady.length_perform (steady : f.Steady) (c : Frame.Call) (plain : c.isRaw = false) :
    (f.perform c).2.scratch.length = c.holds (f.perform c).1 f.scratch.length := by
  have effect := perform_effect steady.sound c plain
  generalize f.perform c = result at effect
  cases effect with
  | quiet same quiet => rw [same, quiet.scratch]
  | bound same _ _ scratch _ => rw [same, scratch]
  | claimed _ more _ scratch _ _ => rw [more, scratch, List.length_cons]
  | released _ none _ _ => rw [none, List.length_nil, Call.holds]

theorem Steady.evaluating_perform (steady : f.Steady) (evaluating : f.phase = .evaluating)
    (c : Frame.Call) (plain : c.isRaw = false) : (f.perform c).2.phase = .evaluating := by
  have effect := perform_effect steady.sound c plain
  generalize f.perform c = result at effect
  cases effect with
  | quiet _ quiet =>
    rcases quiet.phase with same | begun
    · exact same.trans evaluating
    · exact begun
  | bound _ declaring _ _ _ => cases evaluating.symm.trans declaring
  | claimed _ _ _ _ _ same => exact same.trans evaluating
  | released _ _ _ same => exact same.trans evaluating

/-- While evaluating, a call that claims nothing changes bytes at most, or releases scratch. -/
theorem Steady.idle_perform (steady : f.Steady) (evaluating : f.phase = .evaluating)
    (c : Frame.Call) (plain : c.isRaw = false) (idle : c.claimed (f.perform c).1 = false) :
    Quiet f (f.perform c).2 ∨ c = .releaseScratch := by
  have effect := perform_effect steady.sound c plain
  generalize f.perform c = result at effect idle
  cases effect with
  | quiet _ quiet => exact .inl quiet
  | bound _ declaring _ _ _ => cases evaluating.symm.trans declaring
  | claimed some _ _ _ _ _ => cases some.symm.trans idle
  | released _ _ _ _ => exact .inr rfl

/-- Between the frames the scratch of the first is released, and bytes may have changed before
and after that. -/
def GivesBack (f g : Frame) : Prop :=
  ∃ w, f.workspace.Rewrites w ∧ (w.releaseScratch f.scratch).2.Rewrites g.workspace

theorem givesBack_releaseScratch (f : Frame) : f.GivesBack f.releaseScratch.2 := by
  refine ⟨f.workspace, .refl _, ?_⟩
  rw [releaseScratch_snd]
  exact .refl _

theorem Quiet.givesBack {k : Frame} (quiet : Quiet f g) (later : g.GivesBack k) :
    f.GivesBack k := by
  obtain ⟨w, rewrites, released⟩ := later
  rw [quiet.scratch] at released
  exact ⟨w, quiet.rewrites.trans rewrites, released⟩

/-- With no scratch the levels stay. -/
theorem GivesBack.level (gives : f.GivesBack g) (none : f.scratch = []) (p : Pool) :
    (g.workspace.arena p).highWater = (f.workspace.arena p).highWater := by
  obtain ⟨w, before, after⟩ := gives
  rw [none] at after
  exact (after.highWater p).trans (before.highWater p)

/-- With scratch the level falls to the mark of a claim, or below it. -/
theorem GivesBack.level_le {e : ScratchEntry} (gives : f.GivesBack g) (steady : f.Steady)
    (mem : e ∈ f.scratch) : (g.workspace.arena e.handle.pool).highWater ≤ e.mark.height := by
  obtain ⟨w, before, after⟩ := gives
  have spares := before.spares steady.sound
  obtain ⟨m, a, -, height, -, -, level⟩ :=
    (steady.anchored.of_spares spares).releaseScratch_unwinds spares.sound mem rfl
  rw [after.highWater, level]
  exact height

theorem GivesBack.le (gives : f.GivesBack g) (steady : f.Steady) (p : Pool) :
    (g.workspace.arena p).highWater ≤ (f.workspace.arena p).highWater := by
  by_cases held : ∃ e ∈ f.scratch, e.handle.pool = p
  · obtain ⟨e, mem, rfl⟩ := held
    exact Nat.le_trans (gives.level_le steady mem) (steady.anchored.recalled e mem).height
  · obtain ⟨w, before, after⟩ := gives
    have others : ∀ e ∈ f.scratch, p ≠ e.handle.pool := by
      intro e mem here
      exact held ⟨e, mem, here.symm⟩
    rw [after.highWater, arena_releaseScratch_of_ne w others, before.highWater]

end Frame

/-- The scratch claims that are held after events, from those held before them. -/
def outstanding (held : Nat) : List Event → Nat
  | [] => held
  | e :: rest => outstanding (e.call.holds e.answer held) rest

section Programs

variable {α : Type} {f : Frame}

/-- What a program leaves on the stack is told by its calls. -/
theorem Program.run_steady (program : Program α) (steady : f.Steady)
    (plain : ∀ e ∈ program.transcript f, e.call.isRaw = false) :
    (program.run f).2.Steady ∧ (program.run f).2.scratch.length =
      outstanding f.scratch.length (program.transcript f) := by
  induction program generalizing f with
  | done value => exact ⟨steady, rfl⟩
  | call c next ih =>
    simp only [transcript, List.forall_mem_cons] at plain
    obtain ⟨first, rest⟩ := plain
    have length := steady.length_perform c first
    obtain ⟨after, left⟩ := ih _ (steady.perform c first) rest
    refine ⟨after, ?_⟩
    rw [length] at left
    exact left

theorem Program.run_evaluating (program : Program α) (steady : f.Steady)
    (evaluating : f.phase = .evaluating)
    (plain : ∀ e ∈ program.transcript f, e.call.isRaw = false) :
    (program.run f).2.phase = .evaluating := by
  induction program generalizing f with
  | done value => exact evaluating
  | call c next ih =>
    simp only [transcript, List.forall_mem_cons] at plain
    obtain ⟨first, rest⟩ := plain
    exact ih _ (steady.perform c first) (steady.evaluating_perform evaluating c first) rest

/-- A program that claims nothing while evaluating keeps the stack, or releases it. With the
scratch released after it, it comes to the same. -/
theorem Program.run_idle (program : Program α) (steady : f.Steady)
    (evaluating : f.phase = .evaluating)
    (plain : ∀ e ∈ program.transcript f, e.call.isRaw = false)
    (idle : ∀ e ∈ program.transcript f, e.call.claimed e.answer = false) :
    f.GivesBack (program.run f).2.releaseScratch.2 ∧
      (f.scratch = [] → (program.run f).2.scratch = []) := by
  induction program generalizing f with
  | done value => exact ⟨f.givesBack_releaseScratch, fun none => none⟩
  | call c next ih =>
    simp only [transcript, List.forall_mem_cons] at plain idle
    obtain ⟨first, rest⟩ := plain
    obtain ⟨gives, none⟩ := ih _ (steady.perform c first)
      (steady.evaluating_perform evaluating c first) rest idle.2
    rcases steady.idle_perform evaluating c first idle.1 with quiet | rfl
    · exact ⟨quiet.givesBack gives, fun before => none (quiet.scratch.trans before)⟩
    · -- What the call released is not there for the release after the program.
      have released : (f.perform .releaseScratch).2.scratch = [] := by
        simp only [Frame.perform, Frame.releaseScratch_snd]
      refine ⟨?_, fun _ => none released⟩
      obtain ⟨w, before, after⟩ := gives
      rw [released] at after
      refine ⟨f.workspace, .refl _, ?_⟩
      simp only [Frame.perform, Frame.releaseScratch_snd] at before
      exact before.trans after

end Programs

/-! ### Turns -/

/-- A step that is taken, with the frame and the steps' state that it finds. -/
structure Turn (σ : Type) where
  step : Step σ
  phase : Phase
  frame : Frame
  state : σ

namespace Turn

variable {σ : Type}

/-- What the step asks, is answered and says. -/
def visit (t : Turn σ) : Visit σ := t.step.visit t.phase t.frame t.state

/-- The outcome of a run up to here, if all went well before. -/
def outcome (t : Turn σ) : Except Model.Fault Unit :=
  match t.phase with
  | .declaring => t.visit.said.mapError (.stepFailed t.step.name)
  | .evaluating => (Model.evaluate t.step t.frame t.state).outcome

/-- The scratch claims that the turn leaves, from those that it finds. Scratch is released
after evaluating steps only. -/
def leaves (t : Turn σ) (found : Nat) : Nat :=
  match t.phase with
  | .declaring => outstanding found t.visit.events
  | .evaluating => 0

/-- The step evaluates, claims nothing, and says that all went well. -/
structure Idle (t : Turn σ) : Prop where
  evaluating : t.phase = .evaluating
  claimless : ∀ e ∈ t.visit.events, e.call.claimed e.answer = false
  said : t.visit.said = .ok ()

end Turn

section Turns

variable {σ : Type}

/-- The scratch claims that turns leave, one after the other. -/
def leftover (found : Nat) : List (Turn σ) → Nat
  | [] => found
  | t :: rest => leftover (t.leaves found) rest

/-- Every turn finds the scratch claims that the turns before it left. -/
def Inherits (found : Nat) : List (Turn σ) → Prop
  | [] => True
  | t :: rest => t.frame.scratch.length = found ∧ Inherits (t.leaves found) rest

theorem Inherits.found {t : Turn σ} {before after : List (Turn σ)} {found : Nat}
    (inherits : Inherits found (before ++ t :: after)) :
    t.frame.scratch.length = leftover found before := by
  induction before generalizing found with
  | nil => exact inherits.1
  | cons u before ih => exact ih inherits.2

/-- No turn finds scratch exactly if no turn leaves some to another one. -/
theorem Inherits.empty_iff {turns : List (Turn σ)} (inherits : Inherits 0 turns) :
    (∀ t ∈ turns, t.frame.scratch = []) ↔ ∀ t ∈ turns.dropLast, t.leaves 0 = 0 := by
  induction turns with
  | nil => simp
  | cons t rest ih =>
    obtain ⟨first, later⟩ := inherits
    have none : t.frame.scratch = [] := List.length_eq_zero_iff.mp first
    cases rest with
    | nil => simp [none]
    | cons u rest =>
      rw [List.dropLast_cons_cons]
      constructor
      · intro empty
        have clean : t.leaves 0 = 0 := by
          rw [← later.1, empty u (by simp)]
          rfl
        rw [clean] at later
        refine List.forall_mem_cons.mpr ⟨clean, (ih later).mp ?_⟩
        intro v mem
        exact empty v (List.mem_cons_of_mem _ mem)
      · intro leaves
        obtain ⟨clean, others⟩ := List.forall_mem_cons.mp leaves
        rw [clean] at later
        exact List.forall_mem_cons.mpr ⟨none, (ih later).mpr others⟩

theorem leftover_append (found : Nat) (turns others : List (Turn σ)) :
    leftover found (turns ++ others) = leftover (leftover found turns) others := by
  induction turns generalizing found with
  | nil => rfl
  | cons t rest ih => exact ih _

theorem inherits_append {found : Nat} {turns others : List (Turn σ)} :
    Inherits found (turns ++ others) ↔
      Inherits found turns ∧ Inherits (leftover found turns) others := by
  induction turns generalizing found with
  | nil => simp [Inherits, leftover]
  | cons t rest ih => simp only [List.cons_append, Inherits, leftover, ih, and_assoc]

/-- Turns from the frame `f` on, up to the frame `g`: they find steady frames, and the scratch
that was left to them. -/
structure Accounted (f : Frame) (turns : List (Turn σ)) (g : Frame) : Prop where
  steady : ∀ t ∈ turns, t.frame.Steady
  phase : ∀ t ∈ turns, t.phase = .evaluating → t.frame.phase = .evaluating
  inherits : Inherits f.scratch.length turns
  last : g.Steady
  left : g.scratch.length = leftover f.scratch.length turns

variable {f g k : Frame}

theorem Accounted.nil (steady : f.Steady) : Accounted f ([] : List (Turn σ)) f :=
  ⟨by simp, by simp, trivial, steady, rfl⟩

theorem Accounted.cons {t : Turn σ} {rest : List (Turn σ)} (steady : t.frame.Steady)
    (phase : t.phase = .evaluating → t.frame.phase = .evaluating)
    (length : g.scratch.length = t.leaves t.frame.scratch.length)
    (later : Accounted g rest k) : Accounted t.frame (t :: rest) k where
  steady := List.forall_mem_cons.mpr ⟨steady, later.steady⟩
  phase := List.forall_mem_cons.mpr ⟨phase, later.phase⟩
  inherits := ⟨rfl, length ▸ later.inherits⟩
  last := later.last
  left := by rw [later.left, length, leftover]

theorem Accounted.append {turns others : List (Turn σ)} (first : Accounted f turns g)
    (second : Accounted g others k) : Accounted f (turns ++ others) k where
  steady := List.forall_mem_append.mpr ⟨first.steady, second.steady⟩
  phase := List.forall_mem_append.mpr ⟨first.phase, second.phase⟩
  inherits := inherits_append.mpr ⟨first.inherits, first.left ▸ second.inherits⟩
  last := second.last
  left := by rw [leftover_append, ← first.left, second.left]

theorem Accounted.beginEvaluation {turns : List (Turn σ)} (accounted : Accounted f turns g) :
    Accounted f turns g.beginEvaluation :=
  { accounted with last := accounted.last.perform .beginEvaluation rfl }

end Turns

namespace Model

variable {σ : Type} {f : Frame} {s : σ}

/-- The declaring steps in turn, up to the first that fails. -/
def declareTurns : List (Step σ) → Frame → σ → List (Turn σ)
  | [], _, _ => []
  | step :: rest, f, s =>
    ⟨step, .declaring, f, s⟩ ::
      match (step.body s).run f with
      | ((.error _, _), _) => []
      | ((.ok (), s), f) => declareTurns rest f.noteUsage s

/-- The evaluating steps in turn, up to the first that fails. -/
def evaluateTurns : List (Step σ) → Frame → σ → List (Turn σ)
  | [], _, _ => []
  | step :: rest, f, s =>
    ⟨step, .evaluating, f, s⟩ ::
      match evaluate step f s with
      | ⟨.error _, _, _⟩ => []
      | ⟨.ok (), f, s⟩ => evaluateTurns rest f s

/-- All steps in turn, from a frame on. -/
def stepsTurns (m : Model σ) (f : Frame) (s : σ) : List (Turn σ) :=
  declareTurns m.blueprint.declarations f s ++
    match declareAll m.blueprint.declarations f s with
    | ⟨.error _, _, _⟩ => []
    | ⟨.ok (), f, s⟩ => evaluateTurns m.blueprint.evaluations f.beginEvaluation s

/-- The turns of a run. A run that cannot start has none. -/
def turns (m : Model σ) (w : Workspace) (inputs outputs : Table Bytes) (s : σ) : List (Turn σ) :=
  match m.checkEntry w inputs outputs with
  | .error _ => []
  | .ok () => m.stepsTurns (Frame.start w inputs outputs) s

theorem declareVisits_eq (steps : List (Step σ)) (f : Frame) (s : σ) :
    declareVisits steps f s = (declareTurns steps f s).map Turn.visit := by
  induction steps generalizing f s with
  | nil => rfl
  | cons step rest ih =>
    simp only [declareVisits, declareTurns, List.map_cons, Turn.visit]
    rcases (step.body s).run f with ⟨⟨_ | _, t⟩, g⟩
    · rfl
    · exact congrArg _ (ih _ _)

theorem evaluateVisits_eq (steps : List (Step σ)) (f : Frame) (s : σ) :
    evaluateVisits steps f s = (evaluateTurns steps f s).map Turn.visit := by
  induction steps generalizing f s with
  | nil => rfl
  | cons step rest ih =>
    simp only [evaluateVisits, evaluateTurns, List.map_cons, Turn.visit]
    rcases evaluate step f s with ⟨_ | _, g, t⟩
    · rfl
    · exact congrArg _ (ih _ _)

/-- The steps of a run are visited in turn. -/
theorem visits_eq (m : Model σ) (w : Workspace) (inputs outputs : Table Bytes) (s : σ) :
    m.visits w inputs outputs s = (m.turns w inputs outputs s).map Turn.visit := by
  simp only [visits, turns]
  cases m.checkEntry w inputs outputs with
  | error fault => rfl
  | ok =>
    simp only [stepsVisits, stepsTurns, List.map_append, declareVisits_eq]
    rcases declareAll m.blueprint.declarations (Frame.start w inputs outputs) s with ⟨_ | _, g, t⟩
    · rfl
    · exact congrArg _ (evaluateVisits_eq _ _ _)

/-! ### What turns find -/

theorem declareTurns_accounted (steps : List (Step σ)) (steady : f.Steady)
    (plain : ∀ t ∈ declareTurns steps f s, ∀ e ∈ t.visit.events, e.call.isRaw = false) :
    Accounted f (declareTurns steps f s) (declareAll steps f s).frame := by
  induction steps generalizing f s with
  | nil => exact .nil steady
  | cons step rest ih =>
    simp only [declareTurns, List.forall_mem_cons] at plain
    obtain ⟨first, others⟩ := plain
    obtain ⟨after, length⟩ := (step.body s).run_steady steady first
    simp only [declareTurns, declareAll]
    rcases done : (step.body s).run f with ⟨⟨_ | _, t⟩, g⟩ <;>
      rw [done] at others after length
    · exact .cons (t := ⟨step, .declaring, f, s⟩) steady (fun wrong => by cases wrong) length
        (.nil after)
    · exact .cons (g := g.noteUsage) (t := ⟨step, .declaring, f, s⟩) steady
        (fun wrong => by cases wrong) length (ih (after.perform .noteUsage rfl) others)

/-- An evaluating step ends with the release of its scratch. -/
theorem frame_evaluate (step : Step σ) (f : Frame) (s : σ) :
    (evaluate step f s).frame = ((step.body s).run f).2.noteUsage.releaseScratch.2 := by
  simp only [evaluate]
  split
  · rfl
  · rfl
  · split <;> rfl

theorem evaluate_steady (step : Step σ) (steady : f.Steady) (evaluating : f.phase = .evaluating)
    (plain : ∀ e ∈ (step.body s).transcript f, e.call.isRaw = false) :
    (evaluate step f s).frame.Steady ∧ (evaluate step f s).frame.phase = .evaluating ∧
      (evaluate step f s).frame.scratch.length = 0 := by
  obtain ⟨after, -⟩ := (step.body s).run_steady steady plain
  have still := (step.body s).run_evaluating steady evaluating plain
  have released := (after.perform .noteUsage rfl).perform .releaseScratch rfl
  rw [frame_evaluate]
  refine ⟨released, ?_, ?_⟩
  · rw [Frame.releaseScratch_snd]
    exact still
  · rw [Frame.releaseScratch_snd]
    rfl

theorem evaluateTurns_accounted (steps : List (Step σ)) (steady : f.Steady)
    (evaluating : f.phase = .evaluating)
    (plain : ∀ t ∈ evaluateTurns steps f s, ∀ e ∈ t.visit.events, e.call.isRaw = false) :
    Accounted f (evaluateTurns steps f s) (evaluateAll steps f s).frame := by
  induction steps generalizing f s with
  | nil => exact .nil steady
  | cons step rest ih =>
    simp only [evaluateTurns, List.forall_mem_cons] at plain
    obtain ⟨first, others⟩ := plain
    obtain ⟨after, still, none⟩ := evaluate_steady step steady evaluating first
    simp only [evaluateTurns, evaluateAll]
    rcases done : evaluate step f s with ⟨_ | _, g, t⟩ <;>
      rw [done] at others after still none
    · exact .cons (t := ⟨step, .evaluating, f, s⟩) steady (fun _ => evaluating) none (.nil after)
    · exact .cons (t := ⟨step, .evaluating, f, s⟩) steady (fun _ => evaluating) none
        (ih after still others)

/-! ### Steps in turn -/

/-- The steps are taken in turn up to the first that fails, whose fault is the outcome. -/
inductive InTurn : List (Step σ) → List (Turn σ) → Except Fault Unit → Prop where
  | done : InTurn [] [] (.ok ())
  | went {t : Turn σ} {steps : List (Step σ)} {turns : List (Turn σ)}
      {outcome : Except Fault Unit} : t.outcome = .ok () → InTurn steps turns outcome →
      InTurn (t.step :: steps) (t :: turns) outcome
  | failed {t : Turn σ} {fault : Fault} (after : List (Step σ)) : t.outcome = .error fault →
      InTurn (t.step :: after) [t] (.error fault)

section

variable {steps more : List (Step σ)} {turns others : List (Turn σ)}
  {outcome : Except Fault Unit} {fault : Fault}

/-- Steps that went well are followed by more. -/
theorem InTurn.append (first : InTurn steps turns (.ok ())) (second : InTurn more others outcome) :
    InTurn (steps ++ more) (turns ++ others) outcome := by
  generalize well : Except.ok () = before at first
  induction first with
  | done => exact second
  | went ok _ ih => exact .went ok (ih well)
  | failed _ _ => cases well

/-- Behind a step that failed no other is taken. -/
theorem InTurn.append_of_error (first : InTurn steps turns (.error fault))
    (more : List (Step σ)) : InTurn (steps ++ more) turns (.error fault) := by
  generalize ended : Except.error fault = before at first ⊢
  induction first with
  | done => cases ended
  | went ok _ ih => exact .went ok (ih ended)
  | failed after failed => exact .failed (after ++ more) failed

/-- Steps fail with the fault of one of their turns. -/
theorem InTurn.error_iff (inTurn : InTurn steps turns outcome) :
    outcome = .error fault ↔ ∃ t ∈ turns, t.outcome = .error fault := by
  induction inTurn with
  | done => simp
  | went ok _ ih => simp [ok, ih]
  | failed _ failed => simp [failed]

/-- No step is left out before the last that is taken. -/
theorem InTurn.isPrefix (inTurn : InTurn steps turns outcome) :
    turns.map (·.step) <+: steps := by
  induction inTurn with
  | done => exact List.nil_prefix
  | went _ _ ih => exact List.cons_prefix_cons.mpr ⟨rfl, ih⟩
  | failed _ _ => exact List.cons_prefix_cons.mpr ⟨rfl, List.nil_prefix⟩

/-- What failed is the step that was taken last. -/
theorem InTurn.ends (inTurn : InTurn steps turns (.error fault)) :
    ∃ earlier t after, turns = earlier ++ [t] ∧ steps = earlier.map (·.step) ++ t.step :: after ∧
      (∀ u ∈ earlier, u.outcome = .ok ()) ∧ t.outcome = .error fault := by
  generalize ended : Except.error fault = outcome at inTurn
  induction inTurn with
  | done => cases ended
  | @went u _ _ _ ok _ ih =>
    obtain ⟨earlier, t, after, rfl, rfl, went, failed⟩ := ih ended
    exact ⟨u :: earlier, t, after, rfl, rfl, List.forall_mem_cons.mpr ⟨ok, went⟩, failed⟩
  | @failed t _ after failed =>
    cases ended
    exact ⟨[], t, after, rfl, rfl, by simp, failed⟩

end

theorem declareAll_inTurn (steps : List (Step σ)) (f : Frame) (s : σ) :
    InTurn steps (declareTurns steps f s) (declareAll steps f s).outcome := by
  induction steps generalizing f s with
  | nil => exact .done
  | cons step rest ih =>
    have own : (⟨step, .declaring, f, s⟩ : Turn σ).outcome =
        ((step.body s).run f).1.1.mapError (.stepFailed step.name) := rfl
    simp only [declareAll, declareTurns]
    rcases ran : (step.body s).run f with ⟨⟨reason | _, t⟩, g⟩ <;> rw [ran] at own
    · exact .failed (t := ⟨step, .declaring, f, s⟩) rest own
    · exact .went (t := ⟨step, .declaring, f, s⟩) own (ih _ _)

theorem evaluateAll_inTurn (steps : List (Step σ)) (f : Frame) (s : σ) :
    InTurn steps (evaluateTurns steps f s) (evaluateAll steps f s).outcome := by
  induction steps generalizing f s with
  | nil => exact .done
  | cons step rest ih =>
    have own : (⟨step, .evaluating, f, s⟩ : Turn σ).outcome = (evaluate step f s).outcome := rfl
    simp only [evaluateAll, evaluateTurns]
    rcases ran : evaluate step f s with ⟨reason | _, g, t⟩ <;> rw [ran] at own
    · exact .failed (t := ⟨step, .evaluating, f, s⟩) rest own
    · exact .went (t := ⟨step, .evaluating, f, s⟩) own (ih _ _)

/-- All steps of a model are taken in turn, declaring ones first. -/
theorem takeSteps_inTurn (m : Model σ) (f : Frame) (s : σ) :
    InTurn m.blueprint.steps (m.stepsTurns f s) (m.takeSteps f s).outcome := by
  have declared := declareAll_inTurn m.blueprint.declarations f s
  simp only [takeSteps, stepsTurns, Blueprint.steps]
  rcases done : declareAll m.blueprint.declarations f s with ⟨_ | _, g, t⟩ <;>
    rw [done] at declared
  · rw [List.append_nil]
    exact declared.append_of_error _
  · exact declared.append (evaluateAll_inTurn _ _ _)

/-! ### How a run fails -/

/-- The step that the fault names. -/
def Fault.step? : Fault → Option String
  | .stepFailed step _ => some step
  | .unbalanced step _ _ _ => some step
  | _ => none

/-- A run blames a step exactly if the turn of a step ends with that fault. -/
theorem run_error_iff (m : Model σ) {w : Workspace} {inputs outputs : Table Bytes}
    {fault : Fault} {name : String} (blames : fault.step? = some name) :
    (m.run w inputs outputs s).outcome = .error fault ↔
      ∃ t ∈ m.turns w inputs outputs s, t.outcome = .error fault := by
  simp only [run, turns]
  cases entered : m.checkEntry w inputs outputs with
  | error refused =>
    have entry := m.checkEntry_fault entered
    simp only [Except.error.injEq, List.not_mem_nil, false_and, exists_false, iff_false]
    rintro rfl
    cases refused <;> simp [Fault.isEntry, Fault.step?] at entry blames
  | ok =>
    simp only [← (m.takeSteps_inTurn (Frame.start w inputs outputs) s).error_iff]
    rcases m.takeSteps (Frame.start w inputs outputs) s with ⟨reason | _, g, t⟩
    · simp
    · dsimp only
      rcases g.workspace.unwindTo w.mark with ⟨cause | _, v⟩
      · -- A fault of the final unwinding names no step.
        simp only [Except.error.injEq, reduceCtorEq, iff_false]
        rintro rfl
        cases blames
      · simp

/-- What ends a turn names its step. -/
theorem step?_of_outcome {t : Turn σ} {fault : Fault} (failed : t.outcome = .error fault) :
    fault.step? = some t.step.name := by
  unfold Turn.outcome at failed
  split at failed
  · cases said : t.visit.said with
    | ok => simp [said, Except.mapError] at failed
    | error reason =>
      simp only [said, Except.mapError, Except.error.injEq] at failed
      subst failed
      rfl
  · simp only [evaluate] at failed
    split at failed
    · cases failed
      rfl
    · cases failed
      rfl
    · split at failed <;> cases failed
      rfl

/-! ### Names -/

theorem nodup_of_firstRepeated? {seen names : List String}
    (none : Plan.firstRepeated? seen names = none) : names.Nodup ∧ ∀ name ∈ names, name ∉ seen := by
  induction names generalizing seen with
  | nil => simp
  | cons name rest ih =>
    unfold Plan.firstRepeated? at none
    split at none
    · cases none
    · rename_i new
      obtain ⟨nodup, others⟩ := ih none
      constructor
      · refine List.nodup_cons.mpr ⟨fun again => ?_, nodup⟩
        exact others name again List.mem_cons_self
      · refine List.forall_mem_cons.mpr ⟨new, fun other mem held => ?_⟩
        exact others other mem (List.mem_cons_of_mem _ held)

/-- The steps of a model have names of their own. -/
theorem names_nodup {b : Blueprint σ} {m : Model σ} (accepted : b.model = .ok m) :
    (m.blueprint.steps.map (·.name)).Nodup := by
  obtain ⟨rfl, -⟩ := model_ok accepted
  cases repeated : Plan.firstRepeated? [] (m.blueprint.steps.map (·.name)) with
  | none => exact (nodup_of_firstRepeated? repeated).1
  | some name =>
    unfold Blueprint.model Blueprint.plan at accepted
    simp only [repeated] at accepted
    split at accepted
    · cases accepted
    · split at accepted
      · cases accepted
      · rename_i planned
        split at planned
        · cases planned
        · split at planned <;> cases planned

/-- The steps that a run takes are the first ones of the model, each once. -/
theorem turns_steps (m : Model σ) (w : Workspace) (inputs outputs : Table Bytes) (s : σ) :
    (m.turns w inputs outputs s).map (·.step) <+: m.blueprint.steps := by
  simp only [turns]
  cases m.checkEntry w inputs outputs with
  | error fault => exact List.nil_prefix
  | ok => exact (m.takeSteps_inTurn _ s).isPrefix

/-- Turns are told apart by the names of their steps. -/
theorem turn_eq {b : Blueprint σ} {m : Model σ} (accepted : b.model = .ok m) {w : Workspace}
    {inputs outputs : Table Bytes} {t u : Turn σ} (first : t ∈ m.turns w inputs outputs s)
    (second : u ∈ m.turns w inputs outputs s) (same : t.step.name = u.step.name) : t = u := by
  have nodup := ((m.turns_steps w inputs outputs s).sublist.map (·.name)).nodup
    (names_nodup accepted)
  rw [List.map_map] at nodup
  exact List.inj_on_of_nodup_map nodup first second same

/-! ### Idle steps -/

/-- The fault blames a step that leaves its scratch to be released: the release was refused, or
a level fell. -/
inductive Fault.Accuses (name : String) : Fault → Prop where
  | refused (cause : Arena.Fault) : Accuses name (.stepFailed name (.arena cause))
  | fell {pool : Pool} {before after : Nat} : after < before →
      Accuses name (.unbalanced name pool before after)

theorem exists_firstMoved? {before after : PerPool Nat} {p : Pool}
    (moved : before.get p ≠ after.get p) :
    ∃ q, firstMoved? before after = some q ∧ before.get q ≠ after.get q := by
  cases found : firstMoved? before after with
  | none =>
    have still := List.find?_eq_none.mp found p p.mem_all
    exact absurd moved (by simpa using still)
  | some q =>
    have moved := List.find?_some found
    exact ⟨q, rfl, by simpa using moved⟩

variable {t : Turn σ}

/-- What an idle turn found is given back after it. -/
theorem givesBack_of_idle (idle : t.Idle) (steady : t.frame.Steady)
    (evaluating : t.frame.phase = .evaluating)
    (plain : ∀ e ∈ t.visit.events, e.call.isRaw = false) :
    t.frame.GivesBack (evaluate t.step t.frame t.state).frame ∧
      (t.frame.scratch = [] → ((t.step.body t.state).run t.frame).2.scratch = []) := by
  rw [frame_evaluate]
  obtain ⟨gives, none⟩ := (t.step.body t.state).run_idle steady evaluating plain idle.claimless
  refine ⟨?_, none⟩
  rw [Frame.releaseScratch_snd] at gives ⊢
  exact gives

theorem releaseScratch_of_nil {f : Frame} (none : f.scratch = []) :
    f.releaseScratch.1 = .ok () := by
  simp only [Frame.releaseScratch, none, Workspace.releaseScratch]

theorem releaseScratch_error {f : Frame} {reason : Frame.Fault}
    (refused : f.releaseScratch.1 = .error reason) : ∃ cause, reason = .arena cause := by
  unfold Frame.releaseScratch at refused
  dsimp only at refused
  split at refused
  · cases refused
  · cases refused
    exact ⟨_, rfl⟩

/-- Where the step says that all went well, its outcome is that of the release and of the
comparison of the levels. -/
theorem outcome_evaluate (step : Step σ) (f : Frame) (s : σ)
    (said : ((step.body s).run f).1.1 = .ok ()) :
    (evaluate step f s).outcome =
      match ((step.body s).run f).2.noteUsage.releaseScratch.1 with
      | .error reason => .error (.stepFailed step.name reason)
      | .ok () =>
        match firstMoved? f.usage (evaluate step f s).frame.usage with
        | some pool => .error (.unbalanced step.name pool (f.usage.get pool)
            ((evaluate step f s).frame.usage.get pool))
        | none => .ok () := by
  rw [frame_evaluate]
  simp only [evaluate]
  rcases ran : (step.body s).run f with ⟨⟨_ | _, t⟩, g⟩ <;> rw [ran] at said
  · cases said
  · dsimp only
    rcases g.noteUsage.releaseScratch with ⟨_ | _, k⟩
    · rfl
    · dsimp only
      cases firstMoved? f.usage k.usage <;> rfl

/-- An idle step that found no scratch goes well. -/
theorem outcome_of_empty (idle : t.Idle) (steady : t.frame.Steady)
    (evaluating : t.frame.phase = .evaluating)
    (plain : ∀ e ∈ t.visit.events, e.call.isRaw = false) (empty : t.frame.scratch = []) :
    t.outcome = .ok () := by
  obtain ⟨gives, stays⟩ := givesBack_of_idle idle steady evaluating plain
  have released : ((t.step.body t.state).run t.frame).2.noteUsage.releaseScratch.1 = .ok () :=
    releaseScratch_of_nil (stays empty)
  have balanced : firstMoved? t.frame.usage (evaluate t.step t.frame t.state).frame.usage =
      none := by
    apply firstMoved?_eq_none
    intro p
    rw [get_usage, get_usage, gives.level empty]
  simp only [Turn.outcome, idle.evaluating]
  rw [outcome_evaluate _ _ _ idle.said, released]
  dsimp only
  rw [balanced]

/-- An idle step that found scratch which takes space is accused. -/
theorem outcome_of_held {e : ScratchEntry} (idle : t.Idle) (steady : t.frame.Steady)
    (evaluating : t.frame.phase = .evaluating)
    (plain : ∀ e ∈ t.visit.events, e.call.isRaw = false) (mem : e ∈ t.frame.scratch)
    (takes : e.mark.height < (t.frame.workspace.arena e.handle.pool).highWater) :
    ∃ fault, t.outcome = .error fault ∧ fault.Accuses t.step.name := by
  obtain ⟨gives, -⟩ := givesBack_of_idle idle steady evaluating plain
  have lower := gives.level_le steady mem
  obtain ⟨p, found, moved⟩ : ∃ p, firstMoved? t.frame.usage
      (evaluate t.step t.frame t.state).frame.usage = some p ∧ t.frame.usage.get p ≠
        (evaluate t.step t.frame t.state).frame.usage.get p := by
    refine exists_firstMoved? (p := e.handle.pool) ?_
    rw [get_usage, get_usage]
    exact Nat.ne_of_gt (Nat.lt_of_le_of_lt lower takes)
  simp only [Turn.outcome, idle.evaluating]
  rw [outcome_evaluate _ _ _ idle.said]
  cases released : ((t.step.body t.state).run t.frame).2.noteUsage.releaseScratch.1 with
  | error reason =>
    obtain ⟨cause, rfl⟩ := releaseScratch_error released
    exact ⟨_, rfl, .refused cause⟩
  | ok =>
    dsimp only
    rw [found]
    refine ⟨_, rfl, .fell (Nat.lt_of_le_of_ne ?_ moved.symm)⟩
    rw [get_usage, get_usage]
    exact gives.le steady p

/-! ### Runs -/

/-- How the scratch that a step leaves is handed on in a run, and what comes of it. -/
structure HandsOn (m : Model σ) (w : Workspace) (inputs outputs : Table Bytes) (s : σ) : Prop where
  /-- A step finds what the declaring steps before it left, if no evaluating step was taken yet,
  and nothing otherwise. -/
  found : ∀ before t after, m.turns w inputs outputs s = before ++ t :: after →
    t.frame.scratch.length = leftover 0 before
  /-- Every step finds an empty stack exactly if no step leaves scratch to the next. -/
  empty_iff : (∀ t ∈ m.turns w inputs outputs s, t.frame.scratch = []) ↔
    ∀ t ∈ (m.turns w inputs outputs s).dropLast, t.leaves 0 = 0
  /-- The run does not blame an idle step that found an empty stack. -/
  spared : ∀ t ∈ m.turns w inputs outputs s, t.Idle → t.frame.scratch = [] →
    ∀ fault, (m.run w inputs outputs s).outcome = .error fault → fault.step? ≠ some t.step.name
  /-- The run accuses an idle step that found scratch above whose mark its arena stands. -/
  accused : ∀ t ∈ m.turns w inputs outputs s, t.Idle →
    (∃ e ∈ t.frame.scratch, e.mark.height < (t.frame.workspace.arena e.handle.pool).highWater) →
    ∃ fault, (m.run w inputs outputs s).outcome = .error fault ∧ fault.Accuses t.step.name

theorem turns_accounted (m : Model σ) {w : Workspace} (sound : ∀ p, (w.arena p).Sound)
    (inputs outputs : Table Bytes) (s : σ)
    (plain : ∀ t ∈ m.turns w inputs outputs s, ∀ e ∈ t.visit.events, e.call.isRaw = false) :
    ∃ g, Accounted (Frame.start w inputs outputs) (m.turns w inputs outputs s) g := by
  have start := Frame.Steady.start sound inputs outputs
  simp only [turns] at plain ⊢
  cases entered : m.checkEntry w inputs outputs with
  | error fault => exact ⟨_, .nil start⟩
  | ok =>
    simp only [entered, stepsTurns, List.forall_mem_append] at plain ⊢
    obtain ⟨declaring, evaluating⟩ := plain
    have first := declareTurns_accounted m.blueprint.declarations start declaring
    rcases done : declareAll m.blueprint.declarations (Frame.start w inputs outputs) s with
      ⟨_ | _, g, t⟩ <;> rw [done] at first evaluating
    · exact ⟨g, by simpa using first⟩
    · have begun := first.beginEvaluation
      exact ⟨_, begun.append
        (evaluateTurns_accounted m.blueprint.evaluations begun.last rfl evaluating)⟩

/-- **Leftover scratch.** Take a model that was accepted, arenas in any state, and a run whose
steps leave the arenas to their frame. What a declaring step claims and does not release is on
the stack of every step up to the first that evaluates. An idle step that finds nothing there is
not blamed for how the run ends. One that finds scratch which takes space ends the run, and the
fault blames it. -/
theorem leftover_scratch_blames {b : Blueprint σ} {m : Model σ} (accepted : b.model = .ok m)
    {w : Workspace} {issued : PerPool (List Token)}
    (reached : ∀ p, (w.arena p).Reached (issued.get p)) (inputs outputs : Table Bytes) (s : σ)
    (plain : ∀ e ∈ m.transcript w inputs outputs s, e.call.isRaw = false) :
    m.HandsOn w inputs outputs s := by
  have each : ∀ t ∈ m.turns w inputs outputs s, ∀ e ∈ t.visit.events, e.call.isRaw = false := by
    intro t mem e asked
    rw [transcript_eq, visits_eq] at plain
    exact plain e (List.mem_flatMap.mpr ⟨t.visit, List.mem_map_of_mem mem, asked⟩)
  obtain ⟨g, accounted⟩ := m.turns_accounted (fun p => (reached p).sound.1) inputs outputs s each
  constructor
  · intro before t after parts
    have inherits := accounted.inherits
    rw [parts] at inherits
    exact inherits.found
  · exact accounted.inherits.empty_iff
  · intro t mem idle none fault failed blames
    obtain ⟨u, other, ended⟩ := (m.run_error_iff blames).mp failed
    have named := step?_of_outcome ended
    obtain rfl := turn_eq accepted mem other (Option.some.inj (blames.symm.trans named))
    have good := outcome_of_empty idle (accounted.steady t mem)
      (accounted.phase t mem idle.evaluating) (each t mem) none
    cases good.symm.trans ended
  · rintro t mem idle ⟨e, held, takes⟩
    obtain ⟨fault, ended, accuses⟩ := outcome_of_held idle (accounted.steady t mem)
      (accounted.phase t mem idle.evaluating) (each t mem) held takes
    exact ⟨fault, (m.run_error_iff (step?_of_outcome ended)).mpr ⟨t, mem, ended⟩, accuses⟩

/-! A declaring step claims scratch before an idle step evaluates. -/

namespace Untidy

def metadata : Arena := ⟨⟨1⟩, .metadata, Buffer.zeroed 64, 0, 0, 0, 0, .empty, .empty, 0⟩

def ram : Arena := ⟨⟨2⟩, .ram, Buffer.zeroed 64, 0, 0, 0, 0, .empty, .empty, 0⟩

def arenas : Workspace := ⟨⟨metadata, ram⟩, fun p => by cases p <;> rfl⟩

def issued : PerPool (List Token) := ⟨[], []⟩

theorem reached (p : Pool) : (arenas.arena p).Reached (issued.get p) := by
  cases p with
  | metadata => exact .built (Arena.build_ok_iff.mpr ⟨by decide, by decide, rfl⟩)
  | ram => exact .built (Arena.build_ok_iff.mpr ⟨by decide, by decide, rfl⟩)

/-- Claims four bytes of scratch, and then does more. -/
def prepare (more : Attempt Unit) : Step Unit where
  name := "prepare"
  demand := .only .ram 4
  body := Step.stateless do
    let _ ← ExceptT.mk (.ask (.claimScratch .ram 4 1))
    more

def idle : Step Unit where
  name := "idle"
  demand := .zero
  body := Step.stateless (return ())

def blueprint (more : Attempt Unit) : Blueprint Unit where
  name := "m"
  capacities := ⟨64, 64⟩
  inputs := []
  outputs := []
  declarations := [prepare more]
  evaluations := [idle]

def model (more : Attempt Unit) : Model Unit := ⟨blueprint more, (blueprint more).needs⟩

/-- The declaring step keeps its scratch. -/
def untidy : Model Unit := model (return ())

/-- The declaring step releases its scratch. -/
def tidy : Model Unit := model (.mk (.ask .releaseScratch))

/-- What `idle` finds. -/
def turn (more : Attempt Unit) : Turn Unit where
  step := idle
  phase := .evaluating
  frame := (declareAll [prepare more] (Frame.start arenas .empty .empty) ()).frame.beginEvaluation
  state := ()

theorem idle_turn (more : Attempt Unit) : (turn more).Idle where
  evaluating := rfl
  claimless := by
    intro e mem
    cases mem
  said := rfl

end Untidy

open Untidy in
theorem leftover_scratch_blames_idle :
    untidy.blueprint.model = .ok untidy ∧ tidy.blueprint.model = .ok tidy ∧
      (∀ p, (arenas.arena p).Reached (issued.get p)) ∧
      (∀ e ∈ untidy.transcript arenas .empty .empty (), e.call.isRaw = false) ∧
      (∀ e ∈ tidy.transcript arenas .empty .empty (), e.call.isRaw = false) ∧
      (∃ fault, (untidy.run arenas .empty .empty ()).outcome = .error fault ∧
        fault.Accuses "idle") ∧
      ∀ fault, (tidy.run arenas .empty .empty ()).outcome = .error fault →
        fault.step? ≠ some "idle" := by
  have accepted : untidy.blueprint.model = .ok untidy := rfl
  have plain : ∀ e ∈ untidy.transcript arenas .empty .empty (), e.call.isRaw = false := by
    decide +kernel
  have kept := leftover_scratch_blames accepted reached .empty .empty () plain
  have last : turn (return ()) ∈ untidy.turns arenas .empty .empty () :=
    List.mem_of_getElem? (i := 1) rfl
  have held : ∃ e ∈ (turn (return ())).frame.scratch, e.mark.height <
      ((turn (return ())).frame.workspace.arena e.handle.pool).highWater := by
    decide +kernel
  have acceptedTidy : tidy.blueprint.model = .ok tidy := rfl
  have plainTidy : ∀ e ∈ tidy.transcript arenas .empty .empty (), e.call.isRaw = false := by
    decide +kernel
  have given := leftover_scratch_blames acceptedTidy reached .empty .empty () plainTidy
  have lastTidy : turn (.mk (.ask .releaseScratch)) ∈ tidy.turns arenas .empty .empty () :=
    List.mem_of_getElem? (i := 1) rfl
  exact ⟨accepted, acceptedTidy, reached, plain, plainTidy,
    kept.accused _ last (idle_turn _) held, given.spared _ lastTidy (idle_turn _) rfl⟩

open Untidy in
/-- Four bytes of scratch that a declaring step kept are on the stack when the idle step starts,
and the run fails as if that step had released too much. -/
theorem idle_step_blamed : (turn (return ())).Idle ∧
    turn (return ()) ∈ untidy.turns arenas .empty .empty () ∧
    (turn (return ())).frame.scratch.length = 1 ∧
    (untidy.run arenas .empty .empty ()).outcome = .error (.unbalanced "idle" .ram 4 0) :=
  ⟨idle_turn _, List.mem_of_getElem? (i := 1) rfl, rfl, rfl⟩

end Model

end TensorArena
