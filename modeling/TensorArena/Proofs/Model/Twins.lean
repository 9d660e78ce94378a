import TensorArena.Proofs.Frame.Twins
import TensorArena.Proofs.Model.Leftover
import TensorArena.Proofs.Model.Served

/-!
The outcome of a run does not depend on the past of its arenas.

A program is blind when what it does next does not depend on the bytes that it read or on the
numbers of the handles that it got: a fixed list of calls is blind, and so is a program that also
looks at sizes. In two pairs of arenas of the same capacities and levels, whatever was done in
them before, a model of blind scripts goes the same way: step by step its frames are twins
(`Frame.Twins`), so each step succeeds or fails for the same reason, and every binding and every
scratch claim lies at the same place. A run that ends gives back what it took, so the next run on
the same arenas goes that way again.
-/

namespace TensorArena

/-! ### Blind programs -/

namespace Program

variable {α β : Type}

/-- The program makes scripted calls only, and goes on in the same way after answers that are
alike. -/
def Blind : Program α → Prop
  | .done _ => True
  | .call c next => c.isScripted = true ∧ (∀ x, (next x).Blind) ∧
      ∀ x y, c.Alike x y → next x = next y

theorem Blind.bind {program : Program α} {next : α → Program β} (blind : program.Blind)
    (later : ∀ value, (next value).Blind) : (program >>= next).Blind := by
  induction program with
  | done value => exact later value
  | call c rest ih =>
    obtain ⟨scripted, others, same⟩ := blind
    refine ⟨scripted, fun x => ih x (others x), ?_⟩
    intro x y alike
    show (rest x).andThen next = (rest y).andThen next
    rw [same x y alike]

theorem Blind.asks {program : Program α} (blind : program.Blind) :
    program.Asks Frame.Call.Harmless := by
  induction program with
  | done value => trivial
  | call c next ih =>
    obtain ⟨scripted, others, -⟩ := blind
    refine ⟨?_, fun x => ih x (others x)⟩
    cases c with
    | onArena pool c =>
      cases c with
      | allocate size align => exact ⟨rfl, rfl⟩
      | _ => cases scripted
    | _ => exact ⟨rfl, rfl⟩

/-- **A blind program** goes the same way in twin frames. -/
theorem Blind.run_twins {w v : Workspace} {f g : Frame} {program : Program α}
    (blind : program.Blind) (twins : f.Twins w v g) :
    (program.run g).1 = (program.run f).1 ∧
      Frame.Twins w v (program.run f).2 (program.run g).2 := by
  induction program generalizing f g with
  | done value => exact ⟨rfl, twins⟩
  | call c next ih =>
    obtain ⟨scripted, others, same⟩ := blind
    obtain ⟨alike, after⟩ := twins.perform c scripted
    have rest := ih (f.perform c).1 (others _) after
    simp only [run]
    -- Answers that are alike lead both frames on to one program.
    rw [← same _ _ alike]
    exact rest

end Program

/-! ### Scripts -/

/-- The fault of an answer. -/
def Frame.Call.refusal? : (c : Frame.Call) → c.Answer → Option Frame.Fault
  | .bind _ _ _ _, .error fault => some fault
  | .bindTensor _ _, .error fault => some fault
  | .claimScratch _ _ _, .error fault => some fault
  | .modifyBinding _ _, .error fault => some fault
  | .modifyScratch _ _, .error fault => some fault
  | .modifyPair _ _ _, .error fault => some fault
  | .load _ _, .error fault => some fault
  | .store _ _, .error fault => some fault
  | .onArena _ (.allocate _ _), .error fault => some (.arena fault)
  | _, _ => none

theorem Frame.Call.refusal?_of_alike (c : Frame.Call) {x y : c.Answer}
    (scripted : c.isScripted = true) (alike : c.Alike x y) : c.refusal? x = c.refusal? y := by
  cases c with
  | bind | bindTensor | claimScratch | load | store => exact congrArg _ alike
  | modifyBinding | modifyScratch | modifyPair =>
    rcases outcomes_of_map_eq alike with ⟨fault, rfl, rfl⟩ | ⟨p, q, rfl, rfl, -⟩ <;> rfl
  | onArena pool c =>
    cases c with
    | allocate size align =>
      rcases outcomes_of_map_eq alike with ⟨fault, rfl, rfl⟩ | ⟨p, q, rfl, rfl, -⟩ <;> rfl
    | _ => cases scripted
  | _ => cases scripted

/-- Calls in order, up to the first that is refused. -/
def Program.script : List Frame.Call → Program (Except Frame.Fault Unit)
  | [] => .done (.ok ())
  | c :: rest => .call c fun answer =>
    match c.refusal? answer with
    | some fault => .done (.error fault)
    | none => script rest

/-- A fixed list of calls is blind. -/
theorem Program.script_blind {calls : List Frame.Call}
    (scripted : ∀ c ∈ calls, c.isScripted = true) : (script calls).Blind := by
  induction calls with
  | nil => trivial
  | cons c rest ih =>
    obtain ⟨first, later⟩ := List.forall_mem_cons.mp scripted
    refine ⟨first, ?_, ?_⟩
    · intro answer
      dsimp only
      split
      · trivial
      · exact ih later
    · intro x y alike
      simp only [c.refusal?_of_alike first alike]

variable {σ : Type}

/-- The step is a blind program and keeps no state. -/
def Step.Fixed (step : Step σ) : Prop :=
  ∃ program : Attempt Unit, step.body = Step.stateless program ∧ Program.Blind program.run

theorem Step.Fixed.blind {step : Step σ} (fixed : step.Fixed) (s : σ) :
    Program.Blind (step.body s) := by
  obtain ⟨program, body, blind⟩ := fixed
  rw [body]
  exact blind.bind fun _ => trivial

/-- A step that makes a fixed list of calls. -/
def Step.scripted (name : String) (demand : PerPool Nat) (calls : List Frame.Call) : Step σ where
  name
  demand
  body := Step.stateless (.mk (Program.script calls))

theorem Step.fixed_scripted {name : String} {demand : PerPool Nat} {calls : List Frame.Call}
    (scripted : ∀ c ∈ calls, c.isScripted = true) :
    (Step.scripted name demand calls : Step σ).Fixed :=
  ⟨_, rfl, Program.script_blind scripted⟩

section Steps

variable {w v : Workspace} {f g : Frame} {s : σ}

/-- A fixed step goes the same way in twin frames, and leaves the steps' state. -/
theorem Step.Fixed.run_twins {step : Step σ} (fixed : step.Fixed) (twins : f.Twins w v g) (s : σ) :
    ∃ said f' g', (step.body s).run f = ((said, s), f') ∧ (step.body s).run g = ((said, s), g') ∧
      Frame.Twins w v f' g' := by
  obtain ⟨program, body, blind⟩ := fixed
  obtain ⟨same, after⟩ := blind.run_twins twins
  refine ⟨(program.run.run f).1, _, _, ?_, ?_, after⟩
  · rw [body, Step.stateless, Program.run_bind, Program.run_pure]
  · rw [body, Step.stateless, Program.run_bind, Program.run_pure, same]

/-- Where the frame keeps everything when the step is over, its scratch included. -/
def Turn.layout (t : Turn σ) : Frame.Layout := ((t.step.body t.state).run t.frame).2.layout

namespace Model

/-- Two parts of runs went the same way. -/
structure Progress.Twins (w v : Workspace) (s : σ) (r q : Progress σ) : Prop where
  outcome : q.outcome = r.outcome
  frame : Frame.Twins w v r.frame q.frame
  state : r.state = s ∧ q.state = s

theorem declareAll_twins {steps : List (Step σ)} (fixed : ∀ step ∈ steps, step.Fixed)
    (twins : f.Twins w v g) (s : σ) :
    Progress.Twins w v s (declareAll steps f s) (declareAll steps g s) ∧
      (declareTurns steps g s).map Turn.layout = (declareTurns steps f s).map Turn.layout := by
  induction steps generalizing f g with
  | nil => exact ⟨⟨rfl, twins, rfl, rfl⟩, rfl⟩
  | cons step rest ih =>
    obtain ⟨now, later⟩ := List.forall_mem_cons.mp fixed
    obtain ⟨said, f', g', first, second, after⟩ := now.run_twins twins s
    simp only [declareAll, declareTurns, List.map_cons, Turn.layout, first, second, after.layout]
    cases said with
    | error reason => exact ⟨⟨rfl, after, rfl, rfl⟩, rfl⟩
    | ok =>
      obtain ⟨progress, turns⟩ := ih later after.noteUsage
      exact ⟨progress, congrArg (_ :: ·) turns⟩

theorem evaluate_twins {step : Step σ} (fixed : step.Fixed) (twins : f.Twins w v g) (s : σ) :
    Progress.Twins w v s (evaluate step f s) (evaluate step g s) := by
  obtain ⟨said, f', g', first, second, after⟩ := fixed.run_twins twins s
  have released := after.noteUsage.releaseScratch
  have before : g.usage = f.usage := twins.workspace.usage
  simp only [evaluate, first, second, before]
  generalize f'.noteUsage.releaseScratch = p at released
  generalize g'.noteUsage.releaseScratch = q at released
  cases released with
  | refused fault frames => cases said <;> exact ⟨rfl, frames, rfl, rfl⟩
  | @served _ _ f'' g'' _ frames =>
    cases said with
    | error reason => exact ⟨rfl, frames, rfl, rfl⟩
    | ok =>
      have usage : g''.usage = f''.usage := frames.workspace.usage
      simp only [usage]
      split <;> exact ⟨rfl, frames, rfl, rfl⟩

theorem evaluateAll_twins {steps : List (Step σ)} (fixed : ∀ step ∈ steps, step.Fixed)
    (twins : f.Twins w v g) (s : σ) :
    Progress.Twins w v s (evaluateAll steps f s) (evaluateAll steps g s) ∧
      (evaluateTurns steps g s).map Turn.layout = (evaluateTurns steps f s).map Turn.layout := by
  induction steps generalizing f g with
  | nil => exact ⟨⟨rfl, twins, rfl, rfl⟩, rfl⟩
  | cons step rest ih =>
    obtain ⟨now, later⟩ := List.forall_mem_cons.mp fixed
    obtain ⟨said, f', g', first, second, after⟩ := now.run_twins twins s
    obtain ⟨same, frames, mine, yours⟩ := evaluate_twins now twins s
    simp only [evaluateAll, evaluateTurns, List.map_cons, Turn.layout, first, second, after.layout]
    generalize evaluate step f s = p at same frames mine ⊢
    generalize evaluate step g s = q at same frames yours ⊢
    obtain ⟨outcome, f'', t⟩ := p
    obtain ⟨outcome', g'', t'⟩ := q
    dsimp only at same frames mine yours
    rw [same, mine, yours]
    cases outcome with
    | error fault => exact ⟨⟨rfl, frames, rfl, rfl⟩, rfl⟩
    | ok =>
      obtain ⟨progress, turns⟩ := ih later frames
      exact ⟨progress, congrArg (_ :: ·) turns⟩

variable {m : Model σ}

/-- **The steps** of a model of fixed scripts go the same way in twin frames. -/
theorem takeSteps_twins (fixed : ∀ step ∈ m.blueprint.steps, step.Fixed) (twins : f.Twins w v g)
    (s : σ) : Progress.Twins w v s (m.takeSteps f s) (m.takeSteps g s) ∧
      (m.stepsTurns g s).map Turn.layout = (m.stepsTurns f s).map Turn.layout := by
  obtain ⟨declarations, evaluations⟩ := List.forall_mem_append.mp fixed
  obtain ⟨⟨same, frames, mine, yours⟩, turns⟩ := declareAll_twins declarations twins s
  simp only [takeSteps, stepsTurns, List.map_append, turns]
  generalize declareAll m.blueprint.declarations f s = p at same frames mine ⊢
  generalize declareAll m.blueprint.declarations g s = q at same frames yours ⊢
  obtain ⟨outcome, f', t⟩ := p
  obtain ⟨outcome', g', t'⟩ := q
  dsimp only at same frames mine yours
  rw [same, mine, yours]
  cases outcome with
  | error fault => exact ⟨⟨rfl, frames, rfl, rfl⟩, rfl⟩
  | ok =>
    have begun : Frame.Twins w v f'.beginEvaluation g'.beginEvaluation :=
      { frames with phase := rfl }
    obtain ⟨progress, others⟩ := evaluateAll_twins evaluations begun s
    exact ⟨progress, congrArg (_ ++ ·) others⟩

end Model

end Steps

/-! ### Runs -/

namespace Workspace

variable {w v x y : Workspace}

/-- Twins come back to their start alike. -/
theorem Twins.unwindTo_mark (twins : Twins w v x y) (entry : Twins w v w v) :
    (y.unwindTo v.mark).1 = (x.unwindTo w.mark).1 := by
  have marks : ∀ p,
      (y.arena p).checkMark (v.mark.get p) = (x.arena p).checkMark (w.mark.get p) := by
    intro p
    rw [mark, mark, PerPool.get_map, PerPool.get_map]
    exact (twins p).checkMark (entry p).mark
  have first : (y.arena .metadata).checkMark v.mark.metadata =
      (x.arena .metadata).checkMark w.mark.metadata := marks .metadata
  have second : (y.arena .ram).checkMark v.mark.ram =
      (x.arena .ram).checkMark w.mark.ram := marks .ram
  cases metadata : (x.arena .metadata).checkMark w.mark.metadata with
  | error fault => simp only [Workspace.unwindTo, first, metadata]
  | ok =>
    cases ram : (x.arena .ram).checkMark w.mark.ram with
    | error fault => simp only [Workspace.unwindTo, first, metadata, second, ram]
    | ok =>
      have recalls : x.Recalls w.mark := by
        intro p
        cases p with
        | metadata => exact metadata
        | ram => exact ram
      have others : y.Recalls v.mark := fun p => (marks p).trans (recalls p)
      obtain ⟨x', done, -⟩ := unwindTo_of_recalls recalls
      obtain ⟨y', also, -⟩ := unwindTo_of_recalls others
      rw [done, also]

end Workspace

namespace Model

variable {w v : Workspace} {inputs inputs' outputs outputs' : Table Bytes} {m : Model σ}

theorem checkEntry_twins (twins : Workspace.Twins w v w v) (given : SameSizes inputs inputs')
    (wanted : SameSizes outputs outputs') :
    m.checkEntry v inputs' outputs' = m.checkEntry w inputs outputs := by
  have remaining : ∀ p, (v.arena p).remaining = (w.arena p).remaining := by
    intro p
    rw [Arena.remaining, Arena.remaining, (twins p).capacity, (twins p).highWater]
  have names : ∀ name, inputs'.contains name = inputs.contains name :=
    fun name => Table.contains_of_rel (given name)
  have others : ∀ name, outputs'.contains name = outputs.contains name :=
    fun name => Table.contains_of_rel (wanted name)
  simp only [checkEntry, remaining, names, others]

/-- **Runs go the same way** in arenas of the same capacities and levels. -/
theorem run_twins (fixed : ∀ step ∈ m.blueprint.steps, step.Fixed)
    (twins : Workspace.Twins w v w v) (given : SameSizes inputs inputs')
    (wanted : SameSizes outputs outputs') (s : σ) :
    (m.run v inputs' outputs' s).outcome = (m.run w inputs outputs s).outcome ∧
      (m.turns v inputs' outputs' s).map Turn.layout =
        (m.turns w inputs outputs s).map Turn.layout ∧
      (m.run w inputs outputs s).state = s := by
  simp only [run, turns, checkEntry_twins twins given wanted]
  cases m.checkEntry w inputs outputs with
  | error fault => exact ⟨rfl, rfl, rfl⟩
  | ok =>
    have start : Frame.Twins w v (.start w inputs outputs) (.start v inputs' outputs') :=
      ⟨twins, given, wanted, .nil, .nil, rfl, twins.usage⟩
    obtain ⟨⟨same, frames, mine, -⟩, layouts⟩ := takeSteps_twins fixed start s
    have unwound := frames.workspace.unwindTo_mark twins
    have reports : m.report (m.takeSteps (.start v inputs' outputs') s).frame =
        m.report (m.takeSteps (.start w inputs outputs) s).frame := by
      rw [report, report, frames.peak, frames.bindings.size]
    refine ⟨?_, layouts, ?_⟩
    · generalize m.takeSteps (.start w inputs outputs) s = p at same unwound reports ⊢
      generalize m.takeSteps (.start v inputs' outputs') s = q at same unwound reports ⊢
      obtain ⟨outcome, f, t⟩ := p
      obtain ⟨outcome', g, t'⟩ := q
      dsimp only at same unwound reports ⊢
      rw [same]
      generalize f.workspace.unwindTo w.mark = r at unwound
      generalize g.workspace.unwindTo v.mark = r' at unwound
      obtain ⟨r, u⟩ := r
      obtain ⟨r', u'⟩ := r'
      dsimp only at unwound
      rw [unwound]
      cases outcome with
      | error fault => rfl
      | ok =>
        cases r with
        | error fault => rfl
        | ok => exact congrArg Except.ok reports
    · generalize m.takeSteps (.start w inputs outputs) s = p at mine ⊢
      obtain ⟨outcome, f, t⟩ := p
      dsimp only at mine ⊢
      split <;> exact mine

/-- **The outcome of a run depends on its arenas through their capacities and levels only.** Take a
model of fixed scripts, two pairs of arenas of the same capacities, brought to the same levels by
any calls, and inputs and outputs of the same sizes. The runs report the same or fail for the same
reason, and step by step every binding and every scratch claim lies at the same place. Where the
two arenas have ids of their own, the next run on them goes the same way again. -/
theorem outcome_of_levels (fixed : ∀ step ∈ m.blueprint.steps, step.Fixed)
    {issued others : PerPool (List Token)} (reached : ∀ p, (w.arena p).Reached (issued.get p))
    (also : ∀ p, (v.arena p).Reached (others.get p))
    (capacity : ∀ p, (v.arena p).capacity = (w.arena p).capacity)
    (level : ∀ p, (v.arena p).highWater = (w.arena p).highWater)
    (given : SameSizes inputs inputs') (wanted : SameSizes outputs outputs') (s : σ) :
    (m.run v inputs' outputs' s).outcome = (m.run w inputs outputs s).outcome ∧
      (m.turns v inputs' outputs' s).map Turn.layout =
        (m.turns w inputs outputs s).map Turn.layout ∧
      ((w.arena .metadata).id ≠ (w.arena .ram).id →
        let first := m.run w inputs outputs s
        (m.run first.workspace inputs' outputs' first.state).outcome = first.outcome ∧
          (m.turns first.workspace inputs' outputs' first.state).map Turn.layout =
            (m.turns w inputs outputs s).map Turn.layout) := by
  have sound := fun p => (reached p).sound.1
  have twins : ∀ {u : Workspace}, (∀ p, (u.arena p).Sound) →
      (∀ p, (u.arena p).capacity = (w.arena p).capacity) →
      (∀ p, (u.arena p).highWater = (w.arena p).highWater) → Workspace.Twins w u w u := by
    intro u safe same at_level p
    have pools : (u.arena p).pool = (w.arena p).pool := (u.pool_arena p).trans (w.pool_arena p).symm
    exact Arena.twins_entry (sound p) (safe p) pools (same p) (at_level p)
  obtain ⟨outcome, layouts, state⟩ :=
    run_twins fixed (twins (fun p => (also p).sound.1) capacity level) given wanted s
  refine ⟨outcome, layouts, ?_⟩
  intro distinct
  -- A blind program presents no token, so the run gives back what it took.
  have leaves : Leaves w (m.run w inputs outputs s).workspace :=
    run_leaves (fun step mem t => ((fixed step mem).blind t).asks)
      (Workspace.sound_of_distinct sound distinct) s
  obtain ⟨again, also, -⟩ := run_twins fixed
    (twins leaves.sound.arenas leaves.capacity leaves.highWater) given wanted s
  dsimp only
  rw [state]
  exact ⟨again, also⟩

/-! A model whose last step leaks two bytes, in arenas where five bytes of ram are claimed. Of one
pair nothing else was asked before. Of the other one arena was written to and reset, and the other
was unwound. -/

namespace Worn

def metadata (id : Nat) : Arena :=
  ⟨⟨id⟩, .metadata, Buffer.zeroed 64, 0, 0, 0, 0, .empty, .empty, 0⟩

def ram (id : Nat) : Arena := ⟨⟨id⟩, .ram, Buffer.zeroed 32, 0, 0, 0, 0, .empty, .empty, 0⟩

def young : Workspace where
  arenas := ⟨metadata 1, ((ram 2).perform (.allocate 5 1)).2⟩
  serves p := by cases p <;> decide +kernel

/-- The whole of the used ram arena. -/
def whole : Handle := ⟨⟨4⟩, .ram, 0, 32, ⟨0, 0⟩, .empty⟩

def written : Arena :=
  (((ram 4).perform (.allocate 32 1)).2.perform (.modify whole fun _ => List.replicate 32 171)).2

def unwound : Arena :=
  ((((metadata 3).perform .mark).2.perform (.allocate 8 4)).2.perform
    (.unwindTo (metadata 3).mark)).2

def used : Workspace where
  arenas := ⟨unwound, ((written.perform .reset).2.perform (.allocate 5 1)).2⟩
  serves p := by cases p <;> decide +kernel

theorem reached_metadata (id : Nat) : (metadata id).Reached [] :=
  .built (Arena.build_ok_iff.mpr ⟨by decide, by decide, rfl⟩)

theorem reached_ram (id : Nat) : (ram id).Reached [] :=
  .built (Arena.build_ok_iff.mpr ⟨by decide, by decide, rfl⟩)

theorem reached_pools {w : Workspace} {records bytes : List Token}
    (metadata : (w.arena .metadata).Reached records) (ram : (w.arena .ram).Reached bytes) :
    ∃ issued : PerPool (List Token), ∀ p, (w.arena p).Reached (issued.get p) := by
  refine ⟨⟨records, bytes⟩, fun p => ?_⟩
  cases p with
  | metadata => exact metadata
  | ram => exact ram

theorem reached_young :
    ∃ issued : PerPool (List Token), ∀ p, (young.arena p).Reached (issued.get p) := by
  have claimed := (reached_ram 2).called (.allocate 5 1) (List.forall_mem_nil _)
  exact reached_pools (reached_metadata 1) claimed

theorem reached_used :
    ∃ issued : PerPool (List Token), ∀ p, (used.arena p).Reached (issued.get p) := by
  have padded := (reached_metadata 3).called .mark (List.forall_mem_nil _)
  have claimed := padded.called (.allocate 8 4) (List.forall_mem_nil _)
  have records : unwound.Reached _ :=
    claimed.called (.unwindTo (metadata 3).mark) (by decide +kernel)
  have filled := (reached_ram 4).called (.allocate 32 1) (List.forall_mem_nil _)
  have wrote : written.Reached _ :=
    filled.called (.modify whole fun _ => List.replicate 32 171) (by decide +kernel)
  have reset := wrote.called .reset (List.forall_mem_nil _)
  have again := reset.called (.allocate 5 1) (List.forall_mem_nil _)
  apply reached_pools
  · exact records
  · simp only [Workspace.arena, used, PerPool.get]
    exact again

/-- Exchange the bytes of a row with scratch, and leak. -/
def blueprint : Blueprint Unit where
  name := "worn"
  capacities := ⟨64, 32⟩
  inputs := ["input"]
  outputs := ["output"]
  declarations := [.scripted "row" ⟨48, 12⟩ [
    .bindTensor "row" ⟨.i8, [1, 4], 0⟩,
    .bind "spare" .ram 3 2]]
  evaluations := [
    .scripted "turn" ⟨0, 7⟩ [
      .load "input" "row",
      .claimScratch .ram 4 4,
      .modifyPair (.binding "row") (.scratch ⟨0⟩) fun row scratch => (scratch, row),
      .modifyScratch ⟨0⟩ List.reverse,
      .modifyBinding "spare" (List.map (· + 1)),
      .store "row" "output"],
    .scripted "leak" .zero [.onArena .ram (.allocate 2 1)]]

def model : Model Unit := ⟨blueprint, blueprint.needs⟩

theorem fixed : ∀ step ∈ model.blueprint.steps, step.Fixed := by
  intro step mem
  simp only [model, blueprint, Blueprint.steps, List.cons_append, List.nil_append,
    List.mem_cons, List.not_mem_nil, or_false] at mem
  rcases mem with rfl | rfl | rfl
  all_goals exact Step.fixed_scripted (by simp [Frame.Call.isScripted])

def input (bytes : Bytes) : Table Bytes := .ofList [("input", bytes)]

def output : Table Bytes := .ofList [("output", [0, 0, 0, 0])]

end Worn

open Worn in
/-- Both runs stop at the leak, at the same level, and so does a second run. -/
theorem outcome_of_levels_worn :
    (∃ issued : PerPool (List Token), ∀ p, (young.arena p).Reached (issued.get p)) ∧
      (∃ issued : PerPool (List Token), ∀ p, (used.arena p).Reached (issued.get p)) ∧
      (∀ step ∈ model.blueprint.steps, step.Fixed) ∧
      ((young.arena .ram).epoch, (young.arena .metadata).clock) = (0, 0) ∧
      ((used.arena .ram).epoch, (used.arena .metadata).clock) = (1, 2) ∧
      (young.arena .ram).buffer.view 5 3 = [0, 0, 0] ∧
      (used.arena .ram).buffer.view 5 3 = [171, 171, 171] ∧
      (model.run young (input [1, 2, 3, 4]) output ()).outcome =
        .error (.unbalanced "leak" .ram 13 15) ∧
      (model.run used (input [5, 6, 7, 8]) output ()).outcome =
        .error (.unbalanced "leak" .ram 13 15) ∧
      ((model.turns used (input [5, 6, 7, 8]) output ()).map Turn.layout).map
        (·.scratch) = [[], [⟨.ram, 16, 4⟩], []] ∧
      (young.arena .metadata).id ≠ (young.arena .ram).id ∧
      let first := model.run young (input [1, 2, 3, 4]) output ()
      (model.run first.workspace (input [5, 6, 7, 8]) output first.state).outcome =
        .error (.unbalanced "leak" .ram 13 15) := by
  obtain ⟨issued, reached⟩ := reached_young
  obtain ⟨others, also⟩ := reached_used
  have capacity : ∀ p, (used.arena p).capacity = (young.arena p).capacity := by
    intro p
    cases p <;> decide +kernel
  have level : ∀ p, (used.arena p).highWater = (young.arena p).highWater := by
    intro p
    cases p <;> decide +kernel
  have distinct : (young.arena .metadata).id ≠ (young.arena .ram).id := by decide +kernel
  have given : SameSizes (input [1, 2, 3, 4]) (input [5, 6, 7, 8]) :=
    Table.Twins.get? (.cons ⟨rfl, rfl⟩ .nil)
  have wanted : SameSizes output output := Table.Twins.get? (.cons ⟨rfl, rfl⟩ .nil)
  obtain ⟨same, layouts, again⟩ :=
    outcome_of_levels fixed reached also capacity level given wanted ()
  have outcome : (model.run young (input [1, 2, 3, 4]) output ()).outcome =
      .error (.unbalanced "leak" .ram 13 15) := by decide +kernel
  have past : ((young.arena .ram).epoch, (young.arena .metadata).clock) = (0, 0) := by
    decide +kernel
  have longer : ((used.arena .ram).epoch, (used.arena .metadata).clock) = (1, 2) := by
    decide +kernel
  have clean : (young.arena .ram).buffer.view 5 3 = [0, 0, 0] := by decide +kernel
  have dirty : (used.arena .ram).buffer.view 5 3 = [171, 171, 171] := by decide +kernel
  have claims : ((model.turns young (input [1, 2, 3, 4]) output ()).map Turn.layout).map
      (·.scratch) = [[], [⟨.ram, 16, 4⟩], []] := by decide +kernel
  have places := (congrArg (List.map (·.scratch)) layouts).trans claims
  exact ⟨⟨issued, reached⟩, ⟨others, also⟩, fixed, past, longer, clean, dirty, outcome,
    same.trans outcome, places, distinct, (again distinct).1.trans outcome⟩

end Model

end TensorArena
