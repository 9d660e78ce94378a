import TensorArena.Proofs.Frame.Peak
import TensorArena.Proofs.Model.Leftover

/-!
The peak that a run reports.

A run is one list of calls on one frame: the calls of each step, the usage that is noted after it,
and the release of its scratch (`Model.takeSteps_after`). So what a run reports is the highest
level that these calls noted, the level at the start included. It is the highest level that the
arena passed through unless a call to an arena past the frame went above all of them, and came
down again before the usage was noted.
-/

namespace TensorArena

/-- Unwinding both arenas is one call of each. -/
theorem Workspace.performAll_of_unwindTo {w v : Workspace} {m : PerPool Mark}
    (done : w.unwindTo m = (.ok (), v)) :
    v = w.performAll [(.metadata, .unwindTo m.metadata), (.ram, .unwindTo m.ram)] := by
  unfold unwindTo at done
  split at done
  · cases done
  · split at done
    · cases done
    · split at done
      · cases done
      · rename_i u first
        have metadata : (w.perform .metadata (.unwindTo m.metadata)).2 = u :=
          congrArg Prod.snd first
        simp only [performAll, metadata]
        exact (congrArg Prod.snd done).symm

/-- A program leaves what its calls leave. -/
theorem Program.run_after {α : Type} (program : Program α) (f : Frame) :
    (program.run f).2 = f.after ((program.transcript f).map (·.call)) := by
  induction program generalizing f with
  | done value => rfl
  | call c next ih => exact ih _ _

section

variable {σ : Type} {f : Frame} {s : σ} {m : Model σ} {w : Workspace}
  {inputs outputs : Table Bytes}

/-- The calls with which a run ends a turn. A declaring step that fails ends the run at once. -/
def Turn.closing (t : Turn σ) : List Frame.Call :=
  match t.phase with
  | .declaring =>
    match t.visit.said with
    | .error _ => []
    | .ok () => [.noteUsage]
  | .evaluating => [.noteUsage, .releaseScratch]

/-- The calls of a turn: those of its step, and those with which the run ends it. -/
def Turn.calls (t : Turn σ) : List Frame.Call := t.visit.events.map (·.call) ++ t.closing

theorem Turn.not_raw_of_closing {t : Turn σ} {c : Frame.Call} (mem : c ∈ t.closing) :
    c.isRaw = false := by
  unfold Turn.closing at mem
  split at mem
  · split at mem
    · cases mem
    · rw [List.mem_singleton.mp mem]
      rfl
  · rcases List.mem_cons.mp mem with rfl | last
    · rfl
    · rw [List.mem_singleton.mp last]
      rfl

namespace Model

/-! ### A run as calls in order -/

theorem declareAll_after (steps : List (Step σ)) (f : Frame) (s : σ) :
    (declareAll steps f s).frame = f.after ((declareTurns steps f s).flatMap Turn.calls) := by
  induction steps generalizing f s with
  | nil => rfl
  | cons step rest ih =>
    have ran := (step.body s).run_after f
    simp only [declareAll, declareTurns, List.flatMap_cons, Turn.calls, Turn.closing, Turn.visit,
      Step.visit, Frame.after_append, ← ran]
    rcases (step.body s).run f with ⟨⟨_ | _, t⟩, g⟩
    · rfl
    · exact ih g.noteUsage t

theorem evaluateAll_after (steps : List (Step σ)) (f : Frame) (s : σ) :
    (evaluateAll steps f s).frame = f.after ((evaluateTurns steps f s).flatMap Turn.calls) := by
  induction steps generalizing f s with
  | nil => rfl
  | cons step rest ih =>
    have own : (⟨step, .evaluating, f, s⟩ : Turn σ).calls =
        ((step.body s).transcript f).map (·.call) ++ [.noteUsage, .releaseScratch] := rfl
    have ended : f.after (⟨step, .evaluating, f, s⟩ : Turn σ).calls =
        (evaluate step f s).frame := by
      rw [own, Frame.after_append, ← (step.body s).run_after f, frame_evaluate]
      rfl
    simp only [evaluateAll, evaluateTurns, List.flatMap_cons, Frame.after_append, ended]
    rcases evaluate step f s with ⟨_ | _, g, t⟩
    · rfl
    · exact ih g t

/-- The calls of all steps, from a frame on. -/
def stepsCalls (m : Model σ) (f : Frame) (s : σ) : List Frame.Call :=
  (declareTurns m.blueprint.declarations f s).flatMap Turn.calls ++
    match declareAll m.blueprint.declarations f s with
    | ⟨.error _, _, _⟩ => []
    | ⟨.ok (), f, s⟩ => .beginEvaluation ::
      (evaluateTurns m.blueprint.evaluations f.beginEvaluation s).flatMap Turn.calls

/-- **The steps of a run** leave what their calls leave. -/
theorem takeSteps_after (m : Model σ) (f : Frame) (s : σ) :
    (m.takeSteps f s).frame = f.after (m.stepsCalls f s) := by
  have declared := declareAll_after m.blueprint.declarations f s
  simp only [takeSteps, stepsCalls, Frame.after_append, ← declared]
  rcases declareAll m.blueprint.declarations f s with ⟨_ | _, g, t⟩
  · rfl
  · exact evaluateAll_after m.blueprint.evaluations g.beginEvaluation t

/-- Calls to an arena past the frame are calls of the steps. -/
theorem mem_transcript_of_raw {c : Frame.Call}
    (mem : c ∈ m.stepsCalls (Frame.start w inputs outputs) s) (raw : c.isRaw = true)
    (entered : m.checkEntry w inputs outputs = .ok ()) :
    ∃ e ∈ m.transcript w inputs outputs s, e.call = c := by
  have own : ∀ t : Turn σ, c ∈ t.calls → ∃ e ∈ t.visit.events, e.call = c := by
    intro t mem
    rcases List.mem_append.mp mem with asked | ended
    · simpa using asked
    · rw [Turn.not_raw_of_closing ended] at raw
      cases raw
  have turn : ∃ t ∈ m.turns w inputs outputs s, c ∈ t.calls := by
    simp only [turns, entered, stepsTurns, stepsCalls, List.mem_append, List.mem_flatMap] at mem ⊢
    rcases mem with ⟨t, taken, mem⟩ | evaluating
    · exact ⟨t, .inl taken, mem⟩
    · generalize declareAll m.blueprint.declarations (Frame.start w inputs outputs) s = declared
        at evaluating ⊢
      rcases declared with ⟨_ | _, g, u⟩
      · cases evaluating
      · rcases List.mem_cons.mp evaluating with rfl | mem
        · cases raw
        · obtain ⟨t, taken, mem⟩ := List.mem_flatMap.mp mem
          exact ⟨t, .inr taken, mem⟩
  obtain ⟨t, taken, mem⟩ := turn
  obtain ⟨e, asked, rfl⟩ := own t mem
  refine ⟨e, ?_, rfl⟩
  rw [transcript_eq, visits_eq, List.mem_flatMap]
  exact ⟨t.visit, List.mem_map_of_mem taken, asked⟩

/-! ### Levels of a run -/

/-- The calls of a run. A run that cannot start makes none. -/
def calls (m : Model σ) (w : Workspace) (inputs outputs : Table Bytes) (s : σ) :
    List Frame.Call :=
  match m.checkEntry w inputs outputs with
  | .error _ => []
  | .ok () => m.stepsCalls (Frame.start w inputs outputs) s

/-- The calls that bring both arenas back to their state at the start. -/
def unwinding (w : Workspace) : List (Pool × Arena.Call) :=
  [(.metadata, .unwindTo w.mark.metadata), (.ram, .unwindTo w.mark.ram)]

/-- The levels that an arena has during a run: the one at the start, those that the calls pass
through, and those of the final unwinding. -/
def levels (p : Pool) (m : Model σ) (w : Workspace) (inputs outputs : Table Bytes) (s : σ) :
    List Nat :=
  let f := Frame.start w inputs outputs
  let calls := m.calls w inputs outputs s
  (f.level p :: f.gather (Frame.levels p) calls) ++
    (f.after calls).workspace.levels p (unwinding w)

/-- The levels that are noted during a run, the one at the start included. -/
def notedLevels (p : Pool) (m : Model σ) (w : Workspace) (inputs outputs : Table Bytes) (s : σ) :
    List Nat :=
  let f := Frame.start w inputs outputs
  f.level p :: f.gather (Frame.notes p) (m.calls w inputs outputs s)

/-- The levels that calls past the frame bring about during a run. -/
def rawLevels (p : Pool) (m : Model σ) (w : Workspace) (inputs outputs : Table Bytes) (s : σ) :
    List Nat :=
  (Frame.start w inputs outputs).gather (Frame.rawLevels p) (m.calls w inputs outputs s)

/-- A run that succeeds reports on the frame that its calls leave, and unwinds its arenas. -/
theorem run_ok {report : Report} (done : (m.run w inputs outputs s).outcome = .ok report) :
    let g := (Frame.start w inputs outputs).after (m.calls w inputs outputs s)
    report = m.report g ∧
      (m.run w inputs outputs s).workspace = g.workspace.performAll (unwinding w) := by
  simp only [run] at done ⊢
  cases entered : m.checkEntry w inputs outputs with
  | error fault =>
    rw [entered] at done
    cases done
  | ok =>
    rw [entered] at done
    have left := m.takeSteps_after (Frame.start w inputs outputs) s
    simp only [calls, entered, ← left]
    generalize m.takeSteps (Frame.start w inputs outputs) s = progress at done ⊢
    obtain ⟨outcome, g, t⟩ := progress
    rcases unwound : g.workspace.unwindTo w.mark with ⟨answer, v⟩
    simp only [unwound] at done ⊢
    cases outcome <;> cases answer <;> cases done
    exact ⟨rfl, Workspace.performAll_of_unwindTo unwound⟩

theorem levels_unwinding_le (v : Workspace) (p : Pool) :
    ∀ level ∈ v.levels p (unwinding w), level ≤ (v.arena p).highWater := by
  have first := v.level_unwindTo_le .metadata w.mark.metadata p
  have second := (v.perform .metadata (.unwindTo w.mark.metadata)).2.level_unwindTo_le .ram
    w.mark.ram p
  simp only [unwinding, Workspace.levels, List.forall_mem_cons]
  exact ⟨first, Nat.le_trans second first, by simp⟩

/-- What is noted during a run is a level that the arena has. -/
theorem notedLevels_subset (sound : ∀ p, (w.arena p).Sound) (p : Pool) :
    m.notedLevels p w inputs outputs s ⊆ m.levels p w inputs outputs s := by
  have subset := (Frame.Covered.start sound inputs outputs).notes_subset
    (m.calls w inputs outputs s) p
  refine List.Subset.trans ?_ (List.subset_append_left _ _)
  exact List.cons_subset.mpr ⟨List.mem_cons_self, subset⟩

theorem rawLevels_subset (p : Pool) :
    m.rawLevels p w inputs outputs s ⊆ m.levels p w inputs outputs s := by
  refine List.Subset.trans (Frame.rawLevels_subset _ _ p) ?_
  exact List.Subset.trans (List.subset_cons_self _ _) (List.subset_append_left _ _)

/-- The steps of a run that leave the arenas to their frame bring about no raw level. -/
theorem rawLevels_eq_nil (plain : ∀ e ∈ m.transcript w inputs outputs s, e.call.isRaw = false)
    (p : Pool) : m.rawLevels p w inputs outputs s = [] := by
  refine Frame.gather_rawLevels_eq_nil _ (fun c mem => ?_) p
  unfold calls at mem
  split at mem
  · cases mem
  · rename_i entered
    by_contra raw
    obtain ⟨e, asked, rfl⟩ := mem_transcript_of_raw mem (Bool.not_eq_false _ ▸ raw) entered
    exact raw (plain e asked)

/-- The peak that is reported is the highest level that was noted. -/
theorem peak_eq_highest (sound : ∀ p, (w.arena p).Sound) {report : Report}
    (done : (m.run w inputs outputs s).outcome = .ok report) (p : Pool) :
    report.peak.get p = highest (m.notedLevels p w inputs outputs s) := by
  obtain ⟨rfl, -⟩ := run_ok done
  have start : (Frame.start w inputs outputs).peak.get p =
      (Frame.start w inputs outputs).level p := PerPool.get_map _ _ p
  have covered := Frame.Covered.start sound inputs outputs
  rw [notedLevels, highest_cons, ← start]
  exact covered.peak_after (m.calls w inputs outputs s) p

/-- The highest level of a run is the reported one or one of a call past the frame. -/
theorem highest_levels (sound : ∀ p, (w.arena p).Sound) {report : Report}
    (done : (m.run w inputs outputs s).outcome = .ok report) (p : Pool) :
    highest (m.levels p w inputs outputs s) =
      max (report.peak.get p) (highest (m.rawLevels p w inputs outputs s)) := by
  have reported := peak_eq_highest sound done p
  obtain ⟨rfl, -⟩ := run_ok done
  have passed := (Frame.Covered.start sound inputs outputs).levels_le
    (m.calls w inputs outputs s) p
  have ended := (Frame.start w inputs outputs).level_after (m.calls w inputs outputs s) p
  have entry : (Frame.start w inputs outputs).level p ≤
      highest (m.notedLevels p w inputs outputs s) := le_highest List.mem_cons_self
  rw [← reported] at entry
  have low : ∀ level ∈ (Frame.start w inputs outputs).level p ::
      (Frame.start w inputs outputs).gather (Frame.levels p) (m.calls w inputs outputs s),
      level ≤ max ((m.report ((Frame.start w inputs outputs).after
        (m.calls w inputs outputs s))).peak.get p)
        (highest (m.rawLevels p w inputs outputs s)) := by
    refine List.forall_mem_cons.mpr ⟨Nat.le_trans entry (Nat.le_max_left _ _), fun level mem => ?_⟩
    have bound := passed level mem
    simp only [report, rawLevels] at entry bound ⊢
    omega
  refine Nat.le_antisymm (highest_le_iff.mpr fun level mem => ?_) (Nat.max_le.mpr ⟨?_, ?_⟩)
  · rcases List.mem_append.mp mem with during | unwound
    · exact low level during
    · exact Nat.le_trans (levels_unwinding_le _ p level unwound) (low _ ended)
  · rw [reported]
    exact highest_le_iff.mpr fun level mem => le_highest (notedLevels_subset sound p mem)
  · exact highest_le_iff.mpr fun level mem => le_highest (rawLevels_subset p mem)

/-- **The reported peak** of a run that succeeds is the highest level that was noted, which is a
level that the arena had. The highest level of all is the reported one or one that a call past
the frame brought about. So the report tells the highest level exactly if no such call went above
all that was noted, as in a run whose steps leave the arenas to their frame. -/
theorem reported_peak_iff {issued : PerPool (List Token)}
    (reached : ∀ p, (w.arena p).Reached (issued.get p)) (m : Model σ) (inputs outputs : Table Bytes)
    (s : σ) {report : Report} (done : (m.run w inputs outputs s).outcome = .ok report) (p : Pool) :
    report.peak.get p = highest (m.notedLevels p w inputs outputs s) ∧
      m.notedLevels p w inputs outputs s ⊆ m.levels p w inputs outputs s ∧
      highest (m.levels p w inputs outputs s) =
        max (report.peak.get p) (highest (m.rawLevels p w inputs outputs s)) ∧
      (report.peak.get p = highest (m.levels p w inputs outputs s) ↔
        ∀ raw ∈ m.rawLevels p w inputs outputs s,
          ∃ noted ∈ m.notedLevels p w inputs outputs s, raw ≤ noted) ∧
      ((∀ e ∈ m.transcript w inputs outputs s, e.call.isRaw = false) →
        report.peak.get p = highest (m.levels p w inputs outputs s)) := by
  have sound := fun p => (reached p).sound.1
  have reported := peak_eq_highest sound done p
  have all := highest_levels sound done p
  have below : report.peak.get p = highest (m.levels p w inputs outputs s) ↔
      ∀ raw ∈ m.rawLevels p w inputs outputs s, raw ≤ report.peak.get p := by
    rw [all, ← highest_le_iff]
    omega
  refine ⟨reported, notedLevels_subset sound p, all, ?_, fun plain => ?_⟩
  · rw [below, reported]
    refine forall₂_congr fun raw _ => ⟨fun le => ?_, fun ⟨noted, mem, le⟩ => ?_⟩
    · exact ⟨_, highest_mem_cons _ _, le⟩
    · exact Nat.le_trans le (le_highest mem)
  · rw [below, rawLevels_eq_nil plain]
    simp

end Model

end

/-! A step that claims eight bytes past its frame, gives them back, and then takes four bytes of
scratch. -/

namespace Model

namespace Excursion

def excursion : Step Unit where
  name := "excursion"
  demand := .only .ram 8
  body s :=
    .call (.onArena .ram (.allocate 8 1)) fun
      | .error fault => .done (.error (.arena fault), s)
      | .ok h => .call (.onArena .ram (.release h)) fun _ =>
        .call (.claimScratch .ram 4 1) fun _ => .done (.ok (), s)

def blueprint : Blueprint Unit := ⟨"excursion", ⟨64, 64⟩, [], [], [], [excursion]⟩

def model : Model Unit := ⟨blueprint, blueprint.needs⟩

/-- Four bytes at most were noted. -/
def report : Report := ⟨"excursion", 0, 1, 0, ⟨0, 4⟩⟩

end Excursion

open Excursion in
/-- The reported peak of the ram arena is the highest noted level, and not the highest level. -/
theorem reported_peak_iff_excursion :
    (model.run (.zeroed 64 64) .empty .empty ()).outcome = .ok Excursion.report ∧
      highest (model.notedLevels .ram (.zeroed 64 64) .empty .empty ()) = 4 ∧
      8 ∈ model.rawLevels .ram (.zeroed 64 64) .empty .empty () ∧
      ¬ (Excursion.report.peak.get .ram =
        highest (model.levels .ram (.zeroed 64 64) .empty .empty ())) ∧
      Excursion.report.peak.get .metadata =
        highest (model.levels .metadata (.zeroed 64 64) .empty .empty ()) := by
  have done : (model.run (.zeroed 64 64) .empty .empty ()).outcome = .ok Excursion.report := by
    decide +kernel
  have reached := Workspace.reached_zeroed (show 0 < 64 ∧ 0 < 64 by decide) (by decide)
  obtain ⟨noted, -, -, ram, -⟩ := reported_peak_iff reached model .empty .empty () done .ram
  obtain ⟨-, -, -, metadata, -⟩ :=
    reported_peak_iff reached model .empty .empty () done .metadata
  refine ⟨done, noted.symm, by decide +kernel, ?_, metadata.mpr (by decide +kernel)⟩
  rw [ram]
  decide +kernel

open Excursion in
/-- A run succeeds and reports four bytes as the peak of the ram arena, which stood at eight. -/
theorem excursion_not_reported :
    (model.run (.zeroed 64 64) .empty .empty ()).outcome = .ok Excursion.report ∧
      Excursion.report.peak.get .ram = 4 ∧
      highest (model.levels .ram (.zeroed 64 64) .empty .empty ()) = 8 := by
  decide +kernel

end Model

end TensorArena
