import TensorArena.Proofs.Model.Transcript

/-!
A run gives the arenas back.

However its steps behave, as long as they are honest, a run ends with both arenas at the
level and the top that it found, and with everything accepted that was accepted before. The
steps may fail, leak, unwind, or leave scratch that cannot be released: all they can present
is new, so the frame stays in a state after the start (`Frame.Since`), and from every such
state the start's marks can be restored. The unwinding at the end of a run never fails.
-/

namespace TensorArena

/-! ### Both arenas at once -/

namespace Workspace

variable {w v : Workspace}

theorem perform_unwindTo {p : Pool} {m : Mark} {c : Arena}
    (done : (v.arena p).unwindTo m = (.ok (), c)) :
    ∃ u, v.perform p (.unwindTo m) = (.ok (), u) ∧
      ∀ q, u.arena q = if q = p then c else v.arena q := by
  have answer : (v.perform p (.unwindTo m)).1 = .ok () := congrArg (fun x => x.1) done
  refine ⟨(v.perform p (.unwindTo m)).2, Prod.ext answer rfl, fun q => ?_⟩
  rw [arena_perform, Arena.perform, done]

/-- In every state after `w` the marks of `w` can be restored, in both arenas. -/
theorem Since.unwindTo_mark (sound : w.Sound) (since : w.Since v) :
    ∃ u, v.unwindTo w.mark = (.ok (), u) ∧ w.Since u ∧
      ∀ p, (u.arena p).highWater = (w.arena p).highWater ∧ (u.arena p).top = (w.arena p).top := by
  obtain ⟨c, metadata, sinceC, levelC⟩ := (since .metadata).unwindTo_mark (sound.arenas .metadata)
  obtain ⟨d, ram, sinceD, levelD⟩ := (since .ram).unwindTo_mark (sound.arenas .ram)
  obtain ⟨u, first, arenas⟩ := perform_unwindTo metadata
  have untouched : u.arena .ram = v.arena .ram := arenas .ram
  obtain ⟨t, second, last⟩ := perform_unwindTo (v := u) (untouched ▸ ram)
  have atMetadata : t.arena .metadata = c := (last .metadata).trans (arenas .metadata)
  have atRam : t.arena .ram = d := last .ram
  refine ⟨t, ?_, ?_, ?_⟩
  · -- Both marks are checked before either arena moves.
    have metadataFits := (Arena.unwindTo_ok_iff.mp metadata).1
    have ramFits := (Arena.unwindTo_ok_iff.mp ram).1
    simp only [Workspace.unwindTo, mark, PerPool.map]
    simp only [arena, PerPool.get] at metadataFits ramFits first second ⊢
    rw [metadataFits, ramFits, first]
    exact second
  · intro p
    cases p with
    | metadata => exact atMetadata ▸ sinceC
    | ram => exact atRam ▸ sinceD
  · intro p
    cases p with
    | metadata => exact atMetadata ▸ levelC
    | ram => exact atRam ▸ levelD

end Workspace

/-! ### Programs -/

theorem Token.Foreign.new {w : Workspace} {t : Token} (foreign : t.Foreign w) : t.New w :=
  fun p own => absurd own (foreign p)

section Programs

variable {α : Type} {w : Workspace}

/-- A program whose calls are honest leaves what the arenas had, and learns new tokens
only. -/
theorem Program.run_since (sound : w.Sound) (program : Program α) {f : Frame}
    {known : List Token} (since : f.Since w) (new : ∀ t ∈ known, t.New w)
    (honest : Honest w known (program.transcript f)) :
    (program.run f).2.Since w ∧ ∀ t ∈ learn known (program.transcript f), t.New w := by
  induction program generalizing f known with
  | done value => exact ⟨since, new⟩
  | call c next ih =>
    obtain ⟨kept, presents, rest⟩ := honest
    have presented : ∀ t ∈ c.presents, t.New w := by
      intro t mem
      rcases presents t mem with held | foreign
      · exact new t held
      · exact foreign.new
    refine ih (f.perform c).1 (since.perform sound c kept presented) ?_ rest
    intro t mem
    rcases List.mem_append.mp mem with learned | held
    · exact since.yields sound c presented t learned
    · exact new t held

end Programs

/-! ### Steps -/

namespace Model

variable {σ : Type} {w : Workspace}

theorem declareAll_since (sound : w.Sound) (steps : List (Step σ)) {f : Frame} {s : σ}
    {known : List Token} (since : f.Since w) (new : ∀ t ∈ known, t.New w)
    (honest : Honest w known (declareTranscript steps f s)) :
    (declareAll steps f s).frame.Since w ∧
      ∀ t ∈ learn known (declareTranscript steps f s), t.New w := by
  induction steps generalizing f s known with
  | nil => exact ⟨since, new⟩
  | cons step rest ih =>
    simp only [declareTranscript, honest_append, learn_append] at honest ⊢
    obtain ⟨first, later⟩ := honest
    obtain ⟨since, new⟩ := (step.body s).run_since sound since new first
    simp only [declareAll]
    rcases done : (step.body s).run f with ⟨⟨_ | _, s⟩, g⟩ <;> rw [done] at since later
    · exact ⟨since, new⟩
    · exact ih since.noteUsage new later

theorem evaluate_since (sound : w.Sound) (step : Step σ) {f : Frame} {s : σ}
    {known : List Token} (since : f.Since w) (new : ∀ t ∈ known, t.New w)
    (honest : Honest w known ((step.body s).transcript f)) :
    (evaluate step f s).frame.Since w ∧
      ∀ t ∈ learn known ((step.body s).transcript f), t.New w := by
  obtain ⟨since, new⟩ := (step.body s).run_since sound since new honest
  refine ⟨?_, new⟩
  have released := since.noteUsage.releaseScratch sound
  simp only [evaluate]
  split
  · exact released
  · exact released
  · split <;> exact released

theorem evaluateAll_since (sound : w.Sound) (steps : List (Step σ)) {f : Frame} {s : σ}
    {known : List Token} (since : f.Since w) (new : ∀ t ∈ known, t.New w)
    (honest : Honest w known (evaluateTranscript steps f s)) :
    (evaluateAll steps f s).frame.Since w := by
  induction steps generalizing f s known with
  | nil => exact since
  | cons step rest ih =>
    simp only [evaluateTranscript, honest_append] at honest
    obtain ⟨first, later⟩ := honest
    obtain ⟨since, new⟩ := evaluate_since sound step since new first
    simp only [evaluateAll]
    rcases done : evaluate step f s with ⟨_ | _, g, s⟩ <;> rw [done] at since later
    · exact since
    · exact ih since new later

theorem takeSteps_since (sound : w.Sound) (m : Model σ) {f : Frame} {s : σ}
    (since : f.Since w) (honest : Honest w [] (m.stepsTranscript f s)) :
    (m.takeSteps f s).frame.Since w := by
  simp only [stepsTranscript, honest_append] at honest
  obtain ⟨first, later⟩ := honest
  obtain ⟨since, new⟩ := declareAll_since sound m.blueprint.declarations since (by simp) first
  simp only [takeSteps]
  rcases done : declareAll m.blueprint.declarations f s with ⟨_ | _, g, s⟩ <;>
    rw [done] at since later
  · exact since
  · exact evaluateAll_since sound m.blueprint.evaluations since.beginEvaluation new later

/-! ### Faults by place -/

/-- The faults of the entry checks. -/
def Fault.isEntry : Fault → Bool
  | .noRoom _ _ _ => true
  | .missingInput _ => true
  | .missingOutput _ => true
  | _ => false

/-- The faults of steps. -/
def Fault.isStep : Fault → Bool
  | .stepFailed _ _ => true
  | .unbalanced _ _ _ _ => true
  | _ => false

theorem checkEntry_fault (m : Model σ) {inputs outputs : Table Bytes} {fault : Fault}
    (refused : m.checkEntry w inputs outputs = .error fault) : fault.isEntry = true := by
  unfold checkEntry at refused
  split at refused
  · cases refused
    rfl
  · split at refused
    · cases refused
      rfl
    · split at refused <;> cases refused
      rfl

theorem declareAll_fault (steps : List (Step σ)) {f : Frame} {s : σ} {fault : Fault}
    (failed : (declareAll steps f s).outcome = .error fault) : fault.isStep = true := by
  induction steps generalizing f s with
  | nil => cases failed
  | cons step rest ih =>
    simp only [declareAll] at failed
    split at failed
    · cases failed
      rfl
    · exact ih failed

theorem evaluate_fault (step : Step σ) {f : Frame} {s : σ} {fault : Fault}
    (failed : (evaluate step f s).outcome = .error fault) : fault.isStep = true := by
  simp only [evaluate] at failed
  split at failed
  · cases failed
    rfl
  · cases failed
    rfl
  · split at failed <;> cases failed
    rfl

theorem evaluateAll_fault (steps : List (Step σ)) {f : Frame} {s : σ} {fault : Fault}
    (failed : (evaluateAll steps f s).outcome = .error fault) : fault.isStep = true := by
  induction steps generalizing f s with
  | nil => cases failed
  | cons step rest ih =>
    simp only [evaluateAll] at failed
    split at failed <;> rename_i done
    · cases failed
      exact evaluate_fault step (congrArg Progress.outcome done)
    · exact ih failed

theorem takeSteps_fault (m : Model σ) {f : Frame} {s : σ} {fault : Fault}
    (failed : (m.takeSteps f s).outcome = .error fault) : fault.isStep = true := by
  simp only [takeSteps] at failed
  split at failed <;> rename_i done
  · cases failed
    exact declareAll_fault _ (congrArg Progress.outcome done)
  · exact evaluateAll_fault _ failed

/-! ### Runs -/

/-- The arenas `v` are at the level and the top of `w`; the handles issued before that were
accepted are accepted, for reading the same bytes and for release; and so are the marks. -/
structure Restored (w : Workspace) (issued : PerPool (List Token)) (v : Workspace) : Prop where
  highWater : ∀ p, (v.arena p).highWater = (w.arena p).highWater
  top : ∀ p, (v.arena p).top = (w.arena p).top
  handles : ∀ p h bytes, .handle h ∈ issued.get p → (w.arena p).bytes h = .ok bytes →
    (v.arena p).bytes h = .ok bytes
  releases : ∀ p h, .handle h ∈ issued.get p → ((w.arena p).release h).1 = .ok () →
    ((v.arena p).release h).1 = .ok ()
  marks : ∀ p m, .mark m ∈ issued.get p → (w.arena p).checkMark m = .ok () →
    (v.arena p).checkMark m = .ok ()

theorem Restored.refl (w : Workspace) (issued : PerPool (List Token)) : Restored w issued w :=
  ⟨fun _ => rfl, fun _ => rfl, fun _ _ _ _ read => read, fun _ _ _ done => done,
    fun _ _ _ fits => fits⟩

theorem restored_of_since {v : Workspace} {issued : PerPool (List Token)} (since : w.Since v)
    (past : ∀ p, ∀ t ∈ issued.get p, t.arena = (w.arena p).id → t.Past (w.arena p))
    (level : ∀ p, (v.arena p).highWater = (w.arena p).highWater ∧
      (v.arena p).top = (w.arena p).top) : Restored w issued v where
  highWater p := (level p).1
  top p := (level p).2
  handles p h bytes mem read := by
    have issued := (Arena.checkLive_ok_iff.mp (Arena.bytes_ok_iff.mp read).1).1
    have before := past p _ mem (Arena.checkIssued_ok_iff.mp issued).1
    exact (since p).bytes_ok before.1 read
  releases p h mem done := by
    obtain ⟨accepted, -, -⟩ := Arena.release_ok_iff.mp (Prod.ext done rfl)
    have before := past p _ mem (Arena.checkIssued_ok_iff.mp accepted).1
    exact (since p).release_ok (level p).2 before.1 done
  marks p m mem fits := by
    have before := past p _ mem (Arena.checkMark_ok_iff.mp fits).1
    exact (since p).checkMark_ok before.1 fits

/-- A run that starts and whose arenas can be unwound answers what its steps answer. -/
theorem run_of_entered (m : Model σ) {inputs outputs : Table Bytes} {s : σ} {u : Workspace}
    (entered : m.checkEntry w inputs outputs = .ok ())
    (unwound : (m.takeSteps (Frame.start w inputs outputs) s).frame.workspace.unwindTo w.mark =
      (.ok (), u)) :
    (m.run w inputs outputs s).workspace = u ∧ (m.run w inputs outputs s).outcome =
      (m.takeSteps (Frame.start w inputs outputs) s).outcome.map fun _ =>
        m.report (m.takeSteps (Frame.start w inputs outputs) s).frame := by
  simp only [run, entered]
  generalize m.takeSteps (Frame.start w inputs outputs) s = progress at unwound ⊢
  rcases progress with ⟨_ | _, f, s⟩ <;> simp only [unwound, true_and] <;> rfl

/-- **A run gives the arenas back.** Let the arenas be reached by any calls and have numbers
of their own, and let the steps be honest. Then a run, whatever it answers, never fails in its
final unwinding and leaves the arenas restored; and where it answers that it could not start,
it leaves them untouched. -/
theorem run_restores (m : Model σ) (w : Workspace) (inputs outputs : Table Bytes) (s : σ)
    {issued : PerPool (List Token)} (reached : ∀ p, (w.arena p).Reached (issued.get p))
    (distinct : (w.arena .metadata).id ≠ (w.arena .ram).id)
    (honest : Honest w [] (m.transcript w inputs outputs s)) :
    (∀ cause, (m.run w inputs outputs s).outcome ≠ .error (.unwind cause)) ∧
      Restored w issued (m.run w inputs outputs s).workspace ∧
      ∀ fault, (m.run w inputs outputs s).outcome = .error fault → fault.isEntry = true →
        (m.run w inputs outputs s).workspace = w := by
  have sound : w.Sound := by
    refine ⟨fun p => (reached p).sound.1, fun p q same => ?_⟩
    cases p <;> cases q
    · rfl
    · exact absurd same distinct
    · exact absurd same.symm distinct
    · rfl
  have past := fun p => (reached p).sound.2
  simp only [transcript] at honest
  cases entered : m.checkEntry w inputs outputs with
  | error fault =>
    have entry := m.checkEntry_fault entered
    simp only [run, entered]
    refine ⟨fun cause same => ?_, .refl w issued, fun _ _ _ => trivial⟩
    cases same
    cases entry
  | ok =>
    rw [entered] at honest
    have since := takeSteps_since sound m (.start sound inputs outputs) honest
    obtain ⟨u, unwound, after, level⟩ := since.workspace.unwindTo_mark sound
    obtain ⟨workspace, outcome⟩ := m.run_of_entered entered unwound
    -- What the run answers is an answer of its steps.
    have step : ∀ fault, (m.run w inputs outputs s).outcome = .error fault →
        fault.isStep = true := by
      intro fault failed
      refine m.takeSteps_fault (f := Frame.start w inputs outputs) (s := s) ?_
      rw [outcome] at failed
      cases taken : (m.takeSteps (Frame.start w inputs outputs) s).outcome with
      | error other =>
        rw [taken] at failed
        cases failed
        rfl
      | ok =>
        rw [taken] at failed
        cases failed
    refine ⟨fun cause failed => ?_, ?_, fun fault failed entry => ?_⟩
    · cases step _ failed
    · exact workspace ▸ restored_of_since after past level
    · have stepped := step fault failed
      cases fault <;> simp only [Fault.isStep, Fault.isEntry, reduceCtorEq] at stepped entry

/-! A run over a claim that stood before, with a step that keeps what it claims. -/

namespace Leaking

/-- The claim that stands in the ram arena before the run. -/
def held : Handle := ⟨⟨2⟩, .ram, 0, 8, ⟨0, 0⟩, .empty⟩

def emptyRam : Arena := ⟨⟨2⟩, .ram, Buffer.zeroed 32, 0, 0, 0, 0, .empty, .empty, 0⟩

/-- A fresh metadata arena, and a ram arena with one claim. -/
def arenas : Workspace where
  arenas := {
    metadata := ⟨⟨1⟩, .metadata, Buffer.zeroed 16, 0, 0, 0, 0, .empty, .empty, 0⟩
    ram := (emptyRam.allocate 8 1).2 }
  serves p := by cases p <;> rfl

def issued : PerPool (List Token) := ⟨[], [.handle held]⟩

/-- Claims twice, gives the second claim back and keeps the first. -/
def leak : Step Unit where
  name := "leak"
  demand := .zero
  body s :=
    .call (.onArena .ram (.allocate 8 1)) fun _ =>
      .call (.onArena .ram (.allocate 4 4)) fun
        | .error fault => .done (.error (.arena fault), s)
        | .ok h => .call (.onArena .ram (.release h)) fun _ => .done (.ok (), s)

def blueprint : Blueprint Unit := ⟨"leaking", ⟨16, 32⟩, [], [], [], [leak]⟩

def model : Model Unit := ⟨blueprint, blueprint.needs⟩

theorem reached (p : Pool) : (arenas.arena p).Reached (issued.get p) := by
  cases p with
  | metadata => exact .built (Arena.build_ok_iff.mpr ⟨by decide, by decide, rfl⟩)
  | ram =>
    have fresh : emptyRam.Reached [] :=
      .built (Arena.build_ok_iff.mpr ⟨by decide, by decide, rfl⟩)
    exact .called (.allocate 8 1) fresh (by decide)

end Leaking

open Leaking in
/-- The run answers that its step leaked, and yet the ram arena is back where it was. -/
theorem run_restores_leaking :
    (∀ p, (arenas.arena p).Reached (issued.get p)) ∧
      (arenas.arena .metadata).id ≠ (arenas.arena .ram).id ∧
      Honest arenas [] (model.transcript arenas .empty .empty ()) ∧
      (model.run arenas .empty .empty ()).outcome = .error (.unbalanced "leak" .ram 8 16) ∧
      ((model.run arenas .empty .empty ()).workspace.arena .ram).highWater = 8 ∧
      ((model.run arenas .empty .empty ()).workspace.arena .ram).bytes held =
        .ok (List.replicate 8 0) := by
  have distinct : (arenas.arena .metadata).id ≠ (arenas.arena .ram).id := by decide
  have honest : Honest arenas [] (model.transcript arenas .empty .empty ()) := by decide
  obtain ⟨-, restored, -⟩ :=
    run_restores model arenas .empty .empty () reached distinct honest
  exact ⟨reached, distinct, honest, rfl, restored.highWater .ram,
    restored.handles .ram held _ (List.mem_singleton_self _) rfl⟩

end Model

end TensorArena
