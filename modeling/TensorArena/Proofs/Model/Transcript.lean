import TensorArena.Model.Run
import TensorArena.Proofs.Frame.Since

/-!
What the steps of a run ask, in order.

A transcript lists every call that the steps of a run make on their frame, with the answer
that each got. It follows the run: it ends where the run ends, at the step that fails. A run
is honest when its steps, taken together, never reset an arena and present only tokens that
an earlier call of the same run answered, or tokens of other arenas, which are refused. What
a step hands on to a later one through the steps' state is covered: the transcript does not
say which step keeps a token.
-/

namespace TensorArena

/-- A call that was made, with its answer. -/
structure Event where
  call : Frame.Call
  answer : call.Answer

/-- The tokens that a caller learns from an event. -/
def Event.yields (e : Event) : List Token := e.call.yields e.answer

/-- The tokens known after events, to a caller who knew `known` before them. -/
def learn (known : List Token) : List Event → List Token
  | [] => known
  | e :: rest => learn (e.yields ++ known) rest

/-- No arena of the workspace issued the token. -/
def Token.Foreign (w : Workspace) (t : Token) : Prop := ∀ p, t.arena ≠ (w.arena p).id

instance (w : Workspace) (t : Token) : Decidable (t.Foreign w) :=
  decidable_of_iff (t.arena ≠ (w.arena .metadata).id ∧ t.arena ≠ (w.arena .ram).id)
    ⟨fun both p => match p with | .metadata => both.1 | .ram => both.2,
      fun foreign => ⟨foreign .metadata, foreign .ram⟩⟩

/-- Callers who know the tokens `known` make the calls without a reset, and present only what
they know by then or what is foreign. -/
def Honest (w : Workspace) (known : List Token) : List Event → Prop
  | [] => True
  | e :: rest => e.call.isReset = false ∧
      (∀ t ∈ e.call.presents, t ∈ known ∨ t.Foreign w) ∧ Honest w (e.yields ++ known) rest

instance Honest.decidable (w : Workspace) :
    ∀ known events, Decidable (Honest w known events)
  | _, [] => .isTrue trivial
  | known, e :: rest =>
    have := Honest.decidable w (e.yields ++ known) rest
    inferInstanceAs (Decidable (_ ∧ _ ∧ _))

theorem learn_append (known : List Token) (xs ys : List Event) :
    learn known (xs ++ ys) = learn (learn known xs) ys := by
  induction xs generalizing known with
  | nil => rfl
  | cons e rest ih => exact ih _

/-- Events are honest when each part is, given what the parts before taught. -/
theorem honest_append {w : Workspace} {known : List Token} {xs ys : List Event} :
    Honest w known (xs ++ ys) ↔ Honest w known xs ∧ Honest w (learn known xs) ys := by
  induction xs generalizing known with
  | nil => simp [Honest, learn]
  | cons e rest ih => simp only [List.cons_append, Honest, learn, ih, and_assoc]

/-- The call is no reset and presents no token. -/
def Frame.Call.Harmless (c : Frame.Call) : Prop := c.isReset = false ∧ c.presents = []

/-- Callers who present nothing are honest. -/
theorem honest_of_harmless {w : Workspace} {known : List Token} {events : List Event}
    (harmless : ∀ e ∈ events, e.call.Harmless) : Honest w known events := by
  induction events generalizing known with
  | nil => trivial
  | cons e rest ih =>
    obtain ⟨⟨kept, silent⟩, others⟩ := List.forall_mem_cons.mp harmless
    exact ⟨kept, by simp [silent], ih others⟩

/-! ### The transcript of a run -/

/-- The calls of a program. -/
def Program.transcript {α : Type} : Program α → Frame → List Event
  | .done _, _ => []
  | .call c next, f =>
    ⟨c, (f.perform c).1⟩ :: (next (f.perform c).1).transcript (f.perform c).2

/-- Whatever it is answered, the program makes allowed calls only. -/
def Program.Asks (allowed : Frame.Call → Prop) {α : Type} : Program α → Prop
  | .done _ => True
  | .call c next => allowed c ∧ ∀ answer, (next answer).Asks allowed

theorem Program.Asks.transcript {α : Type} {allowed : Frame.Call → Prop} {program : Program α}
    (asks : program.Asks allowed) (f : Frame) : ∀ e ∈ program.transcript f, allowed e.call := by
  induction program generalizing f with
  | done value => simp [Program.transcript]
  | call c next ih =>
    obtain ⟨first, later⟩ := asks
    exact List.forall_mem_cons.mpr ⟨first, ih _ (later _) _⟩

namespace Model

variable {σ : Type}

/-- The calls of declaring steps, up to the first that fails. -/
def declareTranscript : List (Step σ) → Frame → σ → List Event
  | [], _, _ => []
  | step :: rest, f, s =>
    (step.body s).transcript f ++
      match (step.body s).run f with
      | ((.error _, _), _) => []
      | ((.ok (), s), f) => declareTranscript rest f.noteUsage s

/-- The calls of evaluating steps, up to the first that fails. -/
def evaluateTranscript : List (Step σ) → Frame → σ → List Event
  | [], _, _ => []
  | step :: rest, f, s =>
    (step.body s).transcript f ++
      match evaluate step f s with
      | ⟨.error _, _, _⟩ => []
      | ⟨.ok (), f, s⟩ => evaluateTranscript rest f s

variable (m : Model σ)

/-- The calls of all steps. -/
def stepsTranscript (f : Frame) (s : σ) : List Event :=
  declareTranscript m.blueprint.declarations f s ++
    match declareAll m.blueprint.declarations f s with
    | ⟨.error _, _, _⟩ => []
    | ⟨.ok (), f, s⟩ => evaluateTranscript m.blueprint.evaluations f.beginEvaluation s

/-- The calls of a run. A run that cannot start makes none. -/
def transcript (w : Workspace) (inputs outputs : Table Bytes) (s : σ) : List Event :=
  match m.checkEntry w inputs outputs with
  | .error _ => []
  | .ok () => m.stepsTranscript (Frame.start w inputs outputs) s

variable {m} {allowed : Frame.Call → Prop}

theorem declareTranscript_asks {steps : List (Step σ)}
    (asks : ∀ step ∈ steps, ∀ s, (step.body s).Asks allowed) (f : Frame) (s : σ) :
    ∀ e ∈ declareTranscript steps f s, allowed e.call := by
  induction steps generalizing f s with
  | nil => simp [declareTranscript]
  | cons step rest ih =>
    obtain ⟨first, later⟩ := List.forall_mem_cons.mp asks
    intro e mem
    rcases List.mem_append.mp mem with now | after
    · exact (first s).transcript f e now
    · split at after
      · cases after
      · exact ih later _ _ e after

theorem evaluateTranscript_asks {steps : List (Step σ)}
    (asks : ∀ step ∈ steps, ∀ s, (step.body s).Asks allowed) (f : Frame) (s : σ) :
    ∀ e ∈ evaluateTranscript steps f s, allowed e.call := by
  induction steps generalizing f s with
  | nil => simp [evaluateTranscript]
  | cons step rest ih =>
    obtain ⟨first, later⟩ := List.forall_mem_cons.mp asks
    intro e mem
    rcases List.mem_append.mp mem with now | after
    · exact (first s).transcript f e now
    · split at after
      · cases after
      · exact ih later _ _ e after

/-- A model all of whose steps make allowed calls only makes no others. -/
theorem stepsTranscript_asks (asks : ∀ step ∈ m.blueprint.steps, ∀ s, (step.body s).Asks allowed)
    (f : Frame) (s : σ) : ∀ e ∈ m.stepsTranscript f s, allowed e.call := by
  obtain ⟨declarations, evaluations⟩ := List.forall_mem_append.mp asks
  intro e mem
  rcases List.mem_append.mp mem with declared | evaluated
  · exact declareTranscript_asks declarations f s e declared
  · split at evaluated
    · cases evaluated
    · exact evaluateTranscript_asks evaluations _ _ e evaluated

end Model

end TensorArena
