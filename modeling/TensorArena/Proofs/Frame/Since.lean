import TensorArena.Frame.Program
import TensorArena.Proofs.Arena.Since

/-!
What a frame cannot touch below the state of its arenas at the start.

Fix a pair of arenas `w`. A frame that started on it, and whose calls present only tokens
issued since, leaves what both arenas had at `w` where it is (`Frame.Since`). The frame
itself presents tokens too: those of its bindings and of its scratch. They were issued on the
frame, so they are new as well, and this is kept along with the arenas.
-/

namespace TensorArena

/-! ### The tokens of a call -/

/-- The tokens that a call presents. Names and scratch positions are no tokens. -/
def Frame.Call.presents : Frame.Call → List Token
  | .onArena _ c => c.presents
  | _ => []

/-- The tokens in the answer to a call. -/
def Frame.Call.yields : (c : Frame.Call) → c.Answer → List Token
  | .onArena _ c, answer => c.yields answer
  | _, _ => []

/-- The call gives everything back in one of the pools. -/
def Frame.Call.isReset : Frame.Call → Bool
  | .onArena _ c => c.isReset
  | _ => false

/-! ### A pair of arenas -/

/-- The arenas of a pair are sound, and no two share a number. -/
structure Workspace.Sound (w : Workspace) : Prop where
  arenas : ∀ p, (w.arena p).Sound
  distinct : ∀ p q, (w.arena p).id = (w.arena q).id → p = q

theorem Workspace.sound_of_distinct {w : Workspace} (sound : ∀ p, (w.arena p).Sound)
    (distinct : (w.arena .metadata).id ≠ (w.arena .ram).id) : w.Sound := by
  refine ⟨sound, fun p q same => ?_⟩
  cases p <;> cases q
  · rfl
  · exact absurd same distinct
  · exact absurd same.symm distinct
  · rfl

/-- Whichever arena of `w` issued the token did so at its state in `w` or later. -/
def Token.New (w : Workspace) (t : Token) : Prop :=
  ∀ p, t.arena = (w.arena p).id → t.After (w.arena p)

namespace Workspace

/-- The pair is in the state `v` after `w`, and what either arena had is still there. -/
def Since (w v : Workspace) : Prop := ∀ p, (w.arena p).Since (v.arena p)

variable {w v : Workspace}

theorem Since.refl (sound : w.Sound) : w.Since w := fun p => .refl (sound.arenas p)

theorem Since.perform (sound : w.Sound) (since : w.Since v) (p : Pool) (c : Arena.Call)
    (kept : c.isReset = false) (new : ∀ t ∈ c.presents, t.New w) :
    w.Since (v.perform p c).2 := by
  intro q
  rw [arena_perform]
  split
  · rename_i same
    subst same
    exact (since q).perform (sound.arenas q) c kept fun t mem => new t mem q
  · exact since q

/-- What a call answers is new. -/
theorem Since.yields (sound : w.Sound) (since : w.Since v) (p : Pool) (c : Arena.Call)
    (new : ∀ t ∈ c.presents, t.New w) : ∀ t ∈ c.yields (v.perform p c).1, t.New w := by
  intro t yielded q own
  by_cases same : q = p
  · subst same
    exact (since q).yields (sound.arenas q) c (fun t mem => new t mem q) t yielded own
  · -- A token that the call issued is of the arena of `p`.
    rcases Arena.yields_cases (v.arena p) c yielded with presented | rfl | ⟨_, _, h, done, rfl⟩
    · exact new t presented q own
    · exact absurd (sound.distinct q p (own.symm.trans (since p).id)) same
    · obtain ⟨-, -, rfl, -⟩ := Arena.allocate_ok done
      exact absurd (sound.distinct q p (own.symm.trans (since p).id)) same

/-! ### The operations that frames use -/

theorem Since.allocate (sound : w.Sound) (since : w.Since v) (p : Pool) (size align : Nat) :
    w.Since (v.allocate p size align).2 ∧
      ∀ h, (v.allocate p size align).1 = .ok h → (Token.handle h).New w := by
  have new : ∀ t ∈ (Arena.Call.allocate size align).presents, t.New w := by
    simp [Arena.Call.presents]
  refine ⟨since.perform sound p _ rfl new, fun h done => ?_⟩
  refine since.yields sound p (.allocate size align) new (.handle h) ?_
  show _ ∈ Arena.Call.yields (.allocate size align) (v.allocate p size align).1
  rw [done]
  exact List.mem_singleton_self _

theorem Since.release (sound : w.Sound) (since : w.Since v) {h : Handle}
    (new : (Token.handle h).New w) : w.Since (v.release h).2 :=
  since.perform sound h.pool (.release h) rfl fun _ mem => List.mem_singleton.mp mem ▸ new

theorem Since.unwind (sound : w.Sound) (since : w.Since v) (p : Pool) {m : Mark}
    (new : (Token.mark m).New w) : w.Since (v.perform p (.unwindTo m)).2 :=
  since.perform sound p (.unwindTo m) rfl fun _ mem => List.mem_singleton.mp mem ▸ new

theorem Since.modify (sound : w.Sound) (since : w.Since v) {h : Handle}
    (change : Bytes → Bytes) (new : (Token.handle h).New w) : w.Since (v.modify h change).2 :=
  since.perform sound h.pool (.modify h change) rfl fun _ mem => List.mem_singleton.mp mem ▸ new

theorem Since.modifyPair (sound : w.Sound) (since : w.Since v) {h k : Handle}
    (change : Bytes → Bytes → Bytes × Bytes) (first : (Token.handle h).New w)
    (second : (Token.handle k).New w) : w.Since (v.modifyPair h k change).2 := by
  unfold Workspace.modifyPair
  split
  · refine since.perform sound h.pool _ rfl fun t mem => ?_
    rcases List.mem_cons.mp mem with rfl | mem
    · exact first
    · exact List.mem_singleton.mp mem ▸ second
  · split
    · exact since
    · split
      · exact since
      · exact (since.modify sound _ first).modify sound _ second

/-- The present mark of an arena is new. -/
theorem Since.mark_new (sound : w.Sound) (since : w.Since v) (p : Pool) :
    (Token.mark (v.arena p).mark).New w :=
  since.yields sound p .mark (by simp [Arena.Call.presents]) _ (List.mem_singleton_self _)

/-- Releasing scratch whose claims and marks are new, whatever is refused on the way. -/
theorem Since.releaseScratch (sound : w.Sound) {entries : List ScratchEntry}
    (new : ∀ e ∈ entries, (Token.mark e.mark).New w ∧ (Token.handle e.handle).New w)
    (since : w.Since v) : w.Since (v.releaseScratch entries).2 := by
  induction entries generalizing v with
  | nil => exact since
  | cons entry older ih =>
    obtain ⟨mark, handle⟩ := new entry List.mem_cons_self
    have later := ih (fun e mem => new e (List.mem_cons_of_mem _ mem))
      ((since.release sound handle).unwind sound entry.handle.pool mark)
    simp only [Workspace.releaseScratch]
    split <;> exact later

end Workspace

/-! ### A frame -/

/-- The frame is in a state after `w`: what the arenas had is still there, and the frame's
own tokens are new. -/
structure Frame.Since (w : Workspace) (f : Frame) : Prop where
  workspace : w.Since f.workspace
  bindings : ∀ name b, f.bindings.get? name = some b →
    (Token.handle b.payload).New w ∧ ∀ h, b.record = some h → (Token.handle h).New w
  scratch : ∀ e ∈ f.scratch, (Token.mark e.mark).New w ∧ (Token.handle e.handle).New w

namespace Frame

variable {w : Workspace} {f : Frame}

theorem Since.start (sound : w.Sound) (inputs outputs : Table Bytes) :
    (Frame.start w inputs outputs).Since w where
  workspace := .refl sound
  bindings name b found := by simp [Frame.start, Table.empty, Table.get?, Table.lookup] at found
  scratch := by simp [Frame.start]

/-- Only the arenas change. -/
theorem Since.withWorkspace {v : Workspace} (since : f.Since w) (arenas : w.Since v) :
    Frame.Since w { f with workspace := v } :=
  ⟨arenas, since.bindings, since.scratch⟩

theorem Since.noteUsage (since : f.Since w) : f.noteUsage.Since w :=
  ⟨since.workspace, since.bindings, since.scratch⟩

theorem Since.beginEvaluation (since : f.Since w) : f.beginEvaluation.Since w :=
  ⟨since.workspace, since.bindings, since.scratch⟩

/-- One more binding, of new claims. -/
theorem Since.insert (since : f.Since w) (name : String) {b : Binding}
    (payload : (Token.handle b.payload).New w)
    (record : ∀ h, b.record = some h → (Token.handle h).New w) :
    Frame.Since w { f with bindings := f.bindings.insert name b } where
  workspace := since.workspace
  bindings other c found := by
    simp only [Table.get?_insert] at found
    split at found
    · cases found
      exact ⟨payload, record⟩
    · exact since.bindings other c found
  scratch := since.scratch

/-! ### Handles behind names -/

theorem Since.lookup_new {name : String} {b : Binding} (since : f.Since w)
    (found : f.lookup name = .ok b) :
    (Token.handle b.payload).New w ∧ ∀ h, b.record = some h → (Token.handle h).New w := by
  unfold Frame.lookup at found
  split at found
  · cases found
  · rename_i bound
    cases found
    exact since.bindings name _ bound

theorem Since.lookupScratch_new {id : ScratchId} {h : Handle} (since : f.Since w)
    (found : f.lookupScratch id = .ok h) : (Token.handle h).New w := by
  unfold Frame.lookupScratch at found
  split at found
  · cases found
  · rename_i entry at?
    cases found
    exact (since.scratch _ (List.mem_reverse.mp (List.mem_of_getElem? at?))).2

theorem Since.resolve_new {r : Region} {h : Handle} (since : f.Since w)
    (found : f.resolve r = .ok h) : (Token.handle h).New w := by
  cases r with
  | binding name =>
    simp only [Frame.resolve] at found
    split at found
    · cases found
    · rename_i b bound
      cases found
      exact (since.lookup_new bound).1
  | scratch id => exact since.lookupScratch_new found

/-! ### The operations of a frame -/

section Operations

variable (sound : w.Sound) (since : f.Since w)

include sound since

theorem Since.bind (name : String) (pool : Pool) (size align : Nat) :
    (f.bind name pool size align).2.Since w := by
  have allocated := since.workspace.allocate sound pool size align
  unfold Frame.bind
  split
  · exact since
  · cases done : f.workspace.allocate pool size align with
    | mk answer v =>
      rw [done] at allocated
      obtain ⟨arenas, new⟩ := allocated
      cases answer with
      | error fault => exact since.withWorkspace arenas
      | ok payload =>
        exact ((since.withWorkspace arenas).insert name (new payload rfl) (by simp)).noteUsage

theorem Since.writeRecord (d : Tensor.Descriptor) {record : Handle}
    (new : (Token.handle record).New w) : (f.writeRecord d record).2.Since w := by
  unfold Frame.writeRecord
  split
  · exact since
  · split
    · exact since
    · exact since.withWorkspace (since.workspace.modify sound _ new)

theorem Since.bindTensor (name : String) (d : Tensor.Descriptor) :
    (f.bindTensor name d).2.Since w := by
  unfold Frame.bindTensor
  split
  · exact since
  · split
    · exact since
    · rename_i length _
      have claimed := since.workspace.allocate sound .ram length d.dtype.align
      cases done : f.workspace.allocate .ram length d.dtype.align with
      | mk answer v =>
        rw [done] at claimed
        obtain ⟨arenas, new⟩ := claimed
        cases answer with
        | error fault => exact since.withWorkspace arenas
        | ok payload =>
          have payloadNew := new payload rfl
          have recorded := arenas.allocate sound .metadata Tensor.Record.size Tensor.Record.align
          dsimp only
          cases placed : v.allocate .metadata Tensor.Record.size Tensor.Record.align with
          | mk answer u =>
            rw [placed] at recorded
            obtain ⟨arenas, new⟩ := recorded
            cases answer with
            | error fault =>
              -- The record finds no space, and the payload is given back.
              have noted := (since.withWorkspace arenas).noteUsage
              have released := noted.workspace.release sound payloadNew
              dsimp only
              split <;> rename_i given <;> rw [given] at released <;>
                exact noted.withWorkspace released
            | ok record =>
              have recordNew := new record rfl
              have written := (since.withWorkspace arenas).writeRecord sound
                { d with offset := payload.offset } recordNew
              dsimp only
              split <;> rename_i done <;> rw [done] at written
              · exact written
              · refine (written.insert name payloadNew fun h same => ?_).noteUsage
                cases same
                exact recordNew

theorem Since.modifyHandle {h : Handle} (change : Bytes → Bytes)
    (new : (Token.handle h).New w) : (f.modifyHandle h change).2.Since w :=
  since.withWorkspace (since.workspace.modify sound change new)

theorem Since.modifyBinding (name : String) (change : Bytes → Bytes) :
    (f.modifyBinding name change).2.Since w := by
  unfold Frame.modifyBinding
  split
  · exact since
  · rename_i b bound
    exact since.modifyHandle sound change (since.lookup_new bound).1

theorem Since.claimScratch (pool : Pool) (size align : Nat) :
    (f.claimScratch pool size align).2.Since w := by
  have marked := since.workspace.mark_new sound pool
  have allocated := since.workspace.allocate sound pool size align
  unfold Frame.claimScratch
  cases done : f.workspace.allocate pool size align with
  | mk answer v =>
    rw [done] at allocated
    obtain ⟨arenas, new⟩ := allocated
    cases answer with
    | error fault => exact since.withWorkspace arenas
    | ok handle =>
      refine Since.noteUsage ⟨arenas, since.bindings, ?_⟩
      intro e mem
      rcases List.mem_cons.mp mem with rfl | older
      · exact ⟨marked, new handle rfl⟩
      · exact since.scratch e older

theorem Since.modifyScratch (id : ScratchId) (change : Bytes → Bytes) :
    (f.modifyScratch id change).2.Since w := by
  unfold Frame.modifyScratch
  split
  · exact since
  · rename_i h found
    exact since.modifyHandle sound change (since.lookupScratch_new found)

theorem Since.releaseScratch : f.releaseScratch.2.Since w := by
  have released := since.workspace.releaseScratch sound since.scratch
  have emptied : Frame.Since w { f with
      workspace := (f.workspace.releaseScratch f.scratch).2, scratch := [] } :=
    ⟨released, since.bindings, by simp⟩
  simp only [Frame.releaseScratch]
  split <;> exact emptied

theorem Since.modifyPair (r q : Region) (change : Bytes → Bytes → Bytes × Bytes) :
    (f.modifyPair r q change).2.Since w := by
  unfold Frame.modifyPair
  split
  · exact since
  · rename_i h first
    split
    · exact since
    · rename_i k second
      exact since.withWorkspace (since.workspace.modifyPair sound change
        (since.resolve_new first) (since.resolve_new second))

omit sound in
theorem Since.modifyOutput (name : String) (change : Bytes → Bytes) :
    (f.modifyOutput name change).2.Since w := by
  unfold Frame.modifyOutput
  split
  · exact since
  · exact ⟨since.workspace, since.bindings, since.scratch⟩

theorem Since.load (input binding : String) : (f.load input binding).2.Since w := by
  unfold Frame.load
  split
  · exact since
  · split
    · exact since
    · split
      · exact since
      · exact since.modifyBinding sound binding _

omit sound in
theorem Since.store (binding output : String) : (f.store binding output).2.Since w := by
  unfold Frame.store
  split
  · exact since
  · split
    · exact since
    · split
      · exact since
      · exact since.modifyOutput output _

theorem Since.onArena (pool : Pool) (c : Arena.Call) (kept : c.isReset = false)
    (new : ∀ t ∈ c.presents, t.New w) : (f.onArena pool c).2.Since w :=
  since.withWorkspace (since.workspace.perform sound pool c kept new)

/-- **One call of a frame.** Without a reset and with new tokens, whatever it does leaves what
the arenas had. -/
theorem Since.perform (c : Frame.Call) (kept : c.isReset = false)
    (new : ∀ t ∈ c.presents, t.New w) : (f.perform c).2.Since w := by
  cases c with
  | bind name pool size align => exact since.bind sound name pool size align
  | bindTensor name d => exact since.bindTensor sound name d
  | modifyBinding name change => exact since.modifyBinding sound name change
  | claimScratch pool size align => exact since.claimScratch sound pool size align
  | modifyScratch id change => exact since.modifyScratch sound id change
  | releaseScratch => exact since.releaseScratch sound
  | modifyPair r q change => exact since.modifyPair sound r q change
  | modifyOutput name change => exact since.modifyOutput name change
  | load input binding => exact since.load sound input binding
  | store binding output => exact since.store binding output
  | onArena pool c => exact since.onArena sound pool c kept new
  | noteUsage => exact since.noteUsage
  | beginEvaluation => exact since.beginEvaluation
  | hasBinding name => exact since
  | bindingCount => exact since
  | binding name => exact since
  | descriptor name => exact since
  | scratchBytes id => exact since
  | scratchCount => exact since
  | input name => exact since
  | usage => exact since
  | peak => exact since
  | isEvaluating => exact since

/-- What a call of a frame answers is new. -/
theorem Since.yields (c : Frame.Call) (new : ∀ t ∈ c.presents, t.New w) :
    ∀ t ∈ c.yields (f.perform c).1, t.New w := by
  cases c with
  | onArena pool c => exact since.workspace.yields sound pool c new
  | _ => exact fun _ mem => by cases mem

end Operations

end Frame

end TensorArena
