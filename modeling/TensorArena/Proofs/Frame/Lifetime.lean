import TensorArena.Proofs.Arena.Spares
import TensorArena.Proofs.Frame.Bindings

/-!
How long bindings live.

Callers of a frame who leave its arenas alone may claim scratch at any time, also between bindings.
Every call but the release of scratch spares what was claimed before it. Releasing scratch brings
each arena back to the mark below its oldest scratch claim, and with the scratch everything goes
that was bound above that mark. So a binding lives until the scratch is released that its pool
held when it was bound, and then for as long as the run lasts if there was none
(`binding_lives_iff`).
-/

namespace TensorArena

variable {w v : Workspace} {p q : Pool}

/-! ### Scratch in any order -/

namespace Workspace

/-- Both arenas are spared, and sound. -/
structure Spares (w v : Workspace) : Prop where
  arena : ∀ p, (w.arena p).Spares (v.arena p)
  sound : ∀ p, (v.arena p).Sound

theorem Spares.refl (sound : ∀ p, (w.arena p).Sound) : w.Spares w := ⟨fun _ => .refl _, sound⟩

theorem Spares.trans {u : Workspace} (first : w.Spares v) (second : v.Spares u) : w.Spares u :=
  ⟨fun p => (first.arena p).trans (second.arena p), second.sound⟩

theorem Rewrites.spares (rewrites : w.Rewrites v) (sound : ∀ p, (w.arena p).Sound) :
    w.Spares v := by
  refine ⟨fun p => ?_, fun p => (rewrites.stacksOn (stacksOn_of_sound sound) p).sound⟩
  obtain ⟨same, size⟩ := rewrites p
  constructor
  · exact (congrArg Arena.id same).trans rfl
  · exact size
  · exact (congrArg Arena.epoch same).trans rfl
  · exact Nat.le_of_eq (congrArg Arena.clock same).symm
  · exact Nat.le_of_eq (congrArg Arena.highWater same).symm
  · intro reading _ kept
    rw [same]
    exact kept

theorem allocate_spares {size align : Nat} {h : Handle} (sound : ∀ p, (w.arena p).Sound)
    (done : w.allocate p size align = (.ok h, v)) : w.Spares v := by
  obtain ⟨claimed, -, same⟩ := allocate_ok done
  constructor
  · intro q
    by_cases here : q = p
    · subst here
      exact (Arena.Spares.refl _).allocate (sound q) claimed
    · rw [same q here]
      exact .refl _
  · intro q
    by_cases here : q = p
    · subst here
      exact (sound q).allocate claimed
    · rw [same q here]
      exact sound q

/-- A claim that is given back at once takes nothing with it. -/
theorem release_spares {size align : Nat} {h : Handle} (sound : ∀ p, (w.arena p).Sound)
    (claimed : w.allocate p size align = (.ok h, v)) : w.Spares (v.release h).2 := by
  have spares := allocate_spares sound claimed
  obtain ⟨done, rfl, -⟩ := allocate_ok claimed
  obtain ⟨-, -, -, above, within⟩ := Arena.allocate_range (sound h.pool).words done
  have issued : h.stamp.seq = (w.arena h.pool).clock := by
    obtain ⟨-, -, new, -⟩ := Arena.allocate_ok done
    exact congrArg (fun h => h.stamp.seq) new
  constructor
  · intro q
    by_cases here : q = h.pool
    · subst here
      rw [release, arena_perform_self]
      exact (spares.arena _).release (Nat.le_of_eq issued.symm) above
    · rw [release, arena_perform_of_ne _ _ here]
      exact spares.arena q
  · intro q
    by_cases here : q = h.pool
    · subst here
      have past : (Token.handle h).Past (v.arena h.pool) :=
        ⟨((sound h.pool).checkLive_allocate done).2, (spares.arena _).capacity ▸ within⟩
      rw [release, arena_perform_self]
      exact Arena.perform_sound (spares.sound _) (.release h)
        (by simpa [Arena.Call.presents] using fun _ => past)
    · rw [release, arena_perform_of_ne _ _ here]
      exact spares.sound q

/-- Give one scratch claim back: release it, and bring its arena back to the mark below it. -/
def giveBack (w : Workspace) (e : ScratchEntry) : Workspace :=
  ((w.release e.handle).2.perform e.handle.pool (.unwindTo e.mark)).2

theorem releaseScratch_cons (w : Workspace) (e : ScratchEntry) (older : List ScratchEntry) :
    (w.releaseScratch (e :: older)).2 = ((w.giveBack e).releaseScratch older).2 := by
  simp only [releaseScratch, giveBack]
  split <;> rfl

/-- The fault that is kept of giving back one claim and then the older ones. -/
def keptFault (released unwound : Except Arena.Fault Unit) (later : Option Arena.Fault) :
    Option Arena.Fault :=
  match released, unwound with
  | .error fault, _ => some fault
  | .ok (), .error fault => some fault
  | .ok (), .ok () => later

theorem releaseScratch_fst (w : Workspace) (e : ScratchEntry) (older : List ScratchEntry) :
    (w.releaseScratch (e :: older)).1 = keptFault (w.release e.handle).1
      ((w.release e.handle).2.perform e.handle.pool (.unwindTo e.mark)).1
      ((w.giveBack e).releaseScratch older).1 := by
  simp only [releaseScratch, giveBack, keptFault]
  split <;> simp only [*]

theorem arena_giveBack_self (w : Workspace) (e : ScratchEntry) :
    (w.giveBack e).arena e.handle.pool =
      (((w.arena e.handle.pool).release e.handle).2.unwindTo e.mark).2 := by
  rw [giveBack, arena_perform_self, release, arena_perform_self]
  rfl

theorem arena_giveBack_of_ne (w : Workspace) {e : ScratchEntry} (other : p ≠ e.handle.pool) :
    (w.giveBack e).arena p = w.arena p := by
  rw [giveBack, arena_perform_of_ne _ _ other, release, arena_perform_of_ne _ _ other]

end Workspace

/-- Scratch claims, newest first, whose marks are recalled: each mark was taken before its claim,
and no older mark of the pool lies above it. -/
structure Anchored (w : Workspace) (entries : List ScratchEntry) : Prop where
  recalled : ∀ e ∈ entries, (w.arena e.handle.pool).RecallsOn e.mark.top e.mark []
  above : ∀ e ∈ entries, e.mark.clock ≤ e.handle.stamp.seq ∧ e.mark.height ≤ e.handle.start
  past : ∀ e ∈ entries, (Token.handle e.handle).Past (w.arena e.handle.pool)
  order : entries.Pairwise fun newer older => older.handle.pool = newer.handle.pool →
    older.mark.clock ≤ newer.mark.clock ∧ older.mark.height ≤ newer.mark.height

section Scratch

variable {e : ScratchEntry} {entries older : List ScratchEntry}

theorem Anchored.nil (w : Workspace) : Anchored w [] := ⟨by simp, by simp, by simp, .nil⟩

theorem Anchored.of_spares (anchored : Anchored w entries)
    (spares : w.Spares v) : Anchored v entries where
  recalled e mem := (spares.arena _).recallsOn (anchored.recalled e mem)
  above := anchored.above
  past e mem := (anchored.past e mem).later (spares.arena _).clock (spares.arena _).capacity
  order := anchored.order

/-- A claim goes on top, with the mark of the state before it. -/
theorem Anchored.claim {size align : Nat} {h : Handle} (anchored : Anchored w entries)
    (sound : ∀ p, (w.arena p).Sound) (claimed : w.allocate p size align = (.ok h, v)) :
    Anchored v (⟨(w.arena p).mark, h⟩ :: entries) := by
  have kept := anchored.of_spares (Workspace.allocate_spares sound claimed)
  have spares := (Workspace.allocate_spares sound claimed).arena p
  obtain ⟨done, rfl, -⟩ := Workspace.allocate_ok claimed
  obtain ⟨-, -, height, above, within⟩ := Arena.allocate_range (sound h.pool).words done
  have level : (w.arena h.pool).mark.height = (w.arena h.pool).highWater :=
    (sound h.pool).height_mark
  have issued : h.stamp.seq = (w.arena h.pool).clock := by
    obtain ⟨-, -, new, -⟩ := Arena.allocate_ok done
    exact congrArg (fun h => h.stamp.seq) new
  constructor
  · intro e mem
    rcases List.mem_cons.mp mem with rfl | old
    · exact spares.recallsOn (sound h.pool).stacksOn.recalls_mark
    · exact kept.recalled e old
  · intro e mem
    rcases List.mem_cons.mp mem with rfl | old
    · exact ⟨Nat.le_of_eq issued.symm, level ▸ above⟩
    · exact kept.above e old
  · intro e mem
    rcases List.mem_cons.mp mem with rfl | old
    · exact ⟨((sound h.pool).checkLive_allocate done).2, spares.capacity ▸ within⟩
    · exact kept.past e old
  · refine List.pairwise_cons.mpr ⟨fun o mem here => ?_, anchored.order⟩
    have recalled := anchored.recalled o mem
    rw [here] at recalled
    exact ⟨recalled.clock, level ▸ recalled.height⟩

/-- The newest claim is given back: its arena unwinds to its mark, whether the claim could be
released before or not. -/
theorem Anchored.arena_giveBack (anchored : Anchored w (e :: older))
    (sound : ∀ p, (w.arena p).Sound) : ∃ a : Arena,
      a = ((w.arena e.handle.pool).release e.handle).2 ∧ a.Sound ∧
      (w.arena e.handle.pool).clock ≤ a.clock ∧ a.capacity = (w.arena e.handle.pool).capacity ∧
      a.RecallsOn e.mark.top e.mark [] ∧
      a.unwindTo e.mark = (.ok (), (w.giveBack e).arena e.handle.pool) ∧
      Arena.Continues a [⟨e.mark.clock, a.clock⟩] ((w.giveBack e).arena e.handle.pool) ∧
      ((w.giveBack e).arena e.handle.pool).highWater = e.mark.height := by
  obtain ⟨clock, height⟩ := anchored.above e List.mem_cons_self
  have recalled := (anchored.recalled e List.mem_cons_self).release clock height
  have released : ((w.arena e.handle.pool).release e.handle).2.Sound :=
    Arena.perform_sound (sound _) (.release e.handle)
      (by simpa [Arena.Call.presents] using fun _ => anchored.past e List.mem_cons_self)
  obtain ⟨-, capacity, ticked⟩ := Arena.perform_keeps (w.arena e.handle.pool) (.release e.handle)
  obtain ⟨b, done, continues, level⟩ := recalled.unwindTo
  have after : (w.giveBack e).arena e.handle.pool = b := by
    rw [Workspace.arena_giveBack_self, done]
  rw [after]
  exact ⟨_, rfl, released, ticked, capacity, recalled, done, continues, level⟩

theorem Anchored.clock_giveBack (anchored : Anchored w (e :: older))
    (sound : ∀ p, (w.arena p).Sound) (p : Pool) :
    (w.arena p).clock ≤ ((w.giveBack e).arena p).clock := by
  by_cases here : p = e.handle.pool
  · subst here
    obtain ⟨a, -, -, ticked, -, -, -, continues, -⟩ := anchored.arena_giveBack sound
    exact Nat.le_trans ticked continues.clock
  · exact Nat.le_of_eq (congrArg Arena.clock (Workspace.arena_giveBack_of_ne w here)).symm

/-- Giving the newest claim back leaves the arenas sound and the older claims anchored. -/
theorem Anchored.giveBack (anchored : Anchored w (e :: older)) (sound : ∀ p, (w.arena p).Sound) :
    Anchored (w.giveBack e) older ∧ ∀ p, ((w.giveBack e).arena p).Sound := by
  obtain ⟨clock, height⟩ := anchored.above e List.mem_cons_self
  obtain ⟨a, rfl, released, ticked, capacity, recalled, done, continues, level⟩ :=
    anchored.arena_giveBack sound
  obtain ⟨older_below, order⟩ := List.pairwise_cons.mp anchored.order
  refine ⟨⟨fun o mem => ?_, fun o mem => ?_, fun o mem => ?_, order⟩, fun p => ?_⟩
  · have kept := anchored.recalled o (List.mem_cons_of_mem _ mem)
    by_cases here : o.handle.pool = e.handle.pool
    · obtain ⟨before, below⟩ := older_below o mem here
      rw [here] at kept ⊢
      have still := kept.release (Nat.le_trans before clock) (Nat.le_trans below height)
      exact still.of_continues continues (by simpa using before) (level ▸ below)
    · rw [Workspace.arena_giveBack_of_ne w here]
      exact kept
  · exact anchored.above o (List.mem_cons_of_mem _ mem)
  · have past := anchored.past o (List.mem_cons_of_mem _ mem)
    refine past.later (anchored.clock_giveBack sound _) ?_
    by_cases here : o.handle.pool = e.handle.pool
    · rw [here]
      exact continues.capacity.trans capacity
    · rw [Workspace.arena_giveBack_of_ne w here]
  · by_cases here : p = e.handle.pool
    · subst here
      exact released.unwindTo done (Nat.le_trans recalled.height released.highWater)
    · rw [Workspace.arena_giveBack_of_ne w here]
      exact sound p

theorem Anchored.sound_releaseScratch (anchored : Anchored w entries)
    (sound : ∀ p, (w.arena p).Sound) (p : Pool) :
    ((w.releaseScratch entries).2.arena p).Sound := by
  induction entries generalizing w with
  | nil => exact sound p
  | cons e older ih =>
    rw [Workspace.releaseScratch_cons]
    obtain ⟨rest, stays⟩ := anchored.giveBack sound
    exact ih rest stays

/-- Releasing scratch of other pools does not touch an arena. -/
theorem arena_releaseScratch_of_ne (w : Workspace)
    (other : ∀ e ∈ entries, p ≠ e.handle.pool) :
    (w.releaseScratch entries).2.arena p = w.arena p := by
  induction entries generalizing w with
  | nil => rfl
  | cons e older ih =>
    rw [Workspace.releaseScratch_cons, ih _ fun o mem => other o (List.mem_cons_of_mem _ mem),
      Workspace.arena_giveBack_of_ne w (other e List.mem_cons_self)]

/-- Releasing scratch that was claimed since a state spares that state. -/
theorem spares_releaseScratch {a : Arena} (spares : a.Spares (w.arena p))
    (since : ∀ e ∈ entries, e.handle.pool = p → a.clock ≤ e.mark.clock ∧
      a.highWater ≤ e.mark.height ∧ e.mark.clock ≤ e.handle.stamp.seq ∧
      e.mark.height ≤ e.handle.start) :
    a.Spares ((w.releaseScratch entries).2.arena p) := by
  induction entries generalizing w with
  | nil => exact spares
  | cons e older ih =>
    rw [Workspace.releaseScratch_cons]
    refine ih ?_ fun o mem => since o (List.mem_cons_of_mem _ mem)
    by_cases here : p = e.handle.pool
    · subst here
      obtain ⟨clock, level, after, above⟩ := since e List.mem_cons_self rfl
      rw [Workspace.arena_giveBack_self]
      exact (spares.release (Nat.le_trans clock after) (Nat.le_trans level above)).unwindTo
        clock level
    · rw [Workspace.arena_giveBack_of_ne w here]
      exact spares

/-- Releasing scratch comes down to unwinding each arena to the mark of its oldest claim, which is
given back last. -/
theorem Anchored.releaseScratch_unwinds (anchored : Anchored w entries)
    (sound : ∀ p, (w.arena p).Sound) (mem : e ∈ entries) (here : e.handle.pool = p) :
    ∃ (m : Mark) (a : Arena), m.clock ≤ e.mark.clock ∧ m.height ≤ e.mark.height ∧
      (w.arena p).clock ≤ a.clock ∧
      Arena.Continues a [⟨m.clock, a.clock⟩] ((w.releaseScratch entries).2.arena p) ∧
      ((w.releaseScratch entries).2.arena p).highWater = m.height := by
  induction entries generalizing w e with
  | nil => cases mem
  | cons newest older ih =>
    obtain ⟨rest, stays⟩ := anchored.giveBack sound
    have ticked := anchored.clock_giveBack sound p
    rw [Workspace.releaseScratch_cons]
    by_cases more : ∃ o ∈ older, o.handle.pool = p
    · -- An older claim of the pool is given back later, and its mark is no higher.
      obtain ⟨o, old, same⟩ := more
      rcases List.mem_cons.mp mem with rfl | alsoOld
      · have lower := (List.pairwise_cons.mp anchored.order).1 o old (same.trans here.symm)
        obtain ⟨m, a, clock, height, later, unwound⟩ := ih rest stays old same
        exact ⟨m, a, Nat.le_trans clock lower.1, Nat.le_trans height lower.2,
          Nat.le_trans ticked later, unwound⟩
      · obtain ⟨m, a, clock, height, later, unwound⟩ := ih rest stays alsoOld here
        exact ⟨m, a, clock, height, Nat.le_trans ticked later, unwound⟩
    · have others : ∀ o ∈ older, p ≠ o.handle.pool := fun o old same => more ⟨o, old, same.symm⟩
      rcases List.mem_cons.mp mem with rfl | old
      · subst here
        obtain ⟨a, -, -, later, -, -, -, continues, level⟩ := anchored.arena_giveBack sound
        rw [arena_releaseScratch_of_ne _ others]
        exact ⟨e.mark, a, Nat.le_refl _, Nat.le_refl _, later, continues, level⟩
      · exact absurd here.symm (others e old)

/-- Releasing scratch discards what its pool issued after the claim of some of it. -/
theorem Anchored.discards_releaseScratch {h : Handle} (anchored : Anchored w entries)
    (sound : ∀ p, (w.arena p).Sound) (mem : e ∈ entries) (here : e.handle.pool = p)
    (after : e.mark.clock ≤ h.stamp.seq) (past : h.stamp.seq < (w.arena p).clock) :
    ((w.releaseScratch entries).2.arena p).dead.discards (h.stamp.seq + 1) = true := by
  obtain ⟨m, a, clock, -, later, continues, -⟩ :=
    anchored.releaseScratch_unwinds sound mem here
  exact Arena.discards_of_unwound continues (Nat.le_trans clock after)
    (Nat.lt_of_lt_of_le past later)

end Scratch

/-! ### One call -/

namespace Frame

variable {f g k : Frame} {name : String} {b : Binding}

/-- A call that moves no claim changes bytes at most, even through handles that are no longer
live. -/
theorem quiet_perform (f : Frame) (c : Frame.Call) (plain : c.isRaw = false)
    (still : c.movesClaims = false) : Quiet f (f.perform c).2 := by
  have handle : ∀ (h : Handle) (change : Bytes → Bytes), Quiet f (f.modifyHandle h change).2 :=
    fun h change => ⟨f.workspace.modify_rewrites h change, rfl, rfl, .inl rfl⟩
  have binding : ∀ (name : String) (change : Bytes → Bytes),
      Quiet f (f.modifyBinding name change).2 := by
    intro name change
    unfold modifyBinding
    split
    · exact .refl f
    · exact handle _ change
  have output : ∀ (name : String) (change : Bytes → Bytes),
      Quiet f (f.modifyOutput name change).2 := by
    intro name change
    unfold modifyOutput
    split
    · exact .refl f
    · exact ⟨.refl _, rfl, rfl, .inl rfl⟩
  cases c with
  | bind | bindTensor | claimScratch | releaseScratch => cases still
  | onArena => cases plain
  | modifyBinding name change => exact binding name change
  | modifyScratch id change =>
    simp only [perform, modifyScratch]
    split
    · exact .refl f
    · exact handle _ change
  | modifyPair r q change =>
    simp only [perform, modifyPair]
    split
    · exact .refl f
    · split
      · exact .refl f
      · exact ⟨f.workspace.modifyPair_rewrites _ _ change, rfl, rfl, .inl rfl⟩
  | modifyOutput name change => exact output name change
  | load input name =>
    simp only [perform, load]
    split
    · exact .refl f
    · split
      · exact .refl f
      · split
        · exact .refl f
        · exact binding name _
  | store name out =>
    simp only [perform, store]
    split
    · exact .refl f
    · split
      · exact .refl f
      · split
        · exact .refl f
        · exact output out _
  | noteUsage => exact ⟨.refl _, rfl, rfl, .inl rfl⟩
  | beginEvaluation => exact ⟨.refl _, rfl, rfl, .inr rfl⟩
  | hasBinding | bindingCount | binding | descriptor | scratchBytes | scratchCount | input
  | usage | peak | isEvaluating => exact .refl f

theorem releaseScratch_snd (f : Frame) : f.releaseScratch.2 =
    { f with workspace := (f.workspace.releaseScratch f.scratch).2, scratch := [] } := by
  unfold releaseScratch
  dsimp only
  split <;> rfl

/-- A new name is added to the names that there are. -/
theorem get?_insert_of_new {other : String} {c : Binding}
    (new : f.bindings.get? name = none) (found : f.bindings.get? other = some c) :
    (f.bindings.insert name b).get? other = some c := by
  rw [Table.get?_insert, if_neg, found]
  rintro rfl
  rw [new] at found
  cases found

/-- Writing a record changes bytes at most. -/
theorem quiet_writeRecord (f : Frame) (d : Tensor.Descriptor) (record : Handle) :
    Quiet f (f.writeRecord d record).2 := by
  unfold writeRecord
  split
  · exact .refl f
  · split
    · exact .refl f
    · exact ⟨f.workspace.modify_rewrites record _, rfl, rfl, .inl rfl⟩

/-- What binding a tensor answers and leaves, whatever was claimed in between: it is refused and
spares what was there; or payload and record are claimed, one after the other, and put under the
name. -/
inductive BindsTensor (f : Frame) (name : String) (d : Tensor.Descriptor) :
    Except Fault Unit × Frame → Prop where
  | refused {fault : Fault} {g : Frame} :
      f.workspace.Spares g.workspace → g.scratch = f.scratch → g.bindings = f.bindings →
      BindsTensor f name d (.error fault, g)
  | bound {length : Nat} {payload record : Handle} {v u : Workspace} {g : Frame} :
      f.bindings.get? name = none →
      f.workspace.allocate .ram length d.dtype.align = (.ok payload, v) →
      v.allocate .metadata Tensor.Record.size Tensor.Record.align = (.ok record, u) →
      u.Rewrites g.workspace → g.scratch = f.scratch →
      g.bindings = f.bindings.insert name ⟨payload, some record⟩ →
      BindsTensor f name d (.ok (), g)

theorem bindTensor_binds (sound : ∀ p, (f.workspace.arena p).Sound) (name : String)
    (d : Tensor.Descriptor) : BindsTensor f name d (f.bindTensor name d) := by
  have same : f.workspace.Spares f.workspace := .refl sound
  unfold bindTensor
  cases checked : f.checkBindable name with
  | error fault => exact .refused same rfl rfl
  | ok =>
    have new := (checkBindable_ok_iff.mp checked).2
    cases measured : payloadLength d with
    | error fault => exact .refused same rfl rfl
    | ok length =>
      dsimp only
      rcases claimed : f.workspace.allocate .ram length d.dtype.align with ⟨fault | payload, v⟩
      · obtain rfl := Workspace.allocate_error claimed
        exact .refused same rfl rfl
      · have spares := Workspace.allocate_spares sound claimed
        dsimp only
        rcases recorded : v.allocate .metadata Tensor.Record.size Tensor.Record.align with
          ⟨fault | record, u⟩
        · obtain rfl := Workspace.allocate_error recorded
          have given := Workspace.release_spares sound claimed
          dsimp only [noteUsage]
          split
          · rename_i again x released
            rw [released] at given
            exact .refused given rfl rfl
          · rename_i x released
            rw [released] at given
            exact .refused given rfl rfl
        · have quiet := quiet_writeRecord { f with workspace := u }
            { d with offset := payload.offset } record
          dsimp only
          split
          · rename_i fault g written
            rw [written] at quiet
            have both := spares.trans (Workspace.allocate_spares spares.sound recorded)
            exact .refused (both.trans (quiet.rewrites.spares both.sound)) quiet.scratch
              quiet.bindings
          · rename_i g written
            rw [written] at quiet
            have bindings : g.bindings = f.bindings := quiet.bindings
            refine .bound new claimed recorded quiet.rewrites quiet.scratch ?_
            rw [← bindings]
            rfl

/-- The call was answered with a claim. -/
def Call.claimed : (c : Frame.Call) → c.Answer → Bool
  | .bind _ _ _ _, answer => answer.isOk
  | .bindTensor _ _, answer => answer.isOk
  | .claimScratch _ _ _, answer => answer.isOk
  | _, _ => false

/-- The scratch claims that are held after a call, from those held before it. -/
def Call.holds : (c : Frame.Call) → c.Answer → Nat → Nat
  | .claimScratch _ _ _, answer, held => if answer.isOk then held + 1 else held
  | .releaseScratch, _, _ => 0
  | _, _, held => held

/-- What a call answers and leaves: it changes bytes at most; or it binds, or tries to, and spares
what was there; or it puts a claim on top of the scratch; or it releases all scratch. -/
inductive Effect (f : Frame) : (c : Frame.Call) → c.Answer × Frame → Prop where
  | quiet {c : Frame.Call} {answer : c.Answer} {g : Frame} :
      (∀ held, c.holds answer held = held) → Quiet f g → Effect f c (answer, g)
  | bound {c : Frame.Call} {answer : c.Answer} {g : Frame} :
      (∀ held, c.holds answer held = held) → f.phase = .declaring →
      f.workspace.Spares g.workspace → g.scratch = f.scratch →
      (∀ name b, f.bindings.get? name = some b → g.bindings.get? name = some b) →
      Effect f c (answer, g)
  | claimed {c : Frame.Call} {answer : c.Answer} {g : Frame} {p : Pool} {size align : Nat}
      {h : Handle} : c.claimed answer = true → (∀ held, c.holds answer held = held + 1) →
      f.workspace.allocate p size align = (.ok h, g.workspace) →
      g.scratch = ⟨(f.workspace.arena p).mark, h⟩ :: f.scratch → g.bindings = f.bindings →
      g.phase = f.phase → Effect f c (answer, g)
  | released {answer : Except Fault Unit} {g : Frame} :
      g.workspace = (f.workspace.releaseScratch f.scratch).2 → g.scratch = [] →
      g.bindings = f.bindings → g.phase = f.phase → Effect f .releaseScratch (answer, g)

/-- Nothing can be bound while evaluating. -/
theorem checkBindable_evaluating (evaluating : f.phase = .evaluating) (name : String) :
    f.checkBindable name = .error (.lateBinding name) := by
  simp [checkBindable, evaluating]

/-- **One call.** -/
theorem perform_effect (sound : ∀ p, (f.workspace.arena p).Sound) (c : Frame.Call)
    (plain : c.isRaw = false) : Effect f c (f.perform c) := by
  cases still : c.movesClaims with
  | false =>
    have same : ∀ held, c.holds (f.perform c).1 held = held := by
      intro held
      cases c <;> first | rfl | cases still
    exact .quiet same (f.quiet_perform c plain still)
  | true =>
    cases c with
    | bind name pool size align =>
      have outcome := f.bind_outcome name pool size align
      simp only [perform]
      generalize f.bind name pool size align = result at outcome
      cases outcome with
      | refused => exact .quiet (fun _ => rfl) (.refl f)
      | bound declaring new claimed =>
        exact .bound (fun _ => rfl) declaring (Workspace.allocate_spares sound claimed) rfl
          fun _ _ found => get?_insert_of_new new found
    | bindTensor name d =>
      cases phase : f.phase with
      | evaluating =>
        simp only [perform, bindTensor, checkBindable_evaluating phase]
        exact .quiet (fun _ => rfl) (.refl f)
      | declaring =>
        have outcome := bindTensor_binds sound name d
        simp only [perform]
        generalize f.bindTensor name d = result at outcome
        cases outcome with
        | refused spares scratch bindings =>
          exact .bound (fun _ => rfl) phase spares scratch fun _ _ found => bindings ▸ found
        | bound new claimed recorded rewrites scratch bindings =>
          have first := Workspace.allocate_spares sound claimed
          have both := first.trans (Workspace.allocate_spares first.sound recorded)
          refine .bound (fun _ => rfl) phase (both.trans (rewrites.spares both.sound)) scratch ?_
          intro _ _ found
          rw [bindings]
          exact get?_insert_of_new new found
    | claimScratch pool size align =>
      have outcome := f.claimScratch_outcome pool size align
      simp only [perform]
      generalize f.claimScratch pool size align = result at outcome
      cases outcome with
      | refused => exact .quiet (fun _ => rfl) (.refl f)
      | claimed claimed => exact .claimed rfl (fun _ => rfl) claimed rfl rfl rfl
    | releaseScratch =>
      have after : (f.perform .releaseScratch).2 =
          { f with workspace := (f.workspace.releaseScratch f.scratch).2, scratch := [] } :=
        f.releaseScratch_snd
      generalize f.perform .releaseScratch = result at after
      obtain ⟨answer, g⟩ := result
      cases after
      exact .released rfl rfl rfl rfl
    | _ => cases still

/-- What a call leaves: it spares what was claimed before it, and keeps scratch and names; or it
puts a claim on top of the scratch; or it releases all scratch. -/
inductive Leaves (f : Frame) : Frame.Call → Frame → Prop where
  | kept {c : Frame.Call} {g : Frame} :
      f.workspace.Spares g.workspace → g.scratch = f.scratch →
      (∀ name b, f.bindings.get? name = some b → g.bindings.get? name = some b) → Leaves f c g
  | claimed {c : Frame.Call} {g : Frame} {p : Pool} {size align : Nat} {h : Handle} :
      f.workspace.allocate p size align = (.ok h, g.workspace) →
      g.scratch = ⟨(f.workspace.arena p).mark, h⟩ :: f.scratch → g.bindings = f.bindings →
      Leaves f c g
  | released {g : Frame} : g.workspace = (f.workspace.releaseScratch f.scratch).2 →
      g.scratch = [] → g.bindings = f.bindings → Leaves f .releaseScratch g

/-- Every call but the claim and the release of scratch spares what there was. -/
theorem perform_leaves (sound : ∀ p, (f.workspace.arena p).Sound) (c : Frame.Call)
    (plain : c.isRaw = false) : Leaves f c (f.perform c).2 := by
  have effect := perform_effect sound c plain
  generalize f.perform c = result at effect
  cases effect with
  | quiet _ quiet =>
    exact .kept (quiet.rewrites.spares sound) quiet.scratch
      fun _ _ found => quiet.bindings ▸ found
  | bound _ _ spares scratch names => exact .kept spares scratch names
  | claimed _ _ claimed scratch bindings _ => exact .claimed claimed scratch bindings
  | released workspace none bindings _ => exact .released workspace none bindings

/-- The arenas are sound and the scratch is anchored in them, below their levels. -/
structure Steady (f : Frame) : Prop where
  sound : ∀ p, (f.workspace.arena p).Sound
  anchored : Anchored f.workspace f.scratch
  below : ∀ e ∈ f.scratch, e.handle.stop ≤ (f.workspace.arena e.handle.pool).highWater

theorem Steady.start {w : Workspace} (sound : ∀ p, (w.arena p).Sound)
    (inputs outputs : Table Bytes) : (Frame.start w inputs outputs).Steady :=
  ⟨sound, .nil w, by simp [Frame.start]⟩

/-- Frames stay steady, in whatever order scratch is claimed and released. -/
theorem Steady.perform (steady : f.Steady) (c : Frame.Call) (plain : c.isRaw = false) :
    (f.perform c).2.Steady := by
  have leaves := perform_leaves steady.sound c plain
  generalize (f.perform c).2 = g at leaves
  cases leaves with
  | kept spares scratch _ =>
    refine ⟨spares.sound, scratch ▸ steady.anchored.of_spares spares, fun e mem => ?_⟩
    rw [scratch] at mem
    exact Nat.le_trans (steady.below e mem) (spares.arena _).highWater
  | claimed claimed scratch _ =>
    have spares := Workspace.allocate_spares steady.sound claimed
    refine ⟨spares.sound, scratch ▸ steady.anchored.claim steady.sound claimed, fun e mem => ?_⟩
    rw [scratch] at mem
    rcases List.mem_cons.mp mem with rfl | old
    · obtain ⟨done, rfl, -⟩ := Workspace.allocate_ok claimed
      obtain ⟨-, -, height, -, -⟩ := Arena.allocate_range (steady.sound _).words done
      exact Nat.le_of_eq height.symm
    · exact Nat.le_trans (steady.below e old) (spares.arena _).highWater
  | released workspace none _ =>
    refine ⟨fun p => ?_, none ▸ .nil _, fun e mem => ?_⟩
    · rw [workspace]
      exact steady.anchored.sound_releaseScratch steady.sound p
    · rw [none] at mem
      cases mem

theorem Steady.after (steady : f.Steady) (calls : List Frame.Call)
    (plain : ∀ c ∈ calls, c.isRaw = false) : (f.after calls).Steady := by
  induction calls generalizing f with
  | nil => exact steady
  | cons c rest ih =>
    refine ih (steady.perform c (plain c List.mem_cons_self)) fun d mem => ?_
    exact plain d (List.mem_cons_of_mem _ mem)

/-! ### A new binding -/

/-- The frame binds the name and is `g` after that. -/
inductive Binds (f : Frame) (name : String) : Frame → Prop where
  | raw {pool : Pool} {size align : Nat} {g : Frame} :
      f.bind name pool size align = (.ok (), g) → Binds f name g
  | tensor {d : Tensor.Descriptor} {g : Frame} :
      f.bindTensor name d = (.ok (), g) → Binds f name g

/-- In `g` the name stands for `b`, whose payload was claimed after all that was there in `f`. -/
structure NewlyBound (f g : Frame) (name : String) (b : Binding) : Prop where
  found : g.bindings.get? name = some b
  spares : f.workspace.Spares g.workspace
  scratch : g.scratch = f.scratch
  live : (g.workspace.arena b.payload.pool).checkLive b.payload = .ok ()
  past : b.payload.stamp.seq < (g.workspace.arena b.payload.pool).clock
  after : (f.workspace.arena b.payload.pool).clock ≤ b.payload.stamp.seq
  above : (f.workspace.arena b.payload.pool).highWater ≤ b.payload.start

/-- A payload is claimed and then spared. -/
theorem newlyBound_of_claimed {size align : Nat} (sound : ∀ p, (f.workspace.arena p).Sound)
    (claimed : f.workspace.allocate p size align = (.ok b.payload, v))
    (spares : v.Spares g.workspace) (scratch : g.scratch = f.scratch)
    (found : g.bindings.get? name = some b) : NewlyBound f g name b := by
  have first := Workspace.allocate_spares sound claimed
  obtain ⟨done, rfl, -⟩ := Workspace.allocate_ok claimed
  obtain ⟨-, -, -, above, -⟩ := Arena.allocate_range (sound _).words done
  obtain ⟨live, past⟩ := (sound b.payload.pool).checkLive_allocate done
  have later := spares.arena b.payload.pool
  refine ⟨found, first.trans spares, scratch, later.checkLive past live, ?_, ?_, above⟩
  · exact Nat.lt_of_lt_of_le past later.clock
  · obtain ⟨-, -, new, -⟩ := Arena.allocate_ok done
    exact Nat.le_of_eq (congrArg (fun h => h.stamp.seq) new).symm

theorem Binds.newlyBound (binds : f.Binds name g) (sound : ∀ p, (f.workspace.arena p).Sound) :
    ∃ b, NewlyBound f g name b := by
  cases binds with
  | @raw pool size align _ done =>
    have outcome := f.bind_outcome name pool size align
    rw [done] at outcome
    generalize result : (Except.ok (), g) = pair at outcome
    cases outcome with
    | refused => cases result
    | @bound payload v _ _ claimed =>
      cases result
      have first := Workspace.allocate_spares sound claimed
      refine ⟨⟨payload, none⟩, newlyBound_of_claimed sound claimed (.refl first.sound) rfl ?_⟩
      exact (Table.get?_insert _ _ _ _).trans (if_pos rfl)
  | @tensor d _ done =>
    have outcome := bindTensor_binds sound name d
    rw [done] at outcome
    cases outcome with
    | @bound length payload record v u _ new claimed recorded rewrites scratch bindings =>
      have first := Workspace.allocate_spares sound claimed
      have second := Workspace.allocate_spares first.sound recorded
      refine ⟨⟨payload, some record⟩, newlyBound_of_claimed sound claimed
        (second.trans (rewrites.spares second.sound)) scratch ?_⟩
      rw [bindings]
      exact (Table.get?_insert _ _ _ _).trans (if_pos rfl)

/-! ### While a binding lives -/

/-- The name stands for `b` and its range is read, and no scratch reaches into the range. -/
structure Holds (k : Frame) (name : String) (b : Binding) : Prop where
  lookup : k.lookup name = .ok b
  reads : k.binding name = .ok (k.workspace.view b.payload)
  apart : ∀ e ∈ k.scratch, e.handle.pool = b.payload.pool → e.handle.Apart b.payload

/-- The name still stands for `b`, but its range is refused as stale. -/
structure Refuses (k : Frame) (name : String) (b : Binding) : Prop where
  lookup : k.lookup name = .ok b
  reads : k.binding name = .error (.arena (.staleHandle b.payload.pool b.payload.stop
    (k.workspace.arena b.payload.pool).highWater))

/-- The payload of `b` is spared from `g` to `k`, and what scratch its pool has was there in `g`
or was claimed since. -/
structure Follows (g : Frame) (name : String) (b : Binding) (k : Frame) : Prop where
  found : k.bindings.get? name = some b
  spares : (g.workspace.arena b.payload.pool).Spares (k.workspace.arena b.payload.pool)
  since : ∀ e ∈ k.scratch, e.handle.pool = b.payload.pool → e ∈ g.scratch ∨
    (g.workspace.arena b.payload.pool).clock ≤ e.mark.clock ∧
      (g.workspace.arena b.payload.pool).highWater ≤ e.mark.height

/-- A payload is spared by every call but a release of scratch that its pool held before it. -/
theorem Follows.perform (follows : Follows g name b k) (steady : k.Steady) (c : Frame.Call)
    (plain : c.isRaw = false)
    (kept : c = .releaseScratch → ∀ e ∈ g.scratch, e.handle.pool ≠ b.payload.pool) :
    Follows g name b (k.perform c).2 := by
  have leaves := perform_leaves steady.sound c plain
  generalize (k.perform c).2 = next at leaves
  cases leaves with
  | kept spares scratch names =>
    refine ⟨names name b follows.found, follows.spares.trans (spares.arena _), ?_⟩
    rw [scratch]
    exact follows.since
  | @claimed _ _ pool _ _ h claimed scratch bindings =>
    have spares := Workspace.allocate_spares steady.sound claimed
    refine ⟨bindings ▸ follows.found, follows.spares.trans (spares.arena _), fun e mem here => ?_⟩
    rw [scratch] at mem
    rcases List.mem_cons.mp mem with rfl | old
    · obtain ⟨-, rfl, -⟩ := Workspace.allocate_ok claimed
      have level : (k.workspace.arena h.pool).mark.height = (k.workspace.arena h.pool).highWater :=
        (steady.sound h.pool).height_mark
      right
      rw [level, show h.pool = b.payload.pool from here]
      exact ⟨follows.spares.clock, follows.spares.highWater⟩
    · exact follows.since e old here
  | released workspace none bindings =>
    have others := kept rfl
    refine ⟨bindings ▸ follows.found, ?_, ?_⟩
    · rw [workspace]
      refine spares_releaseScratch follows.spares fun e mem here => ?_
      obtain ⟨clock, height⟩ := steady.anchored.above e mem
      rcases follows.since e mem here with old | ⟨after, higher⟩
      · exact absurd here (others e old)
      · exact ⟨after, higher, clock, height⟩
    · rw [none]
      simp

theorem Follows.after (follows : Follows g name b k) (steady : k.Steady)
    (calls : List Frame.Call) (plain : ∀ c ∈ calls, c.isRaw = false)
    (kept : .releaseScratch ∈ calls → ∀ e ∈ g.scratch, e.handle.pool ≠ b.payload.pool) :
    Follows g name b (k.after calls) := by
  induction calls generalizing k with
  | nil => exact follows
  | cons c rest ih =>
    have first := plain c List.mem_cons_self
    refine ih (follows.perform steady c first fun same => ?_) (steady.perform c first) ?_ ?_
    · exact kept (same ▸ List.mem_cons_self)
    · exact fun d mem => plain d (List.mem_cons_of_mem _ mem)
    · exact fun mem => kept (List.mem_cons_of_mem _ mem)

/-- A spared binding holds. -/
theorem Follows.holds (follows : Follows g name b k) (new : NewlyBound f g name b)
    (before : f.Steady) (steady : k.Steady) : k.Holds name b := by
  have live := follows.spares.checkLive new.past new.live
  have found := lookup_ok_iff.mpr follows.found
  refine ⟨found, ?_, fun e mem here => ?_⟩
  · have read : k.workspace.bytes b.payload = .ok (k.workspace.view b.payload) :=
      Arena.bytes_ok_iff.mpr ⟨live, rfl⟩
    simp only [binding, found, read]
    rfl
  · rcases follows.since e mem here with old | ⟨-, higher⟩
    · -- Scratch that was there before the binding ends below it.
      left
      rw [new.scratch] at old
      have below := before.below e old
      rw [here] at below
      exact Nat.le_trans below new.above
    · right
      have within := (Arena.checkLive_ok_iff.mp new.live).2
      exact Nat.le_trans within (Nat.le_trans higher (steady.anchored.above e mem).2)

/-! ### How a binding ends -/

/-- Scratch stays until it is released. -/
theorem mem_scratch_after {e : ScratchEntry} (steady : f.Steady) (calls : List Frame.Call)
    (plain : ∀ c ∈ calls, c.isRaw = false) (kept : .releaseScratch ∉ calls)
    (mem : e ∈ f.scratch) : e ∈ (f.after calls).scratch := by
  induction calls generalizing f with
  | nil => exact mem
  | cons c rest ih =>
    have first := plain c List.mem_cons_self
    refine ih (steady.perform c first) (fun d later => plain d (List.mem_cons_of_mem _ later))
      (fun later => kept (List.mem_cons_of_mem _ later)) ?_
    have leaves := perform_leaves steady.sound c first
    generalize (f.perform c).2 = next at leaves
    cases leaves with
    | kept _ scratch _ => exact scratch ▸ mem
    | claimed _ scratch _ => exact scratch ▸ List.mem_cons_of_mem _ mem
    | released => exact absurd List.mem_cons_self kept

theorem id_releaseScratch (w : Workspace) (entries : List ScratchEntry) (p : Pool) :
    ((w.releaseScratch entries).2.arena p).id = (w.arena p).id := by
  induction entries generalizing w with
  | nil => rfl
  | cons e older ih =>
    rw [Workspace.releaseScratch_cons, ih]
    by_cases here : p = e.handle.pool
    · subst here
      rw [Workspace.arena_giveBack_self]
      exact (Arena.perform_keeps _ (.unwindTo e.mark)).1.trans
        (Arena.perform_keeps _ (.release e.handle)).1
    · rw [Workspace.arena_giveBack_of_ne w here]

/-- Releasing scratch that the pool of a binding held before it ends the binding. -/
theorem Follows.refuses {e : ScratchEntry} (follows : Follows g name b k)
    (new : NewlyBound f g name b) (before : f.Steady) (steady : k.Steady) (mem : e ∈ k.scratch)
    (old : e ∈ f.scratch) (here : e.handle.pool = b.payload.pool) :
    (k.perform .releaseScratch).2.Refuses name b := by
  have issued := (before.anchored.past e old).1
  have after : e.mark.clock ≤ b.payload.stamp.seq := by
    rw [here] at issued
    exact Nat.le_trans (before.anchored.above e old).1
      (Nat.le_of_lt (Nat.lt_of_lt_of_le issued new.after))
  have gone := steady.anchored.discards_releaseScratch steady.sound mem here after
    (Nat.lt_of_lt_of_le new.past follows.spares.clock)
  have own := (Arena.checkIssued_ok_iff.mp (Arena.checkLive_ok_iff.mp new.live).1).1
  have found : (k.perform .releaseScratch).2.lookup name = .ok b := by
    simp only [Frame.perform, releaseScratch_snd]
    exact lookup_ok_iff.mpr follows.found
  refine ⟨found, ?_⟩
  have stale : (k.perform .releaseScratch).2.workspace.bytes b.payload =
      .error (.staleHandle b.payload.pool b.payload.stop
        ((k.perform .releaseScratch).2.workspace.arena b.payload.pool).highWater) := by
    simp only [Frame.perform, releaseScratch_snd]
    have refused := Arena.bytes_stale
      (a := (k.workspace.releaseScratch k.scratch).2.arena b.payload.pool) (h := b.payload) ?_
      fun live => ?_
    · rw [Workspace.pool_arena] at refused
      exact refused
    · rw [id_releaseScratch, follows.spares.id]
      exact own
    · obtain ⟨-, -, kept⟩ := Arena.checkIssued_ok_iff.mp (Arena.checkLive_ok_iff.mp live).1
      rw [gone] at kept
      cases kept
  simp only [binding, found, stale]
  rfl

/-! ### How long a binding lives -/

theorem after_append (f : Frame) (first rest : List Frame.Call) :
    f.after (first ++ rest) = (f.after first).after rest := by
  induction first generalizing f with
  | nil => rfl
  | cons c first ih => exact ih (f.perform c).2

theorem NewlyBound.steady (new : NewlyBound f g name b) (before : f.Steady) : g.Steady where
  sound := new.spares.sound
  anchored := new.scratch ▸ before.anchored.of_spares new.spares
  below e mem := by
    rw [new.scratch] at mem
    exact Nat.le_trans (before.below e mem) (new.spares.arena _).highWater

/-- **How long bindings live.** Whatever was done with the arenas before, and whatever the callers
of a frame ask as long as they leave the arenas to it: a binding holds throughout further calls
exactly if these release no scratch that the pool of the binding held when it was bound. The first
such release ends it, and its range is refused after that. -/
theorem binding_lives_iff {w : Workspace} {issued : PerPool (List Token)}
    (reached : ∀ p, (w.arena p).Reached (issued.get p)) (inputs outputs : Table Bytes)
    (earlier : List Frame.Call) (plain : ∀ c ∈ earlier, c.isRaw = false)
    (binds : ((start w inputs outputs).after earlier).Binds name g) :
    ∃ b, g.lookup name = .ok b ∧ ∀ later : List Frame.Call, (∀ c ∈ later, c.isRaw = false) →
      ((∀ first rest, later = first ++ rest → (g.after first).Holds name b) ↔
        (.releaseScratch ∈ later → ∀ e ∈ g.scratch, e.handle.pool ≠ b.payload.pool)) ∧
      ∀ first rest, later = first ++ .releaseScratch :: rest → .releaseScratch ∉ first →
        (∃ e ∈ g.scratch, e.handle.pool = b.payload.pool) →
        (g.after (first ++ [.releaseScratch])).Refuses name b := by
  have before : ((start w inputs outputs).after earlier).Steady :=
    (Steady.start (fun p => (reached p).sound.1) inputs outputs).after earlier plain
  obtain ⟨b, new⟩ := binds.newlyBound before.sound
  have steady := new.steady before
  have begins : Follows g name b g := ⟨new.found, .refl _, fun e mem _ => .inl mem⟩
  refine ⟨b, lookup_ok_iff.mpr new.found, fun later plain => ?_⟩
  have ends : ∀ first rest, later = first ++ .releaseScratch :: rest → .releaseScratch ∉ first →
      (∃ e ∈ g.scratch, e.handle.pool = b.payload.pool) →
      (g.after (first ++ [.releaseScratch])).Refuses name b := by
    rintro first rest rfl without ⟨e, mem, here⟩
    have calm : ∀ c ∈ first, c.isRaw = false :=
      fun c mem => plain c (List.mem_append_left _ mem)
    have follows := begins.after steady first calm fun mem => absurd mem without
    have held := mem_scratch_after steady first calm without mem
    rw [after_append]
    exact follows.refuses new before (steady.after first calm) held (new.scratch ▸ mem) here
  refine ⟨⟨fun holds mem e held here => ?_, fun kept first rest parts => ?_⟩, ends⟩
  · -- At the first release the binding is refused, and so does not hold.
    obtain ⟨first, rest, parts, without⟩ := List.eq_append_cons_of_mem mem
    have refuses := ends first rest parts without ⟨e, held, here⟩
    have still := holds (first ++ [.releaseScratch]) rest (by simp [parts])
    have both := refuses.reads.symm.trans still.reads
    cases both
  · subst parts
    have calm : ∀ c ∈ first, c.isRaw = false :=
      fun c mem => plain c (List.mem_append_left _ mem)
    have follows := begins.after steady first calm fun mem => kept (List.mem_append_left _ mem)
    exact follows.holds new before (steady.after first calm)

/-! Scratch is claimed in one pool, and then both pools bind a name. The binding beside the scratch
goes with it, the other one holds. -/

namespace Sheltered

def metadata : Arena := ⟨⟨1⟩, .metadata, Buffer.zeroed 32, 0, 0, 0, 0, .empty, .empty, 0⟩

def ram : Arena := ⟨⟨2⟩, .ram, Buffer.zeroed 32, 0, 0, 0, 0, .empty, .empty, 0⟩

def installed : Workspace := ⟨⟨metadata, ram⟩, fun p => by cases p <;> rfl⟩

def begin : Frame := start installed .empty .empty

/-- Four bytes of scratch in the metadata pool. -/
def claim : Frame.Call := .claimScratch .metadata 4 1

def beside : Frame := (begin.after [claim]).after [.bind "table" .metadata 8 4]

def across : Frame := (begin.after [claim]).after [.bind "weights" .ram 8 4]

def later : List Frame.Call :=
  [.claimScratch .ram 3 1, .beginEvaluation, .releaseScratch, .claimScratch .ram 8 8]

def issued : PerPool (List Token) := ⟨[], []⟩

theorem reached (p : Pool) : (installed.arena p).Reached (issued.get p) := by
  cases p with
  | metadata => exact .built (Arena.build_ok_iff.mpr ⟨by decide, by decide, rfl⟩)
  | ram => exact .built (Arena.build_ok_iff.mpr ⟨by decide, by decide, rfl⟩)

end Sheltered

open Sheltered in
theorem binding_lives_iff_beside_scratch :
    (∀ p, (installed.arena p).Reached (issued.get p)) ∧ claim.isRaw = false ∧
      (begin.after [claim]).Binds "weights" across ∧ (begin.after [claim]).Binds "table" beside ∧
      (∃ b, across.lookup "weights" = .ok b ∧ (across.after later).Holds "weights" b) ∧
      ∃ b, beside.lookup "table" = .ok b ∧
        (beside.after [.releaseScratch]).Refuses "table" b := by
  have plain : ∀ c ∈ [claim], c.isRaw = false := by decide
  have bound : (begin.after [claim]).bind "weights" .ram 8 4 = (.ok (), across) := rfl
  have weights : (begin.after [claim]).Binds "weights" across := .raw bound
  have bound : (begin.after [claim]).bind "table" .metadata 8 4 = (.ok (), beside) := rfl
  have table : (begin.after [claim]).Binds "table" beside := .raw bound
  refine ⟨reached, rfl, weights, table, ?_, ?_⟩
  · obtain ⟨b, found, lives⟩ := binding_lives_iff reached .empty .empty [claim] plain weights
    have place : (across.lookup "weights").toOption.map (·.payload.pool) = some .ram := by
      decide +kernel
    rw [found] at place
    have pool : b.payload.pool = .ram := Option.some.inj place
    have apart : ∀ e ∈ across.scratch, e.handle.pool ≠ b.payload.pool := by
      rw [pool]
      decide +kernel
    exact ⟨b, found, (lives later (by decide)).1.mpr (fun _ => apart) later [] (by simp)⟩
  · obtain ⟨b, found, lives⟩ := binding_lives_iff reached .empty .empty [claim] plain table
    have place : (beside.lookup "table").toOption.map (·.payload.pool) = some .metadata := by
      decide +kernel
    rw [found] at place
    have pool : b.payload.pool = .metadata := Option.some.inj place
    have shared : ∃ e ∈ beside.scratch, e.handle.pool = b.payload.pool := by
      rw [pool]
      decide +kernel
    exact ⟨b, found, (lives [.releaseScratch] (by decide)).2 [] [] rfl (by simp) shared⟩

open Sheltered in
/-- A binding is lost with the scratch below it, and scratch that is claimed after that lies over
its range. -/
theorem binding_lost : ∃ b, beside.lookup "table" = .ok b ∧
    (beside.after [.releaseScratch]).lookup "table" = .ok b ∧
    (beside.after [.releaseScratch]).binding "table" =
      .error (.arena (.staleHandle .metadata 12 0)) ∧
    ∃ e ∈ (beside.after [.releaseScratch, .claimScratch .metadata 12 1]).scratch,
      e.handle.overlaps b.payload = true := by
  refine ⟨⟨⟨⟨1⟩, .metadata, 4, 8, ⟨0, 1⟩, ⟨some 0, 4⟩⟩, none⟩, rfl, rfl, rfl, ?_⟩
  decide +kernel

end Frame

end TensorArena
