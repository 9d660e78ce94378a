import TensorArena.Model.Step
import TensorArena.Proofs.Frame.Claims

/-!
One call on a frame.

Four calls move claims: those that bind, and those that claim and release scratch. All others
leave the claims where they are (`Quiet`). A call that finds as much room in both arenas as it
may take, padding included, is not refused for lack of space and takes no more than that
(`Tidy.perform_takes`); and while evaluating no call moves the level below the scratch
(`Tidy.floor_perform`).
-/

namespace TensorArena

namespace Frame

/-! ### Calls that move no claim -/

/-- The call goes to an arena past the frame. -/
def Call.isRaw : Frame.Call → Bool
  | .onArena _ _ => true
  | _ => false

def Call.claimsScratch : Frame.Call → Bool
  | .claimScratch _ _ _ => true
  | _ => false

/-- The call may move claims. -/
def Call.movesClaims : Frame.Call → Bool
  | .bind _ _ _ _ | .bindTensor _ _ | .claimScratch _ _ _ | .releaseScratch => true
  | _ => false

/-- The call does not go past the frame, and claims scratch while evaluating only. -/
def Allows (f : Frame) (c : Frame.Call) : Prop :=
  c.isRaw = false ∧ (c.claimsScratch = true → f.phase = .evaluating)

instance (f : Frame) (c : Frame.Call) : Decidable (f.Allows c) :=
  inferInstanceAs (Decidable (_ ∧ (_ → _)))

/-- The answer is that an arena had no space left. -/
def short {α : Type} : Except Fault α → Bool
  | .error fault => fault.outOfSpace?.isSome
  | .ok _ => false

/-- The call was refused because an arena had no space left. -/
def Call.fellShort : (c : Frame.Call) → c.Answer → Bool
  | .bind _ _ _ _, answer => short answer
  | .bindTensor _ _, answer => short answer
  | .binding _, answer => short answer
  | .modifyBinding _ _, answer => short answer
  | .descriptor _, answer => short answer
  | .claimScratch _ _ _, answer => short answer
  | .scratchBytes _, answer => short answer
  | .modifyScratch _ _, answer => short answer
  | .releaseScratch, answer => short answer
  | .modifyPair _ _ _, answer => short answer
  | .input _, answer => short answer
  | .modifyOutput _ _, answer => short answer
  | .load _ _, answer => short answer
  | .store _ _, answer => short answer
  | _, _ => false

/-- Nothing differs between the frames but bytes, the caller's outputs, the noted peak, and that
evaluation may have begun. -/
structure Quiet (f g : Frame) : Prop where
  rewrites : f.workspace.Rewrites g.workspace
  bindings : g.bindings = f.bindings
  scratch : g.scratch = f.scratch
  phase : g.phase = f.phase ∨ g.phase = .evaluating

section

variable {f g : Frame} {grounds : Pool → Top}

theorem Quiet.refl (f : Frame) : Quiet f f := ⟨.refl _, rfl, rfl, .inl rfl⟩

theorem Quiet.tidy (quiet : Quiet f g) (tidy : f.Tidy grounds) : g.Tidy grounds := by
  have bound : g.bound = f.bound := by rw [Frame.bound, Frame.bound, quiet.bindings]
  have claims : g.claims = f.claims := by rw [Frame.claims, Frame.claims, bound, quiet.scratch]
  refine ⟨?_, ?_, fun some => ?_⟩
  · exact claims ▸ quiet.rewrites.stacksOn tidy.stacked
  · rw [bound, quiet.scratch]
    exact tidy.piled.imp fun _ _ _ => quiet.rewrites.recallsOn
  · rcases quiet.phase with same | evaluating
    · exact same ▸ tidy.phase (quiet.scratch ▸ some)
    · exact evaluating

theorem Tidy.quiet_write (tidy : f.Tidy grounds) (r : Region) (change : Bytes → Bytes) :
    short (f.write r change).1 = false ∧ Quiet f (f.write r change).2 := by
  rcases f.write_cases r change with ⟨fault, spared, refused⟩ | ⟨h, claim⟩
  · rw [refused]
    exact ⟨by simp [short, spared], .refl f⟩
  · obtain ⟨v, done, rewrites, -⟩ := tidy.write_ok claim change
    rw [done]
    exact ⟨rfl, rewrites, rfl, rfl, .inl rfl⟩

/-- **Quiet calls.** A call that moves no claim is not refused for lack of space. -/
theorem Tidy.quiet (tidy : f.Tidy grounds) (c : Frame.Call) (plain : c.isRaw = false)
    (still : c.movesClaims = false) :
    c.fellShort (f.perform c).1 = false ∧ Quiet f (f.perform c).2 := by
  have spared : ∀ {α : Type} {answer : Except Fault α},
      (∀ fault, answer = .error fault → fault.outOfSpace? = none) → short answer = false := by
    rintro α (fault | _) none
    · simp [short, none fault rfl]
    · rfl
  cases c with
  | bind | bindTensor | claimScratch | releaseScratch => cases still
  | onArena => cases plain
  | modifyBinding name change => exact tidy.quiet_write (.binding name) change
  | modifyScratch id change => exact tidy.quiet_write (.scratch id) change
  | modifyPair r q change =>
    simp only [Frame.perform, Call.fellShort]
    rcases tidy.modifyPair_cases r q change with
      ⟨fault, other, refused⟩ | ⟨h, k, first, second, free⟩
    · rw [refused]
      exact ⟨by simp [short, other], .refl f⟩
    · obtain ⟨v, done, rewrites, -⟩ := tidy.modifyPair_ok first second free change
      rw [done]
      exact ⟨rfl, rewrites, rfl, rfl, .inl rfl⟩
  | modifyOutput name change =>
    simp only [Frame.perform, Call.fellShort, modifyOutput]
    split
    · exact ⟨rfl, .refl f⟩
    · exact ⟨rfl, .refl _, rfl, rfl, .inl rfl⟩
  | load input name =>
    simp only [Frame.perform, Call.fellShort]
    rcases tidy.load_cases input name with ⟨fault, other, refused⟩ | ⟨source, -, -, -, -, done⟩
    · rw [refused]
      exact ⟨by simp [short, other], .refl f⟩
    · rw [done]
      exact ⟨rfl, (tidy.quiet_write (.binding name) fun _ => source).2⟩
  | store name output =>
    simp only [Frame.perform, Call.fellShort]
    rcases tidy.store_cases name output with ⟨fault, other, refused⟩ | ⟨outputs, done⟩
    · rw [refused]
      exact ⟨by simp [short, other], .refl f⟩
    · rw [done]
      exact ⟨rfl, .refl _, rfl, rfl, .inl rfl⟩
  | binding name => exact ⟨spared fun _ => tidy.read_error (r := .binding name), .refl f⟩
  | scratchBytes id => exact ⟨spared fun _ => tidy.read_error (r := .scratch id), .refl f⟩
  | descriptor name => exact ⟨spared fun _ => tidy.descriptor_error, .refl f⟩
  | input name =>
    refine ⟨?_, .refl f⟩
    simp only [Frame.perform, Call.fellShort, Frame.input]
    split <;> rfl
  | noteUsage => exact ⟨rfl, .refl _, rfl, rfl, .inl rfl⟩
  | beginEvaluation => exact ⟨rfl, .refl _, rfl, rfl, .inr rfl⟩
  | hasBinding | bindingCount | scratchCount | usage | peak | isEvaluating =>
    exact ⟨rfl, .refl f⟩

/-- **One call** keeps a frame tidy. -/
theorem Tidy.perform (tidy : f.Tidy grounds) (c : Frame.Call) (allowed : f.Allows c) :
    (f.perform c).2.Tidy grounds := by
  cases still : c.movesClaims with
  | false => exact (tidy.quiet c allowed.1 still).2.tidy tidy
  | true =>
    cases c with
    | bind name pool size align => exact tidy.bind name pool size align
    | bindTensor name d => exact tidy.bindTensor name d
    | claimScratch pool size align => exact tidy.claimScratch (allowed.2 rfl) pool size align
    | releaseScratch => exact tidy.releaseScratch
    | _ => cases still

/-! ### What a call takes -/

/-- The bytes that a call may take, padding included. A tensor that has no payload takes none. -/
def Call.demand : Frame.Call → PerPool Nat
  | .bind _ pool size align => .only pool (size + align - 1)
  | .bindTensor _ d =>
    match payloadLength d with
    | .error _ => .zero
    | .ok _ => Step.tensorDemand d
  | .claimScratch pool size align => .only pool (size + align - 1)
  | _ => .zero

/-- A fault is not a lack of space where the arena refused the alignment. -/
theorem outOfSpace?_eq_none {fault : Fault}
    (unaligned : ∀ cause, fault = .arena cause → ∃ align, cause = .invalidAlignment align) :
    fault.outOfSpace? = none := by
  cases fault with
  | arena cause =>
    obtain ⟨align, rfl⟩ := unaligned cause rfl
    rfl
  | _ => rfl

theorem bind_takes (name : String) (pool : Pool) (size align : Nat)
    (room : f.workspace.HasRoom (.only pool (size + align - 1))) :
    short (f.bind name pool size align).1 = false ∧
      f.workspace.Takes (.only pool (size + align - 1))
        (f.bind name pool size align).2.workspace := by
  have here := room.of_only
  have outcome := f.bind_outcome name pool size align
  generalize f.bind name pool size align = result at outcome
  cases outcome with
  | refused cause =>
    refine ⟨?_, .refl _ _⟩
    have spared := outOfSpace?_eq_none fun reason same =>
      ⟨align, (Workspace.allocate_error_of_room here (cause reason same)).2⟩
    simp [short, spared]
  | bound _ _ claimed => exact ⟨rfl, Workspace.allocate_takes claimed⟩

theorem Tidy.bindTensor_takes (tidy : f.Tidy grounds) (name : String) (d : Tensor.Descriptor)
    (room : f.workspace.HasRoom (Call.bindTensor name d).demand) :
    short (f.bindTensor name d).1 = false ∧
      f.workspace.Takes (Call.bindTensor name d).demand (f.bindTensor name d).2.workspace := by
  -- In an arena that has room for it, the demand has not saturated.
  have payload : ∀ {length}, payloadLength d = .ok length →
      (Call.bindTensor name d).demand.get .metadata =
        Tensor.Record.size + Tensor.Record.align - 1 ∧
      (Call.bindTensor name d).demand.get .ram = length + d.dtype.align - 1 := by
    intro length measured
    have fits := Nat.le_trans (room .ram) (tidy.stacked .ram).sound.words
    have aligned : 0 < d.dtype.align := by cases d.dtype <;> decide
    have bytes : (Call.bindTensor name d).demand.get .ram =
        min (length + (d.dtype.align - 1)) ByteCount.largest := by
      simp only [Call.demand, measured, Step.tensorDemand, Step.tensorBytes, PerPool.get,
        (payloadLength_ok_iff.mp measured).2, ByteCount.satAdd]
    simp only [ByteCount.largest, Capacity.largest] at bytes fits
    refine ⟨?_, by omega⟩
    simp only [Call.demand, measured, Step.tensorDemand, PerPool.get]
  have outcome := tidy.bindTensor_outcome name d
  generalize f.bindTensor name d = result at outcome
  cases outcome with
  | @refused fault cause =>
    refine ⟨?_, .refl _ _⟩
    have spared : fault.outOfSpace? = none := by
      apply outOfSpace?_eq_none
      intro reason same
      obtain ⟨length, measured, refused⟩ := cause reason same
      have here := room .ram
      rw [(payload measured).2] at here
      exact ⟨_, (Workspace.allocate_error_of_room here refused).2⟩
    simp [short, spared]
  | @unrecorded length h v u cause peak _ measured claimed recorded _ _ =>
    have here := room .metadata
    rw [(payload measured).1, ← (Workspace.allocate_ok claimed).2.2 .metadata (by decide)] at here
    have unaligned := (Workspace.allocate_error_of_room here recorded).1
    cases unaligned
  | @bound length h record v u x _ _ measured claimed recorded rewrites _ _ =>
    obtain ⟨metadata, ram⟩ := payload measured
    have record : v.Takes (.only .metadata (Tensor.Record.size + Tensor.Record.align - 1)) x :=
      (Workspace.allocate_takes recorded).trans (rewrites.takes .zero) (by simp)
    refine ⟨rfl, (Workspace.allocate_takes claimed).trans record ?_⟩
    intro p
    cases p <;> simp [PerPool.get_only, metadata, ram]

theorem claimScratch_takes (pool : Pool) (size align : Nat)
    (room : f.workspace.HasRoom (.only pool (size + align - 1))) :
    short (f.claimScratch pool size align).1 = false ∧
      f.workspace.Takes (.only pool (size + align - 1))
        (f.claimScratch pool size align).2.workspace := by
  have here := room.of_only
  have outcome := f.claimScratch_outcome pool size align
  generalize f.claimScratch pool size align = result at outcome
  cases outcome with
  | refused refused =>
    obtain ⟨-, rfl⟩ := Workspace.allocate_error_of_room here refused
    exact ⟨rfl, .refl _ _⟩
  | claimed claimed => exact ⟨rfl, Workspace.allocate_takes claimed⟩

/-- **What a call takes.** Where there is room for the demand of a call, the call is not refused
for lack of space, and takes no more than its demand. -/
theorem Tidy.perform_takes (tidy : f.Tidy grounds) (c : Frame.Call) (plain : c.isRaw = false)
    (room : f.workspace.HasRoom c.demand) : c.fellShort (f.perform c).1 = false ∧
      f.workspace.Takes c.demand (f.perform c).2.workspace := by
  cases still : c.movesClaims with
  | false =>
    obtain ⟨spared, quiet⟩ := tidy.quiet c plain still
    exact ⟨spared, quiet.rewrites.takes _⟩
  | true =>
    cases c with
    | bind name pool size align => exact bind_takes name pool size align room
    | bindTensor name d => exact tidy.bindTensor_takes name d room
    | claimScratch pool size align => exact claimScratch_takes pool size align room
    | releaseScratch =>
      obtain ⟨v, done, -, levels, -⟩ := tidy.releaseScratch_ok
      simp only [Frame.perform, done]
      refine ⟨rfl, fun p => (levels p).2, ?_⟩
      intro p
      rw [(levels p).1]
      refine Nat.le_trans (tidy.piled.floor_le fun e mem here => ?_) (Nat.le_add_right _ _)
      exact here ▸ (tidy.piled.mark_le e mem).2
    | _ => cases still

/-! ### The level below scratch -/

/-- Where there is no scratch, only claiming it makes some. -/
theorem Tidy.scratch_perform (tidy : f.Tidy grounds) (c : Frame.Call) (plain : c.isRaw = false)
    (silent : c.claimsScratch = false) (none : f.scratch = []) :
    (f.perform c).2.scratch = [] := by
  cases still : c.movesClaims with
  | false => exact (tidy.quiet c plain still).2.scratch.trans none
  | true =>
    cases c with
    | bind name pool size align =>
      have outcome := f.bind_outcome name pool size align
      simp only [Frame.perform]
      generalize f.bind name pool size align = result at outcome
      cases outcome <;> exact none
    | bindTensor name d =>
      have outcome := tidy.bindTensor_outcome name d
      simp only [Frame.perform]
      generalize f.bindTensor name d = result at outcome
      cases outcome <;> exact none
    | claimScratch => cases silent
    | releaseScratch =>
      obtain ⟨v, done, -⟩ := tidy.releaseScratch_ok
      simp only [Frame.perform, done]
    | _ => cases still

/-- The level below the scratch of a pool. -/
def base (f : Frame) (p : Pool) : Nat := floor p (f.workspace.arena p).highWater f.scratch

/-- While evaluating, no call moves the level below scratch. -/
theorem Tidy.base_perform (tidy : f.Tidy grounds) (c : Frame.Call) (plain : c.isRaw = false)
    (evaluating : f.phase = .evaluating) :
    (f.perform c).2.phase = .evaluating ∧ ∀ p, (f.perform c).2.base p = f.base p := by
  have ended : f.phase ≠ .declaring := by rw [evaluating]; decide
  cases still : c.movesClaims with
  | false =>
    obtain ⟨-, quiet⟩ := tidy.quiet c plain still
    constructor
    · rcases quiet.phase with same | begun
      · exact same.trans evaluating
      · exact begun
    · intro p
      rw [base, base, quiet.scratch, quiet.rewrites.highWater]
  | true =>
    cases c with
    | bind name pool size align =>
      have outcome := f.bind_outcome name pool size align
      simp only [Frame.perform]
      generalize f.bind name pool size align = result at outcome
      cases outcome with
      | refused => exact ⟨evaluating, fun _ => rfl⟩
      | bound declaring => exact absurd declaring ended
    | bindTensor name d =>
      have outcome := tidy.bindTensor_outcome name d
      simp only [Frame.perform]
      generalize f.bindTensor name d = result at outcome
      cases outcome with
      | refused => exact ⟨evaluating, fun _ => rfl⟩
      | unrecorded declaring => exact absurd declaring ended
      | bound declaring => exact absurd declaring ended
    | claimScratch pool size align =>
      have outcome := f.claimScratch_outcome pool size align
      simp only [Frame.perform]
      generalize f.claimScratch pool size align = result at outcome
      cases outcome with
      | refused => exact ⟨evaluating, fun _ => rfl⟩
      | @claimed h v claimed =>
        obtain ⟨-, here, same⟩ := Workspace.allocate_ok claimed
        refine ⟨evaluating, ?_⟩
        intro p
        show floor p (v.arena p).highWater (_ :: f.scratch) = floor p _ f.scratch
        rw [floor]
        split
        · rename_i own
          rw [(tidy.stacked pool).sound.height_mark, here.symm.trans own]
        · rename_i other
          rw [same p fun own => other (here.trans own.symm)]
    | releaseScratch =>
      obtain ⟨v, done, -, levels, -⟩ := tidy.releaseScratch_ok
      simp only [Frame.perform, done]
      exact ⟨evaluating, fun p => (levels p).1⟩
    | _ => cases still

end

end Frame

end TensorArena
