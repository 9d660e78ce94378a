import TensorArena.Proofs.Frame.Claims

/-!
Tensors that are refused half way.

Binding a tensor can be refused at six points. At the first five nothing has been claimed yet,
and the frame stays as it was. At the last one the payload has been claimed, and it is given
back. But giving back a claim brings its arena to the start of the range and not below the
padding, so the ram pool ends at the next multiple of the payload's alignment.
-/

namespace TensorArena

namespace Arena

variable {a b : Arena} {size align : Nat}

/-- There is space for a claim. -/
def Fits (a : Arena) (size align : Nat) : Prop := roundUp a.highWater align + size ≤ a.capacity

/-- The refusal of a claim for which there is no space. -/
def tooFull (a : Arena) (size align : Nat) : Fault :=
  .outOfSpace a.pool size align a.highWater a.capacity

theorem allocate_fits {h : Handle} (done : a.allocate size align = (.ok h, b)) :
    a.Fits size align := by
  obtain ⟨-, fits, -⟩ := allocate_ok done
  exact fits

/-- With a proper alignment, a claim is refused for lack of space only. -/
theorem allocate_error_of_aligned {fault : Fault} (aligned : isAlignment align = true)
    (refused : a.allocate size align = (.error fault, b)) :
    ¬ a.Fits size align ∧ fault = a.tooFull size align := by
  unfold allocate at refused
  rw [if_pos aligned] at refused
  dsimp only at refused
  split at refused
  · cases refused
  · rename_i above
    cases refused
    exact ⟨above, rfl⟩

end Arena

namespace Workspace

variable {w v : Workspace} {p : Pool} {size align : Nat} {fault : Arena.Fault}

theorem allocate_error_of_aligned (aligned : Arena.isAlignment align = true)
    (refused : w.allocate p size align = (.error fault, v)) :
    ¬ (w.arena p).Fits size align ∧ fault = (w.arena p).tooFull size align := by
  have answer : ((w.arena p).allocate size align).1 = .error fault :=
    congrArg (fun done => done.1) refused
  exact Arena.allocate_error_of_aligned aligned (Prod.ext answer rfl)

/-- A claim that is given back at once leaves the padding below it, and nothing else. -/
theorem allocate_release {h : Handle} (sound : ∀ q, (w.arena q).Sound)
    (claimed : w.allocate p size align = (.ok h, v)) :
    ∃ u, v.release h = (.ok (), u) ∧ (∀ q ≠ p, u.arena q = w.arena q) ∧
      (u.arena p).highWater = Arena.roundUp (w.arena p).highWater align ∧
      (u.arena p).top = (w.arena p).top := by
  obtain ⟨stacked, start, -⟩ := (stacksOn_of_sound sound).allocate claimed
  obtain ⟨-, rfl, others⟩ := allocate_ok claimed
  obtain ⟨u, released, left, level, same, -⟩ := stacked.release
  refine ⟨u, released, fun q other => ?_, level.trans start, (left h.pool).top⟩
  exact (same q other).trans (others q other)

end Workspace

namespace Frame

variable {f g : Frame} {name : String} {d : Tensor.Descriptor} {fault : Fault}

/-! ### The six refusals -/

/-- The refusals of a tensor in the order in which they are found, and what each leaves. -/
inductive TensorRefusal (f : Frame) (name : String) (d : Tensor.Descriptor) :
    Fault → Frame → Prop where
  | late : f.phase ≠ .declaring → TensorRefusal f name d (.lateBinding name) f
  | taken : f.phase = .declaring → f.bindings.contains name = true →
      TensorRefusal f name d (.duplicateBinding name) f
  | rank : f.checkBindable name = .ok () → Tensor.maxRank < d.shape.length →
      TensorRefusal f name d (.descriptor (.rankTooLarge d.shape.length)) f
  | size {reason : Tensor.Fault} : f.checkBindable name = .ok () →
      d.shape.length ≤ Tensor.maxRank → d.byteLength = .error reason →
      TensorRefusal f name d (.descriptor reason) f
  | payload {length : Nat} : f.checkBindable name = .ok () → payloadLength d = .ok length →
      ¬ (f.workspace.arena .ram).Fits length d.dtype.align →
      TensorRefusal f name d (.arena ((f.workspace.arena .ram).tooFull length d.dtype.align)) f
  | record {length : Nat} {v : Workspace} {peak : PerPool Nat} :
      f.checkBindable name = .ok () → payloadLength d = .ok length →
      (f.workspace.arena .ram).Fits length d.dtype.align →
      ¬ (f.workspace.arena .metadata).Fits Tensor.Record.size Tensor.Record.align →
      v.arena .metadata = f.workspace.arena .metadata →
      (v.arena .ram).highWater =
        Arena.roundUp (f.workspace.arena .ram).highWater d.dtype.align →
      (v.arena .ram).top = (f.workspace.arena .ram).top →
      TensorRefusal f name d
        (.arena ((f.workspace.arena .metadata).tooFull Tensor.Record.size Tensor.Record.align))
        { f with workspace := v, peak }

theorem tensorRefusal_of_checkBindable (refused : f.checkBindable name = .error fault) :
    TensorRefusal f name d fault f := by
  unfold checkBindable at refused
  split at refused
  · rename_i late
    cases refused
    exact .late late
  · rename_i declaring
    split at refused
    · rename_i taken
      cases refused
      exact .taken (Decidable.not_not.mp declaring) taken
    · cases refused

theorem tensorRefusal_of_payloadLength {reason : Tensor.Fault}
    (bindable : f.checkBindable name = .ok ()) (refused : payloadLength d = .error reason) :
    TensorRefusal f name d (.descriptor reason) f := by
  unfold payloadLength at refused
  split at refused
  · rename_i large
    cases refused
    exact .rank bindable large
  · rename_i fits
    exact .size bindable (Nat.le_of_not_lt fits) refused

/-- Every refusal of a tensor is one of the six: once the record is claimed, writing it does not
fail, and a payload just claimed can be given back. -/
theorem tensorRefusal_of_bindTensor (sound : ∀ p, (f.workspace.arena p).Sound)
    (refused : f.bindTensor name d = (.error fault, g)) : TensorRefusal f name d fault g := by
  have payloadAligned : Arena.isAlignment d.dtype.align = true := by cases d.dtype <;> decide
  have recordAligned : Arena.isAlignment Tensor.Record.align = true := by decide
  unfold bindTensor at refused
  cases checked : f.checkBindable name with
  | error reason =>
    rw [checked] at refused
    cases refused
    exact tensorRefusal_of_checkBindable checked
  | ok _ =>
    rw [checked] at refused
    dsimp only at refused
    cases measured : payloadLength d with
    | error reason =>
      rw [measured] at refused
      cases refused
      exact tensorRefusal_of_payloadLength checked measured
    | ok length =>
      rw [measured] at refused
      dsimp only at refused
      rcases claimed : f.workspace.allocate .ram length d.dtype.align with ⟨cause | payload, v⟩
      · rw [claimed] at refused
        obtain ⟨short, rfl⟩ := Workspace.allocate_error_of_aligned payloadAligned claimed
        obtain rfl := Workspace.allocate_error claimed
        cases refused
        exact .payload checked measured short
      · rw [claimed] at refused
        dsimp only at refused
        obtain ⟨inRam, -, apart⟩ := Workspace.allocate_ok claimed
        obtain ⟨stacked, -⟩ := (Workspace.stacksOn_of_sound sound).allocate claimed
        rcases recorded : v.allocate .metadata Tensor.Record.size Tensor.Record.align with
          ⟨cause | record, u⟩
        · rw [recorded] at refused
          obtain ⟨short, rfl⟩ := Workspace.allocate_error_of_aligned recordAligned recorded
          obtain rfl := Workspace.allocate_error recorded
          obtain ⟨x, released, others, level, top⟩ := Workspace.allocate_release sound claimed
          simp only [noteUsage, released] at refused
          cases refused
          rw [apart .metadata (by decide)] at short ⊢
          exact .record checked measured (Arena.allocate_fits inRam) short
            (others .metadata (by decide)) level top
        · exfalso
          rw [recorded] at refused
          dsimp only at refused
          obtain ⟨stands, -, size, -⟩ := stacked.allocate recorded
          obtain ⟨x, written, -⟩ := writeRecord_ok (f := { f with workspace := u })
            (d := { d with offset := payload.offset }) stands List.mem_cons_self size
            (payloadLength_ok_iff.mp measured).1
          rw [written] at refused
          cases refused

/-! ### All or nothing -/

/-- The record of a tensor found no space. -/
def Fault.IsRecordFull (fault : Fault) : Prop :=
  fault.outOfSpace? = some (.metadata, Tensor.Record.size)

/-- A refusal leaves the frame as it was, or its record found no space. -/
theorem TensorRefusal.leaves (refusal : TensorRefusal f name d fault g) :
    (¬ fault.IsRecordFull ∧ g = f) ∨
      (fault.IsRecordFull ∧ g.bindings = f.bindings ∧
        g.usage = ⟨f.usage.metadata, Arena.roundUp f.usage.ram d.dtype.align⟩) := by
  cases refusal with
  | late | taken | rank | size =>
    left
    exact ⟨by simp [Fault.IsRecordFull, Fault.outOfSpace?], rfl⟩
  | payload =>
    left
    exact ⟨by simp [Fault.IsRecordFull, Fault.outOfSpace?, Arena.tooFull], rfl⟩
  | record _ _ _ _ metadata level _ =>
    right
    refine ⟨by simp [Fault.IsRecordFull, Fault.outOfSpace?, Arena.tooFull], rfl, ?_⟩
    apply PerPool.ext_get
    intro p
    cases p with
    | metadata => exact congrArg Arena.highWater metadata
    | ram => exact level

/-- **Which refused tensors leave no trace.** The names and the level of the metadata pool stay as
they were. So does the level of the ram pool, unless the record found no space after the payload
had been padded: then the ram pool ends above the padding. Any other refusal leaves the whole
frame as it was. -/
theorem bindTensor_all_or_nothing_iff {issued : PerPool (List Token)}
    (reached : ∀ p, (f.workspace.arena p).Reached (issued.get p))
    (refused : f.bindTensor name d = (.error fault, g)) :
    (g.bindings = f.bindings ∧ g.usage = f.usage ↔
        (fault.IsRecordFull → d.dtype.align ∣ f.usage.ram)) ∧
      (fault.IsRecordFull → g.bindings = f.bindings ∧
        g.usage = ⟨f.usage.metadata, Arena.roundUp f.usage.ram d.dtype.align⟩) ∧
      (¬ fault.IsRecordFull → g = f) := by
  have aligned : Arena.isAlignment d.dtype.align = true := by cases d.dtype <;> decide
  have refusal := tensorRefusal_of_bindTensor (fun p => (reached p).sound.1) refused
  rcases refusal.leaves with ⟨other, rfl⟩ | ⟨full, bindings, usage⟩
  · refine ⟨?_, fun full => absurd full other, fun _ => rfl⟩
    constructor
    · intro _ full
      exact absurd full other
    · intro _
      exact ⟨rfl, rfl⟩
  · refine ⟨?_, fun _ => ⟨bindings, usage⟩, fun other => absurd full other⟩
    rw [← Arena.roundUp_eq_self_iff aligned]
    constructor
    · rintro ⟨-, same⟩ -
      exact congrArg PerPool.ram (usage.symm.trans same)
    · intro stays
      refine ⟨bindings, ?_⟩
      rw [usage, stays full]

/-! A byte is bound in the ram pool, so that four-byte elements are padded. The metadata pool holds
sixteen bytes, and no record fits. -/

namespace Halfway

def begin : Frame := start (.zeroed 16 64) .empty .empty

/-- The frame with its byte bound. -/
def padded : Frame := (begin.bind "pad" .ram 1 1).2

/-- One number of four bytes. -/
def number : Tensor.Descriptor := ⟨.i32, [1], 0⟩

def full : Fault := .arena (.outOfSpace .metadata 24 4 0 16)

def pad : Handle := ⟨⟨2⟩, .ram, 0, 1, ⟨0, 0⟩, .empty⟩

def issued : PerPool (List Token) := ⟨[], [.handle pad]⟩

theorem reached (p : Pool) : (padded.workspace.arena p).Reached (issued.get p) := by
  cases p with
  | metadata => exact Arena.reached_zeroed ⟨1⟩ .metadata (by decide) (by decide)
  | ram =>
    have built : (Arena.zeroed ⟨2⟩ .ram 64).Reached [] :=
      Arena.reached_zeroed ⟨2⟩ .ram (by decide) (by decide)
    exact built.called (.allocate 1 1) (by simp [Arena.Call.presents])

end Halfway

open Halfway in
theorem bindTensor_all_or_nothing_iff_padded :
    (∀ p, (padded.workspace.arena p).Reached (issued.get p)) ∧ full.IsRecordFull ∧
      ∃ g, padded.bindTensor "x" number = (.error full, g) ∧ g.bindings = padded.bindings ∧
        g.usage = ⟨0, 4⟩ := by
  have refused : padded.bindTensor "x" number = (.error full, (padded.bindTensor "x" number).2) :=
    rfl
  have leaves := bindTensor_all_or_nothing_iff reached refused
  obtain ⟨bindings, usage⟩ := leaves.2.1 rfl
  exact ⟨reached, rfl, _, refused, bindings, usage.trans (by decide)⟩

open Halfway in
/-- A refused tensor leaves three bytes of padding claimed that it found free. -/
theorem refused_tensor_leaves_padding : padded.usage = ⟨0, 1⟩ ∧
    (padded.bindTensor "x" number).1 = .error full ∧
    (padded.bindTensor "x" number).2.usage = ⟨0, 4⟩ := by
  decide +kernel

end Frame

end TensorArena
