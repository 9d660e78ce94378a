import TensorArena.Proofs.Frame.Bindings

/-!
Calls that are served.

What a caller of a tidy frame gets who asks for what is there: a region that can be read is
written, two of them are changed at once, an input of its size is loaded and an output of its size
is stored; and where there is room for the bytes and their padding, tensors are bound and scratch
is claimed. Each call is told by what can be read after it: what it wrote, and at every other
region what was read before.
-/

namespace TensorArena

namespace Frame

variable {f g : Frame} {grounds : Pool → Top} {r q : Region} {x y : Bytes} {name : String}

/-- All that was read in `f`, but for the regions `changed`, is read in `g`. -/
def Reads (changed : List Region) (f g : Frame) : Prop :=
  ∀ q x, q ∉ changed → f.read q = .ok x → g.read q = .ok x

/-- The frames differ in bytes, in scratch and in the peak only. The level below scratch is the
same. -/
structure Beside (f g : Frame) : Prop where
  bindings : g.bindings = f.bindings
  inputs : g.inputs = f.inputs
  outputs : g.outputs = f.outputs
  phase : g.phase = f.phase
  base : ∀ p, g.base p = f.base p
  capacity : ∀ p, (g.workspace.arena p).capacity = (f.workspace.arena p).capacity

theorem Beside.refl (f : Frame) : f.Beside f :=
  ⟨rfl, rfl, rfl, rfl, fun _ => rfl, fun _ => rfl⟩

theorem Beside.trans {h : Frame} (first : f.Beside g) (second : g.Beside h) : f.Beside h where
  bindings := second.bindings.trans first.bindings
  inputs := second.inputs.trans first.inputs
  outputs := second.outputs.trans first.outputs
  phase := second.phase.trans first.phase
  base p := (second.base p).trans (first.base p)
  capacity p := (second.capacity p).trans (first.capacity p)

theorem Beside.of_rewrites {v : Workspace} (rewrites : f.workspace.Rewrites v) :
    f.Beside { f with workspace := v } := by
  refine ⟨rfl, rfl, rfl, rfl, ?_, fun p => (rewrites p).2⟩
  intro p
  show floor p (v.arena p).highWater f.scratch = floor p (f.workspace.arena p).highWater f.scratch
  rw [rewrites.highWater]

theorem base_of_idle (idle : f.scratch = []) (p : Pool) :
    f.base p = (f.workspace.arena p).highWater := by
  rw [base, idle, floor]

/-- Where neither has scratch, the arenas are at the same levels. -/
theorem Beside.highWater (beside : f.Beside g) (idle : f.scratch = []) (after : g.scratch = [])
    (p : Pool) : (g.workspace.arena p).highWater = (f.workspace.arena p).highWater := by
  rw [← base_of_idle after, ← base_of_idle idle, beside.base]

theorem Tidy.read_ok_iff (tidy : f.Tidy grounds) :
    f.read r = .ok x ↔ ∃ h, f.named r = some h ∧ f.workspace.view h = x := by
  constructor
  · intro read
    have named := tidy.toOption_read r
    rw [read] at named
    exact Option.map_eq_some_iff.mp named.symm
  · rintro ⟨h, claim, rfl⟩
    exact tidy.read_ok claim

/-- Regions are read as before where they name the same claims and these show the same. -/
theorem Tidy.read_of_views (tidy : f.Tidy grounds) (after : g.Tidy grounds)
    (named : g.named r = f.named r)
    (views : ∀ k ∈ f.claims, g.workspace.view k = f.workspace.view k) (read : f.read r = .ok x) :
    g.read r = .ok x := by
  obtain ⟨h, claim, rfl⟩ := tidy.read_ok_iff.mp read
  exact after.read_ok_iff.mpr ⟨h, named.trans claim, views h (named_mem claim)⟩

/-! ### Changing bytes -/

/-- A region that is read is written. -/
theorem Tidy.write_served (tidy : f.Tidy grounds) (read : f.read r = .ok x)
    (change : Bytes → Bytes) : ∃ g, f.write r change = (.ok x, g) ∧ g.Tidy grounds ∧ f.Beside g ∧
      g.read r = .ok (Bytes.overlay (change x) x) ∧ Reads [r] f g := by
  obtain ⟨h, claim, rfl⟩ := tidy.read_ok_iff.mp read
  obtain ⟨v, done, rewrites, shows, others⟩ := tidy.write_ok claim change
  have quiet : Quiet f { f with workspace := v } := ⟨rewrites, rfl, rfl, .inl rfl⟩
  have after := quiet.tidy tidy
  refine ⟨_, done, after, .of_rewrites rewrites, after.read_ok_iff.mpr ⟨h, claim, shows⟩, ?_⟩
  intro q y other there
  obtain ⟨k, names, rfl⟩ := tidy.read_ok_iff.mp there
  have apart := tidy.named_ne (mt List.mem_singleton.mpr other) names claim
  exact after.read_ok_iff.mpr ⟨k, names, others k (named_mem names) apart⟩

/-- Two regions that are read are changed at once. -/
theorem Tidy.modifyPair_served (tidy : f.Tidy grounds) (first : f.read r = .ok x)
    (second : f.read q = .ok y) (distinct : r ≠ q) (change : Bytes → Bytes → Bytes × Bytes) :
    ∃ g, f.modifyPair r q change = (.ok (x, y), g) ∧ g.Tidy grounds ∧ f.Beside g ∧
      g.read r = .ok (Bytes.overlay (change x y).1 x) ∧
      g.read q = .ok (Bytes.overlay (change x y).2 y) ∧ Reads [r, q] f g := by
  obtain ⟨h, mine, rfl⟩ := tidy.read_ok_iff.mp first
  obtain ⟨k, yours, rfl⟩ := tidy.read_ok_iff.mp second
  have free := tidy.stacked.overlaps_of_ne (named_mem mine) (named_mem yours)
    (tidy.named_ne distinct mine yours)
  obtain ⟨v, done, rewrites, showsSecond, showsFirst, others⟩ :=
    tidy.modifyPair_ok mine yours free change
  have quiet : Quiet f { f with workspace := v } := ⟨rewrites, rfl, rfl, .inl rfl⟩
  have after := quiet.tidy tidy
  refine ⟨_, done, after, .of_rewrites rewrites, after.read_ok_iff.mpr ⟨h, mine, showsFirst⟩,
    after.read_ok_iff.mpr ⟨k, yours, showsSecond⟩, ?_⟩
  intro s z other there
  simp only [List.mem_cons, List.not_mem_nil, or_false, not_or] at other
  obtain ⟨l, names, rfl⟩ := tidy.read_ok_iff.mp there
  have shows := others l (named_mem names) (tidy.named_ne other.1 names mine)
    (tidy.named_ne other.2 names yours)
  exact after.read_ok_iff.mpr ⟨l, names, shows⟩

/-! ### The caller's tensors -/

/-- An input is loaded over a binding of its size. -/
theorem Tidy.load_served {input : String} (tidy : f.Tidy grounds)
    (given : f.inputs.get? input = some x) (read : f.read (.binding name) = .ok y)
    (same : y.length = x.length) :
    ∃ g, f.load input name = (.ok (), g) ∧ g.Tidy grounds ∧ f.Beside g ∧
      g.read (.binding name) = .ok x ∧ Reads [.binding name] f g := by
  obtain ⟨g, done, after, beside, shows, others⟩ := tidy.write_served read fun _ => x
  rw [Bytes.overlay_of_length_eq same.symm] at shows
  refine ⟨g, ?_, after, beside, shows, others⟩
  have found : f.input input = .ok x := by simp only [Frame.input, given]
  have target : f.binding name = .ok y := read
  have wrote : f.modifyBinding name (fun _ => x) = (.ok y, g) := done
  simp only [load, found, target, same, wrote, ne_eq, not_true_eq_false, if_false]

/-- A binding is stored in an output of its size. -/
theorem store_served {output : String} (read : f.read (.binding name) = .ok x)
    (wanted : f.outputs.get? output = some y) (same : y.length = x.length) :
    f.store name output = (.ok (), { f with outputs := f.outputs.insert output x }) := by
  have source : f.binding name = .ok x := read
  simp only [store, source, wanted, same, ne_eq, not_true_eq_false, if_false, modifyOutput,
    Bytes.overlay_of_length_eq same.symm]

/-! ### Claiming -/

/-- Where there is room, bytes are claimed. -/
theorem allocate_served {w : Workspace} {p : Pool} {size align : Nat}
    (aligned : Arena.isAlignment align = true)
    (room : (w.arena p).highWater + (size + align - 1) ≤ (w.arena p).capacity) :
    ∃ h v, w.allocate p size align = (.ok h, v) := by
  rcases done : w.allocate p size align with ⟨fault | h, v⟩
  · have unaligned := (Workspace.allocate_error_of_room room done).1
    rw [aligned] at unaligned
    cases unaligned
  · exact ⟨h, v, rfl⟩

/-- Where there is room, scratch is claimed. It is read, and what was read before is read. -/
theorem Tidy.claimScratch_served (tidy : f.Tidy grounds) (evaluating : f.phase = .evaluating)
    (pool : Pool) (size align : Nat) (aligned : Arena.isAlignment align = true)
    (room : f.workspace.HasRoom (.only pool (size + align - 1))) :
    ∃ g, f.claimScratch pool size align = (.ok ⟨f.scratch.length⟩, g) ∧ g.Tidy grounds ∧
      f.Beside g ∧ (∃ z, g.read (.scratch ⟨f.scratch.length⟩) = .ok z ∧ z.length = size) ∧
      Reads [.scratch ⟨f.scratch.length⟩] f g := by
  obtain ⟨h, v, claimed⟩ := allocate_served aligned room.of_only
  have after := tidy.claimScratch evaluating pool size align
  have level := (tidy.base_perform (.claimScratch pool size align) rfl evaluating).2
  have answer : f.claimScratch pool size align = (.ok ⟨f.scratch.length⟩, noteUsage { f with
      workspace := v, scratch := ⟨(f.workspace.arena pool).mark, h⟩ :: f.scratch }) := by
    simp only [Frame.claimScratch, claimed]
  rw [Frame.perform, answer] at level
  rw [answer] at after
  obtain ⟨stacked, -, length, -, views⟩ := tidy.stacked.allocate claimed
  have named := f.named_push ⟨(f.workspace.arena pool).mark, h⟩ v (f.peak.larger v.usage)
  refine ⟨_, answer, after, ⟨rfl, rfl, rfl, rfl, level, ?_⟩, ?_, ?_⟩
  · exact (Workspace.allocate_takes claimed).capacity
  · exact ⟨_, after.read_ok ((named _).trans (if_pos rfl)),
      (stacked.length_view List.mem_cons_self).trans length⟩
  · intro q y other there
    exact tidy.read_of_views after ((named q).trans (if_neg (mt List.mem_singleton.mpr other)))
      (fun k _ => views k) there

/-- Where there is room, bytes are bound under a new name. They are read, and what was read before
is read. -/
theorem Tidy.bind_served {pool : Pool} {size align : Nat} (tidy : f.Tidy grounds)
    (declaring : f.phase = .declaring) (new : f.bindings.get? name = none)
    (aligned : Arena.isAlignment align = true)
    (room : f.workspace.HasRoom (.only pool (size + align - 1))) :
    ∃ b v, let g := noteUsage { f with workspace := v, bindings := f.bindings.insert name b }
      f.bind name pool size align = (.ok (), g) ∧ g.Tidy grounds ∧
        f.workspace.Takes (.only pool (size + align - 1)) v ∧
        (∃ z, g.read (.binding name) = .ok z ∧ z.length = size) ∧
        Reads [.binding name] f g := by
  obtain ⟨payload, v, claimed⟩ := allocate_served aligned room.of_only
  obtain ⟨stacked, -, length, -, views⟩ := tidy.stacked.allocate claimed
  have answer : f.bind name pool size align = (.ok (), noteUsage { f with
      workspace := v, bindings := f.bindings.insert name ⟨payload, none⟩ }) := by
    simp only [Frame.bind, checkBindable_ok_iff.mpr ⟨declaring, new⟩, claimed]
  have after := tidy.bind name pool size align
  rw [answer] at after
  have named := f.named_insert name ⟨payload, none⟩ v (f.peak.larger v.usage)
  refine ⟨_, v, answer, after, Workspace.allocate_takes claimed,
    ⟨_, after.read_ok ((named _).trans (if_pos rfl)), ?_⟩, ?_⟩
  · exact (stacked.length_view List.mem_cons_self).trans length
  · intro q y other there
    exact tidy.read_of_views after ((named q).trans (if_neg (mt List.mem_singleton.mpr other)))
      (fun k _ => views k) there

/-- In an arena that has room for it, the demand of a tensor is its bytes and their padding. -/
theorem tensorDemand_ram {d : Tensor.Descriptor} {length : Nat} {w : Workspace}
    (measured : payloadLength d = .ok length) (words : (w.arena .ram).Sound)
    (room : w.HasRoom (Step.tensorDemand d)) :
    (w.arena .ram).highWater + (length + d.dtype.align - 1) ≤ (w.arena .ram).capacity := by
  have fits := room .ram
  have small := words.words
  have positive : 0 < d.dtype.align := by cases d.dtype <;> decide
  have bytes : (Step.tensorDemand d).get .ram =
      min (length + (d.dtype.align - 1)) ByteCount.largest := by
    simp only [Step.tensorDemand, Step.tensorBytes, PerPool.get,
      (payloadLength_ok_iff.mp measured).2, ByteCount.satAdd]
  simp only [ByteCount.largest, Capacity.largest] at bytes small
  omega

/-- Where there is room, a tensor is bound under a new name. It is read, and what was read before
is read. -/
theorem Tidy.bindTensor_served {d : Tensor.Descriptor} {length : Nat} (tidy : f.Tidy grounds)
    (declaring : f.phase = .declaring) (new : f.bindings.get? name = none)
    (measured : payloadLength d = .ok length)
    (room : f.workspace.HasRoom (Step.tensorDemand d)) :
    ∃ b v, let g := noteUsage { f with workspace := v, bindings := f.bindings.insert name b }
      f.bindTensor name d = (.ok (), g) ∧ g.Tidy grounds ∧
        f.workspace.Takes (Step.tensorDemand d) v ∧
        (∃ z, g.read (.binding name) = .ok z ∧ z.length = length) ∧
        Reads [.binding name] f g := by
  have aligned : Arena.isAlignment d.dtype.align = true := by cases d.dtype <;> decide
  obtain ⟨payload, v, claimed⟩ :=
    allocate_served aligned (tensorDemand_ram measured (tidy.stacked .ram).sound room)
  obtain ⟨stacked, -, size, -, views⟩ := tidy.stacked.allocate claimed
  have below : (v.arena .metadata).highWater + (Tensor.Record.size + Tensor.Record.align - 1) ≤
      (v.arena .metadata).capacity := by
    rw [(Workspace.allocate_ok claimed).2.2 .metadata (by decide)]
    exact room .metadata
  have square : Arena.isAlignment Tensor.Record.align = true := by decide
  obtain ⟨record, u, recorded⟩ := allocate_served square below
  obtain ⟨stands, -, whole, -, shown⟩ := stacked.allocate recorded
  obtain ⟨x, written, rewrites, shows, others⟩ := writeRecord_ok (f := { f with workspace := u })
    (d := { d with offset := payload.offset }) stands List.mem_cons_self whole
    (payloadLength_ok_iff.mp measured).1
  have answer : f.bindTensor name d = (.ok (), noteUsage { f with
      workspace := x, bindings := f.bindings.insert name ⟨payload, some record⟩ }) := by
    simp only [Frame.bindTensor, checkBindable_ok_iff.mpr ⟨declaring, new⟩, measured, claimed,
      recorded, written]
  have after := tidy.bindTensor name d
  have takes := (tidy.bindTensor_takes name d (by simpa only [Call.demand, measured] using room)).2
  simp only [answer, Call.demand, measured] at after takes
  have named := f.named_insert name ⟨payload, some record⟩ x (f.peak.larger x.usage)
  have kept : ∀ k ∈ payload :: f.claims, x.view k = f.workspace.view k := by
    intro k mem
    have other : k ≠ record := by
      rintro rfl
      exact (List.nodup_cons.mp stands.nodup).1 mem
    rw [others k (List.mem_cons_of_mem _ mem) other, shown, views]
  refine ⟨_, x, answer, after, takes, ⟨_, after.read_ok ((named _).trans (if_pos rfl)), ?_⟩, ?_⟩
  · exact ((rewrites.stacksOn stands).length_view
      (List.mem_cons_of_mem _ List.mem_cons_self)).trans size
  · intro q y other there
    exact tidy.read_of_views after ((named q).trans (if_neg (mt List.mem_singleton.mpr other)))
      (fun k mem => kept k (List.mem_cons_of_mem _ mem)) there

end Frame

end TensorArena
