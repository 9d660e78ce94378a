import TensorArena.Frame.Program
import TensorArena.Proofs.Tensor.Record
import TensorArena.Proofs.Workspace.Stack

/-!
What a frame has claimed.

The claims of a frame, newest first, are those of its scratch and then those of its bindings.
As long as scratch is claimed while evaluating only, and so on top of every binding, they stack
in the two arenas, and the mark of each scratch claim stands for the claims below it
(`Frame.Tidy`). Each operation of a frame keeps this, whether it succeeds or not; so scratch can
always be released, which leaves the bindings alone and brings both arenas back to the level
below the oldest scratch claim.
-/

namespace TensorArena

open Workspace (claimsIn)

/-- The claims of a binding, newest first. -/
def Binding.claims (b : Binding) : List Handle := b.record.toList ++ [b.payload]

/-- The level below scratch claims of a pool in an arena that stands at `level`. -/
def floor (p : Pool) (level : Nat) : List ScratchEntry → Nat
  | [] => level
  | entry :: older => floor p (if entry.handle.pool = p then entry.mark.height else level) older

/-! ### Scratch -/

/-- Scratch claims, newest first, on the claims `bound`: the mark of each stands for the claims
below it and was taken before it, and no older mark of its pool lies above it. -/
inductive Piled (w : Workspace) (grounds : Pool → Top) (bound : List Handle) :
    List ScratchEntry → Prop where
  | nil : Piled w grounds bound []
  | cons {e : ScratchEntry} {older : List ScratchEntry} :
      (w.arena e.handle.pool).RecallsOn (grounds e.handle.pool) e.mark
        (claimsIn e.handle.pool (older.map (·.handle) ++ bound)) →
      e.mark.clock ≤ e.handle.stamp.seq → e.mark.height ≤ e.handle.start →
      (∀ o ∈ older, o.handle.pool = e.handle.pool →
        o.mark.clock ≤ e.mark.clock ∧ o.mark.height ≤ e.mark.height) →
      Piled w grounds bound older → Piled w grounds bound (e :: older)

section Scratch

variable {w v : Workspace} {grounds : Pool → Top} {bound : List Handle}
  {entries : List ScratchEntry}

/-- Scratch stays piled where its marks stay recalled. -/
theorem Piled.imp (piled : Piled w grounds bound entries)
    (recalls : ∀ e ∈ entries, ∀ base,
      (w.arena e.handle.pool).RecallsOn (grounds e.handle.pool) e.mark base →
        (v.arena e.handle.pool).RecallsOn (grounds e.handle.pool) e.mark base) :
    Piled v grounds bound entries := by
  induction piled with
  | nil => exact .nil
  | cons recalled clock height order _ ih =>
    exact .cons (recalls _ List.mem_cons_self _ recalled) clock height order
      (ih fun o mem => recalls o (List.mem_cons_of_mem _ mem))

/-- The marks of scratch lie at or below the present state of their arena. -/
theorem Piled.mark_le (piled : Piled w grounds bound entries) :
    ∀ e ∈ entries, e.mark.clock ≤ (w.arena e.handle.pool).clock ∧
      e.mark.height ≤ (w.arena e.handle.pool).highWater := by
  induction piled with
  | nil => simp
  | cons recalled _ _ _ _ ih =>
    intro o mem
    rcases List.mem_cons.mp mem with rfl | older
    · exact ⟨recalled.clock, recalled.height⟩
    · exact ih o older

/-- A claim goes on top of the pile, with the mark of the state before it. -/
theorem Piled.claim {pool : Pool} {size align : Nat} {h : Handle}
    (piled : Piled w grounds bound entries)
    (stacked : w.StacksOn grounds (entries.map (·.handle) ++ bound))
    (claimed : w.allocate pool size align = (.ok h, v)) :
    Piled v grounds bound (⟨(w.arena pool).mark, h⟩ :: entries) := by
  obtain ⟨done, rfl, same⟩ := Workspace.allocate_ok claimed
  have sound := (stacked h.pool).sound
  have continues := Arena.allocate_continues done
  obtain ⟨-, -, height, above, -⟩ := Arena.allocate_range sound.words done
  have level : (w.arena h.pool).mark.height ≤ h.start := sound.height_mark ▸ above
  have higher : (w.arena h.pool).highWater ≤ (v.arena h.pool).highWater := by
    rw [height]
    exact Nat.le_trans above (Nat.le_add_right _ _)
  refine .cons ?_ ?_ level (fun o mem here => ?_) (piled.imp fun o mem base recalls => ?_)
  · refine (stacked h.pool).recalls_mark.of_continues continues (by simp) ?_
    exact sound.height_mark ▸ higher
  · obtain ⟨-, -, new, -⟩ := Arena.allocate_ok done
    exact Nat.le_of_eq (congrArg (fun h => h.stamp.seq) new).symm
  · obtain ⟨clock, below⟩ := piled.mark_le o mem
    exact ⟨here ▸ clock, sound.height_mark ▸ here ▸ below⟩
  · by_cases here : o.handle.pool = h.pool
    · rw [here] at recalls ⊢
      exact recalls.of_continues continues (by simp) (Nat.le_trans recalls.height higher)
    · rw [same _ here]
      exact recalls

/-- **Releasing scratch** succeeds. It leaves the bound claims, moves no byte, and brings each
arena to the level below its oldest scratch claim. -/
theorem Piled.releaseScratch (piled : Piled w grounds bound entries)
    (stacked : w.StacksOn grounds (entries.map (·.handle) ++ bound)) :
    ∃ v, w.releaseScratch entries = (none, v) ∧ v.StacksOn grounds bound ∧
      (∀ p, (v.arena p).highWater = floor p (w.arena p).highWater entries) ∧
      ∀ k, v.view k = w.view k := by
  induction entries generalizing w with
  | nil => exact ⟨w, rfl, stacked, fun _ => rfl, fun _ => rfl⟩
  | cons e older ih =>
    cases piled with
    | cons recalled clock height order piled =>
      obtain ⟨u, released, popped, level, same, continues, views⟩ :=
        (show w.StacksOn grounds (e.handle :: (older.map (·.handle) ++ bound)) from stacked).release
      have recalled : (u.arena e.handle.pool).RecallsOn (grounds e.handle.pool) e.mark
          (claimsIn e.handle.pool (older.map (·.handle) ++ bound)) :=
        recalled.of_continues continues (by simpa using clock) (level ▸ height)
      obtain ⟨x, unwound, left, bottom, still, again, shown⟩ := popped.unwind recalled
      have piled : Piled x grounds bound older := by
        refine piled.imp fun o mem base recalls => ?_
        by_cases here : o.handle.pool = e.handle.pool
        · obtain ⟨before, below⟩ := order o mem here
          rw [here] at recalls ⊢
          refine recalls.of_continues (continues.trans again) ?_ (bottom ▸ below)
          simpa using ⟨before, Nat.le_trans before clock⟩
        · rw [still _ here, same _ here]
          exact recalls
      obtain ⟨v, done, stands, levels, all⟩ := ih piled left
      refine ⟨v, ?_, stands, fun p => ?_, fun k => ?_⟩
      · simp only [Workspace.releaseScratch, released, unwound, done]
      · rw [levels, floor]
        split
        · rename_i here
          subst here
          rw [bottom]
        · rename_i here
          rw [still _ (Ne.symm here), same _ (Ne.symm here)]
      · rw [all, shown, views]

/-- The level below scratch is not above the arena. -/
theorem Piled.floor_le {p : Pool} {level : Nat} (piled : Piled w grounds bound entries)
    (below : ∀ e ∈ entries, e.handle.pool = p → e.mark.height ≤ level) :
    floor p level entries ≤ level := by
  induction piled generalizing level with
  | nil => exact Nat.le_refl _
  | @cons e older _ _ _ order _ ih =>
    rw [floor]
    split
    · rename_i here
      refine Nat.le_trans (ih fun o mem same => ?_) (below e List.mem_cons_self here)
      exact (order o mem (same.trans here.symm)).2
    · exact ih fun o mem => below o (List.mem_cons_of_mem _ mem)

theorem Workspace.capacity_releaseScratch (w : Workspace) (entries : List ScratchEntry)
    (p : Pool) : ((w.releaseScratch entries).2.arena p).capacity = (w.arena p).capacity := by
  induction entries generalizing w with
  | nil => rfl
  | cons entry older ih =>
    have earlier := ih ((w.release entry.handle).2.perform entry.handle.pool
      (.unwindTo entry.mark)).2
    rw [capacity_perform, release, capacity_perform] at earlier
    rw [← earlier]
    simp only [releaseScratch]
    split <;> rfl

end Scratch

/-! ### Frames -/

namespace Frame

/-- The claims of the bindings, newest first. -/
def bound (f : Frame) : List Handle := f.bindings.entries.reverse.flatMap (·.2.claims)

/-- All claims, newest first. -/
def claims (f : Frame) : List Handle := f.scratch.map (·.handle) ++ f.bound

/-- The claims of the frame stack in its arenas, on top of `grounds`, and what scratch there is
was claimed while evaluating. -/
structure Tidy (grounds : Pool → Top) (f : Frame) : Prop where
  stacked : f.workspace.StacksOn grounds f.claims
  piled : Piled f.workspace grounds f.bound f.scratch
  phase : f.scratch ≠ [] → f.phase = .evaluating

variable {f : Frame} {grounds : Pool → Top} {name : String} {b : Binding}

/-- A frame at the start of a run is tidy on the tops that its arenas have then. -/
theorem Tidy.start {w : Workspace} (sound : ∀ p, (w.arena p).Sound) (inputs outputs : Table Bytes) :
    (Frame.start w inputs outputs).Tidy fun p => (w.arena p).top where
  stacked := Workspace.stacksOn_of_sound sound
  piled := .nil
  phase := by simp [Frame.start]

/-! #### Names and their claims -/

theorem mem_bound (found : f.bindings.get? name = some b) : ∀ h ∈ b.claims, h ∈ f.bound := by
  intro h mem
  refine List.mem_flatMap.mpr ⟨(name, b), ?_, mem⟩
  exact List.mem_reverse.mpr (Table.mem_of_lookup found)

/-- A binding under a new name has the newest claims. -/
theorem bound_insert {w : Workspace} {peak : PerPool Nat} (new : f.bindings.get? name = none) :
    bound { f with workspace := w, bindings := f.bindings.insert name b, peak } =
      b.claims ++ f.bound := by
  simp only [bound, Table.insert]
  rw [Table.put_of_lookup_eq_none new]
  simp

theorem lookup_ok_iff : f.lookup name = .ok b ↔ f.bindings.get? name = some b := by
  unfold lookup
  split <;> rename_i found <;> simp [found]

/-- The claim that a region names: the payload of a binding, or the claim at its place on the
pile. -/
def named (f : Frame) : Region → Option Handle
  | .binding name => (f.bindings.get? name).map (·.payload)
  | .scratch id => (f.scratch.map (·.handle)).reverse[id.index]?

theorem toOption_resolve (f : Frame) (r : Region) : (f.resolve r).toOption = f.named r := by
  cases r with
  | binding name =>
    simp only [resolve, lookup, named]
    cases f.bindings.get? name <;> rfl
  | scratch id =>
    simp only [resolve, lookupScratch, named]
    rw [← List.map_reverse, List.getElem?_map]
    cases f.scratch.reverse[id.index]? <;> rfl

theorem resolve_ok_iff {r : Region} {h : Handle} : f.resolve r = .ok h ↔ f.named r = some h := by
  rw [← toOption_resolve]
  cases f.resolve r <;> simp [Except.toOption]

/-- A region is not refused for lack of space. -/
theorem resolve_error {r : Region} {fault : Fault} (refused : f.resolve r = .error fault) :
    fault.outOfSpace? = none := by
  cases r with
  | binding name =>
    simp only [resolve, lookup] at refused
    split at refused
    · rename_i missing
      split at missing <;> cases missing
      cases refused
      rfl
    · cases refused
  | scratch id =>
    simp only [resolve, lookupScratch] at refused
    split at refused
    · cases refused
      rfl
    · cases refused

/-- What a region names is claimed. -/
theorem named_mem {r : Region} {h : Handle} (found : f.named r = some h) : h ∈ f.claims := by
  cases r with
  | binding name =>
    obtain ⟨b, there, rfl⟩ := Option.map_eq_some_iff.mp found
    exact List.mem_append_right _ (mem_bound there _ (by simp [Binding.claims]))
  | scratch id =>
    exact List.mem_append_left _ (List.mem_reverse.mp (List.mem_of_getElem? found))

/-! #### No claim has two names -/

/-- Bindings under different names share no claim. -/
theorem Tidy.name_eq {other : String} {c : Binding} {h : Handle} (tidy : f.Tidy grounds)
    (first : f.bindings.get? name = some b) (second : f.bindings.get? other = some c)
    (ofFirst : h ∈ b.claims) (ofSecond : h ∈ c.claims) : name = other := by
  obtain ⟨-, bound, -⟩ := List.nodup_append.mp tidy.stacked.nodup
  have symmetric : Std.Symm (Function.onFun List.Disjoint
      fun entry : String × Binding => entry.2.claims) :=
    ⟨fun _ _ apart _ mine yours => apart yours mine⟩
  by_cases same : (name, b) = (other, c)
  · exact congrArg Prod.fst same
  · have inTable := List.mem_reverse.mpr (Table.mem_of_lookup first)
    have alsoThere := List.mem_reverse.mpr (Table.mem_of_lookup second)
    have apart := (List.nodup_flatMap.mp bound).2.forall inTable alsoThere same
    exact absurd ofSecond (apart ofFirst)

/-- The record of a binding is not its payload. -/
theorem Tidy.record_ne_payload {record : Handle} (tidy : f.Tidy grounds)
    (found : f.bindings.get? name = some b) (recorded : b.record = some record) :
    record ≠ b.payload := by
  obtain ⟨-, bound, -⟩ := List.nodup_append.mp tidy.stacked.nodup
  have both := (List.nodup_flatMap.mp bound).1 _ (List.mem_reverse.mpr (Table.mem_of_lookup found))
  simpa [Binding.claims, recorded] using both

/-- Scratch is not bound. -/
theorem Tidy.not_mem_bound {index : Nat} {h : Handle} (tidy : f.Tidy grounds)
    (there : (f.scratch.map (·.handle)).reverse[index]? = some h) : h ∉ f.bound := by
  obtain ⟨-, -, apart⟩ := List.nodup_append.mp tidy.stacked.nodup
  intro mem
  exact apart h (List.mem_reverse.mp (List.mem_of_getElem? there)) h mem rfl

/-- Regions that differ name claims that differ. -/
theorem Tidy.named_ne {r q : Region} {h k : Handle} (tidy : f.Tidy grounds) (other : r ≠ q)
    (first : f.named r = some h) (second : f.named q = some k) : h ≠ k := by
  have ofPayload : ∀ b : Binding, b.payload ∈ b.claims := fun b => by simp [Binding.claims]
  rintro rfl
  cases r with
  | binding name =>
    obtain ⟨b, there, rfl⟩ := Option.map_eq_some_iff.mp first
    cases q with
    | binding name' =>
      obtain ⟨c, alsoThere, same⟩ := Option.map_eq_some_iff.mp second
      exact other (congrArg Region.binding
        (tidy.name_eq there alsoThere (ofPayload b) (same ▸ ofPayload c)))
    | scratch id => exact tidy.not_mem_bound second (mem_bound there _ (ofPayload b))
  | scratch id =>
    cases q with
    | binding name =>
      obtain ⟨c, there, rfl⟩ := Option.map_eq_some_iff.mp second
      exact tidy.not_mem_bound first (mem_bound there _ (ofPayload c))
    | scratch id' =>
      have within := (List.getElem?_eq_some_iff.mp first).1
      have nodup := (List.nodup_append.mp tidy.stacked.nodup).1
      have same := (List.getElem?_inj within (List.nodup_reverse.mpr nodup)).mp
        (first.trans second.symm)
      exact other (congrArg (fun index => Region.scratch ⟨index⟩) same)

/-- No region names the record of a binding. -/
theorem Tidy.named_ne_record {r : Region} {h record : Handle} (tidy : f.Tidy grounds)
    (found : f.bindings.get? name = some b) (recorded : b.record = some record)
    (claim : f.named r = some h) : h ≠ record := by
  have ofRecord : record ∈ b.claims := by simp [Binding.claims, recorded]
  rintro rfl
  cases r with
  | binding name' =>
    obtain ⟨c, there, same⟩ := Option.map_eq_some_iff.mp claim
    obtain rfl := tidy.name_eq found there ofRecord (by simp [Binding.claims, same])
    obtain rfl := Option.some.inj (found.symm.trans there)
    exact tidy.record_ne_payload found recorded same.symm
  | scratch id => exact tidy.not_mem_bound claim (mem_bound found _ ofRecord)

/-! #### Binding -/

theorem checkBindable_ok_iff :
    f.checkBindable name = .ok () ↔ f.phase = .declaring ∧ f.bindings.get? name = none := by
  unfold checkBindable Table.contains
  split
  · rename_i late
    simp [late]
  · rename_i declaring
    split
    · rename_i taken
      simp only [reduceCtorEq, false_iff, not_and]
      rintro - new
      simp [new] at taken
    · rename_i new
      simp only [Decidable.not_not, Bool.not_eq_true, Option.isSome_eq_false_iff,
        Option.isNone_iff_eq_none] at declaring new
      simp [declaring, new]

/-- A name is not refused by an arena. -/
theorem checkBindable_error {fault : Fault} {cause : Arena.Fault}
    (refused : f.checkBindable name = .error fault) : fault ≠ .arena cause := by
  rintro rfl
  unfold checkBindable at refused
  split at refused
  · cases refused
  · split at refused <;> cases refused

/-- What binding raw bytes answers and leaves: it is refused and changes nothing, or claims its
payload and puts it under the name. -/
inductive Bind (f : Frame) (name : String) (pool : Pool) (size align : Nat) :
    Except Fault Unit × Frame → Prop where
  | refused {fault : Fault} : (∀ cause, fault = .arena cause →
      f.workspace.allocate pool size align = (.error cause, f.workspace)) →
      Bind f name pool size align (.error fault, f)
  | bound {payload : Handle} {v : Workspace} : f.phase = .declaring →
      f.bindings.get? name = none →
      f.workspace.allocate pool size align = (.ok payload, v) →
      Bind f name pool size align (.ok (), noteUsage
        { f with workspace := v, bindings := f.bindings.insert name ⟨payload, none⟩ })

theorem bind_outcome (f : Frame) (name : String) (pool : Pool) (size align : Nat) :
    Bind f name pool size align (f.bind name pool size align) := by
  unfold bind
  cases checked : f.checkBindable name with
  | error fault => exact .refused fun cause same => absurd same (checkBindable_error checked)
  | ok =>
    obtain ⟨declaring, new⟩ := checkBindable_ok_iff.mp checked
    rcases claimed : f.workspace.allocate pool size align with ⟨fault | payload, v⟩
    · obtain rfl := Workspace.allocate_error claimed
      refine .refused fun cause same => ?_
      cases same
      exact claimed
    · exact .bound declaring new claimed

theorem Tidy.scratch_eq_nil (tidy : f.Tidy grounds) (declaring : f.phase = .declaring) :
    f.scratch = [] := by
  by_cases some : f.scratch = []
  · exact some
  · rw [tidy.phase some] at declaring
    cases declaring

/-- A frame without scratch is tidy with more bindings if their claims stack. -/
theorem Tidy.insert {w : Workspace} {peak : PerPool Nat} (tidy : f.Tidy grounds)
    (declaring : f.phase = .declaring) (new : f.bindings.get? name = none)
    (stacked : w.StacksOn grounds (b.claims ++ f.claims)) :
    Tidy grounds { f with workspace := w, bindings := f.bindings.insert name b, peak } := by
  have none := tidy.scratch_eq_nil declaring
  have all : f.claims = f.bound := by simp [claims, none]
  refine ⟨?_, ?_, fun some => absurd none some⟩
  · rw [claims, bound_insert new, none]
    exact all ▸ stacked
  · rw [none]
    exact .nil

/-- Nothing that a frame uses its arenas for depends on the usage that it noted. -/
theorem Tidy.withWorkspace {w : Workspace} {peak : PerPool Nat} (tidy : f.Tidy grounds)
    (stacked : w.StacksOn grounds f.claims) (piled : Piled w grounds f.bound f.scratch) :
    Tidy grounds { f with workspace := w, peak } := ⟨stacked, piled, tidy.phase⟩

theorem Tidy.bind (tidy : f.Tidy grounds) (name : String) (pool : Pool) (size align : Nat) :
    (f.bind name pool size align).2.Tidy grounds := by
  have outcome := f.bind_outcome name pool size align
  generalize f.bind name pool size align = result at outcome
  cases outcome with
  | refused => exact tidy
  | bound declaring new claimed =>
    exact tidy.insert declaring new (tidy.stacked.allocate claimed).1

/-- A tensor can be bound if its rank fits a record and its payload has a length. -/
theorem payloadLength_ok_iff {d : Tensor.Descriptor} {length : Nat} :
    payloadLength d = .ok length ↔
      d.shape.length ≤ Tensor.maxRank ∧ d.byteLength = .ok length := by
  unfold payloadLength
  split
  · rename_i large
    simp [Nat.not_le.mpr large]
  · rename_i fits
    simp [Nat.le_of_not_lt fits]

/-- Writing the record of a live claim of its size succeeds, and the claim then shows it. -/
theorem writeRecord_ok {live : List Handle} {record : Handle} {d : Tensor.Descriptor}
    (stacked : f.workspace.StacksOn grounds live) (mem : record ∈ live)
    (size : record.length = Tensor.Record.size) (fits : d.shape.length ≤ Tensor.maxRank) :
    ∃ x, f.writeRecord d record = (.ok (), { f with workspace := x }) ∧
      f.workspace.Rewrites x ∧ x.view record = d.record ∧
      ∀ k ∈ live, k ≠ record → x.view k = f.workspace.view k := by
  have long : (f.workspace.view record).length = Tensor.Record.size :=
    (stacked.length_view mem).trans size
  have encoded : d.encodeInto (f.workspace.view record) = (.ok (), d.record) := by
    have room : ¬ (f.workspace.view record).length < Tensor.Record.size := by omega
    simp only [Tensor.Descriptor.encodeInto, Nat.not_lt.mpr fits, room, if_false]
    rw [← long, List.drop_length, List.append_nil]
  obtain ⟨x, done, rewrites, shown, others⟩ := stacked.modify mem fun _ => d.record
  refine ⟨x, ?_, rewrites, ?_, others⟩
  · simp only [writeRecord, stacked.bytes mem, encoded, done]
  · rw [shown, Bytes.overlay_of_length_eq]
    rw [long, Tensor.Descriptor.length_record fits]

/-- What binding a tensor answers and leaves, on top of `grounds`: it is refused and changes
nothing; or its record finds no space, and the payload is given back; or payload and record are
claimed, and the record is written. -/
inductive BindTensor (grounds : Pool → Top) (f : Frame) (name : String) (d : Tensor.Descriptor) :
    Except Fault Unit × Frame → Prop where
  | refused {fault : Fault} : (∀ cause, fault = .arena cause → ∃ length,
      payloadLength d = .ok length ∧
        f.workspace.allocate .ram length d.dtype.align = (.error cause, f.workspace)) →
      BindTensor grounds f name d (.error fault, f)
  | unrecorded {length : Nat} {payload : Handle} {v u : Workspace} {cause : Arena.Fault}
      {peak : PerPool Nat} :
      f.phase = .declaring → payloadLength d = .ok length →
      f.workspace.allocate .ram length d.dtype.align = (.ok payload, v) →
      v.allocate .metadata Tensor.Record.size Tensor.Record.align = (.error cause, v) →
      u.StacksOn grounds f.claims → (∀ k, u.view k = f.workspace.view k) →
      BindTensor grounds f name d (.error (.arena cause), { f with workspace := u, peak })
  | bound {length : Nat} {payload record : Handle} {v u x : Workspace} :
      f.phase = .declaring → f.bindings.get? name = none → payloadLength d = .ok length →
      f.workspace.allocate .ram length d.dtype.align = (.ok payload, v) →
      v.allocate .metadata Tensor.Record.size Tensor.Record.align = (.ok record, u) →
      u.Rewrites x → x.view record = { d with offset := payload.offset }.record →
      (∀ k ∈ payload :: f.claims, x.view k = f.workspace.view k) →
      BindTensor grounds f name d (.ok (), noteUsage
        { f with workspace := x, bindings := f.bindings.insert name ⟨payload, some record⟩ })

theorem Tidy.bindTensor_outcome (tidy : f.Tidy grounds) (name : String) (d : Tensor.Descriptor) :
    BindTensor grounds f name d (f.bindTensor name d) := by
  unfold Frame.bindTensor
  cases checked : f.checkBindable name with
  | error fault => exact .refused fun cause same => absurd same (checkBindable_error checked)
  | ok =>
    obtain ⟨declaring, new⟩ := checkBindable_ok_iff.mp checked
    cases measured : payloadLength d with
    | error fault => exact .refused fun cause same => by cases same
    | ok length =>
      dsimp only
      rcases claimed : f.workspace.allocate .ram length d.dtype.align with ⟨fault | payload, v⟩
      · obtain rfl := Workspace.allocate_error claimed
        refine .refused fun cause same => ⟨length, measured, ?_⟩
        cases same
        exact claimed
      · obtain ⟨stacked, -, -, -, views⟩ := tidy.stacked.allocate claimed
        dsimp only
        rcases recorded : v.allocate .metadata Tensor.Record.size Tensor.Record.align with
          ⟨fault | record, u⟩
        · obtain rfl := Workspace.allocate_error recorded
          obtain ⟨x, released, stays, -, -, -, shown⟩ := stacked.release
          simp only [noteUsage, released]
          exact .unrecorded declaring measured claimed recorded stays
            fun k => (shown k).trans (views k)
        · obtain ⟨stands, -, size, -, shown⟩ := stacked.allocate recorded
          obtain ⟨x, written, rewrites, shows, others⟩ :=
            writeRecord_ok (f := { f with workspace := u })
              (d := { d with offset := payload.offset }) stands List.mem_cons_self size
              (payloadLength_ok_iff.mp measured).1
          simp only [written]
          refine .bound declaring new measured claimed recorded rewrites shows fun k mem => ?_
          have other : k ≠ record := by
            rintro rfl
            exact (List.nodup_cons.mp stands.nodup).1 mem
          rw [others k (List.mem_cons_of_mem _ mem) other, shown, views]

theorem Tidy.bindTensor (tidy : f.Tidy grounds) (name : String) (d : Tensor.Descriptor) :
    (f.bindTensor name d).2.Tidy grounds := by
  have outcome := tidy.bindTensor_outcome name d
  generalize f.bindTensor name d = result at outcome
  cases outcome with
  | refused => exact tidy
  | unrecorded declaring _ _ _ stays _ =>
    refine tidy.withWorkspace stays ?_
    rw [tidy.scratch_eq_nil declaring]
    exact .nil
  | bound declaring new _ claimed recorded rewrites _ _ =>
    have stacked := ((tidy.stacked.allocate claimed).1.allocate recorded).1
    exact tidy.insert declaring new (rewrites.stacksOn stacked)

/-! #### Claiming and releasing scratch -/

/-- What claiming scratch answers and leaves: it is refused and changes nothing, or puts its
claim on top of the stack, with the mark of the state before it. -/
inductive ClaimScratch (f : Frame) (pool : Pool) (size align : Nat) :
    Except Fault ScratchId × Frame → Prop where
  | refused {cause : Arena.Fault} :
      f.workspace.allocate pool size align = (.error cause, f.workspace) →
      ClaimScratch f pool size align (.error (.arena cause), f)
  | claimed {h : Handle} {v : Workspace} :
      f.workspace.allocate pool size align = (.ok h, v) →
      ClaimScratch f pool size align (.ok ⟨f.scratch.length⟩, noteUsage
        { f with workspace := v, scratch := ⟨(f.workspace.arena pool).mark, h⟩ :: f.scratch })

theorem claimScratch_outcome (f : Frame) (pool : Pool) (size align : Nat) :
    ClaimScratch f pool size align (f.claimScratch pool size align) := by
  unfold claimScratch
  rcases claimed : f.workspace.allocate pool size align with ⟨fault | h, v⟩
  · obtain rfl := Workspace.allocate_error claimed
    exact .refused claimed
  · exact .claimed claimed

theorem Tidy.claimScratch (tidy : f.Tidy grounds) (evaluating : f.phase = .evaluating)
    (pool : Pool) (size align : Nat) : (f.claimScratch pool size align).2.Tidy grounds := by
  have outcome := f.claimScratch_outcome pool size align
  generalize f.claimScratch pool size align = result at outcome
  cases outcome with
  | refused => exact tidy
  | @claimed h v claimed =>
    exact ⟨(tidy.stacked.allocate claimed).1, tidy.piled.claim tidy.stacked claimed,
      fun _ => evaluating⟩

/-- **Releasing scratch** succeeds, and leaves the bindings. -/
theorem Tidy.releaseScratch_ok (tidy : f.Tidy grounds) :
    ∃ v, f.releaseScratch = (.ok (), { f with workspace := v, scratch := [] }) ∧
      v.StacksOn grounds f.bound ∧
      (∀ p, (v.arena p).highWater = floor p (f.workspace.arena p).highWater f.scratch ∧
        (v.arena p).capacity = (f.workspace.arena p).capacity) ∧
      ∀ k, v.view k = f.workspace.view k := by
  obtain ⟨v, done, stacked, levels, views⟩ := tidy.piled.releaseScratch tidy.stacked
  have capacity := Workspace.capacity_releaseScratch f.workspace f.scratch
  rw [done] at capacity
  refine ⟨v, ?_, stacked, fun p => ⟨levels p, capacity p⟩, views⟩
  simp only [Frame.releaseScratch, done]

theorem Tidy.releaseScratch (tidy : f.Tidy grounds) : f.releaseScratch.2.Tidy grounds := by
  obtain ⟨v, done, stacked, -, -⟩ := tidy.releaseScratch_ok
  rw [done]
  exact ⟨stacked, .nil, fun some => absurd rfl some⟩

/-! #### Reading and writing -/

/-- The bytes of a region. -/
def read (f : Frame) : Region → Except Fault Bytes
  | .binding name => f.binding name
  | .scratch id => f.scratchBytes id

/-- Change the bytes of a region. Answers the bytes before the change. -/
def write (f : Frame) (r : Region) (change : Bytes → Bytes) : Except Fault Bytes × Frame :=
  match r with
  | .binding name => f.modifyBinding name change
  | .scratch id => f.modifyScratch id change

section Regions

variable {r q : Region} {h k : Handle} {fault : Fault}

/-- A region is read through the claim that it names. -/
theorem read_eq (f : Frame) (r : Region) : f.read r = match f.resolve r with
    | .error fault => .error fault
    | .ok h => (f.workspace.bytes h).mapError .arena := by
  cases r with
  | binding name =>
    simp only [read, binding, resolve]
    cases f.lookup name <;> rfl
  | scratch id => rfl

/-- A region is written through the claim that it names. -/
theorem write_eq (f : Frame) (r : Region) (change : Bytes → Bytes) :
    f.write r change = match f.resolve r with
      | .error fault => (.error fault, f)
      | .ok h => f.modifyHandle h change := by
  cases r with
  | binding name =>
    simp only [write, modifyBinding, resolve]
    cases f.lookup name <;> rfl
  | scratch id => rfl

/-- What a region names is read. -/
theorem Tidy.read_ok (tidy : f.Tidy grounds) (claim : f.named r = some h) :
    f.read r = .ok (f.workspace.view h) := by
  rw [read_eq, resolve_ok_iff.mpr claim]
  simp only [tidy.stacked.bytes (named_mem claim)]
  rfl

/-- Regions are read as the claims that they name show. -/
theorem Tidy.toOption_read (tidy : f.Tidy grounds) (r : Region) :
    (f.read r).toOption = (f.named r).map f.workspace.view := by
  cases found : f.resolve r with
  | error fault =>
    rw [read_eq, ← toOption_resolve, found]
    rfl
  | ok h =>
    have claim := resolve_ok_iff.mp found
    rw [tidy.read_ok claim, claim]
    rfl

/-- Reading is not refused for lack of space. -/
theorem Tidy.read_error (tidy : f.Tidy grounds) (refused : f.read r = .error fault) :
    fault.outOfSpace? = none := by
  cases found : f.resolve r with
  | error cause =>
    rw [read_eq, found] at refused
    exact Except.error.inj refused ▸ resolve_error found
  | ok h =>
    rw [tidy.read_ok (resolve_ok_iff.mp found)] at refused
    cases refused

/-- What a region names is written, and no other claim shows it. -/
theorem Tidy.write_ok (tidy : f.Tidy grounds) (claim : f.named r = some h)
    (change : Bytes → Bytes) :
    ∃ v, f.write r change = (.ok (f.workspace.view h), { f with workspace := v }) ∧
      f.workspace.Rewrites v ∧
      v.view h = Bytes.overlay (change (f.workspace.view h)) (f.workspace.view h) ∧
      ∀ k ∈ f.claims, k ≠ h → v.view k = f.workspace.view k := by
  obtain ⟨v, done, rewrites, shown, others⟩ := tidy.stacked.modify (named_mem claim) change
  refine ⟨v, ?_, rewrites, shown, others⟩
  rw [write_eq, resolve_ok_iff.mpr claim]
  simp only [modifyHandle, done]
  rfl

/-- Writing a region is refused, which changes nothing, or the region names a claim. -/
theorem write_cases (f : Frame) (r : Region) (change : Bytes → Bytes) :
    (∃ fault, fault.outOfSpace? = none ∧ f.write r change = (.error fault, f)) ∨
      ∃ h, f.named r = some h := by
  cases found : f.resolve r with
  | error fault =>
    refine .inl ⟨fault, resolve_error found, ?_⟩
    rw [write_eq, found]
  | ok h => exact .inr ⟨h, resolve_ok_iff.mp found⟩

/-- What two regions name is written if it does not overlap, each its own range, and no other
claim shows it. -/
theorem Tidy.modifyPair_ok (tidy : f.Tidy grounds) (first : f.named r = some h)
    (second : f.named q = some k) (free : h.pool = k.pool → h.overlaps k = false)
    (change : Bytes → Bytes → Bytes × Bytes) :
    ∃ v, f.modifyPair r q change =
        (.ok (f.workspace.view h, f.workspace.view k), { f with workspace := v }) ∧
      f.workspace.Rewrites v ∧
      v.view k = Bytes.overlay (change (f.workspace.view h) (f.workspace.view k)).2
        (f.workspace.view k) ∧
      v.view h = Bytes.overlay (change (f.workspace.view h) (f.workspace.view k)).1
        (f.workspace.view h) ∧
      ∀ l ∈ f.claims, l ≠ h → l ≠ k → v.view l = f.workspace.view l := by
  obtain ⟨v, done, rewrites, shownSecond, shownFirst, others⟩ :=
    tidy.stacked.modifyPair (named_mem first) (named_mem second) free change
  refine ⟨v, ?_, rewrites, shownSecond, shownFirst, others⟩
  simp only [Frame.modifyPair, resolve_ok_iff.mpr first, resolve_ok_iff.mpr second, done]
  rfl

/-- Writing two regions is refused, which changes nothing, or the regions name claims that do not
overlap in one pool. -/
theorem Tidy.modifyPair_cases (tidy : f.Tidy grounds) (r q : Region)
    (change : Bytes → Bytes → Bytes × Bytes) :
    (∃ fault, fault.outOfSpace? = none ∧ f.modifyPair r q change = (.error fault, f)) ∨
      ∃ h k, f.named r = some h ∧ f.named q = some k ∧
        (h.pool = k.pool → h.overlaps k = false) := by
  cases first : f.resolve r with
  | error fault =>
    refine .inl ⟨fault, resolve_error first, ?_⟩
    simp only [Frame.modifyPair, first]
  | ok h =>
    cases second : f.resolve q with
    | error fault =>
      refine .inl ⟨fault, resolve_error second, ?_⟩
      simp only [Frame.modifyPair, first, second]
    | ok k =>
      have mine := resolve_ok_iff.mp first
      have yours := resolve_ok_iff.mp second
      by_cases same : h = k
      · subst same
        cases overlapping : h.overlaps h with
        | true =>
          refine .inl ⟨.arena (.overlap h.pool), rfl, ?_⟩
          simp only [Frame.modifyPair, first, second,
            tidy.stacked.modifyPair_overlap (named_mem mine) overlapping]
          rfl
        | false => exact .inr ⟨h, h, mine, yours, fun _ => overlapping⟩
      · exact .inr ⟨h, k, mine, yours,
          tidy.stacked.overlaps_of_ne (named_mem mine) (named_mem yours) same⟩

end Regions

/-! #### The caller's tensors -/

/-- Loading is refused, which changes nothing, or writes the input over a binding of its size. -/
theorem Tidy.load_cases (tidy : f.Tidy grounds) (input name : String) :
    (∃ fault, fault.outOfSpace? = none ∧ f.load input name = (.error fault, f)) ∨
      ∃ source h, f.input input = .ok source ∧ f.named (.binding name) = some h ∧
        source.length = (f.workspace.view h).length ∧
        f.load input name = (.ok (), (f.write (.binding name) fun _ => source).2) := by
  unfold load
  split
  · rename_i fault missing
    refine .inl ⟨fault, ?_, rfl⟩
    unfold Frame.input at missing
    split at missing <;> cases missing
    rfl
  · rename_i source found
    have read := tidy.toOption_read (.binding name)
    split
    · rename_i fault refused
      exact .inl ⟨fault, tidy.read_error (r := .binding name) refused, rfl⟩
    · rename_i target there
      split
      · exact .inl ⟨_, rfl, rfl⟩
      · rename_i same
        rw [show f.read (.binding name) = .ok target from there] at read
        obtain ⟨h, claim, rfl⟩ := Option.map_eq_some_iff.mp read.symm
        exact .inr ⟨source, h, found, claim, (Decidable.not_not.mp same).symm, rfl⟩

/-- Storing is refused, which changes nothing, or changes an output. -/
theorem Tidy.store_cases (tidy : f.Tidy grounds) (name output : String) :
    (∃ fault, fault.outOfSpace? = none ∧ f.store name output = (.error fault, f)) ∨
      ∃ outputs, f.store name output = (.ok (), { f with outputs }) := by
  unfold store
  split
  · rename_i fault refused
    exact .inl ⟨fault, tidy.read_error (r := .binding name) refused, rfl⟩
  · split
    · exact .inl ⟨_, rfl, rfl⟩
    · rename_i target found
      split
      · exact .inl ⟨_, rfl, rfl⟩
      · simp only [modifyOutput, found]
        exact .inr ⟨_, rfl⟩

/-- A descriptor is not refused for lack of space. -/
theorem Tidy.descriptor_error {fault : Fault} (tidy : f.Tidy grounds)
    (refused : f.descriptor name = .error fault) : fault.outOfSpace? = none := by
  unfold descriptor at refused
  split at refused
  · rename_i cause missing
    cases refused
    unfold lookup at missing
    split at missing <;> cases missing
    rfl
  · cases refused
    rfl
  · rename_i payload record found
    have mem := mem_bound (lookup_ok_iff.mp found) record (by simp [Binding.claims])
    simp only [tidy.stacked.bytes (List.mem_append_right _ mem)] at refused
    cases decoded : Tensor.Descriptor.decode (f.workspace.view record) with
    | error cause =>
      rw [decoded] at refused
      cases refused
      rfl
    | ok d =>
      rw [decoded] at refused
      cases refused

end Frame

end TensorArena
