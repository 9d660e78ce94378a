import TensorArena.Proofs.Frame.ScratchIds

/-!
The peak that a frame notes, and the levels that its arenas pass through.

An arena passes through a level at every call that it gets, and a frame notes some of them: those
at which a binding or a scratch claim succeeded, the one at which the record of a tensor found no
space, and those at which the caller asks for it. The noted peak is the highest of these and the
peak before. It misses nothing that the frame does by itself: a claim that succeeds is noted, and
whatever gives bytes back stays below a level that was noted before. It misses the levels of calls
that go to an arena past the frame, unless the level still stands when it is noted next.
-/

namespace TensorArena

/-! ### The highest of levels -/

/-- The highest of levels, zero where there are none. -/
def highest (levels : List Nat) : Nat := levels.foldr max 0

@[simp] theorem highest_nil : highest [] = 0 := rfl

@[simp] theorem highest_cons (level : Nat) (levels : List Nat) :
    highest (level :: levels) = max level (highest levels) := rfl

theorem highest_le_iff {levels : List Nat} {bound : Nat} :
    highest levels ≤ bound ↔ ∀ level ∈ levels, level ≤ bound := by
  induction levels with
  | nil => simp
  | cons level rest ih => rw [highest_cons, Nat.max_le, ih, List.forall_mem_cons]

theorem le_highest {levels : List Nat} {level : Nat} (mem : level ∈ levels) :
    level ≤ highest levels :=
  highest_le_iff.mp (Nat.le_refl _) level mem

@[simp] theorem highest_append (levels more : List Nat) :
    highest (levels ++ more) = max (highest levels) (highest more) := by
  induction levels with
  | nil => simp
  | cons level rest ih => simp [ih, Nat.max_assoc]

theorem highest_mem_cons (level : Nat) (rest : List Nat) :
    highest (level :: rest) ∈ level :: rest := by
  induction rest generalizing level with
  | nil => simp
  | cons next rest ih =>
    rw [highest_cons, List.mem_cons]
    rcases Nat.le_total level (highest (next :: rest)) with le | le
    · rw [Nat.max_eq_right le]
      exact .inr (ih next)
    · exact .inl (Nat.max_eq_left le)

/-! ### Levels of a pair of arenas -/

namespace Workspace

variable {w v : Workspace} {p pool : Pool} {rest : List (Pool × Arena.Call)}

theorem levels_allocate {size align : Nat} {answer : Except Arena.Fault Handle}
    (done : w.allocate pool size align = (answer, v)) :
    w.levels p ((pool, .allocate size align) :: rest) =
      (v.arena p).highWater :: v.levels p rest := by
  have after : (w.perform pool (.allocate size align)).2 = v := congrArg Prod.snd done
  rw [levels, after]

theorem performAll_allocate {size align : Nat} {answer : Except Arena.Fault Handle}
    (done : w.allocate pool size align = (answer, v)) :
    w.performAll ((pool, .allocate size align) :: rest) = v.performAll rest := by
  have after : (w.perform pool (.allocate size align)).2 = v := congrArg Prod.snd done
  rw [performAll, after]

/-- After calls the level is one that they passed through, or none was made. -/
theorem level_performAll (w : Workspace) (calls : List (Pool × Arena.Call)) (p : Pool) :
    ((w.performAll calls).arena p).highWater = (w.arena p).highWater ∨
      ((w.performAll calls).arena p).highWater ∈ w.levels p calls := by
  induction calls generalizing w with
  | nil => exact .inl rfl
  | cons c rest ih =>
    rw [performAll, levels, List.mem_cons]
    exact .inr (ih _)

/-- A claim starts below the level that it brings about. -/
theorem start_le_level {size align : Nat} {h : Handle}
    (claimed : w.allocate pool size align = (.ok h, v)) :
    h.start ≤ (v.arena h.pool).highWater := by
  obtain ⟨done, here, -⟩ := allocate_ok claimed
  obtain ⟨-, -, same, after⟩ := Arena.allocate_ok done
  rw [here, after, same, Handle.start]
  exact Nat.le_trans (by simpa using Nat.mod_le _ _) (Nat.le_add_right _ size)

/-- A release that is refused leaves the level, and another one brings it to the start of the
claim. -/
theorem level_release (w : Workspace) (h : Handle) (p : Pool) :
    ((w.release h).2.arena p).highWater = (w.arena p).highWater ∨
      h.pool = p ∧ ((w.release h).2.arena p).highWater = h.start := by
  by_cases here : p = h.pool
  · subst here
    rw [release, arena_perform_self]
    rcases done : (w.arena h.pool).release h with ⟨_ | _, b⟩
    · exact .inl (congrArg Arena.highWater
        ((congrArg Prod.snd done).trans (Arena.release_error done)))
    · obtain ⟨-, -, rfl⟩ := Arena.release_ok_iff.mp done
      exact .inr ⟨rfl, congrArg (fun done => done.2.highWater) done⟩
  · rw [release, arena_perform_of_ne _ _ here]
    exact .inl rfl

/-- Giving a claim back at once does not raise a level. -/
theorem level_release_claimed {size align : Nat} {h : Handle}
    (claimed : w.allocate pool size align = (.ok h, v)) (p : Pool) :
    ((v.release h).2.arena p).highWater ≤ (v.arena p).highWater := by
  rcases v.level_release h p with kept | ⟨rfl, lowered⟩
  · exact Nat.le_of_eq kept
  · rw [lowered]
    exact start_le_level claimed

/-- Unwinding does not raise a level. -/
theorem level_unwindTo_le (w : Workspace) (pool : Pool) (m : Mark) (p : Pool) :
    ((w.perform pool (.unwindTo m)).2.arena p).highWater ≤ (w.arena p).highWater := by
  by_cases here : p = pool
  · subst here
    rw [arena_perform_self]
    rcases checked : (w.arena p).checkMark m with _ | _
    · exact Nat.le_of_eq (congrArg (fun done => done.2.highWater) (Arena.unwindTo_error checked))
    · have done := Arena.unwindTo_ok_iff.mpr ⟨checked, rfl⟩
      have height := (Arena.checkMark_ok_iff.mp checked).2.2.2
      exact Nat.le_trans (Nat.le_of_eq (congrArg (fun done => done.2.highWater) done)) height
  · exact Nat.le_of_eq (congrArg Arena.highWater (arena_perform_of_ne _ _ here))

/-- Giving scratch back passes through no level above those from which the claims start. -/
theorem levels_scratchCalls_le {entries : List ScratchEntry} {bound : PerPool Nat}
    (starts : ∀ e ∈ entries, e.handle.start ≤ bound.get e.handle.pool) (w : Workspace) (p : Pool) :
    ∀ level ∈ w.levels p (scratchCalls entries),
      level ≤ max (w.arena p).highWater (bound.get p) := by
  induction entries generalizing w with
  | nil => simp [scratchCalls, levels]
  | cons e older ih =>
    obtain ⟨start, others⟩ := List.forall_mem_cons.mp starts
    have released : ((w.release e.handle).2.arena p).highWater ≤
        max (w.arena p).highWater (bound.get p) := by
      rcases w.level_release e.handle p with same | ⟨here, level⟩
      · omega
      · rw [here] at start
        omega
    have unwound := (w.release e.handle).2.level_unwindTo_le e.handle.pool e.mark p
    have asks : scratchCalls (e :: older) = (e.handle.pool, .release e.handle) ::
        (e.handle.pool, .unwindTo e.mark) :: scratchCalls older := rfl
    rw [asks, levels, levels, ← release]
    simp only [List.forall_mem_cons]
    refine ⟨released, Nat.le_trans unwound released, fun level mem => ?_⟩
    have later := ih others ((w.release e.handle).2.perform e.handle.pool (.unwindTo e.mark)).2
      level mem
    omega

end Workspace

namespace Frame

variable {f g : Frame} {p : Pool} {c : Frame.Call}

/-! ### Levels and notes of a call -/

/-- The level of an arena. -/
def level (f : Frame) (p : Pool) : Nat := (f.workspace.arena p).highWater

/-- The levels of an arena after each arena call that a call comes down to. -/
def levels (p : Pool) (f : Frame) (c : Frame.Call) : List Nat :=
  f.workspace.levels p (f.arenaCalls c)

/-- The levels that calls past the frame bring about. -/
def rawLevels (p : Pool) (f : Frame) (c : Frame.Call) : List Nat :=
  if c.isRaw then f.levels p c else []

/-- The levels at which a call notes the usage. Where a tensor's record was asked for it is noted
whatever the answer. -/
def notes (p : Pool) (f : Frame) : Frame.Call → List Nat
  | .bind name pool size align => settled (f.bind name pool size align)
  | .bindTensor name d =>
    match f.arenaCalls (.bindTensor name d) with
    | payload :: record :: _ => [((f.workspace.performAll [payload, record]).arena p).highWater]
    | _ => []
  | .claimScratch pool size align => settled (f.claimScratch pool size align)
  | .noteUsage => [f.level p]
  | _ => []
where
  settled {α : Type} : Except Fault α × Frame → List Nat
    | (.ok _, g) => [g.level p]
    | (.error _, _) => []

/-- Discards lie behind the clocks, and scratch starts at levels that were noted. -/
structure Covered (f : Frame) : Prop where
  behind : ∀ p, (f.workspace.arena p).dead.high ≤ (f.workspace.arena p).clock
  starts : ∀ e ∈ f.scratch, e.handle.start ≤ f.peak.get e.handle.pool

/-- What a call notes of the levels that it passes through. -/
structure Notes (p : Pool) (f : Frame) (c : Frame.Call) : Prop where
  peak : (f.perform c).2.peak.get p = max (f.peak.get p) (highest (f.notes p c))
  among : ∀ noted ∈ f.notes p c, noted = f.level p ∨ noted ∈ f.levels p c
  above : c.isRaw = false →
    ∀ level ∈ f.levels p c, level ≤ max (f.level p) ((f.perform c).2.peak.get p)

theorem get_peak_noteUsage (f : Frame) (p : Pool) :
    f.noteUsage.peak.get p = max (f.peak.get p) (f.level p) := by
  rw [noteUsage, PerPool.larger, PerPool.get_zipWith]
  exact congrArg _ (PerPool.get_map _ _ p)

/-- A call that notes nothing and keeps below what is noted. -/
theorem Notes.silent (peak : (f.perform c).2.peak = f.peak) (none : f.notes p c = [])
    (low : c.isRaw = false → ∀ level ∈ f.levels p c, level ≤ max (f.level p) (f.peak.get p)) :
    Notes p f c where
  peak := by simp [peak, none]
  among := by simp [none]
  above plain := peak ▸ low plain

/-- A call that notes one level, above which it does not go. -/
theorem Notes.once {noted : Nat} (peak : (f.perform c).2.peak.get p = max (f.peak.get p) noted)
    (one : f.notes p c = [noted]) (among : noted = f.level p ∨ noted ∈ f.levels p c)
    (low : ∀ level ∈ f.levels p c, level ≤ max (f.level p) noted) : Notes p f c where
  peak := by simp [peak, one]
  among := by simpa [one] using among
  above _ level mem := by
    have := low level mem
    omega

/-- A call that claims once, and notes the level if the claim succeeds. -/
theorem Notes.claim {pool : Pool} {size align : Nat}
    (asks : f.arenaCalls c = [(pool, .allocate size align)])
    (refused : ∀ fault, f.workspace.allocate pool size align = (.error fault, f.workspace) →
      (f.perform c).2.peak = f.peak ∧ f.notes p c = [])
    (granted : ∀ h v, f.workspace.allocate pool size align = (.ok h, v) →
      (f.perform c).2.peak.get p = max (f.peak.get p) (v.arena p).highWater ∧
        f.notes p c = [(v.arena p).highWater]) : Notes p f c := by
  rcases claimed : f.workspace.allocate pool size align with ⟨fault | h, v⟩
  · obtain rfl := Workspace.allocate_error claimed
    obtain ⟨peak, none⟩ := refused fault claimed
    refine .silent peak none fun _ => ?_
    simp only [levels, asks, Workspace.levels_allocate claimed, Workspace.levels,
      List.forall_mem_singleton]
    exact Nat.le_max_left _ _
  · obtain ⟨peak, one⟩ := granted h v claimed
    have passes : f.levels p c = [(v.arena p).highWater] := by
      simp only [levels, asks, Workspace.levels_allocate claimed, Workspace.levels]
    refine .once peak one (by simp [passes]) ?_
    simpa only [passes, List.forall_mem_singleton] using Nat.le_max_right _ _

theorem notes_bind (f : Frame) (name : String) (pool : Pool) (size align : Nat) (p : Pool) :
    Notes p f (.bind name pool size align) := by
  cases checked : f.checkBindable name with
  | error fault =>
    have refused : f.bind name pool size align = (.error fault, f) := by
      simp only [bind, checked]
    refine .silent ?_ ?_ fun _ => ?_
    · rw [perform, refused]
    · rw [notes, refused, notes.settled]
    · simp [levels, arenaCalls, checked, Workspace.levels]
  | ok =>
    have asks : f.arenaCalls (.bind name pool size align) = [(pool, .allocate size align)] := by
      simp only [arenaCalls, checked]
    refine .claim asks (fun fault claimed => ?_) (fun payload v claimed => ?_)
    · have refused : f.bind name pool size align = (.error (.arena fault), f) := by
        simp only [bind, checked, claimed]
      rw [perform, notes, refused]
      exact ⟨rfl, rfl⟩
    · have bound : f.bind name pool size align = (.ok (), noteUsage { f with
          workspace := v, bindings := f.bindings.insert name ⟨payload, none⟩ }) := by
        simp only [bind, checked, claimed]
      rw [perform, notes, bound]
      exact ⟨get_peak_noteUsage _ p, rfl⟩

theorem notes_claimScratch (f : Frame) (pool : Pool) (size align : Nat) (p : Pool) :
    Notes p f (.claimScratch pool size align) := by
  refine .claim rfl (fun fault claimed => ?_) (fun handle v claimed => ?_)
  · have refused : f.claimScratch pool size align = (.error (.arena fault), f) := by
      simp only [claimScratch, claimed]
    rw [perform, notes, refused]
    exact ⟨rfl, rfl⟩
  · have granted : f.claimScratch pool size align = (.ok ⟨f.scratch.length⟩, noteUsage { f with
        workspace := v, scratch := ⟨(f.workspace.arena pool).mark, handle⟩ :: f.scratch }) := by
      simp only [claimScratch, claimed]
    rw [perform, notes, granted]
    exact ⟨get_peak_noteUsage _ p, rfl⟩

/-! ### Binding a tensor -/

/-- A record that was just claimed can be written: it is live, and has the size of a record. -/
theorem writeRecord_claimed {w : Workspace} {record : Handle} {d : Tensor.Descriptor}
    (behind : (w.arena .metadata).dead.high ≤ (w.arena .metadata).clock)
    (claimed : w.allocate .metadata Tensor.Record.size Tensor.Record.align =
      (.ok record, f.workspace))
    (fits : d.shape.length ≤ Tensor.maxRank) :
    ∃ v, f.writeRecord d record = (.ok (), { f with workspace := v }) ∧
      f.workspace.Rewrites v := by
  obtain ⟨done, -, -⟩ := Workspace.allocate_ok claimed
  obtain ⟨-, room, same, after⟩ := Arena.allocate_ok done
  have pool : record.pool = .metadata := by
    rw [same]
    exact w.pool_arena .metadata
  have length : record.length = Tensor.Record.size := by
    rw [same]
    rfl
  have start : record.start ≤ Arena.roundUp (w.arena .metadata).highWater Tensor.Record.align := by
    rw [same, Handle.start]
    simpa using Nat.mod_le _ _
  have capacity : (f.workspace.arena .metadata).buffer.size = (w.arena .metadata).capacity := by
    rw [after]
    rfl
  have live : (f.workspace.arena .metadata).checkLive record = .ok () := by
    refine Arena.checkLive_ok_iff.mpr ⟨Arena.checkIssued_ok_iff.mpr ?_, ?_⟩
    · rw [same, after]
      exact ⟨rfl, rfl, IssueRange.discards_eq_false_of_lt (Nat.lt_succ_of_le behind)⟩
    · rw [Handle.stop, length, after]
      exact Nat.add_le_add_right start _
  have shown : ((f.workspace.arena .metadata).view record).length = Tensor.Record.size := by
    rw [Arena.view, Buffer.length_view, length]
    rw [capacity, length]
    exact Nat.le_trans (Nat.add_le_add_right start _) room
  have bytes : f.workspace.bytes record = .ok ((f.workspace.arena .metadata).view record) := by
    rw [Workspace.bytes, pool]
    exact Arena.bytes_ok_iff.mpr ⟨live, rfl⟩
  refine ⟨_, ?_, f.workspace.modify_rewrites record fun _ =>
    d.record ++ ((f.workspace.arena .metadata).view record).drop Tensor.Record.size⟩
  simp only [writeRecord, bytes, Tensor.Descriptor.encodeInto, Nat.not_lt.mpr fits, shown,
    Nat.lt_irrefl, if_false]

/-- How far binding a tensor gets: what it asks of the arenas, and what it leaves. Nothing is
asked; or the payload is refused; or the record is refused, and the payload given back; or both
are claimed. -/
inductive TensorAsks (f : Frame) : List (Pool × Arena.Call) → Frame → Prop where
  | nothing : TensorAsks f [] f
  | payload {size align : Nat} {fault : Arena.Fault} :
      f.workspace.allocate .ram size align = (.error fault, f.workspace) →
      TensorAsks f [(.ram, .allocate size align)] f
  | record {size align size' align' : Nat} {payload : Handle} {fault : Arena.Fault}
      {v : Workspace} : f.workspace.allocate .ram size align = (.ok payload, v) →
      v.allocate .metadata size' align' = (.error fault, v) →
      TensorAsks f [(.ram, .allocate size align), (.metadata, .allocate size' align'),
          (payload.pool, .release payload)]
        { f with workspace := (v.release payload).2, peak := f.peak.larger v.usage }
  | both {size align size' align' : Nat} {payload record : Handle} {v u : Workspace}
      {g : Frame} : f.workspace.allocate .ram size align = (.ok payload, v) →
      v.allocate .metadata size' align' = (.ok record, u) → u.Rewrites g.workspace →
      TensorAsks f [(.ram, .allocate size align), (.metadata, .allocate size' align')]
        { g with peak := f.peak.larger g.usage }

theorem tensorAsks (covered : f.Covered) (name : String) (d : Tensor.Descriptor) :
    TensorAsks f (f.arenaCalls (.bindTensor name d)) (f.bindTensor name d).2 := by
  cases checked : f.checkBindable name with
  | error fault =>
    simp only [arenaCalls, bindTensor, checked]
    exact .nothing
  | ok =>
    cases measured : payloadLength d with
    | error fault =>
      simp only [arenaCalls, bindTensor, checked, measured]
      exact .nothing
    | ok length =>
      rcases claimed : f.workspace.allocate .ram length d.dtype.align with ⟨fault | payload, v⟩
      · obtain rfl := Workspace.allocate_error claimed
        simp only [arenaCalls, bindTensor, checked, measured, claimed]
        exact .payload claimed
      · rcases recorded : v.allocate .metadata Tensor.Record.size Tensor.Record.align with
          ⟨fault | record, u⟩
        · have same := Workspace.allocate_error recorded
          subst same
          have asks := TensorAsks.record claimed recorded
          simp only [arenaCalls, bindTensor, checked, measured, claimed, recorded, noteUsage]
          rcases released : u.release payload with ⟨_ | _, x⟩ <;> rw [released] at asks <;>
            exact asks
        · have behind : (v.arena .metadata).dead.high ≤ (v.arena .metadata).clock := by
            obtain ⟨-, -, others⟩ := Workspace.allocate_ok claimed
            rw [others .metadata (by decide)]
            exact covered.behind .metadata
          have fits := (payloadLength_ok_iff.mp measured).1
          let stored : Tensor.Descriptor := { d with offset := payload.offset }
          obtain ⟨x, written, rewrites⟩ : ∃ x, writeRecord { f with workspace := u } stored record =
              (.ok (), { f with workspace := x }) ∧ u.Rewrites x :=
            writeRecord_claimed behind recorded fits
          simp only [arenaCalls, bindTensor, checked, measured, claimed, recorded, stored]
            at written ⊢
          rw [written]
          exact .both (g := { f with
            workspace := x, bindings := f.bindings.insert name ⟨payload, some record⟩ })
            claimed recorded rewrites

theorem notes_bindTensor (covered : f.Covered) (name : String) (d : Tensor.Descriptor) (p : Pool) :
    Notes p f (.bindTensor name d) := by
  have asks := tensorAsks covered name d
  have left : (f.perform (.bindTensor name d)).2 = (f.bindTensor name d).2 := rfl
  rw [← left] at asks
  generalize calls : f.arenaCalls (.bindTensor name d) = asked at asks
  generalize after : (f.perform (.bindTensor name d)).2 = g at asks
  cases asks with
  | nothing =>
    refine .silent (by rw [after]) (by simp only [notes, calls]) fun _ => ?_
    simp [levels, calls, Workspace.levels]
  | payload refused =>
    refine .silent (by rw [after]) (by simp only [notes, calls]) fun _ => ?_
    simp only [levels, calls, Workspace.levels_allocate refused, Workspace.levels,
      List.forall_mem_singleton]
    exact Nat.le_max_left _ _
  | @record size align size' align' payload fault v claimed recorded =>
    have passed : f.levels p (.bindTensor name d) = [(v.arena p).highWater,
        (v.arena p).highWater, ((v.release payload).2.arena p).highWater] := by
      rw [levels, calls, Workspace.levels_allocate claimed, Workspace.levels_allocate recorded]
      rfl
    have lower := Workspace.level_release_claimed claimed p
    have noted : f.notes p (.bindTensor name d) = [(v.arena p).highWater] := by
      simp only [notes, calls]
      rw [Workspace.performAll_allocate claimed, Workspace.performAll_allocate recorded]
      rfl
    refine .once ?_ noted (.inr (by simp [passed])) ?_
    · rw [after]
      exact get_peak_noteUsage { f with workspace := v } p
    · rw [passed]
      simp only [List.forall_mem_cons]
      refine ⟨?_, ?_, ?_, by simp⟩ <;> omega
  | @both size align size' align' payload record v u g claimed recorded rewrites =>
    have passed : f.levels p (.bindTensor name d) = [(v.arena p).highWater,
        (u.arena p).highWater] := by
      rw [levels, calls, Workspace.levels_allocate claimed, Workspace.levels_allocate recorded]
      rfl
    have noted : f.notes p (.bindTensor name d) = [(u.arena p).highWater] := by
      simp only [notes, calls]
      rw [Workspace.performAll_allocate claimed, Workspace.performAll_allocate recorded]
      rfl
    refine .once ?_ noted (.inr (by simp [passed])) ?_
    · rw [after, ← rewrites.highWater p]
      exact get_peak_noteUsage { g with peak := f.peak } p
    · -- Each claim moves the level of its own pool only.
      have between : (v.arena p).highWater = f.level p ∨
          (v.arena p).highWater = (u.arena p).highWater := by
        obtain ⟨-, -, first⟩ := Workspace.allocate_ok claimed
        obtain ⟨-, -, second⟩ := Workspace.allocate_ok recorded
        cases p with
        | metadata => exact .inl (congrArg Arena.highWater (first .metadata (by decide)))
        | ram => exact .inr (congrArg Arena.highWater (second .ram (by decide)).symm)
      rw [passed]
      simp only [List.forall_mem_cons]
      refine ⟨?_, ?_, by simp⟩ <;> omega

/-! ### One call -/

/-- A call that neither claims scratch nor binds nor notes the usage leaves the noted peak. -/
theorem peak_perform_quiet (f : Frame) (c : Frame.Call) (still : c.movesClaims = false)
    (silent : c ≠ .noteUsage) : (f.perform c).2.peak = f.peak := by
  cases c with
  | bind | bindTensor | claimScratch | releaseScratch => cases still
  | noteUsage => exact absurd rfl silent
  | modifyBinding name change =>
    simp only [perform, modifyBinding]
    split <;> rfl
  | modifyScratch id change =>
    simp only [perform, modifyScratch]
    split <;> rfl
  | modifyPair r q change =>
    simp only [perform, modifyPair]
    split
    · rfl
    · split <;> rfl
  | modifyOutput name change =>
    simp only [perform, modifyOutput]
    split <;> rfl
  | load input name =>
    simp only [perform, load, modifyBinding]
    repeat' split
    all_goals rfl
  | store name output =>
    simp only [perform, store, modifyOutput]
    repeat' split
    all_goals rfl
  | _ => rfl

/-- **One call** raises the noted peak to the highest level that it notes. These are levels that
the arena has, and a call of the frame itself passes through no level above all of them. -/
theorem Covered.notes (covered : f.Covered) (c : Frame.Call) (p : Pool) : Notes p f c := by
  cases c with
  | bind name pool size align => exact notes_bind f name pool size align p
  | bindTensor name d => exact notes_bindTensor covered name d p
  | claimScratch pool size align => exact notes_claimScratch f pool size align p
  | releaseScratch =>
    refine .silent ?_ rfl fun _ => Workspace.levels_scratchCalls_le covered.starts _ p
    rw [perform, releaseScratch_snd]
  | noteUsage =>
    refine .once (get_peak_noteUsage f p) rfl (.inl rfl) ?_
    simp [levels, arenaCalls, Workspace.levels]
  | onArena pool c => exact .silent rfl rfl fun plain => absurd plain (by simp [Call.isRaw])
  | _ =>
    refine .silent (peak_perform_quiet f _ rfl (by simp)) rfl fun _ => ?_
    simp [levels, arenaCalls, Workspace.levels]

theorem Covered.peak_le (covered : f.Covered) (c : Frame.Call) (p : Pool) :
    f.peak.get p ≤ (f.perform c).2.peak.get p := by
  rw [(covered.notes c p).peak]
  exact Nat.le_max_left _ _

/-- After a call the level is one that it passed through, or the one before. -/
theorem level_perform (f : Frame) (c : Frame.Call) (p : Pool) :
    (f.perform c).2.level p = f.level p ∨ (f.perform c).2.level p ∈ f.levels p c := by
  rw [level, (f.rewrites_arenaCalls c).highWater p]
  exact f.workspace.level_performAll _ p

/-- A call leaves a frame covered. -/
theorem Covered.perform (covered : f.Covered) (c : Frame.Call) : (f.perform c).2.Covered where
  behind p := by
    rw [(f.rewrites_arenaCalls c).dead, (f.rewrites_arenaCalls c).clock]
    exact Workspace.dead_performAll covered.behind _ p
  starts := by
    have older : ∀ e ∈ f.scratch, e.handle.start ≤ (f.perform c).2.peak.get e.handle.pool :=
      fun e mem => Nat.le_trans (covered.starts e mem) (covered.peak_le c _)
    have kept : c.claimsScratch = false → c ≠ .releaseScratch →
        ∀ e ∈ (f.perform c).2.scratch, e.handle.start ≤ (f.perform c).2.peak.get e.handle.pool := by
      intro claims other
      rw [scratch_perform f c claims other]
      exact older
    cases c with
    | claimScratch pool size align =>
      rcases claimed : f.workspace.allocate pool size align with ⟨fault | h, v⟩
      · simpa only [Frame.perform, claimScratch, claimed] using older
      · simp only [Frame.perform, claimScratch, claimed] at older ⊢
        refine List.forall_mem_cons.mpr ⟨?_, older⟩
        rw [get_peak_noteUsage]
        exact Nat.le_trans (Workspace.start_le_level claimed) (Nat.le_max_right _ _)
    | releaseScratch =>
      rw [Frame.perform, releaseScratch_snd]
      simp
    | _ => exact kept rfl (by simp)

/-- A frame at the start of a run is covered. -/
theorem Covered.start {w : Workspace} (sound : ∀ p, (w.arena p).Sound)
    (inputs outputs : Table Bytes) : (Frame.start w inputs outputs).Covered where
  behind p := by
    rcases (sound p).dead with passed | empty
    · exact Nat.le_of_lt passed
    · show (w.arena p).dead.high ≤ _
      rw [empty]
      exact Nat.zero_le _
  starts := by simp [Frame.start]

/-! ### Calls in order -/

/-- What is told of each call, from the frame that it finds. -/
def gather (tell : Frame → Frame.Call → List Nat) (f : Frame) : List Frame.Call → List Nat
  | [] => []
  | c :: rest => tell f c ++ (f.perform c).2.gather tell rest

theorem Covered.after (covered : f.Covered) (calls : List Frame.Call) :
    (f.after calls).Covered := by
  induction calls generalizing f with
  | nil => exact covered
  | cons c rest ih => exact ih (covered.perform c)

/-- **The noted peak** after calls is the highest of the levels that they noted and of the peak
before. -/
theorem Covered.peak_after (covered : f.Covered) (calls : List Frame.Call) (p : Pool) :
    (f.after calls).peak.get p =
      max (f.peak.get p) (highest (f.gather (Frame.notes p) calls)) := by
  induction calls generalizing f with
  | nil => simp [Frame.after, gather]
  | cons c rest ih =>
    rw [Frame.after, ih (covered.perform c), (covered.notes c p).peak, gather, highest_append,
      Nat.max_assoc]

theorem level_after (f : Frame) (calls : List Frame.Call) (p : Pool) :
    (f.after calls).level p ∈ f.level p :: f.gather (levels p) calls := by
  induction calls generalizing f with
  | nil => simp [after]
  | cons c rest ih =>
    rw [after, gather]
    rcases List.mem_cons.mp (ih (f.perform c).2) with same | later
    · rcases f.level_perform c p with kept | moved
      · simp [same, kept]
      · simp [same, moved]
    · simp [later]

/-- What is noted is a level that the arena has. -/
theorem Covered.notes_subset (covered : f.Covered) (calls : List Frame.Call) (p : Pool) :
    f.gather (Frame.notes p) calls ⊆ f.level p :: f.gather (levels p) calls := by
  induction calls generalizing f with
  | nil => simp [gather]
  | cons c rest ih =>
    intro noted mem
    simp only [gather, List.mem_append] at mem ⊢
    rcases mem with now | later
    · rcases (covered.notes c p).among noted now with rfl | here
      · exact List.mem_cons_self
      · exact List.mem_cons_of_mem _ (List.mem_append_left _ here)
    · rcases List.mem_cons.mp (ih (covered.perform c) later) with rfl | passed
      · rcases f.level_perform c p with kept | moved
        · simp [kept]
        · simp [moved]
      · simp [passed]

theorem rawLevels_subset (f : Frame) (calls : List Frame.Call) (p : Pool) :
    f.gather (rawLevels p) calls ⊆ f.gather (levels p) calls := by
  induction calls generalizing f with
  | nil => simp [gather]
  | cons c rest ih =>
    refine List.append_subset.mpr ⟨?_, ?_⟩
    · unfold rawLevels
      split
      · exact List.subset_append_left _ _
      · exact List.nil_subset _
    · exact List.Subset.trans (ih _) (List.subset_append_right _ _)

theorem gather_rawLevels_eq_nil {calls : List Frame.Call} (f : Frame)
    (plain : ∀ c ∈ calls, c.isRaw = false) (p : Pool) : f.gather (rawLevels p) calls = [] := by
  induction calls generalizing f with
  | nil => rfl
  | cons c rest ih =>
    obtain ⟨first, others⟩ := List.forall_mem_cons.mp plain
    simp [gather, rawLevels, first, ih _ others]

/-- No level lies above the level before the calls, the peak noted after them, and the levels
that calls past the frame brought about. -/
theorem Covered.levels_le (covered : f.Covered) (calls : List Frame.Call) (p : Pool) :
    ∀ level ∈ f.gather (levels p) calls, level ≤ max (max (f.level p)
      ((f.after calls).peak.get p)) (highest (f.gather (rawLevels p) calls)) := by
  induction calls generalizing f with
  | nil => simp [gather]
  | cons c rest ih =>
    have next := covered.perform c
    have later : (f.perform c).2.peak.get p ≤ (f.after (c :: rest)).peak.get p := by
      rw [Frame.after, next.peak_after]
      exact Nat.le_max_left _ _
    have split : highest (f.gather (rawLevels p) (c :: rest)) =
        max (highest (f.rawLevels p c)) (highest ((f.perform c).2.gather (rawLevels p) rest)) :=
      highest_append _ _
    have now : ∀ level ∈ f.levels p c, level ≤ max (max (f.level p)
        ((f.after (c :: rest)).peak.get p)) (highest (f.rawLevels p c)) := by
      intro level mem
      cases raw : c.isRaw with
      | true =>
        have here : level ≤ highest (f.rawLevels p c) := le_highest (by simpa [rawLevels, raw])
        omega
      | false =>
        have low := (covered.notes c p).above raw level mem
        omega
    intro level mem
    rcases List.mem_append.mp mem with here | after
    · have := now level here
      omega
    · have bound := ih next level after
      have start : (f.perform c).2.level p ≤ max (max (f.level p)
          ((f.after (c :: rest)).peak.get p)) (highest (f.rawLevels p c)) := by
        rcases f.level_perform c p with kept | moved
        · omega
        · exact now _ moved
      rw [Frame.after] at start ⊢
      omega

end Frame

end TensorArena
