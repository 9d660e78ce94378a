import TensorArena.Proofs.Arena.Reach
import TensorArena.Proofs.Frame.Calls

/-!
What a frame's callers can rely on.

The history of a frame says what was asked for under each name and what each buffer should
hold: the bytes last written through its name, or found there when it was claimed. Callers who
leave the arenas to the frame, and claim scratch while evaluating only, find their frame as the
history says (`Frame.Tells`), and so every name stays bound to what was asked for, its bytes and
its descriptor record included, whatever is claimed, written and given back around it.
-/

namespace TensorArena

namespace Frame

/-! ### Histories -/

/-- What was asked for under a name. -/
inductive Request where
  | raw (pool : Pool) (size : Nat)
  | tensor (d : Tensor.Descriptor)
deriving DecidableEq, Repr

/-- What happened to a frame. -/
inductive Deed where
  /-- The name was bound; its payload showed `found`. -/
  | bound (name : String) (request : Request) (found : Bytes)
  /-- Scratch was claimed, and showed `found`. -/
  | claimed (found : Bytes)
  | released
  /-- The region was left with `bytes`. -/
  | wrote (r : Region) (bytes : Bytes)
deriving DecidableEq, Repr

/-- What was asked for under a name, if it was bound. -/
def requested (name : String) : List Deed → Option Request
  | [] => none
  | .bound other request _ :: past => if other = name then some request else requested name past
  | _ :: past => requested name past

/-- The number of scratch claims since the last release. -/
def depth : List Deed → Nat
  | [] => 0
  | .claimed _ :: past => depth past + 1
  | .released :: _ => 0
  | _ :: past => depth past

/-- The bytes last written through a region, or found there when it was claimed; none if there
is no such region. -/
def content (r : Region) : List Deed → Option Bytes
  | [] => none
  | .bound name _ found :: past => if r = .binding name then some found else content r past
  | .claimed found :: past => if r = .scratch ⟨depth past⟩ then some found else content r past
  | .released :: past =>
    match r with
    | .binding _ => content r past
    | .scratch _ => none
  | .wrote q bytes :: past => if r = q then some bytes else content r past

section

variable (f : Frame)

/-- What a region shows; nothing where it cannot be read. -/
def shown (r : Region) : Bytes := (f.read r).toOption.getD []

/-- What a call does, newest first, as its answer tells it. A region that is written keeps its
length. -/
def deeds : Frame.Call → List Deed
  | .bind name pool size align =>
    match f.bind name pool size align with
    | (.error _, _) => []
    | (.ok (), g) => [.bound name (.raw pool size) (g.shown (.binding name))]
  | .bindTensor name d =>
    match f.bindTensor name d with
    | (.error _, _) => []
    | (.ok (), g) => [.bound name (.tensor d) (g.shown (.binding name))]
  | .modifyBinding name change => written (.binding name) change
  | .modifyScratch id change => written (.scratch id) change
  | .claimScratch pool size align =>
    match f.claimScratch pool size align with
    | (.error _, _) => []
    | (.ok id, g) => [.claimed (g.shown (.scratch id))]
  | .releaseScratch => [.released]
  | .modifyPair r q change =>
    match (f.modifyPair r q change).1 with
    | .error _ => []
    | .ok (x, y) =>
      [.wrote q (Bytes.overlay (change x y).2 y), .wrote r (Bytes.overlay (change x y).1 x)]
  | .load input name =>
    match f.input input, (f.load input name).1 with
    | .ok source, .ok () => [.wrote (.binding name) source]
    | _, _ => []
  | _ => []
where
  written (r : Region) (change : Bytes → Bytes) : List Deed :=
    match (f.write r change).1 with
    | .error _ => []
    | .ok before => [.wrote r (Bytes.overlay (change before) before)]

/-- The frame after calls in order. -/
def after (f : Frame) : List Frame.Call → Frame
  | [] => f
  | c :: rest => (f.perform c).2.after rest

/-- What calls in order do, newest first. -/
def history (f : Frame) : List Frame.Call → List Deed
  | [] => []
  | c :: rest => (f.perform c).2.history rest ++ f.deeds c

/-- Each call is allowed when its turn comes. -/
def Disciplined (f : Frame) : List Frame.Call → Prop
  | [] => True
  | c :: rest => f.Allows c ∧ (f.perform c).2.Disciplined rest

end

instance Disciplined.decidable (f : Frame) : ∀ calls, Decidable (f.Disciplined calls)
  | [] => .isTrue trivial
  | c :: rest =>
    have := Disciplined.decidable (f.perform c).2 rest
    inferInstanceAs (Decidable (_ ∧ _))

/-! ### The frame and its history -/

/-- The payload is what was asked for. That of a tensor lies in the ram pool, aligned for its
elements. -/
def Request.Met : Request → Handle → Prop
  | .raw pool size, h => h.pool = pool ∧ h.length = size
  | .tensor d, h => h.pool = .ram ∧ d.byteLength = .ok h.length ∧ d.dtype.align ∣ h.start

/-- The descriptor of a bound tensor: the one that was asked for, at the place of its payload. -/
def placed (d : Tensor.Descriptor) (payload : Handle) : Tensor.Descriptor :=
  { d with offset := payload.offset }

/-- The binding has the record of a tensor that was asked for. -/
def Recorded (w : Workspace) (b : Binding) : Request → Prop
  | .raw _ _ => True
  | .tensor d => d.shape.length ≤ Tensor.maxRank ∧
      ∃ record, b.record = some record ∧ w.view record = (placed d b.payload).record

/-- The frame is as the history says. -/
structure Tells (f : Frame) (past : List Deed) : Prop where
  depth : depth past = f.scratch.length
  reads : ∀ r, content r past = (f.named r).map f.workspace.view
  bound : ∀ name request, requested name past = some request →
    ∃ b, f.bindings.get? name = some b ∧ request.Met b.payload ∧ Recorded f.workspace b request

section Telling

variable {f : Frame} {grounds : Pool → Top} {past later : List Deed} {name : String} {b : Binding}
  {r q : Region} {v : Workspace} {peak : PerPool Nat}

theorem Recorded.of_view {w : Workspace} {request : Request} (recorded : Recorded w b request)
    (kept : ∀ record, b.record = some record → v.view record = w.view record) :
    Recorded v b request := by
  cases request with
  | raw pool size => trivial
  | tensor d =>
    obtain ⟨fits, record, there, shows⟩ := recorded
    exact ⟨fits, record, there, (kept record there).trans shows⟩

theorem Tidy.shown_eq {h : Handle} (tidy : f.Tidy grounds) (claim : f.named r = some h) :
    f.shown r = f.workspace.view h := by
  rw [shown, tidy.read_ok claim]
  rfl

theorem tells_start (w : Workspace) (inputs outputs : Table Bytes) :
    (start w inputs outputs).Tells [] where
  depth := rfl
  reads r := by cases r <;> rfl
  bound name request asked := by cases asked

/-! #### Nothing new -/

/-- A descriptor record is claimed. -/
theorem record_mem {record : Handle} (found : f.bindings.get? name = some b)
    (recorded : b.record = some record) : record ∈ f.claims :=
  List.mem_append_right _ (mem_bound found _ (by simp [Binding.claims, recorded]))

/-- Regions tell the same as long as the claims do. -/
theorem Tells.reads_of_views (tells : f.Tells past)
    (views : ∀ k ∈ f.claims, v.view k = f.workspace.view k) (r : Region) :
    content r past = (f.named r).map v.view := by
  rw [tells.reads]
  cases claim : f.named r with
  | none => rfl
  | some h => exact congrArg some (views h (named_mem claim)).symm

/-- Names stay bound to what was asked for as long as the claims tell the same. -/
theorem Tells.bound_of_views {request : Request} (tells : f.Tells past)
    (views : ∀ k ∈ f.claims, v.view k = f.workspace.view k)
    (asked : requested name past = some request) :
    ∃ b, f.bindings.get? name = some b ∧ request.Met b.payload ∧ Recorded v b request := by
  obtain ⟨b, found, met, recorded⟩ := tells.bound name request asked
  exact ⟨b, found, met, recorded.of_view fun record there =>
    views record (record_mem found there)⟩

/-- A frame tells the same as long as its claims do. -/
theorem Tells.of_views {g : Frame} (tells : f.Tells past) (bindings : g.bindings = f.bindings)
    (scratch : g.scratch = f.scratch)
    (views : ∀ k ∈ f.claims, g.workspace.view k = f.workspace.view k) : g.Tells past where
  depth := scratch ▸ tells.depth
  reads r := by
    have same : g.named r = f.named r := by cases r <;> simp only [named, bindings, scratch]
    exact same ▸ tells.reads_of_views views r
  bound name request asked := bindings ▸ tells.bound_of_views views asked

/-! #### New names -/

theorem named_insert (f : Frame) (name : String) (b : Binding) (v : Workspace)
    (peak : PerPool Nat) (r : Region) :
    named { f with workspace := v, bindings := f.bindings.insert name b, peak } r =
      if r = .binding name then some b.payload else f.named r := by
  cases r with
  | scratch id => simp [named]
  | binding other =>
    simp only [named, Table.get?_insert, Region.binding.injEq, eq_comm]
    split <;> rfl

/-- A new name tells what was asked for and found, and the others tell what they did. -/
theorem Tells.insert {request : Request} (tells : f.Tells past) (met : request.Met b.payload)
    (recorded : Recorded v b request) (views : ∀ k ∈ f.claims, v.view k = f.workspace.view k) :
    Tells { f with workspace := v, bindings := f.bindings.insert name b, peak }
      (.bound name request (v.view b.payload) :: past) where
  depth := tells.depth
  reads r := by
    rw [named_insert, content]
    split
    · rfl
    · exact tells.reads_of_views views r
  bound other request' asked := by
    simp only [requested] at asked
    rw [Table.get?_insert]
    by_cases same : name = other
    · rw [if_pos same] at asked ⊢
      cases asked
      exact ⟨b, rfl, met, recorded⟩
    · rw [if_neg same] at asked ⊢
      exact tells.bound_of_views views asked

theorem Tells.bind (tells : f.Tells past) (tidy : f.Tidy grounds) (name : String) (pool : Pool)
    (size align : Nat) : (f.perform (.bind name pool size align)).2.Tells
      (f.deeds (.bind name pool size align) ++ past) := by
  have outcome := f.bind_outcome name pool size align
  have after := tidy.bind name pool size align
  simp only [Frame.perform, deeds]
  generalize f.bind name pool size align = result at outcome after
  cases outcome with
  | refused => exact tells
  | @bound payload v declaring new claimed =>
    obtain ⟨stacked, -, length, -, views⟩ := tidy.stacked.allocate claimed
    have found := after.shown_eq ((f.named_insert name _ v _ (.binding name)).trans (if_pos rfl))
    dsimp only
    rw [found]
    have pool : payload.pool = pool := (Workspace.allocate_ok claimed).2.1
    exact tells.insert ⟨pool, length⟩ trivial fun k _ => views k

theorem Tells.bindTensor (tells : f.Tells past) (tidy : f.Tidy grounds) (name : String)
    (d : Tensor.Descriptor) : (f.perform (.bindTensor name d)).2.Tells
      (f.deeds (.bindTensor name d) ++ past) := by
  have outcome := tidy.bindTensor_outcome name d
  have after := tidy.bindTensor name d
  simp only [Frame.perform, deeds]
  generalize f.bindTensor name d = result at outcome after
  cases outcome with
  | refused => exact tells
  | unrecorded _ _ _ _ _ views => exact tells.of_views rfl rfl fun k _ => views k
  | @bound length payload record v u x declaring new measured claimed recorded _ shows views =>
    obtain ⟨fits, bytes⟩ := payloadLength_ok_iff.mp measured
    obtain ⟨-, start, size, -, -⟩ := tidy.stacked.allocate claimed
    have found := after.shown_eq ((f.named_insert name _ x _ (.binding name)).trans (if_pos rfl))
    dsimp only
    rw [found]
    have pool : payload.pool = .ram := (Workspace.allocate_ok claimed).2.1
    have aligned : d.dtype.align ∣ payload.start := start ▸ Nat.dvd_mul_left _ _
    exact tells.insert ⟨pool, size ▸ bytes, aligned⟩ ⟨fits, record, rfl, shows⟩
      fun k mem => views k (List.mem_cons_of_mem _ mem)

/-! #### Scratch -/

theorem named_push (f : Frame) (e : ScratchEntry) (v : Workspace) (peak : PerPool Nat)
    (r : Region) : named { f with workspace := v, scratch := e :: f.scratch, peak } r =
      if r = .scratch ⟨f.scratch.length⟩ then some e.handle else f.named r := by
  cases r with
  | binding name => simp [named]
  | scratch id =>
    obtain ⟨index⟩ := id
    simp only [named, List.map_cons, List.reverse_cons, Region.scratch.injEq, ScratchId.mk.injEq]
    split
    · rename_i newest
      simp [newest]
    · rename_i older
      rcases Nat.lt_or_gt_of_ne older with below | above
      · exact List.getElem?_append_left (by simpa using below)
      · have before : (f.scratch.map (·.handle)).reverse[index]? = none :=
          List.getElem?_eq_none (by simpa using Nat.le_of_lt above)
        rw [before, List.getElem?_append_right (by simpa using Nat.le_of_lt above)]
        exact List.getElem?_eq_none (by simp; omega)

theorem Tells.claimScratch (tells : f.Tells past) (tidy : f.Tidy grounds)
    (evaluating : f.phase = .evaluating) (pool : Pool) (size align : Nat) :
    (f.perform (.claimScratch pool size align)).2.Tells
      (f.deeds (.claimScratch pool size align) ++ past) := by
  have outcome := f.claimScratch_outcome pool size align
  have after := tidy.claimScratch evaluating pool size align
  simp only [Frame.perform, deeds]
  generalize f.claimScratch pool size align = result at outcome after
  cases outcome with
  | refused => exact tells
  | @claimed h v claimed =>
    obtain ⟨-, -, -, -, views⟩ := tidy.stacked.allocate claimed
    have pushed := f.named_push ⟨(f.workspace.arena pool).mark, h⟩ v
    have found := after.shown_eq ((pushed _ (.scratch ⟨f.scratch.length⟩)).trans (if_pos rfl))
    dsimp only
    rw [found]
    exact {
      depth := congrArg (· + 1) tells.depth
      reads := by
        intro r
        rw [noteUsage, pushed, List.singleton_append, content, tells.depth]
        split
        · rfl
        · exact tells.reads_of_views (fun k _ => views k) r
      bound := fun name request asked => tells.bound_of_views (fun k _ => views k) asked }

theorem Tells.releaseScratch (tells : f.Tells past) (tidy : f.Tidy grounds) :
    (f.perform .releaseScratch).2.Tells (f.deeds .releaseScratch ++ past) := by
  obtain ⟨v, done, -, -, views⟩ := tidy.releaseScratch_ok
  simp only [Frame.perform, done, deeds]
  exact {
    depth := rfl
    reads := by
      intro r
      cases r with
      | binding name => exact tells.reads_of_views (fun k _ => views k) (.binding name)
      | scratch id => simp [content, named]
    bound := fun name request asked => tells.bound_of_views (fun k _ => views k) asked }

/-! #### Writing -/

/-- A frame whose bytes are written tells the new history if that says what its regions show now,
and neither binds nor claims. No descriptor record may be written. -/
theorem Tells.rewritten (tells : f.Tells past) (depths : Frame.depth later = Frame.depth past)
    (names : ∀ name, requested name later = requested name past)
    (silent : ∀ r, f.named r = none → content r later = none)
    (speaks : ∀ r h, f.named r = some h → content r later = some (v.view h))
    (records : ∀ name b record, f.bindings.get? name = some b → b.record = some record →
      v.view record = f.workspace.view record) :
    Tells { f with workspace := v } later where
  depth := depths.trans tells.depth
  reads r := by
    show _ = (f.named r).map v.view
    cases claim : f.named r with
    | none => exact silent r claim
    | some h => exact speaks r h claim
  bound name request asked := by
    obtain ⟨b, found, met, recorded⟩ := tells.bound name request (names name ▸ asked)
    exact ⟨b, found, met, recorded.of_view fun record there => records name b record found there⟩

/-- What a region shows, if it names a claim. -/
theorem Tells.content_eq {h : Handle} (tells : f.Tells past) (claim : f.named r = some h) :
    content r past = some (f.workspace.view h) := by
  rw [tells.reads, claim]
  rfl

theorem Tells.write (tells : f.Tells past) (tidy : f.Tidy grounds) (r : Region)
    (change : Bytes → Bytes) :
    (f.write r change).2.Tells (deeds.written f r change ++ past) := by
  rcases f.write_cases r change with ⟨fault, -, refused⟩ | ⟨h, claim⟩
  · simp only [deeds.written, refused]
    exact tells
  · obtain ⟨v, done, -, shows, others⟩ := tidy.write_ok claim change
    simp only [deeds.written, done, ← shows]
    refine tells.rewritten rfl (fun _ => rfl) (fun q none => ?_) (fun q k named => ?_)
      fun name b record found recorded => ?_
    · have other : q ≠ r := by
        rintro rfl
        cases claim.symm.trans none
      rw [List.singleton_append, content, if_neg other, tells.reads, none]
      rfl
    · rw [List.singleton_append, content]
      by_cases same : q = r
      · subst same
        rw [if_pos rfl, Option.some.inj (named.symm.trans claim)]
      · rw [if_neg same, tells.content_eq named,
          others k (named_mem named) (tidy.named_ne same named claim)]
    · exact others record (record_mem found recorded)
        (tidy.named_ne_record found recorded claim).symm

theorem Tells.modifyPair (tells : f.Tells past) (tidy : f.Tidy grounds) (r q : Region)
    (change : Bytes → Bytes → Bytes × Bytes) :
    (f.perform (.modifyPair r q change)).2.Tells (f.deeds (.modifyPair r q change) ++ past) := by
  rcases tidy.modifyPair_cases r q change with ⟨fault, -, refused⟩ | ⟨h, k, first, second, free⟩
  · simp only [Frame.perform, deeds, refused]
    exact tells
  · obtain ⟨v, done, -, showsSecond, showsFirst, others⟩ :=
      tidy.modifyPair_ok first second free change
    simp only [Frame.perform, deeds, done, ← showsSecond, ← showsFirst]
    refine tells.rewritten rfl (fun _ => rfl) (fun s none => ?_) (fun s l named => ?_)
      fun name b record found recorded => ?_
    · have notSecond : s ≠ q := by
        rintro rfl
        cases second.symm.trans none
      have notFirst : s ≠ r := by
        rintro rfl
        cases first.symm.trans none
      rw [List.cons_append, content, if_neg notSecond, List.singleton_append, content,
        if_neg notFirst, tells.reads, none]
      rfl
    · rw [List.cons_append, content]
      by_cases isSecond : s = q
      · subst isSecond
        rw [if_pos rfl, Option.some.inj (named.symm.trans second)]
      · rw [if_neg isSecond, List.singleton_append, content]
        by_cases isFirst : s = r
        · subst isFirst
          rw [if_pos rfl, Option.some.inj (named.symm.trans first)]
        · rw [if_neg isFirst, tells.content_eq named, others l (named_mem named)
            (tidy.named_ne isFirst named first) (tidy.named_ne isSecond named second)]
    · exact others record (record_mem found recorded)
        (tidy.named_ne_record found recorded first).symm
        (tidy.named_ne_record found recorded second).symm

/-! #### The caller's tensors -/

theorem Tells.load (tells : f.Tells past) (tidy : f.Tidy grounds) (input name : String) :
    (f.perform (.load input name)).2.Tells (f.deeds (.load input name) ++ past) := by
  rcases tidy.load_cases input name with ⟨fault, -, refused⟩ | ⟨source, h, given, claim, same, done⟩
  · simp only [Frame.perform, deeds, refused]
    cases f.input input <;> exact tells
  · obtain ⟨v, wrote, -⟩ := tidy.write_ok claim fun _ => source
    have written := tells.write tidy (.binding name) fun _ => source
    have whole := Bytes.overlay_of_length_eq same
    simp only [Frame.perform, deeds, done, given]
    simpa only [deeds.written, wrote, whole] using written

/-! ### One call -/

/-- **One call** keeps a frame as its history says. -/
theorem Tells.perform (tells : f.Tells past) (tidy : f.Tidy grounds) (c : Frame.Call)
    (allowed : f.Allows c) : (f.perform c).2.Tells (f.deeds c ++ past) := by
  cases c with
  | bind name pool size align => exact tells.bind tidy name pool size align
  | bindTensor name d => exact tells.bindTensor tidy name d
  | modifyBinding name change => exact tells.write tidy (.binding name) change
  | claimScratch pool size align =>
    exact tells.claimScratch tidy (allowed.2 rfl) pool size align
  | modifyScratch id change => exact tells.write tidy (.scratch id) change
  | releaseScratch => exact tells.releaseScratch tidy
  | modifyPair r q change => exact tells.modifyPair tidy r q change
  | modifyOutput name change =>
    simp only [Frame.perform, modifyOutput, deeds]
    split
    · exact tells
    · exact tells.of_views rfl rfl fun _ _ => rfl
  | load input name => exact tells.load tidy input name
  | store name output =>
    simp only [Frame.perform, deeds]
    rcases tidy.store_cases name output with ⟨fault, -, refused⟩ | ⟨outputs, done⟩
    · exact refused ▸ tells
    · exact done ▸ tells.of_views rfl rfl fun _ _ => rfl
  | noteUsage => exact tells.of_views rfl rfl fun _ _ => rfl
  | beginEvaluation => exact tells.of_views rfl rfl fun _ _ => rfl
  | onArena pool c => cases allowed.1
  | hasBinding name => exact tells
  | bindingCount => exact tells
  | binding name => exact tells
  | descriptor name => exact tells
  | scratchBytes id => exact tells
  | scratchCount => exact tells
  | input name => exact tells
  | usage => exact tells
  | peak => exact tells
  | isEvaluating => exact tells

/-- **Every run.** -/
theorem Tells.after (tells : f.Tells past) (tidy : f.Tidy grounds) (calls : List Frame.Call)
    (disciplined : f.Disciplined calls) :
    (f.after calls).Tells (f.history calls ++ past) ∧ (f.after calls).Tidy grounds := by
  induction calls generalizing f past with
  | nil => exact ⟨tells, tidy⟩
  | cons c rest ih =>
    obtain ⟨allowed, later⟩ := disciplined
    rw [history, List.append_assoc]
    exact ih (tells.perform tidy c allowed) (tidy.perform c allowed) later

end Telling

/-! ### Stable bindings -/

/-- What the callers of a frame can rely on, given its history. -/
structure Stable (f : Frame) (past : List Deed) : Prop where
  /-- A bound name names a live payload, which is what was asked for. -/
  payloads : ∀ name request, requested name past = some request →
    ∃ b bytes, f.lookup name = .ok b ∧ request.Met b.payload ∧
      f.workspace.bytes b.payload = .ok bytes ∧ bytes.length = b.payload.length ∧
      content (.binding name) past = some bytes
  /-- A bound tensor has its descriptor, with the place of its payload. -/
  descriptors : ∀ name d, requested name past = some (.tensor d) →
    ∃ b, f.lookup name = .ok b ∧ f.descriptor name = .ok (placed d b.payload)
  /-- Bindings and scratch hold what was last written through them, and nothing else is read;
  what they hold can be written. -/
  reads : ∀ r, (f.read r).toOption = content r past
  writes : ∀ r x, content r past = some x → ∀ change, (f.write r change).1 = .ok x
  /-- Two regions are viewed at once, in argument order. -/
  pairs : ∀ r q x y, r ≠ q → content r past = some x → content q past = some y →
    ∀ change, (f.modifyPair r q change).1 = .ok (x, y)
  /-- Loading and storing change nothing where they fail. -/
  load : ∀ input name fault, (f.load input name).1 = .error fault → (f.load input name).2 = f
  store : ∀ name output fault, (f.store name output).1 = .error fault →
    (f.store name output).2 = f

theorem Tells.stable {f : Frame} {grounds : Pool → Top} {past : List Deed} (tells : f.Tells past)
    (tidy : f.Tidy grounds) : Stable f past where
  payloads name request asked := by
    obtain ⟨b, found, met, -⟩ := tells.bound name request asked
    have claim : f.named (.binding name) = some b.payload := by simp [named, found]
    exact ⟨b, f.workspace.view b.payload, lookup_ok_iff.mpr found, met,
      tidy.stacked.bytes (named_mem claim), tidy.stacked.length_view (named_mem claim),
      tells.content_eq claim⟩
  descriptors name d asked := by
    obtain ⟨⟨payload, _⟩, found, -, fits, record, rfl, shows⟩ := tells.bound name _ asked
    refine ⟨_, lookup_ok_iff.mpr found, ?_⟩
    have read := tidy.stacked.bytes (record_mem found rfl)
    have decoded := Tensor.Descriptor.decode_record (d := placed d payload) fits []
    rw [List.append_nil] at decoded
    simp only [descriptor, lookup_ok_iff.mpr found, read, shows, decoded]
    rfl
  reads r := (tidy.toOption_read r).trans (tells.reads r).symm
  writes r x held change := by
    rw [tells.reads] at held
    obtain ⟨h, claim, rfl⟩ := Option.map_eq_some_iff.mp held
    obtain ⟨v, done, -⟩ := tidy.write_ok claim change
    rw [done]
  pairs r q x y other first second change := by
    rw [tells.reads] at first second
    obtain ⟨h, mine, rfl⟩ := Option.map_eq_some_iff.mp first
    obtain ⟨k, yours, rfl⟩ := Option.map_eq_some_iff.mp second
    have free := tidy.stacked.overlaps_of_ne (named_mem mine) (named_mem yours)
      (tidy.named_ne other mine yours)
    obtain ⟨v, done, -⟩ := tidy.modifyPair_ok mine yours free change
    rw [done]
  load input name fault failed := by
    rcases tidy.load_cases input name with ⟨cause, -, refused⟩ | ⟨_, _, -, -, -, done⟩
    · rw [refused]
    · rw [done] at failed
      cases failed
  store name output fault failed := by
    rcases tidy.store_cases name output with ⟨cause, -, refused⟩ | ⟨outputs, done⟩
    · rw [refused]
    · rw [done] at failed
      cases failed

/-- **Bindings are stable.** Whatever was done with the arenas before, and whatever the callers of
a frame ask in a run, as long as they leave the arenas to it and claim scratch while evaluating
only: names stay bound to what was asked for, tensors keep their descriptors, and buffers hold
what was last written through them. -/
theorem bindings_stable {w : Workspace} {issued : PerPool (List Token)}
    (reached : ∀ p, (w.arena p).Reached (issued.get p)) (inputs outputs : Table Bytes)
    (calls : List Frame.Call) (disciplined : (start w inputs outputs).Disciplined calls) :
    Stable ((start w inputs outputs).after calls) ((start w inputs outputs).history calls) := by
  have tidy := Tidy.start (fun p => (reached p).sound.1) inputs outputs
  obtain ⟨tells, tidy⟩ := (tells_start w inputs outputs).after tidy calls disciplined
  rw [List.append_nil] at tells
  exact tells.stable tidy

/-! A run that binds in both pools above a claim of someone else; one tensor finds no space for its
record. Scratch takes the payload's place, and is written together with the bound tensor. -/

namespace Spanning

def metadata : Arena := ⟨⟨1⟩, .metadata, Buffer.zeroed 32, 0, 0, 0, 0, .empty, .empty, 0⟩

def fresh : Arena := ⟨⟨2⟩, .ram, Buffer.zeroed 64, 0, 0, 0, 0, .empty, .empty, 0⟩

/-- Three bytes are claimed. -/
def ram : Arena := (fresh.perform (.allocate 3 1)).2

def installed : Workspace where
  arenas := ⟨metadata, ram⟩
  serves p := by cases p <;> decide

def begin : Frame := start installed ⟨[("in", [1, 2, 3, 4, 5, 6, 7, 8])]⟩ .empty

def weights : Tensor.Descriptor := { dtype := .i32, shape := [2] }

def calls : List Frame.Call :=
  [.bind "raw" .ram 4 1, .bindTensor "weights" weights,
    .bindTensor "late" { dtype := .i16, shape := [3] }, .bind "flat" .metadata 0 4,
    .beginEvaluation, .load "in" "weights", .claimScratch .ram 6 2,
    .modifyScratch ⟨0⟩ fun _ => [9, 9], .load "in" "raw",
    .modifyPair (.scratch ⟨0⟩) (.binding "weights") fun p q => (q, p), .releaseScratch,
    .claimScratch .metadata 1 1, .modifyBinding "raw" fun _ => [7]]

def log : List Deed := begin.history calls

def final : Frame := begin.after calls

def issued : PerPool (List Token) := ⟨[], [.handle ⟨⟨2⟩, .ram, 0, 3, ⟨0, 0⟩, .empty⟩]⟩

theorem reached (p : Pool) : (installed.arena p).Reached (issued.get p) := by
  cases p with
  | metadata => exact .built (Arena.build_ok_iff.mpr ⟨by decide, by decide, rfl⟩)
  | ram =>
    have built : fresh.Reached [] :=
      .built (Arena.build_ok_iff.mpr ⟨by decide, by decide, rfl⟩)
    exact built.called (.allocate 3 1) (by decide)

end Spanning

open Spanning in
/-- The tensor lies at the first multiple of four. Its last bytes were loaded, the others come from
scratch; the empty binding is viewed together with scratch of its pool. -/
theorem bindings_stable_spanning :
    (∀ p, (installed.arena p).Reached (issued.get p)) ∧ begin.Disciplined calls ∧
      final.descriptor "weights" = .ok { weights with offset := 8 } ∧
      (final.read (.binding "weights")).toOption = some [9, 9, 0, 0, 0, 0, 7, 8] ∧
      (final.read (.binding "raw")).toOption = some [7, 0, 0, 0] ∧
      (final.read (.binding "late")).toOption = none ∧
      (final.modifyPair (.binding "flat") (.scratch ⟨0⟩) fun p q => (p, q)).1 = .ok ([], [0]) := by
  have disciplined : begin.Disciplined calls := by decide +kernel
  have asked : requested "weights" log = some (.tensor weights) := by decide +kernel
  have place : (final.lookup "weights").toOption.map (·.payload.offset) = some 8 := by
    decide +kernel
  have empty : content (.binding "flat") log = some [] := by decide +kernel
  have scratch : content (.scratch ⟨0⟩) log = some [0] := by decide +kernel
  have stable := bindings_stable reached begin.inputs .empty calls disciplined
  refine ⟨reached, disciplined, ?_, ?_, ?_, ?_, ?_⟩
  · obtain ⟨b, found, described⟩ := stable.descriptors "weights" weights asked
    rw [show final.lookup "weights" = .ok b from found] at place
    rw [← Option.some.inj place]
    exact described
  · exact (stable.reads _).trans (by decide +kernel)
  · exact (stable.reads _).trans (by decide +kernel)
  · exact (stable.reads _).trans (by decide +kernel)
  · exact stable.pairs _ _ [] [0] (by decide) empty scratch _

end Frame

end TensorArena
