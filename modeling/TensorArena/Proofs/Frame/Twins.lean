import Mathlib.Data.List.Forall2
import TensorArena.Frame.Program
import TensorArena.Proofs.Arena.Twins
import TensorArena.Proofs.Frame.Lifetime

/-!
Two frames over arenas that differ in their past.

Two runs start on arenas that are twins, and make the same calls. Their frames bind the same names
at the same places, stack scratch at the same places, and have noted the same peak; they differ in
bytes and in tokens only (`Frame.Twins`). Every call that a script makes is answered alike in
both, and leaves them so.

The release of scratch may be refused for its order, and tells then where the most recent claim of
the pool ends. A pool in which scratch is stacked has a top that was issued since the start, and so
it has below each entry of the stack but the last (`ScratchTwins`).
-/

namespace TensorArena

theorem Matched.map {ε α τ υ : Type} {answer answer' : α → α → Prop} {state : τ → τ → Prop}
    {state' : υ → υ → Prop} {x y : Except ε α × τ} {s t : υ} (matched : Matched answer state x y)
    (answers : ∀ p q, x.1 = .ok p → answer p q → answer' p q)
    (left : state x.2 y.2 → state' s t) : Matched answer' state' (x.1, s) (y.1, t) := by
  cases matched with
  | refused fault states => exact .refused fault (left states)
  | served related states => exact .served (answers _ _ rfl related) (left states)

/-- Answers that went the same way are the same, as far as the relation between them says. -/
theorem Matched.map_eq {ε α β τ : Type} {answer : α → α → Prop} {state : τ → τ → Prop}
    {x y : Except ε α × τ} {seen : α → β} (matched : Matched answer state x y)
    (same : ∀ p q, answer p q → seen p = seen q) : x.1.map seen = y.1.map seen := by
  cases matched with
  | refused fault states => rfl
  | served answers states => exact congrArg Except.ok (same _ _ answers)

theorem Matched.eq {ε α τ : Type} {state : τ → τ → Prop} {x y : Except ε α × τ}
    (matched : Matched Eq state x y) : x.1 = y.1 := by
  cases matched with
  | refused fault states => rfl
  | served same states => exact congrArg Except.ok same

theorem Matched.state {ε α τ : Type} {answer : α → α → Prop} {state : τ → τ → Prop}
    {x y : Except ε α × τ} (matched : Matched answer state x y) : state x.2 y.2 := by
  cases matched with
  | refused fault states => exact states
  | served answers states => exact states

/-! ### Tables -/

namespace Table

variable {α : Type} {R : α → α → Prop} {t u : Table α}

/-- The tables have the same names, in the same order, with related values. -/
def Twins (R : α → α → Prop) (t u : Table α) : Prop :=
  List.Forall₂ (fun x y => x.1 = y.1 ∧ R x.2 y.2) t.entries u.entries

theorem lookup_twins {xs ys : List (String × α)}
    (twins : List.Forall₂ (fun x y => x.1 = y.1 ∧ R x.2 y.2) xs ys) (name : String) :
    Option.Rel R (lookup xs name) (lookup ys name) := by
  induction twins with
  | nil => exact .none
  | @cons x y xs ys first _ ih =>
    obtain ⟨key, value⟩ := x
    obtain ⟨_, other⟩ := y
    obtain ⟨rfl, related⟩ := first
    simp only [lookup]
    split
    · exact .some related
    · exact ih

theorem Twins.get? (twins : Twins R t u) (name : String) :
    Option.Rel R (t.get? name) (u.get? name) :=
  lookup_twins twins name

theorem contains_of_rel {name : String} (found : Option.Rel R (t.get? name) (u.get? name)) :
    u.contains name = t.contains name := by
  simp only [Table.contains]
  generalize t.get? name = x at found
  generalize u.get? name = y at found
  cases found <;> rfl

theorem Twins.size (twins : Twins R t u) : u.size = t.size := (List.Forall₂.length_eq twins).symm

theorem put_twins {xs ys : List (String × α)} {value other : α}
    (twins : List.Forall₂ (fun x y => x.1 = y.1 ∧ R x.2 y.2) xs ys) (name : String)
    (related : R value other) :
    List.Forall₂ (fun x y => x.1 = y.1 ∧ R x.2 y.2) (put xs name value) (put ys name other) := by
  induction twins with
  | nil => exact .cons ⟨rfl, related⟩ .nil
  | @cons x y xs ys first later ih =>
    obtain ⟨key, value⟩ := x
    obtain ⟨_, other⟩ := y
    obtain ⟨rfl, kept⟩ := first
    simp only [put]
    split
    · exact .cons ⟨rfl, related⟩ later
    · exact .cons ⟨rfl, kept⟩ ih

theorem Twins.insert {value other : α} (twins : Twins R t u) (name : String)
    (related : R value other) : Twins R (t.insert name value) (u.insert name other) :=
  put_twins twins name related

end Table

/-- The tables have the same names, with values of the same sizes. -/
def SameSizes (t u : Table Bytes) : Prop :=
  ∀ name, Option.Rel (fun x y => y.length = x.length) (t.get? name) (u.get? name)

theorem SameSizes.insert {t u : Table Bytes} {x y : Bytes} (sizes : SameSizes t u) (name : String)
    (size : y.length = x.length) : SameSizes (t.insert name x) (u.insert name y) := by
  intro other
  rw [Table.get?_insert, Table.get?_insert]
  split
  · exact .some size
  · exact sizes other

/-! ### Pairs of arenas -/

section Pairs

variable (w v : Workspace)

/-- The handles are twins in their arenas. -/
def Handle.TwinsIn (h k : Handle) : Prop := Handle.Twins (w.arena h.pool) (v.arena h.pool) h k

namespace Workspace

/-- The same was done in `x` since `w` as in `y` since `v`. -/
def Twins (x y : Workspace) : Prop :=
  ∀ p, Arena.Twins (w.arena p) (v.arena p) (x.arena p) (y.arena p)

/-- The top of the pool was issued since the start. -/
def Fresh (x y : Workspace) (p : Pool) : Prop :=
  Top.Fresh (w.arena p) (v.arena p) (x.arena p).top (y.arena p).top

/-- Twins `x` and `y` went on to twins, and where their tops were fresh they are. -/
structure Moves (x y x' y' : Workspace) : Prop where
  twins : Twins w v x' y'
  fresh : ∀ p, Fresh w v x y p → Fresh w v x' y' p

end Workspace

end Pairs

namespace Workspace

variable {w v x y x' y' : Workspace} {h k h' k' : Handle}

theorem Twins.moves (twins : Twins w v x y) : Moves w v x y x y := ⟨twins, fun _ fresh => fresh⟩

theorem Moves.trans {x'' y'' : Workspace} (first : Moves w v x y x' y')
    (second : Moves w v x' y' x'' y'') : Moves w v x y x'' y'' :=
  ⟨second.twins, fun p fresh => second.fresh p (first.fresh p fresh)⟩

theorem Twins.usage (twins : Twins w v x y) : y.usage = x.usage := by
  apply PerPool.ext_get
  intro p
  rw [Workspace.usage, Workspace.usage, PerPool.get_map, PerPool.get_map]
  exact (twins p).highWater

/-- What twin arenas do in one pool. -/
theorem Twins.perform {p : Pool} {c d : Arena.Call} (twins : Twins w v x y)
    (moves : Arena.Moves (w.arena p) (v.arena p) (x.arena p) (y.arena p)
      ((x.arena p).perform c).2 ((y.arena p).perform d).2) :
    Moves w v x y (x.perform p c).2 (y.perform p d).2 := by
  have at_pool : ∀ q, Arena.Moves (w.arena q) (v.arena q) (x.arena q) (y.arena q)
      ((x.perform p c).2.arena q) ((y.perform p d).2.arena q) := by
    intro q
    rw [arena_perform, arena_perform]
    by_cases here : q = p
    · subst here
      rw [if_pos rfl, if_pos rfl]
      exact moves
    · rw [if_neg here, if_neg here]
      exact (twins q).moves
  exact ⟨fun q => (at_pool q).twins, fun q => (at_pool q).fresh⟩

theorem Twins.allocate (twins : Twins w v x y) (p : Pool) (size align : Nat) :
    Matched (fun h k => h.pool = p ∧ h.TwinsIn w v k) (Moves w v x y) (x.allocate p size align)
      (y.allocate p size align) := by
  have matched := (twins p).allocate size align
  refine matched.map ?_ fun moves => twins.perform moves
  intro h k done handles
  obtain ⟨-, -, rfl, -⟩ := Arena.allocate_ok (Prod.ext done rfl)
  have here : (x.arena p).pool = p := x.pool_arena p
  exact ⟨here, here.symm ▸ handles⟩

/-- What was claimed lies on the former top of its pool, and is the top now. -/
theorem Twins.claimed {p : Pool} {size align : Nat} (twins : Twins w v x y)
    (first : x.allocate p size align = (.ok h, x'))
    (second : y.allocate p size align = (.ok k, y')) :
    h.below = (x.arena p).top ∧ k.below = (y.arena p).top ∧ Fresh w v x' y' p := by
  obtain ⟨mine, -⟩ := Workspace.allocate_ok first
  obtain ⟨yours, -⟩ := Workspace.allocate_ok second
  obtain ⟨-, -, below, -⟩ := Arena.allocate_ok mine
  obtain ⟨-, -, under, -⟩ := Arena.allocate_ok yours
  exact ⟨congrArg Handle.below below, congrArg Handle.below under,
    (twins p).fresh_of_allocate mine yours⟩

theorem Twins.bytes (twins : Twins w v x y) (handles : h.TwinsIn w v k) :
    (y.bytes k).map List.length = (x.bytes h).map List.length := by
  rw [Workspace.bytes, Workspace.bytes, handles.pool]
  exact (twins h.pool).bytes handles

theorem Twins.modify (twins : Twins w v x y) (handles : h.TwinsIn w v k)
    (change other : Bytes → Bytes) :
    Matched (fun p q => q.length = p.length) (Moves w v x y) (x.modify h change)
      (y.modify k other) := by
  have matched := (twins h.pool).modify handles change other
  rw [Workspace.modify, Workspace.modify, handles.pool]
  exact matched.map (fun _ _ _ length => length) fun moves => twins.perform moves

theorem Twins.modifyPair (twins : Twins w v x y) (handles : h.TwinsIn w v k)
    (others : h'.TwinsIn w v k') (change : Bytes → Bytes → Bytes × Bytes) :
    Matched (fun p q => q.1.length = p.1.length ∧ q.2.length = p.2.length) (Moves w v x y)
      (x.modifyPair h h' change) (y.modifyPair k k' change) := by
  unfold Workspace.modifyPair
  rw [handles.pool, others.pool]
  split
  · rename_i same
    have second : Handle.Twins (w.arena h.pool) (v.arena h.pool) h' k' := by
      rw [same]
      exact others
    have matched := (twins h.pool).modifyPair handles second change change
    exact matched.map (fun _ _ _ lengths => lengths) fun moves => twins.perform moves
  · rcases outcomes_of_map_eq (twins.bytes handles) with
      ⟨fault, refused, other⟩ | ⟨p, p', shown, other, first⟩
    · rw [refused, other]
      exact .refused _ twins.moves
    rcases outcomes_of_map_eq (twins.bytes others) with
      ⟨fault, refused, also⟩ | ⟨q, q', second, also, lengths⟩
    · rw [shown, other, refused, also]
      exact .refused _ twins.moves
    rw [shown, other, second, also]
    have once := (twins.modify handles (fun _ => (change p q).1) fun _ => (change p' q').1).state
    have again := (once.twins.modify others (fun _ => (change p q).2)
      fun _ => (change p' q').2).state
    exact .served ⟨first, lengths⟩ (once.trans again)

end Workspace

/-! ### Frames -/

section Frames

variable (w v : Workspace)

/-- The bindings have twin claims. -/
structure Binding.Twins (b c : Binding) : Prop where
  payload : b.payload.TwinsIn w v c.payload
  record : Option.Rel (Handle.TwinsIn w v) b.record c.record

/-- The entries have twin claims and twin marks. Each claim was placed on the top of its mark. -/
structure ScratchEntry.Twins (e o : ScratchEntry) : Prop where
  handle : e.handle.TwinsIn w v o.handle
  mark : Mark.Twins (w.arena e.handle.pool) (v.arena e.handle.pool) e.mark o.mark
  base : e.handle.below = e.mark.top ∧ o.handle.below = o.mark.top

/-- Stacks of twin entries. When the turn of an entry comes to be released, the top of its pool is
fresh: at first where `fresh` says so, and then where the mark of the entry above it does. -/
inductive ScratchTwins : (Pool → Prop) → List ScratchEntry → List ScratchEntry → Prop where
  | nil {fresh : Pool → Prop} : ScratchTwins fresh [] []
  | cons {fresh : Pool → Prop} {e o : ScratchEntry} {older others : List ScratchEntry} :
    e.Twins w v o → fresh e.handle.pool →
    ScratchTwins
      (fun p => if p = e.handle.pool
        then Top.Fresh (w.arena p) (v.arena p) e.mark.top o.mark.top else fresh p)
      older others →
    ScratchTwins fresh (e :: older) (o :: others)

/-- The same was done in the frame `f` since `w` as in `g` since `v`. -/
structure Frame.Twins (f g : Frame) : Prop where
  workspace : Workspace.Twins w v f.workspace g.workspace
  inputs : SameSizes f.inputs g.inputs
  outputs : SameSizes f.outputs g.outputs
  bindings : Table.Twins (Binding.Twins w v) f.bindings g.bindings
  scratch : ScratchTwins w v (Workspace.Fresh w v f.workspace g.workspace) f.scratch g.scratch
  phase : g.phase = f.phase
  peak : g.peak = f.peak

end Frames

variable {w v x y x' y' : Workspace}

theorem ScratchTwins.mono {fresh still : Pool → Prop} {older others : List ScratchEntry}
    (twins : ScratchTwins w v fresh older others) (kept : ∀ p, fresh p → still p) :
    ScratchTwins w v still older others := by
  induction twins generalizing still with
  | nil => exact .nil
  | cons entries top _ ih =>
    refine .cons entries (kept _ top) (ih fun p marked => ?_)
    dsimp only at marked ⊢
    split at marked
    · rename_i here
      rwa [if_pos here]
    · rename_i other
      rw [if_neg other]
      exact kept p marked

theorem ScratchTwins.forall₂ {fresh : Pool → Prop} {older others : List ScratchEntry}
    (twins : ScratchTwins w v fresh older others) :
    List.Forall₂ (ScratchEntry.Twins w v) older others := by
  induction twins with
  | nil => exact .nil
  | cons entries _ _ ih => exact .cons entries ih

theorem map_eq_of_forall₂ {α β : Type} {R : α → α → Prop} {seen : α → β} {xs ys : List α}
    (related : List.Forall₂ R xs ys) (same : ∀ x y, R x y → seen x = seen y) :
    xs.map seen = ys.map seen := by
  induction related with
  | nil => rfl
  | cons first _ ih => rw [List.map_cons, List.map_cons, same _ _ first, ih]

theorem rel_getElem? {α : Type} {R : α → α → Prop} {xs ys : List α}
    (related : List.Forall₂ R xs ys) (i : Nat) : Option.Rel R xs[i]? ys[i]? := by
  induction related generalizing i with
  | nil => exact .none
  | cons first _ ih =>
    cases i with
    | zero => exact .some first
    | succ i => simpa using ih i

namespace Workspace

/-- A claim is released alike where the top of its pool is fresh. -/
theorem Twins.release (twins : Twins w v x y) (handles : h.TwinsIn w v k)
    (top : Fresh w v x y h.pool) : (y.release k).1 = (x.release h).1 ∧
      Twins w v (x.release h).2 (y.release k).2 ∧
      ∀ p, (p = h.pool → Top.Fresh (w.arena p) (v.arena p) h.below k.below) →
        Fresh w v x y p → Fresh w v (x.release h).2 (y.release k).2 p := by
  obtain ⟨released, after, kept⟩ := (twins h.pool).release handles top
  rw [Workspace.release, Workspace.release, handles.pool]
  refine ⟨released, ?_, ?_⟩
  · intro p
    rw [arena_perform, arena_perform]
    split
    · rename_i here
      exact here ▸ after
    · exact twins p
  · intro p below fresh
    rw [Fresh, arena_perform, arena_perform]
    split
    · rename_i here
      subst here
      exact kept (below rfl)
    · exact fresh

/-- Twin entries whose pool has a fresh top are given back alike. -/
theorem Twins.giveBack {e o : ScratchEntry} (twins : Twins w v x y) (entries : e.Twins w v o)
    (top : Fresh w v x y e.handle.pool) :
    (y.release o.handle).1 = (x.release e.handle).1 ∧
      ((y.release o.handle).2.perform o.handle.pool (.unwindTo o.mark)).1 =
        ((x.release e.handle).2.perform e.handle.pool (.unwindTo e.mark)).1 ∧
      Twins w v (x.giveBack e) (y.giveBack o) ∧
      ∀ p, (if p = e.handle.pool
        then Top.Fresh (w.arena p) (v.arena p) e.mark.top o.mark.top else Fresh w v x y p) →
          Fresh w v (x.giveBack e) (y.giveBack o) p := by
  have pool : o.handle.pool = e.handle.pool := entries.handle.pool
  obtain ⟨released, between, kept⟩ := (twins e.handle.pool).release entries.handle top
  obtain ⟨unwound, after, last⟩ := between.unwindTo entries.mark
  -- A claim that is given back leaves the top on which it was placed, which is that of the mark.
  rw [entries.base.1, entries.base.2] at kept
  have here : (y.giveBack o).arena e.handle.pool =
      (((y.arena e.handle.pool).release o.handle).2.unwindTo o.mark).2 :=
    pool ▸ y.arena_giveBack_self o
  have there : ∀ q ≠ e.handle.pool, (y.giveBack o).arena q = y.arena q :=
    fun q other => y.arena_giveBack_of_ne (pool ▸ other)
  have mine : (x.release e.handle).2.arena e.handle.pool =
      ((x.arena e.handle.pool).release e.handle).2 := x.arena_perform_self _ _
  have yours : (y.release o.handle).2.arena e.handle.pool =
      ((y.arena e.handle.pool).release o.handle).2 := by
    rw [Workspace.release, pool, y.arena_perform_self]
    rfl
  refine ⟨?_, ?_, ?_, ?_⟩
  · rw [Workspace.release, pool]
    exact released
  · rw [pool]
    show (((y.release o.handle).2.arena e.handle.pool).unwindTo o.mark).1 =
      (((x.release e.handle).2.arena e.handle.pool).unwindTo e.mark).1
    rw [mine, yours]
    exact unwound
  · intro p
    by_cases same : p = e.handle.pool
    · subst same
      rw [here, x.arena_giveBack_self]
      exact after
    · rw [there p same, x.arena_giveBack_of_ne same]
      exact twins p
  · intro p fresh
    unfold Fresh
    by_cases same : p = e.handle.pool
    · subst same
      rw [if_pos rfl] at fresh
      rw [here, x.arena_giveBack_self]
      exact last (kept fresh) fresh
    · rw [if_neg same] at fresh
      rw [there p same, x.arena_giveBack_of_ne same]
      exact fresh

/-- Twin stacks of scratch are released alike. -/
theorem Twins.releaseScratch {older others : List ScratchEntry} (twins : Twins w v x y)
    (scratch : ScratchTwins w v (Fresh w v x y) older others) :
    (y.releaseScratch others).1 = (x.releaseScratch older).1 ∧
      Twins w v (x.releaseScratch older).2 (y.releaseScratch others).2 := by
  induction older generalizing others x y with
  | nil =>
    cases scratch
    exact ⟨rfl, twins⟩
  | cons e older ih =>
    cases scratch with
    | cons entries top rest =>
      obtain ⟨released, unwound, after, still⟩ := twins.giveBack entries top
      obtain ⟨later, last⟩ := ih after (rest.mono still)
      constructor
      · rw [releaseScratch_fst, releaseScratch_fst, released, unwound, later]
      · rw [releaseScratch_cons, releaseScratch_cons]
        exact last

end Workspace

namespace Frame

variable {f g : Frame}

/-- Twin frames whose arenas go on to twins are twins. -/
theorem Twins.withWorkspace (twins : Twins w v f g)
    (moves : Workspace.Moves w v f.workspace g.workspace x y) :
    Twins w v { f with workspace := x } { g with workspace := y } :=
  { twins with workspace := moves.twins, scratch := twins.scratch.mono moves.fresh }

theorem Twins.noteUsage (twins : Twins w v f g) : Twins w v f.noteUsage g.noteUsage := by
  refine { twins with peak := ?_ }
  show g.peak.larger g.workspace.usage = f.peak.larger f.workspace.usage
  rw [twins.peak, twins.workspace.usage]

theorem Twins.checkBindable (twins : Twins w v f g) (name : String) :
    g.checkBindable name = f.checkBindable name := by
  simp only [Frame.checkBindable, twins.phase, Table.contains_of_rel (twins.bindings.get? name)]

theorem Twins.bind (twins : Twins w v f g) (name : String) (pool : Pool) (size align : Nat) :
    Matched Eq (Twins w v) (f.bind name pool size align) (g.bind name pool size align) := by
  simp only [Frame.bind, twins.checkBindable]
  cases f.checkBindable name with
  | error fault => exact .refused fault twins
  | ok =>
    have claimed := twins.workspace.allocate pool size align
    generalize f.workspace.allocate pool size align = r at claimed
    generalize g.workspace.allocate pool size align = s at claimed
    cases claimed with
    | refused fault moves => exact .refused _ (twins.withWorkspace moves)
    | served handles moves =>
      have after := twins.withWorkspace moves
      refine .served rfl (Twins.noteUsage { after with bindings := ?_ })
      exact twins.bindings.insert name ⟨handles.2, .none⟩

theorem Twins.claimScratch (twins : Twins w v f g) (pool : Pool) (size align : Nat) :
    Matched Eq (Twins w v) (f.claimScratch pool size align) (g.claimScratch pool size align) := by
  have marks := (twins.workspace pool).mark
  have claimed := twins.workspace.allocate pool size align
  simp only [Frame.claimScratch]
  rcases first : f.workspace.allocate pool size align with ⟨r, x⟩
  rcases second : g.workspace.allocate pool size align with ⟨s, y⟩
  rw [first, second] at claimed
  cases claimed with
  | refused fault moves => exact .refused _ (twins.withWorkspace moves)
  | @served h k _ _ handles moves =>
    obtain ⟨rfl, handles⟩ := handles
    obtain ⟨below, under, top⟩ := twins.workspace.claimed first second
    have length := twins.scratch.forall₂.length_eq
    have entries : ScratchEntry.Twins w v ⟨(f.workspace.arena h.pool).mark, h⟩
        ⟨(g.workspace.arena h.pool).mark, k⟩ := ⟨handles, marks, below, under⟩
    have older : ScratchTwins w v _ f.scratch g.scratch := twins.scratch.mono fun p fresh => by
      show if p = h.pool then Top.Fresh (w.arena p) (v.arena p)
        (f.workspace.arena h.pool).mark.top (g.workspace.arena h.pool).mark.top
        else Workspace.Fresh w v x y p
      split
      · rename_i here
        exact here ▸ fresh
      · exact moves.fresh p fresh
    refine .served (congrArg ScratchId.mk length) (Twins.noteUsage ?_)
    exact { twins with
      workspace := moves.twins
      scratch := .cons entries top older }

/-- A region names twin claims, or none in both. -/
theorem Twins.resolve (twins : Twins w v f g) (r : Region) :
    (∃ fault, f.resolve r = .error fault ∧ g.resolve r = .error fault) ∨
      ∃ h k, f.resolve r = .ok h ∧ g.resolve r = .ok k ∧ h.TwinsIn w v k := by
  cases r with
  | binding name =>
    have found := twins.bindings.get? name
    simp only [Frame.resolve, Frame.lookup]
    generalize f.bindings.get? name = b at found
    generalize g.bindings.get? name = c at found
    cases found with
    | none => exact .inl ⟨_, rfl, rfl⟩
    | some bindings => exact .inr ⟨_, _, rfl, rfl, bindings.payload⟩
  | scratch id =>
    have found := rel_getElem? (List.rel_reverse twins.scratch.forall₂) id.index
    simp only [Frame.resolve, Frame.lookupScratch]
    generalize f.scratch.reverse[id.index]? = e at found
    generalize g.scratch.reverse[id.index]? = o at found
    cases found with
    | none => exact .inl ⟨_, rfl, rfl⟩
    | some entries => exact .inr ⟨_, _, rfl, rfl, entries.handle⟩

theorem Twins.modifyHandle {h k : Handle} (twins : Twins w v f g) (handles : h.TwinsIn w v k)
    (change other : Bytes → Bytes) :
    Matched (fun x y => y.length = x.length) (Twins w v) (f.modifyHandle h change)
      (g.modifyHandle k other) := by
  have matched := twins.workspace.modify handles change other
  simp only [Frame.modifyHandle]
  generalize f.workspace.modify h change = r at matched
  generalize g.workspace.modify k other = s at matched
  cases matched with
  | refused fault moves => exact .refused _ (twins.withWorkspace moves)
  | served length moves => exact .served length (twins.withWorkspace moves)

theorem Twins.write (twins : Twins w v f g) (r : Region) (change other : Bytes → Bytes) :
    Matched (fun x y => y.length = x.length) (Twins w v) (f.write r change) (g.write r other) := by
  rw [write_eq, write_eq]
  rcases twins.resolve r with ⟨fault, first, second⟩ | ⟨h, k, first, second, handles⟩
  · rw [first, second]
    exact .refused fault twins
  · rw [first, second]
    exact twins.modifyHandle handles change other

theorem Twins.read (twins : Twins w v f g) (r : Region) :
    (g.read r).map List.length = (f.read r).map List.length := by
  rw [read_eq, read_eq]
  rcases twins.resolve r with ⟨fault, first, second⟩ | ⟨h, k, first, second, handles⟩
  · rw [first, second]
  · rw [first, second]
    dsimp only
    rcases outcomes_of_map_eq (twins.workspace.bytes handles) with
      ⟨fault, refused, other⟩ | ⟨x, y, shown, other, length⟩
    · rw [refused, other]
    · rw [shown, other]
      exact congrArg Except.ok length

theorem Twins.modifyPair (twins : Twins w v f g) (r q : Region)
    (change : Bytes → Bytes → Bytes × Bytes) :
    Matched (fun x y => y.1.length = x.1.length ∧ y.2.length = x.2.length) (Twins w v)
      (f.modifyPair r q change) (g.modifyPair r q change) := by
  simp only [Frame.modifyPair]
  rcases twins.resolve r with ⟨fault, first, second⟩ | ⟨h, k, first, second, handles⟩
  · rw [first, second]
    exact .refused fault twins
  rcases twins.resolve q with ⟨fault, third, fourth⟩ | ⟨h', k', third, fourth, others⟩
  · rw [first, second, third, fourth]
    exact .refused fault twins
  rw [first, second, third, fourth]
  have matched := twins.workspace.modifyPair handles others change
  dsimp only
  generalize f.workspace.modifyPair h h' change = r at matched
  generalize g.workspace.modifyPair k k' change = s at matched
  cases matched with
  | refused fault moves => exact .refused _ (twins.withWorkspace moves)
  | served lengths moves => exact .served lengths (twins.withWorkspace moves)

/-! #### Tensors -/

theorem Twins.writeRecord {d : Tensor.Descriptor} {h k : Handle} (twins : Twins w v f g)
    (handles : h.TwinsIn w v k) :
    Matched Eq (Twins w v) (f.writeRecord d h) (g.writeRecord d k) := by
  simp only [Frame.writeRecord]
  rcases outcomes_of_map_eq (twins.workspace.bytes handles) with
    ⟨fault, refused, other⟩ | ⟨x, y, shown, other, lengths⟩
  · rw [refused, other]
    exact .refused _ twins
  rw [shown, other]
  dsimp only
  by_cases deep : Tensor.maxRank < d.shape.length
  · simp only [Tensor.Descriptor.encodeInto, deep, if_true]
    exact .refused _ twins
  by_cases short : x.length < Tensor.Record.size
  · simp only [Tensor.Descriptor.encodeInto, deep, lengths, short, if_true, if_false]
    exact .refused _ twins
  · simp only [Tensor.Descriptor.encodeInto, deep, lengths, short, if_false]
    exact .served rfl (twins.withWorkspace (twins.workspace.modify handles _ _).state)

/-- A payload that has no record is given back, and the top of its pool is what it was. -/
theorem Twins.unrecorded {h k : Handle} {p : Pool} {size align : Nat} (twins : Twins w v f g)
    (first : f.workspace.allocate p size align = (.ok h, x))
    (second : g.workspace.allocate p size align = (.ok k, y))
    (handles : h.pool = p ∧ h.TwinsIn w v k)
    (moves : Workspace.Moves w v f.workspace g.workspace x y)
    (still : Workspace.Moves w v x y x' y') :
    (y'.release k).1 = (x'.release h).1 ∧
      Twins w v { Frame.noteUsage { f with workspace := x' } with workspace := (x'.release h).2 }
        { Frame.noteUsage { g with workspace := y' } with workspace := (y'.release k).2 } := by
  obtain ⟨rfl, handles⟩ := handles
  obtain ⟨below, under, top⟩ := twins.workspace.claimed first second
  -- Nothing was claimed above the payload, so it is the top of its pool and can be given back.
  obtain ⟨released, after, kept⟩ := still.twins.release handles (still.fresh _ top)
  have noted : Twins w v (Frame.noteUsage { f with workspace := x' })
      (Frame.noteUsage { g with workspace := y' }) :=
    (twins.withWorkspace (moves.trans still)).noteUsage
  refine ⟨released, { noted with workspace := after, scratch := ?_ }⟩
  refine twins.scratch.mono fun p fresh => kept p ?_ ((moves.trans still).fresh p fresh)
  rintro rfl
  rw [below, under]
  exact fresh

theorem Twins.bindTensor (twins : Twins w v f g) (name : String) (d : Tensor.Descriptor) :
    Matched Eq (Twins w v) (f.bindTensor name d) (g.bindTensor name d) := by
  simp only [Frame.bindTensor, twins.checkBindable]
  cases f.checkBindable name with
  | error fault => exact .refused fault twins
  | ok =>
  cases payloadLength d with
  | error fault => exact .refused _ twins
  | ok length =>
  have claimed := twins.workspace.allocate .ram length d.dtype.align
  dsimp only
  rcases first : f.workspace.allocate .ram length d.dtype.align with ⟨r, x⟩
  rcases second : g.workspace.allocate .ram length d.dtype.align with ⟨s, y⟩
  rw [first, second] at claimed
  cases claimed with
  | refused fault moves => exact .refused _ (twins.withWorkspace moves)
  | @served h k _ _ handles moves =>
  have recorded := moves.twins.allocate .metadata Tensor.Record.size Tensor.Record.align
  dsimp only
  generalize x.allocate .metadata Tensor.Record.size Tensor.Record.align = r at recorded
  generalize y.allocate .metadata Tensor.Record.size Tensor.Record.align = s at recorded
  cases recorded with
  | @refused fault x' y' still =>
    obtain ⟨released, left⟩ := twins.unrecorded first second handles moves still
    dsimp only [Frame.noteUsage] at left ⊢
    generalize x'.release h = r at released left
    generalize y'.release k = s at released left
    obtain ⟨r, x''⟩ := r
    obtain ⟨s, y''⟩ := s
    have same : s = r := released
    rw [same]
    cases r with
    | error again => exact .refused _ left
    | ok => exact .refused _ left
  | @served record other x' y' records still =>
    have offset : k.offset = h.offset := congrArg Place.offset handles.2.place
    have written := (twins.withWorkspace (moves.trans still)).writeRecord
      (d := { d with offset := h.offset }) records.2
    dsimp only
    rw [offset]
    generalize Frame.writeRecord _ _ record = r at written
    generalize Frame.writeRecord _ _ other = s at written
    cases written with
    | refused fault frames => exact .refused fault frames
    | served _ frames =>
      refine .served rfl (Twins.noteUsage { frames with bindings := ?_ })
      exact frames.bindings.insert name ⟨handles.2, .some records.2⟩

/-! #### The caller's tensors -/

theorem Twins.load (twins : Twins w v f g) (input name : String) :
    Matched Eq (Twins w v) (f.load input name) (g.load input name) := by
  have given := twins.inputs input
  simp only [Frame.load, Frame.input]
  generalize f.inputs.get? input = p at given
  generalize g.inputs.get? input = q at given
  cases given with
  | none => exact .refused _ twins
  | @some p q size =>
    have target := twins.read (.binding name)
    simp only [Frame.read] at target
    dsimp only
    rcases outcomes_of_map_eq target with
      ⟨fault, refused, other⟩ | ⟨x, y, shown, other, length⟩
    · rw [refused, other]
      exact .refused _ twins
    rw [shown, other]
    simp only [length, size]
    split
    · exact .refused _ twins
    · exact .served rfl (twins.write (.binding name) (fun _ => p) fun _ => q).state

theorem length_overlay (new old : Bytes) : (Bytes.overlay new old).length = old.length := by
  rw [Bytes.overlay, List.length_append, List.length_take, List.length_drop]
  omega

theorem Twins.store (twins : Twins w v f g) (name output : String) :
    Matched Eq (Twins w v) (f.store name output) (g.store name output) := by
  have source := twins.read (.binding name)
  simp only [Frame.read] at source
  simp only [Frame.store]
  rcases outcomes_of_map_eq source with
    ⟨fault, refused, other⟩ | ⟨x, y, shown, other, length⟩
  · rw [refused, other]
    exact .refused _ twins
  rw [shown, other]
  have wanted := twins.outputs output
  simp only [modifyOutput]
  generalize f.outputs.get? output = p at wanted
  generalize g.outputs.get? output = q at wanted
  cases wanted with
  | none => exact .refused _ twins
  | @some p q size =>
    simp only [length, size]
    split
    · exact .refused _ twins
    · refine .served rfl { twins with outputs := twins.outputs.insert output ?_ }
      rw [length_overlay, length_overlay, size]

theorem Twins.onArena (twins : Twins w v f g) (pool : Pool) (size align : Nat) :
    Matched (fun h k => k.place = h.place) (Twins w v) (f.onArena pool (.allocate size align))
      (g.onArena pool (.allocate size align)) := by
  have claimed := twins.workspace.allocate pool size align
  exact claimed.map (fun h k _ handles => handles.2.place) twins.withWorkspace

theorem Twins.releaseScratch (twins : Twins w v f g) :
    Matched Eq (Twins w v) f.releaseScratch g.releaseScratch := by
  obtain ⟨same, after⟩ := twins.workspace.releaseScratch twins.scratch
  have left : Twins w v
      { f with workspace := (f.workspace.releaseScratch f.scratch).2, scratch := [] }
      { g with workspace := (g.workspace.releaseScratch g.scratch).2, scratch := [] } :=
    { twins with workspace := after, scratch := .nil }
  simp only [Frame.releaseScratch, same]
  cases (f.workspace.releaseScratch f.scratch).1 with
  | none => exact .served rfl left
  | some fault => exact .refused _ left

/-! #### Scripts -/

/-- The calls that a fixed script is made of. A raw claim is never given back. -/
def Call.isScripted : Frame.Call → Bool
  | .bind _ _ _ _ | .bindTensor _ _ | .claimScratch _ _ _ => true
  | .modifyBinding _ _ | .modifyScratch _ _ | .modifyPair _ _ _ => true
  | .load _ _ | .store _ _ => true
  | .onArena _ (.allocate _ _) => true
  | _ => false

/-- The answers are the same to a caller who sees how many bytes there are and where, but neither
the bytes nor the numbers of handles. -/
def Call.Alike : (c : Frame.Call) → c.Answer → c.Answer → Prop
  | .modifyBinding _ _, x, y => x.map List.length = y.map List.length
  | .modifyScratch _ _, x, y => x.map List.length = y.map List.length
  | .modifyPair _ _ _, x, y =>
    x.map (fun p => (p.1.length, p.2.length)) = y.map fun p => (p.1.length, p.2.length)
  | .onArena _ (.allocate _ _), x, y => x.map Handle.place = y.map Handle.place
  | _, x, y => x = y

/-- **One call** of a script is answered alike in twin frames, and leaves twins. -/
theorem Twins.perform (twins : Twins w v f g) (c : Frame.Call) (scripted : c.isScripted = true) :
    c.Alike (f.perform c).1 (g.perform c).1 ∧ Twins w v (f.perform c).2 (g.perform c).2 := by
  cases c with
  | bind name pool size align =>
    have matched := twins.bind name pool size align
    exact ⟨matched.eq, matched.state⟩
  | bindTensor name d =>
    have matched := twins.bindTensor name d
    exact ⟨matched.eq, matched.state⟩
  | claimScratch pool size align =>
    have matched := twins.claimScratch pool size align
    exact ⟨matched.eq, matched.state⟩
  | modifyBinding name change =>
    have matched := twins.write (.binding name) change change
    exact ⟨matched.map_eq fun _ _ same => same.symm, matched.state⟩
  | modifyScratch id change =>
    have matched := twins.write (.scratch id) change change
    exact ⟨matched.map_eq fun _ _ same => same.symm, matched.state⟩
  | modifyPair r q change =>
    have matched := twins.modifyPair r q change
    exact ⟨matched.map_eq fun _ _ same => Prod.ext same.1.symm same.2.symm, matched.state⟩
  | load input name =>
    have matched := twins.load input name
    exact ⟨matched.eq, matched.state⟩
  | store name output =>
    have matched := twins.store name output
    exact ⟨matched.eq, matched.state⟩
  | onArena pool c =>
    cases c with
    | allocate size align =>
      have matched := twins.onArena pool size align
      exact ⟨matched.map_eq fun _ _ same => same.symm, matched.state⟩
    | _ => cases scripted
  | _ => cases scripted

/-! #### Layouts -/

/-- Where everything lies that a frame keeps, and up to which level the arenas are used. -/
structure Layout where
  bindings : List (String × Place × Option Place)
  /-- Scratch claims, newest first. -/
  scratch : List Place
  usage : PerPool Nat
deriving DecidableEq, Repr

def layout (f : Frame) : Layout where
  bindings := f.bindings.entries.map fun entry =>
    (entry.1, entry.2.payload.place, entry.2.record.map Handle.place)
  scratch := f.scratch.map (·.handle.place)
  usage := f.usage

theorem Twins.layout (twins : Twins w v f g) : g.layout = f.layout := by
  have bindings : g.layout.bindings = f.layout.bindings := by
    refine (map_eq_of_forall₂ twins.bindings fun x y same => ?_).symm
    obtain ⟨name, claims⟩ := same
    have records := claims.record
    rw [name, claims.payload.place]
    generalize x.2.record = r at records ⊢
    generalize y.2.record = s at records ⊢
    cases records with
    | none => rfl
    | some handles => rw [Option.map_some, Option.map_some, handles.place]
  have scratch : g.layout.scratch = f.layout.scratch :=
    (map_eq_of_forall₂ twins.scratch.forall₂ fun _ _ entries => entries.handle.place.symm).symm
  have usage : g.layout.usage = f.layout.usage := twins.workspace.usage
  rw [Layout.mk.injEq]
  exact ⟨bindings, scratch, usage⟩

end Frame

end TensorArena
