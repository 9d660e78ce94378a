import TensorArena.Proofs.Frame.Lifetime

/-!
Releasing scratch above leaked claims.

A frame whose scratch stack is empty is asked for scratch, in both pools and in any order, and in
between bytes are claimed straight from its arenas and kept. Releasing scratch then pops every
entry. Where a leaked claim lies above an entry its release is refused, but its arena is unwound to
the mark below it all the same, so each pool with scratch comes back to where it stood before its
first entry. The fault is that of the newest entry below a leaked claim of its pool: the leaked
claims above older entries may be gone by the time those are popped.
-/

namespace TensorArena

open Workspace (claimsIn)

/-- A claim that was granted: scratch, with the state before it, or raw bytes. -/
inductive Grant where
  | scratch (e : ScratchEntry)
  | raw (h : Handle)
deriving DecidableEq, Repr

namespace Grant

/-- The claim itself. -/
@[simp] def handle : Grant → Handle
  | scratch e => e.handle
  | raw h => h

/-- The scratch among claims. -/
@[simp] def entries : List Grant → List ScratchEntry
  | [] => []
  | scratch e :: older => e :: entries older
  | raw _ :: older => entries older

/-- The raw claims among claims. -/
@[simp] def raws : List Grant → List Handle
  | [] => []
  | scratch _ :: older => raws older
  | raw h :: older => h :: raws older

variable {newer older claims : List Grant} {e : ScratchEntry} {g : Grant} {fault : Arena.Fault}

theorem mem_entries_iff : e ∈ entries older ↔ scratch e ∈ older := by
  induction older with
  | nil => simp [entries]
  | cons g rest ih => cases g <;> simp [entries, ih]

theorem entries_append : entries (newer ++ older) = entries newer ++ entries older := by
  induction newer with
  | nil => rfl
  | cons g rest ih => cases g <;> simp [entries, ih]

theorem raws_append : raws (newer ++ older) = raws newer ++ raws older := by
  induction newer with
  | nil => rfl
  | cons g rest ih => cases g <;> simp [raws, ih]

/-- The newest raw claim of a pool. -/
def newestRaw? (p : Pool) (claims : List Grant) : Option Handle :=
  (raws claims).find? fun h => h.pool = p

/-- No scratch of `claims` lies below a raw claim of its pool, where `newer` came after all of
them. -/
def Clear (newer claims : List Grant) : Prop :=
  ∀ above e below, claims = above ++ scratch e :: below →
    newestRaw? e.handle.pool (newer ++ above) = none

/-- The fault is that of the newest scratch of `claims` that lies below a raw claim of its pool, the
newest of which ends where the fault says. -/
def Blames (newer claims : List Grant) (fault : Arena.Fault) : Prop :=
  ∃ above e below top, claims = above ++ scratch e :: below ∧ Clear newer above ∧
    newestRaw? e.handle.pool (newer ++ above) = some top ∧
    fault = .releaseOrder e.handle.pool top.stop e.handle.stop

theorem clear_cons_iff : Clear newer (g :: claims) ↔
    (∀ e, g = scratch e → newestRaw? e.handle.pool newer = none) ∧
      Clear (newer ++ [g]) claims := by
  constructor
  · intro clear
    constructor
    · rintro e rfl
      simpa using clear [] e claims rfl
    · rintro above e below rfl
      simpa using clear (g :: above) e below rfl
  · rintro ⟨first, others⟩ above e below parts
    cases above with
    | nil =>
      cases parts
      simpa using first e rfl
    | cons h above =>
      cases parts
      simpa using others above e below rfl

theorem blames_cons_iff : Blames newer (g :: claims) fault ↔
    (∃ e top, g = scratch e ∧ newestRaw? e.handle.pool newer = some top ∧
      fault = .releaseOrder e.handle.pool top.stop e.handle.stop) ∨
    (∀ e, g = scratch e → newestRaw? e.handle.pool newer = none) ∧
      Blames (newer ++ [g]) claims fault := by
  constructor
  · rintro ⟨above, e, below, top, parts, clear, covered, rfl⟩
    cases above with
    | nil =>
      cases parts
      left
      exact ⟨e, top, rfl, by simpa using covered, rfl⟩
    | cons h above =>
      cases parts
      right
      obtain ⟨first, others⟩ := clear_cons_iff.mp clear
      exact ⟨first, above, e, below, top, rfl, others, by simpa using covered, rfl⟩
  · rintro (⟨e, top, rfl, covered, rfl⟩ | ⟨first, above, e, below, top, rfl, others, covered, rfl⟩)
    · exact ⟨[], e, claims, top, rfl, by simp [Clear], by simpa using covered, rfl⟩
    · exact ⟨g :: above, e, below, top, rfl, clear_cons_iff.mpr ⟨first, others⟩,
        by simpa using covered, rfl⟩

end Grant

/-! ### Popping the stack -/

/-- The mark of each scratch claim stands for the claims below it. -/
def Seated (grounds : Pool → Top) : List Grant → Prop
  | [] => True
  | .raw _ :: older => Seated grounds older
  | .scratch e :: older =>
    (e.mark.top = (grounds e.handle.pool).over (claimsIn e.handle.pool (older.map (·.handle))) ∧
      ∀ h ∈ claimsIn e.handle.pool (older.map (·.handle)),
        h.stamp.seq < e.mark.clock ∧ h.stop ≤ e.mark.height) ∧ Seated grounds older

section Release

variable {w : Workspace} {grounds : Pool → Top} {e : ScratchEntry}
  {newerEntries olderEntries : List ScratchEntry} {newer claims older : List Grant}

/-- A pool comes back to the mark of its oldest scratch claim. -/
theorem Anchored.releaseScratch_oldest (anchored : Anchored w (newerEntries ++ e :: olderEntries))
    (sound : ∀ p, (w.arena p).Sound) (oldest : ∀ o ∈ olderEntries, o.handle.pool ≠ e.handle.pool) :
    ∃ v, (w.releaseScratch (newerEntries ++ e :: olderEntries)).2 = v ∧
      (v.arena e.handle.pool).highWater = e.mark.height ∧
      (v.arena e.handle.pool).top = e.mark.top := by
  refine ⟨_, rfl, ?_⟩
  induction newerEntries generalizing w with
  | nil =>
    obtain ⟨a, -, -, -, -, -, unwound, -⟩ := anchored.arena_giveBack sound
    obtain ⟨-, left⟩ := Arena.unwindTo_ok_iff.mp unwound
    rw [List.nil_append, Workspace.releaseScratch_cons,
      arena_releaseScratch_of_ne _ fun o mem => (oldest o mem).symm, left]
    exact ⟨rfl, rfl⟩
  | cons n rest ih =>
    obtain ⟨still, stays⟩ := anchored.giveBack sound
    rw [List.cons_append, Workspace.releaseScratch_cons]
    exact ih still stays

/-- A refused release is the fault of the stack, whatever comes after it. -/
theorem releaseScratch_of_refused {fault : Arena.Fault} (entries : List ScratchEntry)
    (refused : (w.release e.handle).1 = .error fault) :
    (w.releaseScratch (e :: entries)).1 = some fault := by
  rw [Workspace.releaseScratch_fst, refused]
  rfl

/-- Where an entry is released and unwound, the fault is that of the older ones. -/
theorem releaseScratch_of_released {v x : Workspace} (entries : List ScratchEntry)
    (released : w.release e.handle = (.ok (), v))
    (unwound : v.perform e.handle.pool (.unwindTo e.mark) = (.ok (), x)) :
    (w.releaseScratch (e :: entries)).1 = ((w.giveBack e).releaseScratch entries).1 := by
  rw [Workspace.releaseScratch_fst, released, unwound]
  rfl

theorem Seated.recallsOn (seated : Seated grounds (.scratch e :: older))
    (anchored : Anchored w (e :: Grant.entries older)) :
    (w.arena e.handle.pool).RecallsOn (grounds e.handle.pool) e.mark
      (claimsIn e.handle.pool (older.map (·.handle))) :=
  { anchored.recalled e List.mem_cons_self with top := seated.1.1, base := seated.1.2 }

/-- The newest raw claim of a pool is the first of its claims there. -/
theorem claimsIn_raws (p : Pool) (newer : List Grant) :
    (claimsIn p (Grant.raws newer)).head? = Grant.newestRaw? p newer := by
  rw [claimsIn, List.head?_filter]
  rfl

/-- Scratch below a raw claim of its pool cannot be released. -/
theorem release_of_covered {live : List Handle} {top : Handle}
    (stacked : w.StacksOn grounds (Grant.raws newer ++ e.handle :: live))
    (covered : Grant.newestRaw? e.handle.pool newer = some top) :
    (w.release e.handle).1 =
      .error (.releaseOrder e.handle.pool top.stop e.handle.stop) := by
  obtain ⟨rest, above⟩ : ∃ rest, claimsIn e.handle.pool (Grant.raws newer) = top :: rest := by
    rw [← claimsIn_raws] at covered
    exact ⟨_, List.eq_cons_of_mem_head? covered⟩
  have onStack := stacked e.handle.pool
  rw [Workspace.claimsIn_append, above, Workspace.claimsIn_cons_self, List.cons_append] at onStack
  have refused := onStack.release_lower (List.mem_append_right _ List.mem_cons_self)
  have answer := congrArg Prod.fst refused
  rwa [Workspace.pool_arena] at answer

/-- Scratch with no raw claim of its pool above it is released, and its mark restored. -/
theorem release_of_uncovered
    (stacked : w.StacksOn grounds (Grant.raws newer ++ e.handle :: older.map (·.handle)))
    (anchored : Anchored w (e :: Grant.entries older)) (seated : Seated grounds (.scratch e :: older))
    (free : Grant.newestRaw? e.handle.pool newer = none) :
    (w.releaseScratch (Grant.entries (.scratch e :: older))).1 =
        ((w.giveBack e).releaseScratch (Grant.entries older)).1 ∧
      (w.giveBack e).StacksOn grounds (Grant.raws newer ++ older.map (·.handle)) := by
  have none : claimsIn e.handle.pool (Grant.raws newer) = [] := by
    rw [← claimsIn_raws] at free
    exact List.head?_eq_none_iff.mp free
  have first : w.StacksOn grounds (e.handle :: (Grant.raws newer ++ older.map (·.handle))) := by
    intro p
    have onStack := stacked p
    rw [Workspace.claimsIn_append] at onStack
    by_cases here : e.handle.pool = p
    · subst here
      rw [none, List.nil_append] at onStack
      rw [Workspace.claimsIn_cons_self, Workspace.claimsIn_append, none, List.nil_append]
      rwa [Workspace.claimsIn_cons_self] at onStack
    · rw [Workspace.claimsIn_cons_of_ne here, Workspace.claimsIn_append]
      rwa [Workspace.claimsIn_cons_of_ne here] at onStack
  obtain ⟨v, released, popped, level, -, continues, -⟩ := first.release
  obtain ⟨clock, height⟩ := anchored.above e List.mem_cons_self
  have recalled := (seated.recallsOn anchored).of_continues continues (by simpa using clock)
    (level ▸ height)
  have below : claimsIn e.handle.pool (Grant.raws newer ++ older.map (·.handle)) =
      claimsIn e.handle.pool (older.map (·.handle)) := by
    rw [Workspace.claimsIn_append, none, List.nil_append]
  rw [← below] at recalled
  obtain ⟨x, unwound, left, -⟩ := popped.unwind recalled
  have back : w.giveBack e = x := by
    rw [Workspace.giveBack, released, unwound]
  exact ⟨releaseScratch_of_released _ released unwound, back ▸ left⟩

/-- **Popping the stack** finds no fault exactly if no scratch lies below a raw claim of its pool,
and otherwise that of the newest such scratch. -/
theorem releaseScratch_answer (sound : ∀ p, (w.arena p).Sound)
    (stacked : w.StacksOn grounds (Grant.raws newer ++ claims.map (·.handle)))
    (anchored : Anchored w (Grant.entries claims)) (seated : Seated grounds claims) :
    ((w.releaseScratch (Grant.entries claims)).1 = none ↔ Grant.Clear newer claims) ∧
      ∀ fault, (w.releaseScratch (Grant.entries claims)).1 = some fault ↔
        Grant.Blames newer claims fault := by
  induction claims generalizing newer w with
  | nil => simp [Grant.entries, Workspace.releaseScratch, Grant.Clear, Grant.Blames]
  | cons g older ih =>
    cases g with
    | raw h =>
      have passed : w.StacksOn grounds (Grant.raws (newer ++ [.raw h]) ++ older.map (·.handle)) := by
        simpa [Grant.raws_append] using stacked
      obtain ⟨clear, blames⟩ := ih sound passed anchored seated
      constructor
      · simpa [Grant.clear_cons_iff] using clear
      · intro fault
        simpa [Grant.blames_cons_iff] using blames fault
    | scratch e =>
      cases above : Grant.newestRaw? e.handle.pool newer with
      | some top =>
        have answer : (w.releaseScratch (Grant.entries (.scratch e :: older))).1 = some _ :=
          releaseScratch_of_refused _ (release_of_covered stacked above)
        rw [answer]
        constructor
        · simp [Grant.clear_cons_iff, above]
        · intro fault
          simp [Grant.blames_cons_iff, above, eq_comm]
      | none =>
        obtain ⟨same, popped⟩ := release_of_uncovered stacked anchored seated above
        obtain ⟨rest, stays⟩ := anchored.giveBack sound
        have passed : (w.giveBack e).StacksOn grounds
            (Grant.raws (newer ++ [.scratch e]) ++ older.map (·.handle)) := by
          simpa [Grant.raws_append] using popped
        obtain ⟨clear, blames⟩ := ih stays passed rest seated.2
        rw [same]
        constructor
        · simpa [Grant.clear_cons_iff, above] using clear
        · intro fault
          simpa [Grant.blames_cons_iff, above] using blames fault

end Release

/-! ### Requests -/

namespace Frame

/-- The call asks for scratch, or for bytes straight from an arena. -/
def Call.isClaim : Frame.Call → Bool
  | .claimScratch _ _ _ => true
  | .onArena _ (.allocate _ _) => true
  | _ => false

/-- What a call is granted. -/
def grants (f : Frame) : Frame.Call → List Grant
  | .claimScratch pool size align =>
    match (f.workspace.allocate pool size align).1 with
    | .ok h => [.scratch ⟨(f.workspace.arena pool).mark, h⟩]
    | .error _ => []
  | .onArena pool (.allocate size align) =>
    match (f.workspace.allocate pool size align).1 with
    | .ok h => [.raw h]
    | .error _ => []
  | _ => []

/-- What calls in order are granted, newest first. -/
def granted (f : Frame) : List Frame.Call → List Grant
  | [] => []
  | c :: rest => (f.perform c).2.granted rest ++ f.grants c

variable {f g : Frame} {grounds : Pool → Top} {claims : List Grant} {answer : Except Fault Unit}

theorem granted_append (f : Frame) (first rest : List Frame.Call) :
    f.granted (first ++ rest) = (f.after first).granted rest ++ f.granted first := by
  induction first generalizing f with
  | nil => simp [granted, after]
  | cons c more ih => simp [granted, after, ih]

/-- The claims stack on `grounds`, and the scratch among them is that of the frame. -/
structure Laden (grounds : Pool → Top) (claims : List Grant) (f : Frame) : Prop where
  scratch : f.scratch = Grant.entries claims
  stacked : f.workspace.StacksOn grounds (claims.map (·.handle))
  anchored : Anchored f.workspace (Grant.entries claims)
  seated : Seated grounds claims

theorem Laden.sound (laden : f.Laden grounds claims) (p : Pool) : (f.workspace.arena p).Sound :=
  (laden.stacked p).sound

/-- A frame without scratch carries nothing yet. -/
theorem laden_nil (sound : ∀ p, (f.workspace.arena p).Sound) (empty : f.scratch = []) :
    f.Laden (fun p => (f.workspace.arena p).top) [] where
  scratch := empty
  stacked := Workspace.stacksOn_of_sound sound
  anchored := .nil _
  seated := trivial

theorem Laden.claimScratch (laden : f.Laden grounds claims) (pool : Pool) (size align : Nat) :
    (f.claimScratch pool size align).2.Laden grounds
      (f.grants (.claimScratch pool size align) ++ claims) := by
  have outcome := f.claimScratch_outcome pool size align
  generalize f.claimScratch pool size align = result at outcome
  cases outcome with
  | refused refused =>
    simp only [grants, refused]
    exact laden
  | @claimed h v claimed =>
    simp only [grants, claimed]
    have marked := (laden.stacked pool).recalls_mark
    obtain rfl : h.pool = pool := (Workspace.allocate_ok claimed).2.1
    constructor
    case scratch => exact congrArg (_ :: ·) laden.scratch
    case stacked => exact (laden.stacked.allocate claimed).1
    case anchored => exact laden.anchored.claim laden.sound claimed
    case seated => exact ⟨⟨marked.top, marked.base⟩, laden.seated⟩

theorem Laden.onArena (laden : f.Laden grounds claims) (pool : Pool) (size align : Nat) :
    (f.onArena pool (.allocate size align)).2.Laden grounds
      (f.grants (.onArena pool (.allocate size align)) ++ claims) := by
  have outcome : (f.onArena pool (.allocate size align)).2 =
      { f with workspace := (f.workspace.allocate pool size align).2 } := rfl
  rw [outcome]
  rcases claimed : f.workspace.allocate pool size align with ⟨fault | h, v⟩
  · obtain rfl := Workspace.allocate_error claimed
    simp only [grants, claimed]
    exact laden
  · simp only [grants, claimed]
    constructor
    case scratch => exact laden.scratch
    case stacked => exact (laden.stacked.allocate claimed).1
    case anchored =>
      exact laden.anchored.of_spares (Workspace.allocate_spares laden.sound claimed)
    case seated => exact laden.seated

/-- **Requests** add what they are granted. -/
theorem Laden.after (laden : f.Laden grounds claims) (calls : List Frame.Call)
    (only : ∀ c ∈ calls, c.isClaim = true) :
    (f.after calls).Laden grounds (f.granted calls ++ claims) := by
  induction calls generalizing f claims with
  | nil => exact laden
  | cons c rest ih =>
    have one : (f.perform c).2.Laden grounds (f.grants c ++ claims) := by
      have claim := only c List.mem_cons_self
      cases c with
      | claimScratch pool size align => exact laden.claimScratch pool size align
      | onArena pool inner =>
        cases inner with
        | allocate size align => exact laden.onArena pool size align
        | _ => cases claim
      | _ => cases claim
    have rest := ih one fun d mem => only d (List.mem_cons_of_mem _ mem)
    rwa [← List.append_assoc] at rest

/-! ### Releasing -/

theorem releaseScratch_fst (f : Frame) : f.releaseScratch.1 =
    match (f.workspace.releaseScratch f.scratch).1 with
    | none => .ok ()
    | some fault => .error (.arena fault) := by
  unfold releaseScratch
  rcases f.workspace.releaseScratch f.scratch with ⟨_ | fault, w⟩ <;> rfl

/-- A pool comes back to where it stood before its first scratch. -/
theorem Laden.releaseScratch_first {rest : List Frame.Call} {size align : Nat} {id : ScratchId}
    {p : Pool} (laden : f.Laden grounds claims) (only : ∀ c ∈ rest, c.isClaim = true)
    (done : (f.claimScratch p size align).1 = .ok id)
    (earliest : ∀ e, .scratch e ∈ claims → e.handle.pool ≠ p)
    (released : ((f.claimScratch p size align).2.after rest).releaseScratch.2 = g) :
    (g.workspace.arena p).highWater = (f.workspace.arena p).highWater ∧
      (g.workspace.arena p).top = (f.workspace.arena p).top := by
  obtain ⟨h, v, claimed⟩ : ∃ h v, f.workspace.allocate p size align = (.ok h, v) := by
    have outcome := f.claimScratch_outcome p size align
    generalize f.claimScratch p size align = result at outcome done
    cases outcome with
    | refused => cases done
    | claimed claimed => exact ⟨_, _, claimed⟩
  obtain rfl : h.pool = p := (Workspace.allocate_ok claimed).2.1
  have height := (laden.sound h.pool).height_mark
  have after := (laden.claimScratch h.pool size align).after rest only
  simp only [grants, claimed, List.singleton_append] at after
  have anchored := after.anchored
  rw [Grant.entries_append, Grant.entries] at anchored
  obtain ⟨u, left, level, top⟩ := anchored.releaseScratch_oldest after.sound
    fun o mem => earliest o (Grant.mem_entries_iff.mp mem)
  rw [releaseScratch_snd, after.scratch, Grant.entries_append, Grant.entries, left] at released
  subst released
  exact ⟨level.trans height, top⟩

/-- **Releasing scratch restores every pool**, whatever was leaked. The stack is empty after it. A
pool with no scratch is not touched, and any other one is back where it stood before its first
scratch. There is no fault exactly if no scratch lies below a leaked claim of its pool, and
otherwise the fault is that of the newest such scratch. -/
theorem releaseScratch_restores {issued : PerPool (List Token)}
    (reached : ∀ p, (f.workspace.arena p).Reached (issued.get p)) (empty : f.scratch = [])
    (calls : List Frame.Call) (only : ∀ c ∈ calls, c.isClaim = true)
    (released : (f.after calls).releaseScratch = (answer, g)) :
    g.scratch = [] ∧
      (∀ p, (∀ e, .scratch e ∈ f.granted calls → e.handle.pool ≠ p) →
        g.workspace.arena p = (f.after calls).workspace.arena p) ∧
      (∀ first size align id rest p, calls = first ++ .claimScratch p size align :: rest →
        ((f.after first).claimScratch p size align).1 = .ok id →
        (∀ e, .scratch e ∈ f.granted first → e.handle.pool ≠ p) →
        (g.workspace.arena p).highWater = ((f.after first).workspace.arena p).highWater ∧
          (g.workspace.arena p).top = ((f.after first).workspace.arena p).top) ∧
      (answer = .ok () ↔ Grant.Clear [] (f.granted calls)) ∧
      ∀ fault, answer = .error fault ↔
        ∃ cause, fault = .arena cause ∧ Grant.Blames [] (f.granted calls) cause := by
  have sound (p : Pool) : (f.workspace.arena p).Sound := (reached p).sound.1
  have laden := (laden_nil sound empty).after calls only
  rw [List.append_nil] at laden
  obtain rfl : (f.after calls).releaseScratch.2 = g := congrArg Prod.snd released
  obtain rfl : (f.after calls).releaseScratch.1 = answer := congrArg Prod.fst released
  have stacked : (f.after calls).workspace.StacksOn _
      (Grant.raws [] ++ (f.granted calls).map (·.handle)) := laden.stacked
  obtain ⟨clear, blames⟩ := releaseScratch_answer laden.sound stacked laden.anchored laden.seated
  rw [← laden.scratch] at clear blames
  rw [releaseScratch_snd, releaseScratch_fst]
  refine ⟨rfl, ?_, ?_, ?_, ?_⟩
  · intro p untouched
    refine arena_releaseScratch_of_ne _ fun e mem => ?_
    rw [laden.scratch, Grant.mem_entries_iff] at mem
    exact (untouched e mem).symm
  · rintro first size align id rest p rfl done earliest
    have before := (laden_nil sound empty).after first fun c mem =>
      only c (List.mem_append_left _ mem)
    rw [List.append_nil] at before
    have others : ∀ c ∈ rest, c.isClaim = true := fun c mem =>
      only c (List.mem_append_right _ (List.mem_cons_of_mem _ mem))
    refine before.releaseScratch_first others done earliest ?_
    rw [releaseScratch_snd, after_append]
    rfl
  · rw [← clear]
    cases ((f.after calls).workspace.releaseScratch (f.after calls).scratch).1 <;> simp
  · intro fault
    simp only [← blames]
    cases ((f.after calls).workspace.releaseScratch (f.after calls).scratch).1 <;> simp [eq_comm]

/-! Above one bound byte, scratch is claimed in both pools, and bytes are leaked in between. The
newest scratch is popped without a fault; the one in the metadata pool lies below a leaked byte. -/

namespace Leaky

/-- A frame with one byte bound. -/
def begin : Frame := ((start (.zeroed 64 64) .empty .empty).bind "byte" .ram 1 1).2

def byte : Handle := ⟨⟨2⟩, .ram, 0, 1, ⟨0, 0⟩, .empty⟩

def issued : PerPool (List Token) := ⟨[], [.handle byte]⟩

def later : List Frame.Call :=
  [.onArena .ram (.allocate 2 1), .claimScratch .metadata 8 8, .claimScratch .ram 1 1,
    .claimScratch .ram 500 1, .onArena .metadata (.allocate 1 1)]

def calls : List Frame.Call := .claimScratch .ram 4 4 :: later

theorem reached (p : Pool) : (begin.workspace.arena p).Reached (issued.get p) := by
  cases p with
  | metadata => exact Arena.reached_zeroed ⟨1⟩ .metadata (by decide) (by decide)
  | ram =>
    have built : (Arena.zeroed ⟨2⟩ .ram 64).Reached [] :=
      Arena.reached_zeroed ⟨2⟩ .ram (by decide) (by decide)
    exact built.called (.allocate 1 1) (by simp [Arena.Call.presents])

end Leaky

open Leaky in
theorem releaseScratch_restores_leaky :
    (∀ p, (begin.workspace.arena p).Reached (issued.get p)) ∧ begin.scratch = [] ∧
      (∀ c ∈ calls, c.isClaim = true) ∧
      ∃ g, (begin.after calls).releaseScratch =
          (.error (.arena (.releaseOrder .metadata 9 8)), g) ∧ g.scratch = [] ∧
        (g.workspace.arena .ram).highWater = 1 ∧
        Grant.Blames [] (begin.granted calls) (.releaseOrder .metadata 9 8) := by
  have only : ∀ c ∈ calls, c.isClaim = true := by decide
  have released : (begin.after calls).releaseScratch =
      (.error (.arena (.releaseOrder .metadata 9 8)), (begin.after calls).releaseScratch.2) :=
    Prod.ext (by decide +kernel) rfl
  obtain ⟨empty, -, back, -, blamed⟩ := releaseScratch_restores reached rfl calls only released
  have ram := (back [] 4 4 ⟨0⟩ later .ram rfl (by decide) (by simp [granted])).1
  obtain ⟨cause, same, blames⟩ := (blamed _).mp rfl
  cases same
  exact ⟨reached, rfl, only, _, released, empty, ram.trans (by decide), blames⟩

end Frame

end TensorArena
