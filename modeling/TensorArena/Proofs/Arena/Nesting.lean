import Mathlib.Data.List.Nodup
import TensorArena.Proofs.Arena.Content
import TensorArena.Proofs.Arena.Since

/-!
Nested scopes.

Work in a scope is a tree: the scope is asked things, scopes are opened in it and worked in, and
in the end it is dropped or finished. While a nested scope is open nobody else reaches the arena.
Whatever was done to the arena before, each scope stands on the state at which it was entered:
its claims stack up on the top of that state, nothing below is discarded, and so its mark can be
restored when it ends, once or twice over.
-/

namespace TensorArena

/-! ### Trees of scopes -/

namespace Scope

/-- How a scope ends: it is dropped, or it is finished first, which unwinds once more. -/
inductive Ending where
  | drop
  | finish
deriving DecidableEq, Repr

/-- The call by which a scope ends. -/
def Ending.call : Ending → Call
  | .drop => .leave
  | .finish => .finish

/-- The call ends its scope. -/
def Call.ends : Call → Bool
  | .leave => true
  | .finish => true
  | _ => false

/-- What is done in a scope until it ends. -/
inductive Work where
  | close (e : Ending)
  | ask (c : Call) (stays : c.ends = false) (rest : Work)
  | nest (inner rest : Work)

/-- What can be seen while scopes are worked in. -/
inductive Moment where
  /-- The scope was just entered. -/
  | entered (s : Scope)
  /-- The scope can be asked; it has issued the slots `own`. -/
  | idle (s : Scope) (own : List Slot) (a : Arena)
  /-- A scope nested in this one was entered at `before` and has ended with `after`. -/
  | returned (s : Scope) (own : List Slot) (before after : Arena)
  /-- The scope is about to end. -/
  | ending (s : Scope) (e : Ending) (a : Arena)

/-- The scope after it was asked. -/
def Call.next (s : Scope) : (c : Call) → c.Answer → Scope
  | .allocate _ _, (_, t) => t
  | _, _ => s

/-- The slots in an answer. -/
def Call.issues : (c : Call) → c.Answer → List Slot
  | .allocate _ _, (.ok slot, _) => [slot]
  | _, _ => []

/-- The moments of the work in an open scope that has issued the slots `own`, and the arena after
the scope has ended. -/
def Work.run : Work → Scope → List Slot → Arena → List Moment × Arena
  | .close e, s, own, a => ([.idle s own a, .ending s e a], (s.perform e.call a).2)
  | .ask c _ rest, s, own, a =>
    let asked := s.perform c a
    let later := rest.run (c.next s asked.1) (own ++ c.issues asked.1) asked.2
    (.idle s own a :: later.1, later.2)
  | .nest inner rest, s, own, a =>
    let nested := inner.run (enter a).1 [] (enter a).2
    let later := rest.run s own nested.2
    (.idle s own a :: .entered (enter a).1 :: nested.1 ++ .returned s own a nested.2 :: later.1,
      later.2)

/-- A scope is entered, worked in, and ends. -/
def Work.course (work : Work) (a : Arena) : List Moment × Arena :=
  let worked := work.run (enter a).1 [] (enter a).2
  (.entered (enter a).1 :: worked.1, worked.2)

/-- The tags of the scopes that are entered. -/
def Moment.tags : List Moment → List ScopeTag
  | [] => []
  | .entered s :: rest => s.tag :: tags rest
  | _ :: rest => tags rest

/-! ### What is seen -/

/-- An open scope accepts the slots `own` and no others. -/
structure Stands (s : Scope) (own : List Slot) (a : Arena) : Prop where
  /-- The level at opening has not been left, so that what is used is the difference. -/
  used : s.mark.height + s.used a = a.highWater
  accepts : ∀ slot ∈ own, ∃ bytes, s.bytes slot a = .ok bytes ∧
    ∀ change, (s.modify slot change a).1 = .ok bytes
  acceptsPair : ∀ p ∈ own, ∀ q ∈ own, p ≠ q → ∃ bytes, ∀ change,
    (s.modifyPair p q change a).1 = .ok bytes
  refuses : ∀ slot ∉ own, s.bytes slot a = .error (.foreign a.pool) ∧
    ∀ change, s.modify slot change a = (.error (.foreign a.pool), a)
  refusesPair : ∀ p q, p ∉ own ∨ q ∉ own → ∀ change,
    s.modifyPair p q change a = (.error (.foreign a.pool), a)

/-- Every unwinding of the ending succeeds. -/
def Closes (s : Scope) (a : Arena) : Ending → Prop
  | .drop => (a.unwindTo s.mark).1 = .ok ()
  | .finish => (s.finish a).1 = .ok () ∧ ((a.unwindTo s.mark).2.unwindTo s.mark).1 = .ok ()

/-- What is right to see at a moment. -/
def Moment.Right : Moment → Prop
  | .entered _ => True
  | .idle s own a => s.Stands own a
  | .returned s own before after => after.highWater = before.highWater ∧ after.top = before.top ∧
    ∀ slot ∈ own, s.bytes slot after = s.bytes slot before
  | .ending s e a => s.Closes a e

end Scope

/-! ### States that follow -/

namespace Arena

variable {a b : Arena} {ground : Top} {live : List Handle}

/-- Live claims are live later, where the top is theirs again. -/
theorem StacksOn.of_since (stacked : a.StacksOn ground live) (since : a.Since b) (sound : b.Sound)
    (top : b.top = a.top) : b.StacksOn ground live where
  sound := sound
  top := top.trans stacked.top
  below := stacked.below
  order := stacked.order
  owned h mem := by
    obtain ⟨arena, epoch, before, within⟩ := stacked.owned h mem
    refine ⟨arena.trans since.id.symm, epoch.trans since.epoch.symm, ?_, ?_⟩
    · exact Nat.lt_of_lt_of_le before since.clock
    · exact Nat.le_trans within since.lowest
  kept h mem := since.shown _ (stacked.owned h mem).2.2.1 (stacked.kept h mem)

/-- The arena stands where it stood at `a`, and what `a` had is still there. -/
structure Regains (a b : Arena) : Prop where
  since : a.Since b
  sound : b.Sound
  highWater : b.highWater = a.highWater
  top : b.top = a.top

end Arena

namespace Scope

/-! ### One scope -/

/-- The scope was entered at `base`, and has issued the slots `own` since. -/
structure Inside (base : Arena) (s : Scope) (own : List Slot) (a : Arena) : Prop where
  mark : s.mark = base.mark
  pool : s.pool = base.pool
  since : base.Since a
  stacked : a.StacksOn base.top s.handles.reverse
  after : ∀ t ∈ s.tokens, t.After base
  own : ∀ slot, slot ∈ own ↔ slot.scope = s.tag ∧ slot.index < s.handles.length

variable {base a b : Arena} {s : Scope} {own : List Slot} {slot : Slot}

theorem inside_enter (sound : a.Sound) : (enter a).1.Inside a [] (enter a).2 where
  mark := rfl
  pool := rfl
  since := (Arena.Since.refl sound).perform sound .openScope rfl (by simp [Arena.Call.presents])
  stacked :=
    have entered : (enter a).2.Sound := ⟨sound.words, sound.highWater, sound.dead⟩
    entered.stacksOn
  after := by
    intro t mem
    obtain rfl := List.mem_singleton.mp mem
    have height := sound.height_mark
    refine ⟨Nat.le_refl _, Nat.le_of_eq height.symm, ?_⟩
    exact Nat.le_trans (Nat.le_of_eq height) sound.highWater
  own := by simp [enter]

/-- A slot that the scope issued names one of its claims. -/
theorem Inside.resolve_ok (inside : s.Inside base own a) (mem : slot ∈ own) :
    ∃ h, s.handles[slot.index]? = some h ∧ s.resolve slot = .ok h ∧ h ∈ s.handles.reverse := by
  obtain ⟨tag, index⟩ := (inside.own slot).mp mem
  have found := List.getElem?_eq_getElem index
  refine ⟨s.handles[slot.index], found, ?_, List.mem_reverse.mpr (List.getElem_mem index)⟩
  simp [resolve, tag, found]

/-- Every other slot is foreign. -/
theorem Inside.resolve_error (inside : s.Inside base own a) (other : slot ∉ own) :
    s.resolve slot = .error (.foreign a.pool) := by
  have pool : s.pool = a.pool := inside.pool.trans inside.since.pool.symm
  unfold resolve
  rw [pool]
  split
  · rfl
  · rename_i tag
    have past : s.handles.length ≤ slot.index := by
      refine Nat.le_of_not_lt fun index => other ((inside.own slot).mpr ⟨?_, index⟩)
      exact Decidable.not_not.mp tag
    rw [List.getElem?_eq_none past]

/-- No claim has two slots. -/
theorem Inside.slot_eq {p q : Slot} (inside : s.Inside base own a) (first : p ∈ own)
    (second : q ∈ own) (same : s.handles[p.index]? = s.handles[q.index]?) : p = q := by
  obtain ⟨tag, within⟩ := (inside.own p).mp first
  obtain ⟨also, -⟩ := (inside.own q).mp second
  have nodup : s.handles.reverse.Nodup := by
    refine inside.stacked.order.imp fun order same => ?_
    subst same
    exact Nat.lt_irrefl _ order.1
  have index : p.index = q.index :=
    (List.getElem?_inj within (List.nodup_reverse.mp nodup)).mp same
  cases p
  cases q
  simp_all

/-- **Between calls** an open scope accepts what it issued. -/
theorem Inside.stands (inside : s.Inside base own a) (sound : base.Sound) : s.Stands own a where
  used := by
    have height : s.mark.height = base.highWater := inside.mark ▸ sound.height_mark
    rw [used, height]
    exact Nat.add_sub_of_le inside.since.lowest
  accepts slot mem := by
    obtain ⟨h, -, resolved, held⟩ := inside.resolve_ok mem
    have read : a.bytes h = .ok (a.view h) :=
      Arena.bytes_ok_iff.mpr ⟨inside.stacked.checkLive held, rfl⟩
    refine ⟨a.view h, ?_, fun change => ?_⟩
    · simp only [bytes, resolved, read]
    · simp only [modify, resolved, Arena.modify, read]
  acceptsPair p first q second other := by
    obtain ⟨h, atFirst, left, heldFirst⟩ := inside.resolve_ok first
    obtain ⟨k, atSecond, right, heldSecond⟩ := inside.resolve_ok second
    have differ : h ≠ k := by
      rintro rfl
      exact other (inside.slot_eq first second (atFirst.trans atSecond.symm))
    have apart := inside.stacked.apart heldFirst heldSecond differ
    have read : a.bytesPair h k = .ok (a.view h, a.view k) :=
      Arena.bytesPair_ok_iff.mpr ⟨inside.stacked.checkLive heldFirst,
        inside.stacked.checkLive heldSecond, apart.overlaps_eq_false, rfl, rfl⟩
    refine ⟨(a.view h, a.view k), fun change => ?_⟩
    simp only [modifyPair, left, right, Arena.modifyPair, read]
  refuses slot other := by
    have refused := inside.resolve_error other
    refine ⟨?_, fun change => ?_⟩
    · simp only [bytes, refused]
    · simp only [modify, refused]
  refusesPair p q other change := by
    rw [modifyPair]
    by_cases first : p ∈ own
    · obtain ⟨h, -, left, -⟩ := inside.resolve_ok first
      have right := inside.resolve_error (other.resolve_left (not_not_intro first))
      simp only [left, right]
    · simp only [inside.resolve_error first]

/-! ### One call -/

/-- A call adds no slot to the scope, or the slot of a claim that it made. -/
theorem next_cases (s : Scope) (c : Call) (a : Arena) :
    (c.next s (s.perform c a).1 = s ∧ c.issues (s.perform c a).1 = []) ∨
      ∃ size align h, a.allocate size align = (.ok h, (s.perform c a).2) ∧
        c.next s (s.perform c a).1 = { s with handles := s.handles ++ [h] } ∧
        c.issues (s.perform c a).1 = [⟨s.tag, s.handles.length⟩] := by
  cases c with
  | allocate size align =>
    simp only [perform, allocate]
    rcases done : a.allocate size align with ⟨fault | h, b⟩
    · exact .inl ⟨rfl, rfl⟩
    · exact .inr ⟨size, align, h, done, rfl, rfl⟩
  | _ => exact .inl ⟨rfl, rfl⟩

/-- Asking an open scope leaves the number of scopes. -/
theorem scopes_perform (s : Scope) (c : Call) (a : Arena) :
    (s.perform c a).2.scopes = a.scopes := by
  have unwound : ∀ (b : Arena), (b.unwindTo s.mark).2.scopes = b.scopes := by
    intro b
    unfold Arena.unwindTo
    split <;> rfl
  cases c with
  | allocate size align =>
    simp only [perform, allocate]
    rcases done : a.allocate size align with ⟨fault | h, b⟩
    · rw [Arena.allocate_error done]
    · obtain ⟨-, -, -, rfl⟩ := Arena.allocate_ok done
      rfl
  | bytes slot => rfl
  | modify slot change =>
    simp only [perform, modify]
    split
    · rfl
    · simp only [Arena.modify]
      split <;> rfl
  | modifyPair p q change =>
    simp only [perform, modifyPair]
    split
    · rfl
    · split
      · rfl
      · simp only [Arena.modifyPair]
        split <;> rfl
  | used => rfl
  | leave => exact unwound a
  | finish => exact (unwound _).trans (unwound a)

/-- A call that leaves the scope open keeps its claims on the stack. -/
theorem Inside.stacked_perform (inside : s.Inside base own a) (c : Call) (stays : c.ends = false) :
    (s.perform c a).2.StacksOn base.top (c.next s (s.perform c a).1).handles.reverse := by
  cases c with
  | allocate size align =>
    simp only [perform, allocate]
    rcases done : a.allocate size align with ⟨fault | h, b⟩
    · obtain rfl := Arena.allocate_error done
      exact inside.stacked
    · have pushed := (inside.stacked.allocate done).1
      simpa [Call.next] using pushed
  | bytes slot => exact inside.stacked
  | modify slot change =>
    simp only [perform, modify, Call.next]
    split
    · exact inside.stacked
    · simp only [Arena.modify]
      split
      · exact inside.stacked
      · exact inside.stacked.write _ _
  | modifyPair p q change =>
    simp only [perform, modifyPair, Call.next]
    split
    · exact inside.stacked
    · split
      · exact inside.stacked
      · simp only [Arena.modifyPair]
        split
        · exact inside.stacked
        · exact (inside.stacked.write _ _).write _ _
  | used => exact inside.stacked
  | leave => cases stays
  | finish => cases stays

/-- Asking an open scope keeps it open on the state at which it was entered. -/
theorem Inside.ask (inside : s.Inside base own a) (sound : base.Sound) (c : Call)
    (stays : c.ends = false) :
    (c.next s (s.perform c a).1).Inside base (own ++ c.issues (s.perform c a).1)
      (s.perform c a).2 := by
  have since : base.Since (s.perform c a).2 :=
    inside.since.perform sound (.inScope s c) rfl fun t mem _ => inside.after t mem
  have stacked := inside.stacked_perform c stays
  rcases next_cases s c a with ⟨same, none⟩ | ⟨size, align, h, claimed, more, issued⟩
  · rw [same, none, List.append_nil]
    rw [same] at stacked
    exact { inside with since, stacked }
  · rw [more, issued]
    rw [more] at stacked
    constructor
    case mark => exact inside.mark
    case pool => exact inside.pool
    case since => exact since
    case stacked => exact stacked
    case after =>
      have arena : h.arena = base.id := by
        obtain ⟨-, -, rfl, -⟩ := Arena.allocate_ok claimed
        exact inside.since.id
      have yielded : Token.handle h ∈
          (Arena.Call.allocate size align).yields (a.perform (.allocate size align)).1 := by
        simp only [Arena.perform, claimed, Arena.Call.yields, List.mem_singleton]
      have new := inside.since.yields sound (.allocate size align) (by simp [Arena.Call.presents])
        _ yielded arena
      intro t mem
      simp only [tokens, List.map_append, List.map_cons, List.map_nil, ← List.cons_append,
        List.mem_append, List.mem_singleton] at mem
      rcases mem with old | rfl
      · exact inside.after t old
      · exact new
    case own =>
      intro slot
      rw [List.mem_append, List.mem_singleton, inside.own, List.length_append,
        List.length_singleton, Nat.lt_succ_iff_lt_or_eq, and_or_left]
      cases slot
      rw [Slot.mk.injEq]

/-- A scope nested in this one ends and leaves it as it was, with the bytes of its slots. -/
theorem Inside.nest (inside : s.Inside base own a) (regains : a.Regains b) :
    s.Inside base own b where
  mark := inside.mark
  pool := inside.pool
  since := inside.since.trans regains.since
  stacked := inside.stacked.of_since regains.since regains.sound regains.top
  after := inside.after
  own := inside.own

theorem Inside.bytes_nest (inside : s.Inside base own a) (regains : a.Regains b)
    (mem : slot ∈ own) : s.bytes slot b = s.bytes slot a := by
  obtain ⟨h, -, resolved, held⟩ := inside.resolve_ok mem
  have read : a.bytes h = .ok (a.view h) :=
    Arena.bytes_ok_iff.mpr ⟨inside.stacked.checkLive held, rfl⟩
  have still := regains.since.bytes_ok (inside.stacked.owned h held).2.2.1 read
  simp only [bytes, resolved, read, still]

/-- **A scope ends** on the state at which it was entered, however often it is unwound. -/
theorem Inside.close (inside : s.Inside base own a) (sound : base.Sound) (e : Ending) :
    s.Closes a e ∧ base.Regains (s.perform e.call a).2 := by
  obtain ⟨b, once, since, height, top⟩ := inside.since.unwindTo_mark sound
  have regains : base.Regains b := ⟨since, since.sound_of_unwindTo sound once, height, top⟩
  obtain ⟨c, twice, sinceAgain, heightAgain, topAgain⟩ := since.unwindTo_mark sound
  have again : base.Regains c :=
    ⟨sinceAgain, sinceAgain.sound_of_unwindTo sound twice, heightAgain, topAgain⟩
  rw [← inside.mark] at once twice
  cases e with
  | drop =>
    have left : (s.perform Ending.drop.call a).2 = b := congrArg Prod.snd once
    exact ⟨congrArg Prod.fst once, left ▸ regains⟩
  | finish =>
    have finished : s.finish a = (.ok (), c) := by
      simp only [finish, leave, once, twice]
    have left : (s.perform Ending.finish.call a).2 = c := congrArg Prod.snd finished
    refine ⟨⟨congrArg Prod.fst finished, ?_⟩, left ▸ again⟩
    rw [once, twice]

/-! ### Whole trees -/

/-- The scopes that are entered within a scope. -/
def Work.entries : Work → Nat
  | .close _ => 0
  | .ask _ _ rest => rest.entries
  | .nest inner rest => inner.entries + 1 + rest.entries

theorem Moment.tags_append (first second : List Moment) :
    tags (first ++ second) = tags first ++ tags second := by
  induction first with
  | nil => rfl
  | cons m rest ih => cases m <;> simp [tags, ih]

/-- Scopes are numbered in the order in which they are entered, from the number of those entered
before. -/
theorem Work.tags_run (work : Work) (s : Scope) (own : List Slot) (a : Arena) :
    (work.run s own a).2.scopes = a.scopes + work.entries ∧ (work.run s own a).2.id = a.id ∧
      Moment.tags (work.run s own a).1 =
        (List.range' a.scopes work.entries).map (ScopeTag.mk a.id) := by
  have same : ∀ (s : Scope) (c : Call) (a : Arena), (s.perform c a).2.id = a.id :=
    fun s c a => (Arena.perform_keeps a (.inScope s c)).1
  induction work generalizing s own a with
  | close e => exact ⟨scopes_perform s e.call a, same s e.call a, rfl⟩
  | ask c stays rest ih =>
    obtain ⟨scopes, id, tags⟩ := ih (c.next s (s.perform c a).1)
      (own ++ c.issues (s.perform c a).1) (s.perform c a).2
    rw [scopes_perform, same] at *
    exact ⟨scopes, id, tags⟩
  | nest inner rest within later =>
    obtain ⟨scopes, id, tags⟩ := within (enter a).1 [] (enter a).2
    rcases nested : inner.run (enter a).1 [] (enter a).2 with ⟨seen, b⟩
    rw [nested] at scopes id tags
    have scopes : b.scopes = a.scopes + 1 + inner.entries := scopes
    have id : b.id = a.id := id
    obtain ⟨more, still, others⟩ := later s own b
    rw [scopes] at more others
    rw [id] at still others
    simp only [Work.run, nested, Work.entries]
    refine ⟨?_, still, ?_⟩
    · rw [more]
      omega
    · have listed : List.range' a.scopes (inner.entries + 1 + rest.entries) =
          a.scopes :: List.range' (a.scopes + 1) inner.entries ++
            List.range' (a.scopes + 1 + inner.entries) rest.entries := by
        rw [Nat.add_right_comm, List.range'_succ, List.cons_append, List.range'_append_1]
      rw [Moment.tags_append, listed, List.map_append, List.map_cons, ← others]
      exact congrArg (ScopeTag.mk a.id a.scopes :: · ++ _) tags

/-- **Work in an open scope** sees only what is right, and leaves the arena as it was when the
scope was entered. -/
theorem Inside.run (inside : s.Inside base own a) (sound : base.Sound) (work : Work) :
    (∀ m ∈ (work.run s own a).1, m.Right) ∧ base.Regains (work.run s own a).2 := by
  induction work generalizing base s own a with
  | close e =>
    obtain ⟨closes, regains⟩ := inside.close sound e
    refine ⟨?_, regains⟩
    intro m mem
    rcases List.mem_pair.mp mem with rfl | rfl
    · exact inside.stands sound
    · exact closes
  | ask c stays rest ih =>
    obtain ⟨right, regains⟩ := ih (inside.ask sound c stays) sound
    refine ⟨?_, regains⟩
    intro m mem
    rcases List.mem_cons.mp mem with rfl | later
    · exact inside.stands sound
    · exact right m later
  | nest inner rest within later =>
    have entered := inside_enter inside.stacked.sound
    obtain ⟨rightInner, back⟩ := within entered inside.stacked.sound
    obtain ⟨rightRest, regains⟩ := later (inside.nest back) sound
    refine ⟨?_, regains⟩
    intro m mem
    rcases nested : inner.run (enter a).1 [] (enter a).2 with ⟨seen, b⟩
    rw [nested] at rightInner back rightRest
    simp only [Work.run, nested, List.cons_append, List.mem_cons, List.mem_append] at mem
    rcases mem with rfl | rfl | during | rfl | after
    · exact inside.stands sound
    · trivial
    · exact rightInner m during
    · exact ⟨back.highWater, back.top, fun slot held => inside.bytes_nest back held⟩
    · exact rightRest m after

end Scope

/-! ### Every arena -/

namespace Arena

/-- The arena stands where it stood at `a`, and accepts what callers hold as `a` accepted it. -/
structure Restores (a : Arena) (issued : List Token) (b : Arena) : Prop where
  highWater : b.highWater = a.highWater
  top : b.top = a.top
  handles : ∀ h bytes, .handle h ∈ issued → a.bytes h = .ok bytes → b.bytes h = .ok bytes
  releases : ∀ h, .handle h ∈ issued → (a.release h).1 = .ok () → (b.release h).1 = .ok ()
  marks : ∀ m, .mark m ∈ issued → a.checkMark m = .ok () → b.checkMark m = .ok ()

theorem Regains.restores {a b : Arena} {issued : List Token} (regains : a.Regains b)
    (past : ∀ t ∈ issued, t.arena = a.id → t.Past a) : a.Restores issued b where
  highWater := regains.highWater
  top := regains.top
  handles h bytes mem read := by
    have own := (checkIssued_ok_iff.mp (checkLive_ok_iff.mp (bytes_ok_iff.mp read).1).1).1
    exact regains.since.bytes_ok (past _ mem own).1 read
  releases h mem done := by
    have own := (checkIssued_ok_iff.mp (release_ok_iff.mp (Prod.ext done rfl)).1).1
    exact regains.since.release_ok regains.top (past _ mem own).1 done
  marks m mem fits := by
    have own := (checkMark_ok_iff.mp fits).1
    exact regains.since.checkMark_ok (past _ mem own).1 fits

end Arena

namespace Scope

/-- **Scopes always close.** In any arena that calls can reach, and for any tree of scopes: every
scope closes, every open scope accepts the slots that it issued and no others, and a nested scope
leaves the one around it as it was. The scopes have tags of their own, which the arena never gave
before. In the end the arena is what it was, to all who hold its handles and marks. -/
theorem nested_scopes_close {a : Arena} {issued : List Token} (reached : a.Reached issued)
    (work : Work) :
    (∀ m ∈ (work.course a).1, m.Right) ∧ (Moment.tags (work.course a).1).Nodup ∧
      (∀ tag ∈ Moment.tags (work.course a).1, tag.arena = a.id ∧ a.scopes ≤ tag.number) ∧
      a.Restores issued (work.course a).2 := by
  obtain ⟨sound, past⟩ := reached.sound
  obtain ⟨right, regains⟩ := (inside_enter sound).run sound work
  have tags : Moment.tags (work.course a).1 =
      (List.range' a.scopes (work.entries + 1)).map (ScopeTag.mk a.id) := by
    obtain ⟨-, -, inner⟩ := work.tags_run (enter a).1 [] (enter a).2
    rw [List.range'_succ, List.map_cons]
    exact congrArg (ScopeTag.mk a.id a.scopes :: ·) inner
  refine ⟨?_, ?_, ?_, regains.restores past⟩
  · intro m mem
    rcases List.mem_cons.mp mem with rfl | later
    · trivial
    · exact right m later
  · rw [tags]
    refine List.Nodup.map ?_ (List.nodup_range' ..)
    intro i j same
    exact congrArg ScopeTag.number same
  · intro tag mem
    rw [tags] at mem
    obtain ⟨number, listed, rfl⟩ := List.mem_map.mp mem
    exact ⟨rfl, (List.mem_range'_1.mp listed).1⟩

/-! A claim was marked, released and replaced before scopes are opened, so the arena remembers a
discard. The scopes run out of space, write, present a slot of each other, and end both ways. -/

namespace Worn

def released : Handle := ⟨⟨1⟩, .ram, 0, 8, ⟨0, 0⟩, .empty⟩

def early : Mark := ⟨⟨1⟩, 8, 0, 1, ⟨some 0, 8⟩⟩

def kept : Handle := ⟨⟨1⟩, .ram, 0, 5, ⟨0, 2⟩, .empty⟩

def marked : Arena := (((Arena.zeroed ⟨1⟩ .ram 32).perform (.allocate 8 1)).2.perform .mark).2

def worn : Arena := ((marked.perform (.release released)).2.perform (.allocate 5 1)).2

def issued : List Token := [.handle kept, .mark early, .handle released]

theorem reached : worn.Reached issued := by
  have claimed : ((Arena.zeroed ⟨1⟩ .ram 32).perform (.allocate 8 1)).2.Reached
      [.handle released] := (Arena.reached_zeroed ⟨1⟩ .ram (by decide) (by decide)).called (.allocate 8 1) (by simp [Arena.Call.presents])
  have noted : marked.Reached [.mark early, .handle released] :=
    claimed.called .mark (by simp [Arena.Call.presents])
  have back : (marked.perform (.release released)).2.Reached [.mark early, .handle released] :=
    noted.called (.release released) (by simp [Arena.Call.presents])
  exact back.called (.allocate 5 1) (by simp [Arena.Call.presents])

/-- The scope nested in the first one. -/
def inner : Work :=
  .ask (.allocate 8 8) rfl (.ask (.allocate 64 1) rfl (.ask (.bytes ⟨⟨⟨1⟩, 0⟩, 0⟩) rfl
    (.nest (.close .drop) (.close .finish))))

def work : Work :=
  .ask (.allocate 4 4) rfl (.ask (.modify ⟨⟨⟨1⟩, 0⟩, 0⟩ fun _ => [1, 2, 3, 4]) rfl
    (.nest inner (.close .drop)))

end Worn

open Worn in
theorem nested_scopes_close_worn : worn.Reached issued ∧
    Moment.tags (work.course worn).1 = [⟨⟨1⟩, 0⟩, ⟨⟨1⟩, 1⟩, ⟨⟨1⟩, 2⟩] ∧
    (Moment.tags (work.course worn).1).Nodup ∧ (work.course worn).2.highWater = 5 ∧
    worn.bytes kept = .ok [0, 0, 0, 0, 0] ∧
    (work.course worn).2.bytes kept = .ok [0, 0, 0, 0, 0] := by
  obtain ⟨-, nodup, -, restores⟩ := nested_scopes_close reached work
  have before : worn.bytes kept = .ok [0, 0, 0, 0, 0] := by decide +kernel
  have held : Token.handle kept ∈ issued := by decide
  refine ⟨reached, by decide, nodup, ?_, before, restores.handles kept _ held before⟩
  exact restores.highWater.trans (by decide)

end Scope

end TensorArena
