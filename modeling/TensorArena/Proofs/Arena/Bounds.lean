import TensorArena.Proofs.Arena.Content

/-!
What stays in bounds.

A course is a run of one arena by callers who keep to its scopes: while a scope is open, the
arena is reached through the innermost one only. Otherwise anything may be asked, with any
sizes, alignments and slots, and with tokens of any age that this arena or another issued.

Along every course the levels stay in order: open scopes began at or below the high-water mark,
which stays at or below the peak, which is the largest level there was and fits the capacity.
So nothing that is stored in 32 bits loses a bit there, nothing that is subtracted goes below
zero, no range that is read or written leaves the buffer, and claims are placed where 64-bit
words place them.
-/

namespace TensorArena

/-- The token lies at or below a level. -/
def Token.Under (level : Nat) : Token → Prop
  | .handle h => h.stop ≤ level
  | .mark m => m.height ≤ level

theorem Token.Under.mono {t : Token} {level higher : Nat} (under : t.Under level)
    (le : level ≤ higher) : t.Under higher := by
  cases t with
  | handle h => exact Nat.le_trans under le
  | mark m => exact Nat.le_trans under le

/-- What is left of an open scope after a call of it: the scope, with its claims, or nothing. -/
def Scope.Call.remains (s : Scope) : (c : Scope.Call) → c.Answer → List Scope
  | .allocate _ _, (_, s) => [s]
  | .leave, _ => []
  | .finish, _ => []
  | _, _ => [s]

/-- How often a call may tick the clock. -/
def Scope.Call.ticks : Scope.Call → Nat
  | .allocate _ _ => 1
  | .leave => 1
  | .finish => 2
  | _ => 0

/-- A scope that remains is the same scope, with as many claims or more. -/
theorem Scope.Call.mem_remains {s t : Scope} {c : Scope.Call} {a : Arena}
    (mem : t ∈ c.remains s (s.perform c a).1) : t.mark = s.mark ∧
      ∀ u ∈ t.tokens, u ∈ s.tokens ∨ u ∈ Arena.Call.yields (.inScope s c) (s.perform c a).1 := by
  cases c with
  | allocate size align =>
    obtain rfl := List.mem_singleton.mp mem
    refine ⟨?_, fun u held => .inr held⟩
    simp only [Scope.perform, Scope.allocate]
    split <;> rfl
  | leave => cases mem
  | finish => cases mem
  | _ =>
    obtain rfl := List.mem_singleton.mp mem
    exact ⟨rfl, fun u held => .inl held⟩

/-- Closing a scope pays for the second tick. -/
theorem Scope.Call.ticks_remains (s : Scope) (c : Scope.Call) (answer : c.Answer) :
    c.ticks + (c.remains s answer).length ≤ 2 := by
  cases c <;> simp [ticks, remains]

namespace Arena

/-- How often a call may tick the clock. -/
def Call.ticks : Arena.Call → Nat
  | .allocate _ _ => 1
  | .release _ => 1
  | .unwindTo _ => 1
  | .inScope _ c => c.ticks
  | _ => 0

/-- The arena was built and called, with the open scopes `scopes`, innermost first, the tokens
`issued` so far, and its levels after each call, newest first. Where no scope is open, the arena
itself is called; a scope that it opens then is never used. -/
inductive Course : Arena → (scopes : List Scope) → (issued : List Token) →
    (levels : List Nat) → Prop where
  | built {id : ArenaId} {pool : Pool} {capacity : Nat} {a : Arena} :
      build id pool capacity = .ok a → Course a [] [] [0]
  | called {a : Arena} {issued : List Token} {levels : List Nat} (c : Arena.Call) :
      Course a [] issued levels → c.isScoped = false →
      (∀ t ∈ c.presents, t ∈ issued ∨ t.arena ≠ a.id) →
      Course (a.perform c).2 [] (c.yields (a.perform c).1 ++ issued)
        ((a.perform c).2.highWater :: levels)
  | entered {a : Arena} {scopes : List Scope} {issued : List Token} {levels : List Nat} :
      Course a scopes issued levels →
      Course (a.perform .openScope).2 ((a.perform .openScope).1 :: scopes)
        (Call.yields .openScope (a.perform .openScope).1 ++ issued)
        ((a.perform .openScope).2.highWater :: levels)
  | inScope {a : Arena} {s : Scope} {scopes : List Scope} {issued : List Token}
      {levels : List Nat} (c : Scope.Call) : Course a (s :: scopes) issued levels →
      Course (a.perform (.inScope s c)).2 (c.remains s (a.perform (.inScope s c)).1 ++ scopes)
        (Call.yields (.inScope s c) (a.perform (.inScope s c)).1 ++ issued)
        ((a.perform (.inScope s c)).2.highWater :: levels)

variable {a b c : Arena} {s : Scope} {scopes : List Scope} {issued : List Token}
  {levels : List Nat} {few many : Nat}

/-! ### One operation -/

/-- What leads from `a` to `b` claims nothing: the level stays at or below the peak, which stays
what it is, and the clock ticks at most `many` times. -/
structure Subsides (a b : Arena) (many : Nat) : Prop where
  highWater : b.highWater ≤ a.peak
  peak : b.peak = a.peak
  clock : b.clock ≤ a.clock + many

theorem Subsides.refl (le : a.highWater ≤ a.peak) : Subsides a a many :=
  ⟨le, rfl, Nat.le_add_right _ _⟩

theorem Subsides.trans (first : Subsides a b few) (second : Subsides b c many) :
    Subsides a c (few + many) where
  highWater := first.peak ▸ second.highWater
  peak := second.peak.trans first.peak
  clock := by
    have before := first.clock
    have after := second.clock
    omega

/-- What leads from `a` to `b` takes the peak along with the level, and the clock ticks at most
`many` times. -/
structure Paces (a b : Arena) (many : Nat) : Prop where
  peak : b.peak = max a.peak b.highWater
  clock : b.clock ≤ a.clock + many

theorem Subsides.paces (subsides : Subsides a b many) : Paces a b many :=
  ⟨subsides.peak.trans (Nat.max_eq_left subsides.highWater).symm, subsides.clock⟩

theorem allocate_paces (le : a.highWater ≤ a.peak) (size align : Nat) :
    Paces a (a.allocate size align).2 1 := by
  cases done : a.allocate size align with
  | mk answer b =>
    cases answer with
    | error fault =>
      rw [allocate_error done]
      exact (Subsides.refl le).paces
    | ok h =>
      obtain ⟨-, -, -, rfl⟩ := allocate_ok done
      exact ⟨rfl, Nat.le_refl _⟩

theorem release_subsides (le : a.highWater ≤ a.peak) {h : Handle}
    (under : h.arena = a.id → h.stop ≤ a.peak) : Subsides a (a.release h).2 1 := by
  cases done : a.release h with
  | mk answer b =>
    cases answer with
    | error fault =>
      rw [release_error done]
      exact .refl le
    | ok =>
      obtain ⟨issued, -, rfl⟩ := release_ok_iff.mp done
      have lower := under (checkIssued_ok_iff.mp issued).1
      exact ⟨Nat.le_trans (Nat.le_add_right _ _) lower, rfl, Nat.le_refl _⟩

theorem unwindTo_subsides (le : a.highWater ≤ a.peak) {m : Mark}
    (under : m.arena = a.id → m.height ≤ a.peak) : Subsides a (a.unwindTo m).2 1 := by
  cases fits : a.checkMark m with
  | error fault => exact unwindTo_error fits ▸ .refl le
  | ok =>
    have lower := under (checkMark_ok_iff.mp fits).1
    rw [unwindTo_ok_iff.mpr ⟨fits, rfl⟩]
    exact ⟨lower, rfl, Nat.le_refl _⟩

theorem modify_subsides (le : a.highWater ≤ a.peak) (h : Handle) (change : Bytes → Bytes) :
    Subsides a (a.modify h change).2 0 := by
  unfold modify
  split
  · exact .refl le
  · exact ⟨le, rfl, Nat.le_refl _⟩

theorem modifyPair_subsides (le : a.highWater ≤ a.peak) (h k : Handle)
    (change : Bytes → Bytes → Bytes × Bytes) : Subsides a (a.modifyPair h k change).2 0 := by
  unfold modifyPair
  split
  · exact .refl le
  · exact ⟨le, rfl, Nat.le_refl _⟩

theorem performScope_allocate (s : Scope) (size align : Nat) (a : Arena) :
    (s.perform (.allocate size align) a).2 = (a.allocate size align).2 := by
  simp only [Scope.perform, Scope.allocate]
  split <;> simp_all

theorem performScope_paces (le : a.highWater ≤ a.peak) (s : Scope) (c : Scope.Call)
    (under : s.mark.arena = a.id → s.mark.height ≤ a.peak) :
    Paces a (s.perform c a).2 c.ticks := by
  cases c with
  | allocate size align =>
    rw [performScope_allocate]
    exact allocate_paces le size align
  | bytes slot => exact (Subsides.refl le).paces
  | modify slot change =>
    simp only [Scope.perform, Scope.modify]
    split
    · exact (Subsides.refl le).paces
    · exact (modify_subsides le _ change).paces
  | modifyPair p q change =>
    simp only [Scope.perform, Scope.modifyPair]
    split
    · exact (Subsides.refl le).paces
    · split
      · exact (Subsides.refl le).paces
      · exact (modifyPair_subsides le _ _ change).paces
  | used => exact (Subsides.refl le).paces
  | leave => exact (unwindTo_subsides le under).paces
  | finish =>
    have first := unwindTo_subsides le under
    have id := (perform_keeps a (.unwindTo s.mark)).1
    refine (first.trans (unwindTo_subsides ?_ fun own => ?_)).paces
    · exact first.peak ▸ first.highWater
    · exact first.peak ▸ under (own.trans id)

/-- Every call takes the peak along with the level. -/
theorem perform_paces (le : a.highWater ≤ a.peak) (c : Arena.Call)
    (under : ∀ t ∈ c.presents, t.arena = a.id → t.Under a.peak) :
    Paces a (a.perform c).2 c.ticks := by
  cases c with
  | allocate size align => exact allocate_paces le size align
  | release h => exact (release_subsides le (under _ List.mem_cons_self)).paces
  | unwindTo m => exact (unwindTo_subsides le (under _ List.mem_cons_self)).paces
  | modify h change => exact (modify_subsides le h change).paces
  | modifyPair h k change => exact (modifyPair_subsides le h k change).paces
  | inScope s c => exact performScope_paces le s c (under _ List.mem_cons_self)
  | reset => exact ⟨(Nat.max_eq_left (Nat.zero_le _)).symm, Nat.le_refl _⟩
  | openScope => exact ⟨(Nat.max_eq_left le).symm, Nat.le_refl _⟩
  | _ => exact (Subsides.refl le).paces

/-- A call outside of scopes ticks the clock once at most. -/
theorem Call.ticks_le {c : Arena.Call} (plain : c.isScoped = false) : c.ticks ≤ 1 := by
  cases c with
  | inScope s c => cases plain
  | _ => simp [ticks]

/-- No call of a scope goes below the level at which the scope was entered. -/
theorem le_performScope {level : Nat} (s : Scope) (c : Scope.Call) (inside : level ≤ a.highWater)
    (under : level ≤ s.mark.height) : level ≤ (s.perform c a).2.highWater := by
  have leave : ∀ {b : Arena}, level ≤ b.highWater → level ≤ (b.unwindTo s.mark).2.highWater := by
    intro b inside
    cases fits : b.checkMark s.mark with
    | error fault => exact unwindTo_error fits ▸ inside
    | ok => exact (unwindTo_ok_iff.mpr ⟨fits, rfl⟩ : b.unwindTo s.mark = _) ▸ under
  cases c with
  | allocate size align =>
    rw [performScope_allocate]
    cases done : a.allocate size align with
    | mk answer b =>
      cases answer with
      | error fault => exact allocate_error done ▸ inside
      | ok h =>
        obtain ⟨aligned, -, -, rfl⟩ := allocate_ok done
        have above := le_roundUp aligned a.highWater
        exact Nat.le_trans inside (Nat.le_trans above (Nat.le_add_right _ _))
  | bytes slot => exact inside
  | modify slot change =>
    simp only [Scope.perform, Scope.modify, Arena.modify]
    split
    · exact inside
    · split <;> exact inside
  | modifyPair p q change =>
    simp only [Scope.perform, Scope.modifyPair, Arena.modifyPair]
    split
    · exact inside
    · split
      · exact inside
      · split <;> exact inside
  | used => exact inside
  | leave => exact leave inside
  | finish => exact leave (leave inside)

/-! ### Every course -/

/-- Callers who keep to scopes present nothing that they were not given. -/
theorem Course.reached_held (course : Course a scopes issued levels) :
    Reached a issued ∧ ∀ s ∈ scopes, ∀ t ∈ s.tokens, t ∈ issued := by
  induction course with
  | built done => exact ⟨.built done, by simp⟩
  | called c _ _ honest ih => exact ⟨ih.1.called c honest, by simp⟩
  | @entered a scopes issued levels _ ih =>
    refine ⟨ih.1.called .openScope (by simp [Call.presents]), fun s mem t held => ?_⟩
    rcases List.mem_cons.mp mem with rfl | outer
    · exact List.mem_append_left _ held
    · exact List.mem_append_right _ (ih.2 s outer t held)
  | @inScope a s scopes issued levels c _ ih =>
    obtain ⟨reached, held⟩ := ih
    refine ⟨reached.called (.inScope s c) fun t shown => ?_, fun k mem t shown => ?_⟩
    · exact .inl (held s List.mem_cons_self t shown)
    · rcases List.mem_append.mp mem with inner | outer
      · rcases (Scope.Call.mem_remains inner).2 t shown with old | new
        · exact List.mem_append_right _ (held s List.mem_cons_self t old)
        · exact List.mem_append_left _ new
      · exact List.mem_append_right _ (held k (List.mem_cons_of_mem _ outer) t shown)

/-- The levels of an arena that issued `issued` and stood at `levels`. -/
structure Leveled (a : Arena) (issued : List Token) (levels : List Nat) : Prop where
  highWater : a.highWater ≤ a.peak
  peak : a.peak ≤ a.capacity
  under : ∀ t ∈ issued, t.arena = a.id → t.Under a.peak
  attained : a.peak ∈ levels
  largest : ∀ level ∈ levels, level ≤ a.peak

theorem leveled_of_build {id : ArenaId} {pool : Pool} {capacity : Nat}
    (done : build id pool capacity = .ok a) : Leveled a [] [0] := by
  obtain ⟨-, -, rfl⟩ := build_ok_iff.mp done
  exact ⟨Nat.le_refl _, Nat.zero_le _, by simp, by simp, by simp⟩

/-- What a call answers lies under the peak after it. -/
theorem yields_under (sound : a.Sound) (le : a.highWater ≤ a.peak) (c : Arena.Call)
    (under : ∀ t ∈ c.presents, t.arena = a.id → t.Under a.peak) {t : Token}
    (yielded : t ∈ c.yields (a.perform c).1) (own : t.arena = a.id) :
    t.Under (a.perform c).2.peak := by
  have paces := perform_paces le c under
  have kept : a.peak ≤ (a.perform c).2.peak := paces.peak ▸ Nat.le_max_left _ _
  rcases yields_cases a c yielded with presented | rfl | ⟨size, align, h, done, rfl⟩
  · exact (under t presented own).mono kept
  · exact Nat.le_trans (Nat.le_of_eq sound.height_mark) (Nat.le_trans le kept)
  · obtain ⟨-, -, height, -, -⟩ := allocate_range sound.words done
    have level : (a.perform c).2.highWater ≤ (a.perform c).2.peak :=
      paces.peak ▸ Nat.le_max_right _ _
    exact Nat.le_trans (Nat.le_of_eq height.symm) level

/-- What callers present lies under the peak. -/
theorem Leveled.presents_under (leveled : Leveled a issued levels) {c : Arena.Call}
    (honest : ∀ t ∈ c.presents, t ∈ issued ∨ t.arena ≠ a.id) :
    ∀ t ∈ c.presents, t.arena = a.id → t.Under a.peak := by
  intro t presented own
  rcases honest t presented with held | foreign
  · exact leveled.under t held own
  · exact absurd own foreign

/-- Every call keeps the levels in order. -/
theorem Leveled.perform (leveled : Leveled a issued levels) (reached : Reached a issued)
    (c : Arena.Call) (honest : ∀ t ∈ c.presents, t ∈ issued ∨ t.arena ≠ a.id) :
    Leveled (a.perform c).2 (c.yields (a.perform c).1 ++ issued)
      ((a.perform c).2.highWater :: levels) := by
  have under := leveled.presents_under honest
  have paces := perform_paces leveled.highWater c under
  have kept : a.peak ≤ (a.perform c).2.peak := paces.peak ▸ Nat.le_max_left _ _
  have level : (a.perform c).2.highWater ≤ (a.perform c).2.peak :=
    paces.peak ▸ Nat.le_max_right _ _
  obtain ⟨id, capacity, -⟩ := perform_keeps a c
  constructor
  · exact level
  · rw [paces.peak]
    exact Nat.max_le.mpr ⟨capacity ▸ leveled.peak, (reached.called c honest).sound.1.highWater⟩
  · intro t mem own
    rcases List.mem_append.mp mem with new | old
    · exact yields_under reached.sound.1 leveled.highWater c under new (own.trans id)
    · exact (leveled.under t old (own.trans id)).mono kept
  · rw [paces.peak]
    rcases Nat.le_total a.peak (a.perform c).2.highWater with higher | lower
    · rw [Nat.max_eq_right higher]
      exact List.mem_cons_self
    · rw [Nat.max_eq_left lower]
      exact List.mem_cons_of_mem _ leveled.attained
  · intro earlier mem
    rcases List.mem_cons.mp mem with rfl | before
    · exact level
    · exact Nat.le_trans (leveled.largest earlier before) kept

theorem Course.leveled (course : Course a scopes issued levels) : Leveled a issued levels := by
  induction course with
  | built done => exact leveled_of_build done
  | called c before _ honest ih => exact ih.perform before.reached_held.1 c honest
  | entered before ih =>
    exact ih.perform before.reached_held.1 .openScope (by simp [Call.presents])
  | @inScope a s scopes issued levels c before ih =>
    obtain ⟨reached, held⟩ := before.reached_held
    exact ih.perform reached (.inScope s c) fun t shown => .inl (held s List.mem_cons_self t shown)

/-- Open scopes were entered at ever higher levels, all at or below the present one. -/
theorem Course.nested (course : Course a scopes issued levels) :
    (∀ s ∈ scopes, s.mark.height ≤ a.highWater) ∧
      scopes.Pairwise fun inner outer => outer.mark.height ≤ inner.mark.height := by
  induction course with
  | built done => exact ⟨by simp, .nil⟩
  | called c _ _ _ _ => exact ⟨by simp, .nil⟩
  | @entered a scopes issued levels before ih =>
    have height : a.mark.height = a.highWater := before.reached_held.1.sound.1.height_mark
    refine ⟨fun s mem => ?_, List.pairwise_cons.mpr ⟨fun s mem => ?_, ih.2⟩⟩
    · rcases List.mem_cons.mp mem with rfl | outer
      · exact Nat.le_of_eq height
      · exact ih.1 s outer
    · exact Nat.le_trans (ih.1 s mem) (Nat.le_of_eq height.symm)
  | @inScope a s scopes issued levels c before ih =>
    obtain ⟨inside, pairwise⟩ := ih
    obtain ⟨outer, pairwise⟩ := List.pairwise_cons.mp pairwise
    have above : ∀ level ≤ s.mark.height, level ≤ (a.perform (.inScope s c)).2.highWater :=
      fun level le =>
        le_performScope s c (Nat.le_trans le (inside s List.mem_cons_self)) le
    refine ⟨fun k mem => ?_, List.pairwise_append.mpr ⟨?_, pairwise, fun k mem l other => ?_⟩⟩
    · rcases List.mem_append.mp mem with inner | old
      · rw [(Scope.Call.mem_remains inner).1]
        exact above _ (Nat.le_refl _)
      · exact above _ (outer k old)
    · cases c <;> simp [Scope.Call.remains]
    · rw [(Scope.Call.mem_remains mem).1]
      exact outer l other

/-- The clock has ticked no more often than there were calls, with one call to spare for every
open scope. -/
theorem Course.ticks (course : Course a scopes issued levels) :
    a.clock + scopes.length < levels.length := by
  induction course with
  | built done =>
    obtain ⟨-, -, rfl⟩ := build_ok_iff.mp done
    exact Nat.one_pos
  | called c before plain honest ih =>
    have leveled := before.leveled
    have ticked := (perform_paces leveled.highWater c (leveled.presents_under honest)).clock
    have once := Call.ticks_le plain
    simp only [List.length_cons, List.length_nil] at ih ⊢
    omega
  | entered before ih =>
    simp only [List.length_cons]
    exact Nat.succ_lt_succ ih
  | @inScope a s scopes issued levels c before ih =>
    have leveled := before.leveled
    have honest : ∀ t ∈ s.tokens, t ∈ issued ∨ t.arena ≠ a.id :=
      fun t shown => .inl (before.reached_held.2 s List.mem_cons_self t shown)
    have ticked := (perform_paces leveled.highWater (.inScope s c)
      (leveled.presents_under honest)).clock
    have paid := c.ticks_remains s (a.perform (.inScope s c)).1
    simp only [Call.ticks] at ticked
    simp only [List.length_cons, List.length_append] at ih ⊢
    omega

/-! ### Words -/

/-- Masking the low bits off rounds down. -/
theorem and_mask {x k w : Nat} (few : k ≤ w) (small : x < 1 <<< w) :
    x &&& (1 <<< w - 1 - (1 <<< k - 1)) = x / 1 <<< k * 1 <<< k := by
  rw [Nat.one_shiftLeft] at small
  have low := Nat.lt_of_lt_of_le (Nat.sub_lt (Nat.two_pow_pos k) Nat.one_pos)
    (Nat.pow_le_pow_right (show 0 < 2 by decide) few)
  apply Nat.eq_of_testBit_eq
  intro i
  rw [Nat.one_shiftLeft, Nat.one_shiftLeft, Nat.sub_sub, Nat.add_comm 1, Nat.testBit_and,
    Nat.testBit_two_pow_sub_succ low, Nat.testBit_two_pow_sub_one, ← Nat.shiftRight_eq_div_pow,
    ← Nat.shiftLeft_eq, Nat.testBit_shiftLeft, Nat.testBit_shiftRight]
  by_cases high : k ≤ i
  · rw [Nat.add_sub_cancel' high]
    by_cases within : i < w
    · simp [high, within]
    · -- Above the word both sides are clear.
      have wide := Nat.pow_le_pow_right (show 0 < 2 by decide) (Nat.le_of_not_lt within)
      simp [Nat.testBit_lt_two_pow (Nat.lt_of_lt_of_le small wide)]
  · simp [high, Nat.lt_of_not_le high]

/-- The alignments that are 64-bit words. -/
theorem exponent_lt {align : Nat} (aligned : isAlignment align = true)
    (word : align < UInt64.size) : ∃ k < 64, align = 1 <<< k := by
  obtain ⟨k, rfl⟩ := isAlignment_iff.mp aligned
  refine ⟨k, ?_, rfl⟩
  by_contra large
  have wide := Nat.pow_le_pow_right (show 0 < 2 by decide) (Nat.le_of_not_lt large)
  rw [Nat.one_shiftLeft] at word
  exact absurd (Nat.lt_of_le_of_lt wide word) (by decide)

/-- Rounding up the level of an arena does not overflow a 64-bit word. -/
theorem lt_size_of_isAlignment {n align : Nat} (aligned : isAlignment align = true)
    (word : align < UInt64.size) (level : n ≤ Capacity.largest) :
    n + (align - 1) < UInt64.size := by
  obtain ⟨k, few, rfl⟩ := exponent_lt aligned word
  have half : 1 <<< k ≤ 9223372036854775808 := by
    rw [Nat.one_shiftLeft]
    exact Nat.pow_le_pow_right (show 0 < 2 by decide) (Nat.le_of_lt_succ few)
  simp only [Capacity.largest, UInt64.size] at level ⊢
  omega

/-- Where nothing overflows, 64-bit words round up as numbers do. -/
theorem toNat_roundUp {n align : Nat} (aligned : isAlignment align = true)
    (word : align < UInt64.size) (small : n + (align - 1) < UInt64.size) :
    ((n.toUInt64 + (align - 1).toUInt64) &&& ~~~(align - 1).toUInt64).toNat =
      roundUp n align := by
  have mask : (align - 1).toUInt64.toNat = align - 1 :=
    Nat.mod_eq_of_lt (Nat.lt_of_le_of_lt (Nat.le_add_left _ n) small)
  have value : n.toUInt64.toNat = n :=
    Nat.mod_eq_of_lt (Nat.lt_of_le_of_lt (Nat.le_add_right n _) small)
  rw [UInt64.toNat_and, UInt64.toNat_not, UInt64.toNat_add, mask, value, Nat.mod_eq_of_lt small,
    roundUp]
  obtain ⟨k, few, rfl⟩ := exponent_lt aligned word
  exact and_mask (Nat.le_of_lt few) small

/-! ### The bounds -/

/-- A handle that is read lies within the buffer, and all of its bytes are there. -/
theorem Sound.bytes_within (sound : a.Sound) {h : Handle} {bytes : Bytes}
    (read : a.bytes h = .ok bytes) : h.stop ≤ a.capacity ∧ bytes.length = h.length := by
  obtain ⟨live, rfl⟩ := bytes_ok_iff.mp read
  have within := Nat.le_trans (checkLive_ok_iff.mp live).2 sound.highWater
  exact ⟨within, Buffer.length_view within⟩

/-- Two ranges that are viewed at once lie within the buffer. If both have bytes, then the buffer
can be split where the second of them starts. -/
theorem Sound.bytesPair_within (sound : a.Sound) {h k : Handle} {x y : Bytes}
    (read : a.bytesPair h k = .ok (x, y)) : h.stop ≤ a.capacity ∧ k.stop ≤ a.capacity ∧
      x.length = h.length ∧ y.length = k.length ∧ (0 < h.length → 0 < k.length →
        if h.start < k.start then h.stop ≤ k.start else k.stop ≤ h.start) := by
  obtain ⟨first, second, apart, rfl, rfl⟩ := bytesPair_ok_iff.mp read
  have left := sound.bytes_within (bytes_ok_iff.mpr ⟨first, rfl⟩)
  have right := sound.bytes_within (bytes_ok_iff.mpr ⟨second, rfl⟩)
  have ours := (checkIssued_ok_iff.mp (checkLive_ok_iff.mp first).1).1
  have same : h.arena = k.arena :=
    ours.trans (checkIssued_ok_iff.mp (checkLive_ok_iff.mp second).1).1.symm
  refine ⟨left.1, right.1, left.2, right.2, fun some more => ?_⟩
  have order : ¬ (h.start < k.stop ∧ k.start < h.stop) := by
    simpa [Handle.overlaps, same] using apart
  unfold Handle.stop at order ⊢
  split <;> omega

/-- All that an arena computes is in bounds, with the open scopes `scopes`, the tokens `issued`
and the levels `levels` so far. -/
structure InBounds (a : Arena) (scopes : List Scope) (issued : List Token) (levels : List Nat) :
    Prop where
  words : a.capacity ≤ Capacity.largest
  highWater : a.highWater ≤ a.peak
  peak : a.peak ≤ a.capacity
  largest : a.peak ∈ levels ∧ ∀ level ∈ levels, level ≤ a.peak
  /-- A claim starts at a multiple of its alignment, and its words hold what was computed. -/
  claims : ∀ (size align : Nat) (h : Handle) (b : Arena), a.allocate size align = (.ok h, b) →
    align ∣ h.start ∧ h.start = roundUp a.highWater align ∧ h.length = size ∧
      h.stop ≤ a.capacity ∧ b.top.stop.toNat = h.stop
  /-- For an alignment that is a 64-bit word, rounding up does not overflow. -/
  places : ∀ align, isAlignment align = true → align < UInt64.size →
    a.highWater + (align - 1) < UInt64.size ∧
      ((a.highWater.toUInt64 + (align - 1).toUInt64) &&& ~~~(align - 1).toUInt64).toNat =
        roundUp a.highWater align
  marks : a.mark.height = a.highWater
  handles : ∀ h, .handle h ∈ issued → h.arena = a.id → h.stop ≤ a.capacity
  reads : ∀ (h : Handle) (bytes : Bytes), a.bytes h = .ok bytes →
    h.stop ≤ a.capacity ∧ bytes.length = h.length
  writes : ∀ (h : Handle) (change : Bytes → Bytes) (before : Bytes) (b : Arena),
    a.modify h change = (.ok before, b) → h.stop ≤ a.capacity ∧ before.length = h.length
  pairs : ∀ (h k : Handle) (x y : Bytes), a.bytesPair h k = .ok (x, y) →
    h.stop ≤ a.capacity ∧ k.stop ≤ a.capacity ∧ x.length = h.length ∧ y.length = k.length ∧
      (0 < h.length → 0 < k.length →
        if h.start < k.start then h.stop ≤ k.start else k.stop ≤ h.start)
  remaining : a.remaining + a.highWater = a.capacity
  used : ∀ s ∈ scopes, s.used a + s.mark.height = a.highWater
  /-- The clock counts no further than the calls, of which the levels tell the number. -/
  clock : a.clock < levels.length

/-- **Everything stays in bounds**, whatever callers ask who keep to their scopes: along every
course the levels are in order, and no word, subtraction or range leaves its bounds. -/
theorem course_in_bounds (course : Course a scopes issued levels) :
    a.InBounds scopes issued levels := by
  obtain ⟨sound, past⟩ := course.reached_held.1.sound
  have leveled := course.leveled
  constructor
  · exact sound.words
  · exact leveled.highWater
  · exact leveled.peak
  · exact ⟨leveled.attained, leveled.largest⟩
  · intro size align h b done
    obtain ⟨start, length, height, -, within⟩ := allocate_range sound.words done
    obtain ⟨-, fits, -, rfl⟩ := allocate_ok done
    refine ⟨?_, start, length, within, ?_⟩
    · exact start ▸ Nat.dvd_mul_left _ _
    · exact (toNat_toUInt32 fits sound.words).trans height
  · intro align aligned word
    have level : a.highWater ≤ Capacity.largest := Nat.le_trans sound.highWater sound.words
    have small := lt_size_of_isAlignment aligned word level
    exact ⟨small, toNat_roundUp aligned word small⟩
  · exact sound.height_mark
  · exact fun h mem own => (past _ mem own).2
  · exact fun h bytes read => sound.bytes_within read
  · intro h change before b done
    unfold modify at done
    split at done
    · simp at done
    · rename_i read
      simp only [Prod.mk.injEq, Except.ok.injEq] at done
      exact sound.bytes_within (done.1 ▸ read)
  · exact fun h k x y read => sound.bytesPair_within read
  · exact Nat.sub_add_cancel sound.highWater
  · exact fun s mem => Nat.sub_add_cancel (course.nested.1 s mem)
  · exact Nat.lt_of_le_of_lt (Nat.le_add_right _ _) course.ticks

/-! Three bytes are claimed, and in a scope eight at a multiple of eight; a scope in it claims one
more byte and is closed. -/

namespace Padded

def fresh : Arena := ⟨⟨1⟩, .ram, Buffer.zeroed 32, 0, 0, 0, 0, .empty, .empty, 0⟩

def low : Arena := (fresh.perform (.allocate 3 1)).2

def opened : Arena := (low.perform .openScope).2

def outer : Scope := (opened.perform (.inScope (low.perform .openScope).1 (.allocate 8 8))).1.2

def padded : Arena := (opened.perform (.inScope (low.perform .openScope).1 (.allocate 8 8))).2

def nested : Arena := (padded.perform .openScope).2

def inner : Scope := (nested.perform (.inScope (padded.perform .openScope).1 (.allocate 1 1))).1.2

def full : Arena := (nested.perform (.inScope (padded.perform .openScope).1 (.allocate 1 1))).2

def closed : Arena := (full.perform (.inScope inner .finish)).2

theorem course : ∃ issued, Course closed [outer] issued [16, 17, 16, 16, 3, 3, 0] := by
  have built : Course fresh [] [] [0] :=
    .built (build_ok_iff.mpr ⟨by decide, by decide, rfl⟩)
  have claimed := (built.called (.allocate 3 1) rfl (by decide)).entered.inScope (.allocate 8 8)
  exact ⟨_, (claimed.entered.inScope (.allocate 1 1)).inScope .finish⟩

end Padded

open Padded in
/-- The peak is the level that the inner scope reached, and the outer scope uses its claim with
five bytes of padding. -/
theorem course_in_bounds_padded :
    (∃ issued, Course closed [outer] issued [16, 17, 16, 16, 3, 3, 0]) ∧ closed.peak = 17 ∧
      outer.used closed = 13 ∧ closed.remaining = 16 := by
  obtain ⟨issued, course⟩ := Padded.course
  have bounds := course_in_bounds course
  have used := bounds.used outer List.mem_cons_self
  have remaining := bounds.remaining
  have level : closed.highWater = 16 := by decide
  have entered : outer.mark.height = 3 := by decide
  have capacity : closed.capacity = 32 := by decide
  refine ⟨⟨issued, course⟩, ?_, by omega, by omega⟩
  exact Nat.le_antisymm (by decide) (bounds.largest.2 17 (by decide))

end Arena

end TensorArena
