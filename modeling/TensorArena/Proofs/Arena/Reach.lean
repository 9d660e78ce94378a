import TensorArena.Proofs.Arena.Change

/-!
What callers can bring an arena to.

Callers cannot make up handles and marks: they present what some arena gave them. An arena
is reached with a list of tokens when it was built and then called in any order, resets
included, each call presenting tokens from the list or from other arenas. However it was
reached, its levels fit its capacity, no discard lies ahead of its clock, and every token
that it issued was issued at an earlier clock reading and lies within the buffer.
-/

namespace TensorArena

/-- The arena may have issued the token: not later than now, and within its buffer. -/
def Token.Past (a : Arena) : Token → Prop
  | .handle h => h.stamp.seq < a.clock ∧ h.stop ≤ a.capacity
  | .mark m => m.clock ≤ a.clock ∧ m.height ≤ a.capacity

theorem Token.Past.later {a b : Arena} {t : Token} (past : t.Past a) (clock : a.clock ≤ b.clock)
    (capacity : b.capacity = a.capacity) : t.Past b := by
  cases t with
  | handle h => exact ⟨Nat.lt_of_lt_of_le past.1 clock, capacity ▸ past.2⟩
  | mark m => exact ⟨Nat.le_trans past.1 clock, capacity ▸ past.2⟩

namespace Arena

/-- The arena was built and then called by callers who hold the tokens `issued`. -/
inductive Reached : Arena → List Token → Prop where
  | built {id : ArenaId} {pool : Pool} {capacity : Nat} {a : Arena} :
      build id pool capacity = .ok a → Reached a []
  | called {a : Arena} {issued : List Token} (c : Arena.Call) : Reached a issued →
      (∀ t ∈ c.presents, t ∈ issued ∨ t.arena ≠ a.id) →
      Reached (a.perform c).2 (c.yields (a.perform c).1 ++ issued)

/-- An arena of zero bytes that was never called. -/
def zeroed (id : ArenaId) (pool : Pool) (capacity : Nat) : Arena :=
  ⟨id, pool, Buffer.zeroed capacity, 0, 0, 0, 0, .empty, .empty, 0⟩

theorem reached_zeroed (id : ArenaId) (pool : Pool) {capacity : Nat} (positive : 0 < capacity)
    (fits : capacity ≤ Capacity.largest) : (zeroed id pool capacity).Reached [] :=
  .built (build_ok_iff.mpr ⟨positive, fits, rfl⟩)

/-- The levels of an arena fit its capacity, and no discard lies ahead of its clock. -/
structure Sound (a : Arena) : Prop where
  words : a.capacity ≤ Capacity.largest
  highWater : a.highWater ≤ a.capacity
  dead : a.dead.high < a.clock ∨ a.dead = .empty

variable {a b : Arena} {shown : Token → Prop} {log : List Discard}

/-- Readings from the present one on show no discard. -/
theorem Sound.discards_of_le {reading : Nat} (sound : a.Sound) (le : a.clock ≤ reading) :
    a.dead.discards reading = false := by
  rcases sound.dead with passed | empty
  · exact IssueRange.discards_eq_false_of_lt (Nat.lt_of_lt_of_le passed le)
  · rw [empty, IssueRange.discards_empty]

theorem Sound.height_mark (sound : a.Sound) : a.mark.height = a.highWater :=
  toNat_toUInt32 sound.highWater sound.words

/-! ### One change -/

theorem sound_of_build {id : ArenaId} {pool : Pool} {capacity : Nat}
    (built : build id pool capacity = .ok a) : a.Sound := by
  obtain ⟨-, fits, rfl⟩ := build_ok_iff.mp built
  refine ⟨?_, Nat.zero_le _, .inr rfl⟩
  simpa [Arena.capacity, Buffer.zeroed] using fits

theorem Sound.allocate {size align : Nat} {h : Handle} (sound : a.Sound)
    (done : a.allocate size align = (.ok h, b)) : b.Sound := by
  obtain ⟨-, -, height, -, within⟩ := allocate_range sound.words done
  obtain ⟨-, -, -, rfl⟩ := allocate_ok done
  exact ⟨sound.words, height ▸ within, sound.dead.imp_left Nat.lt_succ_of_lt⟩

theorem Sound.release {h : Handle} (sound : a.Sound) (done : a.release h = (.ok (), b))
    (within : h.start ≤ a.capacity) : b.Sound := by
  obtain ⟨-, -, rfl⟩ := release_ok_iff.mp done
  exact ⟨sound.words, within, .inl (by simp [bury])⟩

theorem Sound.unwindTo {m : Mark} (sound : a.Sound) (done : a.unwindTo m = (.ok (), b))
    (within : m.height ≤ a.capacity) : b.Sound := by
  obtain ⟨-, rfl⟩ := unwindTo_ok_iff.mp done
  exact ⟨sound.words, within, .inl (by simp [bury])⟩

theorem Sound.reset (sound : a.Sound) : a.reset.Sound :=
  ⟨sound.words, Nat.zero_le _, .inr rfl⟩

theorem Sound.write (sound : a.Sound) (h : Handle) (bytes : Bytes) : (a.write h bytes).Sound := by
  have same : (a.write h bytes).capacity = a.capacity := Buffer.size_write _ _ _
  exact ⟨same ▸ sound.words, same ▸ sound.highWater, sound.dead⟩

theorem Change.sound (change : Change shown a log b) (sound : a.Sound)
    (past : ∀ t, shown t → t.arena = a.id → t.Past a) : b.Sound := by
  cases change with
  | claim done => exact sound.allocate done
  | @release h _ held done =>
    have own := (checkIssued_ok_iff.mp (release_ok_iff.mp done).1).1
    exact sound.release done (Nat.le_trans (Nat.le_add_right _ _) (past _ held own).2)
  | @unwind m _ held done =>
    have own := (checkMark_ok_iff.mp (unwindTo_ok_iff.mp done).1).1
    exact sound.unwindTo done (past _ held own).2
  | write bytes _ _ => exact sound.write _ bytes
  | openScope => exact ⟨sound.words, sound.highWater, sound.dead⟩

theorem Changes.sound (changes : Changes shown a log b) (sound : a.Sound)
    (past : ∀ t, shown t → t.arena = a.id → t.Past a) : b.Sound := by
  induction changes with
  | none => exact sound
  | more before change ih =>
    have continues := before.continues
    refine change.sound ih fun t held own => ?_
    exact (past t held (own.trans continues.id)).later continues.clock continues.capacity

/-! ### One call -/

theorem perform_sound (sound : a.Sound) (c : Arena.Call)
    (past : ∀ t ∈ c.presents, t.arena = a.id → t.Past a) : (a.perform c).2.Sound := by
  cases reset : c.isReset with
  | true =>
    cases c <;> simp only [Call.isReset, reduceCtorEq] at reset
    exact sound.reset
  | false =>
    have changes : Changes (· ∈ c.presents) a (a.discards c) (a.perform c).2 :=
      perform_changes a c (fun _ mem => mem) reset
    exact changes.sound sound past

/-- What a call answers lies in the past of the arena after it. -/
theorem yields_past (sound : a.Sound) (c : Arena.Call)
    (past : ∀ t ∈ c.presents, t.arena = a.id → t.Past a) :
    ∀ t ∈ c.yields (a.perform c).1, t.arena = a.id → t.Past (a.perform c).2 := by
  obtain ⟨-, capacity, clock⟩ := perform_keeps a c
  intro t yielded own
  rcases yields_cases a c yielded with presented | rfl | ⟨size, align, h, done, rfl⟩
  · exact (past t presented own).later clock capacity
  · have height := Nat.le_of_eq sound.height_mark
    exact Token.Past.later (t := .mark a.mark)
      ⟨Nat.le_refl _, Nat.le_trans height sound.highWater⟩ clock capacity
  · obtain ⟨-, -, -, -, within⟩ := allocate_range sound.words done
    obtain ⟨-, -, rfl, after⟩ := allocate_ok done
    refine ⟨?_, capacity ▸ within⟩
    rw [after]
    exact Nat.lt_succ_self _

/-! ### Every history -/

/-- **Reached arenas are sound**, and what they issued lies in their past. -/
theorem Reached.sound {issued : List Token} (reached : Reached a issued) :
    a.Sound ∧ ∀ t ∈ issued, t.arena = a.id → t.Past a := by
  induction reached with
  | built done => exact ⟨sound_of_build done, by simp⟩
  | @called a issued c _ honest ih =>
    obtain ⟨sound, earlier⟩ := ih
    have past : ∀ t ∈ c.presents, t.arena = a.id → t.Past a := by
      intro t presented own
      rcases honest t presented with held | foreign
      · exact earlier t held own
      · exact absurd own foreign
    obtain ⟨id, capacity, clock⟩ := perform_keeps a c
    refine ⟨perform_sound sound c past, fun t mem own => ?_⟩
    rcases List.mem_append.mp mem with new | old
    · exact yields_past sound c past t new (own.trans id)
    · exact (earlier t old (own.trans id)).later clock capacity

end Arena

end TensorArena
