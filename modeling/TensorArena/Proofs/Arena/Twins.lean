import TensorArena.Proofs.Arena.Reach

/-!
Two arenas that differ in their past.

Two arenas of one capacity are entered at one level, and the same is done in both. What each did
before shows in its number, its epoch, its clock and the numbers that it discarded. From then on
they issue different numbers, but a number lies as far from its arena's clock at entry as its twin
does, and nothing that was discarded before lies there. So each check of a number comes out the
same in both, and the answers differ in bytes and in tokens only (`Arena.Twins`).

One answer would give the past away: a release that is refused for its order tells where the most
recent claim ends. Where that claim was issued since entry (`Top.Fresh`) it ends at the same
place in both.
-/

namespace TensorArena

/-- Where a claim lies. -/
structure Place where
  pool : Pool
  offset : UInt32
  size : UInt32
deriving DecidableEq, Repr

def Handle.place (h : Handle) : Place := ⟨h.pool, h.offset, h.size⟩

/-- Two operations went the same way: both were refused for the same reason, or both were served,
and `state` holds of what they left. -/
inductive Matched {ε α τ : Type} (answer : α → α → Prop) (state : τ → τ → Prop) :
    Except ε α × τ → Except ε α × τ → Prop where
  | refused (fault : ε) {s t : τ} :
    state s t → Matched answer state (.error fault, s) (.error fault, t)
  | served {x y : α} {s t : τ} :
    answer x y → state s t → Matched answer state (.ok x, s) (.ok y, t)

/-- Outcomes that show the same were both refused for the same reason, or both served. -/
theorem outcomes_of_map_eq {ε α β : Type} {seen : α → β} {x y : Except ε α}
    (same : y.map seen = x.map seen) :
    (∃ fault, x = .error fault ∧ y = .error fault) ∨
      ∃ p q, x = .ok p ∧ y = .ok q ∧ seen q = seen p := by
  cases x with
  | error fault =>
    cases y with
    | error other => exact .inl ⟨fault, rfl, congrArg _ (Except.error.inj same)⟩
    | ok q => cases same
  | ok p =>
    cases y with
    | error fault => cases same
    | ok q => exact .inr ⟨p, q, rfl, rfl, Except.ok.inj same⟩

/-! ### Discarded numbers -/

namespace IssueRange

/-- Two ranges hold the same numbers, counted from `m` and from `n`: none of either, where both
were discarded before. -/
inductive Twins (m n : Nat) : IssueRange → IssueRange → Prop where
  | before {i j : IssueRange} :
    i.high < m ∨ i = .empty → j.high < n ∨ j = .empty → Twins m n i j
  | since (low high : Nat) : Twins m n ⟨m + low, m + high⟩ ⟨n + low, n + high⟩

variable {m n : Nat} {i j : IssueRange}

theorem holds_of_before (before : i.high < m ∨ i = .empty) (k : Nat) :
    i.holds (m + k) = false := by
  rcases before with passed | rfl
  · simp only [holds, Bool.and_eq_false_iff, decide_eq_false_iff_not]
    omega
  · simp [holds, empty]

theorem discards_of_before (before : i.high < m ∨ i = .empty) (k : Nat) :
    i.discards (m + k) = false := by
  rcases before with passed | rfl
  · exact discards_eq_false_of_lt (Nat.lt_of_lt_of_le passed (Nat.le_add_right m k))
  · exact discards_empty _

theorem Twins.holds (twins : Twins m n i j) (k : Nat) : j.holds (n + k) = i.holds (m + k) := by
  cases twins with
  | before first second => rw [holds_of_before first, holds_of_before second]
  | since low high => simp only [IssueRange.holds, Nat.add_le_add_iff_left, Nat.add_lt_add_iff_left]

theorem Twins.discards (twins : Twins m n i j) (k : Nat) :
    j.discards (n + k) = i.discards (m + k) := by
  cases twins with
  | before first second => rw [discards_of_before first, discards_of_before second]
  | since low high =>
    simp only [IssueRange.discards, Nat.add_le_add_iff_left, Nat.add_lt_add_iff_left]

theorem bury_of_before (before : i.high < m ∨ i = .empty) (k clock : Nat) :
    i.bury (m + k) clock = ⟨m + k, clock⟩ := by
  unfold bury
  split
  · rename_i reaches
    rcases before with passed | rfl
    · omega
    · -- The empty range is reached from zero only, and is no wider then.
      have nothing : m + k = 0 := Nat.le_zero.mp reaches
      simp [nothing]
  · rfl

/-- Discarding the same numbers on top. -/
theorem Twins.bury (twins : Twins m n i j) (k now : Nat) :
    Twins m n (i.bury (m + k) (m + now)) (j.bury (n + k) (n + now)) := by
  cases twins with
  | before first second =>
    rw [bury_of_before first, bury_of_before second]
    exact .since k now
  | since low high =>
    simp only [IssueRange.bury, Nat.add_le_add_iff_left, Nat.add_min_add_left]
    split
    · exact .since (min low k) now
    · exact .since k now

end IssueRange

/-! ### Twins -/

section Tokens

variable (a b : Arena)

/-- The tops were issued since the arenas `a` and `b`, equally long after them. -/
inductive Top.Fresh : Top → Top → Prop where
  | issued (n : Nat) (stop : UInt32) : Fresh ⟨some (a.clock + n), stop⟩ ⟨some (b.clock + n), stop⟩

/-- The tops are those of `a` and `b`, or were issued since. -/
inductive Top.Twins : Top → Top → Prop where
  | entry : Twins a.top b.top
  | fresh {t u : Top} : Top.Fresh a b t u → Twins t u

/-- The handles were issued since `a` and `b`, for the same place. -/
structure Handle.Twins (h k : Handle) : Prop where
  place : k.place = h.place
  arena : h.arena = a.id ∧ k.arena = b.id
  stamp : ∃ n, h.stamp = ⟨a.epoch, a.clock + n⟩ ∧ k.stamp = ⟨b.epoch, b.clock + n⟩
  below : Top.Twins a b h.below k.below

/-- The marks were taken since `a` and `b`, at the same level. -/
structure Mark.Twins (m n : Mark) : Prop where
  offset : n.offset = m.offset
  arena : m.arena = a.id ∧ n.arena = b.id
  epoch : m.epoch = a.epoch ∧ n.epoch = b.epoch
  clock : ∃ i, m.clock = a.clock + i ∧ n.clock = b.clock + i
  top : Top.Twins a b m.top n.top

namespace Arena

/-- The same was done in `c` since `a` as in `d` since `b`. -/
structure Twins (c d : Arena) : Prop where
  id : c.id = a.id ∧ d.id = b.id
  epoch : c.epoch = a.epoch ∧ d.epoch = b.epoch
  pool : d.pool = c.pool
  capacity : d.capacity = c.capacity
  highWater : d.highWater = c.highWater
  clock : ∃ n, c.clock = a.clock + n ∧ d.clock = b.clock + n
  top : Top.Twins a b c.top d.top
  dead : IssueRange.Twins a.clock b.clock c.dead d.dead

/-- Twins `c` and `d` went on to twins, and where their tops were fresh they are. -/
structure Moves (c d c' d' : Arena) : Prop where
  twins : Twins a b c' d'
  fresh : Top.Fresh a b c.top d.top → Top.Fresh a b c'.top d'.top

end Arena

end Tokens

variable {a b c d : Arena} {h k : Handle} {m n : Mark}

theorem Handle.Twins.pool (twins : Handle.Twins a b h k) : k.pool = h.pool :=
  congrArg Place.pool twins.place

theorem Handle.Twins.start (twins : Handle.Twins a b h k) : k.start = h.start :=
  congrArg (fun place => place.offset.toNat) twins.place

theorem Handle.Twins.length (twins : Handle.Twins a b h k) : k.length = h.length :=
  congrArg (fun place => place.size.toNat) twins.place

theorem Handle.Twins.stop (twins : Handle.Twins a b h k) : k.stop = h.stop := by
  rw [Handle.stop, Handle.stop, twins.start, twins.length]

theorem Mark.Twins.height (twins : Mark.Twins a b m n) : n.height = m.height :=
  congrArg UInt32.toNat twins.offset

namespace Arena

/-- Arenas of one capacity and one level are twins of themselves. -/
theorem twins_entry (first : a.Sound) (second : b.Sound) (pool : b.pool = a.pool)
    (capacity : b.capacity = a.capacity) (level : b.highWater = a.highWater) :
    Twins a b a b where
  id := ⟨rfl, rfl⟩
  epoch := ⟨rfl, rfl⟩
  pool := pool
  capacity := capacity
  highWater := level
  clock := ⟨0, rfl, rfl⟩
  top := .entry
  dead := .before first.dead second.dead

theorem Twins.moves (twins : Twins a b c d) : Moves a b c d c d := ⟨twins, fun fresh => fresh⟩

theorem Moves.trans {c' d' c'' d'' : Arena} (first : Moves a b c d c' d')
    (second : Moves a b c' d' c'' d'') : Moves a b c d c'' d'' :=
  ⟨second.twins, second.fresh ∘ first.fresh⟩

theorem Twins.mark (twins : Twins a b c d) : Mark.Twins a b c.mark d.mark where
  offset := congrArg Nat.toUInt32 twins.highWater
  arena := twins.id
  epoch := twins.epoch
  clock := twins.clock
  top := twins.top

/-! ### Claiming -/

/-- Twins answer the same claim, and what they claim is fresh. -/
theorem Twins.allocate (twins : Twins a b c d) (size align : Nat) :
    Matched (Handle.Twins a b) (Moves a b c d) (c.allocate size align) (d.allocate size align) := by
  obtain ⟨n, now, later⟩ := twins.clock
  simp only [Arena.allocate, twins.highWater, twins.capacity, twins.pool]
  split
  · split
    · have fresh : Top.Fresh a b
          ⟨some c.clock, (roundUp c.highWater align + size).toUInt32⟩
          ⟨some d.clock, (roundUp c.highWater align + size).toUInt32⟩ := by
        rw [now, later]
        exact .issued n _
      refine .served ⟨rfl, twins.id, ⟨n, ?_, ?_⟩, twins.top⟩ ⟨?_, fun _ => fresh⟩
      · rw [twins.epoch.1, now]
      · rw [twins.epoch.2, later]
      · exact { twins with
          pool := rfl
          highWater := rfl
          clock := ⟨n + 1, congrArg (· + 1) now, congrArg (· + 1) later⟩
          top := .fresh fresh }
    · exact .refused _ twins.moves
  · exact .refused _ twins.moves

/-- What was claimed is the top. -/
theorem Twins.fresh_of_allocate {c' d' : Arena} {size align : Nat} (twins : Twins a b c d)
    (first : c.allocate size align = (.ok h, c')) (second : d.allocate size align = (.ok k, d')) :
    Top.Fresh a b c'.top d'.top := by
  obtain ⟨n, now, later⟩ := twins.clock
  obtain ⟨-, -, -, rfl⟩ := allocate_ok first
  obtain ⟨-, -, -, rfl⟩ := allocate_ok second
  simp only [twins.highWater, now, later]
  exact .issued n _

/-! ### Checks -/

theorem Twins.stale (twins : Twins a b c d) (handles : Handle.Twins a b h k) :
    d.stale k = c.stale h := by
  rw [Arena.stale, Arena.stale, twins.pool, handles.stop, twins.highWater]

theorem Twins.checkIssued (twins : Twins a b c d) (handles : Handle.Twins a b h k) :
    d.checkIssued k = c.checkIssued h := by
  obtain ⟨n, stamp, other⟩ := handles.stamp
  have same := twins.dead.holds n
  simp only [Arena.checkIssued, handles.arena, twins.id, twins.epoch, stamp, other, same,
    twins.stale handles, ne_eq, not_true_eq_false, if_false, false_or]

theorem Twins.checkLive (twins : Twins a b c d) (handles : Handle.Twins a b h k) :
    d.checkLive k = c.checkLive h := by
  simp only [Arena.checkLive, twins.checkIssued handles, twins.highWater, handles.stop,
    twins.stale handles]

theorem Twins.checkMark (twins : Twins a b c d) (marks : Mark.Twins a b m n) :
    d.checkMark n = c.checkMark m := by
  obtain ⟨i, reading, other⟩ := marks.clock
  have same := twins.dead.discards i
  simp only [Arena.checkMark, marks.arena, twins.id, marks.epoch, twins.epoch, reading, other, same,
    twins.pool, twins.highWater, marks.height, ne_eq, not_true_eq_false, if_false, false_or]

/-! ### Giving bytes back -/

/-- Twins that discard the same numbers and come to one level and to twin tops are twins. -/
theorem Twins.bury {t u : Top} {i level : Nat} (twins : Twins a b c d) (tops : Top.Twins a b t u) :
    Twins a b { c.bury (a.clock + i) with highWater := level, top := t }
      { d.bury (b.clock + i) with highWater := level, top := u } := by
  obtain ⟨n, now, later⟩ := twins.clock
  have dead := twins.dead.bury i n
  rw [← now, ← later] at dead
  exact { twins with
    highWater := rfl
    clock := ⟨n + 1, congrArg (· + 1) now, congrArg (· + 1) later⟩
    top := tops
    dead := dead }

/-- A release where the top is fresh. The top stays where it is refused, and is what the handle
was placed on where it is served. -/
theorem Twins.release (twins : Twins a b c d) (handles : Handle.Twins a b h k)
    (fresh : Top.Fresh a b c.top d.top) :
    (d.release k).1 = (c.release h).1 ∧ Twins a b (c.release h).2 (d.release k).2 ∧
      (Top.Fresh a b h.below k.below → Top.Fresh a b (c.release h).2.top (d.release k).2.top) := by
  obtain ⟨i, stamp, other⟩ := handles.stamp
  simp only [Arena.release, twins.checkIssued handles]
  cases c.checkIssued h with
  | error fault => exact ⟨rfl, twins, fun _ => fresh⟩
  | ok =>
    obtain ⟨j, stop, here, there⟩ : ∃ j stop, c.top = ⟨some (a.clock + j), stop⟩ ∧
        d.top = ⟨some (b.clock + j), stop⟩ := by
      generalize c.top = t at fresh
      generalize d.top = u at fresh
      cases fresh with
      | issued j stop => exact ⟨j, stop, rfl, rfl⟩
    simp only [here, there, stamp, other, ne_eq, Option.some.injEq, Nat.add_left_cancel_iff]
    -- The claim is the newest in both arenas or in neither.
    by_cases newest : j = i
    · simp only [newest, not_true_eq_false, if_false, handles.start]
      exact ⟨trivial, twins.bury handles.below, fun below => below⟩
    · simp only [newest, not_false_eq_true, if_true, twins.pool, handles.stop]
      exact ⟨trivial, twins, fun _ => fresh⟩

theorem Twins.unwindTo (twins : Twins a b c d) (marks : Mark.Twins a b m n) :
    (d.unwindTo n).1 = (c.unwindTo m).1 ∧ Twins a b (c.unwindTo m).2 (d.unwindTo n).2 ∧
      (Top.Fresh a b c.top d.top → Top.Fresh a b m.top n.top →
        Top.Fresh a b (c.unwindTo m).2.top (d.unwindTo n).2.top) := by
  obtain ⟨i, reading, other⟩ := marks.clock
  simp only [Arena.unwindTo, twins.checkMark marks]
  cases c.checkMark m with
  | error fault => exact ⟨rfl, twins, fun fresh _ => fresh⟩
  | ok =>
    simp only [reading, other, marks.height]
    exact ⟨trivial, twins.bury marks.top, fun _ top => top⟩

/-! ### Reading and writing -/

theorem Twins.length_view (twins : Twins a b c d) (handles : Handle.Twins a b h k) :
    (d.view k).length = (c.view h).length := by
  have sizes : d.buffer.size = c.buffer.size := twins.capacity
  simp only [Arena.view, Buffer.view_eq, List.length_take, List.length_drop, Array.length_toList,
    handles.start, handles.length, sizes]

/-- Twins stay twins whatever is written to them. -/
theorem Twins.write (twins : Twins a b c d) (h k : Handle) (x y : Bytes) :
    Moves a b c d (c.write h x) (d.write k y) := by
  have capacity : (d.write k y).capacity = (c.write h x).capacity :=
    (Buffer.size_write _ _ _).trans (twins.capacity.trans (Buffer.size_write _ _ _).symm)
  exact ⟨{ twins with capacity := capacity }, fun fresh => fresh⟩

theorem Twins.bytes (twins : Twins a b c d) (handles : Handle.Twins a b h k) :
    (d.bytes k).map List.length = (c.bytes h).map List.length := by
  simp only [Arena.bytes, twins.checkLive handles]
  cases c.checkLive h with
  | error fault => rfl
  | ok => exact congrArg Except.ok (twins.length_view handles)

theorem Twins.modify (twins : Twins a b c d) (handles : Handle.Twins a b h k)
    (change other : Bytes → Bytes) :
    Matched (fun x y => y.length = x.length) (Moves a b c d) (c.modify h change)
      (d.modify k other) := by
  simp only [Arena.modify, Arena.bytes, twins.checkLive handles]
  cases c.checkLive h with
  | error fault => exact .refused fault twins.moves
  | ok => exact .served (twins.length_view handles) (twins.write _ _ _ _)

theorem Twins.overlaps {h' k' : Handle} (handles : Handle.Twins a b h k)
    (others : Handle.Twins a b h' k') : k.overlaps k' = h.overlaps h' := by
  simp only [Handle.overlaps, handles.arena, others.arena, handles.start, handles.stop,
    others.start, others.stop, beq_self_eq_true]

theorem Twins.modifyPair {h' k' : Handle} (twins : Twins a b c d)
    (handles : Handle.Twins a b h k) (others : Handle.Twins a b h' k')
    (change other : Bytes → Bytes → Bytes × Bytes) :
    Matched (fun x y => y.1.length = x.1.length ∧ y.2.length = x.2.length) (Moves a b c d)
      (c.modifyPair h h' change) (d.modifyPair k k' other) := by
  simp only [Arena.modifyPair, Arena.bytesPair, twins.checkLive handles, twins.checkLive others,
    Twins.overlaps handles others, twins.pool]
  cases c.checkLive h with
  | error fault => exact .refused fault twins.moves
  | ok =>
    cases c.checkLive h' with
    | error fault => exact .refused fault twins.moves
    | ok =>
      cases h.overlaps h' with
      | true => exact .refused _ twins.moves
      | false =>
        have first := twins.write h k (change (c.view h) (c.view h')).1
          (other (d.view k) (d.view k')).1
        exact .served ⟨twins.length_view handles, twins.length_view others⟩
          (first.trans (first.twins.write _ _ _ _))

end Arena

end TensorArena
