import TensorArena.Proofs.Arena.Change

/-!
How long an arena remembers what it discarded.

The arena keeps one range of discarded issue numbers. A discard that reaches back to the
range widens it; a discard of nothing but numbers issued after the discard before it
replaces the range, and what the range held until then is forgotten. It is remembered
again only when a later discard reaches back that far. `Forgotten` states this rule on the
list of discards alone, without the range.

The rule decides what becomes of tokens whose claims were given back. A handle that was
unwound past is refused as stale exactly until its discard is forgotten and the high-water
mark stands above its range again (`unwound_handle_stale_iff`); a mark whose state was
discarded can be restored exactly from then on (`discarded_mark_refused_iff`). So neither is
refused for good, and only a reset makes the refusal final.
-/

namespace TensorArena

namespace Arena

variable {a : Arena}

/-! ### Runs -/

/-- The arena after calls, made in order. -/
def after (a : Arena) : List Arena.Call → Arena
  | [] => a
  | c :: rest => (a.perform c).2.after rest

/-- The discards of a run, newest first. -/
def discardLog (a : Arena) : List Arena.Call → List Discard
  | [] => []
  | c :: rest => (a.perform c).2.discardLog rest ++ a.discards c

/-- The number of resets among calls. -/
def resets (calls : List Arena.Call) : Nat := calls.countP Call.isReset

theorem after_append (a : Arena) (xs ys : List Arena.Call) :
    a.after (xs ++ ys) = (a.after xs).after ys := by
  induction xs generalizing a with
  | nil => rfl
  | cons c rest ih => exact ih (a.perform c).2

theorem resets_cons (c : Arena.Call) (rest : List Arena.Call) :
    resets (c :: rest) = resets rest + (if c.isReset then 1 else 0) :=
  List.countP_cons

theorem resets_cons_eq_zero_iff {c : Arena.Call} {rest : List Arena.Call} :
    resets (c :: rest) = 0 ↔ c.isReset = false ∧ resets rest = 0 := by
  rw [resets_cons]
  cases c.isReset <;> simp

theorem resets_append (xs ys : List Arena.Call) : resets (xs ++ ys) = resets xs + resets ys :=
  List.countP_append

/-- A run without resets makes the discards of its log. -/
theorem after_continues (a : Arena) (calls : List Arena.Call) (kept : resets calls = 0) :
    Continues a (a.discardLog calls) (a.after calls) := by
  induction calls generalizing a with
  | nil => exact ⟨rfl, rfl, rfl, rfl, Nat.le_refl _, rfl, by simp [discardLog]⟩
  | cons c rest ih =>
    obtain ⟨first, tail⟩ := resets_cons_eq_zero_iff.mp kept
    exact (perform_continues a c first).trans (ih _ tail)

/-! ### The range and the log -/

/-- The epoch counts resets, in 32 bits. -/
theorem epoch_after (a : Arena) (calls : List Arena.Call) :
    (a.after calls).epoch = a.epoch + UInt32.ofNat (resets calls) := by
  induction calls generalizing a with
  | nil => simp [after, resets]
  | cons c rest ih =>
    rw [after, ih, resets_cons]
    cases reset : c.isReset with
    | true =>
      cases c <;> simp only [Call.isReset, reduceCtorEq] at reset
      simp [perform, Arena.reset, UInt32.add_assoc, UInt32.add_comm 1]
    | false =>
      simp [(perform_continues a c reset).epoch]

theorem id_after (a : Arena) (calls : List Arena.Call) : (a.after calls).id = a.id := by
  induction calls generalizing a with
  | nil => rfl
  | cons c rest ih => exact (ih _).trans (perform_keeps a c).1

/-- Fewer than `2^32` resets return to an epoch only if there are none. -/
theorem epoch_after_eq_iff {calls : List Arena.Call} (few : resets calls < UInt32.size) :
    (a.after calls).epoch = a.epoch ↔ resets calls = 0 := by
  rw [epoch_after]
  constructor
  · intro same
    have zero : UInt32.ofNat (resets calls) = UInt32.ofNat 0 := by simpa using same
    have modulo : resets calls % UInt32.size = 0 := by simpa using congrArg UInt32.toNat zero
    rwa [Nat.mod_eq_of_lt few] at modulo
  · intro none
    simp [none]

/-! ### Forgetting -/

/-- The discards `log`, newest first, no longer show the one that a clock reading was
discarded by: some discard gave back only numbers issued after the discard before it, and
neither it nor any later one reached below the reading. -/
inductive Forgotten (reading : Nat) : List Discard → Prop where
  | replaced {d e : Discard} {older : List Discard} :
      d.clock < e.first → reading ≤ e.first → Forgotten reading (e :: d :: older)
  | still {e : Discard} {older : List Discard} :
      reading ≤ e.first → Forgotten reading older → Forgotten reading (e :: older)

theorem forgotten_cons_iff {reading : Nat} {d e : Discard} {older : List Discard} :
    Forgotten reading (e :: d :: older) ↔
      reading ≤ e.first ∧ (d.clock < e.first ∨ Forgotten reading (d :: older)) := by
  constructor
  · intro forgotten
    cases forgotten with
    | replaced fresh above => exact ⟨above, .inl fresh⟩
    | still above older => exact ⟨above, .inr older⟩
  · rintro ⟨above, fresh | older⟩
    · exact .replaced fresh above
    · exact .still above older

/-- A single discard that reached below a reading is not forgotten. -/
theorem not_forgotten_singleton {reading : Nat} {d : Discard} (reached : d.first < reading) :
    ¬ Forgotten reading [d] := by
  intro forgotten
  cases forgotten with
  | still above _ => omega

/-- The range shows a discarded reading exactly until its discard is forgotten. `base` is the
discard itself and `newer` are those that came after it. -/
theorem discards_buryAll_iff {i : IssueRange} {reading : Nat} {base : Discard}
    (newer : List Discard) (reached : base.first < reading) (shown : reading ≤ base.clock)
    (since : ∀ d ∈ newer, reading ≤ d.clock) :
    (i.buryAll (newer ++ [base])).discards reading = false ↔
      Forgotten reading (newer ++ [base]) := by
  induction newer with
  | nil =>
    simp only [List.nil_append, IssueRange.buryAll, not_forgotten_singleton reached, iff_false,
      Bool.not_eq_false]
    exact IssueRange.discards_bury_of_lt reached shown
  | cons e rest ih =>
    have ih := ih fun d mem => since d (List.mem_cons_of_mem _ mem)
    have seen : reading ≤ e.clock := since e List.mem_cons_self
    obtain ⟨d, older, split, earlier⟩ : ∃ d older, rest ++ [base] = d :: older ∧
        reading ≤ d.clock := by
      cases rest with
      | nil => exact ⟨base, [], rfl, shown⟩
      | cons d older => exact ⟨d, older ++ [base], rfl, since d (by simp)⟩
    rw [List.cons_append, split, forgotten_cons_iff, ← split, ← ih, split]
    simp only [IssueRange.buryAll]
    rw [IssueRange.discards_bury_eq_false_iff seen (by simpa using earlier), IssueRange.high_bury]

/-- The same for a run whose first call discards the reading. -/
theorem discards_after_iff {call : Arena.Call} {later : List Arena.Call} {reading first : Nat}
    (kept : resets (call :: later) = 0) (made : a.discards call = [⟨first, a.clock⟩])
    (reached : first < reading) (seen : reading ≤ a.clock) :
    (a.after (call :: later)).dead.discards reading = false ↔
      Forgotten reading (a.discardLog (call :: later)) := by
  have whole := after_continues a _ kept
  obtain ⟨noReset, tail⟩ := resets_cons_eq_zero_iff.mp kept
  have start := perform_continues a call noReset
  have rest := after_continues (a.perform call).2 _ tail
  rw [whole.dead, discardLog, made]
  refine discards_buryAll_iff _ reached seen fun d mem => ?_
  exact Nat.le_trans (Nat.le_trans seen start.clock) (rest.since d mem)

/-! ### A run that relays the same bytes -/

namespace Relaid

/-- A fresh arena of eight bytes. -/
def start : Arena := ⟨⟨1⟩, .ram, Buffer.zeroed 8, 0, 0, 0, 0, .empty, .empty, 0⟩

/-- Its first claim, of all bytes. -/
def first : Handle := ⟨⟨1⟩, .ram, 0, 8, ⟨0, 0⟩, .empty⟩

/-- The claim of the same bytes after the first one was given back. -/
def second : Handle := ⟨⟨1⟩, .ram, 0, 8, ⟨0, 2⟩, .empty⟩

/-- The run after the first claim was given back: the bytes are claimed, released and
claimed a third time. The release gives back nothing but the second claim, so with it the
arena forgets the first. -/
def later : List Arena.Call := [.allocate 8 1, .release second, .allocate 8 1]

end Relaid

/-! ### Handles that were unwound past -/

/-- Every access to the handle is refused as stale, alone or beside a live handle. -/
def RefusesAccess (a : Arena) (h : Handle) : Prop :=
  a.bytes h = .error (a.stale h) ∧
    (∀ change, (a.modify h change).1 = .error (a.stale h)) ∧
    ∀ k change, a.checkLive k = .ok () →
      (a.modifyPair h k change).1 = .error (a.stale h) ∧
        (a.modifyPair k h change).1 = .error (a.stale h)

/-- A handle that its own arena does not accept is refused access, and no other is. -/
theorem refusesAccess_iff {h : Handle} (own : h.arena = a.id) :
    a.RefusesAccess h ↔ a.checkLive h ≠ .ok () := by
  constructor
  · rintro ⟨refused, -⟩ live
    rw [bytes_ok_iff.mpr ⟨live, rfl⟩] at refused
    cases refused
  · intro dead
    have refused := checkLive_error own dead
    have unread : a.bytes h = .error (a.stale h) := by simp [bytes, refused]
    refine ⟨unread, fun change => by simp [modify, unread], fun k change live => ?_⟩
    simp [modifyPair, bytesPair, refused, live]

/-- A handle is issued at the present clock, in the present epoch. -/
theorem stamp_of_allocate {size align : Nat} {h : Handle}
    (issue : (a.allocate size align).1 = .ok h) :
    h.arena = a.id ∧ h.stamp = ⟨a.epoch, a.clock⟩ ∧
      (a.allocate size align).2.clock = a.clock + 1 := by
  cases done : a.allocate size align with
  | mk answer b =>
    rw [done] at issue
    subst issue
    obtain ⟨-, -, rfl, rfl⟩ := allocate_ok done
    exact ⟨rfl, rfl, rfl⟩

/-- Without a reset, a handle issued in a run belongs to the arena and the epoch after it,
and its number lies between the two clocks. -/
theorem stamp_of_run {lead lag : List Arena.Call} {size align : Nat} {h : Handle}
    (issue : ((a.after lead).allocate size align).1 = .ok h)
    (kept : resets (lead ++ .allocate size align :: lag) = 0) :
    let u := a.after (lead ++ .allocate size align :: lag)
    h.arena = u.id ∧ h.stamp.epoch = u.epoch ∧ a.clock ≤ h.stamp.seq ∧ h.stamp.seq < u.clock := by
  obtain ⟨arena, stamp, tick⟩ := stamp_of_allocate issue
  rw [resets_append, resets_cons] at kept
  have before := after_continues a lead (by omega)
  have claim := perform_continues (a.after lead) (.allocate size align) rfl
  have behind := after_continues ((a.after lead).perform (.allocate size align)).2 lag (by omega)
  rw [after_append]
  refine ⟨?_, ?_, ?_, ?_⟩
  · rw [arena, ← claim.id, ← behind.id]; rfl
  · rw [stamp, ← claim.epoch, ← behind.epoch]; rfl
  · rw [stamp]; exact before.clock
  · rw [stamp]; exact Nat.lt_of_lt_of_le (Nat.lt_of_lt_of_eq (Nat.lt_succ_self _) tick.symm)
      behind.clock

/-- **Unwound handles.** Let `h` be issued after a mark was taken, and the arena then be
unwound to the mark. From then on `h` is refused until its discard is forgotten, there is no
reset, and the high-water mark stands at or above the end of its range; then it is read as if
it were live. A release of `h` succeeds once its discard is forgotten, there is no reset, and
`h` is the top again. Both are exact. -/
theorem unwound_handle_stale_iff (a : Arena) (lead lag later : List Arena.Call)
    {size align : Nat} {h : Handle}
    (issue : ((a.after lead).allocate size align).1 = .ok h)
    (unwinding : ((a.after (lead ++ .allocate size align :: lag)).unwindTo a.mark).1 = .ok ())
    (few : resets (lead ++ .allocate size align :: lag ++ later) < UInt32.size) :
    let u := a.after (lead ++ .allocate size align :: lag)
    let b := u.after (.unwindTo a.mark :: later)
    let lost := resets later = 0 ∧
      Forgotten (h.stamp.seq + 1) (u.discardLog (.unwindTo a.mark :: later))
    (b.bytes h = .ok (b.view h) ↔ lost ∧ h.stop ≤ b.highWater) ∧
      (b.RefusesAccess h ↔ ¬ (lost ∧ h.stop ≤ b.highWater)) ∧
      ((b.release h).1 = .ok () ↔ lost ∧ b.top.seq = some h.stamp.seq) := by
  intro u b lost
  rw [resets_append] at few
  -- The unwinding succeeded, so there was no reset between the mark and it.
  have fits : u.checkMark a.mark = .ok () := by
    cases checked : u.checkMark a.mark with
    | error fault => rw [unwindTo_error checked] at unwinding; cases unwinding
    | ok => rfl
  have kept : resets (lead ++ .allocate size align :: lag) = 0 :=
    (epoch_after_eq_iff (by omega)).mp (checkMark_ok_iff.mp fits).2.1.symm
  obtain ⟨own, epoch, since, before⟩ := stamp_of_run issue kept
  have bOwn : h.arena = b.id := own.trans (id_after u _).symm
  have made : u.discards (.unwindTo a.mark) = [⟨a.clock, u.clock⟩] := by
    simp only [discards, unwindDiscards, fits]
    rfl
  have issued : b.checkIssued h = .ok () ↔ lost := by
    rw [checkIssued_ok_iff, epoch, eq_comm (a := u.epoch),
      epoch_after_eq_iff (by rw [resets_cons]; simp [Call.isReset]; omega)]
    constructor
    · rintro ⟨-, none, shown⟩
      exact ⟨by simpa [resets_cons, Call.isReset] using none,
        (discards_after_iff none made (by omega) before).mp shown⟩
    · rintro ⟨none, forgotten⟩
      have none : resets (.unwindTo a.mark :: later) = 0 := by
        simpa [resets_cons, Call.isReset] using none
      exact ⟨bOwn, none, (discards_after_iff none made (by omega) before).mpr forgotten⟩
  refine ⟨?_, ?_, ?_⟩
  · rw [bytes_ok_iff, checkLive_ok_iff, issued, and_iff_left rfl]
  · rw [refusesAccess_iff bOwn, ne_eq, checkLive_ok_iff, issued]
  · rw [← issued]
    constructor
    · intro released
      have done := release_ok_iff.mp (Prod.ext released rfl : b.release h = (.ok (), _))
      exact ⟨done.1, done.2.1⟩
    · rintro ⟨accepted, top⟩
      rw [release_ok_iff.mpr ⟨accepted, top, rfl⟩]

open Relaid in
/-- In the relaid run, the first claim is unwound past and can be read again at the end. -/
theorem unwound_handle_stale_iff_relaid :
    (start.allocate 8 1).1 = .ok first ∧
      ((start.after [.allocate 8 1]).unwindTo start.mark).1 = .ok () ∧
      (let b := (start.after [.allocate 8 1]).after (.unwindTo start.mark :: later)
       b.bytes first = .ok (b.view first) ∧ ¬ b.RefusesAccess first) := by
  have issue : (start.allocate 8 1).1 = .ok first := rfl
  have unwinding : ((start.after [.allocate 8 1]).unwindTo start.mark).1 = .ok () := rfl
  have kept : resets later = 0 := rfl
  have log : (start.after [.allocate 8 1]).discardLog (.unwindTo start.mark :: later) =
      [⟨2, 3⟩, ⟨0, 1⟩] := rfl
  have forgotten : Forgotten (first.stamp.seq + 1) [⟨2, 3⟩, ⟨0, 1⟩] :=
    .replaced (by decide) (by decide)
  rw [← log] at forgotten
  have above : first.stop ≤
      ((start.after [.allocate 8 1]).after (.unwindTo start.mark :: later)).highWater := by decide
  obtain ⟨read, refused, -⟩ := unwound_handle_stale_iff start [] [] later issue unwinding
    (by decide)
  exact ⟨issue, unwinding, read.mpr ⟨⟨kept, forgotten⟩, above⟩,
    fun no => refused.mp no ⟨⟨kept, forgotten⟩, above⟩⟩

open Relaid in
/-- The run is one of honest callers: every handle in it is the answer to a claim. So a
handle that was unwound past is not refused for good. -/
theorem unwound_handle_read_again :
    build ⟨1⟩ .ram 8 = .ok start ∧ (start.allocate 8 1).1 = .ok first ∧
      ((start.after [.allocate 8 1]).unwindTo start.mark).1 = .ok () ∧
      ((start.after [.allocate 8 1, .unwindTo start.mark]).allocate 8 1).1 = .ok second ∧
      (start.after (.allocate 8 1 :: .unwindTo start.mark :: later)).bytes first =
        .ok (List.replicate 8 0) := by
  refine ⟨?_, ?_, ?_, ?_, ?_⟩ <;> rfl

/-! ### Marks whose state was discarded -/

/-- The call discards the state that the mark `m` records: it gives back everything, or a
claim issued before `m` was taken, or it unwinds to a mark taken at an earlier clock. -/
inductive DiscardsState (a : Arena) (m : Mark) : Arena.Call → Prop where
  | reset : DiscardsState a m .reset
  | release {h : Handle} : h.stamp.seq < m.clock → (a.release h).1 = .ok () →
      DiscardsState a m (.release h)
  | unwind {k : Mark} : k.clock < m.clock → (a.unwindTo k).1 = .ok () →
      DiscardsState a m (.unwindTo k)

/-- Such a call makes one discard, from below the mark's clock, unless it is a reset. -/
theorem DiscardsState.discards_eq {m : Mark} {call : Arena.Call}
    (discarded : a.DiscardsState m call) (kept : call.isReset = false) :
    ∃ first, first < m.clock ∧ a.discards call = [⟨first, a.clock⟩] := by
  cases discarded with
  | reset => cases kept
  | release below done => exact ⟨_, below, by simp only [discards, done]⟩
  | @unwind k below done =>
    refine ⟨_, below, ?_⟩
    cases checked : a.checkMark k with
    | error fault => rw [unwindTo_error checked] at done; cases done
    | ok => simp only [discards, unwindDiscards, checked]

/-- **Discarded marks.** Let the state that a mark records be discarded. From then on the
mark is refused, and the arena left as it is, until the discard is forgotten, there is no
reset, and the high-water mark stands at or above the mark again; then it can be restored.
This is exact. -/
theorem discarded_mark_refused_iff (a : Arena) (lead later : List Arena.Call) {c : Arena.Call}
    (discarded : (a.after lead).DiscardsState a.mark c)
    (few : resets (lead ++ c :: later) < UInt32.size) :
    let u := a.after lead
    let b := u.after (c :: later)
    let restorable := resets (lead ++ c :: later) = 0 ∧
      Forgotten a.mark.clock (u.discardLog (c :: later)) ∧ a.mark.height ≤ b.highWater
    (b.checkMark a.mark = .ok () ↔ restorable) ∧
      ((∃ fault, b.checkMark a.mark = .error fault ∧ b.unwindTo a.mark = (.error fault, b)) ↔
        ¬ restorable) := by
  intro u b restorable
  have run : b = a.after (lead ++ c :: later) := (after_append a lead (c :: later)).symm
  have readings (kept : resets (lead ++ c :: later) = 0) :
      b.dead.discards a.mark.clock = false ↔
        Forgotten a.mark.clock (u.discardLog (c :: later)) := by
    rw [resets_append] at kept
    obtain ⟨noReset, -⟩ := resets_cons_eq_zero_iff.mp (show resets (c :: later) = 0 by omega)
    obtain ⟨first, below, made⟩ := discarded.discards_eq noReset
    have lapse := after_continues a lead (by omega)
    exact discards_after_iff (by omega) made below lapse.clock
  have accepted : b.checkMark a.mark = .ok () ↔ restorable := by
    rw [checkMark_ok_iff]
    constructor
    · rintro ⟨-, epoch, shown, fits⟩
      have kept := (epoch_after_eq_iff few).mp (run ▸ epoch.symm)
      exact ⟨kept, (readings kept).mp shown, fits⟩
    · rintro ⟨kept, forgotten, fits⟩
      have epoch := (epoch_after_eq_iff (a := a) few).mpr kept
      exact ⟨run ▸ (id_after a _).symm, run ▸ epoch.symm, (readings kept).mpr forgotten, fits⟩
  refine ⟨accepted, ?_⟩
  rw [← accepted]
  constructor
  · rintro ⟨fault, refused, -⟩ restored
    rw [refused] at restored
    cases restored
  · intro refused
    cases checked : b.checkMark a.mark with
    | error fault => exact ⟨fault, rfl, unwindTo_error checked⟩
    | ok => exact absurd checked refused

open Relaid in
/-- In the relaid run, a mark is taken above the first claim, and the claim is then released;
at the end the mark can be restored. -/
theorem discarded_mark_refused_iff_relaid :
    (start.after [.allocate 8 1]).DiscardsState (start.after [.allocate 8 1]).mark
        (.release first) ∧
      ((start.after [.allocate 8 1]).after (.release first :: later)).checkMark
        (start.after [.allocate 8 1]).mark = .ok () := by
  have released : ((start.after [.allocate 8 1]).release first).1 = .ok () := rfl
  have discarded : (start.after [.allocate 8 1]).DiscardsState
      (start.after [.allocate 8 1]).mark (.release first) := .release (by decide) released
  have log : (start.after [.allocate 8 1]).discardLog (.release first :: later) =
      [⟨2, 3⟩, ⟨0, 1⟩] := rfl
  have forgotten : Forgotten (start.after [.allocate 8 1]).mark.clock [⟨2, 3⟩, ⟨0, 1⟩] :=
    .replaced (by decide) (by decide)
  rw [← log] at forgotten
  have exact := discarded_mark_refused_iff (start.after [.allocate 8 1]) [] later discarded
    (by decide)
  exact ⟨discarded, exact.1.mpr ⟨by rfl, forgotten, by decide⟩⟩

open Relaid in
/-- The mark of that run restores a state whose only claim had been released. -/
theorem discarded_mark_restored :
    build ⟨1⟩ .ram 8 = .ok start ∧ (start.allocate 8 1).1 = .ok first ∧
      (start.after [.allocate 8 1]).checkLive first = .ok () ∧
      ((start.after [.allocate 8 1]).release first).1 = .ok () ∧
      ((start.after [.allocate 8 1, .release first]).allocate 8 1).1 = .ok second ∧
      ((start.after (.allocate 8 1 :: .release first :: later)).unwindTo
        (start.after [.allocate 8 1]).mark).1 = .ok () := by
  refine ⟨?_, ?_, ?_, ?_, ?_, ?_⟩ <;> rfl

end Arena

end TensorArena
