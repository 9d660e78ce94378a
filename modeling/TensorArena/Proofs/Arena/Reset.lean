import TensorArena.Proofs.Arena.Discard

/-!
How long a reset is final.

A reset begins a new epoch, and nothing issued in an epoch is honoured in another one. Epochs
are counted in 32 bits, so the count comes round after `2^32` resets, and what was issued in
the first epoch of that number then belongs to the present one again. The range of discarded
numbers is of no help there: each reset clears it, and the clock goes on. So a token from
before a reset is refused as long as fewer than `2^32` resets follow it, and what becomes of it
at every multiple of `2^32` is decided by the calls since the last reset alone
(`before_reset_refused_iff`).
-/

namespace TensorArena

/-- The clock reading that shows whether a token was discarded. -/
def Token.reading : Token → Nat
  | .handle h => h.stamp.seq + 1
  | .mark m => m.clock

/-- The epoch in which a token was issued. -/
def Token.epoch : Token → UInt32
  | .handle h => h.stamp.epoch
  | .mark m => m.epoch

namespace Arena

variable {a b : Arena} {c : Arena.Call} {t : Token}

/-- The call issues the token. -/
inductive Issues (a : Arena) : Arena.Call → Token → Prop where
  | handle {size align : Nat} {h : Handle} : (a.allocate size align).1 = .ok h →
      Issues a (.allocate size align) (.handle h)
  | mark : Issues a .mark (.mark a.mark)

/-- Nothing can be done with the token: a handle is neither accessed, alone or beside any other,
nor released, and a mark is not restored. What is refused changes nothing. -/
def Refuses (b : Arena) : Token → Prop
  | .handle h => b.RefusesAccess h ∧
      (∀ k change, (b.modifyPair h k change).1.isOk = false ∧
        (b.modifyPair k h change).1.isOk = false) ∧
      ∃ fault, b.release h = (.error fault, b)
  | .mark m => ∃ fault, b.checkMark m = .error fault ∧ b.unwindTo m = (.error fault, b)

/-- What the arena can do with a token of its own if the token has not lost its meaning
(`recalled`): a handle whose range lies below the high-water mark is read, and one that is on
top is released; a mark at or below the high-water mark is restored. -/
def HonoursIf (b : Arena) (recalled : Prop) : Token → Prop
  | .handle h =>
    (b.bytes h = .ok (b.view h) ↔ recalled ∧ h.stop ≤ b.highWater) ∧
      (b.RefusesAccess h ↔ ¬ (recalled ∧ h.stop ≤ b.highWater)) ∧
      ((b.release h).1 = .ok () ↔ recalled ∧ b.top.seq = some h.stamp.seq)
  | .mark m =>
    (b.checkMark m = .ok () ↔ recalled ∧ m.height ≤ b.highWater) ∧
      ((b.unwindTo m).1 = .ok () ↔ recalled ∧ m.height ≤ b.highWater)

/-! ### Runs with resets -/

theorem clock_le_after (a : Arena) (calls : List Arena.Call) : a.clock ≤ (a.after calls).clock := by
  induction calls generalizing a with
  | nil => exact Nat.le_refl _
  | cons c rest ih => exact Nat.le_trans (perform_keeps a c).2.2 (ih _)

/-- A run comes back to its epoch at every multiple of `2^32` resets. -/
theorem epoch_after_eq_iff_dvd {calls : List Arena.Call} :
    (a.after calls).epoch = a.epoch ↔ UInt32.size ∣ resets calls := by
  rw [epoch_after, Nat.dvd_iff_mod_eq_zero]
  constructor
  · intro same
    have zero : UInt32.ofNat (resets calls) = UInt32.ofNat 0 := by simpa using same
    simpa using congrArg UInt32.toNat zero
  · intro multiple
    have zero : UInt32.ofNat (resets calls) = 0 := by
      apply UInt32.toNat_inj.mp
      simpa using multiple
    rw [zero, UInt32.add_zero]

/-- A reset leaves no number discarded. -/
theorem dead_after_reset (a : Arena) (calls : List Arena.Call) :
    (a.after (calls ++ [.reset])).dead = .empty := by
  rw [after_append]
  rfl

/-- From an empty range on, a reading shows no discard if none reached below it, or if the one
that did is forgotten. -/
theorem discards_buryAll_empty_iff {reading : Nat} {log : List Discard}
    (since : ∀ d ∈ log, reading ≤ d.clock) :
    (IssueRange.empty.buryAll log).discards reading = false ↔
      (∀ d ∈ log, reading ≤ d.first) ∨ Forgotten reading log := by
  induction log with
  | nil => simp [IssueRange.buryAll]
  | cons e older ih =>
    have ih := ih fun d mem => since d (List.mem_cons_of_mem _ mem)
    have seen : reading ≤ e.clock := since e List.mem_cons_self
    cases older with
    | nil =>
      constructor
      · intro shown
        refine .inl (List.forall_mem_singleton.mpr (Nat.le_of_not_lt fun reached => ?_))
        rw [IssueRange.buryAll, IssueRange.discards_bury_of_lt reached seen] at shown
        cases shown
      · rintro (above | forgotten)
        · exact IssueRange.discards_buryAll_of_le (IssueRange.discards_empty _) above
        · cases forgotten with
          | still _ nothing => cases nothing
    | cons d older =>
      have earlier : reading ≤ ((IssueRange.empty.buryAll older).bury d.first d.clock).high := by
        rw [IssueRange.high_bury]
        exact since d (List.mem_cons_of_mem _ List.mem_cons_self)
      rw [forgotten_cons_iff, List.forall_mem_cons, ← and_or_left]
      rw [IssueRange.buryAll] at ih
      simp only [IssueRange.buryAll]
      rw [IssueRange.discards_bury_eq_false_iff seen earlier, ih, IssueRange.high_bury]
      exact and_congr_right fun _ => or_left_comm

/-! ### Tokens from before a reset -/

/-- A token is issued in the present epoch, not later than the call that issues it. -/
theorem Issues.present (issue : a.Issues c t) : t.arena = a.id ∧ c.isReset = false ∧
    t.reading ≤ (a.perform c).2.clock ∧
    t.epoch = a.epoch := by
  cases issue with
  | handle done =>
    obtain ⟨arena, stamp, tick⟩ := stamp_of_allocate done
    refine ⟨arena, rfl, ?_, congrArg Stamp.epoch stamp⟩
    exact Nat.le_of_eq ((congrArg (fun s => s.seq + 1) stamp).trans tick.symm)
  | mark => exact ⟨rfl, rfl, Nat.le_refl _, rfl⟩

/-- An arena honours a token of its own if the token is of the present epoch and its reading
shows no discard. -/
theorem honoursIf_of_own {recalled : Prop} (own : t.arena = b.id)
    (exact : t.epoch = b.epoch ∧ b.dead.discards t.reading = false ↔ recalled) :
    b.HonoursIf recalled t := by
  cases t with
  | handle h =>
    have issued : b.checkIssued h = .ok () ↔ recalled := by
      rw [checkIssued_ok_iff, ← exact]
      exact and_iff_right own
    refine ⟨?_, ?_, ?_⟩
    · rw [bytes_ok_iff, checkLive_ok_iff, issued, and_iff_left rfl]
    · rw [refusesAccess_iff own, ne_eq, checkLive_ok_iff, issued]
    · rw [← issued]
      constructor
      · intro released
        have done := release_ok_iff.mp (Prod.ext released rfl : b.release h = (.ok (), _))
        exact ⟨done.1, done.2.1⟩
      · rintro ⟨accepted, top⟩
        rw [release_ok_iff.mpr ⟨accepted, top, rfl⟩]
  | mark m =>
    have checked : b.checkMark m = .ok () ↔ recalled ∧ m.height ≤ b.highWater := by
      rw [checkMark_ok_iff, ← exact, and_assoc]
      exact and_iff_right own
    refine ⟨checked, ?_⟩
    rw [← checked]
    constructor
    · intro restored
      exact (unwindTo_ok_iff.mp (Prod.ext restored rfl : b.unwindTo m = (.ok (), _))).1
    · intro fits
      rw [unwindTo_ok_iff.mpr ⟨fits, rfl⟩]

/-- A handle that is not live is not changed together with any other, in either order. -/
theorem modifyPair_of_dead {h : Handle} (dead : b.checkLive h ≠ .ok ()) (k : Handle)
    (change : Bytes → Bytes → Bytes × Bytes) :
    (b.modifyPair h k change).1.isOk = false ∧ (b.modifyPair k h change).1.isOk = false := by
  cases first : b.checkLive h with
  | ok => exact absurd first dead
  | error fault =>
    constructor
    · simp only [modifyPair, bytesPair, first]
      rfl
    · cases other : b.checkLive k <;> simp only [modifyPair, bytesPair, first, other] <;> rfl

/-- A token that has lost its meaning is refused. -/
theorem HonoursIf.refuses {recalled : Prop} (honours : b.HonoursIf recalled t)
    (lost : ¬ recalled) : b.Refuses t := by
  cases t with
  | handle h =>
    obtain ⟨read, access, release⟩ := honours
    have dead : b.checkLive h ≠ .ok () := by
      intro live
      exact lost (read.mp (bytes_ok_iff.mpr ⟨live, rfl⟩)).1
    refine ⟨access.mpr fun both => lost both.1, modifyPair_of_dead dead, ?_⟩
    cases done : b.release h with
    | mk answer after =>
      cases answer with
      | error fault => exact ⟨fault, by rw [release_error done]⟩
      | ok => exact absurd (release.mp (congrArg Prod.fst done)).1 lost
  | mark m =>
    obtain ⟨checked, -⟩ := honours
    cases fits : b.checkMark m with
    | error fault => exact ⟨fault, fits, unwindTo_error fits⟩
    | ok => exact absurd (checked.mp fits).1 lost

/-- **Tokens from before a reset.** Let a token be issued, and let resets follow it, with other
calls before, between and after them; `late` are the calls since the last reset. As long as
fewer than `2^32` resets followed, the token is refused. In general it is honoured, as far as the
levels allow, exactly if the number of resets is a multiple of `2^32` and no discard since the
last one reached below it, or the one that did is forgotten. -/
theorem before_reset_refused_iff (a : Arena) (c : Arena.Call) (early late : List Arena.Call)
    {t : Token} (issue : a.Issues c t) (last : resets late = 0) :
    let r := a.after (c :: (early ++ [.reset]))
    let b := r.after late
    let log := r.discardLog late
    let recalled := UInt32.size ∣ resets early + 1 ∧
      ((∀ d ∈ log, t.reading ≤ d.first) ∨ Forgotten t.reading log)
    (resets early + 1 < UInt32.size → b.Refuses t) ∧ b.HonoursIf recalled t := by
  intro r b log recalled
  obtain ⟨own, kept, before, present⟩ := issue.present
  have count : resets (c :: (early ++ [.reset])) = resets early + 1 := by
    rw [resets_cons, resets_append, kept]
    rfl
  have lapse := after_continues r late last
  have since : ∀ d ∈ log, t.reading ≤ d.clock := by
    intro d mem
    exact Nat.le_trans before (Nat.le_trans (clock_le_after _ _) (lapse.since d mem))
  have dead : b.dead.discards t.reading = false ↔
      (∀ d ∈ log, t.reading ≤ d.first) ∨ Forgotten t.reading log := by
    rw [lapse.dead, show r.dead = .empty from dead_after_reset (a.perform c).2 early]
    exact discards_buryAll_empty_iff since
  have honours : b.HonoursIf recalled t := by
    refine honoursIf_of_own (own.trans ?_) ?_
    · exact ((id_after r late).trans (id_after a _)).symm
    · rw [dead, present, lapse.epoch, eq_comm, epoch_after_eq_iff_dvd, count]
  refine ⟨fun few => honours.refuses fun both => ?_, honours⟩
  exact absurd (Nat.le_of_dvd (Nat.succ_pos _) both.1) (Nat.not_le_of_lt few)

/-! ### A run that comes round -/

/-- Resets in a row leave an empty arena whose epoch counts them. -/
theorem after_replicate_reset (a : Arena) (n : Nat) :
    a.after (.reset :: List.replicate n .reset) =
      { a.reset with epoch := a.epoch + UInt32.ofNat (n + 1) } := by
  induction n generalizing a with
  | zero => rfl
  | succ n ih =>
    rw [List.replicate_succ, after, ih, UInt32.ofNat_add (n + 1) 1]
    simp only [perform, reset, UInt32.add_assoc, UInt32.add_comm 1]
    rfl

theorem resets_replicate (n : Nat) : resets (List.replicate n .reset) = n := by
  rw [resets, List.countP_replicate, if_pos (show Call.isReset .reset = true from rfl)]

namespace Relaid

/-- All resets but one that bring an epoch back. -/
def resetting : List Arena.Call := List.replicate 4294967295 .reset

/-- A fresh arena that was claimed once and then reset all round. -/
def worn : Arena := start.after (.allocate 8 1 :: (resetting ++ [.reset]))

/-- It is like a fresh one, but for its peak and its clock. -/
theorem worn_eq : worn = { start with peak := 8, clock := 1 } := by
  rw [worn, after, resetting, ← List.replicate_succ', List.replicate_succ, after_replicate_reset]
  rfl

/-- The claim of the same bytes after that. -/
def again : Handle := ⟨⟨1⟩, .ram, 0, 8, ⟨0, 1⟩, .empty⟩

end Relaid

open Relaid in
/-- The resets come round, and the first claim is read as soon as its bytes are claimed anew. -/
theorem before_reset_refused_iff_round :
    start.Issues (.allocate 8 1) (.handle first) ∧ resets [.allocate 8 1] = 0 ∧
      UInt32.size ∣ resets resetting + 1 ∧
      (let b := worn.after [.allocate 8 1]
       b.bytes first = .ok (b.view first) ∧ ¬ b.RefusesAccess first) := by
  have issue : start.Issues (.allocate 8 1) (.handle first) := .handle rfl
  have last : resets [.allocate 8 1] = 0 := rfl
  have count : resets resetting = UInt32.size - 1 := resets_replicate _
  have multiple : UInt32.size ∣ resets resetting + 1 := count ▸ Nat.dvd_refl _
  have log : worn.discardLog [.allocate 8 1] = [] := worn_eq ▸ rfl
  have above : first.stop ≤ (worn.after [.allocate 8 1]).highWater := by
    rw [worn_eq]
    decide
  obtain ⟨-, read, refused, -⟩ :=
    before_reset_refused_iff start (.allocate 8 1) resetting [.allocate 8 1] issue last
  have recalled : UInt32.size ∣ resets resetting + 1 ∧
      ((∀ d ∈ worn.discardLog [.allocate 8 1], Token.reading (.handle first) ≤ d.first) ∨
        Forgotten (Token.reading (.handle first)) (worn.discardLog [.allocate 8 1])) := by
    refine ⟨multiple, .inl ?_⟩
    simp [log]
  exact ⟨issue, last, multiple, read.mpr ⟨recalled, above⟩,
    fun no => refused.mp no ⟨recalled, above⟩⟩

open Relaid in
/-- Then two claims of different ages are claims of the same bytes: what is written through the
new one is read through the old one. The mark from before all resets is restored too. -/
theorem claims_alias_across_resets :
    build ⟨1⟩ .ram 8 = .ok start ∧ (start.allocate 8 1).1 = .ok first ∧
      (worn.allocate 8 1).1 = .ok again ∧
      (((worn.allocate 8 1).2.modify again fun _ => List.replicate 8 7).2).bytes first =
        .ok (List.replicate 8 7) ∧
      ((worn.allocate 8 1).2.unwindTo start.mark).1 = .ok () := by
  rw [worn_eq]
  refine ⟨?_, ?_, ?_, ?_, ?_⟩ <;> rfl

end Arena

end TensorArena
