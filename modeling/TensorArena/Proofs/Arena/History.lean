import TensorArena.Proofs.Arena.Stack

/-!
The history of an arena, told without its bookkeeping.

A history lists what happened to an arena, newest first: claims, releases, resets, marks,
unwindings and writes. What was refused did not happen. From the history alone follow the
claims that are live (`live`), the marks whose state has not been discarded (`Standing`), and
what a live claim should hold (`content`). None of this looks at the arena's clock, its top or
its range of discarded numbers; marks are compared by their clocks, as callers could.

`Tells a past` relates an arena to its history: the live claims stack in the arena, and it
recalls every standing mark, for the claims that were live when the mark was taken. One lemma
per deed preserves the relation.
-/

namespace TensorArena

namespace Arena

/-- One thing that happened to an arena. -/
inductive Deed where
  /-- A claim was issued, for a range that held `found`. -/
  | claimed (h : Handle) (found : Bytes)
  | released (h : Handle)
  | reset
  | marked (m : Mark)
  | unwound (m : Mark)
  /-- A claim's range was written, and holds `bytes` since. -/
  | wrote (h : Handle) (bytes : Bytes)
deriving DecidableEq

mutual

/-- The live claims after a history, newest first. -/
def live : List Deed → List Handle
  | [] => []
  | .claimed h _ :: past => h :: live past
  | .released h :: past => (live past).erase h
  | .reset :: _ => []
  | .marked _ :: past => live past
  | .unwound m :: past => liveAt m past
  | .wrote _ _ :: past => live past

/-- The claims that were live when a mark was taken. -/
def liveAt (m : Mark) : List Deed → List Handle
  | [] => []
  | .marked k :: past => if k = m then live past else liveAt m past
  | .claimed _ _ :: past => liveAt m past
  | .released _ :: past => liveAt m past
  | .reset :: past => liveAt m past
  | .unwound _ :: past => liveAt m past
  | .wrote _ _ :: past => liveAt m past

end

/-- The mark was taken, and since then no claim that was live at the time was released, no mark
with a smaller clock was restored, and there was no reset. -/
def Standing (m : Mark) : List Deed → Prop
  | [] => False
  | .marked k :: past => k = m ∨ Standing m past
  | .released h :: past => Standing m past ∧ h ∉ liveAt m past
  | .unwound k :: past => Standing m past ∧ ¬ k.clock < m.clock
  | .reset :: _ => False
  | .claimed _ _ :: past => Standing m past
  | .wrote _ _ :: past => Standing m past

/-- What the range of a claim should hold: what was last written through it, or else what was
found there when it was issued. -/
def content (h : Handle) : List Deed → Bytes
  | [] => []
  | .claimed k found :: past => if k = h then found else content h past
  | .wrote k bytes :: past => if k = h then bytes else content h past
  | .released _ :: past => content h past
  | .reset :: past => content h past
  | .marked _ :: past => content h past
  | .unwound _ :: past => content h past

/-- The handles that the arena issued. -/
def claims : List Deed → List Handle
  | [] => []
  | .claimed h _ :: past => h :: claims past
  | _ :: past => claims past

/-- What a call does, newest first. Opening a scope takes a mark; calls in scopes are told by the
operations that they come down to. -/
def deeds (a : Arena) : Arena.Call → List Deed
  | .allocate size align =>
    match a.allocate size align with
    | (.ok h, b) => [.claimed h (b.view h)]
    | (.error _, _) => []
  | .release h =>
    match (a.release h).1 with
    | .ok () => [.released h]
    | .error _ => []
  | .reset => [.reset]
  | .mark => [.marked a.mark]
  | .openScope => [.marked a.mark]
  | .unwindTo m =>
    match (a.unwindTo m).1 with
    | .ok () => [.unwound m]
    | .error _ => []
  | .modify h change =>
    match (a.modify h change).1 with
    | .ok before => [.wrote h (Bytes.overlay (change before) before)]
    | .error _ => []
  | .modifyPair h k change =>
    match (a.modifyPair h k change).1 with
    | .ok (p, q) =>
      [.wrote k (Bytes.overlay (change p q).2 q), .wrote h (Bytes.overlay (change p q).1 p)]
    | .error _ => []
  | _ => []

/-! ### An arena and its history -/

variable {a b : Arena} {past : List Deed}

/-- The arena is in the state that the history tells. -/
structure Tells (a : Arena) (past : List Deed) : Prop where
  stacked : a.Stacks (live past)
  /-- A standing mark is recalled, and what is live on top of its claims came after it. -/
  recalled : ∀ m, Standing m past → a.Recalls m (liveAt m past) ∧
    ∃ above, live past = above ++ liveAt m past ∧
      ∀ h ∈ above, m.clock ≤ h.stamp.seq ∧ m.height ≤ h.start
  /-- Of two standing marks the later one is the higher one. -/
  rising : ∀ k m, Standing k past → Standing m past → k.clock ≤ m.clock → k.height ≤ m.height
  present : ∀ m, Standing m past → m.clock = a.clock → m.height = a.highWater
  own : ∀ h ∈ claims past, h.arena = a.id ∧ h.stamp.seq < a.clock
  /-- Issue numbers tell claims apart. -/
  distinct : ∀ h ∈ claims past, ∀ k ∈ claims past, h.stamp.seq = k.stamp.seq → h = k
  issued : ∀ h ∈ live past, h ∈ claims past

theorem tells_of_build {id : ArenaId} {pool : Pool} {capacity : Nat}
    (built : build id pool capacity = .ok a) : a.Tells [] where
  stacked := stacks_of_build built
  recalled m standing := by cases standing
  rising k m standing := by cases standing
  present m standing := by cases standing
  own := by simp [claims]
  distinct := by simp [claims]
  issued := by simp [live]

/-- The handles of a history after changes that issue nothing. -/
theorem Tells.own_of_continues {log : List Discard} (tells : a.Tells past)
    (continues : Continues a log b) :
    ∀ h ∈ claims past, h.arena = b.id ∧ h.stamp.seq < b.clock := by
  intro h mem
  obtain ⟨own, before⟩ := tells.own h mem
  exact ⟨own.trans continues.id.symm, Nat.lt_of_lt_of_le before continues.clock⟩

/-- No standing mark was taken at a clock reading that is still to come. -/
theorem Tells.clock_ne {m : Mark} (tells : a.Tells past) (standing : Standing m past)
    (ticks : a.clock < b.clock) : m.clock ≠ b.clock :=
  Nat.ne_of_lt (Nat.lt_of_le_of_lt (tells.recalled m standing).1.clock ticks)

/-! ### One deed -/

/-- A claim is issued. -/
theorem Tells.claimed {size align : Nat} {h : Handle} (tells : a.Tells past)
    (done : a.allocate size align = (.ok h, b)) (found : Bytes) :
    b.Tells (.claimed h found :: past) := by
  obtain ⟨pushed, -, -, height⟩ := tells.stacked.allocate done
  obtain ⟨-, -, -, above, -⟩ := allocate_range tells.stacked.sound.words done
  have continues := allocate_continues done
  obtain ⟨own, -, before, -⟩ := pushed.owned h List.mem_cons_self
  obtain ⟨-, -, new, after⟩ := allocate_ok done
  have number : h.stamp.seq = a.clock := by rw [new]
  have ticks : a.clock < b.clock := by rw [after]; exact Nat.lt_succ_self _
  have earlier : ∀ k ∈ claims past, k.stamp.seq < h.stamp.seq := fun k mem =>
    number ▸ (tells.own k mem).2
  exact {
    stacked := pushed
    recalled := by
      intro m standing
      obtain ⟨recalls, higher, parts, since⟩ := tells.recalled m standing
      have level : m.height ≤ h.start := Nat.le_trans recalls.height above
      refine ⟨recalls.of_continues continues (by simp) ?_, h :: higher, ?_, ?_⟩
      · rw [height]
        exact Nat.le_trans level (Nat.le_add_right _ _)
      · simp only [live, liveAt, parts, List.cons_append]
      · intro k mem
        rcases List.mem_cons.mp mem with rfl | old
        · exact ⟨number ▸ recalls.clock, level⟩
        · exact since k old
    rising := tells.rising
    present := fun m standing now => absurd now (tells.clock_ne standing ticks)
    own := by
      intro k mem
      rcases List.mem_cons.mp mem with rfl | old
      · exact ⟨own, before⟩
      · exact tells.own_of_continues continues k old
    distinct := by
      intro k first l second same
      rcases List.mem_cons.mp first with rfl | oldFirst <;>
        rcases List.mem_cons.mp second with rfl | oldSecond
      · rfl
      · exact absurd same (Nat.ne_of_gt (earlier l oldSecond))
      · exact absurd same (Nat.ne_of_lt (earlier k oldFirst))
      · exact tells.distinct k oldFirst l oldSecond same
    issued := by
      intro k mem
      rcases List.mem_cons.mp mem with rfl | old
      · exact List.mem_cons_self
      · exact List.mem_cons_of_mem _ (tells.issued k old) }

/-- The only handle that can be released is that of the newest live claim. -/
theorem Tells.release_ok_iff {h : Handle} (tells : a.Tells past) (mem : h ∈ claims past) :
    (a.release h).1 = .ok () ↔ (live past).head? = some h := by
  constructor
  · intro done
    obtain ⟨-, newest, -⟩ := Arena.release_ok_iff.mp (Prod.ext done rfl)
    rw [tells.stacked.top] at newest
    cases stack : live past with
    | nil =>
      rw [stack] at newest
      cases newest
    | cons k rest =>
      rw [stack] at newest
      have onStack : k ∈ live past := stack ▸ List.mem_cons_self
      have number : k.stamp.seq = h.stamp.seq := Option.some.inj newest
      rw [tells.distinct k (tells.issued k onStack) h mem number]
      rfl
  · intro newest
    obtain ⟨rest, stack⟩ := List.head?_eq_some_iff.mp newest
    have stacked := tells.stacked
    rw [stack] at stacked
    obtain ⟨b, done, -⟩ := stacked.release
    rw [done]

/-- The newest live claim is released. -/
theorem Tells.released {h : Handle} (tells : a.Tells past) (mem : h ∈ claims past)
    (done : a.release h = (.ok (), b)) : b.Tells (.released h :: past) := by
  have newest := (tells.release_ok_iff mem).mp (congrArg Prod.fst done)
  obtain ⟨rest, stack⟩ := List.head?_eq_some_iff.mp newest
  have stacked := tells.stacked
  rw [stack] at stacked
  obtain ⟨c, again, popped, height, continues⟩ := stacked.release
  obtain rfl : c = b := congrArg Prod.snd (again.symm.trans done)
  have ticks : a.clock < c.clock := by
    obtain ⟨-, -, after⟩ := Arena.release_ok_iff.mp done
    rw [after]
    exact Nat.lt_succ_self _
  have left : live (.released h :: past) = rest := by simp [live, stack]
  exact {
    stacked := left ▸ popped
    recalled := by
      rintro m ⟨standing, kept⟩
      obtain ⟨recalls, above, parts, since⟩ := tells.recalled m standing
      -- The released claim is not among those of the mark, so it is the first one above them.
      rw [stack] at parts
      cases above with
      | nil =>
        rw [List.nil_append] at parts
        exact absurd (parts ▸ List.mem_cons_self) kept
      | cons k above =>
        obtain ⟨rfl, rest⟩ := List.cons.inj parts
        obtain ⟨clock, level⟩ := since h List.mem_cons_self
        refine ⟨recalls.of_continues continues (by simpa using clock) (height ▸ level), above, ?_,
          fun l later => since l (List.mem_cons_of_mem _ later)⟩
        rw [left, rest]
        rfl
    rising := fun k m first second => tells.rising k m first.1 second.1
    present := fun m standing now => absurd now (tells.clock_ne standing.1 ticks)
    own := tells.own_of_continues continues
    distinct := tells.distinct
    issued := fun k mem => tells.issued k (List.mem_of_mem_erase mem) }

/-- Everything is given back. -/
theorem Tells.reset (tells : a.Tells past) : a.reset.Tells (.reset :: past) where
  stacked := tells.stacked.reset
  recalled m standing := by cases standing
  rising k m standing := by cases standing
  present m standing := by cases standing
  own := tells.own
  distinct := tells.distinct
  issued := by simp [live]

/-- The present state is marked. -/
theorem Tells.marked (tells : a.Tells past) : a.Tells (.marked a.mark :: past) where
  stacked := tells.stacked
  recalled m standing := by
    by_cases now : a.mark = m
    · subst now
      simp only [live, liveAt, if_true]
      exact ⟨tells.stacked.recalls_mark, [], rfl, by simp⟩
    · simp only [live, liveAt, now, if_false]
      exact tells.recalled m (standing.resolve_left now)
  rising k m first second order := by
    have level := tells.stacked.sound.height_mark
    rcases first with rfl | first <;> rcases second with rfl | second
    · exact Nat.le_refl _
    · -- The older mark was taken in the present state too.
      have now := Nat.le_antisymm (tells.recalled m second).1.clock order
      rw [tells.present m second now]
      exact Nat.le_of_eq level
    · exact Nat.le_trans (tells.recalled k first).1.height (Nat.le_of_eq level.symm)
    · exact tells.rising k m first second order
  present m standing now := by
    rcases standing with rfl | old
    · exact tells.stacked.sound.height_mark
    · exact tells.present m old now
  own := tells.own
  distinct := tells.distinct
  issued := tells.issued

/-- The count of scopes is no part of the history. -/
theorem Tells.openedScope (tells : a.Tells past) :
    ({ a with scopes := a.scopes + 1 } : Arena).Tells past where
  stacked := { tells.stacked with sound := { tells.stacked.sound with } }
  recalled m standing := by
    obtain ⟨recalls, parts⟩ := tells.recalled m standing
    exact ⟨{ recalls with }, parts⟩
  rising := tells.rising
  present := tells.present
  own := tells.own
  distinct := tells.distinct
  issued := tells.issued

/-- A standing mark that was taken at the present clock reading is of the present claims. -/
theorem Tells.liveAt_present {m : Mark} (tells : a.Tells past) (standing : Standing m past)
    (now : m.clock = a.clock) : liveAt m past = live past := by
  obtain ⟨-, above, parts, since⟩ := tells.recalled m standing
  cases above with
  | nil => exact parts.symm
  | cons h above =>
    have after := (since h List.mem_cons_self).1
    have before := (tells.stacked.owned h (parts ▸ List.mem_cons_self)).2.2.1
    omega

/-- Of two standing marks, the claims of the earlier one are among those of the later one. -/
theorem Tells.liveAt_parts {k m : Mark} (tells : a.Tells past) (earlier : Standing k past)
    (later : Standing m past) (order : k.clock ≤ m.clock) :
    ∃ above, liveAt m past = above ++ liveAt k past ∧
      ∀ h ∈ above, k.clock ≤ h.stamp.seq ∧ k.height ≤ h.start := by
  obtain ⟨recalls, aboveK, partsK, sinceK⟩ := tells.recalled k earlier
  obtain ⟨-, aboveM, partsM, sinceM⟩ := tells.recalled m later
  rcases List.append_eq_append_iff.mp (partsM.symm.trans partsK) with
    ⟨between, split, rest⟩ | ⟨between, split, rest⟩
  · refine ⟨between, rest, fun h mem => sinceK h ?_⟩
    exact split ▸ List.mem_append_right _ mem
  · -- What came after the later mark is not among the claims of the earlier one.
    cases between with
    | nil => exact ⟨[], by simpa using rest.symm, by simp⟩
    | cons h between =>
      have before := (recalls.base h (rest ▸ List.mem_cons_self)).1
      have after := (sinceM h (split ▸ List.mem_append_right _ List.mem_cons_self)).1
      omega

/-- The arena comes back to a standing mark. -/
theorem Tells.unwound {m : Mark} (tells : a.Tells past) (standing : Standing m past) :
    ∃ b, a.unwindTo m = (.ok (), b) ∧ b.highWater = m.height ∧
      b.Tells (.unwound m :: past) := by
  obtain ⟨recalls, above, parts, since⟩ := tells.recalled m standing
  have stacked := tells.stacked
  rw [parts] at stacked
  obtain ⟨b, done, left, -, height, continues⟩ := stacked.unwindTo recalls
  have ticks : a.clock < b.clock := by
    obtain ⟨-, after⟩ := unwindTo_ok_iff.mp done
    rw [after]
    exact Nat.lt_succ_self _
  refine ⟨b, done, height, ?_⟩
  exact {
    stacked := left
    recalled := by
      rintro k ⟨old, order⟩
      have order := Nat.le_of_not_lt order
      obtain ⟨recalls, -⟩ := tells.recalled k old
      have level : k.height ≤ b.highWater := height ▸ tells.rising k m old standing order
      exact ⟨recalls.of_continues continues (by simpa using order) level,
        tells.liveAt_parts old standing order⟩
    rising := fun k l first second => tells.rising k l first.1 second.1
    present := fun k old now => absurd now (tells.clock_ne old.1 ticks)
    own := tells.own_of_continues continues
    distinct := tells.distinct
    issued := by
      intro h mem
      exact tells.issued h (parts ▸ List.mem_append_right _ mem) }

/-- A claim's range is written. -/
theorem Tells.wrote (tells : a.Tells past) (h k : Handle) (bytes new : Bytes) :
    (a.write h bytes).Tells (.wrote k new :: past) where
  stacked := tells.stacked.write h bytes
  recalled m standing := by
    obtain ⟨recalls, parts⟩ := tells.recalled m standing
    exact ⟨{ recalls with }, parts⟩
  rising := tells.rising
  present := tells.present
  own := tells.own
  distinct := tells.distinct
  issued := tells.issued

/-! ### One call -/

/-- The call is one of a scope. -/
def Call.isScoped : Arena.Call → Bool
  | .inScope _ _ => true
  | _ => false

/-- What calls in order do, newest first. -/
def tale (a : Arena) : List Arena.Call → List Deed
  | [] => []
  | c :: rest => (a.perform c).2.tale rest ++ a.deeds c

@[simp] theorem tale_nil (a : Arena) : a.tale [] = [] := rfl

@[simp] theorem tale_singleton (a : Arena) (c : Arena.Call) : a.tale [c] = a.deeds c := rfl

/-- **One call.** Callers present handles that the arena issued, or that it did not issue at
all, and where they come back to a mark, it stands. Then the history goes on to tell the state
of the arena. -/
theorem Tells.perform (tells : a.Tells past) (c : Arena.Call) (plain : c.isScoped = false)
    (honest : ∀ h, .handle h ∈ c.presents → h ∈ claims past ∨ h.arena ≠ a.id)
    (orderly : ∀ m, c = .unwindTo m → (a.unwindTo m).1 = .ok () → Standing m past) :
    (a.perform c).2.Tells (a.deeds c ++ past) := by
  cases c with
  | allocate size align =>
    simp only [Arena.perform, deeds]
    cases done : a.allocate size align with
    | mk answer b =>
      cases answer with
      | error fault => exact allocate_error done ▸ tells
      | ok h => exact tells.claimed done _
  | release h =>
    simp only [Arena.perform, deeds]
    cases done : a.release h with
    | mk answer b =>
      cases answer with
      | error fault => exact release_error done ▸ tells
      | ok =>
        have own := (checkIssued_ok_iff.mp (Arena.release_ok_iff.mp done).1).1
        have mem := (honest h List.mem_cons_self).resolve_right (not_not_intro own)
        exact tells.released mem done
  | reset => exact tells.reset
  | mark => exact tells.marked
  | unwindTo m =>
    simp only [Arena.perform, deeds]
    cases checked : a.checkMark m with
    | error fault =>
      rw [unwindTo_error checked]
      exact tells
    | ok =>
      have accepted : (a.unwindTo m).1 = .ok () := by rw [unwindTo_ok_iff.mpr ⟨checked, rfl⟩]
      obtain ⟨b, done, -, after⟩ := tells.unwound (orderly m rfl accepted)
      rw [done]
      exact after
  | modify h change =>
    simp only [Arena.perform, deeds, modify]
    split <;> rename_i read
    · exact tells
    · exact tells.wrote h h _ _
  | modifyPair h k change =>
    simp only [Arena.perform, deeds, modifyPair]
    split <;> rename_i read
    · exact tells
    · exact (tells.wrote h h _ _).wrote k k _ _
  | openScope => exact tells.marked.openedScope
  | inScope s c => cases plain
  | id => exact tells
  | pool => exact tells
  | capacity => exact tells
  | highWater => exact tells
  | peak => exact tells
  | checkMark m => exact tells
  | bytes h => exact tells

end Arena

end TensorArena
