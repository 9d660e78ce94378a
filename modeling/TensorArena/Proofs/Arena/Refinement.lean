import TensorArena.Proofs.Arena.Lifo
import TensorArena.Proofs.Arena.Stack

/-!
An arena used as a stack is a stack.

Answer by answer, a client that claims, releases, resets and nests scopes cannot tell an
arena from the stack of ranges of `Lifo.Stack`. `Couples` relates the two states through the
live claims, which the arena does not store: they stack in the arena (`Arena.Stacks`), they
are the entries of the stack, the marks of the open scopes stand for its lower parts
(`Nested`), and what the client holds is on the stack or older than the last reset
(`Accounts`). One request preserves the relation (`Couples.step`), so every run does.
-/

namespace TensorArena.Lifo

/-- A live claim: the number that the client knows it by, if any, and its handle. -/
abbrev Claim := Option Nat × Handle

/-- The entry of a live claim. -/
def Entry.of (c : Claim) : Entry := ⟨c.1, c.2.start, c.2.stop⟩

/-! ### Placement -/

/-- The arena rounds up to the least multiple. -/
theorem roundUp_eq_leastMultiple {align : Nat} (aligned : Arena.isAlignment align = true)
    (n : Nat) : Arena.roundUp n align = leastMultiple align n := by
  have positive : 0 < align := by
    obtain ⟨k, rfl⟩ := Arena.isAlignment_iff.mp aligned
    rw [Nat.one_shiftLeft]
    exact Nat.two_pow_pos k
  obtain ⟨divides, above, least⟩ := leastMultiple_least positive n
  refine Nat.le_antisymm ?_ (least _ (Nat.dvd_mul_left _ _) (Arena.le_roundUp aligned n))
  obtain ⟨q, same⟩ := divides
  rw [same] at above ⊢
  rw [Arena.roundUp, Nat.mul_comm]
  refine Nat.mul_le_mul_left align (Nat.le_of_lt_succ ?_)
  rw [Nat.div_lt_iff_lt_mul positive, Nat.succ_mul, Nat.mul_comm q]
  omega

/-- The arena's alignments are the powers of two. -/
theorem isAlignment_iff_isPowerOfTwo {align : Nat} :
    Arena.isAlignment align = true ↔ align.isPowerOfTwo := by
  simp only [Arena.isAlignment_iff, Nat.one_shiftLeft, Nat.isPowerOfTwo]

section Claims

variable {a b : Arena} {live : List Handle} {size align : Nat}

theorem allocate_unaligned (unaligned : ¬ align.isPowerOfTwo) :
    a.allocate size align = (.error (.invalidAlignment align), a) := by
  simp [Arena.allocate, isAlignment_iff_isPowerOfTwo, unaligned]

theorem allocate_full (aligned : align.isPowerOfTwo)
    (full : ¬ leastMultiple align a.highWater + size ≤ a.capacity) :
    a.allocate size align =
      (.error (.outOfSpace a.pool size align a.highWater a.capacity), a) := by
  have issued := isAlignment_iff_isPowerOfTwo.mpr aligned
  simp only [Arena.allocate, issued, if_true, roundUp_eq_leastMultiple issued, full, if_false]

theorem allocate_fits (stacked : a.Stacks live) (aligned : align.isPowerOfTwo)
    (fits : leastMultiple align a.highWater + size ≤ a.capacity) :
    ∃ h b, a.allocate size align = (.ok h, b) ∧ b.Stacks (h :: live) ∧
      h.start = leastMultiple align a.highWater ∧
      h.stop = leastMultiple align a.highWater + size ∧ b.highWater = h.stop ∧
      h.arena = a.id ∧ h.stamp.epoch = a.epoch ∧ Arena.Continues a [] b := by
  have issued := isAlignment_iff_isPowerOfTwo.mpr aligned
  have same := roundUp_eq_leastMultiple issued a.highWater
  cases done : a.allocate size align with
  | mk answer b =>
    cases answer with
    | error fault =>
      rw [← same] at fits
      simp [Arena.allocate, issued, fits] at done
    | ok h =>
      obtain ⟨pushed, start, length, height⟩ := stacked.allocate done
      have continues := Arena.allocate_continues done
      obtain ⟨-, -, new, -⟩ := Arena.allocate_ok done
      refine ⟨h, b, rfl, pushed, start.trans same, ?_, height, ?_, ?_, continues⟩
      · rw [Handle.stop, start, length, same]
      · rw [new]
      · rw [new]

end Claims

/-! ### Open scopes -/

/-- The open scopes of an arena, innermost first, stand for lower and lower parts of its
stack. What lies above the innermost part was claimed in that scope. -/
inductive Nested (a : Arena) :
    List Scope → List (Nat × List Entry) → List Claim → Prop where
  | outside {live : List Claim} : Nested a [] [] live
  | inside {s : Scope} {outer : List Scope} {opened : List (Nat × List Entry)}
      {above base : List Claim} : a.Recalls s.mark (base.map Prod.snd) →
      (∀ o ∈ outer, o.mark.clock ≤ s.mark.clock ∧ o.mark.height ≤ s.mark.height) →
      (∀ c ∈ above, c.1 = none) → (∀ h ∈ s.handles, (none, h) ∈ above) →
      Nested a outer opened base →
      Nested a (s :: outer) ((s.mark.height, base.map Entry.of) :: opened) (above ++ base)

namespace Nested

variable {a b : Arena} {scopes : List Scope} {opened : List (Nat × List Entry)}
  {live : List Claim} {log : List Arena.Discard}

/-- Without a scope in the arena the stack has none. -/
theorem opened_eq_nil (nested : Nested a [] opened live) : opened = [] := by
  cases nested
  rfl

/-- What is known of the innermost scope. -/
theorem innermost {s : Scope} {outer : List Scope} (nested : Nested a (s :: outer) opened live) :
    ∃ rest above base, opened = (s.mark.height, base.map Entry.of) :: rest ∧
      live = above ++ base ∧ a.Recalls s.mark (base.map Prod.snd) ∧
      (∀ o ∈ outer, o.mark.clock ≤ s.mark.clock ∧ o.mark.height ≤ s.mark.height) ∧
      (∀ c ∈ above, c.1 = none) ∧ (∀ h ∈ s.handles, (none, h) ∈ above) ∧
      Nested a outer rest base := by
  cases nested with
  | inside recalls lower unnumbered handles nested =>
    exact ⟨_, _, _, rfl, rfl, recalls, lower, unnumbered, handles, nested⟩

/-- No scope is above the arena's present state. -/
theorem mark_le (nested : Nested a scopes opened live) :
    ∀ s ∈ scopes, s.mark.clock ≤ a.clock ∧ s.mark.height ≤ a.highWater := by
  induction nested with
  | outside => simp
  | inside recalls _ _ _ _ ih =>
    intro o mem
    rcases List.mem_cons.mp mem with rfl | outer
    · exact ⟨recalls.clock, recalls.height⟩
    · exact ih o outer

/-- Scopes stay open through changes that discard nothing from before they were opened. -/
theorem of_continues (nested : Nested a scopes opened live)
    (continues : Arena.Continues a log b)
    (since : ∀ s ∈ scopes, (∀ d ∈ log, s.mark.clock ≤ d.first) ∧ s.mark.height ≤ b.highWater) :
    Nested b scopes opened live := by
  induction nested with
  | outside => exact .outside
  | inside recalls lower unnumbered handles _ ih =>
    obtain ⟨above, height⟩ := since _ List.mem_cons_self
    exact .inside (recalls.of_continues continues above height) lower unnumbered handles
      (ih fun o mem => since o (List.mem_cons_of_mem _ mem))

/-- Claims move the stack away from every scope. -/
theorem of_claim (nested : Nested a scopes opened live) (continues : Arena.Continues a [] b)
    (higher : a.highWater ≤ b.highWater) : Nested b scopes opened live :=
  nested.of_continues continues fun s mem =>
    ⟨by simp, Nat.le_trans (nested.mark_le s mem).2 higher⟩

/-- The innermost scope keeps one more claim. -/
theorem keep {s : Scope} {outer : List Scope} {h : Handle}
    (nested : Nested a (s :: outer) opened live) :
    Nested a ({ s with handles := s.handles ++ [h] } :: outer) opened ((none, h) :: live) := by
  obtain ⟨rest, above, base, rfl, rfl, recalls, lower, unnumbered, handles, nested⟩ :=
    nested.innermost
  rw [← List.cons_append]
  refine .inside (s := { s with handles := s.handles ++ [h] }) recalls lower ?_ ?_ nested
  · intro c mem
    rcases List.mem_cons.mp mem with rfl | old
    · rfl
    · exact unnumbered c old
  · intro k kept
    rcases List.mem_append.mp kept with old | new
    · exact List.mem_cons_of_mem _ (handles k old)
    · exact List.mem_singleton.mp new ▸ List.mem_cons_self

/-- A handle that an open scope keeps is on the stack. -/
theorem mem_of_handles (nested : Nested a scopes opened live) :
    ∀ s ∈ scopes, ∀ h ∈ s.handles, (none, h) ∈ live := by
  induction nested with
  | outside => simp
  | inside _ _ _ handles _ ih =>
    intro o mem h kept
    rcases List.mem_cons.mp mem with rfl | outer
    · exact List.mem_append_left _ (handles h kept)
    · exact List.mem_append_right _ (ih o outer h kept)

end Nested

/-! ### What the client holds -/

/-- What relates the contents of two places may be weakened for the contents found. -/
theorem rel_weaken {α β : Type} {P Q : α → β → Prop} {x : Option α} {y : Option β}
    (rel : Option.Rel P x y) (weaken : ∀ a b, x = some a → P a b → Q a b) :
    Option.Rel Q x y := by
  cases rel with
  | none => exact .none
  | some related => exact .some (weaken _ _ rfl related)

/-- The ticket tells the truth about the handle: one of the last generation is on the
stack. -/
structure Vouches (id : ArenaId) (generation : Nat) (live : List Claim) (number : Nat)
    (h : Handle) (t : Ticket) : Prop where
  own : h.arena = id
  stop : t.stop = h.stop
  epoch : h.stamp.epoch = t.generation.toUInt32
  past : t.generation ≤ generation
  present : t.generation = generation → (some number, h) ∈ live

/-- Handles and tickets are held under the same numbers, and a number on the stack is that
of its handle. -/
structure Accounts (id : ArenaId) (generation : Nat) (live : List Claim) (held : Held Handle)
    (tickets : Held Ticket) : Prop where
  count : tickets.length = held.length
  agree : ∀ n, Option.Rel (Vouches id generation live n) (held.find n) (tickets.find n)
  numbered : ∀ n h, (some n, h) ∈ live → n < held.length ∧ ∀ k, held.find n = some k → k = h

namespace Accounts

variable {id : ArenaId} {generation : Nat} {live above base : List Claim} {held : Held Handle}
  {tickets : Held Ticket}

/-- Every held handle has its ticket. -/
theorem vouches {n : Nat} {h : Handle} (accounts : Accounts id generation live held tickets)
    (found : held.find n = some h) :
    ∃ t, tickets.find n = some t ∧ Vouches id generation live n h t := by
  have agree := accounts.agree n
  rw [found] at agree
  cases kept : tickets.find n with
  | none =>
    rw [kept] at agree
    cases agree
  | some t =>
    rw [kept] at agree
    cases agree with
    | some vouches => exact ⟨t, rfl, vouches⟩

/-- There is no ticket for what is not held. -/
theorem find_eq_none {n : Nat} (accounts : Accounts id generation live held tickets)
    (gone : held.find n = none) : tickets.find n = none := by
  have agree := accounts.agree n
  rw [gone] at agree
  cases kept : tickets.find n with
  | none => rfl
  | some t =>
    rw [kept] at agree
    cases agree

/-- A new claim with a handle for the client. -/
theorem add {h : Handle} (accounts : Accounts id generation live held tickets)
    (own : h.arena = id) (epoch : h.stamp.epoch = generation.toUInt32) :
    Accounts id generation ((some held.length, h) :: live) (held.add h)
      (tickets.add ⟨h.stop, generation⟩) where
  count := by simp [accounts.count]
  agree n := by
    rw [Held.find_add, Held.find_add, accounts.count]
    split
    · rename_i last
      exact .some ⟨own, rfl, epoch, Nat.le_refl _, fun _ => last ▸ List.mem_cons_self⟩
    · exact rel_weaken (accounts.agree n) fun _ _ _ vouches => { vouches with
        present := fun latest => List.mem_cons_of_mem _ (vouches.present latest) }
  numbered n k mem := by
    rw [Held.find_add, Held.length_add]
    rcases List.mem_cons.mp mem with new | old
    · cases new
      exact ⟨Nat.lt_succ_self _, by simp⟩
    · obtain ⟨before, same⟩ := accounts.numbered n k old
      exact ⟨Nat.lt_succ_of_lt before, by rwa [if_neg (Nat.ne_of_lt before)]⟩

/-- A new claim that an open scope keeps. -/
theorem addUnnumbered {h : Handle} (accounts : Accounts id generation live held tickets) :
    Accounts id generation ((none, h) :: live) held tickets where
  count := accounts.count
  agree n := rel_weaken (accounts.agree n) fun _ _ _ vouches => { vouches with
    present := fun latest => List.mem_cons_of_mem _ (vouches.present latest) }
  numbered n k mem := accounts.numbered n k (by simpa using mem)

/-- The client gives a handle away. -/
theorem spend (accounts : Accounts id generation live held tickets) (number : Nat) :
    Accounts id generation live (held.spend number) (tickets.spend number) where
  count := by simp [accounts.count]
  agree n := by
    rw [Held.find_spend, Held.find_spend]
    split
    · exact .none
    · exact accounts.agree n
  numbered n h mem := by
    obtain ⟨before, same⟩ := accounts.numbered n h mem
    refine ⟨by simpa using before, fun k found => same k ?_⟩
    rw [Held.find_spend] at found
    split at found
    · cases found
    · exact found

/-- Claims whose handles nobody holds leave the stack. -/
theorem drop (accounts : Accounts id generation (above ++ base) held tickets)
    (gone : ∀ n h, (some n, h) ∈ above → held.find n = none) :
    Accounts id generation base held tickets where
  count := accounts.count
  agree n := rel_weaken (accounts.agree n) fun h _ found vouches => { vouches with
    present := by
      intro latest
      rcases List.mem_append.mp (vouches.present latest) with up | down
      · rw [gone n h up] at found
        cases found
      · exact down }
  numbered n h mem := accounts.numbered n h (List.mem_append_right _ mem)

/-- Everything leaves the stack, and a new generation begins. -/
theorem reset (accounts : Accounts id generation live held tickets) :
    Accounts id (generation + 1) [] held tickets where
  count := accounts.count
  agree n := rel_weaken (accounts.agree n) fun _ _ _ vouches => { vouches with
    past := Nat.le_succ_of_le vouches.past
    present := fun latest => absurd vouches.past (by omega) }
  numbered n h mem := by cases mem

end Accounts

/-! ### The states side by side -/

/-- The arena in use and the stack are in the same state, in which `live` is on the
stack. -/
structure Couples (s : Session) (r : Stack) (live : List Claim) : Prop where
  stacked : s.arena.Stacks (live.map Prod.snd)
  pool : r.pool = s.arena.pool
  capacity : r.capacity = s.arena.capacity
  height : r.height = s.arena.highWater
  entries : r.entries = live.map Entry.of
  epoch : s.arena.epoch = r.generation.toUInt32
  accounts : Accounts s.arena.id r.generation live s.held r.held
  scopes : Nested s.arena s.scopes r.opened live

/-- The states after an operation without a reset, given what is on the stack then, what the
client holds, and what the scopes stand for. -/
theorem Couples.after {s : Session} {r : Stack} {live : List Claim} {b : Arena}
    {log : List Arena.Discard} {scopes : List Scope} {opened : List (Nat × List Entry)}
    {held : Held Handle} {tickets : Held Ticket} {height : Nat} (left : List Claim)
    (couples : Couples s r live) (continues : Arena.Continues s.arena log b)
    (stacked : b.Stacks (left.map Prod.snd))
    (level : height = b.highWater)
    (accounts : Accounts s.arena.id r.generation left held tickets)
    (nested : Nested b scopes opened left) :
    Couples ⟨b, scopes, held⟩
      ⟨r.pool, r.capacity, height, left.map Entry.of, opened, tickets, r.generation⟩ left where
  stacked := stacked
  pool := couples.pool.trans continues.pool.symm
  capacity := couples.capacity.trans continues.capacity.symm
  height := level
  entries := rfl
  epoch := continues.epoch.trans couples.epoch
  accounts := continues.id ▸ accounts
  scopes := nested

/-- The same answer, and states that are the same again. -/
def Agree (x : Answer × Session) (y : Answer × Stack) : Prop :=
  x.1 = y.1 ∧ ∃ live, Couples x.2 y.2 live

/-! ### Claims -/

section Steps

variable {s : Session} {r : Stack} {live : List Claim}

theorem Session.claim_refused {size align : Nat} {fault : Arena.Fault}
    (refused : s.arena.allocate size align = (.error fault, s.arena)) :
    s.claim size align = (.refused fault, s) := by
  rcases s with ⟨a, _ | ⟨scope, outer⟩, held⟩
  · simp only [claim, refused]
  · simp only [claim, Scope.allocate, refused]

theorem Session.claim_outside {size align : Nat} {h : Handle} {b : Arena}
    (done : s.arena.allocate size align = (.ok h, b)) (alone : s.scopes = []) :
    s.claim size align =
      (.placed h.start h.stop, { s with arena := b, held := s.held.add h }) := by
  rcases s with ⟨a, scopes, held⟩
  cases alone
  simp only [claim, done]

theorem Session.claim_inside {size align : Nat} {h : Handle} {b : Arena} {scope : Scope}
    {outer : List Scope} (done : s.arena.allocate size align = (.ok h, b))
    (within : s.scopes = scope :: outer) :
    s.claim size align = (.placed h.start h.stop,
      { s with
        arena := b, scopes := { scope with handles := scope.handles ++ [h] } :: outer }) := by
  rcases s with ⟨a, scopes, held⟩
  cases within
  simp [claim, Scope.allocate, done, Scope.resolve]

/-- A claim that is placed at the same place in both. -/
theorem Couples.push {h : Handle} {b : Arena} {size align : Nat} (couples : Couples s r live)
    (done : s.arena.allocate size align = (.ok h, b)) (stacked : b.Stacks (h :: live.map Prod.snd))
    (height : b.highWater = h.stop) (higher : s.arena.highWater ≤ b.highWater)
    (own : h.arena = s.arena.id) (epoch : h.stamp.epoch = s.arena.epoch)
    (continues : Arena.Continues s.arena [] b) :
    Agree (s.claim size align) (.placed h.start h.stop, r.push h.start h.stop) := by
  have nested := couples.scopes.of_claim continues higher
  cases inUse : s.scopes with
  | nil =>
    rw [inUse] at nested
    have alone := nested.opened_eq_nil
    have accounts := couples.accounts.add own (epoch.trans couples.epoch)
    rw [← couples.accounts.count] at accounts
    rw [Session.claim_outside done inUse, inUse]
    simp only [Stack.push, alone, couples.entries]
    exact ⟨rfl, _, couples.after ((some r.held.length, h) :: live) continues stacked height.symm
      accounts .outside⟩
  | cons scope outer =>
    rw [inUse] at nested
    obtain ⟨rest, -, base, opens, -⟩ := nested.innermost
    rw [Session.claim_inside done inUse]
    simp only [Stack.push, opens, couples.entries]
    exact ⟨rfl, _, couples.after ((none, h) :: live) continues stacked height.symm
      couples.accounts.addUnnumbered (opens ▸ nested.keep)⟩

theorem Couples.claim (couples : Couples s r live) (size align : Nat) :
    Agree (s.claim size align) (r.claim size align) := by
  by_cases aligned : align.isPowerOfTwo
  · by_cases fits : leastMultiple align s.arena.highWater + size ≤ s.arena.capacity
    · obtain ⟨h, b, done, stacked, start, stop, height, own, epoch, continues⟩ :=
        allocate_fits couples.stacked aligned fits
      have higher : s.arena.highWater ≤ b.highWater := by
        have positive := Nat.pos_of_isPowerOfTwo aligned
        have above := (leastMultiple_least positive s.arena.highWater).2.1
        rw [height, stop]
        exact Nat.le_trans above (Nat.le_add_right _ _)
      have reference : r.claim size align =
          (.placed h.start h.stop, r.push h.start h.stop) := by
        simp [Stack.claim, aligned, couples.height, couples.capacity, fits, start, stop]
      rw [reference]
      exact couples.push done stacked height higher own epoch continues
    · rw [Session.claim_refused (allocate_full aligned fits)]
      refine ⟨?_, live, ?_⟩
      · simp [Stack.claim, aligned, couples.height, couples.capacity, couples.pool, fits]
      · simpa [Stack.claim, aligned, couples.height, couples.capacity, fits] using couples
  · rw [Session.claim_refused (allocate_unaligned aligned)]
    refine ⟨?_, live, ?_⟩
    · simp [Stack.claim, aligned]
    · simpa [Stack.claim, aligned] using couples

/-! ### Releases -/

/-- A handle of an earlier epoch is refused as stale. -/
theorem release_stale {a : Arena} {h : Handle} (own : h.arena = a.id)
    (older : h.stamp.epoch ≠ a.epoch) : a.release h = (.error (a.stale h), a) := by
  simp [Arena.release, Arena.checkIssued, own, older]

/-- Counts below `2^32` that differ still differ in a word. -/
theorem toUInt32_ne {m n : Nat} (lt : m < n) (small : n < UInt32.size) :
    m.toUInt32 ≠ n.toUInt32 := by
  intro same
  have words := congrArg UInt32.toNat same
  simp only [Nat.toUInt32_eq, UInt32.toNat_ofNat'] at words
  rw [Nat.mod_eq_of_lt (Nat.lt_trans lt small), Nat.mod_eq_of_lt small] at words
  exact Nat.ne_of_lt lt words

/-- The states after a release that is refused. -/
theorem Couples.spend (couples : Couples s r live) (number : Nat) :
    Couples { s with held := s.held.spend number } { r with held := r.held.spend number } live :=
  { couples with accounts := couples.accounts.spend number }

/-- Without an open scope there is no lower part to keep. -/
theorem Couples.nested_of_alone {b : Arena} {base : List Claim} (couples : Couples s r live)
    (alone : s.scopes = []) : Nested b s.scopes r.opened base := by
  have nested := couples.scopes
  rw [alone] at nested ⊢
  rw [nested.opened_eq_nil]
  exact .outside

theorem Session.step_release {h : Handle} {number : Nat} (alone : s.scopes = [])
    (found : s.held.find number = some h) : s.step (.release number) =
      (.of (s.arena.release h).1,
        { s with arena := (s.arena.release h).2, held := s.held.spend number }) := by
  rcases s with ⟨a, scopes, held⟩
  cases alone
  simp only [step, found]

theorem Stack.step_release {t : Ticket} {number : Nat} (alone : r.opened = [])
    (found : r.held.find number = some t) : r.step (.release number) = r.release number t := by
  simp only [step, alone, found]

/-- The top is given back. -/
theorem Couples.release_top {h : Handle} {number : Nat} {rest : List Claim}
    (couples : Couples s r ((some number, h) :: rest)) (alone : s.scopes = []) :
    Agree (.of (s.arena.release h).1,
      { s with arena := (s.arena.release h).2, held := s.held.spend number })
      (.done, { r with
        height := h.start, entries := rest.map Entry.of, held := r.held.spend number }) := by
  have spent : Accounts s.arena.id r.generation ([(some number, h)] ++ rest)
      (s.held.spend number) (r.held.spend number) := couples.accounts.spend number
  obtain ⟨b, done, popped, height, continues⟩ := couples.stacked.release
  rw [done]
  refine ⟨rfl, rest, ?_⟩
  refine couples.after rest continues popped height.symm (spent.drop fun n k mem => ?_)
    (couples.nested_of_alone alone)
  cases List.mem_singleton.mp mem
  rw [Held.find_spend, if_pos rfl]

/-- A claim below the top is refused out of order. -/
theorem Couples.release_below {h : Handle} {number : Nat} {top : Claim} {rest : List Claim}
    (couples : Couples s r (top :: rest)) (below : (some number, h) ∈ rest) :
    Agree (.of (s.arena.release h).1,
      { s with arena := (s.arena.release h).2, held := s.held.spend number })
      (.refused (.releaseOrder r.pool (Entry.of top).stop h.stop), { r with
        entries := Entry.of top :: rest.map Entry.of, held := r.held.spend number }) := by
  rw [couples.stacked.release_lower (List.mem_map_of_mem below)]
  refine ⟨?_, top :: rest, { couples.spend number with entries := rfl }⟩
  rw [Answer.of, couples.pool]
  rfl

theorem Couples.release {h : Handle} {t : Ticket} {number : Nat} (couples : Couples s r live)
    (alone : s.scopes = []) (found : s.held.find number = some h)
    (vouches : Vouches s.arena.id r.generation live number h t)
    (small : r.generation < UInt32.size) :
    Agree (.of (s.arena.release h).1,
      { s with arena := (s.arena.release h).2, held := s.held.spend number })
      (r.release number t) := by
  rcases Nat.lt_or_eq_of_le vouches.past with older | latest
  · have other : h.stamp.epoch ≠ s.arena.epoch := by
      rw [vouches.epoch, couples.epoch]
      exact toUInt32_ne older small
    rw [release_stale vouches.own other]
    simp only [Stack.release, older, if_true]
    refine ⟨?_, live, couples.spend number⟩
    rw [Answer.of, Arena.stale, couples.pool, vouches.stop, couples.height]
  · have onStack := vouches.present latest
    cases live with
    | nil => cases onStack
    | cons top rest =>
      simp only [Stack.release, latest, Nat.lt_irrefl, if_false, couples.entries, List.map_cons]
      split
      · -- The top carries the number, so it is the handle itself.
        rename_i named
        rcases top with ⟨name, k⟩
        cases named
        obtain rfl := (couples.accounts.numbered number k List.mem_cons_self).2 h found
        exact couples.release_top alone
      · rename_i other
        have below : (some number, h) ∈ rest := by
          rcases List.mem_cons.mp onStack with rfl | below
          · exact absurd rfl other
          · exact below
        rw [vouches.stop]
        exact couples.release_below below

/-! ### Scopes and resets -/

theorem Couples.reset (couples : Couples s r live) (alone : s.scopes = []) :
    Couples { s with arena := s.arena.reset }
      { r with height := 0, entries := [], generation := r.generation + 1 } [] where
  stacked := couples.stacked.reset
  pool := couples.pool
  capacity := couples.capacity
  height := rfl
  entries := rfl
  epoch := by
    show s.arena.epoch + 1 = (r.generation + 1).toUInt32
    rw [couples.epoch]
    simp
  accounts := couples.accounts.reset
  scopes := couples.nested_of_alone alone

theorem Couples.enter (couples : Couples s r live) :
    Couples { s with
        arena := (Scope.enter s.arena).2
        scopes := (Scope.enter s.arena).1 :: s.scopes }
      { r with opened := (r.height, r.entries) :: r.opened } live where
  stacked := { couples.stacked with sound := { couples.stacked.sound with } }
  pool := couples.pool
  capacity := couples.capacity
  height := couples.height
  entries := couples.entries
  epoch := couples.epoch
  accounts := couples.accounts
  scopes := by
    have continues := Arena.openScope_continues s.arena
    have nested := couples.scopes.of_claim continues (Nat.le_refl _)
    have recalls := couples.stacked.recalls_mark.of_continues continues (by simp)
      (Nat.le_of_eq couples.stacked.sound.height_mark)
    have height : r.height = s.arena.mark.height :=
      couples.height.trans couples.stacked.sound.height_mark.symm
    rw [couples.entries, height]
    -- Nothing is claimed in the scope yet.
    show Nested _ _ _ ([] ++ live)
    refine .inside recalls ?_ (by simp) (by simp [Scope.enter]) nested
    intro o mem
    obtain ⟨clock, within⟩ := couples.scopes.mark_le o mem
    exact ⟨clock, Nat.le_trans within (Nat.le_of_eq couples.stacked.sound.height_mark.symm)⟩

/-- The innermost scope stands for a lower part of the stack, and an arena that came back
to that part agrees with the stack on closing the scope. -/
theorem Couples.close {scope : Scope} {outer : List Scope} (couples : Couples s r live)
    (inUse : s.scopes = scope :: outer) :
    ∃ above base, s.arena.Stacks (above ++ base) ∧ s.arena.Recalls scope.mark base ∧
      ∀ b log, b.Stacks base → b.highWater = scope.mark.height →
        Arena.Continues s.arena log b → (∀ d ∈ log, scope.mark.clock ≤ d.first) →
        Agree (.done, { s with arena := b, scopes := outer }) r.close := by
  have nested := couples.scopes
  rw [inUse] at nested
  obtain ⟨rest, above, base, opens, rfl, recalls, lower, unnumbered, -, nested⟩ :=
    nested.innermost
  refine ⟨above.map Prod.snd, base.map Prod.snd, ?_, recalls, ?_⟩
  · rw [← List.map_append]
    exact couples.stacked
  · intro b log stacked height continues since
    simp only [Stack.close, opens]
    refine ⟨rfl, base, couples.after base continues stacked height.symm ?_ ?_⟩
    · exact couples.accounts.drop fun n h mem => by cases unnumbered _ mem
    · refine nested.of_continues continues fun o mem => ?_
      obtain ⟨clock, within⟩ := lower o mem
      exact ⟨fun d discarded => Nat.le_trans clock (since d discarded),
        Nat.le_trans within (Nat.le_of_eq height.symm)⟩

theorem Couples.leave {scope : Scope} {outer : List Scope} (couples : Couples s r live)
    (inUse : s.scopes = scope :: outer) :
    Agree (.done, { s with arena := scope.leave s.arena, scopes := outer }) r.close := by
  obtain ⟨above, base, stacked, recalls, closes⟩ := couples.close inUse
  obtain ⟨b, done, stacked, -, height, continues⟩ := stacked.unwindTo recalls
  rw [Scope.leave, done]
  exact closes b _ stacked height continues (by simp)

/-- Closing with a look at the outcome unwinds twice, and the mark outlives the first. -/
theorem Couples.finish {scope : Scope} {outer : List Scope} (couples : Couples s r live)
    (inUse : s.scopes = scope :: outer) :
    Agree (.of (scope.finish s.arena).1,
      { s with arena := (scope.finish s.arena).2, scopes := outer }) r.close := by
  obtain ⟨above, base, stacked, recalls, closes⟩ := couples.close inUse
  obtain ⟨b, done, stacked, recalls, -, first⟩ := stacked.unwindTo recalls
  obtain ⟨c, again, stacked, -, height, second⟩ :=
    (show b.Stacks ([] ++ base) from stacked).unwindTo recalls
  rw [Scope.finish, done]
  simp only [Scope.leave, again]
  exact closes c _ stacked height (first.trans second) (by simp)

/-! ### Runs -/

/-- **One request.** States that are the same answer a request the same way and are the same
again. -/
theorem Couples.step (couples : Couples s r live) (small : r.generation < UInt32.size)
    (request : Request) : Agree (s.step request) (r.step request) := by
  have same : Agree (.impossible, s) (.impossible, r) := ⟨rfl, live, couples⟩
  have nested := couples.scopes
  cases inUse : s.scopes with
  | nil =>
    rw [inUse] at nested
    have opens := nested.opened_eq_nil
    cases request with
    | claim size align => exact couples.claim size align
    | release number =>
      cases found : s.held.find number with
      | none =>
        have kept := couples.accounts.find_eq_none found
        simpa only [Session.step, Stack.step, inUse, opens, found, kept] using same
      | some h =>
        obtain ⟨t, kept, vouches⟩ := couples.accounts.vouches found
        rw [Session.step_release inUse found, Stack.step_release opens kept]
        exact couples.release inUse found vouches small
    | reset =>
      simp only [Session.step, Stack.step, inUse, opens]
      exact ⟨rfl, [], inUse ▸ opens ▸ couples.reset inUse⟩
    | enter => exact ⟨rfl, live, couples.enter⟩
    | leave => simpa only [Session.step, Stack.step, Stack.close, inUse, opens] using same
    | finish => simpa only [Session.step, Stack.step, Stack.close, inUse, opens] using same
  | cons scope outer =>
    rw [inUse] at nested
    obtain ⟨rest, -, base, opens, -⟩ := nested.innermost
    cases request with
    | claim size align => exact couples.claim size align
    | release number => simpa only [Session.step, Stack.step, inUse, opens] using same
    | reset => simpa only [Session.step, Stack.step, inUse, opens] using same
    | enter => exact ⟨rfl, live, couples.enter⟩
    | leave =>
      simp only [Session.step, Stack.step, inUse]
      exact couples.leave inUse
    | finish =>
      simp only [Session.step, Stack.step, inUse]
      exact couples.finish inUse

/-- **Every run.** States that are the same give the same answers to all requests and end the
same. -/
theorem Couples.run (couples : Couples s r live) {requests : List Request}
    (small : r.generation + requests.count .reset < UInt32.size) :
    (run Session.step s requests).1 = (run Stack.step r requests).1 ∧
      ∃ live, Couples (run Session.step s requests).2 (run Stack.step r requests).2 live := by
  induction requests generalizing s r live with
  | nil => exact ⟨rfl, live, couples⟩
  | cons request rest ih =>
    have bound := r.generation_step request
    rw [← List.singleton_append, List.count_append] at small
    obtain ⟨answer, after, couples⟩ := couples.step (by omega) request
    obtain ⟨answers, last⟩ := ih couples (by omega)
    refine ⟨?_, last⟩
    simp only [Lifo.run]
    rw [answer, answers]

end Steps

/-- A fresh arena is the empty stack. -/
theorem couples_fresh {id : ArenaId} {pool : Pool} {capacity : Nat} {a : Arena}
    (built : Arena.build id pool capacity = .ok a) :
    Couples (.fresh a) (.fresh pool capacity) [] := by
  have stacked := Arena.stacks_of_build built
  obtain ⟨-, -, rfl⟩ := Arena.build_ok_iff.mp built
  exact {
    stacked := stacked
    pool := rfl
    capacity := by simp [Session.fresh, Stack.fresh, Arena.capacity, Buffer.zeroed]
    height := rfl
    entries := rfl
    epoch := rfl
    accounts := ⟨rfl, fun _ => .none, fun _ _ mem => by cases mem⟩
    scopes := .outside }

/-! ### What a client sees -/

/-- The arena stands at the height of the stack; a handle that the client holds is accepted
exactly if its number is on the stack, where its range is that of the handle; and what an
open scope keeps is accepted and on the stack. -/
structure Mirrors (s : Session) (r : Stack) : Prop where
  height : s.arena.highWater = r.height
  accepted : ∀ n h, s.held.find n = some h →
    ((∃ bytes, s.arena.bytes h = .ok bytes) ↔ ∃ e ∈ r.entries, e.number = some n)
  range : ∀ n h, s.held.find n = some h → ∀ e ∈ r.entries, e.number = some n →
    e.start = h.start ∧ e.stop = h.stop
  kept : ∀ scope ∈ s.scopes, ∀ h ∈ scope.handles,
    (∃ bytes, s.arena.bytes h = .ok bytes) ∧ ⟨none, h.start, h.stop⟩ ∈ r.entries

/-- The entry with the number of a held handle is that of the handle. -/
theorem Couples.onStack {s : Session} {r : Stack} {live : List Claim} {n : Nat} {h : Handle}
    {e : Entry} (couples : Couples s r live) (found : s.held.find n = some h)
    (mem : e ∈ r.entries) (named : e.number = some n) :
    (some n, h) ∈ live ∧ e = Entry.of (some n, h) := by
  rw [couples.entries] at mem
  obtain ⟨⟨number, k⟩, onStack, rfl⟩ := List.mem_map.mp mem
  cases named
  obtain rfl := (couples.accounts.numbered n k onStack).2 h found
  exact ⟨onStack, rfl⟩

theorem Couples.mirrors {s : Session} {r : Stack} {live : List Claim}
    (couples : Couples s r live) (small : r.generation < UInt32.size) : Mirrors s r where
  height := couples.height.symm
  accepted n h found := by
    constructor
    · rintro ⟨bytes, read⟩
      obtain ⟨t, -, vouches⟩ := couples.accounts.vouches found
      obtain ⟨-, epoch, -⟩ := Arena.checkIssued_ok_iff.mp
        (Arena.checkLive_ok_iff.mp (Arena.bytes_ok_iff.mp read).1).1
      have latest : t.generation = r.generation := by
        rcases Nat.lt_or_eq_of_le vouches.past with older | latest
        · rw [vouches.epoch, couples.epoch] at epoch
          exact absurd epoch (toUInt32_ne older small)
        · exact latest
      rw [couples.entries]
      exact ⟨_, List.mem_map_of_mem (vouches.present latest), rfl⟩
    · rintro ⟨e, mem, named⟩
      have onStack := couples.onStack found mem named
      exact ⟨_, Arena.bytes_ok_iff.mpr ⟨couples.stacked.checkLive
        (List.mem_map_of_mem onStack.1), rfl⟩⟩
  range n h found e mem named := by
    obtain ⟨-, rfl⟩ := couples.onStack found mem named
    exact ⟨rfl, rfl⟩
  kept scope mem h kept := by
    have onStack := couples.scopes.mem_of_handles scope mem h kept
    refine ⟨⟨_, Arena.bytes_ok_iff.mpr ⟨couples.stacked.checkLive
      (List.mem_map_of_mem onStack), rfl⟩⟩, ?_⟩
    rw [couples.entries]
    exact List.mem_map_of_mem onStack

/-- **An arena is a stack.** On every arena that can be built, every run of claims, releases,
resets and scopes gets the answers of the stack and ends in the stack's state. The count of
resets is kept in 32 bits, so a run may have fewer than `2 ^ 32` of them. -/
theorem arena_is_stack (id : ArenaId) (pool : Pool) (capacity : Nat) (requests : List Request)
    (positive : 0 < capacity) (fits : capacity ≤ Capacity.largest)
    (resets : requests.count .reset < UInt32.size) :
    ∃ a, Arena.build id pool capacity = .ok a ∧
      (run Session.step (.fresh a) requests).1 =
        (run Stack.step (.fresh pool capacity) requests).1 ∧
      Mirrors (run Session.step (.fresh a) requests).2
        (run Stack.step (.fresh pool capacity) requests).2 := by
  have built := Arena.build_ok_iff.mpr ⟨positive, fits, Eq.refl (Arena.mk id pool _ _ _ _ _ _ _ _)⟩
  have small : (Stack.fresh pool capacity).generation + requests.count .reset < UInt32.size := by
    simpa [Stack.fresh] using resets
  obtain ⟨answers, live, couples⟩ := (couples_fresh built).run small
  refine ⟨_, built, answers, couples.mirrors ?_⟩
  exact Nat.lt_of_le_of_lt (Stack.generation_run _ _) small

/-- Padding, a nested scope, each refusal, and a reset. -/
def mixed : List Request :=
  [.claim 10 1, .enter, .claim 3 8, .enter, .claim 30 1, .finish, .leave, .claim 4 3, .claim 2 4,
    .release 0, .reset, .release 1, .claim 5 1, .release 2]

/-- The answers of the stack, which the arena gives too. -/
theorem arena_is_stack_mixed :
    0 < 32 ∧ 32 ≤ Capacity.largest ∧ mixed.count .reset < UInt32.size ∧
      ∃ a, Arena.build ⟨1⟩ .ram 32 = .ok a ∧
        (run Session.step (.fresh a) mixed).1 =
          [.placed 0 10, .done, .placed 16 19, .done, .refused (.outOfSpace .ram 30 1 19 32),
            .done, .done, .refused (.invalidAlignment 3), .placed 12 14,
            .refused (.releaseOrder .ram 14 10), .done, .refused (.staleHandle .ram 14 0),
            .placed 0 5, .done] ∧
        Mirrors (run Session.step (.fresh a) mixed).2
          (run Stack.step (.fresh .ram 32) mixed).2 := by
  have few : mixed.count .reset < UInt32.size := by decide
  obtain ⟨a, built, answers, mirrors⟩ :=
    arena_is_stack ⟨1⟩ .ram 32 mixed (by decide) (by decide) few
  exact ⟨by decide, by decide, few, a, built, answers.trans (by decide), mirrors⟩

end TensorArena.Lifo
