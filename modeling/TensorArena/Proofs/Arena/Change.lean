import TensorArena.Proofs.Arena.Operation

/-!
What calls do to an arena.

Whatever its callers ask, an arena changes in five ways only: it issues a claim, takes the
most recent claim back, unwinds to a mark, has bytes written into a live claim, or counts
an opened scope. Resetting is the sixth and stands apart because it begins a new epoch.
`Arena.Change` says this once, and `perform_changes` reduces every call to it, so that
facts about runs follow by cases on `Change` and never open a call again.

A release and an unwinding are the two changes that discard issue numbers. A `Discard`
records which, and `Arena.discards` lists the discards of a call.
-/

namespace TensorArena

/-! ### What callers hold -/

/-- What an arena gives to its callers: a claim or a remembered state. -/
inductive Token where
  | handle (h : Handle)
  | mark (m : Mark)
deriving DecidableEq, Repr

/-- The arena that issued a token. -/
def Token.arena : Token → ArenaId
  | .handle h => h.arena
  | .mark m => m.arena

/-- The tokens that a scope keeps. -/
def Scope.tokens (s : Scope) : List Token := .mark s.mark :: s.handles.map .handle

/-- A slot names one of the scope's tokens. -/
theorem Scope.mem_tokens_of_resolve {s : Scope} {slot : Slot} {h : Handle}
    (resolved : s.resolve slot = .ok h) : Token.handle h ∈ s.tokens := by
  unfold resolve at resolved
  split at resolved
  · cases resolved
  · split at resolved
    · cases resolved
    · rename_i found
      cases resolved
      exact List.mem_cons_of_mem _ (List.mem_map_of_mem (List.mem_of_getElem? found))

/-! ### Discards -/

/-- One discard: the issue numbers from `first` up to the clock's reading `clock`, which
is no longer among them. -/
structure Arena.Discard where
  first : Nat
  clock : Nat
deriving DecidableEq, Repr

/-- The range after discards, given newest first. -/
def IssueRange.buryAll (i : IssueRange) : List Arena.Discard → IssueRange
  | [] => i
  | d :: older => (i.buryAll older).bury d.first d.clock

theorem IssueRange.buryAll_append (i : IssueRange) (newer older : List Arena.Discard) :
    i.buryAll (newer ++ older) = (i.buryAll older).buryAll newer := by
  induction newer with
  | nil => rfl
  | cons d rest ih => simp only [List.cons_append, buryAll, ih]

/-- A reading shows no discard whose numbers all come after it. -/
theorem IssueRange.discards_buryAll_of_le {i : IssueRange} {reading : Nat}
    {log : List Arena.Discard} (kept : i.discards reading = false)
    (above : ∀ d ∈ log, reading ≤ d.first) : (i.buryAll log).discards reading = false := by
  induction log with
  | nil => exact kept
  | cons d older ih =>
    exact discards_bury_of_le (ih fun e mem => above e (List.mem_cons_of_mem _ mem))
      (above d List.mem_cons_self)

namespace Arena

/-- The tokens that a call presents. A call in a scope presents those of the scope. -/
def Call.presents : Arena.Call → List Token
  | .release h => [.handle h]
  | .checkMark m => [.mark m]
  | .unwindTo m => [.mark m]
  | .bytes h => [.handle h]
  | .modify h _ => [.handle h]
  | .modifyPair h k _ => [.handle h, .handle k]
  | .inScope s _ => s.tokens
  | _ => []

/-- The tokens in the answer to a call. -/
def Call.yields : (c : Arena.Call) → c.Answer → List Token
  | .allocate _ _, .ok h => [.handle h]
  | .mark, m => [.mark m]
  | .openScope, s => s.tokens
  | .inScope _ (.allocate _ _), (_, s) => s.tokens
  | _, _ => []

/-- The call gives everything back. -/
def Call.isReset : Arena.Call → Bool
  | .reset => true
  | _ => false

/-! ### Calls that discard -/

/-- The discard of an unwinding, where there is one. -/
def unwindDiscards (a : Arena) (m : Mark) : List Discard :=
  match a.checkMark m with
  | .error _ => []
  | .ok () => [⟨m.clock, a.clock⟩]

/-- The discards of a call, newest first. Closing a scope by `finish` unwinds twice. -/
def discards (a : Arena) : Arena.Call → List Discard
  | .release h =>
    match (a.release h).1 with
    | .error _ => []
    | .ok () => [⟨h.stamp.seq, a.clock⟩]
  | .unwindTo m => a.unwindDiscards m
  | .inScope s .leave => a.unwindDiscards s.mark
  | .inScope s .finish => (s.leave a).unwindDiscards s.mark ++ a.unwindDiscards s.mark
  | _ => []

/-! ### Changes -/

variable {a b : Arena}

/-- One change of an arena by callers who present only tokens that satisfy `shown`, with
the discard that it makes. -/
inductive Change (shown : Token → Prop) (a : Arena) : List Discard → Arena → Prop where
  | claim {size align : Nat} {h : Handle} {b : Arena} :
      a.allocate size align = (.ok h, b) → Change shown a [] b
  | release {h : Handle} {b : Arena} : shown (.handle h) → a.release h = (.ok (), b) →
      Change shown a [⟨h.stamp.seq, a.clock⟩] b
  | unwind {m : Mark} {b : Arena} : shown (.mark m) → a.unwindTo m = (.ok (), b) →
      Change shown a [⟨m.clock, a.clock⟩] b
  | write {h : Handle} (bytes : Bytes) : shown (.handle h) → a.checkLive h = .ok () →
      Change shown a [] (a.write h bytes)
  | openScope : Change shown a [] { a with scopes := a.scopes + 1 }

/-- Any number of changes, with their discards, newest first. -/
inductive Changes (shown : Token → Prop) (a : Arena) : List Discard → Arena → Prop where
  | none : Changes shown a [] a
  | more {older newer : List Discard} {b c : Arena} : Changes shown a older b →
      Change shown b newer c → Changes shown a (newer ++ older) c

section Calls

variable {shown : Token → Prop}

theorem Change.changes {ds : List Discard} (change : Change shown a ds b) :
    Changes shown a ds b := by
  simpa using Changes.more .none change

theorem Changes.trans {older newer : List Discard} {c : Arena} (first : Changes shown a older b)
    (second : Changes shown b newer c) : Changes shown a (newer ++ older) c := by
  induction second with
  | none => exact first
  | more _ change ih => simpa using Changes.more ih change

theorem allocate_changes (a : Arena) (size align : Nat) :
    Changes shown a [] (a.allocate size align).2 := by
  cases done : a.allocate size align with
  | mk answer b =>
    cases answer with
    | error fault => exact allocate_error done ▸ .none
    | ok h => exact (Change.claim done).changes

theorem release_changes {h : Handle} (held : shown (.handle h)) :
    Changes shown a (a.discards (.release h)) (a.release h).2 := by
  cases done : a.release h with
  | mk answer b =>
    cases answer with
    | error fault =>
      simp only [discards, done]
      exact release_error done ▸ .none
    | ok =>
      simp only [discards, done]
      exact (Change.release held done).changes

theorem unwindTo_changes {m : Mark} (held : shown (.mark m)) :
    Changes shown a (a.unwindDiscards m) (a.unwindTo m).2 := by
  unfold unwindDiscards
  split
  · rename_i refused
    rw [unwindTo_error refused]
    exact .none
  · rename_i fits
    have done := unwindTo_ok_iff.mpr ⟨fits, rfl⟩
    rw [done]
    exact (Change.unwind held done).changes

theorem modify_changes {h : Handle} (change : Bytes → Bytes) (held : shown (.handle h)) :
    Changes shown a [] (a.modify h change).2 := by
  unfold modify bytes
  split
  · exact .none
  · rename_i before read
    split at read
    · cases read
    · rename_i live
      exact (Change.write _ held live).changes

theorem modifyPair_changes {h k : Handle} (change : Bytes → Bytes → Bytes × Bytes)
    (first : shown (.handle h)) (second : shown (.handle k)) :
    Changes shown a [] (a.modifyPair h k change).2 := by
  unfold modifyPair bytesPair
  split
  · exact .none
  · rename_i p q read
    split at read
    · cases read
    · rename_i liveFirst
      split at read
      · cases read
      · rename_i liveSecond
        -- Writing changes no level and no number, so the second handle is still live.
        exact .more (Change.write _ first liveFirst).changes (.write _ second liveSecond)

theorem performScope_changes (s : Scope) (c : Scope.Call) (held : ∀ t ∈ s.tokens, shown t) :
    Changes shown a (a.discards (.inScope s c)) (s.perform c a).2 := by
  have marked : shown (.mark s.mark) := held _ (List.mem_cons_self)
  cases c with
  | allocate size align =>
    have changes : Changes shown a [] (a.allocate size align).2 := allocate_changes a size align
    simp only [discards, Scope.perform, Scope.allocate]
    split <;> simp_all
  | bytes slot => exact .none
  | modify slot change =>
    simp only [discards, Scope.perform, Scope.modify]
    split
    · exact .none
    · rename_i h resolved
      exact modify_changes change (held _ (Scope.mem_tokens_of_resolve resolved))
  | modifyPair p q change =>
    simp only [discards, Scope.perform, Scope.modifyPair]
    split
    · exact .none
    · rename_i h first
      split
      · exact .none
      · rename_i k second
        exact modifyPair_changes change (held _ (Scope.mem_tokens_of_resolve first))
          (held _ (Scope.mem_tokens_of_resolve second))
  | used => exact .none
  | leave => exact unwindTo_changes marked
  | finish => exact (unwindTo_changes marked).trans (unwindTo_changes marked)

/-- Every call but a reset makes changes, with the tokens that it presents and with the
discards listed for it. -/
theorem perform_changes (a : Arena) (c : Arena.Call) (held : ∀ t ∈ c.presents, shown t)
    (kept : c.isReset = false) : Changes shown a (a.discards c) (a.perform c).2 := by
  cases c with
  | allocate size align => exact allocate_changes a size align
  | release h => exact release_changes (held _ List.mem_cons_self)
  | reset => simp [Call.isReset] at kept
  | unwindTo m => exact unwindTo_changes (held _ List.mem_cons_self)
  | modify h change => exact modify_changes change (held _ List.mem_cons_self)
  | modifyPair h k change =>
    exact modifyPair_changes change (held _ List.mem_cons_self)
      (held _ (List.mem_cons_of_mem _ List.mem_cons_self))
  | openScope => exact Change.openScope.changes
  | inScope s c => exact performScope_changes s c held
  | id => exact .none
  | pool => exact .none
  | capacity => exact .none
  | highWater => exact .none
  | peak => exact .none
  | mark => exact .none
  | checkMark m => exact .none
  | bytes h => exact .none

/-- A token in an answer was presented with the call, or is the present mark, or is the
handle of a new claim. -/
theorem yields_cases (a : Arena) (c : Arena.Call) {t : Token}
    (yielded : t ∈ c.yields (a.perform c).1) :
    t ∈ c.presents ∨ t = .mark a.mark ∨
      ∃ size align h, a.allocate size align = (.ok h, (a.perform c).2) ∧ t = .handle h := by
  cases c with
  | allocate size align =>
    simp only [perform] at yielded ⊢
    cases done : a.allocate size align with
    | mk answer b =>
      cases answer with
      | error fault => simp [done, Call.yields] at yielded
      | ok h =>
        rw [done] at yielded
        exact .inr (.inr ⟨size, align, h, done, List.mem_singleton.mp yielded⟩)
  | mark => exact .inr (.inl (List.mem_singleton.mp yielded))
  | openScope => exact .inr (.inl (List.mem_singleton.mp yielded))
  | inScope s c =>
    cases c with
    | allocate size align =>
      simp only [perform, Scope.perform, Scope.allocate, Call.yields] at yielded
      cases done : a.allocate size align with
      | mk answer b =>
        cases answer with
        | error fault => exact .inl (by simpa only [Call.presents, done] using yielded)
        | ok h =>
          simp only [done, Scope.tokens, List.map_append, List.map_cons, List.map_nil,
            ← List.cons_append, List.mem_append, List.mem_singleton] at yielded
          rcases yielded with kept | new
          · exact .inl kept
          · exact .inr (.inr ⟨size, align, h, by simp only [perform, Scope.perform,
              Scope.allocate, done], new⟩)
    | _ => cases yielded
  | _ => cases yielded

/-! ### What changes keep -/

variable {c : Arena} {log : List Discard}

/-- What `b` has in common with `a` after changes that made the discards `log`: it is the
same arena in the same epoch, and its range is `a`'s with the discards added, all of which
happened since. -/
structure Continues (a : Arena) (log : List Discard) (b : Arena) : Prop where
  id : b.id = a.id
  pool : b.pool = a.pool
  capacity : b.capacity = a.capacity
  epoch : b.epoch = a.epoch
  clock : a.clock ≤ b.clock
  dead : b.dead = a.dead.buryAll log
  since : ∀ d ∈ log, a.clock ≤ d.clock

theorem Continues.trans {newer : List Discard} (first : Continues a log b)
    (second : Continues b newer c) : Continues a (newer ++ log) c where
  id := second.id.trans first.id
  pool := second.pool.trans first.pool
  capacity := second.capacity.trans first.capacity
  epoch := second.epoch.trans first.epoch
  clock := Nat.le_trans first.clock second.clock
  dead := by rw [second.dead, first.dead, IssueRange.buryAll_append]
  since d mem := by
    rcases List.mem_append.mp mem with new | old
    · exact Nat.le_trans first.clock (second.since d new)
    · exact first.since d old

theorem allocate_continues {size align : Nat} {h : Handle}
    (done : a.allocate size align = (.ok h, b)) : Continues a [] b := by
  obtain ⟨-, -, -, rfl⟩ := allocate_ok done
  exact ⟨rfl, rfl, rfl, rfl, Nat.le_succ _, rfl, by simp⟩

theorem release_continues {h : Handle} (done : a.release h = (.ok (), b)) :
    Continues a [⟨h.stamp.seq, a.clock⟩] b := by
  obtain ⟨-, -, rfl⟩ := release_ok_iff.mp done
  exact ⟨rfl, rfl, rfl, rfl, Nat.le_succ _, rfl, by simp⟩

theorem unwindTo_continues {m : Mark} (done : a.unwindTo m = (.ok (), b)) :
    Continues a [⟨m.clock, a.clock⟩] b := by
  obtain ⟨-, rfl⟩ := unwindTo_ok_iff.mp done
  exact ⟨rfl, rfl, rfl, rfl, Nat.le_succ _, rfl, by simp⟩

theorem openScope_continues (a : Arena) : Continues a [] { a with scopes := a.scopes + 1 } :=
  ⟨rfl, rfl, rfl, rfl, Nat.le_refl _, rfl, by simp⟩

theorem Change.continues (change : Change shown a log b) : Continues a log b := by
  cases change with
  | claim done => exact allocate_continues done
  | release _ done => exact release_continues done
  | unwind _ done => exact unwindTo_continues done
  | write bytes _ _ =>
    exact ⟨rfl, rfl, Buffer.size_write _ _ _, rfl, Nat.le_refl _, rfl, by simp⟩
  | openScope => exact openScope_continues a

theorem Changes.continues (changes : Changes shown a log b) : Continues a log b := by
  induction changes with
  | none => exact ⟨rfl, rfl, rfl, rfl, Nat.le_refl _, rfl, by simp⟩
  | more _ change ih => exact ih.trans change.continues

theorem perform_continues (a : Arena) (c : Arena.Call) (kept : c.isReset = false) :
    Continues a (a.discards c) (a.perform c).2 := by
  have changes : Changes (fun _ => True) a (a.discards c) (a.perform c).2 :=
    perform_changes a c (fun _ _ => trivial) kept
  exact changes.continues

/-- A call leaves the arena's number, its capacity and its past as they were. -/
theorem perform_keeps (a : Arena) (c : Arena.Call) :
    (a.perform c).2.id = a.id ∧ (a.perform c).2.capacity = a.capacity ∧
      a.clock ≤ (a.perform c).2.clock := by
  cases reset : c.isReset with
  | true =>
    cases c <;> simp only [Call.isReset, reduceCtorEq] at reset
    exact ⟨rfl, rfl, Nat.le_refl _⟩
  | false =>
    have continues := perform_continues a c reset
    exact ⟨continues.id, continues.capacity, continues.clock⟩

end Calls

end Arena

end TensorArena
