import Mathlib.Logic.Function.Basic
import TensorArena.Proofs.Workspace.Refusal

/-!
Many arenas, called directly and through contexts.

A fleet is any number of arenas together with any number of contexts, each installed over a
pair of them. Operations come in any order: a call of one arena, an operation of a context,
which reaches the arena installed for the pool that it asks for, or the installation of another
pair. What an operation asks of one arena and is answered there is that arena's part of it
(`Fleet.part`), and the parts of a run are all that an arena notices of it: called alone, in the
same order, the arena gives the same answers and ends in the same state.

Tokens cross between arenas freely. An arena knows its own by its number and refuses every
other, so a token shown to an arena that did not issue it ends the operation and changes
nothing. Where an operation shows two tokens they are checked in order, and the answer is the
first refusal, which may be that of an arena's own stale token shown before the foreign one.
-/

namespace TensorArena

theorem eq_of_singleton_eq {α : Type} {x y : α} {before after : List α}
    (one : [x] = before ++ y :: after) : before = [] ∧ x = y ∧ after = [] := by
  cases before with
  | nil =>
    obtain ⟨same, last⟩ := List.cons.inj one
    exact ⟨rfl, same, last.symm⟩
  | cons z rest => simp at one

/-! ### One arena alone -/

namespace Arena

/-- A call with its answer. -/
structure Exchange where
  call : Arena.Call
  answer : call.Answer

/-- The tokens that callers hold after an exchange and did not show in it. What a scope claims
stays in the scope. -/
def Exchange.issued : Exchange → List Token
  | ⟨.allocate _ _, .ok h⟩ => [.handle h]
  | ⟨.mark, m⟩ => [.mark m]
  | _ => []

/-- An arena takes calls in turn. -/
def converse : Arena → List Arena.Call → List Exchange × Arena
  | a, [] => ([], a)
  | a, c :: rest =>
    let done := a.perform c
    let later := done.2.converse rest
    (⟨c, done.1⟩ :: later.1, later.2)

/-- The tokens that a call checks, in order. A scope checks those it claimed itself. -/
def Call.checks : Arena.Call → List Token
  | .inScope _ _ => []
  | c => c.presents

/-- The fault in an answer that is a refusal. -/
def Call.fault? : (c : Arena.Call) → c.Answer → Option Fault
  | .allocate _ _, .error fault => some fault
  | .release _, .error fault => some fault
  | .checkMark _, .error fault => some fault
  | .unwindTo _, .error fault => some fault
  | .bytes _, .error fault => some fault
  | .modify _ _, .error fault => some fault
  | .modifyPair _ _ _, .error fault => some fault
  | _, _ => none

/-- Whether an arena can use a token. -/
def check (a : Arena) : Token → Except Fault Unit
  | .handle h => a.checkLive h
  | .mark m => a.checkMark m

variable {a b : Arena} {t : Token}

/-- Conversations with one arena are held one after the other. -/
theorem converse_append (a : Arena) (first second : List Arena.Call) :
    a.converse (first ++ second) =
      ((a.converse first).1 ++ ((a.converse first).2.converse second).1,
        ((a.converse first).2.converse second).2) := by
  induction first generalizing a with
  | nil => rfl
  | cons c rest ih => simp only [List.cons_append, converse, ih]

/-- An arena puts its number into what it issues. -/
theorem arena_of_issued {c : Arena.Call} (issued : t ∈ Exchange.issued ⟨c, (a.perform c).1⟩) :
    t.arena = a.id := by
  cases c with
  | allocate size align =>
    cases done : a.allocate size align with
    | mk answer b =>
      simp only [perform, done] at issued
      cases answer with
      | error fault => cases issued
      | ok h =>
        obtain ⟨-, -, rfl, -⟩ := allocate_ok done
        rw [List.mem_singleton.mp issued]
        rfl
  | mark =>
    rw [List.mem_singleton.mp issued]
    rfl
  | _ => cases issued

theorem id_converse (a : Arena) (calls : List Arena.Call) : (a.converse calls).2.id = a.id := by
  induction calls generalizing a with
  | nil => rfl
  | cons c rest ih => exact (ih _).trans (perform_keeps a c).1

/-- Whatever is exchanged with an arena is exchanged with some state of it. -/
theorem exists_of_mem_converse {calls : List Arena.Call} {e : Exchange}
    (spoken : e ∈ (a.converse calls).1) :
    ∃ (b : Arena) (c : Arena.Call), b.id = a.id ∧ e = ⟨c, (b.perform c).1⟩ := by
  induction calls generalizing a with
  | nil => cases spoken
  | cons c rest ih =>
    rcases List.mem_cons.mp spoken with rfl | later
    · exact ⟨a, c, rfl, rfl⟩
    · obtain ⟨b, d, id, same⟩ := ih later
      exact ⟨b, d, id.trans (perform_keeps a c).1, same⟩

theorem checkLive_foreign {h : Handle} (foreign : h.arena ≠ a.id) :
    a.checkLive h = .error (.foreign a.pool) := by
  simp only [checkLive, checkIssued, foreign, ne_eq, not_false_eq_true, if_true]

theorem checkMark_foreign {m : Mark} (foreign : m.arena ≠ a.id) :
    a.checkMark m = .error (.foreign a.pool) := by
  simp only [checkMark, foreign, ne_eq, not_false_eq_true, if_true]

theorem bytes_foreign {h : Handle} (foreign : h.arena ≠ a.id) :
    a.bytes h = .error (.foreign a.pool) := by
  simp only [bytes, checkLive_foreign foreign]

/-- The pair's first refusal is its answer. -/
theorem bytesPair_foreign {h k : Handle} (foreign : k.arena ≠ a.id) :
    ∃ fault, a.bytesPair h k = .error fault ∧
      (fault = .foreign a.pool ∨ a.checkLive h = .error fault) := by
  unfold bytesPair
  cases first : a.checkLive h with
  | error fault => exact ⟨fault, rfl, .inr rfl⟩
  | ok =>
    rw [checkLive_foreign foreign]
    exact ⟨_, rfl, .inl rfl⟩

/-- A call that checks a foreign token is refused, for that reason unless a token before it was
refused, and changes nothing. -/
theorem perform_foreign {c : Arena.Call} {before after : List Token}
    (checks : c.checks = before ++ t :: after) (foreign : t.arena ≠ a.id) :
    (a.perform c).2 = a ∧ ∃ fault, c.fault? (a.perform c).1 = some fault ∧
      (fault = .foreign a.pool ∨ ∃ s ∈ before, a.check s = .error fault) := by
  cases c with
  | release h =>
    obtain ⟨rfl, rfl, -⟩ := eq_of_singleton_eq checks
    have issued : a.checkIssued h = .error (.foreign a.pool) := if_pos foreign
    have refused : a.release h = (.error (.foreign a.pool), a) := by simp only [release, issued]
    rw [perform, refused]
    exact ⟨rfl, _, rfl, .inl rfl⟩
  | checkMark m =>
    obtain ⟨rfl, rfl, -⟩ := eq_of_singleton_eq checks
    rw [perform, checkMark_foreign foreign]
    exact ⟨rfl, _, rfl, .inl rfl⟩
  | unwindTo m =>
    obtain ⟨rfl, rfl, -⟩ := eq_of_singleton_eq checks
    rw [perform, unwindTo_error (checkMark_foreign foreign)]
    exact ⟨rfl, _, rfl, .inl rfl⟩
  | bytes h =>
    obtain ⟨rfl, rfl, -⟩ := eq_of_singleton_eq checks
    rw [perform, bytes_foreign foreign]
    exact ⟨rfl, _, rfl, .inl rfl⟩
  | modify h change =>
    obtain ⟨rfl, rfl, -⟩ := eq_of_singleton_eq checks
    rw [perform, modify, bytes_foreign foreign]
    exact ⟨rfl, _, rfl, .inl rfl⟩
  | modifyPair h k change =>
    have pair : ∃ fault, a.bytesPair h k = .error fault ∧
        (fault = .foreign a.pool ∨ ∃ s ∈ before, a.check s = .error fault) := by
      cases before with
      | nil =>
        obtain ⟨rfl, -⟩ := List.cons.inj checks
        refine ⟨_, ?_, .inl rfl⟩
        simp only [bytesPair, checkLive_foreign foreign]
      | cons s rest =>
        obtain ⟨rfl, last⟩ := List.cons.inj checks
        obtain ⟨rfl, rfl, -⟩ := eq_of_singleton_eq last
        obtain ⟨fault, refused, why⟩ := bytesPair_foreign (h := h) foreign
        refine ⟨fault, refused, why.imp_right fun first => ?_⟩
        exact ⟨_, List.mem_singleton_self _, first⟩
    obtain ⟨fault, refused, why⟩ := pair
    rw [perform, modifyPair, refused]
    exact ⟨rfl, fault, rfl, why⟩
  | _ => simp [Call.checks, Call.presents] at checks

end Arena

/-! ### An installed pair -/

namespace Workspace

/-- What callers ask of a context. Whatever it lends out of one of its arenas is asked of that
arena (`on`). -/
inductive Call where
  | on (p : Pool) (c : Arena.Call)
  | allocate (p : Pool) (size align : Nat)
  | release (h : Handle)
  | bytes (h : Handle)
  | modify (h : Handle) (change : Bytes → Bytes)
  | mark
  | unwindTo (m : PerPool Mark)
  | resetAll
  | usage
  | peak
  | capacities

/-- The answer to an operation of a context. -/
abbrev Call.Answer : Workspace.Call → Type
  | .on _ c => c.Answer
  | .allocate _ _ _ => Except Arena.Fault Handle
  | .release _ => Except Arena.Fault Unit
  | .bytes _ => Except Arena.Fault Bytes
  | .modify _ _ => Except Arena.Fault Bytes
  | .mark => PerPool Mark
  | .unwindTo _ => Except Arena.Fault Unit
  | .resetAll => Unit
  | .usage => PerPool Nat
  | .peak => PerPool Nat
  | .capacities => PerPool Nat

/-- Carry out an operation of a context. -/
def serve (w : Workspace) : (c : Workspace.Call) → c.Answer × Workspace
  | .on p c => w.perform p c
  | .allocate p size align => w.allocate p size align
  | .release h => w.release h
  | .bytes h => (w.bytes h, w)
  | .modify h change => w.modify h change
  | .mark => (w.mark, w)
  | .unwindTo m => w.unwindTo m
  | .resetAll => ((), w.resetAll)
  | .usage => (w.usage, w)
  | .peak => (w.peak, w)
  | .capacities => (w.capacities, w)

/-- What an answered operation was for the arena of `p`: the same operation there, where its
pool is `p`, and for an operation on both pools its half. A refused unwinding is none. -/
def Call.part : (c : Workspace.Call) → c.Answer → Pool → List Arena.Exchange
  | .on q c, answer, p => if p = q then [⟨c, answer⟩] else []
  | .allocate q size align, answer, p => if p = q then [⟨.allocate size align, answer⟩] else []
  | .release h, answer, p => if p = h.pool then [⟨.release h, answer⟩] else []
  | .bytes h, answer, p => if p = h.pool then [⟨.bytes h, answer⟩] else []
  | .modify h change, answer, p => if p = h.pool then [⟨.modify h change, answer⟩] else []
  | .mark, m, p => [⟨.mark, m.get p⟩]
  | .unwindTo m, .ok (), p => [⟨.unwindTo (m.get p), .ok ()⟩]
  | .unwindTo _, .error _, _ => []
  | .resetAll, (), _ => [⟨.reset, ()⟩]
  | .usage, levels, p => [⟨.highWater, levels.get p⟩]
  | .peak, levels, p => [⟨.peak, levels.get p⟩]
  | .capacities, sizes, p => [⟨.capacity, sizes.get p⟩]

/-- The tokens that an operation checks, with the pools in which it looks for them, in order. -/
def Call.checks : Workspace.Call → List (Pool × Token)
  | .on p c => c.checks.map fun t => (p, t)
  | .release h => [(h.pool, .handle h)]
  | .bytes h => [(h.pool, .handle h)]
  | .modify h _ => [(h.pool, .handle h)]
  | .unwindTo m => Pool.all.map fun p => (p, .mark (m.get p))
  | _ => []

/-- The fault in an answer that is a refusal. -/
def Call.fault? : (c : Workspace.Call) → c.Answer → Option Arena.Fault
  | .on _ c, answer => c.fault? answer
  | .allocate _ size align, answer => Arena.Call.fault? (.allocate size align) answer
  | .release h, answer => Arena.Call.fault? (.release h) answer
  | .bytes h, answer => Arena.Call.fault? (.bytes h) answer
  | .modify h change, answer => Arena.Call.fault? (.modify h change) answer
  | .unwindTo _, .error fault => some fault
  | _, _ => none

variable {w : Workspace}

/-- A call of one arena is answered by that arena, and the other does not notice it. -/
theorem converse_perform (w : Workspace) (q : Pool) (c : Arena.Call) (p : Pool) :
    let part : List Arena.Exchange := if p = q then [⟨c, (w.perform q c).1⟩] else []
    (w.arena p).converse (part.map (·.call)) = (part, (w.perform q c).2.arena p) := by
  intro part
  by_cases here : p = q
  · subst here
    simp only [part, if_true, arena_perform_self]
    rfl
  · simp only [part, if_neg here, arena_perform_of_ne w c here]
    rfl

/-- **What an operation of a context is for one of its arenas**: called alone with its part, the
arena gives the same answers and comes to the same state. -/
theorem converse_part (w : Workspace) (c : Workspace.Call) (p : Pool) :
    (w.arena p).converse ((c.part (w.serve c).1 p).map (·.call)) =
      (c.part (w.serve c).1 p, (w.serve c).2.arena p) := by
  cases c with
  | on q c => exact w.converse_perform q c p
  | allocate q size align => exact w.converse_perform q (.allocate size align) p
  | release h => exact w.converse_perform h.pool (.release h) p
  | modify h change => exact w.converse_perform h.pool (.modify h change) p
  | bytes h =>
    by_cases here : p = h.pool
    · subst here
      simp only [Call.part, if_true]
      rfl
    · simp only [Call.part, if_neg here]
      rfl
  | mark =>
    simp only [Call.part, serve, Workspace.mark, PerPool.get_map]
    rfl
  | usage =>
    simp only [Call.part, serve, Workspace.usage, PerPool.get_map]
    rfl
  | peak =>
    simp only [Call.part, serve, Workspace.peak, PerPool.get_map]
    rfl
  | capacities =>
    simp only [Call.part, serve, Workspace.capacities, PerPool.get_map]
    rfl
  | resetAll => cases p <;> rfl
  | unwindTo m =>
    by_cases recalls : w.Recalls m
    · obtain ⟨v, done, -, moved⟩ := unwindTo_of_recalls recalls
      have answer : ((w.arena p).unwindTo (m.get p)).1 = .ok () :=
        (Arena.unwindTo_of_checkMark (recalls p)).1
      simp only [serve, done, Call.part, List.map_cons, List.map_nil, Arena.converse,
        Arena.perform, answer, moved]
    · obtain ⟨-, fault, -, refused⟩ := unwindTo_of_not_recalls recalls
      simp only [serve, refused, Call.part, List.map_nil, Arena.converse]

/-- A call of one arena that checks a foreign token is refused and changes neither arena. -/
theorem perform_foreign {p : Pool} {c : Arena.Call} {t : Token} {before after : List Token}
    (checks : c.checks = before ++ t :: after) (foreign : t.arena ≠ (w.arena p).id) :
    (w.perform p c).2 = w ∧ ∃ fault, c.fault? (w.perform p c).1 = some fault ∧
      (fault = .foreign p ∨ ∃ s ∈ before, (w.arena p).check s = .error fault) := by
  obtain ⟨kept, fault, refused, why⟩ := Arena.perform_foreign checks foreign
  refine ⟨eq_of_arena fun q => ?_, fault, refused, ?_⟩
  · by_cases here : q = p
    · subst here
      rw [arena_perform_self, kept]
    · exact arena_perform_of_ne w c here
  · rwa [w.pool_arena] at why

/-- A foreign mark is not unwound to, in either pool. -/
theorem unwindTo_foreign {m : PerPool Mark} {p : Pool} {t : Token}
    {before after : List (Pool × Token)}
    (checks : (Call.unwindTo m).checks = before ++ (p, t) :: after)
    (foreign : t.arena ≠ (w.arena p).id) :
    (w.unwindTo m).2 = w ∧
      ∃ fault, (Call.unwindTo m).fault? (w.unwindTo m).1 = some fault ∧
        (fault = .foreign p ∨ ∃ e ∈ before, (w.arena e.1).check e.2 = .error fault) := by
  have off {p : Pool} {m : Mark} (foreign : m.arena ≠ (w.arena p).id) :
      (w.arena p).checkMark m = .error (.foreign p) := by
    rw [Arena.checkMark_foreign foreign, w.pool_arena]
  cases before with
  | nil =>
    obtain ⟨same, -⟩ := List.cons.inj checks
    obtain ⟨rfl, rfl⟩ := Prod.mk.inj same
    have refused : (w.arena .metadata).checkMark m.metadata = .error (.foreign .metadata) :=
      off foreign
    simp only [unwindTo, refused]
    exact ⟨trivial, _, rfl, .inl rfl⟩
  | cons e rest =>
    obtain ⟨rfl, last⟩ := List.cons.inj checks
    obtain ⟨rfl, same, -⟩ := eq_of_singleton_eq last
    obtain ⟨rfl, rfl⟩ := Prod.mk.inj same
    have refused : (w.arena .ram).checkMark m.ram = .error (.foreign .ram) := off foreign
    cases first : (w.arena .metadata).checkMark m.metadata with
    | error fault =>
      simp only [unwindTo, first]
      exact ⟨trivial, fault, rfl, .inr ⟨_, List.mem_singleton_self _, first⟩⟩
    | ok =>
      simp only [unwindTo, first, refused]
      exact ⟨trivial, _, rfl, .inl rfl⟩

/-- An operation of a context that checks a foreign token is refused, for that reason unless a
token before it was refused, and changes neither arena. -/
theorem serve_foreign {c : Workspace.Call} {p : Pool} {t : Token}
    {before after : List (Pool × Token)} (checks : c.checks = before ++ (p, t) :: after)
    (foreign : t.arena ≠ (w.arena p).id) :
    (w.serve c).2 = w ∧ ∃ fault, c.fault? (w.serve c).1 = some fault ∧
      (fault = .foreign p ∨ ∃ e ∈ before, (w.arena e.1).check e.2 = .error fault) := by
  -- An operation on a handle is the arena's own, which checks the handle alone.
  have alone : ∀ (h : Handle) (c : Arena.Call), c.checks = [.handle h] →
      [(h.pool, Token.handle h)] = before ++ (p, t) :: after →
      (w.perform h.pool c).2 = w ∧ ∃ fault, c.fault? (w.perform h.pool c).1 = some fault ∧
        (fault = .foreign p ∨ ∃ e ∈ before, (w.arena e.1).check e.2 = .error fault) := by
    intro h c handle shown
    obtain ⟨rfl, same, -⟩ := eq_of_singleton_eq shown
    obtain ⟨rfl, rfl⟩ := Prod.mk.inj same
    have first : c.checks = [] ++ Token.handle h :: [] := handle
    obtain ⟨kept, fault, refused, why⟩ := w.perform_foreign first foreign
    refine ⟨kept, fault, refused, why.imp_right ?_⟩
    rintro ⟨s, nobody, _⟩
    cases nobody
  cases c with
  | on q c =>
    obtain ⟨first, rest, all, rfl, shown⟩ := List.map_eq_append_iff.mp checks
    obtain ⟨s, later, rfl, same, rfl⟩ := List.map_eq_cons_iff.mp shown
    obtain ⟨rfl, rfl⟩ := Prod.mk.inj same
    obtain ⟨kept, fault, refused, why⟩ := w.perform_foreign all foreign
    refine ⟨kept, fault, refused, why.imp_right ?_⟩
    rintro ⟨s, mem, own⟩
    exact ⟨(q, s), List.mem_map_of_mem mem, own⟩
  | release h => exact alone h (.release h) rfl checks
  | modify h change => exact alone h (.modify h change) rfl checks
  | bytes h => exact ⟨rfl, (alone h (.bytes h) rfl checks).2⟩
  | unwindTo m =>
    exact unwindTo_foreign checks foreign
  | _ => cases before <;> cases checks

end Workspace

/-! ### Fleets -/

/-- Arenas, and contexts that are each installed over a pair of them. A context that is opened
later is one that nobody asks anything of until then. -/
structure Fleet (ι κ : Type) where
  arena : ι → Arena
  installed : κ → PerPool ι
  serves : ∀ k p, (arena ((installed k).get p)).pool = p

namespace Fleet

/-- One operation on a fleet. -/
inductive Op (ι κ : Type) where
  | direct (i : ι) (c : Arena.Call)
  | through (k : κ) (c : Workspace.Call)
  | install (k : κ) (pair : PerPool ι)

/-- The answer to an operation. -/
abbrev Op.Answer {ι κ : Type} : Op ι κ → Type
  | .direct _ c => c.Answer
  | .through _ c => c.Answer
  | .install _ _ => Except Arena.Fault Unit

/-- The fault in an answer that is a refusal. -/
def Op.fault? {ι κ : Type} : (op : Op ι κ) → op.Answer → Option Arena.Fault
  | .direct _ c, answer => c.fault? answer
  | .through _ c, answer => c.fault? answer
  | .install _ _, .error fault => some fault
  | .install _ _, .ok () => none

variable {ι κ : Type} {f g : Fleet ι κ} {i : ι} {k : κ}

section Operations

variable (f : Fleet ι κ)

/-- The pair of arenas that a context is installed over. -/
def workspace (k : κ) : Workspace where
  arenas := (f.installed k).map f.arena
  serves p := by
    rw [PerPool.get_map]
    exact f.serves k p

/-- A context has the arena installed, in the pool that the arena serves. -/
def Holds (k : κ) (i : ι) : Prop := (f.installed k).get (f.arena i).pool = i

variable [DecidableEq ι] [DecidableEq κ]

instance (k : κ) (i : ι) : Decidable (f.Holds k i) :=
  inferInstanceAs (Decidable ((f.installed k).get (f.arena i).pool = i))

/-- The fleet with other states of the two arenas of a context. -/
def put (k : κ) (w : Workspace) : Fleet ι κ where
  arena i := if f.Holds k i then w.arena (f.arena i).pool else f.arena i
  installed := f.installed
  serves l p := by
    split
    · rw [w.pool_arena]
      exact f.serves l p
    · exact f.serves l p

/-- The fleet after a call of one arena. -/
def call (i : ι) (c : Arena.Call) : Fleet ι κ where
  arena := Function.update f.arena i ((f.arena i).perform c).2
  installed := f.installed
  serves k p := by
    by_cases here : (f.installed k).get p = i
    · have serves := f.serves k p
      rw [here] at serves
      rw [here, Function.update_self, Arena.pool_perform, serves]
    · rw [Function.update_of_ne here]
      exact f.serves k p

/-- The fleet with a context installed over another pair. -/
def reinstall (k : κ) (pair : PerPool ι) (serves : ∀ p, (f.arena (pair.get p)).pool = p) :
    Fleet ι κ where
  arena := f.arena
  installed := Function.update f.installed k pair
  serves l p := by
    by_cases here : l = k
    · rw [here, Function.update_self]
      exact serves p
    · rw [Function.update_of_ne here]
      exact f.serves l p

/-- Carry out an operation. -/
def perform : (op : Op ι κ) → op.Answer × Fleet ι κ
  | .direct i c => (((f.arena i).perform c).1, f.call i c)
  | .through k c =>
    let done := (f.workspace k).serve c
    (done.1, f.put k done.2)
  | .install k pair =>
    match installed : Workspace.install (f.arena pair.metadata) (f.arena pair.ram) with
    | .error fault => (.error fault, f)
    | .ok _ => (.ok (), f.reinstall k pair (by
        obtain ⟨metadata, ram, -⟩ := Workspace.install_ok_iff.mp installed
        intro p
        cases p with
        | metadata => exact metadata
        | ram => exact ram))

/-- What an answered operation was for one arena. Installing is nothing to any arena. -/
def part : (op : Op ι κ) → op.Answer → ι → List Arena.Exchange
  | .direct j c, answer, i => if i = j then [⟨c, answer⟩] else []
  | .through k c, answer, i => if f.Holds k i then c.part answer (f.arena i).pool else []
  | .install _ _, _, _ => []

/-- The tokens that an operation checks, each with the arena that checks it, in order. -/
def checks : Op ι κ → List (ι × Token)
  | .direct i c => c.checks.map fun t => (i, t)
  | .through k c => c.checks.map fun e => ((f.installed k).get e.1, e.2)
  | .install _ _ => []

end Operations

theorem eq_of_fields (arena : f.arena = g.arena) (installed : f.installed = g.installed) :
    f = g := by
  cases f
  cases g
  cases arena
  cases installed
  rfl

/-- A context shows the arenas that it is installed over. -/
theorem arena_workspace (f : Fleet ι κ) (k : κ) (p : Pool) :
    (f.workspace k).arena p = f.arena ((f.installed k).get p) := PerPool.get_map _ _ _

variable [DecidableEq ι] [DecidableEq κ]

/-- The fleet after operations. -/
def run (f : Fleet ι κ) : List (Op ι κ) → Fleet ι κ
  | [] => f
  | op :: rest => (f.perform op).2.run rest

/-- What a run was for one arena. -/
def share (f : Fleet ι κ) : List (Op ι κ) → ι → List Arena.Exchange
  | [], _ => []
  | op :: rest, i => f.part op (f.perform op).1 i ++ (f.perform op).2.share rest i

/-- The tokens that an arena issued in a run. -/
def issued (f : Fleet ι κ) (ops : List (Op ι κ)) (i : ι) : List Token :=
  (f.share ops i).flatMap Arena.Exchange.issued

/-- Callers show what some arena issued earlier in the run. -/
def Honest (f : Fleet ι κ) (ops : List (Op ι κ)) : Prop :=
  ∀ earlier op later, ops = earlier ++ op :: later →
    ∀ e ∈ (f.run earlier).checks op, ∃ j, e.2 ∈ f.issued earlier j

/-! ### One operation -/

omit [DecidableEq κ] in
theorem put_workspace (f : Fleet ι κ) (k : κ) : f.put k (f.workspace k) = f := by
  refine eq_of_fields (funext fun i => ?_) rfl
  by_cases holds : f.Holds k i
  · exact (if_pos holds).trans ((f.arena_workspace k _).trans (congrArg f.arena holds))
  · exact if_neg holds

/-- **What an operation is for one arena**: called alone with its part, the arena gives the same
answers and comes to the same state. -/
theorem converse_part (f : Fleet ι κ) (op : Op ι κ) (i : ι) :
    (f.arena i).converse ((f.part op (f.perform op).1 i).map (·.call)) =
      (f.part op (f.perform op).1 i, (f.perform op).2.arena i) := by
  cases op with
  | direct j c =>
    by_cases here : i = j
    · subst here
      simp only [part, perform, call, if_true, Function.update_self]
      rfl
    · simp only [part, perform, call, if_neg here, Function.update_of_ne here]
      rfl
  | through k c =>
    by_cases holds : f.Holds k i
    · have whole := (f.workspace k).converse_part c (f.arena i).pool
      rw [arena_workspace, show (f.installed k).get (f.arena i).pool = i from holds] at whole
      simp only [part, perform, put, if_pos holds]
      exact whole
    · simp only [part, perform, put, if_neg holds]
      rfl
  | install k pair =>
    simp only [part, perform, List.map_nil, Arena.converse]
    split <;> rfl

/-- A foreign token ends the operation that shows it, and nothing changes. -/
theorem perform_foreign {op : Op ι κ} {t : Token} {before after : List (ι × Token)}
    (checks : f.checks op = before ++ (i, t) :: after) (foreign : t.arena ≠ (f.arena i).id) :
    (f.perform op).2 = f ∧ ∃ fault, op.fault? (f.perform op).1 = some fault ∧
      (fault = .foreign (f.arena i).pool ∨
        ∃ e ∈ before, (f.arena e.1).check e.2 = .error fault) := by
  cases op with
  | direct j c =>
    obtain ⟨first, rest, all, rfl, shown⟩ := List.map_eq_append_iff.mp checks
    obtain ⟨s, later, rfl, same, rfl⟩ := List.map_eq_cons_iff.mp shown
    obtain ⟨rfl, rfl⟩ := Prod.mk.inj same
    obtain ⟨kept, fault, refused, why⟩ := Arena.perform_foreign all foreign
    refine ⟨eq_of_fields ?_ rfl, fault, refused, why.imp_right ?_⟩
    · show Function.update f.arena j ((f.arena j).perform c).2 = f.arena
      rw [kept, Function.update_eq_self]
    · rintro ⟨s, mem, own⟩
      exact ⟨(j, s), List.mem_map_of_mem mem, own⟩
  | through k c =>
    obtain ⟨first, rest, all, rfl, shown⟩ := List.map_eq_append_iff.mp checks
    obtain ⟨⟨p, s⟩, later, rfl, same, rfl⟩ := List.map_eq_cons_iff.mp shown
    obtain ⟨rfl, rfl⟩ := Prod.mk.inj same
    rw [← f.arena_workspace k p] at foreign
    obtain ⟨kept, fault, refused, why⟩ := Workspace.serve_foreign all foreign
    refine ⟨?_, fault, refused, ?_⟩
    · rw [perform, kept, put_workspace]
    · rw [f.serves k p]
      refine why.imp_right ?_
      rintro ⟨e, mem, own⟩
      exact ⟨_, List.mem_map_of_mem mem, by rwa [arena_workspace] at own⟩
  | install k pair => cases before <;> cases checks

/-- A context is unwound in both pools, or is refused. -/
theorem unwindTo_ok_iff (f : Fleet ι κ) (k : κ) (m : PerPool Mark) :
    (f.perform (.through k (.unwindTo m))).1 = .ok () ↔
      ∀ p, (f.arena ((f.installed k).get p)).checkMark (m.get p) = .ok () := by
  simp only [← arena_workspace]
  constructor
  · intro done
    by_contra off
    obtain ⟨-, fault, -, refused⟩ := Workspace.unwindTo_of_not_recalls off
    have answer : ((f.workspace k).unwindTo m).1 = .ok () := done
    rw [refused] at answer
    cases answer
  · intro both
    obtain ⟨v, done, -⟩ := Workspace.unwindTo_of_recalls both
    exact congrArg Prod.fst done

/-! ### Every run -/

/-- An arena alone goes through its share of a run as it went through the run. -/
theorem converse_share (f : Fleet ι κ) (ops : List (Op ι κ)) (i : ι) :
    (f.arena i).converse ((f.share ops i).map (·.call)) = (f.share ops i, (f.run ops).arena i) := by
  induction ops generalizing f with
  | nil => rfl
  | cons op rest ih =>
    rw [share, List.map_append, Arena.converse_append, converse_part, ih]
    rfl

/-- Arenas keep their numbers. -/
theorem id_run (f : Fleet ι κ) (ops : List (Op ι κ)) (i : ι) :
    ((f.run ops).arena i).id = (f.arena i).id := by
  have kept := (f.arena i).id_converse ((f.share ops i).map (·.call))
  rwa [converse_share] at kept

/-- Whatever a run was for an arena was exchanged with some state of it. -/
theorem exists_of_mem_share {ops : List (Op ι κ)} {e : Arena.Exchange} (spoken : e ∈ f.share ops i) :
    ∃ (a : Arena) (c : Arena.Call), a.id = (f.arena i).id ∧ e = ⟨c, (a.perform c).1⟩ := by
  have alone : ((f.arena i).converse ((f.share ops i).map (·.call))).1 = f.share ops i :=
    congrArg Prod.fst (f.converse_share ops i)
  rw [← alone] at spoken
  exact Arena.exists_of_mem_converse spoken

/-- What an arena issued carries its number. -/
theorem arena_of_mem_issued {ops : List (Op ι κ)} {t : Token} (mem : t ∈ f.issued ops i) :
    t.arena = (f.arena i).id := by
  obtain ⟨e, spoken, issued⟩ := List.mem_flatMap.mp mem
  obtain ⟨a, c, id, rfl⟩ := exists_of_mem_share spoken
  exact (Arena.arena_of_issued issued).trans id

/-- **Arenas do not interfere.** In a run over arenas with numbers of their own, whatever the
operations and however they take turns, each arena gives the answers and comes to the state that
it would alone, called with its share of the run; a context is unwound in both pools or in none.
A token shown to an arena that did not issue it ends its operation and changes nothing, and is
the reason that the answer gives unless a token checked before it was refused. -/
theorem arenas_do_not_interfere (f : Fleet ι κ) (ops : List (Op ι κ))
    (distinct : Function.Injective fun i => (f.arena i).id) (honest : f.Honest ops) :
    (∀ i, (f.arena i).converse ((f.share ops i).map (·.call)) =
        (f.share ops i, (f.run ops).arena i)) ∧
      (∀ (g : Fleet ι κ) k m, (g.perform (.through k (.unwindTo m))).1 = .ok () ↔
        ∀ p, (g.arena ((g.installed k).get p)).checkMark (m.get p) = .ok ()) ∧
      ∀ earlier op later, ops = earlier ++ op :: later →
        let g := f.run earlier
        ∀ before i t after, g.checks op = before ++ (i, t) :: after → t ∉ f.issued earlier i →
          (g.perform op).2 = g ∧ ∃ fault, op.fault? (g.perform op).1 = some fault ∧
            (fault = .foreign (g.arena i).pool ∨
              ∃ e ∈ before, (g.arena e.1).check e.2 = .error fault) := by
  refine ⟨f.converse_share ops, unwindTo_ok_iff, ?_⟩
  intro earlier op later split g before i t after checks unknown
  have shown : (i, t) ∈ g.checks op := by
    rw [checks]
    exact List.mem_append_right _ List.mem_cons_self
  obtain ⟨j, issued⟩ := honest earlier op later split _ shown
  have foreign : t.arena ≠ (g.arena i).id := by
    intro own
    have numbers : (f.arena j).id = (f.arena i).id := by
      rw [← arena_of_mem_issued issued, own, id_run]
    have same : j = i := distinct numbers
    exact unknown (same ▸ issued)
  exact perform_foreign checks foreign

/-! A context claims four bytes, is installed over another ram arena, and is asked to take them
back. -/

namespace Reinstalled

def arenas : Fin 3 → Arena
  | 0 => ⟨⟨1⟩, .metadata, Buffer.zeroed 8, 0, 0, 0, 0, .empty, .empty, 0⟩
  | 1 => ⟨⟨2⟩, .ram, Buffer.zeroed 8, 0, 0, 0, 0, .empty, .empty, 0⟩
  | 2 => ⟨⟨3⟩, .ram, Buffer.zeroed 8, 0, 0, 0, 0, .empty, .empty, 0⟩

def fleet : Fleet (Fin 3) Unit where
  arena := arenas
  installed _ := ⟨0, 1⟩
  serves _ p := by cases p <;> rfl

def claim : Handle := ⟨⟨2⟩, .ram, 0, 4, ⟨0, 0⟩, .empty⟩

def earlier : List (Op (Fin 3) Unit) :=
  [.through () (.allocate .ram 4 1), .install () ⟨0, 2⟩]

def ops : List (Op (Fin 3) Unit) := earlier ++ [.through () (.release claim)]

theorem distinct : Function.Injective fun i => (fleet.arena i).id := by
  intro i j
  revert i j
  decide

theorem honest : fleet.Honest ops := by
  intro before op after split e shown
  rcases before with _ | ⟨first, _ | ⟨second, rest⟩⟩
  · obtain ⟨rfl, -⟩ := List.cons.inj split
    cases shown
  · obtain ⟨-, tail⟩ := List.cons.inj split
    obtain ⟨rfl, -⟩ := List.cons.inj tail
    cases shown
  · obtain ⟨rfl, tail⟩ := List.cons.inj split
    obtain ⟨rfl, last⟩ := List.cons.inj tail
    obtain ⟨rfl, rfl, -⟩ := eq_of_singleton_eq last
    rw [List.mem_singleton.mp shown]
    exact ⟨1, by decide⟩

end Reinstalled

open Reinstalled in
/-- The arena that is installed now does not know the claim, and the one that issued it keeps
it. -/
theorem arenas_do_not_interfere_reinstalled :
    (fleet.run ops).arena 1 = ((arenas 1).allocate 4 1).2 ∧ (fleet.run ops).arena 2 = arenas 2 ∧
      ∃ fault, Op.fault? (.through () (.release claim))
        ((fleet.run earlier).perform (.through () (.release claim))).1 = some fault ∧
        fault = .foreign .ram := by
  obtain ⟨alone, -, refused⟩ := arenas_do_not_interfere fleet ops distinct honest
  obtain ⟨-, fault, answer, why⟩ := refused earlier _ [] rfl [] 2 (.handle claim) [] rfl (by decide)
  refine ⟨?_, ?_, fault, answer, why.resolve_right ?_⟩
  · exact (congrArg Prod.snd (alone 1)).symm
  · exact (congrArg Prod.snd (alone 2)).symm
  · rintro ⟨e, nobody, -⟩
    cases nobody

/-! Two arenas claim four bytes each, the first is reset, and both handles are shown to it. -/

namespace StaleFirst

def arenas : Fin 2 → Arena
  | 0 => ⟨⟨1⟩, .ram, Buffer.zeroed 8, 0, 0, 0, 0, .empty, .empty, 0⟩
  | 1 => ⟨⟨2⟩, .ram, Buffer.zeroed 8, 0, 0, 0, 0, .empty, .empty, 0⟩

def fleet : Fleet (Fin 2) Empty where
  arena := arenas
  installed := Empty.rec
  serves k := k.rec

def own : Handle := ⟨⟨1⟩, .ram, 0, 4, ⟨0, 0⟩, .empty⟩

def other : Handle := ⟨⟨2⟩, .ram, 0, 4, ⟨0, 0⟩, .empty⟩

def earlier : List (Op (Fin 2) Empty) :=
  [.direct 0 (.allocate 4 1), .direct 1 (.allocate 4 1), .direct 0 .reset]

def both : Op (Fin 2) Empty := .direct 0 (.modifyPair own other fun p q => (p, q))

end StaleFirst

open StaleFirst in
/-- The first arena did not issue the second handle and is shown it, and what it answers is that
its own handle is stale. -/
theorem stale_before_foreign :
    Token.handle own ∈ fleet.issued earlier 0 ∧ Token.handle other ∈ fleet.issued earlier 1 ∧
      (0, Token.handle other) ∈ (fleet.run earlier).checks both ∧
      Token.handle other ∉ fleet.issued earlier 0 ∧
      Op.fault? both ((fleet.run earlier).perform both).1 = some (.staleHandle .ram 4 0) ∧
      Op.fault? both ((fleet.run earlier).perform both).1 ≠ some (.foreign .ram) := by
  refine ⟨by decide, by decide, by decide, by decide, ?_, ?_⟩
  · rfl
  · decide

end Fleet

end TensorArena
