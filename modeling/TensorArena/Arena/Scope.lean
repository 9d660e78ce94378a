import TensorArena.Arena.Basic

/-!
Scopes: groups of claims that are given back together.

A scope remembers the state of its arena at opening and comes back to it at closing, so
nested scopes close in reverse order. The claims of a scope are named by slots, and a
scope refuses the slots of every other scope, whatever their position.
-/

namespace TensorArena

/-- Identity of a scope: its arena and how many scopes the arena had opened before. -/
structure ScopeTag where
  arena : ArenaId
  number : Nat
deriving DecidableEq, Repr

/-- A claim made in a scope: the scope, and the claim's position among its claims. -/
structure Slot where
  scope : ScopeTag
  index : Nat
deriving DecidableEq, Repr

/-- An open scope: the state at opening and the claims made since, oldest first. -/
structure Scope where
  tag : ScopeTag
  pool : Pool
  mark : Mark
  handles : List Handle
deriving DecidableEq, Repr

namespace Scope

/-- Enter a scope at the arena's present state. -/
def enter (a : Arena) : Scope × Arena :=
  (⟨⟨a.id, a.scopes⟩, a.pool, a.mark, []⟩, { a with scopes := a.scopes + 1 })

variable (s : Scope)

/-- The claim that a slot of this scope names. -/
def resolve (slot : Slot) : Except Arena.Fault Handle :=
  if slot.scope ≠ s.tag then .error (.foreign s.pool)
  else
    match s.handles[slot.index]? with
    | none => .error (.foreign s.pool)
    | some h => .ok h

/-- The number of claims. -/
def size : Nat := s.handles.length

/-- Bytes that the scope has claimed, padding included. -/
def used (a : Arena) : Nat := a.highWater - s.mark.height

/-- Claim bytes within the scope. -/
def allocate (size align : Nat) (a : Arena) : Except Arena.Fault Slot × Scope × Arena :=
  match a.allocate size align with
  | (.error fault, a) => (.error fault, s, a)
  | (.ok h, a) => (.ok ⟨s.tag, s.handles.length⟩, { s with handles := s.handles ++ [h] }, a)

/-- The bytes of a slot. -/
def bytes (slot : Slot) (a : Arena) : Except Arena.Fault Bytes :=
  match s.resolve slot with
  | .error fault => .error fault
  | .ok h => a.bytes h

/-- Change the bytes of a slot. Answers the bytes before the change. -/
def modify (slot : Slot) (change : Bytes → Bytes) (a : Arena) :
    Except Arena.Fault Bytes × Arena :=
  match s.resolve slot with
  | .error fault => (.error fault, a)
  | .ok h => a.modify h change

/-- Change the bytes of two slots. Answers the bytes before the change, in argument
order. -/
def modifyPair (p q : Slot) (change : Bytes → Bytes → Bytes × Bytes) (a : Arena) :
    Except Arena.Fault (Bytes × Bytes) × Arena :=
  match s.resolve p with
  | .error fault => (.error fault, a)
  | .ok h =>
    match s.resolve q with
    | .error fault => (.error fault, a)
    | .ok k => a.modifyPair h k change

/-- Leave the scope: the arena comes back to its state at opening. -/
def leave (a : Arena) : Arena := (a.unwindTo s.mark).2

/-- Close the scope and tell whether that succeeded. The scope is left once more on the
way out, so the arena unwinds twice. -/
def finish (a : Arena) : Except Arena.Fault Unit × Arena :=
  match a.unwindTo s.mark with
  | (closed, a) => (closed, s.leave a)

end Scope

end TensorArena
