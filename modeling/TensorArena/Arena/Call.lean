import TensorArena.Arena.Scope

/-!
Arena operations as data.

A call names an operation and its arguments, and `Arena.perform` carries it out. Whoever
reaches an arena only through calls can do what callers of an arena can do and nothing
else: it sees no clock, no top and no interval of discarded numbers.
-/

namespace TensorArena

/-- What a caller may ask of an open scope. -/
inductive Scope.Call where
  | allocate (size align : Nat)
  | bytes (slot : Slot)
  | modify (slot : Slot) (change : Bytes → Bytes)
  | modifyPair (p q : Slot) (change : Bytes → Bytes → Bytes × Bytes)
  | used
  | leave
  | finish

/-- The answer to a call of a scope. A claim also answers the scope that holds it. -/
abbrev Scope.Call.Answer : Scope.Call → Type
  | .allocate _ _ => Except Arena.Fault Slot × Scope
  | .bytes _ => Except Arena.Fault Bytes
  | .modify _ _ => Except Arena.Fault Bytes
  | .modifyPair _ _ _ => Except Arena.Fault (Bytes × Bytes)
  | .used => Nat
  | .leave => Unit
  | .finish => Except Arena.Fault Unit

/-- Carry out a call of a scope. -/
def Scope.perform (s : Scope) : (c : Scope.Call) → Arena → c.Answer × Arena
  | .allocate size align, a =>
    match s.allocate size align a with
    | (slot, s, a) => ((slot, s), a)
  | .bytes slot, a => (s.bytes slot a, a)
  | .modify slot change, a => s.modify slot change a
  | .modifyPair p q change, a => s.modifyPair p q change a
  | .used, a => (s.used a, a)
  | .leave, a => ((), s.leave a)
  | .finish, a => s.finish a

/-- What a caller may ask of an arena. -/
inductive Arena.Call where
  | id
  | pool
  | capacity
  | highWater
  | peak
  | allocate (size align : Nat)
  | release (h : Handle)
  | reset
  | mark
  | checkMark (m : Mark)
  | unwindTo (m : Mark)
  | bytes (h : Handle)
  | modify (h : Handle) (change : Bytes → Bytes)
  | modifyPair (h k : Handle) (change : Bytes → Bytes → Bytes × Bytes)
  | openScope
  | inScope (s : Scope) (c : Scope.Call)

/-- The answer to a call of an arena. -/
abbrev Arena.Call.Answer : Arena.Call → Type
  | .id => ArenaId
  | .pool => Pool
  | .capacity => Nat
  | .highWater => Nat
  | .peak => Nat
  | .allocate _ _ => Except Arena.Fault Handle
  | .release _ => Except Arena.Fault Unit
  | .reset => Unit
  | .mark => Mark
  | .checkMark _ => Except Arena.Fault Unit
  | .unwindTo _ => Except Arena.Fault Unit
  | .bytes _ => Except Arena.Fault Bytes
  | .modify _ _ => Except Arena.Fault Bytes
  | .modifyPair _ _ _ => Except Arena.Fault (Bytes × Bytes)
  | .openScope => Scope
  | .inScope _ c => c.Answer

/-- Carry out a call of an arena. -/
def Arena.perform (a : Arena) : (c : Arena.Call) → c.Answer × Arena
  | .id => (a.id, a)
  | .pool => (a.pool, a)
  | .capacity => (a.capacity, a)
  | .highWater => (a.highWater, a)
  | .peak => (a.peak, a)
  | .allocate size align => a.allocate size align
  | .release h => a.release h
  | .reset => ((), a.reset)
  | .mark => (a.mark, a)
  | .checkMark m => (a.checkMark m, a)
  | .unwindTo m => a.unwindTo m
  | .bytes h => (a.bytes h, a)
  | .modify h change => a.modify h change
  | .modifyPair h k change => a.modifyPair h k change
  | .openScope => Scope.enter a
  | .inScope s c => s.perform c a

/-! ### What no call changes -/

namespace Arena

@[simp] theorem pool_allocate (a : Arena) (size align : Nat) :
    (a.allocate size align).2.pool = a.pool := by
  unfold allocate
  dsimp only
  split
  · split <;> rfl
  · rfl

@[simp] theorem pool_release (a : Arena) (h : Handle) : (a.release h).2.pool = a.pool := by
  unfold release
  split
  · rfl
  · split <;> rfl

@[simp] theorem pool_unwindTo (a : Arena) (m : Mark) : (a.unwindTo m).2.pool = a.pool := by
  unfold unwindTo
  split <;> rfl

@[simp] theorem pool_modify (a : Arena) (h : Handle) (change : Bytes → Bytes) :
    (a.modify h change).2.pool = a.pool := by
  unfold modify
  split <;> rfl

@[simp] theorem pool_modifyPair (a : Arena) (h k : Handle)
    (change : Bytes → Bytes → Bytes × Bytes) : (a.modifyPair h k change).2.pool = a.pool := by
  unfold modifyPair
  split <;> rfl

theorem pool_performScope (s : Scope) (c : Scope.Call) (a : Arena) :
    (s.perform c a).2.pool = a.pool := by
  cases c with
  | allocate size align =>
    have := a.pool_allocate size align
    simp only [Scope.perform, Scope.allocate]
    split <;> simp_all
  | bytes slot => rfl
  | modify slot change =>
    simp only [Scope.perform, Scope.modify]
    split <;> simp
  | modifyPair p q change =>
    simp only [Scope.perform, Scope.modifyPair]
    split
    · rfl
    · split <;> simp
  | used => rfl
  | leave => simp [Scope.perform, Scope.leave]
  | finish => simp [Scope.perform, Scope.finish, Scope.leave]

/-- An arena serves the same pool for as long as it lives. -/
@[simp] theorem pool_perform (a : Arena) (c : Arena.Call) : (a.perform c).2.pool = a.pool := by
  cases c <;> simp only [perform, pool_allocate, pool_release, pool_unwindTo, pool_modify,
    pool_modifyPair, pool_performScope] <;> rfl

end Arena

end TensorArena
