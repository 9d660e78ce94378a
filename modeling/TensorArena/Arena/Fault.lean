import TensorArena.ByteCount

/-!
Why an arena refuses an operation, and the capacities an arena may have.

A refusal names the pool of the arena that refused and the numbers that decided it. An
arena holds at least one byte, and few enough that every offset fits in 32 bits.
-/

namespace TensorArena

/-- The largest capacity of an arena: offsets and sizes are 32-bit words. -/
def Capacity.largest : Nat := 4294967295

namespace Arena

/-- Why an arena, or a pair of arenas, refuses an operation. -/
inductive Fault where
  /-- The capacity is zero or above the largest one. -/
  | invalidCapacity (pool : Pool) (bytes : Nat)
  /-- The alignment is zero or no power of two. -/
  | invalidAlignment (align : Nat)
  /-- The request does not fit above the aligned high-water mark. -/
  | outOfSpace (pool : Pool) (requested align highWater capacity : Nat)
  /-- The handle is not the most recent live allocation, which ends at `expectedStop`. -/
  | releaseOrder (pool : Pool) (expectedStop handleStop : Nat)
  /-- A handle, mark or slot that another arena or scope issued. -/
  | foreign (pool : Pool)
  /-- A handle that was released, unwound past, or issued before a reset. -/
  | staleHandle (pool : Pool) (handleStop highWater : Nat)
  /-- A mark whose state was discarded by a release, an unwind or a reset. -/
  | staleMark (pool : Pool) (offset : Nat)
  /-- A mark above the high-water mark. -/
  | unwindUp (pool : Pool) (offset highWater : Nat)
  /-- Two handles that were to be distinct share a byte. -/
  | overlap (pool : Pool)
  /-- An arena was installed for a pool that it does not serve. -/
  | wrongPool (expected found : Pool)
deriving DecidableEq, Repr

/-- The refusal as a message. -/
def Fault.message : Fault → String
  | .invalidCapacity pool bytes =>
    s!"{pool.name} pool capacity {bytes} bytes is invalid (must be 1..={Capacity.largest})"
  | .invalidAlignment align => s!"alignment {align} is not a non-zero power of two"
  | .outOfSpace pool requested align highWater capacity =>
    s!"{pool.name} pool out of space: requested {requested} bytes (align {align}) "
      ++ s!"at high-water {highWater}, capacity {capacity} bytes"
  | .releaseOrder pool expectedStop handleStop =>
    s!"{pool.name} pool release out of order: handle ends at {handleStop}, "
      ++ s!"most recent allocation ends at {expectedStop}"
  | .foreign pool => s!"handle was not issued by this {pool.name} arena"
  | .staleHandle pool handleStop highWater =>
    s!"stale {pool.name} handle: ends at {handleStop}, high-water {highWater}"
  | .staleMark pool offset => s!"stale {pool.name} mark at {offset}: the arena moved below it"
  | .unwindUp pool offset highWater =>
    s!"cannot unwind {pool.name} pool to {offset}: above high-water {highWater}"
  | .overlap pool => s!"overlapping {pool.name} handles passed as distinct ranges"
  | .wrongPool expected found => s!"expected a {expected.name} arena, got a {found.name} arena"

end Arena

/-- One capacity is acceptable. -/
def Capacity.check (pool : Pool) (bytes : Nat) : Except Arena.Fault Unit :=
  if bytes = 0 ∨ Capacity.largest < bytes then .error (.invalidCapacity pool bytes) else .ok ()

/-- The capacities of a pair of arenas, as chosen before they are built. -/
abbrev Capacities := PerPool Nat

/-- Both capacities are acceptable; metadata is checked first. -/
def Capacities.check (c : Capacities) : Except Arena.Fault Unit :=
  match Capacity.check .metadata c.metadata with
  | .error fault => .error fault
  | .ok () => Capacity.check .ram c.ram

/-- The first pool in which more is required than the capacity; metadata is looked at
first. -/
def Capacities.firstExceeded? (c : Capacities) (required : PerPool Nat) : Option Pool :=
  Pool.all.find? fun pool => c.get pool < required.get pool

end TensorArena
