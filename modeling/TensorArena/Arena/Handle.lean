import TensorArena.Pool

/-!
Handles and marks: what an arena gives to its callers.

A handle claims a byte range, and a mark remembers a state to come back to. Both name
the arena that issued them and the point of its history at which it did, so that the
arena can tell a live claim from one whose bytes it has since given away.
-/

namespace TensorArena

/-- Identity of an arena. No two arenas of a program share one. -/
structure ArenaId where
  number : Nat
deriving DecidableEq, Repr

/-- When an allocation was issued: `epoch` counts the arena's resets in 32 bits, and
`seq` is the arena's clock at the time. -/
structure Stamp where
  epoch : UInt32
  seq : Nat
deriving DecidableEq, Repr

/-- The most recent live allocation of an arena: its issue number, none if nothing is
live, and the offset at which it ends. -/
structure Top where
  seq : Option Nat
  stop : UInt32
deriving DecidableEq, Repr

/-- Nothing is live. -/
def Top.empty : Top := ⟨none, 0⟩

/-- The claim on `size` bytes from `offset` in one arena, with the top on which the
allocation was placed. -/
structure Handle where
  arena : ArenaId
  pool : Pool
  offset : UInt32
  size : UInt32
  stamp : Stamp
  below : Top
deriving DecidableEq, Repr

namespace Handle

/-- The first byte of the range. -/
def start (h : Handle) : Nat := h.offset.toNat

/-- The number of bytes in the range. -/
def length (h : Handle) : Nat := h.size.toNat

/-- One past the last byte of the range. -/
def stop (h : Handle) : Nat := h.start + h.length

/-- The handles are of one arena and each starts before the other stops. -/
def overlaps (h k : Handle) : Bool :=
  h.arena == k.arena && h.start < k.stop && k.start < h.stop

/-- The handle as a message shows it. -/
def describe (h : Handle) : String :=
  s!"AllocationHandle({h.pool.name}#{h.arena.number}, [{h.start}, {h.stop}))"

end Handle

/-- A remembered state of one arena: its high-water mark, its epoch, its clock and its
top. -/
structure Mark where
  arena : ArenaId
  offset : UInt32
  epoch : UInt32
  clock : Nat
  top : Top
deriving DecidableEq, Repr

namespace Mark

/-- The remembered high-water mark. -/
def height (m : Mark) : Nat := m.offset.toNat

end Mark

end TensorArena
