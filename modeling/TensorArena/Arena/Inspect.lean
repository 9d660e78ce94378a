import TensorArena.Arena.Basic
import TensorArena.Text.Inspect

/-!
Inspection texts of pools, arenas and what they issue.

An arena shows its identity and its levels, and neither its clock nor its content; a
handle and a mark show every field.
-/

namespace TensorArena

open Text.Inspect (record variant optional)

/-- The pool as a variant. -/
def Pool.inspect : Pool → String
  | .metadata => "Metadata"
  | .ram => "Ram"

/-- A pair of byte counts. -/
def PerPool.inspectBytes (v : PerPool Nat) : String :=
  record "PoolBytes" [("metadata", toString v.metadata), ("ram", toString v.ram)]

/-- A pair of capacities. -/
def Capacities.inspect (c : Capacities) : String :=
  record "PoolCapacities" [("metadata", toString c.metadata), ("ram", toString c.ram)]

/-- The identity of an arena. -/
def ArenaId.inspect (i : ArenaId) : String := variant "ArenaId" (toString i.number)

/-- A point of an arena's history. -/
def Stamp.inspect (s : Stamp) : String :=
  record "Stamp" [("epoch", toString s.epoch), ("seq", toString s.seq)]

/-- The most recent live claim. -/
def Top.inspect (t : Top) : String :=
  record "StackTop" [("seq", optional (t.seq.map toString)), ("end", toString t.stop)]

/-- A handle with its history. -/
def Handle.inspect (h : Handle) : String :=
  record "AllocationHandle" [
    ("arena", h.arena.inspect),
    ("pool", h.pool.inspect),
    ("offset", toString h.offset),
    ("size", toString h.size),
    ("stamp", h.stamp.inspect),
    ("below", h.below.inspect)]

/-- A mark with its history. -/
def Mark.inspect (m : Mark) : String :=
  record "ArenaMark" [
    ("arena", m.arena.inspect),
    ("offset", toString m.offset),
    ("epoch", toString m.epoch),
    ("clock", toString m.clock),
    ("top", m.top.inspect)]

/-- An arena and its levels. -/
def Arena.inspect (a : Arena) : String :=
  record "CircularArena" [
    ("id", a.id.inspect),
    ("pool", a.pool.inspect),
    ("capacity", toString a.capacity),
    ("high_water", toString a.highWater),
    ("peak", toString a.peak),
    ("epoch", toString a.epoch)]

end TensorArena
