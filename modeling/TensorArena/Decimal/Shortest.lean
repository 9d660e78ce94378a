/-!
Shortest decimals: the fewest digits that lie close enough to a number.

The number and the ends of the interval around it are given as multiples of one power of
two, so that every comparison is one of natural numbers. On the grid of the multiples of
`10^k` only the two neighbours of the number matter, for a grid that has a point in the
interval has one of them there. The coarsest grid with such a point gives the fewest
digits; of two neighbours the nearer is taken, and the upper one where both are as near.
-/

namespace TensorArena

/-- `coefficient * 10^exponent`. -/
structure Decimal where
  coefficient : Nat
  exponent : Int
deriving DecidableEq, Repr

namespace Decimal

/-- The interval of `low * 2^scale` to `high * 2^scale` around `middle * 2^scale`. The ends
belong to it where `closed` holds. -/
structure Interval where
  low : Nat
  middle : Nat
  high : Nat
  scale : Int
  closed : Bool
deriving DecidableEq, Repr

namespace Interval

variable (i : Interval)

/-- The length of a grid step `10^k` and of the unit `2^scale`, both in the same small
unit. -/
def steps (k : Int) : Nat × Nat :=
  (Nat.pow 10 k.toNat <<< (-i.scale).toNat, Nat.pow 10 (-k).toNat <<< i.scale.toNat)

/-- The grid point `n * 10^k` lies in the interval. -/
def holds (k : Int) (n : Nat) : Bool :=
  let (step, unit) := i.steps k
  if i.closed then i.low * unit ≤ n * step && n * step ≤ i.high * unit
  else i.low * unit < n * step && n * step < i.high * unit

/-- The last grid point at or below the middle, as a number of steps. -/
def below (k : Int) : Nat :=
  let (step, unit) := i.steps k
  i.middle * unit / step

/-- The upper neighbour of the middle is at least as near as the lower one. -/
def isUpperNearer (k : Int) : Bool :=
  let (step, unit) := i.steps k
  (2 * i.below k + 1) * step ≤ 2 * (i.middle * unit)

/-- The neighbour of the middle on the grid `10^k` that lies in the interval, the nearer
one where both do. -/
def onGrid? (k : Int) : Option Nat :=
  let n := i.below k
  match i.holds k n, i.holds k (n + 1) with
  | true, true => some (if i.isUpperNearer k then n + 1 else n)
  | true, false => some n
  | false, true => some (n + 1)
  | false, false => none

/-- The decimal on the coarsest grid that has one, from `10^k` down through `fuel` grids. -/
def shortestFrom (k : Int) : Nat → Decimal
  | 0 => ⟨i.below k, k⟩
  | fuel + 1 =>
    match i.onGrid? k with
    | some n => ⟨n, k⟩
    | none => shortestFrom (k - 1) fuel

/-- The shortest decimal in an interval whose middle lies below `10^45` and whose ends are
at least `10^-55` apart. -/
def shortest : Decimal := i.shortestFrom 45 100

end Interval

end Decimal

end TensorArena
