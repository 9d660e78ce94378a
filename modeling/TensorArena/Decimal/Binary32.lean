import TensorArena.Decimal.Shortest

/-!
Single-precision numbers as text.

A number is given by its 32 bits: a sign, an exponent and a fraction. A finite one is
shown by the shortest decimal that reads back as the same bits. A `Style` says how that
decimal is set: whether a whole number keeps a decimal point, and outside which range of
exponents it is set with an exponent. An infinity keeps its sign, and what is no number
has none.
-/

namespace TensorArena

/-- A single-precision number by its bits. -/
structure Binary32 where
  bits : UInt32
deriving DecidableEq, Repr

namespace Binary32

variable (x : Binary32)

/-- The sign bit is set. -/
def isNegative : Bool := 1 <<< 31 ≤ x.bits.toNat

/-- The exponent field, eight bits. -/
def exponentField : Nat := (x.bits.toNat >>> 23) % 256

/-- The fraction field, twenty-three bits. -/
def fraction : Nat := x.bits.toNat % (1 <<< 23)

/-- Neither an infinity nor something that is no number. -/
def isFinite : Bool := x.exponentField ≠ 255

/-- A finite number's size is `significand * 2^exponent`. -/
def significand : Nat := if x.exponentField = 0 then x.fraction else (1 <<< 23) + x.fraction

/-- The exponent of the significand's last bit. -/
def exponent : Int := if x.exponentField = 0 then -149 else (x.exponentField : Int) - 150

/-- The sizes that read as the size of a finite number: up to half way to each neighbour,
ends included where the significand is even. The lower neighbour of a power of two is
half as far away. -/
def interval : Decimal.Interval where
  low := 4 * x.significand - (if x.fraction = 0 ∧ 1 < x.exponentField then 1 else 2)
  middle := 4 * x.significand
  high := 4 * x.significand + 2
  scale := x.exponent - 2
  closed := x.significand % 2 = 0

end Binary32

namespace Decimal

/-- How a number is set. -/
structure Style where
  /-- A whole number ends in `.0` unless it has an exponent. -/
  keepsPoint : Bool
  /-- The least and the first too large exponent of ten that are set without an exponent;
  none if no number is set with one. -/
  positional : Option (Int × Int)
deriving DecidableEq, Repr

/-- Plain numbers have no exponent and no needless point. -/
def Style.plain : Style := ⟨false, none⟩

/-- Numbers for inspection show that they are no integers, and have an exponent below
`10^-4` and from `10^16` on. -/
def Style.inspection : Style := ⟨true, some (-4, 16)⟩

variable (d : Decimal)

/-- The digits of the coefficient. -/
def digits : List Char := Nat.toDigits 10 d.coefficient

/-- The exponent of the first digit. -/
def leading : Int := d.digits.length - 1 + d.exponent

/-- The digits with the point in its place. -/
def positional (style : Style) : String :=
  if 0 ≤ d.exponent then
    String.ofList (d.digits ++ List.replicate d.exponent.toNat '0')
      ++ (if style.keepsPoint then ".0" else "")
  else
    let places := (-d.exponent).toNat
    let padded := List.replicate (places + 1 - d.digits.length) '0' ++ d.digits
    let whole := padded.length - places
    String.ofList (padded.take whole) ++ "." ++ String.ofList (padded.drop whole)

/-- The first digit, a point if more follow, the others, and the exponent. -/
def scientific : String :=
  match d.digits with
  | [] => ""
  | [c] => s!"{c}e{d.leading}"
  | c :: rest => s!"{c}.{String.ofList rest}e{d.leading}"

/-- A decimal in a style. -/
def render (style : Style) : String :=
  match style.positional with
  | none => d.positional style
  | some (least, tooLarge) =>
    if d.coefficient = 0 ∨ (least ≤ d.leading ∧ d.leading < tooLarge) then d.positional style
    else d.scientific

end Decimal

namespace Binary32

variable (x : Binary32)

/-- The shortest decimal that reads back as the size of a finite number. -/
def size : Decimal := if x.significand = 0 then ⟨0, 0⟩ else x.interval.shortest

/-- A number in a style. -/
def format (style : Decimal.Style) : String :=
  if x.isFinite then (if x.isNegative then "-" else "") ++ x.size.render style
  else if x.fraction ≠ 0 then "NaN"
  else if x.isNegative then "-inf"
  else "inf"

/-- A number as a message or an emitted text shows it. -/
def describe : String := x.format .plain

/-- A number in an inspection text. -/
def inspect : String := x.format .inspection

end Binary32

end TensorArena
