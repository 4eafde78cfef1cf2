import Storefront.Number.Decimal

/-!
# The shortest decimal of a binary value

A finite value is written with the fewest digits that still read back as it; among those the
nearest number is taken, and of two equally near ones the even. The search walks the decimal grids
from the coarsest: a grid has a number that reads back exactly if one of the two neighbours of the
value on it does.

## Main definitions

* `Binary.readsBack`: the interval of the numbers that round to a value
* `Binary.shortest`: the digits and the power of ten
* `Layout`, `Layout.text`: how digits and a power of ten are laid out
-/

namespace Storefront

namespace Binary

/-- The bounds of the numbers that round to a magnitude, in quarters of a unit: half the distance
to each neighbour. The lower neighbour is nearer where the magnitude is a power of two. -/
def bounds (f : Format) (units : Nat) : Nat × Nat :=
  -- Below a power of two the values lie twice as close, unless they are the least ones.
  let gap := Nat.pow 2 (units.log2 + 1 - f.precision)
  let below := if gap ≠ 1 ∧ units = Nat.pow 2 units.log2 then gap else 2 * gap
  (4 * units - below, 4 * units + 2 * gap)

/-- Whether `c * grid / scale` quarters of a unit round to the magnitude. The bounds themselves do
if the significand is even. -/
def readsBack (f : Format) (units c grid scale : Nat) : Bool :=
  let (low, high) := bounds f units
  let even := units / Nat.pow 2 (units.log2 + 1 - f.precision) % 2 = 0
  if even then decide (low * scale ≤ c * grid) && decide (c * grid ≤ high * scale)
  else decide (low * scale < c * grid) && decide (c * grid < high * scale)

/-- The multiple of `10 ^ place` that is nearest to the magnitude among those that read back. -/
def onGrid? (f : Format) (units : Nat) (place : Int) : Option Nat :=
  -- Grid points and value as whole numbers of quarters of a unit, both times `scale`.
  let grid := Nat.pow 2 (f.bias + 2) * Nat.pow 10 place.toNat
  let scale := Nat.pow 10 (-place).toNat
  let value := 4 * units * scale
  let c := value / grid
  let r := value % grid
  -- No other point of the grid is nearer than these two.
  match readsBack f units c grid scale, readsBack f units (c + 1) grid scale with
  | true, true => some (if 2 * r < grid then c else if grid < 2 * r then c + 1 else c + c % 2)
  | true, false => some c
  | false, true => some (c + 1)
  | false, false => none

/-- A power of ten that no number reading back as the magnitude reaches twice. -/
def coarsest (f : Format) (units : Nat) : Int :=
  ((units.log2 : Int) + 1 - f.bias) * 30103 / 100000 + 1

/-- **The shortest decimal that reads back as a magnitude**: a coefficient and a power of ten. The
search ends within the number of digits that tell all significands apart. -/
def shortest (f : Format) (units : Nat) : Nat × Int :=
  let top := coarsest f units
  -- Coarse grids come first, so the first hit has the fewest digits.
  let places := (List.range (f.precision / 3 + 3)).map fun (i : Nat) => top - i
  (places.findSome? fun place => (onGrid? f units place).map (·, place)).getD (units, 0)

end Binary

/-! ## Layout -/

/-- How digits and a power of ten are laid out: positional from the power `least` of the leading
digit to the power `greatest`, and with an exponent elsewhere. -/
structure Layout where
  /-- The least power of ten of a leading digit that is written positionally. -/
  least : Int
  /-- The greatest power of ten of a leading digit that is written positionally. -/
  greatest : Int

/-- **The text of a coefficient times a power of ten.** A whole number keeps one decimal if it is
positional, and the exponent always has a sign. -/
def Layout.text (l : Layout) (coefficient : Nat) (place : Int) : List Char :=
  let digits := Nat.toDigits 10 coefficient
  let lead := place + digits.length - 1
  if l.least ≤ lead ∧ lead ≤ l.greatest then
    -- The point stands behind, among or in front of the digits.
    if 0 ≤ place then digits ++ List.replicate place.toNat '0' ++ ['.', '0']
    else if 0 ≤ lead then
      digits.take (lead.toNat + 1) ++ ['.'] ++ digits.drop (lead.toNat + 1)
    else ['0', '.'] ++ List.replicate ((-lead).toNat - 1) '0' ++ digits
  else
    let mantissa := match digits with
      | d :: rest => if rest.isEmpty then [d] else d :: '.' :: rest
      | [] => []
    mantissa ++ ['e', if lead < 0 then '-' else '+'] ++ Nat.toDigits 10 lead.natAbs

/-- The text of a finite value by its shortest decimal. -/
def Layout.finite (l : Layout) (f : Format) (negative : Bool) (units : Nat) : List Char :=
  (if negative then ['-'] else []) ++
    if units = 0 then ['0', '.', '0']
    else
      let (coefficient, place) := Binary.shortest f units
      l.text coefficient place

end Storefront
