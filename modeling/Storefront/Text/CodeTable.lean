/-!
# Tables of code points

Properties of characters are tables over their code points. A table lists ranges or runs in
ascending order, so a look-up ends at the first one that lies beyond the code point.

## Main definitions

* `CodeRange`, `inRanges`: a set of code points as a list of ranges
* `CodeRun`, `image`: a map on code points as a list of runs, the identity elsewhere
-/

namespace Storefront.Text

/-- The code points from `first` to `last`, both included. -/
structure CodeRange where
  /-- The least code point of the range. -/
  first : Nat
  /-- The greatest code point of the range. -/
  last : Nat
  deriving DecidableEq, Repr

/-- Whether a code point lies in one of the ascending ranges. -/
def inRanges : List CodeRange → Nat → Bool
  | [], _ => false
  | r :: rest, c => if c < r.first then false else decide (c ≤ r.last) || inRanges rest c

/-- A run of code points `step` apart, the first of which maps to `target`; the others map to code
points at the same distance. -/
structure CodeRun where
  /-- The least code point of the run. -/
  first : Nat
  /-- The greatest code point of the run. -/
  last : Nat
  /-- The distance of two neighbours. -/
  step : Nat
  /-- What the first code point maps to. -/
  target : Nat
  deriving DecidableEq, Repr

/-- **The map of a table of ascending runs**: a code point of a run moves by the distance of that
run, and every other one stays. -/
def image : List CodeRun → Nat → Nat
  | [], c => c
  | r :: rest, c =>
    if c < r.first then c
    else if c ≤ r.last then
      if (c - r.first) % r.step = 0 then r.target + (c - r.first) else c
    else image rest c

@[simp] theorem inRanges_nil (c : Nat) : inRanges [] c = false := rfl

@[simp] theorem image_nil (c : Nat) : image [] c = c := rfl

end Storefront.Text
