import Storefront.Text.CodeTable
import Storefront.Text.Digit
import Storefront.Text.Split

/-!
# Tables written as texts

Large tables over code points are written as lines of words, in hexadecimal: `41-5A` is a range,
`100-12E/2>101` says what a run of code points maps to, and `BC>31+2044+34,41` what code points
from the first one on map to.

## Main definitions

* `rangesOf`: the ranges of lines
* `TextRun`, `textRunsOf`, `textImage`: maps from code points to texts
-/

namespace Storefront.Text

/-- The number that hexadecimal digits spell; digits that spell none count as zero. -/
def hexNumber (s : List Char) : Nat := (ofDigits? 16 s).getD 0

/-- The words of some lines. -/
def wordsOf (lines : List String) : List (List Char) :=
  lines.flatMap fun line => split ' ' line.toList

/-- The range that a word says: one code point, or the first and the last one. -/
def rangeOf (word : List Char) : CodeRange :=
  match splitFirst? '-' word with
  | some (first, last) => ⟨hexNumber first, hexNumber last⟩
  | none => ⟨hexNumber word, hexNumber word⟩

/-- **The ranges that lines say.** -/
def rangesOf (lines : List String) : List CodeRange := (wordsOf lines).map rangeOf

/-- A run of code points `step` apart. The first one maps to `target`, and each other one to code
points at the same distance. -/
structure TextRun where
  /-- The least code point of the run. -/
  first : Nat
  /-- The greatest code point of the run. -/
  last : Nat
  /-- The distance of two neighbours. -/
  step : Nat
  /-- What the first code point maps to. -/
  target : List Nat
  deriving DecidableEq, Repr

/-- The code points that a word lists. -/
def codesOf (word : List Char) : List Nat :=
  if word.isEmpty then [] else (split '+' word).map hexNumber

/-- The runs that a word says: one of several code points, or some of one code point each. -/
def textRunOf (word : List Char) : List TextRun :=
  match splitFirst? '>' word with
  | none => []
  | some (place, targets) =>
    match splitFirst? '-' place with
    | none => (split ',' targets).zipIdx.map fun (target, k) =>
        ⟨hexNumber place + k, hexNumber place + k, 1, codesOf target⟩
    | some (first, last) =>
      let (last, step) := (splitFirst? '/' last).getD (last, ['1'])
      [⟨hexNumber first, hexNumber last, hexNumber step, codesOf targets⟩]

/-- **The runs that lines say.** -/
def textRunsOf (lines : List String) : List TextRun := (wordsOf lines).flatMap textRunOf

/-- **The map of a table of ascending runs**: a code point of a run maps to the target of that run,
moved by its distance to the first one, and every other one stays. -/
def textImage : List TextRun → Nat → List Nat
  | [], c => [c]
  | r :: rest, c =>
    if c < r.first then [c]
    else if c ≤ r.last then
      if (c - r.first) % r.step = 0 then r.target.map (· + (c - r.first)) else [c]
    else textImage rest c

example : rangesOf ["5 41-5A", "FF"] = [⟨0x5, 0x5⟩, ⟨0x41, 0x5A⟩, ⟨0xFF, 0xFF⟩] := by
  decide +kernel

example : textRunsOf ["41-45/2>61 BC>31+2F,"] =
    [⟨0x41, 0x45, 2, [0x61]⟩, ⟨0xBC, 0xBC, 1, [0x31, 0x2F]⟩, ⟨0xBD, 0xBD, 1, []⟩] := by
  decide +kernel

example : textImage [⟨0x41, 0x45, 2, [0x61]⟩] 0x43 = [0x63] := by decide

end Storefront.Text
