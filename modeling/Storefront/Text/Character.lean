import Storefront.Text.Digit
import Storefront.Text.DigitTable
import Storefront.Text.WordTable
import Storefront.Text.FoldTable
import Storefront.Text.CaseTable

/-!
# Character properties

The properties and case mappings of characters that matching a vocabulary needs.

## Main definitions

* `isDigit`: a decimal digit of any script
* `isWordChar`: a character that belongs to a word
* `isBoundary`: whether a word starts or ends between two neighbours
* `foldCase`: the character that stands for all its letter cases
* `upperCase`, `lowerCase`: the other letter case of one character, which may take several
-/

namespace Storefront.Text

/-- A decimal digit of any script. -/
def isDigit (c : Char) : Bool :=
  digitZeros.any fun first => decide (first ≤ c.toNat) && decide (c.toNat < first + 10)

/-- A character that belongs to a word: a letter, mark, decimal digit, connector or joiner. -/
def isWordChar (c : Char) : Bool := inRanges wordRanges c.toNat

/-- **A word boundary**: exactly one of two neighbours belongs to a word. The ends of a text count
as characters outside of words. -/
def isBoundary (before after : Option Char) : Bool :=
  before.any isWordChar != after.any isWordChar

/-- **Simple case folding**: the letter cases of a character fold to the same one. -/
def foldCase (c : Char) : Char := Char.ofNat (image foldRuns c.toNat)

/-- The upper case of a character. -/
def upperCase (c : Char) : List Char :=
  match upperTexts.lookup c.toNat with
  | some text => text.map Char.ofNat
  | none => [Char.ofNat (image upperRuns c.toNat)]

/-- The lower case of a character: of the capital I with a dot above two characters, and of every
other character one. -/
def lowerCase (c : Char) : List Char :=
  if c = '\u0130' then ['i', '\u0307'] else [Char.ofNat (image lowerRuns c.toNat)]

example : foldCase 'K' = 'k' ∧ foldCase '\u212a' = 'k' ∧ foldCase 'ſ' = 's' := by decide
example : foldCase 'ß' = 'ß' ∧ foldCase '\u1e9e' = 'ß' := by decide
example : upperCase 'ß' = ['S', 'S'] ∧ lowerCase 'Σ' = ['σ'] := by decide
example : isWordChar '_' = true ∧ isWordChar '\u200d' = true ∧ isWordChar '·' = false := by
  decide +kernel

end Storefront.Text
