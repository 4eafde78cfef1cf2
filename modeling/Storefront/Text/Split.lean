/-!
# Splitting texts

Cutting a text at a character.

## Main definitions

* `split`: the parts between all places of a character
* `splitFirst?`, `splitLast?`: the texts around the first and the last place of a character
-/

namespace Storefront.Text

/-- **The parts of a text** between the places where a character stands. -/
def split (sep : Char) : List Char → List (List Char)
  | [] => [[]]
  | c :: rest =>
    if c = sep then [] :: split sep rest
    else
      match split sep rest with
      | part :: parts => (c :: part) :: parts
      | [] => [[c]]

theorem split_ne_nil (sep : Char) (s : List Char) : split sep s ≠ [] := by
  cases s with
  | nil => simp [split]
  | cons c rest =>
    unfold split
    split
    · simp
    · split <;> simp

/-- The texts before and after the first place where a character stands. -/
def splitFirst? (sep : Char) : List Char → Option (List Char × List Char)
  | [] => none
  | c :: rest =>
    if c = sep then some ([], rest)
    else (splitFirst? sep rest).map fun (before, after) => (c :: before, after)

/-- The texts before and after the last place where a character stands. -/
def splitLast? (sep : Char) (s : List Char) : Option (List Char × List Char) :=
  (splitFirst? sep s.reverse).map fun (after, before) => (before.reverse, after.reverse)

end Storefront.Text
