import Storefront.Number.Binary

/-!
# Fixed decimals

A binary value with a fixed number of decimals: the exact value rounded to the last place, a tie to
the even digit, and the sign kept even where the digits are all zero.

## Main definitions

* `fixedMagnitude`: the rounded multiple of the last place, laid out with a point
* `Binary.fixed`: the text of a value
-/

namespace Storefront

/-- A whole number of last places, laid out with that many digits after the point. -/
def layFixed (places n : Nat) : List Char :=
  let fraction := Nat.toDigits 10 (n % Nat.pow 10 places)
  Nat.toDigits 10 (n / Nat.pow 10 places) ++
    '.' :: (List.replicate (places - fraction.length) '0' ++ fraction)

namespace Binary

variable {f : Format}

/-- A magnitude in last places, rounded to nearest with ties to even. -/
def lastPlaces (f : Format) (places units : Nat) : Nat :=
  divideEven (units * Nat.pow 10 places) (Nat.pow 2 f.bias)

/-- **The text of a value with fixed decimals.** What is not finite has a name instead. -/
def fixed (places : Nat) : Binary f → List Char
  | .nan _ => ['N', 'a', 'N']
  | .infinite negative => (if negative then ['-'] else []) ++ ['i', 'n', 'f']
  | .finite negative units _ =>
    (if negative then ['-'] else []) ++ layFixed places (lastPlaces f places units)

end Binary

end Storefront
