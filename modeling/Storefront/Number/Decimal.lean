import Storefront.Number.Binary
import Storefront.Text.Digit

/-!
# Decimal numbers

Numbers written with decimal digits, the binary value nearest to one, and the reading of numbers
from text.

## Main definitions

* `Decimal`: a sign, a coefficient and a power of ten
* `Decimal.toBinary`: the nearest binary value
* `Decimal.ofText?`: the number that digits, a point and an exponent spell
* `Binary.ofText?`: the value that a text spells, the infinities and what is not a number included
-/

namespace Storefront

open Text

/-- The number `coefficient * 10 ^ exponent` with a sign. -/
structure Decimal where
  /-- Whether the number has a minus sign. -/
  negative : Bool
  /-- The digits, read as a whole number. -/
  coefficient : Nat
  /-- The power of ten. -/
  exponent : Int
  deriving DecidableEq, Repr

namespace Decimal

/-- The number with the given digits before and after the point, times a power of ten. -/
def ofParts (negative : Bool) (whole fraction : List Char) (exponent : Int) : Decimal where
  negative
  coefficient := Nat.ofDigitChars 10 (whole ++ fraction) 0
  exponent := exponent - fraction.length

/-- **The binary value nearest to a decimal number.** An exponent beyond the range of the format
gives an infinity or a zero without computing the power. -/
def toBinary (f : Format) (d : Decimal) : Binary f :=
  if d.coefficient = 0 then .ofSign d.negative
  else match d.exponent with
    | .ofNat e =>
      -- A coefficient of at least one times such a power is beyond the greatest value.
      if f.limit < e then .infinite d.negative
      else .round f d.negative (d.coefficient * Nat.pow 10 e * Nat.pow 2 f.bias) 1
    | .negSucc e =>
      -- The quotient is less than half of the least positive value.
      if d.coefficient.log2 + f.bias + 2 < e then .ofSign d.negative
      else .round f d.negative (d.coefficient * Nat.pow 2 f.bias) (Nat.pow 10 (e + 1))

/-! ## Reading -/

/-- Splits off a sign; no sign means a positive number. -/
def splitSign : List Char → Bool × List Char
  | '-' :: s => (true, s)
  | '+' :: s => (false, s)
  | s => (false, s)

/-- A whole number of at least one digit, with an optional sign. -/
def signedDigits? (s : List Char) : Option Int :=
  let (negative, digits) := splitSign s
  if digits.isEmpty || !digits.all isAsciiDigit then none
  else
    let n := Nat.ofDigitChars 10 digits 0
    some (if negative then -(n : Int) else n)

/-- What follows the digits: nothing, or the letter `e` and a power of ten. -/
def exponent? : List Char → Option Int
  | [] => some 0
  | c :: s => if c = 'e' ∨ c = 'E' then signedDigits? s else none

/-- **The number that a text spells**, its sign apart: digits with at most one point among or beside
them, then perhaps an exponent. -/
def ofText? (negative : Bool) (s : List Char) : Option Decimal :=
  let whole := s.takeWhile isAsciiDigit
  let rest := s.dropWhile isAsciiDigit
  let (fraction, rest) := match rest with
    | '.' :: r => (r.takeWhile isAsciiDigit, r.dropWhile isAsciiDigit)
    | r => ([], r)
  if whole.isEmpty && fraction.isEmpty then none
  else (exponent? rest).map (ofParts negative whole fraction)

end Decimal

/-- **The value that a text spells**: an infinity, what is not a number, or the value nearest to a
decimal number. The letter case of the names does not matter, and any of them takes a sign. -/
def Binary.ofText? (f : Format) (s : List Char) : Option (Binary f) :=
  let (negative, s) := Decimal.splitSign s
  let name := String.ofList (s.map Char.toLower)
  if name = "inf" ∨ name = "infinity" then some (.infinite negative)
  else if name = "nan" then some (.nan negative)
  else (Decimal.ofText? negative s).map (Decimal.toBinary f)

end Storefront
