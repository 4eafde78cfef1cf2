import Storefront.Json.Basic
import Storefront.Text.Digit

/-!
# JSON numbers

The value of a written number. The digits that fit 64 bits are one whole number, the others only
count for the power of ten, and that power is one more product or quotient of binary values. The
result may therefore differ in its last place from the value nearest to the number, and a number
next to the greatest value may have none.

## Main definitions

* `Numeral`: the parts of a written number
* `takeDigits`, `Numeral.significand`: the digits that are kept, with a power of ten
* `timesPower?`: a binary value times a power of ten
* `Numeral.number?`: the value of a written number if it is within range
-/

namespace Storefront.Json

open Text

/-- The parts of a written number, the last digit of each first. -/
structure Numeral where
  /-- Whether a minus sign came first. -/
  negative : Bool
  /-- The digits before the point. -/
  whole : List Char := []
  /-- The digits after the point, if there is one. -/
  fraction : Option (List Char) := none
  /-- The sign and the digits of the exponent, if there is one. -/
  exponent : Option (Bool × List Char) := none

/-! ## Digits -/

/-- As many digits as 64 bits hold, read after the digits of a value, and the digits that are
left. -/
def takeDigits (value : Nat) : List Char → Nat × List Char
  | [] => (value, [])
  | c :: s =>
    let next := value * 10 + digitValue c
    if next ≤ 18446744073709551615 then takeDigits next s else (value, c :: s)

/-- **The digits that are kept**, as a whole number, and the power of ten it is multiplied by. The
digits after the point are read on from those that were kept before it, even if some were left. -/
def Numeral.significand (n : Numeral) : Nat × Int :=
  let fraction := (n.fraction.getD []).reverse
  let (whole, dropped) := takeDigits 0 n.whole.reverse
  let (value, rest) := takeDigits whole fraction
  (value, (dropped.length : Int) - (fraction.length - rest.length : Nat))

/-- The exponent, which is nothing if none is written. -/
def Numeral.power (n : Numeral) : Int :=
  match n.exponent with
  | none => 0
  | some (negative, digits) =>
    let e := Nat.ofDigitChars 10 digits.reverse 0
    if negative then -(e : Int) else e

/-! ## Powers of ten -/

/-- The value of a power of ten in units of the least positive value. -/
def powerUnits (e : Nat) : Nat := (Binary.ofInt .double (Nat.pow 10 e : Nat)).units

/-- A value divided so many times by the greatest power of ten. -/
def shrink (x : Double) : Nat → Double
  | 0 => x
  | k + 1 =>
    if x.isZero then x
    else shrink (x.scale (Nat.pow 2 Format.double.bias) (powerUnits 308)) k

/-- **A value times a power of ten**, if that is finite. The powers have values up to the one of
308. -/
def timesPower? (x : Double) : Int → Option Double
  | .ofNat e =>
    if e ≤ 308 then
      let product := x.scale (powerUnits e) (Nat.pow 2 Format.double.bias)
      if product.isFinite then some product else none
    else if x.isZero then some x else none
  | .negSucc e =>
    -- The exponent `-(e + 1)` in steps of 308 leaves one between 1 and 308.
    some ((shrink x (e / 308)).scale (Nat.pow 2 Format.double.bias) (powerUnits (e % 308 + 1)))

/-! ## Numbers -/

/-- **The value of a written number.** One without point and exponent is a whole number if it is
kept as one; minus zero is not. A number that comes to an infinity has no value. -/
def Numeral.number? (n : Numeral) : Option Number :=
  let magnitude : Int := Nat.ofDigitChars 10 n.whole.reverse 0
  let signed := if n.negative then -magnitude else magnitude
  -- Minus zero keeps its sign only as a binary value.
  let isWhole := n.fraction.isNone && n.exponent.isNone && !(n.negative && magnitude == 0)
  if isWhole && Number.isKept signed then some (.integer signed)
  else
    let (value, power) := n.significand
    let x := Binary.round .double n.negative (value * Nat.pow 2 Format.double.bias) 1
    (timesPower? x (power + n.power)).map .double

/-- A number that is next to the greatest value has none. -/
example :
    let n : Numeral :=
      { negative := false, whole := ['1'], fraction := some "8513268431396797".toList,
        exponent := some (false, ['8', '0', '3']) }
    n.number? = none := by decide +kernel

end Storefront.Json
