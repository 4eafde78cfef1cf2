/-!
# Digits

The ten digits that numbers are written with, the sixteen of a hexadecimal number, and what digits
spell.

## Main definitions

* `isAsciiDigit`, `digitValue`: the ten digits
* `hexValue?`: the sixteen digits
* `ofDigits?`: the number that digits spell in a base
-/

namespace Storefront.Text

/-- One of the ten digits that numbers are written with. -/
def isAsciiDigit (c : Char) : Bool := decide ('0' ≤ c) && decide (c ≤ '9')

/-- The value of a digit. -/
def digitValue (c : Char) : Nat := c.toNat - '0'.toNat

/-- The value of a hexadecimal digit of either case. -/
def hexValue? (c : Char) : Option Nat :=
  if '0' ≤ c ∧ c ≤ '9' then some (c.toNat - '0'.toNat)
  else if 'a' ≤ c ∧ c ≤ 'f' then some (c.toNat - 'a'.toNat + 10)
  else if 'A' ≤ c ∧ c ≤ 'F' then some (c.toNat - 'A'.toNat + 10)
  else none

/-- The value of a digit of a base up to sixteen. -/
def digit? (base : Nat) (c : Char) : Option Nat := (hexValue? c).filter fun d => d < base

/-- **The number that some digits of a base spell**; no digits spell none. -/
def ofDigits? (base : Nat) : List Char → Option Nat
  | [] => none
  | s => (s.mapM (digit? base)).map fun ds => ds.foldl (fun n d => n * base + d) 0

example : ofDigits? 16 ['f', 'F'] = some 255 ∧ ofDigits? 10 ['1', 'a'] = none := by decide

end Storefront.Text
