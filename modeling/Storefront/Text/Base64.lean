/-!
# Base64

Octets as a text of letters, digits and two signs: three octets are four digits of six bits each,
and equals signs stand for the digits that the last octets do not fill.

## Main definitions

* `Base64.digit`: the digit of six bits
* `Base64.encode`: the text of octets
-/

namespace Storefront.Base64

/-- The digit of six bits. -/
def digit (n : Nat) : Char :=
  if n < 26 then Char.ofNat ('A'.toNat + n)
  else if n < 52 then Char.ofNat ('a'.toNat + (n - 26))
  else if n < 62 then Char.ofNat ('0'.toNat + (n - 52))
  else if n = 62 then '+' else '/'

/-- The digits of a number of 24 bits. -/
def digits (n : Nat) : List Char :=
  [digit (n / 0x40000), digit (n / 0x1000 % 0x40), digit (n / 0x40 % 0x40), digit (n % 0x40)]

/-- **The text of octets.** -/
def encode : List UInt8 → List Char
  | a :: b :: c :: rest => digits ((a.toNat * 0x100 + b.toNat) * 0x100 + c.toNat) ++ encode rest
  | [a, b] => (digits ((a.toNat * 0x100 + b.toNat) * 0x100)).take 3 ++ ['=']
  | [a] => (digits (a.toNat * 0x10000)).take 2 ++ ['=', '=']
  | [] => []

example : encode [0x75, 0x3A, 0xFF, 0xFE] = "dTr//g==".toList := by decide +kernel

end Storefront.Base64
