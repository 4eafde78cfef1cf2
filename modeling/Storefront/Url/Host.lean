import Storefront.Domain.Name
import Storefront.Net.Address
import Storefront.Url.Percent

/-!
# Hosts

The host in a URL: a domain, an address of four numbers in any base, or one of eight groups in
brackets, in its one written form.

## Main definitions

* `ipv4Host?`: the form of an address of numbers
* `renderIpv6`: the form of an address of groups
* `specialHost?`, `otherHost?`: the form of a host, in the schemes of the web and in others
-/

namespace Storefront.Url

open Net Text

/-- What may not stand in a host that is no domain. -/
def isForbidden (c : Char) : Bool := "\x00\t\n\r #/:<>?@[\\]^|".toList.contains c

/-! ## Addresses of numbers -/

/-- The number of a part: decimal, octal behind a zero, hexadecimal behind `0x`. -/
def number? : List Char → Option Nat
  | '0' :: 'x' :: rest | '0' :: 'X' :: rest => if rest.isEmpty then some 0 else ofDigits? 16 rest
  | ['0'] => some 0
  | '0' :: rest => ofDigits? 8 rest
  | s => ofDigits? 10 s

/-- The parts of a host between points; a point at the end is ignored. -/
def parts (s : List Char) : List (List Char) :=
  let ps := split '.' s
  if 1 < ps.length ∧ ps.getLast? = some [] then ps.dropLast else ps

/-- **Whether a host ends in a number**; such a host must be an address. -/
def endsInNumber (s : List Char) : Bool :=
  (parts s).getLast?.any fun p =>
    (!p.isEmpty && p.all isAsciiDigit) || (p.take 1 = ['0'] && (number? p).isSome)

/-- The value of an address: all numbers but the last are octets, and the last fills the rest. -/
def addressValue? : (octets : Nat) → List Nat → Option Nat
  | octets, [n] => if n < Nat.pow 256 octets then some n else none
  | octets + 1, n :: rest =>
    if n < 256 then (addressValue? octets rest).map fun v => n * Nat.pow 256 octets + v else none
  | _, _ => none

/-- A number in decimal. -/
def decimal (n : Nat) : List Char := Nat.toDigits 10 n

/-- **The form of an address of numbers.** -/
def ipv4Host? (s : List Char) : Option (List Char) := do
  let value ← addressValue? 4 (← (parts s).mapM number?)
  let octet (place : Nat) : List Char := decimal (value / Nat.pow 256 place % 256)
  return ['.'].intercalate [octet 3, octet 2, octet 1, octet 0]

/-! ## Addresses of groups -/

/-- The length of the run of zeros at the start of a list. -/
def zerosAt (gs : List Nat) : Nat := (gs.takeWhile (· = 0)).length

/-- The place and length of the first longest run of zeros. -/
def longestZeros : (place : Nat) → List Nat → Nat × Nat
  | _, [] => (0, 0)
  | place, g :: rest =>
    let best := longestZeros (place + 1) rest
    if zerosAt (g :: rest) ≥ best.2 then (place, zerosAt (g :: rest)) else best

/-- Groups with colons between them. -/
def renderGroups (gs : List Nat) : List Char := [':'].intercalate (gs.map (Nat.toDigits 16))

/-- **The form of an address of groups**: the first longest run of zeros is left out if it has more
than one group. -/
def renderIpv6 (gs : List Nat) : List Char :=
  let (place, count) := longestZeros 0 gs
  if 1 < count then
    renderGroups (gs.take place) ++ "::".toList ++ renderGroups (gs.drop (place + count))
  else renderGroups gs

/-- The form of a host that begins with a bracket, given what follows the bracket. -/
def ipv6Host? (inner : List Char) : Option (List Char) :=
  if inner.getLast? = some ']' then
    (ipv6? inner.dropLast).map fun gs => '[' :: renderIpv6 gs ++ [']']
  else none

/-! ## Hosts -/

/-- **The form of a host in a scheme of the web**, where it is a domain or an address. -/
def specialHost? : List Char → Option (List Char)
  | '[' :: inner => ipv6Host? inner
  | s => do
    -- Encoded characters count as what they stand for.
    let domain ← Domain.name? (← Utf8.decode? (decode s))
    if domain.isEmpty then none
    else if endsInNumber domain then ipv4Host? domain
    else some domain

/-- **The form of a host in any other scheme.** -/
def otherHost? : List Char → Option (List Char)
  | '[' :: inner => ipv6Host? inner
  | s => if s.any isForbidden then none else some (encode isPrintable s)

example : specialHost? "0x7F.1".toList = some "127.0.0.1".toList := by decide +kernel
example : specialHost? "[0:0:1::0]".toList = some "[0:0:1::]".toList := by decide +kernel
example : specialHost? "Example.COM".toList = some "example.com".toList := by decide +kernel
example : specialHost? "1.2.3.256".toList = none := by decide +kernel

end Storefront.Url
