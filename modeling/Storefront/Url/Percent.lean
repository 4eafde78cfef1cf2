import Storefront.Text.Digit
import Storefront.Text.Utf8

/-!
# Percent-encoding

Characters that may not stand in a part of a URL are written as the octets of their UTF-8 form, each
one behind a percent sign.

## Main definitions

* `encode`: the text with characters encoded that may not stand as they are
* `decode`: the octets of a text, those behind percent signs included
* `inFragment`, `inQuery`, `inPath`, `inUser`: what may stand as it is

## Main results

* `encode_eq_self`: a text of allowed characters is not changed
-/

namespace Storefront.Url

open Text

/-- A hexadecimal digit in upper case. -/
def percentDigit (n : Nat) : Char := (Nat.digitChar n).toUpper

/-- One octet behind a percent sign. -/
def percentOctet (b : UInt8) : List Char :=
  ['%', percentDigit (b.toNat / 16), percentDigit (b.toNat % 16)]

/-- **The text with the characters encoded** that may not stand as they are. -/
def encode (mayStand : Char → Bool) (s : List Char) : List Char :=
  s.flatMap fun c => if mayStand c then [c] else (Utf8.encode [c]).flatMap percentOctet

/-- A text of allowed characters is not changed. -/
theorem encode_eq_self {mayStand : Char → Bool} {s : List Char} (h : ∀ c ∈ s, mayStand c) :
    encode mayStand s = s := by
  induction s with
  | nil => rfl
  | cons c rest ih =>
    have hr := ih fun d hd => h d (List.mem_cons_of_mem c hd)
    unfold encode at hr ⊢
    simp [h c, hr]

/-- The octets of a text; a percent sign and two hexadecimal digits are one octet. -/
def decode : List Char → List UInt8
  | '%' :: a :: b :: rest =>
    match hexValue? a, hexValue? b with
    | some h, some l => UInt8.ofNat (h * 16 + l) :: decode rest
    | _, _ => 0x25 :: decode (a :: b :: rest)
  | c :: rest => Utf8.encode [c] ++ decode rest
  | [] => []

/-! ## What may stand as it is -/

/-- The printable characters of ASCII, which may stand in a host of any kind. -/
def isPrintable (c : Char) : Bool := decide (0x20 ≤ c.toNat) && decide (c.toNat < 0x7F)

/-- What may stand in a fragment. -/
def inFragment (c : Char) : Bool := isPrintable c && !" \"<>`".toList.contains c

/-- What may stand in a query. -/
def inQuery (c : Char) : Bool := isPrintable c && !" \"#<>".toList.contains c

/-- What may stand in a query over HTTP. -/
def inSpecialQuery (c : Char) : Bool := inQuery c && c != '\x27'

/-- What may stand in a path. -/
def inPath (c : Char) : Bool := inFragment c && !"#?{}".toList.contains c

/-- What may stand in the name or the password of a user. -/
def inUser (c : Char) : Bool := inPath c && !"/:;=@[\\]^|".toList.contains c

end Storefront.Url
