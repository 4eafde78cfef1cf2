import Storefront.Domain.Direction
import Storefront.Domain.Joining
import Storefront.Domain.Mapping
import Storefront.Domain.Punycode
import Storefront.Text.Split

/-!
# Domain names

The one written form of a domain, which is in ASCII: labels in other characters are written in
Punycode behind a mark.

## Main definitions

* `isDenied`: what may not stand in a domain, whatever it was written as
* `Label`, `Label.ofText?`: a label in both of its forms
* `name?`: the written form of a domain
-/

namespace Storefront.Domain

open Text

/-- What may not stand in a domain, whatever it was written as: controls, the blank, and the
characters that divide a URL. -/
def isDenied (c : Char) : Bool :=
  decide (c.toNat ≤ 0x20) || c.toNat = 0x7F || "%#/:<>?@[\\]^|".toList.contains c

/-- A label of a domain. -/
structure Label where
  /-- Its characters. -/
  text : List Char
  /-- Its form in ASCII. -/
  ascii : List Char
  deriving DecidableEq, Repr

/-- What stands in front of a label in Punycode. -/
def punycodeMark : List Char := "xn--".toList

/-- How many characters of a label can be written in Punycode, and how many can be read. -/
def maxWritten : Nat := 1000
@[inherit_doc maxWritten] def maxRead : Nat := 2000

namespace Label

/-- The label that Punycode stands for: it must be one that is written so, and settled. -/
def ofPunycode? (code : List Char) : Option Label := do
  if !code.all isAscii || code.getLast? = some '-' || maxRead < code.length then none
  let text ← Punycode.decode? code
  if text.isEmpty || !text.all isSettled || compose text ≠ text then none
  return { text, ascii := punycodeMark ++ code }

/-- The form of a text in ASCII. -/
def asciiForm? (text : List Char) : Option (List Char) :=
  if text.all isAscii then some text
  else if maxWritten < text.length then none
  else some (punycodeMark ++ Punycode.encode text)

/-- **The label that a text without points says.** It does not begin with a mark, and its joiners
have their place. -/
def ofText? (s : List Char) : Option Label := do
  if s.any isDenied then none
  let label ←
    if punycodeMark.isPrefixOf s then ofPunycode? (s.drop punycodeMark.length)
    else (asciiForm? s).map fun ascii => { text := s, ascii }
  if label.text.head?.any isMark || !areJoinersAllowed label.text then none
  return label

end Label

/-- **The written form of a domain.** Where one label is written from right to left, each of them
must have one direction. -/
def name? (s : List Char) : Option (List Char) := do
  let labels ← (split '.' (← normalize? s)).mapM Label.ofText?
  if (labels.any fun l => l.text.any isRightToLeft) &&
      !(labels.all fun l => hasOneDirection l.text) then none
  return ['.'].intercalate (labels.map Label.ascii)

example : name? "Example.COM".toList = some "example.com".toList := by decide +kernel
example : name? "a b".toList = none := by decide +kernel
example : name? "a..b.".toList = some "a..b.".toList := by decide +kernel
example : name? "xn--a-".toList = none := by decide +kernel

end Storefront.Domain
