import Storefront.Text.Mark

/-!
# Directions of writing

Labels of a domain in which letters from left to right and from right to left meet could be read in
several ways. As soon as a domain has a character of the second kind, each label must have one
direction, which its first and its last character show.

## Main definitions

* `Direction`, `Direction.of`: the direction of a character
* `isRightToLeft`: a character that makes a domain one of two directions
* `hasOneDirection`: the rule for a label

## Main results

* `not_isRightToLeft_of_lt`: no such character is among the first ones
-/

namespace Storefront.Domain

open Text

/-- **The direction of a character.** -/
inductive Direction where
  /-- From left to right. -/
  | left
  /-- From right to left. -/
  | right
  /-- An Arabic number. -/
  | arabicNumber
  /-- A European number. -/
  | europeanNumber
  /-- That of what stands around it. -/
  | neutral
  /-- That of the character that a mark stands on. -/
  | mark
  deriving DecidableEq, Repr

/-- The ranges of letters that are written from right to left. -/
def rightText : List String :=
  ["5BE 5C0 5C3 5C6 5D0-5F4 608 60B 60D 61B-64A 66D-66F 671-6D5 6E5-6E6 6EE-6EF 6FA-710 712-72F",
   "74D-7A5 7B1-7EA 7F4-7F5 7FA 7FE-815 81A 824 828 830-858 85E-88F 8A0-8C9 FBB2-FBC2 FE73",
   "10800-1091B 10920-10A00 10A10-10A35 10A40-10AE4 10AEB-10B35 10B40-10D23 10D4A-10D4F",
   "10D6F-10D8F 10E80-10EA9 10EAD-10ED8 10F00-10F45 10F51-10F81 10F86-10FF6 1E800-1E8CF",
   "1E922-1E943 1E94B-1ED3D"]

/-- The ranges of Arabic numbers. -/
def arabicNumberText : List String :=
  ["660-669 66B-66C 10D30-10D49 10E60-10E7E"]

/-- The ranges of European numbers. -/
def europeanNumberText : List String :=
  ["30-39 6F0-6F9 102E1-102FB"]

/-- The ranges of characters that take the direction of what stands around them. -/
def neutralText : List String :=
  ["0-8 E-1B 21-2F 3A-60 7B-D7 F7 2B9-2BA 2C2-2CF 2D2-2ED 2EF-2FF 375 3F6 58A-58F 606-607",
   "609-60A 60C 60E-60F 66A 6DE 6E9 7F6-7F9 9F2-9F3 9FB AF1 BF3-BFA C78-C7E E3F F3A-F3D",
   "1390-1399 1400 169B-169C 17DB 17F0-180A 1940-1945 19DE-19FF 200C-20C1 2104-214D 218A-2335",
   "237B-2394 2396-2426 2440-26AB 26AD-27FF 2900-2BFF 2CE5-2CEA 2CF9-2CFF 2E00-3004 3008-3020",
   "3030 3037 303D-303F 30A0 30FB 31C0-31E3 4DC0-4DFF A490-A4C6 A60D-A60F A673 A67E-A67F",
   "A700-A721 A788 A828-A82B A838-A839 A874-A877 AB6A-AB6B FBC3-FDFF FE45-FE46 10101 10140-1018C",
   "10190-101A0 1091F 10B39-10B3F 10D6E 11052-11065 11660-1166C 11FD5-11FF1 16FE2 1CC00-1CEF0",
   "1D1E9-1D241 1D245 1D300-1D356 1E2FF 1EEF0-1F12F 1F16D-1F16F 1F1AD 1F260-1FBFA"]

/-- The ranges of marks that have a direction of their own, from left to right. -/
def leftMarkText : List String :=
  ["CBF CC6 11A07 11A08 11C3F"]

/-- The letters that are written from right to left. -/
def rightRanges : List CodeRange := rangesOf rightText

/-- The Arabic numbers. -/
def arabicNumberRanges : List CodeRange := rangesOf arabicNumberText

/-- The European numbers. -/
def europeanNumberRanges : List CodeRange := rangesOf europeanNumberText

/-- The characters that take the direction of what stands around them. -/
def neutralRanges : List CodeRange := rangesOf neutralText

/-- The marks that have a direction of their own. -/
def leftMarkRanges : List CodeRange := rangesOf leftMarkText

/-- **The direction of a character** that may stand in a domain. -/
def Direction.of (c : Char) : Direction :=
  if isNonspacing c && !inRanges leftMarkRanges c.toNat then .mark
  else if inRanges rightRanges c.toNat then .right
  else if inRanges arabicNumberRanges c.toNat then .arabicNumber
  else if inRanges europeanNumberRanges c.toNat then .europeanNumber
  else if inRanges neutralRanges c.toNat then .neutral
  else .left

/-- **A character that makes a domain one of two directions.** -/
def isRightToLeft (c : Char) : Bool :=
  decide (0x590 ≤ c.toNat) &&
    (Direction.of c = .right || Direction.of c = .arabicNumber : Bool)

/-- No character that makes a domain one of two directions is among the first ones. -/
theorem not_isRightToLeft_of_lt {c : Char} (h : c.toNat < 0x590) : isRightToLeft c = false := by
  simp [isRightToLeft, Nat.not_le.2 h]

/-- Whether a direction may occur in a label from left to right. -/
def Direction.isInLeft : Direction → Bool
  | .left | .europeanNumber | .neutral | .mark => true
  | _ => false

/-- Whether a direction may occur in a label from right to left. -/
def Direction.isInRight : Direction → Bool
  | .left => false
  | _ => true

/-- Whether directions behind the first one make a label from left to right. Marks at the end stand
on the character in front of them. -/
def isLeftLabel (rest : List Direction) : Bool :=
  rest.all Direction.isInLeft &&
    ((rest.reverse.dropWhile (· = .mark)).head?.all fun d => d = .left || d = .europeanNumber)

/-- Whether directions behind the first one make a label from right to left, which has numbers of
one kind. -/
def isRightLabel (rest : List Direction) : Bool :=
  rest.all Direction.isInRight &&
    ((rest.reverse.dropWhile (· = .mark)).head?.all fun d =>
      d = .right || d = .arabicNumber || d = .europeanNumber) &&
    !(rest.contains .arabicNumber && rest.contains .europeanNumber)

/-- **Whether a label has one direction**, which its first character shows. -/
def hasOneDirection (label : List Char) : Bool :=
  match label.map Direction.of with
  | [] => true
  | .left :: rest => isLeftLabel rest
  | .right :: rest => isRightLabel rest
  | _ :: _ => false

end Storefront.Domain
