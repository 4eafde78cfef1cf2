import Storefront.Text.CompositionTable

/-!
# Composed texts

The composed form of a text: marks stand in the order of their classes, and a character and a mark
behind it are one character where there is one. The syllables of Hangul are composed by rule, and
everything else by the table of composites.

## Main definitions

* `combiningClass`: the class of a mark, zero for other characters
* `decompose`, `order`, `composeAll`: the three steps
* `compose`: the composed form of a text

## Main results

* `compose_of_ascii`: a text in ASCII is in composed form
-/

namespace Storefront.Text

/-- **The combining class** of a character, which is zero unless it is a mark. -/
def combiningClass (c : Char) : Nat :=
  if c.toNat < 0x300 then 0
  else ((classRanges.find? fun (_, ranges) => inRanges ranges c.toNat).map Prod.fst).getD 0

/-! ## Hangul -/

/-- The numbers of leading letters, of vowels, and of trailing letters with none of them. -/
def leadCount : Nat := 19
@[inherit_doc leadCount] def vowelCount : Nat := 21
@[inherit_doc leadCount] def trailCount : Nat := 28

/-- The code points of the first leading letter and the first vowel, of the one before the first
trailing letter, and of the first syllable. -/
def leadBase : Nat := 0x1100
@[inherit_doc leadBase] def vowelBase : Nat := 0x1161
@[inherit_doc leadBase] def trailBase : Nat := 0x11A7
@[inherit_doc leadBase] def syllableBase : Nat := 0xAC00

/-- The place of a code point among `count` ones from `base` on. -/
def placeFrom? (base count c : Nat) : Option Nat :=
  if base ≤ c ∧ c < base + count then some (c - base) else none

/-- The letters of a syllable. -/
def letters? (c : Nat) : Option (List Nat) :=
  (placeFrom? syllableBase (leadCount * vowelCount * trailCount) c).map fun n =>
    let trail := n % trailCount
    [leadBase + n / trailCount / vowelCount, vowelBase + n / trailCount % vowelCount] ++
      (if trail = 0 then [] else [trailBase + trail])

/-- The syllable of a leading letter and a vowel, or of a syllable without a trailing letter and
one. -/
def syllable? (first second : Nat) : Option Nat :=
  match placeFrom? leadBase leadCount first, placeFrom? vowelBase vowelCount second with
  | some l, some v => some (syllableBase + (l * vowelCount + v) * trailCount)
  | _, _ =>
    match placeFrom? syllableBase (leadCount * vowelCount * trailCount) first,
      placeFrom? trailBase trailCount second with
    | some n, some t => if n % trailCount = 0 ∧ t ≠ 0 then some (first + t) else none
    | _, _ => none

/-! ## The three steps -/

/-- The parts of a code point by a table in which every composite stands before its parts. -/
def partsIn : List Composite → Nat → List Nat
  | [], c => [c]
  | k :: rest, c => if k.whole = c then partsIn rest k.first ++ [k.second] else partsIn rest c

/-- The parts of a character. -/
def decompose (c : Char) : List Char :=
  if c.toNat < 0x80 then [c]
  else ((letters? c.toNat).getD (partsIn composites c.toNat)).map Char.ofNat

/-- Puts a character in front of an ordered text; it moves behind marks of a lower class. -/
def sink (c : Char) : List Char → List Char
  | [] => [c]
  | d :: rest =>
    if 0 < combiningClass d ∧ combiningClass d < combiningClass c then d :: sink c rest
    else c :: d :: rest

/-- The text with the marks on each character in the order of their classes. -/
def order (s : List Char) : List Char := s.foldr sink []

/-- The character that two others make. -/
def pair? (first second : Char) : Option Char :=
  ((syllable? first.toNat second.toNat) <|>
    (composites.find? fun k => k.first = first.toNat ∧ k.second = second.toNat).map
      Composite.whole).map Char.ofNat

/-- Composes a character with what follows it. Marks that stay are kept behind it, and a mark does
not pass another one of its class. -/
def composeFrom (base : Char) (marks : List Char) : List Char → List Char
  | [] => base :: marks
  | c :: rest =>
    let isNext := marks.getLast?.all fun mark => combiningClass mark < combiningClass c
    match (if isNext then pair? base c else none) with
    | some whole => composeFrom whole marks rest
    | none =>
      if combiningClass c = 0 then base :: marks ++ composeFrom c [] rest
      else composeFrom base (marks ++ [c]) rest

/-- Composes what can be composed. Marks at the start have nothing to stand on. -/
def composeAll (s : List Char) : List Char :=
  match s.span fun c => combiningClass c ≠ 0 with
  | (marks, []) => marks
  | (marks, base :: rest) => marks ++ composeFrom base [] rest

/-- **The composed form of a text** whose characters are each in composed form. -/
def compose (s : List Char) : List Char :=
  if s.all fun c => c.toNat < 0x80 then s else composeAll (order (s.flatMap decompose))

/-- A text in ASCII is in composed form. -/
theorem compose_of_ascii {s : List Char} (h : ∀ c ∈ s, c.toNat < 0x80) : compose s = s := by
  have : (s.all fun c => decide (c.toNat < 0x80)) = true := by simpa using h
  simp [compose, this]

example : letters? 0xD55C = some [0x1112, 0x1161, 0x11AB] := by decide
example : syllable? 0x1112 0x1161 = some 0xD558 ∧ syllable? 0xD558 0x11AB = some 0xD55C := by
  decide

end Storefront.Text
