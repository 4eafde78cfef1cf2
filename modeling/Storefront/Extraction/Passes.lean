import Storefront.Extraction.Lexicon

/-!
# The extraction passes

A pass looks for the leftmost place of a text where something can be taken, and leaves one space in
its place. The price pass takes a phrase with the number after it, the color pass the name of a
color that stands as whole words.

## Main definitions

* `locate`: the leftmost place where something is found
* `amount?`, `priceAt?`: a number, and a price phrase with its number, at the start of a text
* `ceiling?`: the value of digits that can be a price ceiling
* `takePrice`: the price pass
* `colorAt?`: a color at the start of a text
* `titleCase`: words with a capital each
* `takeColor`: the color pass

## Main results

* `locate_eq_none`: nothing is found exactly if there is nothing to find at any place
-/

namespace Storefront.Extraction

open Text

variable {α : Type}

/-- **The leftmost place where something is found.** `here` looks at the rest of the text from a
place on, and at the character before it. The answer is the text before the place and what was found
there. -/
def locate (here : Option Char → List Char → Option α) (before : Option Char) :
    List Char → Option (List Char × α)
  | [] => (here before []).map ([], ·)
  | c :: s =>
    match here before (c :: s) with
    | some a => some ([], a)
    | none => (locate here (some c) s).map fun (skipped, a) => (c :: skipped, a)

/-- The character before a place, given the text before the place. -/
def lastOr (before : Option Char) (skipped : List Char) : Option Char :=
  match skipped.getLast? with
  | some c => some c
  | none => before

/-- Nothing is found exactly if there is nothing to find at any place. -/
theorem locate_eq_none {here : Option Char → List Char → Option α} {before : Option Char}
    {s : List Char} : locate here before s = none ↔
      ∀ skipped rest, s = skipped ++ rest → here (lastOr before skipped) rest = none := by
  induction s generalizing before with
  | nil =>
    constructor
    · intro h skipped rest e
      obtain ⟨rfl, rfl⟩ := List.append_eq_nil_iff.1 e.symm
      simpa [locate, lastOr] using h
    · intro h
      simpa [locate, lastOr] using h [] [] rfl
  | cons c s ih =>
    constructor
    · intro h skipped rest e
      unfold locate at h
      split at h
      next => simp at h
      next hn =>
        -- Either the place is this one, or it lies in the rest of the text.
        cases skipped with
        | nil => rw [List.nil_append] at e; simpa [lastOr, e] using hn
        | cons d skipped =>
          obtain ⟨rfl, rfl⟩ := List.cons.inj e
          have := (@ih (some c)).1 (by simpa using h) skipped rest rfl
          cases hl : skipped.getLast? <;> simp_all [lastOr, List.getLast?_cons]
    · intro h
      unfold locate
      rw [show here before (c :: s) = none by simpa [lastOr] using h [] (c :: s) rfl]
      simp only [Option.map_eq_none_iff]
      refine ih.2 fun skipped rest e => ?_
      have := h (c :: skipped) rest (by simp [e])
      cases hl : skipped.getLast? <;> simp_all [lastOr, List.getLast?_cons]

/-! ## Prices -/

/-- The text after a currency sign, if there is one. -/
def dropCurrency : List Char → List Char
  | '$' :: s => s
  | s => s

/-- **A number at the start of a text**, after white space and a currency sign: its digits, as many
as there are, and what follows. -/
def amount? (s : List Char) : Option (List Char × List Char) :=
  let s := dropCurrency (dropBlanks s)
  match s.takeWhile isDigit with
  | [] => none
  | digits => some (digits, s.dropWhile isDigit)

/-- **A price at the start of a text**, after white space: the first phrase that has a number after
it, with its digits and what follows. -/
def priceAt? (phrases : List Entry) (s : List Char) : Option (List Char × List Char) :=
  phrases.findSome? fun p => (dropWords? p.words (dropBlanks s)).bind amount?

/-- The greatest price ceiling. -/
def maxCeiling : Nat := 4294967295

/-- **The value of digits that can be a price ceiling**: the usual ten digits only, and not beyond
the greatest ceiling. -/
def ceiling? (digits : List Char) : Option Nat :=
  if digits.all isAsciiDigit && decide (Nat.ofDigitChars 10 digits 0 ≤ maxCeiling) then
    some (Nat.ofDigitChars 10 digits 0)
  else none

/-- **The price pass.** The leftmost price leaves the text if its number can be a ceiling; if it
cannot, the text stays as it is and later prices do not count. -/
def takePrice (phrases : List Entry) (s : List Char) : List Char × Option Nat :=
  match locate (fun _ => priceAt? phrases) none s with
  | none => (s, none)
  | some (skipped, digits, rest) =>
    -- A number that is no ceiling stays in the text, and hides the prices behind it.
    match ceiling? digits with
    | none => (s, none)
    | some n => (skipped ++ ' ' :: rest, some n)

/-! ## Colors -/

/-- **A color at the start of a text**: the first entry that stands there as whole words. The answer
is the text taken and what follows. -/
def colorAt? (colors : List Entry) (before : Option Char) (s : List Char) :
    Option (List Char × List Char) :=
  if isBoundary before s.head? then
    colors.findSome? fun e =>
      (dropWords? e.words s).bind fun rest =>
        let taken := s.take (s.length - rest.length)
        -- An entry that ends inside a word gives way to a shorter one.
        if isBoundary (lastOr before taken) rest.head? then some (taken, rest) else none
  else none

/-- A word with its first character in upper case and all others in lower case. -/
def titleWord : List Char → List Char
  | [] => []
  | c :: s => upperCase c ++ s.flatMap lowerCase

/-- **Title case**: the words of a text, each with a capital, joined by single spaces. -/
def titleCase (s : List Char) : List Char := joinSpaced ((words s).map titleWord)

/-- **The color pass.** The leftmost color leaves the text and is reported in title case. -/
def takeColor (colors : List Entry) (s : List Char) : List Char × Option (List Char) :=
  match locate (colorAt? colors) none s with
  | none => (s, none)
  | some (skipped, taken, rest) => (skipped ++ ' ' :: rest, some (titleCase taken))

end Storefront.Extraction
