import Storefront.Vocabulary
import Storefront.Extraction.Passes

/-!
# Extracting constraints

What a shopper types holds two constraints besides the words to look for: a price ceiling and a
color. Extraction takes them out of the text.

## Main definitions

* `Constraints`: the clean text and the two constraints
* `Extractor`, `Extractor.ofVocabulary?`: a vocabulary made ready, if it is not too large
* `Extractor.extract`: the constraints of a text

## Main results

* `eq_ofVocabulary`: the limit on the size of entries does not change what is made of them
* `extract_cleanText`: the clean text is the collapsed text that the passes leave
-/

namespace Storefront

open Extraction Text

/-- What extraction finds in a text. -/
structure Constraints where
  /-- The text without the constraints, its white space collapsed. -/
  cleanText : String
  /-- The price ceiling. -/
  priceCeiling : Option Nat
  /-- The color, in title case. -/
  color : Option String
  deriving DecidableEq, Repr

/-- The reason why a vocabulary cannot be used: the pattern of one of its entries would be larger
than a pattern may be. -/
inductive VocabularyError where
  /-- An entry has too many words. -/
  | tooLarge
  deriving DecidableEq, Repr

/-- The text of the error. -/
def VocabularyError.message : VocabularyError → String
  | .tooLarge => "Compiled regex exceeds size limit of 10485760 bytes."

/-- A vocabulary made ready for extraction. -/
structure Extractor where
  /-- The price phrases. -/
  phrases : List Entry
  /-- The colors. -/
  colors : List Entry

namespace Extractor

/-- How many words an entry may have. This stands in for a limit on the size of the patterns that
the entries are matched with; what is known of extraction does not depend on it. -/
def maxWords : Nat := 15000

/-- Whether every entry is small enough to be matched. -/
def fits (entries : List Entry) : Bool := entries.all fun e => decide (e.words.length ≤ maxWords)

/-- The extractor of a vocabulary. -/
def ofVocabulary (v : Vocabulary) : Extractor where
  phrases := lexicon v.pricePhrases
  colors := lexicon v.colors

/-- **The extractor of a vocabulary**, unless one of its entries is too large. -/
def ofVocabulary? (v : Vocabulary) : Except VocabularyError Extractor :=
  let x := ofVocabulary v
  if fits x.phrases && fits x.colors then .ok x else .error .tooLarge

/-- There is one extractor of a vocabulary, if there is any. -/
theorem eq_ofVocabulary {v : Vocabulary} {x : Extractor} (h : ofVocabulary? v = .ok x) :
    x = ofVocabulary v := by
  unfold ofVocabulary? at h
  dsimp only at h
  split at h
  · exact (Except.ok.inj h).symm
  · cases h

/-- The passes over a text: the price, the color, and the price once more if there was none, since
taking a color out can join a phrase with its number. -/
def passes (x : Extractor) (s : List Char) : List Char × Option Nat × Option (List Char) :=
  let (s, price) := takePrice x.phrases s
  let (s, color) := takeColor x.colors s
  -- The first price wins: the second pass looks only where the first found none.
  match price with
  | some n => (s, some n, color)
  | none =>
    let (s, price) := takePrice x.phrases s
    (s, price, color)

/-- **The constraints of a text.** -/
def extract (x : Extractor) (text : String) : Constraints :=
  let (rest, price, color) := x.passes text.toList
  { cleanText := String.ofList (collapse rest)
    priceCeiling := price
    color := color.map String.ofList }

/-- The clean text is the collapsed text that the passes leave. -/
@[simp] theorem extract_cleanText (x : Extractor) (text : String) :
    (x.extract text).cleanText = String.ofList (collapse (x.passes text.toList).1) := rfl

@[simp] theorem extract_priceCeiling (x : Extractor) (text : String) :
    (x.extract text).priceCeiling = (x.passes text.toList).2.1 := rfl

@[simp] theorem extract_color (x : Extractor) (text : String) :
    (x.extract text).color = (x.passes text.toList).2.2.map String.ofList := rfl

end Extractor

end Storefront
