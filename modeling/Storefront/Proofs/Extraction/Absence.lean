import Storefront.Proofs.Extraction.Idempotence

/-!
# Constraints that are not reported

A constraint that extraction does not report does not stand in the clean text either. The passes ran
over other texts than the clean one: the color pass over a text that the price pass may have cut,
the second price pass over one that the color pass may have cut, and all of them before white space
was collapsed. A pass without a report leaves its text alone, so that the last pass of each kind has
seen what is left, and collapsing hides nothing and joins nothing.

## Main definitions

* `StandsIn`: a name stands in a text as whole words
* `Constraints.IsExhaustive`: what constraints leave out is not in their clean text

## Main results

* `takeColor_passes_of_none`, `takePrice_passes_of_none`: another pass over what is left reports
  nothing, if the passes did not
* `passes_eq_none_iff`: when the passes report nothing
* `isExhaustive_extract`: what extraction does not report is not in the clean text
-/

namespace Storefront

open Extraction Text

namespace Extraction

variable {names : List String} {name : String} {s digits : List Char}

/-! ## Names in texts -/

/-- **A name stands in a text as whole words**: a block of the text spells its words, up to letter
case and with any white space between them, and has a word boundary at both ends. A blank name
stands nowhere. -/
def StandsIn (name : String) (s : List Char) : Prop :=
  words name.toList ≠ [] ∧ ∃ before block after, s = before ++ (block ++ after) ∧
    Spells (words name.toList) block ∧ isBoundary before.getLast? block.head? = true ∧
    isBoundary block.getLast? after.head? = true

/-- Every name with words has an entry in the lexicon. -/
theorem exists_mem_lexicon (h : name ∈ names) (hne : words name.toList ≠ []) :
    ∃ e ∈ lexicon names, e.words = words name.toList := by
  obtain ⟨w, ws, hw⟩ := List.exists_cons_of_ne_nil hne
  refine ⟨⟨words name.toList, (trim name.toList).length⟩, mem_lexicon.2 ⟨name, h, ?_⟩, rfl⟩
  rw [Entry.ofText?, hw]

/-- A color of a lexicon stands in a text exactly if one of the names does. -/
theorem colorStands_lexicon_iff :
    ColorStands (lexicon names) s ↔ ∃ name ∈ names, StandsIn name s := by
  constructor
  · rintro ⟨before, block, after, hs, ⟨e, he, hsp⟩, hb, ha⟩
    obtain ⟨name, hn, hw, hne⟩ := exists_words_of_mem_lexicon he
    rw [hw] at hsp hne
    exact ⟨name, hn, hne, before, block, after, hs, hsp, hb, ha⟩
  · rintro ⟨name, hn, hne, before, block, after, hs, hsp, hb, ha⟩
    obtain ⟨e, he, hw⟩ := exists_mem_lexicon hn hne
    rw [← hw] at hsp
    exact ⟨before, block, after, hs, ⟨e, he, hsp⟩, hb, ha⟩

/-- Digits are no ceiling exactly if one of them is not among the usual ten, or if their value lies
beyond the greatest ceiling. -/
theorem ceiling?_eq_none_iff : ceiling? digits = none ↔
    (∃ d ∈ digits, isAsciiDigit d = false) ∨ maxCeiling < Nat.ofDigitChars 10 digits 0 := by
  unfold ceiling?
  split
  · next h =>
    rw [Bool.and_eq_true, List.all_eq_true, decide_eq_true_eq] at h
    obtain ⟨hd, hn⟩ := h
    simp only [reduceCtorEq, false_iff, not_or, not_exists, not_and, Nat.not_lt]
    exact ⟨fun d hm => by simp [hd d hm], hn⟩
  · next h =>
    rw [Bool.and_eq_true, List.all_eq_true, decide_eq_true_eq, not_and_or] at h
    simpa using h

/-- A price pass without a report, as a whole. -/
theorem takePrice_eq_of_none {entries : List Entry} (h : (takePrice entries s).2 = none) :
    takePrice entries s = (s, none) :=
  Prod.ext_iff.2 ⟨takePrice_fst_of_none h, h⟩

end Extraction

/-! ## Passes without a report -/

namespace Extractor

variable {v : Vocabulary} {x : Extractor} {s : List Char}

/-- **If no color was reported, none is found in what is left.** -/
theorem takeColor_passes_of_none (h : (x.passes s).2.2 = none) :
    (takeColor x.colors (x.passes s).1).2 = none := by
  cases hp : takePrice x.phrases s with
  | mk t price =>
    cases price with
    | some n =>
      -- The color pass came last, and left the text alone.
      rw [passes_of_some hp] at h ⊢
      rwa [takeColor_fst_of_none h]
    | none =>
      -- The second price pass saw the same text as the first one, so it took nothing either.
      have hs : (takePrice x.phrases s).2 = none := congrArg Prod.snd hp
      rw [passes_of_none hs] at h ⊢
      rw [takeColor_fst_of_none h, takePrice_fst_of_none hs]
      exact h

/-- **If no price was reported, none can be taken from what is left.** -/
theorem takePrice_passes_of_none (h : (x.passes s).2.1 = none) :
    (takePrice x.phrases (x.passes s).1).2 = none := by
  cases hp : takePrice x.phrases s with
  | mk t price =>
    cases price with
    | some n =>
      rw [passes_of_some hp] at h
      simp at h
    | none =>
      -- The second price pass came last, and left the text alone.
      rw [passes_of_none (congrArg Prod.snd hp)] at h ⊢
      rwa [takePrice_fst_of_none h]

/-- The passes report nothing exactly if the two passes over the text itself do not. -/
theorem passes_eq_none_iff : (x.passes s).2.1 = none ∧ (x.passes s).2.2 = none ↔
    (takePrice x.phrases s).2 = none ∧ (takeColor x.colors s).2 = none := by
  cases hp : takePrice x.phrases s with
  | mk t price =>
    cases price with
    | some n => simp [passes_of_some hp]
    | none =>
      rw [passes_of_none (congrArg Prod.snd hp)]
      constructor
      · rintro ⟨-, hc⟩
        exact ⟨rfl, hc⟩
      · rintro ⟨-, hc⟩
        -- The second price pass sees the text that the first one saw.
        exact ⟨by rw [takeColor_fst_of_none hc, hp], hc⟩

end Extractor

/-! ## Clean texts -/

/-- **What the constraints of a text leave out is not in their clean text.** -/
structure Constraints.IsExhaustive (v : Vocabulary) (x : Extractor) (text : List Char)
    (c : Constraints) : Prop where
  /-- Without a color, no color of the vocabulary stands in the clean text. -/
  color : c.color = none → ∀ name ∈ v.colors, ¬StandsIn name c.cleanText.toList
  /-- Without a price ceiling, the leftmost price of the clean text has digits that are no
  ceiling. -/
  price : c.priceCeiling = none → ∀ digits, LeadingPrice x.phrases c.cleanText.toList digits →
    (∃ d ∈ digits, isAsciiDigit d = false) ∨ maxCeiling < Nat.ofDigitChars 10 digits 0
  /-- Without a price ceiling, another price pass takes nothing. -/
  pass : c.priceCeiling = none →
    takePrice x.phrases c.cleanText.toList = (c.cleanText.toList, none)
  /-- Without either, extraction from the clean text reports nothing and changes nothing. -/
  settled : c.priceCeiling = none → c.color = none → x.IsSettled c.cleanText
  /-- Both are left out exactly if no color stands in the text itself and its leftmost price has
  digits that are no ceiling. -/
  nothing : c.priceCeiling = none ∧ c.color = none ↔
    (∀ name ∈ v.colors, ¬StandsIn name text) ∧
      ∀ digits, LeadingPrice x.phrases text digits → ceiling? digits = none

namespace Extractor

variable {v : Vocabulary} {x : Extractor}

/-- A price pass over the clean text reports nothing if extraction reports no price. -/
theorem takePrice_cleanText_of_none (hp : IsProper x.phrases) {text : String}
    (h : (x.extract text).priceCeiling = none) :
    (takePrice x.phrases (x.extract text).cleanText.toList).2 = none := by
  rw [extract_priceCeiling] at h
  rw [toList_cleanText, (takePrice_collapse hp _).1]
  exact takePrice_passes_of_none h

/-- A color pass over the clean text reports nothing if extraction reports no color. -/
theorem takeColor_cleanText_of_none (hc : IsProper x.colors) {text : String}
    (h : (x.extract text).color = none) :
    (takeColor x.colors (x.extract text).cleanText.toList).2 = none := by
  rw [extract_color, Option.map_eq_none_iff] at h
  rw [toList_cleanText, (takeColor_collapse hc _).1]
  exact takeColor_passes_of_none h

/-- **What extraction does not report is not in the clean text.** -/
theorem isExhaustive_extract (v : Vocabulary) (text : String) :
    ((ofVocabulary v).extract text).IsExhaustive v (ofVocabulary v) text.toList := by
  have hp : IsProper (ofVocabulary v).phrases := isProper_lexicon v.pricePhrases
  have hc : IsProper (ofVocabulary v).colors := isProper_lexicon v.colors
  have hstands (s : List Char) : (takeColor (ofVocabulary v).colors s).2 = none ↔
      ∀ name ∈ v.colors, ¬StandsIn name s := by
    rw [takeColor_eq_none_iff hc, show (ofVocabulary v).colors = lexicon v.colors from rfl,
      colorStands_lexicon_iff]
    simp
  refine ⟨?_, ?_, ?_, ?_, ?_⟩
  · intro hn
    exact (hstands _).1 (takeColor_cleanText_of_none hc hn)
  · intro hn digits hd
    have hnone := takePrice_eq_none_iff.1 (takePrice_cleanText_of_none hp hn) digits hd
    exact ceiling?_eq_none_iff.1 hnone
  · intro hn
    exact takePrice_eq_of_none (takePrice_cleanText_of_none hp hn)
  · intro hn hnc
    rw [isSettled_iff (collapse_cleanText _ text)]
    exact ⟨takePrice_cleanText_of_none hp hn, takeColor_cleanText_of_none hc hnc⟩
  · rw [← hstands, ← takePrice_eq_none_iff, and_comm (b := (takePrice _ _).2 = none),
      ← passes_eq_none_iff, extract_priceCeiling, extract_color, Option.map_eq_none_iff]

/-- A color inside a word is no color, and an amount beyond the greatest ceiling is none. -/
theorem isExhaustive_extract_of_overflow :
    (ofVocabulary .standard).extract "bluetooth  under 99999999999" =
        { cleanText := "bluetooth under 99999999999", priceCeiling := none, color := none } ∧
      LeadingPrice (ofVocabulary .standard).phrases "bluetooth under 99999999999".toList
        "99999999999".toList ∧
      ((ofVocabulary .standard).extract "bluetooth  under 99999999999").IsExhaustive .standard
        (ofVocabulary .standard) "bluetooth  under 99999999999".toList := by
  refine ⟨?_, ?_, isExhaustive_extract .standard _⟩
  · rw [ofVocabulary_standard]
    decide +kernel
  · rw [ofVocabulary_standard, leadingPrice_iff]
    exact ⟨"bluetooth".toList, [], by decide +kernel⟩

end Extractor

end Storefront
