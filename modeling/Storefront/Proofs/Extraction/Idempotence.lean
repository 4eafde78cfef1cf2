import Storefront.Proofs.Extraction.Removal
import Storefront.Proofs.Extraction.Respacing

/-!
# Extracting from the clean text

Extraction from a clean text finds something again exactly if the pieces that are left hold a price
or a color after they are joined. A text with one price, one phrase and one color does not keep the
pieces from doing so: the words of a phrase can stand on both sides of a price.

## Main definitions

* `ColorStands`: a color stands in a text as whole words
* `LeadingPrice`: the leftmost price of a text, by its digits
* `HasSingleConstraints`: a text holds one constraint of each kind at most

## Main results

* `takeColor_eq_none_iff`, `takePrice_eq_none_iff`: when the passes report nothing
* `isSettled_cleanText_iff`: when extraction from the clean text finds nothing more
* `extract_again_finds_ceiling`: it can find something more
-/

namespace Storefront

open Extraction Text

namespace Extraction

variable {s rest block : List Char} {ws : List (List Char)} {entries : List Entry}

/-! ## What passes report -/

/-- What is taken as a color is a block that spells an entry between two word boundaries. -/
theorem exists_colorAt?_iff (he : IsProper entries) {before : Option Char} :
    (∃ p, colorAt? entries before s = some p) ↔
      ∃ block after, s = block ++ after ∧ (∃ e ∈ entries, Spells e.words block) ∧
        isBoundary before block.head? = true ∧ isBoundary block.getLast? after.head? = true := by
  constructor
  · -- what is taken
    rintro ⟨⟨block, after⟩, h⟩
    obtain ⟨e, hm, rfl, hs, hb, ha⟩ := colorAt?_eq_some h
    obtain ⟨c, t, rfl, -⟩ := hs.head? (he e hm).1 (he e hm).2
    rw [lastOr_eq_getLast? (List.cons_ne_nil c t)] at ha
    exact ⟨c :: t, after, rfl, ⟨e, hm, hs⟩, hb, ha⟩
  · -- a block that could be taken: if nothing were, its own entry would not be found
    rintro ⟨block, after, rfl, ⟨e, hm, hs⟩, hb, ha⟩
    obtain ⟨c, t, hne, -⟩ := hs.head? (he e hm).1 (he e hm).2
    have hhead : (block ++ after).head? = block.head? := by rw [hne, List.cons_append]; rfl
    rw [← hhead] at hb
    rw [← lastOr_eq_getLast? (by simp [hne]) before] at ha
    refine Option.ne_none_iff_exists'.1 fun hn => ?_
    rw [colorAt?, if_pos hb, List.findSome?_eq_none_iff] at hn
    have := hn e hm
    rw [dropWords?_append hs (he e hm).2, Option.bind_some] at this
    dsimp only at this
    rw [take_length_sub, if_pos ha] at this
    simp at this

/-- **A color stands in a text** as whole words. -/
def ColorStands (colors : List Entry) (s : List Char) : Prop :=
  ∃ before block after, s = before ++ (block ++ after) ∧ (∃ e ∈ colors, Spells e.words block) ∧
    isBoundary before.getLast? block.head? = true ∧ isBoundary block.getLast? after.head? = true

/-- **The color pass reports nothing** exactly if no color stands in the text. -/
theorem takeColor_eq_none_iff (he : IsProper entries) :
    (takeColor entries s).2 = none ↔ ¬ColorStands entries s := by
  have hl : (takeColor entries s).2 = none ↔ locate (colorAt? entries) none s = none := by
    unfold takeColor
    cases locate (colorAt? entries) none s <;> simp
  rw [hl, locate_eq_none]
  constructor
  · rintro h ⟨before, block, after, rfl, hs, hb, ha⟩
    rw [← lastOr_none before] at hb
    obtain ⟨p, hp⟩ := (exists_colorAt?_iff he).2 ⟨block, after, rfl, hs, hb, ha⟩
    rw [h before _ rfl] at hp
    simp at hp
  · rintro h before rest rfl
    refine Option.eq_none_iff_forall_ne_some.2 fun p hp => h ?_
    obtain ⟨block, after, rfl, hs, hb, ha⟩ := (exists_colorAt?_iff he).1 ⟨p, hp⟩
    rw [lastOr_none] at hb
    exact ⟨before, block, after, rfl, hs, hb, ha⟩

/-- **The leftmost price of a text** has the digits. -/
def LeadingPrice (phrases : List Entry) (s digits : List Char) : Prop :=
  ∃ before after rest, s = before ++ after ∧ priceAt? phrases after = some (digits, rest) ∧
    ∀ earlier later, s = earlier ++ later → earlier.length < before.length →
      priceAt? phrases later = none

theorem leadingPrice_iff {digits : List Char} : LeadingPrice entries s digits ↔
    ∃ before rest, locate (fun _ => priceAt? entries) none s = some (before, digits, rest) := by
  constructor
  · rintro ⟨before, after, rest, hs, hp, hfirst⟩
    exact ⟨before, rest, locate_eq_some_iff.2 ⟨after, hs, hp, hfirst⟩⟩
  · rintro ⟨before, rest, h⟩
    obtain ⟨after, hs, hp, hfirst⟩ := locate_eq_some_iff.1 h
    exact ⟨before, after, rest, hs, hp, hfirst⟩

/-- **The price pass reports nothing** exactly if the leftmost price is no ceiling. -/
theorem takePrice_eq_none_iff :
    (takePrice entries s).2 = none ↔
      ∀ digits, LeadingPrice entries s digits → ceiling? digits = none := by
  simp only [leadingPrice_iff]
  unfold takePrice
  cases h : locate (fun _ => priceAt? entries) none s with
  | none => simp
  | some p =>
    obtain ⟨before, digits, rest⟩ := p
    cases hc : ceiling? digits <;> simp [hc]

/-! ## Single constraints -/

/-- How many places of a text have something. -/
def countPlaces {α : Type} (here : Option Char → List Char → Option α) (before : Option Char) :
    List Char → Nat
  | [] => (here before []).isSome.toNat
  | c :: s => (here before (c :: s)).isSome.toNat + countPlaces here (some c) s

end Extraction

/-- **A text holds one constraint of each kind at most**: a phrase with a number after it, a phrase,
and a color as whole words. -/
structure Extractor.HasSingleConstraints (x : Extractor) (s : List Char) : Prop where
  /-- One phrase has a number after it. -/
  price : countPlaces (fun _ t => x.phrases.findSome? fun p =>
    (dropWords? p.words t).bind amount?) none s ≤ 1
  /-- One phrase stands in the text. -/
  phrase : countPlaces (fun _ t => x.phrases.findSome? fun p => dropWords? p.words t) none s ≤ 1
  /-- One color stands in the text. -/
  color : countPlaces (colorAt? x.colors) none s ≤ 1

namespace Extractor

variable {v : Vocabulary} {x : Extractor}

/-- A collapsed text is settled exactly if the two passes report nothing of it. -/
theorem isSettled_iff {text : String} (ht : collapse text.toList = text.toList) :
    x.IsSettled text ↔ (takePrice x.phrases text.toList).2 = none ∧
      (takeColor x.colors text.toList).2 = none := by
  constructor
  · intro h
    have hprice := congrArg Constraints.priceCeiling h
    have hcolor := congrArg Constraints.color h
    rw [extract_priceCeiling] at hprice
    rw [extract_color, Option.map_eq_none_iff] at hcolor
    -- A price that is found first is reported, whatever the color pass does.
    cases hp : takePrice x.phrases text.toList with
    | mk t price =>
      cases price with
      | some n =>
        rw [passes_of_some hp] at hprice
        simp at hprice
      | none =>
        rw [passes_of_none (congrArg Prod.snd hp)] at hcolor
        exact ⟨rfl, hcolor⟩
  · rintro ⟨hp, hc⟩
    -- Every pass leaves the text as it is, the second price pass like the first one.
    have hpasses : x.passes text.toList = (text.toList, none, none) := by
      rw [passes_of_none hp, takeColor_fst_of_none hc, hc, takePrice_fst_of_none hp, hp]
    simp [IsSettled, extract, hpasses, ht]

/-- **Extraction finds nothing more in the clean text** exactly if in what is left of the text, with
a space for each constraint, no color stands and the leftmost price is no ceiling. -/
theorem isSettled_cleanText_iff (v : Vocabulary) (text : String) :
    let x := ofVocabulary v
    ∃ rest, v.Removes text.toList (x.extract text).priceCeiling
        ((x.extract text).color.map String.toList) rest ∧
      (x.extract text).cleanText.toList = collapse rest ∧
      (x.IsSettled (x.extract text).cleanText ↔
        ¬ColorStands x.colors rest ∧
          ∀ digits, LeadingPrice x.phrases rest digits → ceiling? digits = none) := by
  have hp : IsProper (ofVocabulary v).phrases := isProper_lexicon v.pricePhrases
  have hc : IsProper (ofVocabulary v).colors := isProper_lexicon v.colors
  refine ⟨_, removes_extract v text, toList_cleanText _ text, ?_⟩
  -- The clean text is collapsed, and the passes report the same of what was collapsed.
  rw [isSettled_iff (collapse_cleanText _ text), toList_cleanText,
    (takePrice_collapse hp _).1, (takeColor_collapse hc _).1, takePrice_eq_none_iff,
    takeColor_eq_none_iff hc, and_comm]

/-- Of a color and a price nothing is left, and nothing is found in that. -/
theorem isSettled_cleanText_iff_standard :
    let x := ofVocabulary .standard
    let c : Constraints := { cleanText := "case", priceCeiling := some 50, color := some "Red" }
    x.extract "Red case under 50" = c ∧ x.IsSettled "case" ∧
      ∃ rest, Vocabulary.standard.Removes "Red case under 50".toList (some 50) (some "Red".toList)
          rest ∧ "case".toList = collapse rest ∧
        ¬ColorStands x.colors rest ∧
          ∀ digits, LeadingPrice x.phrases rest digits → ceiling? digits = none := by
  intro x c
  have hx : x = _ := ofVocabulary_standard
  have he : x.extract "Red case under 50" = c := by
    rw [hx]
    decide +kernel
  have hs : x.IsSettled "case" := by
    rw [hx, IsSettled]
    decide +kernel
  obtain ⟨rest, hr, hc, hiff⟩ := isSettled_cleanText_iff .standard "Red case under 50"
  rw [show (ofVocabulary .standard).extract "Red case under 50" = c from he] at hr hc hiff
  exact ⟨he, hs, rest, hr, hc, hiff.1 hs⟩

/-- **Extraction can find something more in the clean text**: a price between the two words of a
phrase leaves the phrase, with a number behind it. -/
theorem extract_again_finds_ceiling :
    (ofVocabulary .standard).HasSingleConstraints "less under 5 than 6".toList ∧
      ((ofVocabulary .standard).extract "less under 5 than 6").cleanText = "less than 6" ∧
      (ofVocabulary .standard).extract "less than 6" =
        { cleanText := "", priceCeiling := some 6, color := none } := by
  rw [ofVocabulary_standard]
  refine ⟨⟨?_, ?_, ?_⟩, ?_, ?_⟩ <;> decide +kernel

end Extractor

end Storefront
