import Mathlib.Data.List.Forall2
import Storefront.Proofs.Extraction.Idempotence
import Storefront.Proofs.Extraction.Recasing

/-!
# What extraction does not depend on

Two runs of extraction are compared pass by pass. If the texts differ in their white space only, so
do the texts that each pass leaves, and the passes report the same; the last step collapses what is
left. If the texts and the vocabularies differ in the case of ASCII letters only, both are compared
with the run on small letters.

## Main definitions

* `SameButCase`: texts that are the same but for the case of ASCII letters
* `Vocabulary.SameButCase`: vocabularies whose entries are, one by one

## Main results

* `takePrice_congr`, `takeColor_congr`, `passes_congr`: the passes over texts with the same words
* `passes_small`, `passes_vocabulary_small`: the passes and small letters
* `extract_eq_of_collapse_eq`: extraction does not depend on white space
* `extract_sameButCase`: nor on the case of ASCII letters, but for that of the clean text
-/

namespace Storefront

open Extraction Text

/-! ## White space -/

namespace Extraction

variable {s t : List Char} {entries : List Entry}

/-- The price pass reports the same of texts that collapse to the same, and leaves such texts. -/
theorem takePrice_congr (he : IsProper entries) (h : collapse s = collapse t) :
    (takePrice entries s).2 = (takePrice entries t).2 ∧
      collapse (takePrice entries s).1 = collapse (takePrice entries t).1 := by
  obtain ⟨hrs, hls⟩ := takePrice_collapse he s
  obtain ⟨hrt, hlt⟩ := takePrice_collapse he t
  rw [← hrs, ← hls, ← hrt, ← hlt, h]
  exact ⟨rfl, rfl⟩

/-- So does the color pass. -/
theorem takeColor_congr (he : IsProper entries) (h : collapse s = collapse t) :
    (takeColor entries s).2 = (takeColor entries t).2 ∧
      collapse (takeColor entries s).1 = collapse (takeColor entries t).1 := by
  obtain ⟨hrs, hls⟩ := takeColor_collapse he s
  obtain ⟨hrt, hlt⟩ := takeColor_collapse he t
  rw [← hrs, ← hls, ← hrt, ← hlt, h]
  exact ⟨rfl, rfl⟩

end Extraction

namespace Extractor

variable {v : Vocabulary} {x : Extractor} {s t : List Char}

/-- **The passes report the same of texts that collapse to the same**, and leave such texts. -/
theorem passes_congr (hp : IsProper x.phrases) (hc : IsProper x.colors)
    (h : collapse s = collapse t) :
    (x.passes s).2 = (x.passes t).2 ∧ collapse (x.passes s).1 = collapse (x.passes t).1 := by
  obtain ⟨hr, hl⟩ := takePrice_congr hp h
  cases hs : takePrice x.phrases s with
  | mk s' price =>
    cases ht : takePrice x.phrases t with
    | mk t' price' =>
      rw [hs, ht] at hr hl
      obtain rfl : price = price' := hr
      cases price with
      | some n =>
        -- the price goes first in both texts, then the color
        obtain ⟨hr', hl'⟩ := takeColor_congr hc hl
        rw [passes_of_some hs, passes_of_some ht]
        exact ⟨by rw [hr'], hl'⟩
      | none =>
        -- the color goes first in both texts, then the price, if there is one now
        obtain ⟨hr', hl'⟩ := takeColor_congr hc h
        obtain ⟨hr'', hl''⟩ := takePrice_congr hp hl'
        rw [passes_of_none (congrArg Prod.snd hs), passes_of_none (congrArg Prod.snd ht)]
        exact ⟨by rw [hr', hr''], hl''⟩

/-- **Extraction does not depend on white space**: it gives the same for all texts that collapse to
the same, and for the collapsed text. -/
theorem extract_eq_of_collapse_eq (v : Vocabulary) :
    let x := ofVocabulary v
    (∀ s t : String, collapse s.toList = collapse t.toList → x.extract s = x.extract t) ∧
      ∀ s : String, x.extract (String.ofList (collapse s.toList)) = x.extract s := by
  intro x
  have hcongr (s t : String) (hst : collapse s.toList = collapse t.toList) :
      (ofVocabulary v).extract s = (ofVocabulary v).extract t := by
    have hp : IsProper (ofVocabulary v).phrases := isProper_lexicon v.pricePhrases
    have hc : IsProper (ofVocabulary v).colors := isProper_lexicon v.colors
    obtain ⟨hr, hl⟩ := passes_congr hp hc hst
    unfold extract
    generalize (ofVocabulary v).passes s.toList = found at hr hl ⊢
    generalize (ofVocabulary v).passes t.toList = found' at hr hl ⊢
    obtain ⟨rest, price, color⟩ := found
    obtain ⟨rest', price', color'⟩ := found'
    obtain ⟨rfl, rfl⟩ := Prod.mk.inj hr
    have hrest : collapse rest = collapse rest' := hl
    simp only [hrest]
  refine ⟨hcongr, ?_⟩
  intro s
  apply hcongr
  rw [String.toList_ofList, collapse_collapse]

/-- No-break spaces, em spaces and line ends between the words of a color and around a price are
like single spaces. -/
theorem extract_eq_of_wide_spaces :
    collapse "\u2003case\tSKY\u00a0\nblue moins \u3000de\r\n$50\n".toList =
        collapse "case SKY blue moins de $50".toList ∧
      (ofVocabulary .standard).extract "\u2003case\tSKY\u00a0\nblue moins \u3000de\r\n$50\n" =
        (ofVocabulary .standard).extract "case SKY blue moins de $50" ∧
      (ofVocabulary .standard).extract "case SKY blue moins de $50" =
        { cleanText := "case", priceCeiling := some 50, color := some "Sky Blue" } := by
  have hc : collapse "\u2003case\tSKY\u00a0\nblue moins \u3000de\r\n$50\n".toList =
      collapse "case SKY blue moins de $50".toList := by decide +kernel
  have he := (extract_eq_of_collapse_eq .standard).1 _ _ hc
  refine ⟨hc, he, ?_⟩
  rw [ofVocabulary_standard]
  decide +kernel

end Extractor

/-! ## Letter case -/

/-- **Texts are the same but for the case of ASCII letters**: character by character, each pair has
the same small letter. -/
def SameButCase (s t : String) : Prop :=
  List.Forall₂ (fun c d => c.toLower = d.toLower) s.toList t.toList

/-- **Vocabularies are the same but for the case of ASCII letters**, entry by entry. -/
structure Vocabulary.SameButCase (v w : Vocabulary) : Prop where
  /-- The price phrases are. -/
  pricePhrases : List.Forall₂ Storefront.SameButCase v.pricePhrases w.pricePhrases
  /-- The colors are. -/
  colors : List.Forall₂ Storefront.SameButCase v.colors w.colors

/-- A vocabulary in small letters, as far as they are ASCII letters. -/
def Vocabulary.small (v : Vocabulary) : Vocabulary where
  pricePhrases := v.pricePhrases.map String.toLower
  colors := v.colors.map String.toLower

theorem map_eq_map_iff_forall₂ {α β : Type} {f : α → β} {l₁ l₂ : List α} :
    l₁.map f = l₂.map f ↔ List.Forall₂ (fun a b => f a = f b) l₁ l₂ := by
  rw [← List.forall₂_eq_eq_eq, List.forall₂_map_left_iff, List.forall₂_map_right_iff]

theorem sameButCase_iff {s t : String} : SameButCase s t ↔ small s.toList = small t.toList :=
  map_eq_map_iff_forall₂.symm

theorem SameButCase.toLower_eq {s t : String} (h : SameButCase s t) : s.toLower = t.toLower := by
  apply String.toList_inj.1
  show (s.map Char.toLower).toList = (t.map Char.toLower).toList
  rw [String.toList_map, String.toList_map]
  exact sameButCase_iff.1 h

theorem Vocabulary.SameButCase.small_eq {v w : Vocabulary} (h : v.SameButCase w) :
    v.small = w.small := by
  have hl {l₁ l₂ : List String} (hs : List.Forall₂ Storefront.SameButCase l₁ l₂) :
      l₁.map String.toLower = l₂.map String.toLower :=
    map_eq_map_iff_forall₂.2 (hs.imp fun _ _ => SameButCase.toLower_eq)
  rw [Vocabulary.small, hl h.pricePhrases, hl h.colors, Vocabulary.small]

namespace Extractor

variable {v w : Vocabulary}

/-- **The passes over a text in small letters** report the same, and what they leave is in small
letters. -/
theorem passes_small (x : Extractor) (s : List Char) :
    x.passes (small s) = Prod.map small id (x.passes s) := by
  cases h : takePrice x.phrases s with
  | mk t price =>
    have hs : takePrice x.phrases (small s) = (small t, price) := by
      rw [takePrice_small, h]
      rfl
    cases price with
    | some n =>
      rw [passes_of_some hs, passes_of_some h, takeColor_small]
      rfl
    | none =>
      rw [passes_of_none (congrArg Prod.snd hs), passes_of_none (congrArg Prod.snd h),
        takeColor_small, Prod.map_fst, takePrice_small]
      rfl

/-- The passes with a vocabulary in small letters are those with the vocabulary. -/
theorem passes_vocabulary_small (v : Vocabulary) (s : List Char) :
    (ofVocabulary v.small).passes s = (ofVocabulary v).passes s := by
  simp only [passes, ofVocabulary, Vocabulary.small, lexicon_small, takePrice_map_small,
    takeColor_map_small]

/-- **Extraction does not depend on the case of ASCII letters**, neither in the vocabulary nor in
the text: the constraints are the same, and so are the clean texts, but for the case of ASCII
letters. -/
theorem extract_sameButCase (hv : v.SameButCase w) {s t : String} (hs : SameButCase s t) :
    let x := ofVocabulary v
    let y := ofVocabulary w
    (x.extract s).priceCeiling = (y.extract t).priceCeiling ∧
      (x.extract s).color = (y.extract t).color ∧
      SameButCase (x.extract s).cleanText (y.extract t).cleanText := by
  intro x y
  have hpasses : Prod.map small id ((ofVocabulary v).passes s.toList) =
      Prod.map small id ((ofVocabulary w).passes t.toList) := by
    rw [← passes_small, ← passes_small, sameButCase_iff.1 hs, ← passes_vocabulary_small v,
      hv.small_eq, passes_vocabulary_small]
  have hleft := congrArg Prod.fst hpasses
  have hreport := congrArg Prod.snd hpasses
  rw [Prod.map_fst, Prod.map_fst] at hleft
  rw [Prod.map_snd, Prod.map_snd, id, id] at hreport
  refine ⟨?_, ?_, ?_⟩
  · rw [extract_priceCeiling, hreport, extract_priceCeiling]
  · rw [extract_color, hreport, extract_color]
  · rw [sameButCase_iff, toList_cleanText, toList_cleanText, ← collapse_small, hleft,
      collapse_small]

/-- The long s is a letter of its own, which has `S` as its capital: it stays in both texts, and
both report the same color. -/
theorem extract_sameButCase_of_long_s :
    let v : Vocabulary := { pricePhrases := ["less than", "<"], colors := ["blue", "sky blue"] }
    let w : Vocabulary := { pricePhrases := ["Less THAN", "<"], colors := ["BLUE", "Sky Blue"] }
    let s := "iPhone ſKY blue less than 50"
    let t := "IPHONE ſky Blue LESS Than 50"
    v.SameButCase w ∧ SameButCase s t ∧
      ((ofVocabulary v).extract s).priceCeiling = ((ofVocabulary w).extract t).priceCeiling ∧
      ((ofVocabulary v).extract s).color = ((ofVocabulary w).extract t).color ∧
      SameButCase ((ofVocabulary v).extract s).cleanText ((ofVocabulary w).extract t).cleanText ∧
      (ofVocabulary v).extract s =
        { cleanText := "iPhone", priceCeiling := some 50, color := some "Sky Blue" } := by
  intro v w s t
  have hp : List.Forall₂ SameButCase v.pricePhrases w.pricePhrases :=
    .cons (sameButCase_iff.2 (by decide +kernel)) (.cons (sameButCase_iff.2 rfl) .nil)
  have hc : List.Forall₂ SameButCase v.colors w.colors :=
    .cons (sameButCase_iff.2 (by decide +kernel))
      (.cons (sameButCase_iff.2 (by decide +kernel)) .nil)
  have hs : SameButCase s t := sameButCase_iff.2 (by decide +kernel)
  -- the widest entries come first
  have hx : ofVocabulary v =
      { phrases := [⟨["less".toList, "than".toList], 9⟩, ⟨["<".toList], 1⟩]
        colors := [⟨["sky".toList, "blue".toList], 8⟩, ⟨["blue".toList], 4⟩] } := by
    cbv
  obtain ⟨hprice, hcolor, hclean⟩ := extract_sameButCase ⟨hp, hc⟩ hs
  refine ⟨⟨hp, hc⟩, hs, hprice, hcolor, hclean, ?_⟩
  rw [hx]
  decide +kernel

end Extractor

end Storefront
