import Storefront.Proofs.Extraction.Absence
import Storefront.Proofs.Extraction.Preference
import Storefront.Proofs.Text.Folding

/-!
# The first color of a text

The color pass is said here by the color that it takes. The first color stands as whole words at
the leftmost place where any name does so, and its name is the preferred one of those that do so
there: a longer name that ends inside a word does not stand there, and gives way to a shorter one.

A word boundary has a word on one side only. So a name that begins and ends with characters of words
is never taken from the inside of a longer word, whatever letter case it is written in.

## Main definitions

* `StandsAt`, `StartsAt`: a name stands in a text as whole words, at a place
* `IsFirstColor`: the leftmost color of a text
* `IsColorPass`: what is left and reported of a text whose first color is taken
* `Extractor.afterPrice`: the text in which extraction looks for a color

## Main results

* `colorAt?_lexicon_eq_some_iff`: what is found at a place
* `locate_color_eq_some_iff`: the leftmost place where a color is found is that of the first color
* `StandsAt.not_inside_word`: names that begin and end with words are not taken from inside of one
* `isColorPass_takeColor`: the color pass takes the first color
* `extract_color_eq_some_iff_first`: extraction reports the first color that is left after the price
-/

namespace Storefront

open Extraction Text

namespace Extraction

variable {colors : List String} {name : String} {ws : List (List Char)}
  {s t before block after color : List Char}

/-! ## Names at a place -/

/-- **A name stands in a text as whole words**: the block between two parts of the text spells its
words, up to letter case and with any white space between them, and has a word boundary at both
ends. -/
structure StandsAt (name : String) (before block after : List Char) : Prop where
  /-- The name is not blank. -/
  words_ne_nil : words name.toList ≠ []
  /-- The block spells it. -/
  spells : Spells (words name.toList) block
  /-- The block begins with a word or ends one. -/
  boundary_before : isBoundary before.getLast? block.head? = true
  /-- So does what follows it. -/
  boundary_after : isBoundary block.getLast? after.head? = true

/-- A name stands as whole words at a place, behind one part of a text and in front of the other. -/
def StartsAt (name : String) (before rest : List Char) : Prop :=
  ∃ block after, rest = block ++ after ∧ StandsAt name before block after

/-- A block has the words of the name, up to letter case. -/
theorem StandsAt.foldedWords_eq (h : StandsAt name before block after) :
    foldedWords block = foldedWords name.toList :=
  h.spells.foldedWords fun _ => isWord_of_mem_words

theorem StandsAt.exists_cons (h : StandsAt name before block after) :
    ∃ c w, block = c :: w ∧ isBlank c = false :=
  h.spells.head? h.words_ne_nil fun _ => isWord_of_mem_words

theorem standsIn_iff : StandsIn name s ↔ ∃ before rest, s = before ++ rest ∧
    StartsAt name before rest := by
  constructor
  · rintro ⟨hne, before, block, after, hs, hsp, hb, ha⟩
    exact ⟨before, block ++ after, hs, block, after, rfl, hne, hsp, hb, ha⟩
  · rintro ⟨before, _, hs, block, after, rfl, hne, hsp, hb, ha⟩
    exact ⟨hne, before, block, after, hs, hsp, hb, ha⟩

/-! ## What is found at a place -/

/-- The words of an entry at the front of a text, if they end at a word boundary. -/
def dropWhole? (ws : List (List Char)) (before : Option Char) (s : List Char) :
    Option (List Char × List Char) :=
  (dropWords? ws s).bind fun rest =>
    let taken := s.take (s.length - rest.length)
    if isBoundary (lastOr before taken) rest.head? then some (taken, rest) else none

theorem colorAt?_eq (entries : List Entry) (before : Option Char) (s : List Char) :
    colorAt? entries before s = if isBoundary before s.head? then
      entries.findSome? fun e => dropWhole? e.words before s else none := rfl

theorem dropWhole?_eq_some_iff {before : Option Char} (hws : ∀ w ∈ ws, IsWord w) :
    dropWhole? ws before s = some (block, after) ↔ s = block ++ after ∧ Spells ws block ∧
      isBoundary (lastOr before block) after.head? = true := by
  unfold dropWhole?
  constructor
  · intro h
    obtain ⟨rest, hr, h⟩ := Option.bind_eq_some_iff.1 h
    obtain ⟨taken, rfl, hs⟩ := dropWords?_eq_some hr
    dsimp only at h
    rw [take_length_sub] at h
    split at h
    · next hb =>
      obtain ⟨rfl, rfl⟩ := Prod.mk.inj (Option.some.inj h)
      exact ⟨rfl, hs, hb⟩
    · simp at h
  · rintro ⟨rfl, hs, hb⟩
    rw [dropWords?_append hs hws, Option.bind_some]
    dsimp only
    rw [take_length_sub, if_pos hb]

/-- Where a text has a word boundary, the words of a name are found if the name stands there. -/
theorem standsAt_iff (hb : isBoundary before.getLast? s.head? = true) :
    (s = block ++ after ∧ StandsAt name before block after) ↔ words name.toList ≠ [] ∧
      dropWhole? (words name.toList) before.getLast? s = some (block, after) := by
  rw [dropWhole?_eq_some_iff fun _ => isWord_of_mem_words]
  constructor
  · rintro ⟨hs, h⟩
    obtain ⟨c, w, rfl, -⟩ := h.exists_cons
    refine ⟨h.words_ne_nil, hs, h.spells, ?_⟩
    rw [lastOr_eq_getLast? (List.cons_ne_nil c w)]
    exact h.boundary_after
  · rintro ⟨hne, rfl, hs, ha⟩
    obtain ⟨c, w, rfl, -⟩ := hs.head? hne fun _ => isWord_of_mem_words
    rw [lastOr_eq_getLast? (List.cons_ne_nil c w)] at ha
    exact ⟨rfl, hne, hs, hb, ha⟩

theorem StartsAt.boundary {rest : List Char} (h : StartsAt name before rest) :
    isBoundary before.getLast? rest.head? = true := by
  obtain ⟨block, after, rfl, hs⟩ := h
  have hb := hs.boundary_before
  obtain ⟨c, w, rfl, -⟩ := hs.exists_cons
  exact hb

/-- **What is found at a place** is a name that stands there, and the preferred one of those. -/
theorem colorAt?_lexicon_eq_some_iff :
    colorAt? (lexicon colors) before.getLast? s = some (block, after) ↔
      ∃ name, s = block ++ after ∧ StandsAt name before block after ∧
        IsPreferred (fun other => StartsAt other before s) colors name := by
  rw [colorAt?_eq]
  split
  · next hb =>
    have hfinds (other : String) : Finds (fun ws => dropWhole? ws before.getLast? s) other ↔
        StartsAt other before s := by
      simp only [Finds, StartsAt, standsAt_iff hb, Option.ne_none_iff_exists', Prod.exists,
        exists_and_left]
    rw [findSome?_lexicon_eq_some_iff (g := fun ws => dropWhole? ws before.getLast? s)]
    constructor
    · rintro ⟨name, hp, hg⟩
      obtain ⟨hs, h⟩ := (standsAt_iff hb).2 ⟨hp.1.1, hg⟩
      exact ⟨name, hs, h, (isPreferred_congr hfinds).1 hp⟩
    · rintro ⟨name, hs, h, hp⟩
      exact ⟨name, (isPreferred_congr hfinds).2 hp, ((standsAt_iff hb).1 ⟨hs, h⟩).2⟩
  · next hb =>
    -- Without a boundary in front nothing stands here.
    constructor
    · intro h
      simp at h
    · rintro ⟨name, -, -, hp⟩
      exact absurd hp.1.boundary hb

theorem colorAt?_lexicon_eq_none_iff : colorAt? (lexicon colors) before.getLast? s = none ↔
    ∀ name ∈ colors, ¬StartsAt name before s := by
  rw [colorAt?_eq]
  split
  · next hb =>
    rw [List.findSome?_eq_none_iff]
    constructor
    · rintro h name hm ⟨block, after, hs, hst⟩
      obtain ⟨e, he, hw⟩ := exists_mem_lexicon hm hst.words_ne_nil
      have := h e he
      rw [hw, ((standsAt_iff hb).1 ⟨hs, hst⟩).2] at this
      simp at this
    · intro h e he
      obtain ⟨name, hm, hw, hne⟩ := exists_words_of_mem_lexicon he
      refine Option.eq_none_iff_forall_ne_some.2 fun (block, after) hg => ?_
      rw [hw] at hg hne
      obtain ⟨hs, hst⟩ := (standsAt_iff hb).2 ⟨hne, hg⟩
      exact h name hm ⟨block, after, hs, hst⟩
  · next hb => exact iff_of_true rfl fun name _ hst => hb hst.boundary

/-! ## The first color -/

/-- **The first color of a text**: a name stands as whole words, none does so in front of it, and
the name is the preferred one of those that do so there. -/
structure IsFirstColor (colors : List String) (s before block after : List Char) (name : String) :
    Prop where
  /-- The text goes on with the block. -/
  text : s = before ++ (block ++ after)
  /-- The block is the name. -/
  stands : StandsAt name before block after
  /-- No name stands at any place in front. -/
  leftmost : ∀ earlier later, s = earlier ++ later → earlier.length < before.length →
    ∀ other ∈ colors, ¬StartsAt other earlier later
  /-- The name is preferred. -/
  preferred : IsPreferred (fun other => StartsAt other before (block ++ after)) colors name

/-- **The leftmost place where a color is found** is that of the first color. -/
theorem locate_color_eq_some_iff :
    locate (colorAt? (lexicon colors)) none s = some (before, block, after) ↔
      ∃ name, IsFirstColor colors s before block after name := by
  rw [locate_eq_some_iff]
  simp only [lastOr_none, colorAt?_lexicon_eq_some_iff, colorAt?_lexicon_eq_none_iff]
  constructor
  · rintro ⟨rest, hs, ⟨name, rfl, hst, hp⟩, hfirst⟩
    exact ⟨name, hs, hst, hfirst, hp⟩
  · rintro ⟨name, hs, hst, hfirst, hp⟩
    exact ⟨block ++ after, hs, ⟨name, rfl, hst, hp⟩, hfirst⟩

/-- What is found is the first color, if its letters are those of no other name. -/
theorem isFirstColor_of_locate
    (h : locate (colorAt? (lexicon colors)) none s = some (before, block, after))
    (hn : ∀ other ∈ colors, foldedWords block = foldedWords other.toList → other = name) :
    IsFirstColor colors s before block after name := by
  obtain ⟨other, hf⟩ := locate_color_eq_some_iff.1 h
  obtain rfl := hn other hf.preferred.mem hf.stands.foldedWords_eq
  exact hf

theorem IsFirstColor.mem (h : IsFirstColor colors s before block after name) : name ∈ colors :=
  h.preferred.mem

theorem takeColor_eq_some_iff : takeColor (lexicon colors) s = (t, some color) ↔
    ∃ before block after name, IsFirstColor colors s before block after name ∧
      color = titleCase block ∧ t = before ++ ' ' :: after := by
  have hl : takeColor (lexicon colors) s = (t, some color) ↔ ∃ before block after,
      locate (colorAt? (lexicon colors)) none s = some (before, block, after) ∧
        color = titleCase block ∧ t = before ++ ' ' :: after := by
    unfold takeColor
    cases locate (colorAt? (lexicon colors)) none s with
    | none => simp
    | some found =>
      obtain ⟨before, block, after⟩ := found
      simp [eq_comm, and_comm]
  simp only [hl, locate_color_eq_some_iff]
  constructor
  · rintro ⟨before, block, after, ⟨name, h⟩, hc, ht⟩
    exact ⟨before, block, after, name, h, hc, ht⟩
  · rintro ⟨before, block, after, name, h, hc, ht⟩
    exact ⟨before, block, after, ⟨name, h⟩, hc, ht⟩

/-! ## Edges of words -/

theorem map_foldCase_solid (s : List Char) : (solid s).map foldCase = (foldedWords s).flatten := by
  rw [foldedWords, ← List.map_flatten, flatten_words]

/-- A block has the letters of the name, white space aside and up to their case. -/
theorem StandsAt.map_solid (h : StandsAt name before block after) :
    (solid block).map foldCase = (solid name.toList).map foldCase := by
  rw [map_foldCase_solid, h.foldedWords_eq, ← map_foldCase_solid]

/-- Texts with the same letters, up to their case, begin and end with characters of words alike. -/
theorem isWordChar_of_map_foldCase_eq {u w : Option Char} (h : u.map foldCase = w.map foldCase)
    (hw : ∀ c ∈ w, isWordChar c = true) : ∀ c ∈ u, isWordChar c = true := by
  rintro c rfl
  obtain ⟨d, rfl, hd⟩ := Option.map_eq_some_iff.1 h.symm
  rw [← isWordChar_eq_of_foldCase_eq hd]
  exact hw d rfl

theorem StandsAt.isWordChar_head? (h : StandsAt name before block after)
    (hn : ∀ c ∈ (solid name.toList).head?, isWordChar c = true) :
    ∀ c ∈ block.head?, isWordChar c = true := by
  have hs := congrArg List.head? h.map_solid
  obtain ⟨c, w, rfl, hc⟩ := h.exists_cons
  rw [List.head?_map, List.head?_map] at hs
  have := isWordChar_of_map_foldCase_eq hs hn
  simpa [solid, hc] using this

theorem StandsAt.isWordChar_getLast? (h : StandsAt name before block after)
    (hn : ∀ c ∈ (solid name.toList).getLast?, isWordChar c = true) :
    ∀ c ∈ block.getLast?, isWordChar c = true := by
  have hs := congrArg List.getLast? h.map_solid
  obtain ⟨c, hl, hc⟩ := h.spells.getLast? h.words_ne_nil fun _ => isWord_of_mem_words
  obtain ⟨w, rfl⟩ := List.getLast?_eq_some_iff.1 hl
  rw [List.getLast?_map, List.getLast?_map] at hs
  have := isWordChar_of_map_foldCase_eq hs hn
  simpa [solid, hc] using this

/-- Of two neighbours at a boundary one belongs to no word, if the other one belongs to one. -/
theorem not_isWordChar_of_isBoundary {u w : Option Char} (hb : isBoundary u w = true)
    (hne : w ≠ none) (hw : ∀ c ∈ w, isWordChar c = true) : ∀ c ∈ u, isWordChar c = false := by
  obtain ⟨d, rfl⟩ := Option.ne_none_iff_exists'.1 hne
  rintro c rfl
  simpa [isBoundary, hw d rfl] using hb

theorem isBoundary_comm (u w : Option Char) : isBoundary u w = isBoundary w u := by
  unfold isBoundary
  cases u.any isWordChar <;> cases w.any isWordChar <;> rfl

/-- **A name that begins and ends with characters of words** does not stand inside of a longer
word. -/
theorem StandsAt.not_inside_word (h : StandsAt name before block after)
    (hf : ∀ c ∈ (solid name.toList).head?, isWordChar c = true)
    (hl : ∀ c ∈ (solid name.toList).getLast?, isWordChar c = true) :
    (∀ c ∈ before.getLast?, isWordChar c = false) ∧ ∀ c ∈ after.head?, isWordChar c = false := by
  have hb := h.boundary_before
  have ha := h.boundary_after
  have hhead := h.isWordChar_head? hf
  have hlast := h.isWordChar_getLast? hl
  obtain ⟨c, w, rfl, -⟩ := h.exists_cons
  rw [isBoundary_comm] at ha
  exact ⟨not_isWordChar_of_isBoundary hb (by simp) hhead,
    not_isWordChar_of_isBoundary ha (by simp) hlast⟩

/-! ## The pass -/

/-- **What is left and reported of a text whose first color is taken.** -/
structure IsColorPass (colors : List String) (s : List Char)
    (result : List Char × Option (List Char)) : Prop where
  /-- A color is reported exactly if it is the title case of the first color; a space is left in its
  place. -/
  taken : ∀ t color, result = (t, some color) ↔ ∃ before block after name,
    IsFirstColor colors s before block after name ∧ IsTitleCaseOf color block ∧
      t = before ++ ' ' :: after
  /-- There is a report exactly if some name stands in the text as whole words. -/
  reports : result.2.isSome = true ↔ ∃ name ∈ colors, ∃ before rest, s = before ++ rest ∧
    StartsAt name before rest
  /-- A text is left as it is if nothing is reported. -/
  unchanged : ∀ t, result = (t, none) → t = s
  /-- What is taken for a name that begins and ends with characters of words has no such character
  beside it. -/
  whole : ∀ before block after name, IsFirstColor colors s before block after name →
    (∀ c ∈ (solid name.toList).head?, isWordChar c = true) →
    (∀ c ∈ (solid name.toList).getLast?, isWordChar c = true) →
    (∀ c ∈ before.getLast?, isWordChar c = false) ∧ ∀ c ∈ after.head?, isWordChar c = false

/-- **The color pass takes the first color**, and nothing else. -/
theorem isColorPass_takeColor (colors : List String) (s : List Char) :
    IsColorPass colors s (takeColor (lexicon colors) s) := by
  refine ⟨fun _ _ => ?_, ?_, ?_, ?_⟩
  · simp only [isTitleCaseOf_iff, takeColor_eq_some_iff]
  · rw [← Option.ne_none_iff_isSome, Ne, takeColor_eq_none_iff (isProper_lexicon colors), not_not,
      colorStands_lexicon_iff]
    simp only [standsIn_iff]
  · intro t h
    have := takeColor_fst_of_none (congrArg Prod.snd h)
    rwa [h] at this
  · intro before block after name h hf hl
    exact h.stands.not_inside_word hf hl

end Extraction

/-! ## Extraction -/

namespace Extractor

variable {v : Vocabulary} {x : Extractor}

/-- **The text in which extraction looks for a color**: without its first price, if that is a
ceiling. -/
def afterPrice (x : Extractor) (text : String) : List Char := (takePrice x.phrases text.toList).1

theorem passes_color (x : Extractor) (s : List Char) :
    (x.passes s).2.2 = (takeColor x.colors (takePrice x.phrases s).1).2 := by
  cases h : takePrice x.phrases s with
  | mk t price =>
    cases price with
    | some n => rw [passes_of_some h]
    | none =>
      -- The first price pass left the text as it was.
      have hn : (takePrice x.phrases s).2 = none := congrArg Prod.snd h
      have ht := takePrice_fst_of_none hn
      rw [h] at ht
      rw [passes_of_none hn, show t = s from ht]

/-- **The color that extraction reports** is the title case of the first color of the text without
its price. -/
theorem extract_color_eq_some_iff_first {text color : String} :
    ((ofVocabulary v).extract text).color = some color ↔ ∃ before block after name,
      IsFirstColor v.colors ((ofVocabulary v).afterPrice text) before block after name ∧
        IsTitleCaseOf color.toList block := by
  simp only [isTitleCaseOf_iff]
  have hp := passes_color (ofVocabulary v) text.toList
  rw [extract_color, hp, Option.map_eq_some_iff]
  constructor
  · rintro ⟨letters, hc, rfl⟩
    obtain ⟨before, block, after, name, hf, rfl, -⟩ := takeColor_eq_some_iff.1 (Prod.ext rfl hc)
    exact ⟨before, block, after, name, hf, String.toList_ofList⟩
  · rintro ⟨before, block, after, name, hf, hc⟩
    have ht := takeColor_eq_some_iff.2 ⟨before, block, after, name, hf, rfl, rfl⟩
    exact ⟨titleCase block, congrArg Prod.snd ht, by rw [← hc, String.ofList_toList]⟩

end Extractor

end Storefront
