import Storefront.Proofs.Extraction.Applied
import Storefront.Proofs.Extraction.FirstColor
import Storefront.Proofs.Extraction.Invariance

/-!
# How a reported color is spelled

A name is found in a text up to letter case, and the color that is reported is the title case of the
letters found there, not of those of the name. Two spellings of a name have the same title case
exactly if their words are cased alike: the first letters have the same capital, and the others the
same small letters. Letters that fold alike mostly do, but some are capitals or small letters of
their own. Of those that fold to ASCII letters, the Kelvin sign is its own capital, and the long s
its own small letter.

## Main definitions

* `SpelledAlike`: two texts whose words are cased alike, one by one
* `HasColor`: the name that extraction finds in a text, and the letters it is found with
* `FollowsSpelling`: what the letters of the text have to do with the reported color

## Main results

* `titleCase_eq_iff`: texts with the same words have the same title case if they are spelled alike
* `spelledAlike_iff_of_isAscii`: how a name of ASCII letters may be spelled in a text
* `followsSpelling`: a reported color is the title case of its name if it is spelled like the name
-/

namespace Storefront

open Extraction Text

namespace Extraction

variable {s t u w : List Char} {c : Char}

/-! ## Words -/

theorem SameFold.map_length_lowerCase (h : SameFold u w) :
    u.map (fun c => (lowerCase c).length) = w.map fun c => (lowerCase c).length :=
  map_eq_map_iff_forall₂.2
    ((map_eq_map_iff_forall₂.1 h).imp fun _ _ => length_lowerCase_of_foldCase_eq)

/-- The small letters of two words that match can be compared one by one, since each has as many
characters as its counterpart. -/
theorem SameFold.flatMap_lowerCase_eq_iff (h : SameFold u w) :
    u.flatMap lowerCase = w.flatMap lowerCase ↔ u.map lowerCase = w.map lowerCase := by
  rw [List.flatMap_def, List.flatMap_def]
  constructor
  · intro hf
    refine List.eq_iff_flatten_eq.2 ⟨hf, ?_⟩
    rw [List.map_map, List.map_map]
    exact h.map_length_lowerCase
  · intro hm
    rw [hm]

/-- **Two words that match have the same title case** exactly if they are cased alike. -/
theorem SameFold.titleWord_eq_iff (h : SameFold u w) :
    titleWord u = titleWord w ↔ CasedAlike u w := by
  match u, w, h with
  | [], [], _ => simp [CasedAlike]
  | [], d :: w, h => simp [SameFold] at h
  | c :: u, [], h => simp [SameFold] at h
  | c :: u, d :: w, h =>
    obtain ⟨-, h⟩ : foldCase c = foldCase d ∧ SameFold u w := List.cons.inj h
    -- What follows the capitals has the same length, so the capitals have it too.
    have hlen : (u.flatMap lowerCase).length = (w.flatMap lowerCase).length := by
      rw [List.length_flatMap, List.length_flatMap, h.map_length_lowerCase]
    simp only [titleWord, CasedAlike, List.head?_cons, Option.map_some, Option.some.injEq,
      List.tail_cons, ← h.flatMap_lowerCase_eq_iff]
    constructor
    · intro ht
      exact List.append_inj' ht hlen
    · rintro ⟨hu, hl⟩
      rw [hu, hl]

/-- A word of characters that keep their cases is cased like its fold. -/
theorem casedAlike_map_foldCase (h : ∀ c ∈ w, KeepsCases c) : CasedAlike w (w.map foldCase) := by
  cases w with
  | nil => exact ⟨rfl, rfl⟩
  | cons c w =>
    refine ⟨?_, ?_⟩
    · rw [List.map_cons, List.head?_cons, List.head?_cons, Option.map_some, Option.map_some,
        (h c (List.mem_cons_self ..)).1]
    · rw [List.map_cons, List.tail_cons, List.tail_cons, List.map_map]
      exact List.map_congr_left fun d hd => (h d (List.mem_cons_of_mem _ hd)).2.symm

/-- A word that folds to ASCII characters is cased like its fold unless it begins with the Kelvin
sign or goes on with a long s. -/
theorem casedAlike_map_foldCase_iff (h : ∀ c ∈ u, (foldCase c).toNat < 128) :
    CasedAlike u (u.map foldCase) ↔ u.head? ≠ some '\u212a' ∧ 'ſ' ∉ u.tail := by
  cases u with
  | nil => simp [CasedAlike]
  | cons c u =>
    -- The capital is a matter of the first letter, small letters are one of the others.
    have hc := (cases_foldCase_iff (h c (List.mem_cons_self ..))).1
    have hu : u.map lowerCase = (u.map foldCase).map lowerCase ↔ 'ſ' ∉ u := by
      rw [List.map_map, List.map_inj_left]
      constructor
      · intro hall hm
        have := (cases_foldCase_iff (h _ (List.mem_cons_of_mem _ hm))).2
        exact this.1 (hall _ hm).symm rfl
      · intro hn d hd
        refine ((cases_foldCase_iff (h d (List.mem_cons_of_mem _ hd))).2.2 ?_).symm
        rintro rfl
        exact hn hd
    simp only [CasedAlike, List.map_cons, List.head?_cons, Option.map_some, Option.some.injEq,
      List.tail_cons, hu, ne_eq]
    rw [eq_comm, hc]

/-- A word that matches one of ASCII characters is cased like it unless it begins with the Kelvin
sign or goes on with a long s. -/
theorem SameFold.casedAlike_iff_of_isAscii (h : SameFold u w) (hw : ∀ c ∈ w, c.toNat < 128) :
    CasedAlike u w ↔ u.head? ≠ some '\u212a' ∧ 'ſ' ∉ u.tail := by
  have hfold : ∀ c ∈ u, (foldCase c).toNat < 128 := by
    intro c hc
    have hm : foldCase c ∈ w.map foldCase := h ▸ List.mem_map_of_mem hc
    obtain ⟨d, hd, he⟩ := List.mem_map.1 hm
    exact he ▸ isAscii_foldCase (hw d hd)
  -- The words have one fold, which is cased like the ASCII word.
  have hkeep := casedAlike_map_foldCase fun c hc => keepsCases_of_isAscii (hw c hc)
  rw [← casedAlike_map_foldCase_iff hfold, show u.map foldCase = w.map foldCase from h]
  exact ⟨fun hc => hc.trans hkeep, fun hc => hc.trans hkeep.symm⟩

theorem SameFold.casedAlike_of_keepsCases (h : SameFold u w) (hu : ∀ c ∈ u, KeepsCases c)
    (hw : ∀ c ∈ w, KeepsCases c) : CasedAlike u w := by
  have hfold := casedAlike_map_foldCase hu
  rw [show u.map foldCase = w.map foldCase from h] at hfold
  exact hfold.trans (casedAlike_map_foldCase hw).symm

/-! ## Title case -/

/-- **Two texts are spelled alike**: their words are cased alike, one by one. -/
def SpelledAlike (s t : List Char) : Prop := List.Forall₂ CasedAlike (words s) (words t)

theorem mem_of_mem_words (hw : w ∈ words s) (hc : c ∈ w) : c ∈ s := by
  have hm : c ∈ solid s := flatten_words s ▸ List.mem_flatten_of_mem hw hc
  exact List.mem_of_mem_filter hm

theorem forall₂_congr_of_mem {α β : Type} {R S T : α → β → Prop} {l₁ : List α} {l₂ : List β}
    (h : List.Forall₂ R l₁ l₂) (hiff : ∀ a ∈ l₁, ∀ b ∈ l₂, R a b → (S a b ↔ T a b)) :
    List.Forall₂ S l₁ l₂ ↔ List.Forall₂ T l₁ l₂ := by
  induction h with
  | nil => exact iff_of_true .nil .nil
  | cons hr _ ih =>
    rw [List.forall₂_cons, List.forall₂_cons,
      hiff _ (List.mem_cons_self ..) _ (List.mem_cons_self ..) hr,
      ih fun a ha b hb => hiff a (List.mem_cons_of_mem _ ha) b (List.mem_cons_of_mem _ hb)]

theorem forall₂_sameFold (h : foldedWords s = foldedWords t) :
    List.Forall₂ SameFold (words s) (words t) :=
  map_eq_map_iff_forall₂.1 h

/-- **Texts with the same words**, up to letter case, have the same title case exactly if they are
spelled alike. -/
theorem titleCase_eq_iff (h : foldedWords s = foldedWords t) :
    titleCase s = titleCase t ↔ SpelledAlike s t := by
  have hw : titleCase s = titleCase t ↔ (words s).map titleWord = (words t).map titleWord := by
    constructor
    · intro ht
      rw [← words_titleCase, ht, words_titleCase]
    · intro hm
      rw [titleCase, hm, titleCase]
  rw [hw, map_eq_map_iff_forall₂]
  exact forall₂_congr_of_mem (forall₂_sameFold h) fun _ _ _ _ => SameFold.titleWord_eq_iff

/-- **Letters that keep their cases** make no difference. -/
theorem spelledAlike_of_keepsCases (h : foldedWords s = foldedWords t)
    (hs : ∀ c ∈ s, KeepsCases c) (ht : ∀ c ∈ t, KeepsCases c) : SpelledAlike s t := by
  have hf := forall₂_sameFold h
  refine (forall₂_congr_of_mem hf fun u hu w hw hr => ?_).2 hf
  refine iff_of_true (hr.casedAlike_of_keepsCases ?_ ?_) hr
  · exact fun c hc => hs c (mem_of_mem_words hu hc)
  · exact fun c hc => ht c (mem_of_mem_words hw hc)

/-- **A text of ASCII characters** is spelled alike by all texts with the same words, but for the
Kelvin sign in front of a word and the long s behind its first letter. -/
theorem spelledAlike_iff_of_isAscii (h : foldedWords s = foldedWords t)
    (ht : ∀ c ∈ t, c.toNat < 128) :
    SpelledAlike s t ↔ ∀ w ∈ words s, w.head? ≠ some '\u212a' ∧ 'ſ' ∉ w.tail := by
  have hf := forall₂_sameFold h
  have hiff : SpelledAlike s t ↔ List.Forall₂
      (fun u w => (u.head? ≠ some '\u212a' ∧ 'ſ' ∉ u.tail) ∧ SameFold u w) (words s) (words t) :=
    forall₂_congr_of_mem hf fun u _ w hw hr => by
      rw [hr.casedAlike_iff_of_isAscii fun c hc => ht c (mem_of_mem_words hw hc), and_iff_left hr]
  rw [hiff, List.forall₂_and_left, and_iff_left hf]

/-- The title case of a name. -/
def titleName (name : String) : String := String.ofList (titleCase name.toList)

end Extraction

/-! ## Reported colors -/

namespace Extractor

variable {v : Vocabulary} {x : Extractor} {text color name : String} {block : List Char}

/-- **The name that extraction finds** in a text as its color, with the letters of a block. -/
def HasColor (v : Vocabulary) (x : Extractor) (text : String) (block : List Char) (name : String) :
    Prop :=
  ∃ before after, IsFirstColor v.colors (x.afterPrice text) before block after name

theorem HasColor.foldedWords_eq (h : HasColor v x text block name) :
    foldedWords block = foldedWords name.toList := by
  obtain ⟨before, after, h⟩ := h
  exact h.stands.foldedWords_eq

/-- What is found in a text is its name, if the letters are those of no other one. -/
theorem hasColor_of_locate {before after : List Char}
    (h : locate (colorAt? (ofVocabulary v).colors) none ((ofVocabulary v).afterPrice text) =
      some (before, block, after))
    (hn : ∀ other ∈ v.colors, foldedWords block = foldedWords other.toList → other = name) :
    HasColor v (ofVocabulary v) text block name :=
  ⟨before, after, isFirstColor_of_locate h hn⟩

theorem extract_color_eq_some_iff_hasColor :
    ((ofVocabulary v).extract text).color = some color ↔
      ∃ block name, HasColor v (ofVocabulary v) text block name ∧
        IsTitleCaseOf color.toList block := by
  rw [extract_color_eq_some_iff_first]
  constructor
  · rintro ⟨before, block, after, name, hf, hc⟩
    exact ⟨block, name, ⟨before, after, hf⟩, hc⟩
  · rintro ⟨block, name, ⟨before, after, hf⟩, hc⟩
    exact ⟨before, block, after, name, hf, hc⟩

theorem HasColor.extract_color (hc : HasColor v (ofVocabulary v) text block name) :
    ((ofVocabulary v).extract text).color = some (String.ofList (titleCase block)) :=
  extract_color_eq_some_iff_hasColor.2
    ⟨block, name, hc, isTitleCaseOf_iff.2 String.toList_ofList⟩

/-- The query of a smart search. -/
def smartQuery (x : Extractor) (text className : String) (vector : Option (List Single))
    (limit : Nat) : Except SearchError CompiledQuery :=
  (Plan.make text (x.extract text) .smart).compile className vector limit

/-- The query of a smart search compares colors with the reported one. -/
theorem exists_smartQuery (v : Vocabulary) {vector : Option (List Single)}
    (hv : IsFiniteVector vector) (text className : String) (limit : Nat) :
    ∃ q, (ofVocabulary v).smartQuery text className vector limit = .ok q ∧
      ∀ s, .equal .color s ∈ q.leaves ↔ ((ofVocabulary v).extract text).color = some s := by
  have ha (q : CompiledQuery) (hq : q.filter = Predicate.ofFilters?
      { price := ((ofVocabulary v).extract text).priceCeiling
        color := ((ofVocabulary v).extract text).color }) :
      q.Applies ((ofVocabulary v).extract text) :=
    CompiledQuery.applies_of_filter hq fun s hs => extract_color_eq_some hs
  unfold smartQuery Plan.compile
  exact ⟨_, compile_hybrid hv rfl, (ha _ rfl).color⟩

/-- **What the letters of a text have to do with the color that is reported.** -/
structure FollowsSpelling (v : Vocabulary) (x : Extractor) : Prop where
  /-- A color is reported exactly if a name is found. -/
  reported : ∀ text color, (x.extract text).color = some color ↔
    ∃ block name, HasColor v x text block name ∧ IsTitleCaseOf color.toList block
  /-- The name is one of the vocabulary, and the block spells it up to letter case. -/
  known : ∀ text block name, HasColor v x text block name →
    name ∈ v.colors ∧ foldedWords block = foldedWords name.toList
  /-- Every name has a title case. -/
  titled : ∀ name, IsTitleCaseOf (titleName name).toList name.toList
  /-- The title case of the name is reported exactly if the block is spelled like it. -/
  canonical : ∀ text block name, HasColor v x text block name →
    ((x.extract text).color = some (titleName name) ↔ SpelledAlike block name.toList)
  /-- So it is reported if all letters keep their cases. -/
  kept : ∀ text block name, HasColor v x text block name → (∀ c ∈ block, KeepsCases c) →
    (∀ c ∈ name.toList, KeepsCases c) → (x.extract text).color = some (titleName name)
  /-- For a name of ASCII characters it is reported exactly if no word of the block begins with the
  Kelvin sign or goes on with a long s. -/
  ascii : ∀ text block name, HasColor v x text block name → (∀ c ∈ name.toList, c.toNat < 128) →
    ((x.extract text).color = some (titleName name) ↔
      ∀ w ∈ words block, w.head? ≠ some '\u212a' ∧ 'ſ' ∉ w.tail)
  /-- Two texts in which the same name is found report the same color exactly if they spell it
  alike. -/
  same : ∀ text text' block block' name, HasColor v x text block name →
    HasColor v x text' block' name →
    ((x.extract text).color = (x.extract text').color ↔ SpelledAlike block block')
  /-- Then, and only then, their smart searches compare the color alike. -/
  compared : ∀ text text' block block' name, HasColor v x text block name →
    HasColor v x text' block' name → ∀ className vector limit, IsFiniteVector vector →
    ∃ q q', x.smartQuery text className vector limit = .ok q ∧
      x.smartQuery text' className vector limit = .ok q' ∧
      ((∀ s, .equal .color s ∈ q.leaves ↔ .equal .color s ∈ q'.leaves) ↔
        SpelledAlike block block')

theorem HasColor.extract_color_eq_titleName_iff (hc : HasColor v (ofVocabulary v) text block name) :
    ((ofVocabulary v).extract text).color = some (titleName name) ↔
      SpelledAlike block name.toList := by
  rw [hc.extract_color, titleName, Option.some.injEq, String.ofList_inj,
    titleCase_eq_iff hc.foldedWords_eq]

theorem HasColor.extract_color_eq_iff {text' : String} {block' : List Char}
    (hc : HasColor v (ofVocabulary v) text block name)
    (hc' : HasColor v (ofVocabulary v) text' block' name) :
    ((ofVocabulary v).extract text).color = ((ofVocabulary v).extract text').color ↔
      SpelledAlike block block' := by
  rw [hc.extract_color, hc'.extract_color, Option.some.injEq, String.ofList_inj,
    titleCase_eq_iff (hc.foldedWords_eq.trans hc'.foldedWords_eq.symm)]

/-- **A reported color follows the spelling of the text**: it is the title case of its name exactly
if the text spells the name like the vocabulary does. -/
theorem followsSpelling (v : Vocabulary) : FollowsSpelling v (ofVocabulary v) := by
  refine ⟨fun _ _ => extract_color_eq_some_iff_hasColor, ?_, ?_, ?_, ?_, ?_, ?_, ?_⟩
  · intro text block name hc
    have hwords := hc.foldedWords_eq
    obtain ⟨before, after, hf⟩ := hc
    exact ⟨hf.mem, hwords⟩
  · intro name
    exact isTitleCaseOf_iff.2 String.toList_ofList
  · intro text block name hc
    exact hc.extract_color_eq_titleName_iff
  · intro text block name hc hb hn
    rw [hc.extract_color_eq_titleName_iff]
    exact spelledAlike_of_keepsCases hc.foldedWords_eq hb hn
  · intro text block name hc hn
    rw [hc.extract_color_eq_titleName_iff, spelledAlike_iff_of_isAscii hc.foldedWords_eq hn]
  · intro text text' block block' name hc hc'
    exact hc.extract_color_eq_iff hc'
  · intro text text' block block' name hc hc' className vector limit hv
    obtain ⟨q, hq, hcolor⟩ := exists_smartQuery v hv text className limit
    obtain ⟨q', hq', hcolor'⟩ := exists_smartQuery v hv text' className limit
    refine ⟨q, q', hq, hq', ?_⟩
    -- Each query compares its own reported color, so the question is whether these are the same.
    rw [← hc.extract_color_eq_iff hc']
    simp only [hcolor, hcolor']
    exact Option.ext_iff.symm

/-- A long s in front of a word is spelled like the name that has `s` in its place. -/
theorem followsSpelling_of_long_s :
    let x := ofVocabulary .standard
    FollowsSpelling .standard x ∧
      HasColor .standard x "ſKY blue case" "ſKY blue".toList "sky blue" ∧
      (x.extract "ſKY blue case").color = some (titleName "sky blue") ∧
      titleName "sky blue" = "Sky Blue" := by
  intro x
  have hlaw := followsSpelling .standard
  have hfound : locate (colorAt? (ofVocabulary .standard).colors) none
      ((ofVocabulary .standard).afterPrice "ſKY blue case") =
        some ([], "ſKY blue".toList, " case".toList) := by
    rw [ofVocabulary_standard]
    decide +kernel
  have hc : HasColor .standard x "ſKY blue case" "ſKY blue".toList "sky blue" :=
    hasColor_of_locate hfound (by decide +kernel)
  have hcolor := (hlaw.ascii _ _ _ hc (by simp)).2 (by decide +kernel)
  exact ⟨hlaw, hc, hcolor, by decide +kernel⟩

/-- **A long s behind the first letter** stays in the reported color, which is then the title case
of no name, and another one than that of the same name in usual letters. -/
theorem extract_color_of_long_s :
    let x := ofVocabulary .standard
    x.extract "roſe gold" =
        { cleanText := "", priceCeiling := none, color := some "Roſe Gold" } ∧
      (∀ name ∈ Vocabulary.standard.colors, titleName name ≠ "Roſe Gold") ∧
      x.extract "rose gold" =
        { cleanText := "", priceCeiling := none, color := some "Rose Gold" } ∧
      HasColor .standard x "roſe gold" "roſe gold".toList "rose gold" ∧
      HasColor .standard x "rose gold" "rose gold".toList "rose gold" := by
  have hfound (text : String)
      (h : locate (colorAt? (ofVocabulary .standard).colors) none
        ((ofVocabulary .standard).afterPrice text) = some ([], text.toList, []))
      (hn : foldedWords text.toList = foldedWords "rose gold".toList) :
      HasColor .standard (ofVocabulary .standard) text text.toList "rose gold" := by
    have hall : ∀ other ∈ Vocabulary.standard.colors,
        foldedWords "rose gold".toList = foldedWords other.toList → other = "rose gold" := by
      decide +kernel
    exact hasColor_of_locate h fun other hm ho => hall other hm (hn.symm.trans ho)
  refine ⟨?_, ?_, ?_, ?_, ?_⟩
  · rw [ofVocabulary_standard]
    decide +kernel
  · decide +kernel
  · rw [ofVocabulary_standard]
    decide +kernel
  · refine hfound _ ?_ (by decide +kernel)
    rw [ofVocabulary_standard]
    decide +kernel
  · refine hfound _ ?_ (by decide +kernel)
    rw [ofVocabulary_standard]
    decide +kernel

end Extractor

end Storefront
