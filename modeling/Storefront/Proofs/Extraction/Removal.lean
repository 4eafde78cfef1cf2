import Mathlib.Logic.Function.Iterate
import Storefront.Proofs.Extraction.Matching
import Storefront.Proofs.Extraction.TitleCase

/-!
# What extraction removes

Each pass takes one block out of the text, if it reports anything, and puts a space in its place.
The block of a price is a phrase with its number, and the block of a color has that color as its
title case; nothing else leaves the text. Every block holds more than white space, so the text gets
shorter with every report, and extracting from clean texts again and again comes to an end.

## Main definitions

* `Cuts`: one block of a text gives way to a space
* `Pass`: what a pass does to a text, with and without a report
* `Vocabulary.IsPriceBlock`, `Vocabulary.IsColorBlock`: the blocks of a vocabulary
* `Constraints.IsRemoved`: the constraints, and nothing else, were taken out of a text
* `Extractor.IsSettled`: extraction reports nothing and changes nothing

## Main results

* `pass_takePrice`, `pass_takeColor`: what the two passes do
* `isRemoved_extract`: extraction takes out the constraints that it reports
* `exists_isSettled_iterate`: a tidy text settles in as many steps as it has letters
* `extract_isRemoved_and_settles`: both, for every text
-/

namespace Storefront

open Extraction Text

namespace Extraction

variable {α : Type} {s t block : List Char} {entries : List Entry}

/-- **One block of a text gives way to a space.** -/
def Cuts (block s t : List Char) : Prop :=
  ∃ before after, s = before ++ block ++ after ∧ t = before ++ ' ' :: after

/-- A text loses what its block holds besides white space. -/
theorem Cuts.length_solid (h : Cuts block s t) :
    (solid t).length + (solid block).length = (solid s).length := by
  obtain ⟨before, after, rfl, rfl⟩ := h
  simp only [solid_append, List.length_append, solid_cons_of_blank isBlank_space]
  omega

/-- **A pass over a text**: a report takes one block of its kind out of the text, and without a
report the text stays. -/
def Pass (IsBlock : α → List Char → Prop) (s : List Char) (report : Option α) (t : List Char) :
    Prop :=
  match report with
  | none => t = s
  | some a => ∃ block, IsBlock a block ∧ Cuts block s t

/-- A pass whose blocks hold more than white space leaves fewer letters with every report. -/
theorem Pass.length_solid {IsBlock : α → List Char → Prop} {report : Option α}
    (h : Pass IsBlock s report t) (hb : ∀ a block, IsBlock a block → solid block ≠ []) :
    (solid t).length + report.isSome.toNat ≤ (solid s).length := by
  cases report with
  | none =>
    obtain rfl : t = s := h
    simp
  | some a =>
    obtain ⟨block, hblock, hc⟩ := h
    have hlen := hc.length_solid
    have hpos := List.length_pos_iff.2 (hb a block hblock)
    simp only [Option.isSome_some, Bool.toNat_true]
    omega

/-- The price pass takes out the price of a phrase whose digits make the ceiling. -/
theorem pass_takePrice (entries : List Entry) (s : List Char) :
    Pass (fun n block => ∃ p ∈ entries, ∃ digits, IsPrice p.words digits block ∧
      ceiling? digits = some n) s (takePrice entries s).2 (takePrice entries s).1 := by
  unfold takePrice
  split
  · -- no price
    rfl
  · -- the leftmost price, with what is skipped in front of it
    next skipped digits rest hl =>
    obtain ⟨here, rfl, hh⟩ := locate_eq_some hl
    obtain ⟨p, hp, block, rfl, hb⟩ := priceAt?_eq_some hh
    split
    · -- an amount beyond the largest ceiling
      rfl
    · next n hn =>
      exact ⟨block, ⟨p, hp, digits, hb, hn⟩, skipped, rest, (List.append_assoc ..).symm, rfl⟩

/-- The color pass takes out a block that spells an entry, and reports its title case. -/
theorem pass_takeColor (entries : List Entry) (s : List Char) :
    Pass (fun color block => ∃ e ∈ entries, Spells e.words block ∧ titleCase block = color) s
      (takeColor entries s).2 (takeColor entries s).1 := by
  unfold takeColor
  split
  · rfl
  · next skipped taken rest hl =>
    obtain ⟨here, rfl, hc⟩ := locate_eq_some hl
    obtain ⟨e, he, rfl, hs, -, -⟩ := colorAt?_eq_some hc
    exact ⟨taken, ⟨e, he, hs, rfl⟩, skipped, rest, (List.append_assoc ..).symm, rfl⟩

/-- A price pass without a report leaves the text as it is. -/
theorem takePrice_fst_of_none (h : (takePrice entries s).2 = none) :
    (takePrice entries s).1 = s := by
  have hp := pass_takePrice entries s
  rwa [h] at hp

/-- A color pass without a report leaves the text as it is. -/
theorem takeColor_fst_of_none (h : (takeColor entries s).2 = none) :
    (takeColor entries s).1 = s := by
  have hp := pass_takeColor entries s
  rwa [h] at hp

theorem Pass.imp {P Q : α → List Char → Prop} {report : Option α} (h : Pass P s report t)
    (hpq : ∀ a block, P a block → Q a block) : Pass Q s report t := by
  cases report with
  | none => exact h
  | some a =>
    obtain ⟨block, hp, hc⟩ := h
    exact ⟨block, hpq a block hp, hc⟩

theorem ceiling?_eq_some {digits : List Char} {n : Nat} (h : ceiling? digits = some n) :
    (∀ d ∈ digits, isAsciiDigit d = true) ∧ Nat.ofDigitChars 10 digits 0 = n ∧ n ≤ maxCeiling := by
  unfold ceiling? at h
  split at h
  · next hc =>
    rw [Bool.and_eq_true, List.all_eq_true, decide_eq_true_eq] at hc
    obtain rfl := Option.some.inj h
    exact ⟨hc.1, rfl, hc.2⟩
  · simp at h

end Extraction

/-! ## The blocks of a vocabulary -/

namespace Vocabulary

/-- **A block is a price of the vocabulary**: the words of a phrase, a currency sign if there is
one, and digits of the amount, with white space before the phrase and behind it. -/
def IsPriceBlock (v : Vocabulary) (n : Nat) (block : List Char) : Prop :=
  ∃ phrase ∈ v.pricePhrases, ∃ gap spelled space currency digits,
    block = gap ++ spelled ++ space ++ currency ++ digits ∧
    (∀ c ∈ gap ++ space, isBlank c = true) ∧
    foldedWords spelled = foldedWords phrase.toList ∧
    (currency = [] ∨ currency = ['$']) ∧
    digits ≠ [] ∧ (∀ d ∈ digits, isAsciiDigit d = true) ∧ Nat.ofDigitChars 10 digits 0 = n

/-- **A block is a color of the vocabulary**: it has the words of a name, and the color is its title
case. -/
def IsColorBlock (v : Vocabulary) (color block : List Char) : Prop :=
  IsTitleCaseOf color block ∧ ∃ name ∈ v.colors,
    foldedWords block = foldedWords name.toList ∧ words block ≠ []

variable {v : Vocabulary} {n : Nat} {block color : List Char}

/-- The digits of a price are no white space. -/
theorem IsPriceBlock.solid_ne_nil (h : v.IsPriceBlock n block) : solid block ≠ [] := by
  obtain ⟨_, _, gap, spelled, space, currency, digits, rfl, -, -, -, hne, hd, -⟩ := h
  obtain ⟨d, digits, rfl⟩ := List.exists_cons_of_ne_nil hne
  intro hs
  have hb := solid_eq_nil_iff.1 hs d (by simp)
  rw [not_isBlank_of_isAsciiDigit (hd d (List.mem_cons_self ..))] at hb
  simp at hb

/-- A color has words. -/
theorem IsColorBlock.solid_ne_nil (h : v.IsColorBlock color block) : solid block ≠ [] := by
  obtain ⟨-, _, _, -, hne⟩ := h
  intro hs
  exact hne (words_eq_nil_of_blanks (solid_eq_nil_iff.1 hs))

/-- **A text loses a price and a color**, if there are any: one after the other, in whatever order,
each as one block of the text that is left at the time. -/
def Removes (v : Vocabulary) (s : List Char) (price : Option Nat) (color : Option (List Char))
    (t : List Char) : Prop :=
  ∃ between, Pass v.IsPriceBlock s price between ∧ Pass v.IsColorBlock between color t ∨
    Pass v.IsColorBlock s color between ∧ Pass v.IsPriceBlock between price t

variable {s t : List Char}

/-- A text that loses nothing stays. -/
theorem Removes.eq_self (h : v.Removes s none none t) : t = s := by
  obtain ⟨between, ⟨h₁, h₂⟩ | ⟨h₁, h₂⟩⟩ := h
  · exact Eq.trans h₂ h₁
  · exact Eq.trans h₂ h₁

/-- A color that a text loses is the title case of a block. -/
theorem Removes.exists_isColorBlock {price : Option Nat} {color : List Char}
    (h : v.Removes s price (some color) t) : ∃ block, v.IsColorBlock color block := by
  obtain ⟨between, ⟨-, block, hb, -⟩ | ⟨⟨block, hb, -⟩, -⟩⟩ := h
  · exact ⟨block, hb⟩
  · exact ⟨block, hb⟩

/-- Whatever a text loses makes it shorter, white space aside. -/
theorem Removes.length_solid {price : Option Nat} {color : Option (List Char)}
    (h : v.Removes s price color t) :
    (solid t).length + (price.isSome.toNat + color.isSome.toNat) ≤ (solid s).length := by
  obtain ⟨between, ⟨h₁, h₂⟩ | ⟨h₁, h₂⟩⟩ := h
  · have hp := h₁.length_solid fun _ _ => IsPriceBlock.solid_ne_nil
    have hc := h₂.length_solid fun _ _ => IsColorBlock.solid_ne_nil
    omega
  · have hc := h₁.length_solid fun _ _ => IsColorBlock.solid_ne_nil
    have hp := h₂.length_solid fun _ _ => IsPriceBlock.solid_ne_nil
    omega

end Vocabulary

/-! ## Extraction -/

/-- How many constraints were found. -/
def Constraints.count (c : Constraints) : Nat := c.priceCeiling.isSome.toNat + c.color.isSome.toNat

/-- **The constraints, and nothing else, were taken out of a text.** -/
structure Constraints.IsRemoved (v : Vocabulary) (text : List Char) (c : Constraints) : Prop where
  /-- The clean text has no white space at its ends, and none beside other white space. -/
  tidy : IsTidy c.cleanText.toList
  /-- The clean text is what is left of the text, but for white space. -/
  removes : ∃ rest, v.Removes text c.priceCeiling (c.color.map String.toList) rest ∧
    solid c.cleanText.toList = solid rest
  /-- If there are no constraints, only white space was collapsed. -/
  unchanged : c.priceCeiling = none → c.color = none → c.cleanText.toList = collapse text
  /-- Every constraint made the text shorter, white space aside. -/
  shorter : (solid c.cleanText.toList).length + c.count ≤ (solid text).length

theorem Constraints.IsRemoved.of_removes {v : Vocabulary} {text rest : List Char} {c : Constraints}
    (hr : v.Removes text c.priceCeiling (c.color.map String.toList) rest)
    (hc : c.cleanText.toList = collapse rest) : c.IsRemoved v text where
  tidy := by
    rw [hc]
    exact isTidy_collapse rest
  removes := ⟨rest, hr, by rw [hc, solid_collapse]⟩
  unchanged hp hn := by
    rw [hp, hn] at hr
    rw [hc, hr.eq_self]
  shorter := by
    have := hr.length_solid
    rw [Option.isSome_map] at this
    rw [hc, solid_collapse]
    exact this

namespace Extractor

variable {v : Vocabulary} {x : Extractor}

/-- Extraction reports nothing and changes nothing. -/
def IsSettled (x : Extractor) (text : String) : Prop :=
  x.extract text = { cleanText := text, priceCeiling := none, color := none }

/-- The price pass takes out a price of the vocabulary. -/
theorem pass_price (v : Vocabulary) (s : List Char) :
    Pass v.IsPriceBlock s (takePrice (lexicon v.pricePhrases) s).2
      (takePrice (lexicon v.pricePhrases) s).1 := by
  refine (pass_takePrice _ s).imp fun n block h => ?_
  obtain ⟨p, hp, digits, ⟨gap, spelled, space, currency, rfl, hb, hs, hc, hne, -⟩, hd⟩ := h
  obtain ⟨phrase, hm, hw, -⟩ := exists_words_of_mem_lexicon hp
  obtain ⟨ha, hn, -⟩ := ceiling?_eq_some hd
  refine ⟨phrase, hm, gap, spelled, space, currency, digits, rfl, hb, ?_, hc, hne, ha, hn⟩
  rw [hs.foldedWords (isProper_lexicon _ p hp).2, hw, foldedWords]

/-- The color pass takes out a color of the vocabulary. -/
theorem pass_color (v : Vocabulary) (s : List Char) :
    Pass v.IsColorBlock s (takeColor (lexicon v.colors) s).2
      (takeColor (lexicon v.colors) s).1 := by
  refine (pass_takeColor _ s).imp fun color block h => ?_
  obtain ⟨e, he, hs, ht⟩ := h
  obtain ⟨name, hm, hw, hne⟩ := exists_words_of_mem_lexicon he
  have hf := hs.foldedWords (isProper_lexicon _ e he).2
  refine ⟨isTitleCaseOf_iff.2 ht.symm, name, hm, by rw [hf, hw, foldedWords], ?_⟩
  intro hnil
  rw [foldedWords, hnil] at hf
  exact hne (List.map_eq_nil_iff.1 hf.symm)

/-- A price that is found first goes first, and there is no second price pass. -/
theorem passes_of_some {s t : List Char} {n : Nat} (h : takePrice x.phrases s = (t, some n)) :
    x.passes s = ((takeColor x.colors t).1, some n, (takeColor x.colors t).2) := by
  simp [passes, h]

/-- Without a price at first, the color goes before the price. -/
theorem passes_of_none {s : List Char} (h : (takePrice x.phrases s).2 = none) :
    x.passes s = ((takePrice x.phrases (takeColor x.colors s).1).1,
      (takePrice x.phrases (takeColor x.colors s).1).2, (takeColor x.colors s).2) := by
  simp [passes, h, takePrice_fst_of_none h]

/-- **The passes take out what they report.** -/
theorem removes_passes (v : Vocabulary) (s : List Char) :
    v.Removes s ((ofVocabulary v).passes s).2.1 ((ofVocabulary v).passes s).2.2
      ((ofVocabulary v).passes s).1 := by
  have hp := pass_price v s
  cases h : takePrice (lexicon v.pricePhrases) s with
  | mk t price =>
    rw [h] at hp
    cases price with
    | some n =>
      -- first the price, then the color
      rw [passes_of_some h]
      exact ⟨t, .inl ⟨hp, pass_color v t⟩⟩
    | none =>
      -- first the color, then a price that its removal may have joined
      rw [passes_of_none (congrArg Prod.snd h)]
      exact ⟨_, .inr ⟨pass_color v s, pass_price v _⟩⟩

/-- The text loses the constraints that are extracted. -/
theorem removes_extract (v : Vocabulary) (text : String) :
    v.Removes text.toList ((ofVocabulary v).extract text).priceCeiling
      (((ofVocabulary v).extract text).color.map String.toList)
      ((ofVocabulary v).passes text.toList).1 := by
  have := removes_passes v text.toList
  rw [extract_priceCeiling, extract_color, Option.map_map]
  simpa [Function.comp_def] using this

/-- The clean text is what the passes leave, collapsed. -/
theorem toList_cleanText (x : Extractor) (text : String) :
    (x.extract text).cleanText.toList = collapse (x.passes text.toList).1 := by
  rw [extract_cleanText, String.toList_ofList]

theorem collapse_cleanText (x : Extractor) (text : String) :
    collapse (x.extract text).cleanText.toList = (x.extract text).cleanText.toList := by
  rw [toList_cleanText, collapse_collapse]

/-- **Extraction takes out the constraints that it reports.** -/
theorem isRemoved_extract (v : Vocabulary) (text : String) :
    ((ofVocabulary v).extract text).IsRemoved v text.toList :=
  .of_removes (removes_extract v text) (toList_cleanText _ text)

/-- A collapsed text of which nothing is reported is settled. -/
theorem isSettled_of_count_eq_zero {text : String} (ht : collapse text.toList = text.toList)
    (hc : ((ofVocabulary v).extract text).count = 0) : (ofVocabulary v).IsSettled text := by
  have hr := (isRemoved_extract v text).unchanged
  rw [IsSettled]
  generalize (ofVocabulary v).extract text = c at hc hr ⊢
  obtain ⟨clean, price, color⟩ := c
  obtain ⟨rfl, rfl⟩ : price = none ∧ color = none := by
    simpa [Constraints.count] using hc
  obtain rfl : clean = text := String.toList_inj.1 ((hr rfl rfl).trans ht)
  rfl

/-- **A collapsed text settles** in as many steps as it has characters besides white space. -/
theorem exists_isSettled_iterate (v : Vocabulary) {n : Nat} {text : String}
    (ht : collapse text.toList = text.toList) (hn : (solid text.toList).length ≤ n) :
    ∃ j ≤ n, (ofVocabulary v).IsSettled
      ((fun t => ((ofVocabulary v).extract t).cleanText)^[j] text) := by
  induction n generalizing text with
  | zero =>
    -- A text of white space only has nothing to lose.
    have hs := (isRemoved_extract v text).shorter
    have hc : ((ofVocabulary v).extract text).count = 0 := by omega
    exact ⟨0, Nat.le_refl 0, isSettled_of_count_eq_zero ht hc⟩
  | succ n ih =>
    by_cases hc : ((ofVocabulary v).extract text).count = 0
    · exact ⟨0, Nat.zero_le _, isSettled_of_count_eq_zero ht hc⟩
    · -- Something is found, and the clean text is shorter.
      have hs := (isRemoved_extract v text).shorter
      obtain ⟨j, hj, hset⟩ := ih (collapse_cleanText (ofVocabulary v) text) (by omega)
      exact ⟨j + 1, Nat.succ_le_succ hj, hset⟩

/-- **Extraction loses nothing but the constraints, and extracting again and again comes to an
end**: a text with `k` characters besides white space settles in `k + 1` steps at most. -/
theorem extract_isRemoved_and_settles (v : Vocabulary) (text : String) :
    ((ofVocabulary v).extract text).IsRemoved v text.toList ∧
      ∃ j ≤ (solid text.toList).length + 1, (ofVocabulary v).IsSettled
        ((fun t => ((ofVocabulary v).extract t).cleanText)^[j] text) := by
  refine ⟨isRemoved_extract v text, ?_⟩
  -- One step more: the text itself need not be collapsed, but its clean text is.
  have hs := (isRemoved_extract v text).shorter
  obtain ⟨j, hj, hset⟩ := exists_isSettled_iterate v (collapse_cleanText _ text)
    (Nat.le_of_add_right_le hs)
  exact ⟨j + 1, Nat.succ_le_succ hj, hset⟩

/-- A price between the words of a phrase leaves the phrase, so the text takes two steps to
settle. -/
theorem extract_settles_after_joining :
    let x := ofVocabulary .standard
    let c : Constraints := { cleanText := "less than 6", priceCeiling := some 5, color := none }
    x.extract "less under 5 than 6" = c ∧ c.IsRemoved .standard "less under 5 than 6".toList ∧
      (∃ j ≤ 16, x.IsSettled ((fun t => (x.extract t).cleanText)^[j] "less under 5 than 6")) ∧
      (fun t => (x.extract t).cleanText)^[2] "less under 5 than 6" = "" ∧ x.IsSettled "" := by
  intro x c
  have hx : x = _ := ofVocabulary_standard
  have hc : x.extract "less under 5 than 6" = c := by
    rw [hx]
    decide +kernel
  have hk : (solid "less under 5 than 6".toList).length + 1 = 16 := by decide +kernel
  obtain ⟨hr, hs⟩ := extract_isRemoved_and_settles .standard "less under 5 than 6"
  rw [hk] at hs
  refine ⟨hc, hc ▸ hr, hs, ?_, ?_⟩
  · rw [hx]
    decide +kernel
  · rw [hx, IsSettled]
    decide +kernel

end Extractor

end Storefront
