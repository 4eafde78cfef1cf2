import Mathlib.Data.List.Forall2
import Storefront.Extraction.Passes
import Storefront.Proofs.Text.Casing

/-!
# Title case

A reported color is in title case. This is said here word by word, of the characters of the text
that it is made of: each word has its first character in upper case and the others in lower case,
and single spaces stand between the words. Such a text has no white space at its ends, and it is not
empty unless the other text is blank.

## Main definitions

* `IsCapitalized`: a word with its first character in upper case and the others in lower case
* `IsTitleCaseOf`: a text in title case

## Main results

* `isTitleCaseOf_iff`: there is one title case of a text
* `isTidy_titleCase`, `titleCase_ne_nil`: a title case is neither blank nor has white space at its
  ends
-/

namespace Storefront.Extraction

open Text

variable {s t u w : List Char}

/-! ## Words -/

/-- **A word is capitalized from another one**: its first character is in upper case, and all others
are in lower case. -/
def IsCapitalized (w u : List Char) : Prop :=
  ∃ c rest, u = c :: rest ∧ w = upperCase c ++ rest.flatMap lowerCase

theorem isCapitalized_titleWord (h : IsWord u) : IsCapitalized (titleWord u) u := by
  obtain ⟨c, rest, rfl⟩ := List.exists_cons_of_ne_nil h.1
  exact ⟨c, rest, rfl, rfl⟩

theorem IsCapitalized.eq_titleWord (h : IsCapitalized w u) : w = titleWord u := by
  obtain ⟨c, rest, rfl, rfl⟩ := h
  rfl

theorem isWord_titleWord (h : IsWord w) : IsWord (titleWord w) := by
  obtain ⟨hne, hw⟩ := h
  obtain ⟨c, w, rfl⟩ := List.exists_cons_of_ne_nil hne
  -- The first letter gets its upper case, the others their lower case.
  have hc := isWord_upperCase (hw c (List.mem_cons_self ..))
  refine ⟨by simp [titleWord, hc.1], fun d hd => ?_⟩
  rcases List.mem_append.1 hd with hd | hd
  · exact hc.2 d hd
  · obtain ⟨e, he, hd⟩ := List.mem_flatMap.1 hd
    exact (isWord_lowerCase (hw e (List.mem_cons_of_mem _ he))).2 d hd

theorem isWord_of_mem_map_titleWord (h : w ∈ (words s).map titleWord) : IsWord w := by
  obtain ⟨u, hu, rfl⟩ := List.mem_map.1 h
  exact isWord_titleWord (isWord_of_mem_words hu)

/-! ## Texts -/

/-- **A text is the title case of another one**: the words of that, each capitalized, with single
spaces between them. -/
def IsTitleCaseOf (t s : List Char) : Prop :=
  ∃ capitals, t = [' '].intercalate capitals ∧ List.Forall₂ IsCapitalized capitals (words s)

/-- **There is one title case of a text.** -/
theorem isTitleCaseOf_iff : IsTitleCaseOf t s ↔ t = titleCase s := by
  constructor
  · rintro ⟨capitals, rfl, h⟩
    have hc : capitals = (words s).map titleWord := by
      rw [← List.forall₂_eq_eq_eq, List.forall₂_map_right_iff]
      exact h.imp fun _ _ => IsCapitalized.eq_titleWord
    rw [hc, titleCase, joinSpaced]
  · rintro rfl
    refine ⟨(words s).map titleWord, rfl, ?_⟩
    rw [List.forall₂_map_left_iff, List.forall₂_same]
    exact fun u hu => isCapitalized_titleWord (isWord_of_mem_words hu)

/-- **Title case is tidy.** -/
theorem isTidy_titleCase (s : List Char) : IsTidy (titleCase s) :=
  isTidy_joinSpaced fun _ => isWord_of_mem_map_titleWord

/-- The words of a title case are those of the text, each with a capital. -/
theorem words_titleCase (s : List Char) : words (titleCase s) = (words s).map titleWord :=
  words_joinSpaced fun _ => isWord_of_mem_map_titleWord

/-- A text with words has a title case. -/
theorem titleCase_ne_nil (h : words s ≠ []) : titleCase s ≠ [] := by
  intro ht
  have := words_titleCase s
  rw [ht, words_nil] at this
  exact h (List.map_eq_nil_iff.1 this.symm)

end Storefront.Extraction
