import Storefront.Proofs.Text.Casing

/-!
# The case of ASCII letters

Texts that differ in the case of ASCII letters only have the same text in small letters. Matching
cannot tell a capital ASCII letter from its small one: they fold to the same character, belong to
words alike, and have the same upper and lower case. So whatever cuts a text at its words cuts the
text in small letters at the same places.

## Main definitions

* `asked`: what matching asks of a character
* `small`: a text with small letters for its capital ASCII letters

## Main results

* `apply_toLower`: what tells no capital ASCII letter from its small one tells no character from its
  small one
* `asked_toLower`: nor does anything that matching asks
* `words_small`, `trim_small`, `collapse_small`: the words of a text in small letters
-/

namespace Storefront.Text

variable {c : Char} {s w : List Char}

/-! ## Characters -/

/-- **What tells no capital ASCII letter from its small one** tells no character from its small one:
the others have none. -/
theorem apply_toLower {α : Type} {f : Char → α}
    (h : ∀ n < 26, f (Char.ofNat (n + 65)).toLower = f (Char.ofNat (n + 65))) (c : Char) :
    f c.toLower = f c := by
  by_cases hc : 65 ≤ c.toNat ∧ c.toNat ≤ 90
  · -- a capital letter, by its distance from the first one
    obtain ⟨hlow, hhigh⟩ := hc
    have hn := h (c.toNat - 65) (by omega)
    rwa [Nat.sub_add_cancel hlow, Char.ofNat_toNat] at hn
  · have hself : c.toLower = c := by
      refine dif_neg ?_
      rintro ⟨hlow, hhigh⟩
      rw [ge_iff_le, UInt32.le_iff_toNat_le] at hlow
      rw [UInt32.le_iff_toNat_le] at hhigh
      exact hc ⟨hlow, hhigh⟩
    rw [hself]

/-- What matching asks of a character. -/
structure Asked where
  /-- What it folds to. -/
  fold : Char
  /-- Whether it is white space. -/
  blank : Bool
  /-- Whether it belongs to words. -/
  word : Bool
  /-- The digit that it is, if it is one. -/
  digit : Option Char
  /-- Its upper case. -/
  upper : List Char
  /-- Its lower case. -/
  lower : List Char
  deriving DecidableEq

/-- What is asked of a character, with the answers. -/
def asked (c : Char) : Asked where
  fold := foldCase c
  blank := isBlank c
  word := isWordChar c
  digit := if isDigit c then some c else none
  upper := upperCase c
  lower := lowerCase c

/-- **Nothing that matching asks tells a character from its small one.** -/
theorem asked_toLower (c : Char) : asked c.toLower = asked c :=
  apply_toLower (by decide +kernel) c

@[simp] theorem foldCase_toLower (c : Char) : foldCase c.toLower = foldCase c :=
  congrArg Asked.fold (asked_toLower c)

@[simp] theorem isBlank_toLower (c : Char) : isBlank c.toLower = isBlank c :=
  congrArg Asked.blank (asked_toLower c)

@[simp] theorem isWordChar_toLower (c : Char) : isWordChar c.toLower = isWordChar c :=
  congrArg Asked.word (asked_toLower c)

@[simp] theorem upperCase_toLower (c : Char) : upperCase c.toLower = upperCase c :=
  congrArg Asked.upper (asked_toLower c)

@[simp] theorem lowerCase_toLower (c : Char) : lowerCase c.toLower = lowerCase c :=
  congrArg Asked.lower (asked_toLower c)

theorem isSome_digit_asked (c : Char) : (asked c).digit.isSome = isDigit c := by
  unfold asked
  cases isDigit c <;> rfl

@[simp] theorem isDigit_toLower (c : Char) : isDigit c.toLower = isDigit c := by
  rw [← isSome_digit_asked, asked_toLower, isSome_digit_asked]

/-- Digits have no case. -/
theorem toLower_of_isDigit (h : isDigit c = true) : c.toLower = c := by
  have hd := congrArg Asked.digit (asked_toLower c)
  simpa [asked, h] using hd

/-- The currency sign has no case. -/
theorem toLower_eq_currency_iff : c.toLower = '$' ↔ c = '$' := by
  have hf := apply_toLower (f := (· == '$')) (by decide) c
  rw [← beq_iff_eq, hf, beq_iff_eq]

/-! ## Texts -/

/-- **A text in small letters**, as far as they are ASCII letters. -/
def small (s : List Char) : List Char := s.map Char.toLower

@[simp] theorem small_nil : small [] = [] := rfl

@[simp] theorem small_cons (c : Char) (s : List Char) : small (c :: s) = c.toLower :: small s := rfl

@[simp] theorem small_append (s t : List Char) : small (s ++ t) = small s ++ small t :=
  List.map_append

@[simp] theorem length_small (s : List Char) : (small s).length = s.length := List.length_map ..

theorem head?_small (s : List Char) : (small s).head? = s.head?.map Char.toLower :=
  List.head?_map ..

theorem getLast?_small (s : List Char) : (small s).getLast? = s.getLast?.map Char.toLower :=
  List.getLast?_map ..

/-- The same characters are dropped in front of a text in small letters. -/
theorem dropBlanks_small (s : List Char) : dropBlanks (small s) = small (dropBlanks s) := by
  rw [dropBlanks, small, List.dropWhile_map,
    show isBlank ∘ Char.toLower = isBlank from funext isBlank_toLower]
  rfl

theorem trim_small (s : List Char) : trim (small s) = small (trim s) := by
  have hr (t : List Char) : (small t).reverse = small t.reverse := List.map_reverse.symm
  rw [trim, dropBlanks_small, hr, dropBlanks_small, hr, trim]

theorem IsWord.small (h : IsWord w) : IsWord (small w) := by
  refine ⟨fun hn => h.1 (List.map_eq_nil_iff.1 hn), ?_⟩
  intro c hc
  obtain ⟨d, hd, rfl⟩ := List.mem_map.1 hc
  rw [isBlank_toLower]
  exact h.2 d hd

/-- **The words of a text in small letters** are its words in small letters. -/
theorem words_small (s : List Char) : words (small s) = (words s).map small := by
  induction s using words_induction with
  | nil => rfl
  | blank b s hb ih =>
    rw [small_cons, words_blank_cons (by rwa [isBlank_toLower]), ih, words_blank_cons hb]
  | last w hw => rw [words_of_isWord hw.small, words_of_isWord hw, List.map_singleton]
  | word w b s hw hb ih =>
    rw [small_append, small_cons, words_append_blank (by rwa [isBlank_toLower]),
      words_of_isWord hw.small, ih, words_append_blank hb, words_of_isWord hw, List.map_append,
      List.map_singleton]

theorem joinSpaced_small (ws : List (List Char)) :
    joinSpaced (ws.map small) = small (joinSpaced ws) := by
  induction ws with
  | nil => rfl
  | cons w ws ih =>
    cases ws with
    | nil => simp
    | cons v ws =>
      simp only [List.map_cons, joinSpaced_cons_cons, small_append, small_cons] at ih ⊢
      rw [ih]
      rfl

theorem collapse_small (s : List Char) : collapse (small s) = small (collapse s) := by
  rw [collapse, words_small, joinSpaced_small, collapse]

end Storefront.Text
