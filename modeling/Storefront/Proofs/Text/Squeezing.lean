import Storefront.Proofs.Text.Layout

/-!
# Squeezed texts

Collapsing white space looks at all words of a text. Squeezing does the same from character to
character, except that a space stays in front: what squeezing makes of a text is known from its
first character and from what squeezing makes of the others, so that it goes along with a matcher.

## Main definitions

* `spaced`: one space in front of a text
* `squeeze`: one space for each run of white space that another character follows

## Main results

* `dropBlanks_squeeze`: dropping white space in front and squeezing can change places
* `collapse_eq`: collapsing is squeezing and dropping the space in front
-/

namespace Storefront.Text

variable {s t w : List Char} {b c : Char}

/-- One space in front of a text, unless it is empty or begins with one. -/
def spaced : List Char → List Char
  | [] => []
  | c :: s => if c = ' ' then c :: s else ' ' :: c :: s

/-- **One space for each run of white space** that another character follows; what follows the last
such character is dropped. -/
def squeeze : List Char → List Char
  | [] => []
  | c :: s => if isBlank c then spaced (squeeze s) else c :: squeeze s

@[simp] theorem squeeze_nil : squeeze [] = [] := rfl

theorem squeeze_blank_cons (h : isBlank b = true) (s : List Char) :
    squeeze (b :: s) = spaced (squeeze s) := by
  rw [squeeze, if_pos h]

theorem squeeze_cons_of_not_blank (h : isBlank c = false) (s : List Char) :
    squeeze (c :: s) = c :: squeeze s := by
  rw [squeeze, if_neg (by simp [h])]

theorem spaced_head? (h : s ≠ []) : (spaced s).head? = some ' ' := by
  cases s with
  | nil => exact absurd rfl h
  | cons c s => by_cases hc : c = ' ' <;> simp [spaced, hc]

@[simp] theorem spaced_spaced (s : List Char) : spaced (spaced s) = spaced s := by
  cases s with
  | nil => rfl
  | cons c s => by_cases h : c = ' ' <;> simp [spaced, h]

/-- White space in front of a squeezed text is one space, and something follows it. -/
theorem squeeze_eq_blank_cons (hc : isBlank c = true) (h : squeeze s = c :: t) :
    c = ' ' ∧ ∃ d u, t = d :: u ∧ isBlank d = false := by
  induction s generalizing c t with
  | nil => simp at h
  | cons d s ih =>
    by_cases hd : isBlank d = true
    · -- White space is squeezed to a space before what is squeezed of the others.
      rw [squeeze_blank_cons hd] at h
      cases hs : squeeze s with
      | nil => simp [hs, spaced] at h
      | cons e u =>
        by_cases he : e = ' '
        · -- There is a space already.
          subst he
          obtain ⟨rfl, rfl⟩ : ' ' = c ∧ u = t := by simpa [hs, spaced] using h
          exact ih isBlank_space hs
        · -- If there were other white space, it would be a space (induction).
          obtain ⟨rfl, rfl⟩ : ' ' = c ∧ e :: u = t := by simpa [hs, spaced, he] using h
          refine ⟨rfl, e, u, rfl, Bool.eq_false_iff.2 fun hb => ?_⟩
          exact he (ih hb hs).1
    · rw [Bool.not_eq_true] at hd
      rw [squeeze_cons_of_not_blank hd] at h
      obtain rfl := (List.cons.inj h).1
      simp [hd] at hc

theorem spaced_space_cons (s : List Char) : spaced (' ' :: s) = ' ' :: s := rfl

theorem spaced_cons_of_ne (h : c ≠ ' ') (s : List Char) : spaced (c :: s) = ' ' :: c :: s := by
  rw [spaced, if_neg h]

theorem squeeze_spaced (s : List Char) : squeeze (spaced s) = spaced (squeeze s) := by
  cases s with
  | nil => rfl
  | cons c s =>
    by_cases h : c = ' '
    · subst h
      rw [spaced_space_cons, squeeze_blank_cons isBlank_space, spaced_spaced]
    · rw [spaced_cons_of_ne h, squeeze_blank_cons isBlank_space]

@[simp] theorem squeeze_squeeze (s : List Char) : squeeze (squeeze s) = squeeze s := by
  induction s with
  | nil => rfl
  | cons c s ih =>
    by_cases hc : isBlank c = true
    · rw [squeeze_blank_cons hc, squeeze_spaced, ih]
    · rw [Bool.not_eq_true] at hc
      rw [squeeze_cons_of_not_blank hc, squeeze_cons_of_not_blank hc, ih]

theorem dropBlanks_spaced (s : List Char) : dropBlanks (spaced s) = dropBlanks s := by
  cases s with
  | nil => rfl
  | cons c s =>
    by_cases h : c = ' '
    · simp [spaced, h]
    · simp [spaced, h, dropBlanks, isBlank_space]

/-- Dropping white space in front and squeezing can change places. -/
theorem dropBlanks_squeeze (s : List Char) : dropBlanks (squeeze s) = squeeze (dropBlanks s) := by
  induction s with
  | nil => rfl
  | cons c s ih =>
    by_cases hc : isBlank c = true
    · rw [squeeze_blank_cons hc, dropBlanks_spaced, ih, dropBlanks_blank_cons hc]
    · rw [Bool.not_eq_true] at hc
      rw [dropBlanks_eq_self (s := c :: s) (by simpa using hc), squeeze_cons_of_not_blank hc,
        dropBlanks_eq_self (by simpa using hc)]

/-- Characters other than white space are not changed. -/
theorem squeeze_append (h : ∀ c ∈ w, isBlank c = false) (s : List Char) :
    squeeze (w ++ s) = w ++ squeeze s := by
  induction w with
  | nil => rfl
  | cons c w ih =>
    rw [List.cons_append, squeeze_cons_of_not_blank (h c (List.mem_cons_self ..)),
      ih fun d hd => h d (List.mem_cons_of_mem _ hd), List.cons_append]

/-- A space in front of a squeezed text stands before something else. -/
theorem spaced_squeeze (h : squeeze s ≠ []) :
    spaced (squeeze s) = ' ' :: dropBlanks (squeeze s) ∧ dropBlanks (squeeze s) ≠ [] := by
  obtain ⟨c, t, hs⟩ := List.exists_cons_of_ne_nil h
  rw [hs]
  by_cases hc : isBlank c = true
  · obtain ⟨rfl, d, u, rfl, hd⟩ := squeeze_eq_blank_cons hc hs
    simp [spaced, dropBlanks, isBlank_space, hd]
  · rw [Bool.not_eq_true] at hc
    have hne : c ≠ ' ' := by
      rintro rfl
      simp [isBlank_space] at hc
    simp [spaced, dropBlanks, hc, hne]

/-- **Collapsing** is squeezing and dropping the space in front. -/
theorem collapse_eq (s : List Char) : collapse s = dropBlanks (squeeze s) := by
  induction s using words_induction with
  | nil => rfl
  | blank b s hb ih =>
    rw [squeeze_blank_cons hb, dropBlanks_spaced, ← ih, collapse, words_blank_cons hb, collapse]
  | last w hw =>
    have := squeeze_append hw.2 []
    rw [squeeze_nil, List.append_nil] at this
    rw [this, dropBlanks_eq_self hw.isTidy.head, collapse, words_of_isWord hw, joinSpaced_singleton]
  | word w b s hw hb ih =>
    have hhead : ∀ c ∈ (w ++ spaced (squeeze s)).head?, isBlank c = false := by
      obtain ⟨c, w, rfl⟩ := List.exists_cons_of_ne_nil hw.1
      simpa using hw.2 c (List.mem_cons_self ..)
    rw [squeeze_append hw.2, squeeze_blank_cons hb, dropBlanks_eq_self hhead, collapse,
      words_append_blank hb, words_of_isWord hw, List.singleton_append]
    -- The word is the last one exactly if nothing but white space follows it.
    by_cases hs : squeeze s = []
    · have hws : words s = [] := by
        rw [← words_collapse, ih, hs]
        rfl
      simp [hs, hws, spaced]
    · obtain ⟨hsp, hne⟩ := spaced_squeeze hs
      rw [hsp, ← ih]
      rw [← ih, collapse] at hne
      cases hws : words s with
      | nil => simp [hws] at hne
      | cons v ws => rw [joinSpaced_cons_cons, collapse, hws]

@[simp] theorem words_squeeze (s : List Char) : words (squeeze s) = words s := by
  obtain ⟨gap, hs, hg⟩ := dropBlanks_eq (squeeze s)
  rw [hs, words_blanks_append hg, ← collapse_eq, words_collapse]

theorem spaced_append (h : s ≠ []) (t : List Char) : spaced (s ++ t) = spaced s ++ t := by
  obtain ⟨c, s, rfl⟩ := List.exists_cons_of_ne_nil h
  by_cases hc : c = ' ' <;> simp [spaced, hc]

theorem getLast?_spaced (s : List Char) : (spaced s).getLast? = s.getLast? := by
  cases s with
  | nil => rfl
  | cons c s => by_cases hc : c = ' ' <;> simp [spaced, hc, List.getLast?_cons]

/-- A text that ends with something else than white space is squeezed apart from what follows, and
its end stays. -/
theorem squeeze_append_of_getLast? (hc : isBlank c = false) (h : s.getLast? = some c) :
    (squeeze s).getLast? = some c ∧ ∀ t, squeeze (s ++ t) = squeeze s ++ squeeze t := by
  induction s with
  | nil => simp at h
  | cons d s ih =>
    cases s with
    | nil =>
      obtain rfl : d = c := by simpa using h
      simp [squeeze_cons_of_not_blank hc]
    | cons e s =>
      -- The end of the text is that of its rest, which is squeezed apart from what follows.
      obtain ⟨hl, ha⟩ := ih (by simpa [List.getLast?_cons] using h)
      have hne : squeeze (e :: s) ≠ [] := by
        intro hnil
        simp [hnil] at hl
      by_cases hd : isBlank d = true
      · rw [squeeze_blank_cons hd]
        refine ⟨by rw [getLast?_spaced, hl], fun t => ?_⟩
        rw [List.cons_append, squeeze_blank_cons hd, ha, spaced_append hne]
      · rw [Bool.not_eq_true] at hd
        rw [squeeze_cons_of_not_blank hd]
        refine ⟨by simp [List.getLast?_cons, hl], fun t => ?_⟩
        rw [List.cons_append, squeeze_cons_of_not_blank hd, ha, List.cons_append]

end Storefront.Text
