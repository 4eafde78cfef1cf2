/-!
# White space

The characters with the white space property, and the operations on texts that look at nothing
else: trimming, splitting into words, and collapsing each run of white space to one space.

## Main definitions

* `isBlank`: a character with the white space property
* `trim`, `trimText`: a text without the white space at its ends
* `words`: the maximal pieces of a text without white space
* `collapse`: the words of a text, joined by single spaces
* `isBlankText`: a text of white space only

## Main results

* `mem_words`: a word is not empty and holds no white space
-/

namespace Storefront.Text

/-- A character with the white space property. -/
def isBlank (c : Char) : Bool :=
  let n := c.toNat
  (decide (9 ≤ n) && decide (n ≤ 13)) || n == 0x20 || n == 0x85 || n == 0xA0 || n == 0x1680 ||
    (decide (0x2000 ≤ n) && decide (n ≤ 0x200A)) || n == 0x2028 || n == 0x2029 || n == 0x202F ||
    n == 0x205F || n == 0x3000

/-- The text after its leading white space. -/
def dropBlanks (s : List Char) : List Char := s.dropWhile isBlank

/-- The text without the white space at its ends. -/
def trim (s : List Char) : List Char := (dropBlanks (dropBlanks s).reverse).reverse

/-- The text without the white space at its ends. -/
def trimText (s : String) : String := String.ofList (trim s.toList)

/-- A text of white space only; the empty text is one. -/
def isBlankText (s : String) : Bool := s.toList.all isBlank

/-! ## Words -/

/-- One step of splitting a text from its end: `word` is the word that the character may extend
and `done` the words after it. -/
def splitStep (c : Char) : List Char × List (List Char) → List Char × List (List Char)
  | (word, done) =>
    if isBlank c then ([], if word.isEmpty then done else word :: done) else (c :: word, done)

/-- **The words of a text**: its maximal pieces without white space, in order. -/
def words (s : List Char) : List (List Char) :=
  let (word, done) := s.foldr splitStep ([], [])
  if word.isEmpty then done else word :: done

/-- Texts joined by single spaces. -/
def joinSpaced (ws : List (List Char)) : List Char := [' '].intercalate ws

/-- **Collapsing white space**: each run of white space becomes one space, and none is left at the
ends. -/
def collapse (s : List Char) : List Char := joinSpaced (words s)

@[simp] theorem words_nil : words [] = [] := rfl

theorem isBlank_space : isBlank ' ' = true := by decide

private theorem splitStep_invariant (s : List Char) :
    (∀ c ∈ (s.foldr splitStep ([], [])).1, isBlank c = false) ∧
      ∀ w ∈ (s.foldr splitStep ([], [])).2, w ≠ [] ∧ ∀ c ∈ w, isBlank c = false := by
  induction s with
  | nil => simp
  | cons a s ih =>
    obtain ⟨hw, hd⟩ := ih
    by_cases h : isBlank a
    · simp only [List.foldr_cons, splitStep, h, if_true]
      refine ⟨by simp, ?_⟩
      split
      next => exact hd
      next hne =>
        intro w hm
        rcases List.mem_cons.1 hm with rfl | hm
        · exact ⟨fun e => hne (by rw [e]; rfl), hw⟩
        · exact hd w hm
    · simp only [List.foldr_cons, splitStep, h]
      exact ⟨fun c hc => (List.mem_cons.1 hc).elim (fun e => by simpa [e] using h) (hw c), hd⟩

/-- A word is not empty and holds no white space. -/
theorem mem_words {s w : List Char} (h : w ∈ words s) : w ≠ [] ∧ ∀ c ∈ w, isBlank c = false := by
  obtain ⟨hw, hd⟩ := splitStep_invariant s
  unfold words at h
  split at h
  next heq =>
    rw [heq] at hw hd
    split at h
    next => exact hd w h
    next hne =>
      rcases List.mem_cons.1 h with rfl | h
      · exact ⟨fun e => hne (by rw [e]; rfl), hw⟩
      · exact hd w h

end Storefront.Text
