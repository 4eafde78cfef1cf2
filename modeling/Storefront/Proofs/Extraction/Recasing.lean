import Storefront.Proofs.Extraction.Matching
import Storefront.Proofs.Text.AsciiCase

/-!
# Letter case in vocabularies and texts

The passes cannot tell a capital ASCII letter from its small one, neither in an entry of the
vocabulary nor in the text. A lexicon in small letters has its entries in the same order, since they
are as wide as before, and each of them matches the same texts. A text in small letters is matched
at the same places, reports the same, and what is left of it is what is left of the text, in small
letters.

## Main definitions

* `Entry.small`: an entry in small letters

## Main results

* `lexicon_small`: the lexicon of entries in small letters
* `takePrice_map_small`, `takeColor_map_small`: the passes with entries in small letters
* `locate_small`: the leftmost place of a text in small letters
* `takePrice_small`, `takeColor_small`: the passes over a text in small letters
-/

namespace Storefront.Extraction

open Text

variable {s w : List Char} {ws : List (List Char)} {entries : List Entry}

/-! ## Entries -/

/-- An entry in small letters; it is as wide as before. -/
def Entry.small (e : Entry) : Entry where
  words := e.words.map Text.small
  width := e.width

theorem ofText?_toLower (s : String) :
    Entry.ofText? s.toLower = (Entry.ofText? s).map Entry.small := by
  have ht : s.toLower.toList = Text.small s.toList := String.toList_map
  unfold Entry.ofText?
  rw [ht, words_small, trim_small, length_small]
  cases words s.toList with
  | nil => rfl
  | cons w ws => rfl

/-- **The lexicon of entries in small letters**: the same entries in the same order. -/
theorem lexicon_small (texts : List String) :
    lexicon (texts.map String.toLower) = (lexicon texts).map Entry.small := by
  have hm (entries : List Entry) :
      (entries.mergeSort fun a b => decide (b.width ≤ a.width)).map Entry.small =
        (entries.map Entry.small).mergeSort fun a b => decide (b.width ≤ a.width) :=
    List.map_mergeSort fun _ _ _ _ => rfl
  have ht : Entry.ofText? ∘ String.toLower = fun s => (Entry.ofText? s).map Entry.small :=
    funext ofText?_toLower
  rw [lexicon, lexicon, hm, List.filterMap_map, List.map_filterMap, ht]

theorem dropLiteral?_word_small (w s : List Char) :
    dropLiteral? (Text.small w) s = dropLiteral? w s := by
  induction w generalizing s with
  | nil => rfl
  | cons p w ih =>
    cases s with
    | nil => rfl
    | cons c s => rw [small_cons, dropLiteral?, dropLiteral?, foldCase_toLower, ih]

theorem dropWords?_words_small (ws : List (List Char)) (s : List Char) :
    dropWords? (ws.map Text.small) s = dropWords? ws s := by
  induction ws generalizing s with
  | nil => rfl
  | cons w ws ih =>
    cases ws with
    | nil => exact dropLiteral?_word_small w s
    | cons v ws =>
      have hrest : dropWords? ((v :: ws).map Text.small) = dropWords? (v :: ws) := funext ih
      show ((dropLiteral? (Text.small w) s).bind dropGap?).bind _ = _
      rw [dropLiteral?_word_small, hrest]
      rfl

theorem takePrice_map_small (entries : List Entry) :
    takePrice (entries.map Entry.small) = takePrice entries := by
  have hp : priceAt? (entries.map Entry.small) = priceAt? entries := by
    funext s
    unfold priceAt?
    rw [List.findSome?_map]
    congr 1
    funext p
    rw [Function.comp_apply, Entry.small, dropWords?_words_small]
  unfold takePrice
  rw [hp]

theorem takeColor_map_small (entries : List Entry) :
    takeColor (entries.map Entry.small) = takeColor entries := by
  have hc : colorAt? (entries.map Entry.small) = colorAt? entries := by
    funext before s
    unfold colorAt?
    rw [List.findSome?_map]
    congr 2
    funext e
    rw [Function.comp_apply, Entry.small, dropWords?_words_small]
  unfold takeColor
  rw [hc]

/-! ## Words -/

theorem dropLiteral?_small (w s : List Char) :
    dropLiteral? w (small s) = (dropLiteral? w s).map small := by
  induction w generalizing s with
  | nil => rfl
  | cons p w ih =>
    cases s with
    | nil => rfl
    | cons c s =>
      rw [small_cons, dropLiteral?, dropLiteral?, foldCase_toLower]
      split
      · exact ih s
      · rfl

theorem dropGap?_small (s : List Char) : dropGap? (small s) = (dropGap? s).map small := by
  cases s with
  | nil => rfl
  | cons c s =>
    rw [small_cons, dropGap?, dropGap?, isBlank_toLower, dropBlanks_small]
    split
    · rfl
    · rfl

theorem dropWords?_small (ws : List (List Char)) (s : List Char) :
    dropWords? ws (small s) = (dropWords? ws s).map small := by
  induction ws generalizing s with
  | nil => rfl
  | cons w ws ih =>
    cases ws with
    | nil => exact dropLiteral?_small w s
    | cons v ws =>
      have hgap : dropGap? ∘ small = Option.map small ∘ dropGap? := funext dropGap?_small
      have hrest : dropWords? (v :: ws) ∘ small = Option.map small ∘ dropWords? (v :: ws) :=
        funext ih
      show ((dropLiteral? w (small s)).bind dropGap?).bind _ = Option.map _ (Option.bind _ _)
      rw [dropLiteral?_small, Option.bind_map, hgap, ← Option.map_bind, Option.bind_map, hrest,
        ← Option.map_bind]

/-! ## Prices -/

theorem dropCurrency_small (s : List Char) : dropCurrency (small s) = small (dropCurrency s) := by
  cases s with
  | nil => rfl
  | cons c s =>
    by_cases hc : c = '$'
    · subst hc
      rfl
    · have hl : c.toLower ≠ '$' := by rwa [Ne, toLower_eq_currency_iff]
      simp [dropCurrency, hc, hl]

/-- Digits have no case, so small letters do not change them. -/
theorem span_isDigit_small (s : List Char) :
    (small s).takeWhile isDigit = s.takeWhile isDigit ∧
      (small s).dropWhile isDigit = small (s.dropWhile isDigit) := by
  induction s with
  | nil => exact ⟨rfl, rfl⟩
  | cons c s ih =>
    obtain ⟨ht, hd⟩ := ih
    by_cases hc : isDigit c = true
    · simp [hc, ht, hd, toLower_of_isDigit hc]
    · simp [hc]

theorem amount?_small (s : List Char) :
    amount? (small s) = (amount? s).map (Prod.map id small) := by
  obtain ⟨ht, hd⟩ := span_isDigit_small (dropCurrency (dropBlanks s))
  unfold amount?
  rw [dropBlanks_small, dropCurrency_small]
  dsimp only
  rw [ht, hd]
  split
  · rfl
  · rfl

/-- A price is found in a text in small letters where it is found in the text. -/
theorem priceAt?_small (entries : List Entry) (s : List Char) :
    priceAt? entries (small s) = (priceAt? entries s).map (Prod.map id small) := by
  unfold priceAt?
  rw [List.map_findSome?]
  congr 1
  funext p
  rw [dropBlanks_small, dropWords?_small, Option.bind_map, Function.comp_apply, Option.map_bind]
  congr 1
  funext r
  exact amount?_small r

/-! ## Colors -/

theorem isBoundary_toLower (before after : Option Char) :
    isBoundary (before.map Char.toLower) (after.map Char.toLower) = isBoundary before after := by
  have h (o : Option Char) : (o.map Char.toLower).any isWordChar = o.any isWordChar := by
    cases o with
    | none => rfl
    | some c => exact isWordChar_toLower c
  rw [isBoundary, h, h, isBoundary]

theorem lastOr_small (before : Option Char) (s : List Char) :
    lastOr (before.map Char.toLower) (small s) = (lastOr before s).map Char.toLower := by
  unfold lastOr
  rw [getLast?_small]
  cases s.getLast? with
  | none => rfl
  | some c => rfl

/-- A color is found in a text in small letters where it is found in the text. -/
theorem colorAt?_small (entries : List Entry) (before : Option Char) (s : List Char) :
    colorAt? entries (before.map Char.toLower) (small s) =
      (colorAt? entries before s).map (Prod.map small small) := by
  unfold colorAt?
  rw [head?_small, isBoundary_toLower]
  split
  · rw [List.map_findSome?]
    congr 1
    funext e
    rw [Function.comp_apply, dropWords?_small, Option.bind_map, Option.map_bind]
    congr 1
    funext rest
    have ht : (small s).take ((small s).length - (small rest).length) =
        small (s.take (s.length - rest.length)) := by
      rw [length_small, length_small, small, small, List.map_take]
    simp only [Function.comp_apply, ht, lastOr_small, head?_small, isBoundary_toLower]
    split
    · rfl
    · rfl
  · rfl

theorem titleCase_small (s : List Char) : titleCase (small s) = titleCase s := by
  have hw (w : List Char) : titleWord (small w) = titleWord w := by
    cases w with
    | nil => rfl
    | cons c w =>
      rw [small_cons, titleWord, titleWord, upperCase_toLower, small, List.flatMap_map]
      congr 2
      funext d
      exact lowerCase_toLower d
  rw [titleCase, words_small, List.map_map, titleCase]
  congr 2
  funext w
  exact hw w

/-! ## Passes -/

/-- **The leftmost place of a text in small letters** is that of the text, if at every place the
same is found. -/
theorem locate_small {α : Type} {here : Option Char → List Char → Option α} {g : α → α}
    (h : ∀ before s, here (before.map Char.toLower) (small s) = (here before s).map g)
    (before : Option Char) (s : List Char) :
    locate here (before.map Char.toLower) (small s) =
      (locate here before s).map (Prod.map small g) := by
  induction s generalizing before with
  | nil =>
    have hn := h before []
    rw [small_nil] at hn
    rw [small_nil, locate, locate, hn, Option.map_map, Option.map_map]
    rfl
  | cons c s ih =>
    have hc := h before (c :: s)
    rw [small_cons] at hc ⊢
    unfold locate
    rw [hc]
    cases here before (c :: s) with
    | some a => rfl
    | none =>
      have hs := ih (some c)
      rw [Option.map_some] at hs
      simp only [Option.map_none, hs, Option.map_map]
      rfl

/-- **The price pass over a text in small letters** reports the same. -/
theorem takePrice_small (entries : List Entry) (s : List Char) :
    takePrice entries (small s) = Prod.map small id (takePrice entries s) := by
  have hl : locate (fun _ => priceAt? entries) none (small s) =
      (locate (fun _ => priceAt? entries) none s).map (Prod.map small (Prod.map id small)) :=
    locate_small (fun _ => priceAt?_small entries) none s
  unfold takePrice
  rw [hl]
  cases locate (fun _ => priceAt? entries) none s with
  | none => rfl
  | some p =>
    obtain ⟨skipped, digits, rest⟩ := p
    simp only [Option.map_some, Prod.map_apply, id]
    cases ceiling? digits with
    | none => rfl
    | some n => simp

/-- **The color pass over a text in small letters** reports the same. -/
theorem takeColor_small (entries : List Entry) (s : List Char) :
    takeColor entries (small s) = Prod.map small id (takeColor entries s) := by
  have hl := locate_small (colorAt?_small entries) none s
  rw [Option.map_none] at hl
  unfold takeColor
  rw [hl]
  cases locate (colorAt? entries) none s with
  | none => rfl
  | some p =>
    obtain ⟨skipped, taken, rest⟩ := p
    simp [titleCase_small]

end Storefront.Extraction
