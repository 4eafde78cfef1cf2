import Storefront.Proofs.Extraction.Matching
import Storefront.Proofs.Text.Squeezing

/-!
# White space between words

How much white space stands between the words of a text, and of what kind, does not matter to the
passes. Every matcher goes along with squeezing: on a squeezed text it takes the same, and what it
leaves is squeezed. White space in front of a text does not matter either, so the passes report the
same of a text and of the collapsed text.

## Main definitions

* `scan`: the report at the leftmost place where something is found, and the squeezed text that is
  left
* `IgnoresSpacing`: what is found at a place does not depend on the white space of a text

## Main results

* `dropWords?_squeeze`, `priceAt?_squeeze`, `colorAt?_squeeze`: the matchers and squeezing
* `scan_squeeze`, `scan_collapse`: the leftmost place of a squeezed and of a collapsed text
* `takePrice_collapse`, `takeColor_collapse`: the passes over a collapsed text
-/

namespace Storefront.Extraction

open Text

variable {s t u w : List Char} {v : List Char} {ws : List (List Char)} {entries : List Entry}
  {c : Char}

/-! ## Words -/

theorem foldCase_ne_of_blank {p : Char} (hp : isBlank p = false) (hc : isBlank c = true) :
    foldCase p ≠ foldCase c := by
  intro h
  simp [isBlank_eq_of_foldCase_eq h, hc] at hp

/-- A word is not found where a text begins with white space. -/
theorem dropLiteral?_of_blank (hw : IsWord w) (hs : ∀ c ∈ s.head?, isBlank c = true) :
    dropLiteral? w s = none := by
  obtain ⟨p, w, rfl⟩ := List.exists_cons_of_ne_nil hw.1
  cases s with
  | nil => rfl
  | cons c s =>
    rw [dropLiteral?, if_neg (foldCase_ne_of_blank (hw.2 p (List.mem_cons_self ..)) (hs c rfl))]

theorem dropLiteral?_squeeze (hw : ∀ p ∈ w, isBlank p = false) (s : List Char) :
    dropLiteral? w (squeeze s) = (dropLiteral? w s).map squeeze := by
  induction w generalizing s with
  | nil => rfl
  | cons p w ih =>
    have hp := hw p (List.mem_cons_self ..)
    cases s with
    | nil => rfl
    | cons c s =>
      by_cases hc : isBlank c = true
      · -- White space begins no word, and neither does what it is squeezed to.
        have hsp : ∀ d ∈ (spaced (squeeze s)).head?, isBlank d = true := by
          by_cases hs : squeeze s = []
          · simp [hs, spaced]
          · simp [spaced_head? hs, isBlank_space]
        rw [squeeze_blank_cons hc, dropLiteral?_of_blank ⟨by simp, hw⟩ hsp,
          dropLiteral?_of_blank ⟨by simp, hw⟩ (by simpa using hc), Option.map_none]
      · rw [Bool.not_eq_true] at hc
        rw [squeeze_cons_of_not_blank hc, dropLiteral?, dropLiteral?]
        split
        · exact ih (fun q hq => hw q (List.mem_cons_of_mem _ hq)) s
        · rfl

/-- Words are not found where a text begins with white space. -/
theorem dropWords?_of_blank (hne : ws ≠ []) (hws : ∀ w ∈ ws, IsWord w)
    (hs : ∀ c ∈ s.head?, isBlank c = true) : dropWords? ws s = none := by
  obtain ⟨w, ws, rfl⟩ := List.exists_cons_of_ne_nil hne
  have hw := dropLiteral?_of_blank (hws w (List.mem_cons_self ..)) hs
  cases ws with
  | nil => exact hw
  | cons v ws => simp [dropWords?, hw]

/-- White space in front of words is squeezed to a space, which is white space too. -/
theorem dropGap?_squeeze (hne : ws ≠ []) (hws : ∀ w ∈ ws, IsWord w)
    (h : ∀ s, dropWords? ws (squeeze s) = (dropWords? ws s).map squeeze) (s : List Char) :
    (dropGap? (squeeze s)).bind (dropWords? ws) =
      ((dropGap? s).bind (dropWords? ws)).map squeeze := by
  cases s with
  | nil => rfl
  | cons c s =>
    by_cases hc : isBlank c = true
    · have hs : (dropGap? (c :: s)).bind (dropWords? ws) = dropWords? ws (dropBlanks s) := by
        simp [dropGap?, hc]
      rw [hs, squeeze_blank_cons hc, ← h, ← dropBlanks_squeeze]
      by_cases hnil : squeeze s = []
      · -- Nothing but white space is left, and no word is found there.
        rw [hnil]
        exact (dropWords?_of_blank hne hws (by simp [dropBlanks])).symm
      · rw [(spaced_squeeze hnil).1]
        simp [dropGap?, isBlank_space]
    · rw [Bool.not_eq_true] at hc
      simp [squeeze_cons_of_not_blank hc, dropGap?, hc]

/-- **Words are found in a squeezed text** where they are found in the text. -/
theorem dropWords?_squeeze (hws : ∀ w ∈ ws, IsWord w) (s : List Char) :
    dropWords? ws (squeeze s) = (dropWords? ws s).map squeeze := by
  induction ws generalizing s with
  | nil => rfl
  | cons w ws ih =>
    have hw := (hws w (List.mem_cons_self ..)).2
    have hrest : ∀ w ∈ ws, IsWord w := fun v hv => hws v (List.mem_cons_of_mem _ hv)
    cases ws with
    | nil => exact dropLiteral?_squeeze hw s
    | cons v ws =>
      have hgap := dropGap?_squeeze (List.cons_ne_nil v ws) hrest (ih hrest)
      simp only [dropWords?, dropLiteral?_squeeze hw, Option.bind_map, Option.bind_assoc,
        Option.map_bind]
      congr 1
      funext r
      exact hgap r

/-! ## Prices -/

theorem dropCurrency_squeeze (s : List Char) :
    dropCurrency (squeeze s) = squeeze (dropCurrency s) := by
  cases s with
  | nil => rfl
  | cons c s =>
    by_cases hc : isBlank c = true
    · have hne : c ≠ '$' := by
        rintro rfl
        exact absurd hc (by decide)
      have hs : dropCurrency (c :: s) = c :: s := by simp [dropCurrency, hne]
      rw [hs, squeeze_blank_cons hc]
      -- What is squeezed begins with a space, which is no currency sign either.
      cases h : spaced (squeeze s) with
      | nil => rfl
      | cons d t =>
        have hd := spaced_head? (s := squeeze s) (by
          rintro hnil
          simp [hnil, spaced] at h)
        rw [h] at hd
        obtain rfl := Option.some.inj hd
        rfl
    · rw [Bool.not_eq_true] at hc
      rw [squeeze_cons_of_not_blank hc]
      by_cases hd : c = '$'
      · subst hd
        rfl
      · simp [dropCurrency, hd, squeeze_cons_of_not_blank hc]

/-- Digits are no white space, so squeezing does not change them. -/
theorem span_isDigit_squeeze (s : List Char) :
    (squeeze s).takeWhile isDigit = s.takeWhile isDigit ∧
      (squeeze s).dropWhile isDigit = squeeze (s.dropWhile isDigit) := by
  induction s with
  | nil => exact ⟨rfl, rfl⟩
  | cons c s ih =>
    by_cases hd : isDigit c = true
    · rw [squeeze_cons_of_not_blank (not_isBlank_of_isDigit hd)]
      simp [hd, ih.1, ih.2]
    · by_cases hc : isBlank c = true
      · rw [squeeze_blank_cons hc]
        have hs : ∀ d ∈ (spaced (squeeze s)).head?, isDigit d = false := by
          by_cases hs : squeeze s = []
          · simp [hs, spaced]
          · have hspace : isDigit ' ' = false := by decide +kernel
            simpa [spaced_head? hs] using hspace
        rw [Bool.not_eq_true] at hd
        cases h : spaced (squeeze s) with
        | nil => simp [hd, h, squeeze_blank_cons hc]
        | cons e t =>
          rw [h] at hs
          simp [hd, hs e rfl, h, squeeze_blank_cons hc]
      · rw [Bool.not_eq_true] at hc
        rw [squeeze_cons_of_not_blank hc]
        simp [hd, squeeze_cons_of_not_blank hc]

theorem amount?_squeeze (s : List Char) :
    amount? (squeeze s) = (amount? s).map (Prod.map id squeeze) := by
  obtain ⟨ht, hd⟩ := span_isDigit_squeeze (dropCurrency (dropBlanks s))
  unfold amount?
  rw [dropBlanks_squeeze, dropCurrency_squeeze]
  dsimp only
  rw [ht, hd]
  split <;> rfl

theorem findSome?_congr {α β : Type} {f g : α → Option β} {l : List α} (h : ∀ a ∈ l, f a = g a) :
    l.findSome? f = l.findSome? g := by
  induction l with
  | nil => rfl
  | cons a l ih =>
    rw [List.findSome?_cons, List.findSome?_cons, h a (List.mem_cons_self ..),
      ih fun b hb => h b (List.mem_cons_of_mem _ hb)]

/-- **A price is found in a squeezed text** where it is found in the text. -/
theorem priceAt?_squeeze (he : IsProper entries) (s : List Char) :
    priceAt? entries (squeeze s) = (priceAt? entries s).map (Prod.map id squeeze) := by
  unfold priceAt?
  rw [List.map_findSome?]
  refine findSome?_congr fun p hp => ?_
  rw [dropBlanks_squeeze, dropWords?_squeeze (he p hp).2, Option.bind_map, Function.comp_apply,
    Option.map_bind]
  congr 1
  funext r
  exact amount?_squeeze r

/-! ## Colors -/

/-- White space and the end of a text are both no part of a word. -/
theorem any_isWordChar_head?_squeeze (s : List Char) :
    (squeeze s).head?.any isWordChar = s.head?.any isWordChar := by
  cases s with
  | nil => rfl
  | cons c s =>
    by_cases hc : isBlank c = true
    · rw [squeeze_blank_cons hc]
      by_cases hs : squeeze s = []
      · simp [hs, spaced, not_isWordChar_of_isBlank hc]
      · simp [spaced_head? hs, not_isWordChar_of_isBlank hc,
          not_isWordChar_of_isBlank isBlank_space]
    · rw [Bool.not_eq_true] at hc
      simp [squeeze_cons_of_not_blank hc]

theorem isBoundary_head?_squeeze (before : Option Char) (s : List Char) :
    isBoundary before (squeeze s).head? = isBoundary before s.head? := by
  rw [isBoundary, any_isWordChar_head?_squeeze, isBoundary]

/-- No color begins with white space, nor at the end of a text. -/
theorem colorAt?_of_blank (he : IsProper entries) (before : Option Char)
    (hs : ∀ c ∈ s.head?, isBlank c = true) : colorAt? entries before s = none := by
  unfold colorAt?
  split
  · refine List.findSome?_eq_none_iff.2 fun e hm => ?_
    rw [dropWords?_of_blank (he e hm).1 (he e hm).2 hs, Option.bind_none]
  · rfl

/-- What stands before a place matters only as a part of a word or none. -/
theorem colorAt?_congr {before before' : Option Char}
    (h : before.any isWordChar = before'.any isWordChar) (s : List Char) :
    colorAt? entries before s = colorAt? entries before' s := by
  have hb (after : Option Char) : isBoundary before after = isBoundary before' after := by
    rw [isBoundary, h, isBoundary]
  have hl (t : List Char) (after : Option Char) :
      isBoundary (lastOr before t) after = isBoundary (lastOr before' t) after := by
    unfold lastOr
    cases t.getLast? with
    | none => exact hb after
    | some c => rfl
  simp only [colorAt?, hb, hl]

/-- **A color is found in a squeezed text** where it is found in the text. -/
theorem colorAt?_squeeze (he : IsProper entries) (before : Option Char) (s : List Char) :
    colorAt? entries before (squeeze s) =
      (colorAt? entries before s).map (Prod.map squeeze squeeze) := by
  unfold colorAt?
  rw [isBoundary_head?_squeeze]
  split
  · rw [List.map_findSome?]
    refine findSome?_congr fun e hm => ?_
    obtain ⟨hne, hws⟩ := he e hm
    rw [dropWords?_squeeze hws, Option.bind_map, Function.comp_apply]
    cases hr : dropWords? e.words s with
    | none => rfl
    | some r =>
      -- The block ends with a letter, so it is squeezed apart from what follows.
      obtain ⟨block, rfl, hb⟩ := dropWords?_eq_some hr
      obtain ⟨c, hl, hc⟩ := hb.getLast? hne hws
      obtain ⟨hl', ha⟩ := squeeze_append_of_getLast? hc hl
      have hlast : lastOr before (squeeze block) = lastOr before block := by
        simp [lastOr, hl, hl']
      rw [Option.bind_some, Option.bind_some, Function.comp_apply, ha]
      dsimp only
      rw [take_length_sub, take_length_sub, hlast, isBoundary_head?_squeeze]
      split <;> rfl
  · rfl

/-! ## Places -/

section Scan

variable {α β : Type} {here : Option Char → List Char → Option (α × List Char)} {report : α → β}

/-- **The report at the leftmost place where something is found**, and the squeezed text that is
left with a space in that place. -/
def scan (here : Option Char → List Char → Option (α × List Char)) (report : α → β)
    (before : Option Char) (s : List Char) : Option (β × List Char) :=
  (locate here before s).map fun (skipped, a, rest) => (report a, squeeze (skipped ++ ' ' :: rest))

/-- **What is found at a place does not depend on white space**, neither within the text nor before
it. -/
structure IgnoresSpacing (here : Option Char → List Char → Option (α × List Char))
    (report : α → β) : Prop where
  /-- The same is found in the squeezed text. -/
  squeezed : ∀ before s, (here before (squeeze s)).map (Prod.map report squeeze) =
    (here before s).map (Prod.map report squeeze)
  /-- Nothing is found at the end of a text. -/
  nil : ∀ before, here before [] = none
  /-- White space before a place is like the start of the text. -/
  before : ∀ b s, isBlank b = true → here (some b) s = here none s
  /-- Where a text goes on with white space, it does not matter what stands before it. -/
  blank : ∀ before b s, isBlank b = true → here before (b :: s) = here none (b :: s)
  /-- What is found in front of white space is found behind it. -/
  skip : ∀ b s p, isBlank b = true → here none (b :: s) = some p → here none s = some p

theorem scan_of_some {before : Option Char} {a : α} {r : List Char}
    (h : here before s = some (a, r)) :
    scan here report before s = some (report a, spaced (squeeze r)) := by
  cases s <;> simp [scan, locate, h, squeeze_blank_cons isBlank_space]

theorem scan_of_none {before : Option Char} (h : here before (c :: s) = none) :
    scan here report before (c :: s) = (scan here report (some c) s).map
      (Prod.map id fun t => if isBlank c then spaced t else c :: t) := by
  simp only [scan, locate, h, Option.map_map]
  congr 1

/-- What stands before a text matters at its first place only. -/
theorem scan_congr {before before' : Option Char} (h : here before s = here before' s) :
    scan here report before s = scan here report before' s := by
  cases s <;> simp [scan, locate, h]

/-- White space in front of a text leaves a space, unless something is found there. -/
theorem scan_blank_cons (hi : IgnoresSpacing here report) (before : Option Char)
    (hc : isBlank c = true) (s : List Char) :
    scan here report before (c :: s) =
      (scan here report none s).map (Prod.map id spaced) := by
  rw [scan_congr (hi.blank before c s hc)]
  cases h : here none (c :: s) with
  | none =>
    rw [scan_of_none h, scan_congr (hi.before c s hc)]
    simp [hc]
  | some p =>
    obtain ⟨a, r⟩ := p
    rw [scan_of_some h, scan_of_some (hi.skip c s _ hc h)]
    simp

/-- A space in front of a text is left, too. -/
theorem scan_spaced (hi : IgnoresSpacing here report) (before : Option Char) (s : List Char) :
    scan here report before (spaced s) =
      (scan here report none s).map (Prod.map id spaced) := by
  cases s with
  | nil => simp [spaced, scan, locate, hi.nil]
  | cons c s =>
    by_cases hc : c = ' '
    · subst hc
      rw [spaced_space_cons, scan_blank_cons hi before isBlank_space,
        scan_blank_cons hi none isBlank_space, Option.map_map]
      congr 1
      funext p
      obtain ⟨b, t⟩ := p
      simp
    · rw [spaced_cons_of_ne hc, scan_blank_cons hi before isBlank_space]

/-- **The same is found and left of a squeezed text.** -/
theorem scan_squeeze (hi : IgnoresSpacing here report) (before : Option Char) (s : List Char) :
    scan here report before (squeeze s) = scan here report before s := by
  induction s generalizing before with
  | nil => rfl
  | cons c s ih =>
    by_cases hc : isBlank c = true
    · rw [squeeze_blank_cons hc, scan_spaced hi, scan_blank_cons hi before hc, ih]
    · -- The same is found at this place, or nothing in both texts.
      rw [Bool.not_eq_true] at hc
      have hs := hi.squeezed before (c :: s)
      rw [squeeze_cons_of_not_blank hc] at hs ⊢
      cases h : here before (c :: s) with
      | none =>
        rw [h, Option.map_none, Option.map_eq_none_iff] at hs
        rw [scan_of_none h, scan_of_none hs, ih]
      | some p =>
        rw [h, Option.map_some] at hs
        obtain ⟨⟨a, r⟩, hp, he⟩ := Option.map_eq_some_iff.1 hs
        obtain ⟨ha, hr⟩ := Prod.mk.inj he
        rw [scan_of_some h, scan_of_some hp, ha, hr]

/-- The same is found in a text without the white space in front, and the same is left but for
it. -/
theorem scan_dropBlanks (hi : IgnoresSpacing here report) (s : List Char) :
    (scan here report none (dropBlanks s)).map (Prod.map id dropBlanks) =
      (scan here report none s).map (Prod.map id dropBlanks) := by
  induction s with
  | nil => rfl
  | cons c s ih =>
    by_cases hc : isBlank c = true
    · rw [dropBlanks_blank_cons hc, ih, scan_blank_cons hi none hc, Option.map_map]
      congr 1
      funext p
      obtain ⟨b, t⟩ := p
      simp [dropBlanks_spaced]
    · rw [dropBlanks_eq_self (by simpa using hc)]

/-- **What is found in a collapsed text**, and the collapsed text that is left. -/
theorem locate_collapse (hi : IgnoresSpacing here report) (s : List Char) :
    ((locate here none (collapse s)).map fun (skipped, a, rest) =>
        (report a, collapse (skipped ++ ' ' :: rest))) =
      (locate here none s).map fun (skipped, a, rest) =>
        (report a, collapse (skipped ++ ' ' :: rest)) := by
  have h := scan_dropBlanks hi (squeeze s)
  rw [scan_squeeze hi, ← collapse_eq] at h
  simpa [scan, Option.map_map, Function.comp_def, collapse_eq] using h

end Scan

theorem ignoresSpacing_priceAt? (he : IsProper entries) :
    IgnoresSpacing (fun _ => priceAt? entries) id where
  squeezed _ s := by
    rw [priceAt?_squeeze he, Option.map_map]
    congr 1
    funext p
    obtain ⟨n, r⟩ := p
    simp
  nil _ := by
    refine List.findSome?_eq_none_iff.2 fun p hp => ?_
    rw [dropWords?_of_blank (he p hp).1 (he p hp).2 (by simp [dropBlanks]), Option.bind_none]
  before _ _ _ := rfl
  blank _ _ _ _ := rfl
  skip b s p hb h := by
    unfold priceAt? at h ⊢
    rwa [dropBlanks_blank_cons hb] at h

theorem ignoresSpacing_colorAt? (he : IsProper entries) :
    IgnoresSpacing (colorAt? entries) titleCase where
  squeezed before s := by
    rw [colorAt?_squeeze he, Option.map_map]
    congr 1
    funext p
    obtain ⟨block, r⟩ := p
    simp [titleCase]
  nil before := colorAt?_of_blank he before (by simp)
  before b s hb := colorAt?_congr (by simp [not_isWordChar_of_isBlank hb]) s
  blank before b s hb := by
    have hs : ∀ c ∈ (b :: s).head?, isBlank c = true := by simpa using hb
    rw [colorAt?_of_blank he before hs, colorAt?_of_blank he none hs]
  skip b s p hb h := by
    rw [colorAt?_of_blank he none (by simpa using hb)] at h
    simp at h

/-! ## Passes -/

/-- **The price pass over a collapsed text** reports the same, and leaves the same but for white
space. -/
theorem takePrice_collapse (he : IsProper entries) (s : List Char) :
    (takePrice entries (collapse s)).2 = (takePrice entries s).2 ∧
      collapse (takePrice entries (collapse s)).1 = collapse (takePrice entries s).1 := by
  have h := locate_collapse (ignoresSpacing_priceAt? he) s
  unfold takePrice
  cases h₁ : locate (fun _ => priceAt? entries) none (collapse s) with
  | none =>
    -- no price in either text
    rw [h₁, Option.map_none, eq_comm, Option.map_eq_none_iff] at h
    simp [h]
  | some p =>
    rw [h₁, Option.map_some, eq_comm] at h
    obtain ⟨q, h₂, he⟩ := Option.map_eq_some_iff.1 h
    obtain ⟨hd, ht⟩ := Prod.mk.inj he
    simp only [h₂]
    rw [id, id] at hd
    rw [hd]
    cases ceiling? p.2.1 <;> simp [ht]

/-- **The color pass over a collapsed text** reports the same, and leaves the same but for white
space. -/
theorem takeColor_collapse (he : IsProper entries) (s : List Char) :
    (takeColor entries (collapse s)).2 = (takeColor entries s).2 ∧
      collapse (takeColor entries (collapse s)).1 = collapse (takeColor entries s).1 := by
  have h := locate_collapse (ignoresSpacing_colorAt? he) s
  unfold takeColor
  cases h₁ : locate (colorAt? entries) none (collapse s) with
  | none =>
    -- no color in either text
    rw [h₁, Option.map_none, eq_comm, Option.map_eq_none_iff] at h
    simp [h]
  | some p =>
    rw [h₁, Option.map_some, eq_comm] at h
    obtain ⟨q, h₂, he⟩ := Option.map_eq_some_iff.1 h
    obtain ⟨hd, ht⟩ := Prod.mk.inj he
    simp [h₂, hd, ht]

end Storefront.Extraction
