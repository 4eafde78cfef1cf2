import Mathlib.Data.List.Permutation
import Storefront.Extraction.Extractor
import Storefront.Proofs.Text.Casing

/-!
# What the matchers take

Each matcher takes a piece from the front of a text. What it takes is said here without the way it
is found: a block spells an entry when its words are those of the entry up to letter case, and a
price is a phrase with white space around it, a currency sign if there is one, and digits.

## Main definitions

* `SameFold`, `foldedWords`: texts and their words up to letter case
* `Spells`: a block spells words that stand apart
* `IsPrice`: a block is a price with the given digits
* `IsProper`: entries with at least one word, and words that are words

## Main results

* `dropWords?_eq_some`: what is taken spells the words
* `Spells.foldedWords`: a block that spells words has those words
* `priceAt?_eq_some`, `colorAt?_eq_some`: what is taken as a price and as a color
* `locate_eq_some`: something is found at a place of the text
-/

namespace Storefront.Extraction

open Text

variable {s u w rest block : List Char} {ws : List (List Char)}
  {entries : List Entry}

/-! ## Letter case -/

/-- The texts differ in letter case only. -/
def SameFold (u w : List Char) : Prop := u.map foldCase = w.map foldCase

/-- The words of a text up to letter case. -/
def foldedWords (s : List Char) : List (List Char) := (words s).map (List.map foldCase)

theorem SameFold.isWord (h : SameFold u w) (hw : IsWord w) : IsWord u := by
  refine ⟨?_, fun c hc => ?_⟩
  · rintro rfl
    exact hw.1 (List.map_eq_nil_iff.1 (Eq.symm h))
  · have hm : foldCase c ∈ w.map foldCase := h ▸ List.mem_map_of_mem hc
    obtain ⟨d, hd, he⟩ := List.mem_map.1 hm
    rw [isBlank_eq_of_foldCase_eq he.symm, hw.2 d hd]

theorem dropLiteral?_eq_some (h : dropLiteral? w s = some rest) :
    ∃ u, s = u ++ rest ∧ SameFold u w := by
  fun_induction dropLiteral? w s with
  | case1 s => exact ⟨[], by simpa using h, rfl⟩
  | case2 => simp at h
  | case3 p w c s he ih =>
    obtain ⟨u, rfl, hu⟩ := ih h
    exact ⟨c :: u, rfl, by simp [SameFold, he, Eq.symm hu]⟩
  | case4 => simp at h

/-! ## Entries -/

/-- **A block spells words**: they stand in it in order, up to letter case, with white space between
two of them. -/
inductive Spells : List (List Char) → List Char → Prop
  /-- No words are spelled by nothing. -/
  | nil : Spells [] []
  /-- One word is spelled by its letters. -/
  | last {u w : List Char} (hu : SameFold u w) : Spells [w] u
  /-- White space follows a word before another one. -/
  | cons {u w v gap block : List Char} {ws : List (List Char)} (hu : SameFold u w) (hne : gap ≠ [])
      (hg : ∀ c ∈ gap, isBlank c = true) (hb : Spells (v :: ws) block) :
      Spells (w :: v :: ws) (u ++ gap ++ block)

theorem dropGap?_eq_some (h : dropGap? s = some rest) :
    ∃ gap, s = gap ++ rest ∧ gap ≠ [] ∧ ∀ c ∈ gap, isBlank c = true := by
  unfold dropGap? at h
  split at h
  · next b s =>
    split at h
    · next hb =>
      obtain rfl := Option.some.inj h
      obtain ⟨gap, hs, hg⟩ := dropBlanks_eq s
      refine ⟨b :: gap, by rw [List.cons_append, ← hs], by simp, ?_⟩
      intro c hc
      rcases List.mem_cons.1 hc with rfl | hc
      · exact hb
      · exact hg c hc
    · simp at h
  · simp at h

/-- **What is taken spells the words.** -/
theorem dropWords?_eq_some (h : dropWords? ws s = some rest) :
    ∃ block, s = block ++ rest ∧ Spells ws block := by
  induction ws generalizing s with
  | nil => exact ⟨[], by simpa [dropWords?] using h, .nil⟩
  | cons w ws ih =>
    cases ws with
    | nil =>
      obtain ⟨u, hs, hu⟩ := dropLiteral?_eq_some h
      exact ⟨u, hs, .last hu⟩
    | cons v ws =>
      obtain ⟨r, hr, hw⟩ := Option.bind_eq_some_iff.1 h
      obtain ⟨q, hq, hg⟩ := Option.bind_eq_some_iff.1 hr
      obtain ⟨u, rfl, hu⟩ := dropLiteral?_eq_some hq
      obtain ⟨gap, rfl, hne, hblank⟩ := dropGap?_eq_some hg
      obtain ⟨block, rfl, hb⟩ := ih hw
      exact ⟨u ++ gap ++ block, by simp, .cons hu hne hblank hb⟩

theorem dropLiteral?_append {u w : List Char} (h : SameFold u w) (rest : List Char) :
    dropLiteral? w (u ++ rest) = some rest := by
  induction w generalizing u with
  | nil =>
    obtain rfl : u = [] := List.map_eq_nil_iff.1 h
    rfl
  | cons p w ih =>
    cases u with
    | nil => simp [SameFold] at h
    | cons c u =>
      obtain ⟨hc, hu⟩ := List.cons.inj h
      rw [List.cons_append, dropLiteral?, if_pos hc.symm]
      exact ih hu

theorem dropGap?_append {gap : List Char} (hne : gap ≠ []) (hg : ∀ c ∈ gap, isBlank c = true)
    (hr : ∀ c ∈ rest.head?, isBlank c = false) : dropGap? (gap ++ rest) = some rest := by
  obtain ⟨b, gap, rfl⟩ := List.exists_cons_of_ne_nil hne
  have hd : dropBlanks (gap ++ rest) = rest := by
    have hgap : ∀ c ∈ gap, isBlank c = true := fun c hc => hg c (List.mem_cons_of_mem _ hc)
    rw [dropBlanks_blanks_append hgap]
    exact dropBlanks_eq_self hr
  simp [dropGap?, hg b (List.mem_cons_self ..), hd]

/-- A block that spells words begins with a letter of the first one. -/
theorem Spells.head? (h : Spells ws block) (hne : ws ≠ []) (hws : ∀ w ∈ ws, IsWord w) :
    ∃ c t, block = c :: t ∧ isBlank c = false := by
  cases h with
  | nil => exact absurd rfl hne
  | last hu =>
    have hw := hu.isWord (hws _ (List.mem_singleton.2 rfl))
    obtain ⟨c, t, rfl⟩ := List.exists_cons_of_ne_nil hw.1
    exact ⟨c, t, rfl, hw.2 c (List.mem_cons_self ..)⟩
  | cons hu _ _ _ =>
    have hw := hu.isWord (hws _ (List.mem_cons_self ..))
    obtain ⟨c, t, rfl⟩ := List.exists_cons_of_ne_nil hw.1
    exact ⟨c, _, rfl, hw.2 c (List.mem_cons_self ..)⟩

/-- A block that spells words ends with a letter of the last one. -/
theorem Spells.getLast? {block : List Char} (h : Spells ws block) (hne : ws ≠ [])
    (hws : ∀ w ∈ ws, IsWord w) : ∃ c, block.getLast? = some c ∧ isBlank c = false := by
  induction h with
  | nil => exact absurd rfl hne
  | last hu =>
    have hw := hu.isWord (hws _ (List.mem_singleton.2 rfl))
    exact ⟨_, List.getLast?_eq_some_getLast hw.1, hw.2 _ (List.getLast_mem hw.1)⟩
  | cons hu hgap hg hb ih =>
    obtain ⟨c, hc, hn⟩ := ih (List.cons_ne_nil _ _) fun w hw => hws w (List.mem_cons_of_mem _ hw)
    exact ⟨c, by simp [List.getLast?_append, hc], hn⟩

/-- **A block that spells words is taken.** -/
theorem dropWords?_append (h : Spells ws block) (hws : ∀ w ∈ ws, IsWord w) (rest : List Char) :
    dropWords? ws (block ++ rest) = some rest := by
  induction h with
  | nil => rfl
  | last hu => exact dropLiteral?_append hu rest
  | @cons u w v gap block ws hu hne hg hb ih =>
    have hrest : ∀ w ∈ v :: ws, IsWord w := fun w hw => hws w (List.mem_cons_of_mem _ hw)
    obtain ⟨c, t, rfl, hc⟩ := hb.head? (List.cons_ne_nil _ _) hrest
    rw [List.append_assoc, List.append_assoc, dropWords?, dropLiteral?_append hu, Option.bind_some,
      dropGap?_append hne hg (by simpa using hc), Option.bind_some]
    · exact ih hrest
    · exact List.cons_ne_nil _ _

/-- **A block that spells words has those words**, up to letter case. -/
theorem Spells.foldedWords (h : Spells ws block) (hws : ∀ w ∈ ws, IsWord w) :
    foldedWords block = ws.map (List.map foldCase) := by
  induction h with
  | nil => rfl
  | last hu =>
    have := hu.isWord (hws _ (List.mem_singleton.2 rfl))
    simpa [Extraction.foldedWords, words_of_isWord this, SameFold] using hu
  | @cons u w v gap block ws hu hne hg hb ih =>
    have hw := hu.isWord (hws _ (List.mem_cons_self ..))
    have hrest := ih fun w hw => hws w (List.mem_cons_of_mem _ hw)
    obtain ⟨b, gap, rfl⟩ := List.exists_cons_of_ne_nil hne
    unfold Extraction.foldedWords at hrest ⊢
    rw [List.append_assoc, List.cons_append, words_append_blank (hg b (List.mem_cons_self ..)),
      words_of_isWord hw, words_blanks_append fun c hc => hg c (List.mem_cons_of_mem _ hc),
      List.map_append, hrest]
    simpa [SameFold] using hu

/-- Entries have at least one word, and their words are words. -/
def IsProper (entries : List Entry) : Prop :=
  ∀ e ∈ entries, e.words ≠ [] ∧ ∀ w ∈ e.words, IsWord w

/-- An entry of a lexicon has the words of one of the texts. -/
theorem exists_words_of_mem_lexicon {texts : List String} {e : Entry} (h : e ∈ lexicon texts) :
    ∃ s ∈ texts, e.words = words s.toList ∧ e.words ≠ [] := by
  obtain ⟨s, hs, he⟩ := mem_lexicon.1 h
  refine ⟨s, hs, ?_⟩
  unfold Entry.ofText? at he
  split at he
  · simp at he
  · next hne =>
    obtain rfl := Option.some.inj he
    exact ⟨rfl, hne⟩

theorem isProper_lexicon (texts : List String) : IsProper (lexicon texts) := by
  intro e he
  obtain ⟨s, -, hw, hne⟩ := exists_words_of_mem_lexicon he
  refine ⟨hne, fun w hm => ?_⟩
  rw [hw] at hm
  exact isWord_of_mem_words hm

/-! ## Prices -/

/-- **A price as it is written**: words with white space before and behind them, a currency sign if
there is one, and digits. -/
def IsPrice (ws : List (List Char)) (digits block : List Char) : Prop :=
  ∃ gap spelled space currency, block = gap ++ spelled ++ space ++ currency ++ digits ∧
    (∀ c ∈ gap ++ space, isBlank c = true) ∧ Spells ws spelled ∧
    (currency = [] ∨ currency = ['$']) ∧ digits ≠ [] ∧ ∀ d ∈ digits, isDigit d = true

theorem dropCurrency_eq (s : List Char) :
    ∃ currency, s = currency ++ dropCurrency s ∧ (currency = [] ∨ currency = ['$']) := by
  unfold dropCurrency
  split
  · exact ⟨['$'], rfl, .inr rfl⟩
  · exact ⟨[], rfl, .inl rfl⟩

theorem amount?_eq_some {digits : List Char} (h : amount? s = some (digits, rest)) :
    ∃ space currency, s = space ++ currency ++ digits ++ rest ∧ (∀ c ∈ space, isBlank c = true) ∧
      (currency = [] ∨ currency = ['$']) ∧ digits ≠ [] ∧ ∀ d ∈ digits, isDigit d = true := by
  obtain ⟨space, hs, hb⟩ := dropBlanks_eq s
  obtain ⟨currency, hc, hd⟩ := dropCurrency_eq (dropBlanks s)
  unfold amount? at h
  dsimp only at h
  split at h
  · simp at h
  · next hne =>
    obtain ⟨rfl, rfl⟩ := Prod.mk.inj (Option.some.inj h)
    refine ⟨space, currency, ?_, hb, hd, hne, fun d hm => ?_⟩
    · rw [List.append_assoc _ _ (List.dropWhile ..), List.takeWhile_append_dropWhile,
        List.append_assoc, ← hc, ← hs]
    · exact List.all_eq_true.1 List.all_takeWhile d hm

/-- **What is taken as a price** is the price of a phrase. -/
theorem priceAt?_eq_some {digits : List Char} (h : priceAt? entries s = some (digits, rest)) :
    ∃ p ∈ entries, ∃ block, s = block ++ rest ∧ IsPrice p.words digits block := by
  obtain ⟨p, hp, h⟩ := List.exists_of_findSome?_eq_some h
  obtain ⟨r, hr, ha⟩ := Option.bind_eq_some_iff.1 h
  obtain ⟨gap, hs, hg⟩ := dropBlanks_eq s
  obtain ⟨spelled, he, hsp⟩ := dropWords?_eq_some hr
  obtain ⟨space, currency, rfl, hb, hc, hne, hd⟩ := amount?_eq_some ha
  refine ⟨p, hp, _, ?_, gap, spelled, space, currency, rfl, ?_, hsp, hc, hne, hd⟩
  · rw [hs, he]
    simp
  · intro c hm
    rcases List.mem_append.1 hm with hm | hm
    · exact hg c hm
    · exact hb c hm

/-! ## Colors -/

theorem take_length_sub (s t : List Char) : (s ++ t).take ((s ++ t).length - t.length) = s := by
  simp

/-- **What is taken as a color** spells an entry between two word boundaries. -/
theorem colorAt?_eq_some {before : Option Char} {taken : List Char}
    (h : colorAt? entries before s = some (taken, rest)) :
    ∃ e ∈ entries, s = taken ++ rest ∧ Spells e.words taken ∧
      isBoundary before s.head? = true ∧ isBoundary (lastOr before taken) rest.head? = true := by
  unfold colorAt? at h
  split at h
  · -- a boundary in front: the first entry that is found with a boundary behind it
    next hb =>
    obtain ⟨e, he, h⟩ := List.exists_of_findSome?_eq_some h
    obtain ⟨r, hr, h⟩ := Option.bind_eq_some_iff.1 h
    obtain ⟨block, rfl, hsp⟩ := dropWords?_eq_some hr
    dsimp only at h
    rw [take_length_sub] at h
    split at h
    · next hb' =>
      obtain ⟨rfl, rfl⟩ := Prod.mk.inj (Option.some.inj h)
      exact ⟨e, he, rfl, hsp, hb, hb'⟩
    · simp at h
  · simp at h

/-! ## Places -/

section Places

variable {α : Type} {here : Option Char → List Char → Option α} {a : α} {before : Option Char}
  {skipped : List Char}

theorem lastOr_cons (before : Option Char) (c : Char) (s : List Char) :
    lastOr before (c :: s) = lastOr (some c) s := by
  cases h : s.getLast? <;> simp [lastOr, List.getLast?_cons, h]

theorem lastOr_none (s : List Char) : lastOr none s = s.getLast? := by
  cases h : s.getLast? <;> simp [lastOr, h]

theorem lastOr_eq_getLast? (h : s ≠ []) (before : Option Char) : lastOr before s = s.getLast? := by
  simp [lastOr, List.getLast?_eq_some_getLast h]

/-- **The leftmost place where something is found**: it is found there, and nothing is found at any
place in front. -/
theorem locate_eq_some_iff : locate here before s = some (skipped, a) ↔
    ∃ rest, s = skipped ++ rest ∧ here (lastOr before skipped) rest = some a ∧
      ∀ earlier later, s = earlier ++ later → earlier.length < skipped.length →
        here (lastOr before earlier) later = none := by
  induction s generalizing before skipped with
  | nil =>
    constructor
    · intro h
      obtain ⟨b, hb, he⟩ := Option.map_eq_some_iff.1 h
      obtain ⟨rfl, rfl⟩ := Prod.mk.inj he
      exact ⟨[], rfl, hb, fun _ _ _ hlt => absurd hlt (Nat.not_lt_zero _)⟩
    · rintro ⟨rest, he, hh, -⟩
      obtain ⟨rfl, rfl⟩ := List.append_eq_nil_iff.1 he.symm
      exact Option.map_eq_some_iff.2 ⟨a, hh, rfl⟩
  | cons c s ih =>
    unfold locate
    constructor
    · intro h
      split at h
      · -- found at the front
        next b hb =>
        obtain ⟨rfl, rfl⟩ := Prod.mk.inj (Option.some.inj h)
        exact ⟨c :: s, rfl, hb, fun _ _ _ hlt => absurd hlt (Nat.not_lt_zero _)⟩
      · -- found behind the first character (induction), and not at the front
        next hn =>
        obtain ⟨⟨q, b⟩, hq, he⟩ := Option.map_eq_some_iff.1 h
        obtain ⟨rfl, rfl⟩ := Prod.mk.inj he
        obtain ⟨rest, rfl, hh, hfirst⟩ := ih.1 hq
        refine ⟨rest, rfl, by rwa [lastOr_cons], ?_⟩
        intro earlier later hs hlt
        cases earlier with
        | nil =>
          rw [List.nil_append] at hs
          rwa [← hs]
        | cons d earlier =>
          obtain ⟨rfl, ht⟩ := List.cons.inj hs
          rw [lastOr_cons]
          exact hfirst earlier later ht (by simpa using hlt)
    · rintro ⟨rest, he, hh, hfirst⟩
      cases skipped with
      | nil =>
        rw [List.nil_append] at he
        rw [he, show here before rest = some a from hh]
      | cons d skipped =>
        obtain ⟨rfl, rfl⟩ := List.cons.inj he
        have hn : here before (c :: (skipped ++ rest)) = none := hfirst [] _ rfl (Nat.succ_pos _)
        simp only [List.append_eq, hn]
        refine Option.map_eq_some_iff.2 ⟨(skipped, a), ih.2 ⟨rest, rfl, ?_, ?_⟩, rfl⟩
        · rwa [lastOr_cons] at hh
        · intro earlier later he hlt
          have := hfirst (c :: earlier) later (by rw [he, List.cons_append]) (Nat.succ_lt_succ hlt)
          rwa [lastOr_cons] at this

theorem locate_eq_some (h : locate here before s = some (skipped, a)) :
    ∃ rest, s = skipped ++ rest ∧ here (lastOr before skipped) rest = some a := by
  obtain ⟨rest, hs, hh, -⟩ := locate_eq_some_iff.1 h
  exact ⟨rest, hs, hh⟩

end Places

end Storefront.Extraction

/-! ## Extractors -/

namespace Storefront.Extractor

open Extraction Text

/-- The extractor of the standard vocabulary: the widest entries come first. -/
theorem ofVocabulary_standard : ofVocabulary .standard =
    { phrases := [⟨["less".toList, "than".toList], 9⟩, ⟨["moins".toList, "de".toList], 8⟩,
        ⟨["below".toList], 5⟩, ⟨["under".toList], 5⟩, ⟨["sous".toList], 4⟩, ⟨["<".toList], 1⟩]
      colors := [⟨["space".toList, "gray".toList], 10⟩, ⟨["rose".toList, "gold".toList], 9⟩,
        ⟨["starlight".toList], 9⟩, ⟨["midnight".toList], 8⟩, ⟨["graphite".toList], 8⟩,
        ⟨["sky".toList, "blue".toList], 8⟩, ⟨["bay".toList, "blue".toList], 8⟩,
        ⟨["titanium".toList], 8⟩, ⟨["silver".toList], 6⟩, ⟨["yellow".toList], 6⟩,
        ⟨["orange".toList], 6⟩, ⟨["purple".toList], 6⟩, ⟨["black".toList], 5⟩,
        ⟨["white".toList], 5⟩, ⟨["green".toList], 5⟩, ⟨["brown".toList], 5⟩, ⟨["gray".toList], 4⟩,
        ⟨["grey".toList], 4⟩, ⟨["blue".toList], 4⟩, ⟨["pink".toList], 4⟩, ⟨["gold".toList], 4⟩,
        ⟨["navy".toList], 4⟩, ⟨["teal".toList], 4⟩, ⟨["red".toList], 3⟩] } := by
  cbv

end Storefront.Extractor
