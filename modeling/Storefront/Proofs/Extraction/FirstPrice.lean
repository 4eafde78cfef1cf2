import Storefront.Proofs.Extraction.Absence
import Storefront.Proofs.Extraction.Preference

/-!
# The first price of a text

The price pass is said here by the price that it takes, not by the way it looks for it. A phrase
asks for an amount where its words stand with an amount behind them. The first price stands at the
leftmost place where any phrase does so, and its phrase is the preferred one of those that do so
there. Its digits go as far as there are digits, so no number is cut short.

The matchers look for a price from the white space in front of it on. The place of a price is that
of its phrase: the white space cannot be part of another price, so both ways lead to the same one.

## Main definitions

* `Asks`: a phrase asks for an amount at the front of a text
* `IsFirstPrice`: the leftmost price, with the white space in front of it
* `IsPricePass`: what is left and reported of a text whose first price is taken, if it is a ceiling

## Main results

* `asks_iff`: what the matchers take is what a phrase asks for
* `isPricePass_takePrice`: the price pass takes the first price
-/

namespace Storefront.Extraction

open Text

variable {phrases : List String} {phrase : String}
  {s t u v digits rest before gap after : List Char}

/-! ## Amounts -/

theorem not_isBlank_currency : isBlank '$' = false := by decide

theorem not_isDigit_currency : isDigit '$' = false := by decide +kernel

/-- An amount is taken whatever follows its last digit. -/
theorem amount?_append {space currency : List Char} (hb : ∀ c ∈ space, isBlank c = true)
    (hc : currency = [] ∨ currency = ['$']) (hne : digits ≠ [])
    (hd : ∀ d ∈ digits, isDigit d = true) (hr : ∀ c ∈ rest.head?, isDigit c = false) :
    amount? (space ++ (currency ++ (digits ++ rest))) = some (digits, rest) := by
  obtain ⟨d, ds, rfl⟩ := List.exists_cons_of_ne_nil hne
  have hdigit := hd d (List.mem_cons_self ..)
  have hhead : ∀ c ∈ (currency ++ (d :: ds ++ rest)).head?, isBlank c = false := by
    rcases hc with rfl | rfl
    · simpa using not_isBlank_of_isDigit hdigit
    · simpa using not_isBlank_currency
  have hblanks : dropBlanks (space ++ (currency ++ (d :: ds ++ rest))) =
      currency ++ (d :: ds ++ rest) := by
    rw [dropBlanks_blanks_append hb]
    exact dropBlanks_eq_self hhead
  have hcurrency : dropCurrency (currency ++ (d :: ds ++ rest)) = d :: ds ++ rest := by
    rcases hc with rfl | rfl
    · -- a digit is no currency sign
      have hn : d ≠ '$' := by
        rintro rfl
        simp [not_isDigit_currency] at hdigit
      simp [dropCurrency, hn]
    · rfl
  have hstop : rest.takeWhile isDigit = [] := by
    cases rest with
    | nil => rfl
    | cons c rest => simp [hr c rfl]
  have htake : (d :: ds ++ rest).takeWhile isDigit = d :: ds := by
    rw [List.takeWhile_append_of_pos hd, hstop, List.append_nil]
  have hdrop : (d :: ds ++ rest).dropWhile isDigit = rest := by
    have := List.takeWhile_append_dropWhile (p := isDigit) (l := d :: ds ++ rest)
    rw [htake] at this
    exact List.append_cancel_left this
  unfold amount?
  simp only [hblanks, hcurrency, htake, hdrop]

/-- No digit follows the digits of an amount. -/
theorem not_isDigit_of_amount? (h : amount? s = some (digits, rest)) :
    ∀ c ∈ rest.head?, isDigit c = false := by
  unfold amount? at h
  dsimp only at h
  split at h
  · simp at h
  · obtain ⟨-, rfl⟩ := Prod.mk.inj (Option.some.inj h)
    intro c hc
    have := List.head?_dropWhile_not isDigit (dropCurrency (dropBlanks s))
    rw [hc] at this
    exact this

/-! ## Phrases that ask for an amount -/

/-- **A phrase asks for an amount** at the front of a text: its words stand there, up to letter case
and with any white space between them, and behind them white space or none, a currency sign or none,
and digits as far as there are any. A blank phrase asks for nothing. -/
def Asks (phrase : String) (s digits rest : List Char) : Prop :=
  words phrase.toList ≠ [] ∧ ∃ spelled space currency,
    s = spelled ++ (space ++ (currency ++ (digits ++ rest))) ∧
    Spells (words phrase.toList) spelled ∧ (∀ c ∈ space, isBlank c = true) ∧
    (currency = [] ∨ currency = ['$']) ∧
    digits ≠ [] ∧ (∀ d ∈ digits, isDigit d = true) ∧ ∀ c ∈ rest.head?, isDigit c = false

/-- **What a phrase asks for** is what the matchers take. -/
theorem asks_iff : Asks phrase s digits rest ↔ words phrase.toList ≠ [] ∧
    (dropWords? (words phrase.toList) s).bind amount? = some (digits, rest) := by
  constructor
  · rintro ⟨hne, spelled, space, currency, rfl, hs, hb, hc, hd, hall, hr⟩
    refine ⟨hne, ?_⟩
    rw [dropWords?_append hs (fun _ => isWord_of_mem_words), Option.bind_some]
    exact amount?_append hb hc hd hall hr
  · rintro ⟨hne, h⟩
    obtain ⟨r, hr, ha⟩ := Option.bind_eq_some_iff.1 h
    obtain ⟨spelled, rfl, hs⟩ := dropWords?_eq_some hr
    have hstop := not_isDigit_of_amount? ha
    obtain ⟨space, currency, rfl, hb, hc, hd, hall⟩ := amount?_eq_some ha
    exact ⟨hne, spelled, space, currency, by simp, hs, hb, hc, hd, hall, hstop⟩

/-- No phrase asks for an amount where a text begins with white space. -/
theorem Asks.head? (h : Asks phrase s digits rest) : ∀ c ∈ s.head?, isBlank c = false := by
  obtain ⟨hne, spelled, _, _, rfl, hs, -⟩ := h
  obtain ⟨c, w, rfl, hc⟩ := hs.head? hne fun _ => isWord_of_mem_words
  simpa using hc

theorem Asks.dropBlanks_eq (h : Asks phrase s digits rest) : dropBlanks s = s :=
  dropBlanks_eq_self h.head?

/-- **A price is found** behind the white space in front of a text where a phrase asks for an
amount, and its phrase is the preferred one. -/
theorem priceAt?_lexicon_eq_some_iff : priceAt? (lexicon phrases) s = some (digits, rest) ↔
    ∃ phrase, Asks phrase (dropBlanks s) digits rest ∧
      IsPreferred (fun other => ∃ digits rest, Asks other (dropBlanks s) digits rest)
        phrases phrase := by
  have hfinds (other : String) : Finds
      (fun ws => (dropWords? ws (dropBlanks s)).bind amount?) other ↔
        ∃ digits rest, Asks other (dropBlanks s) digits rest := by
    simp only [Finds, asks_iff, Option.ne_none_iff_exists', Prod.exists, exists_and_left]
  unfold priceAt?
  rw [findSome?_lexicon_eq_some_iff (g := fun ws => (dropWords? ws (dropBlanks s)).bind amount?)]
  constructor
  · rintro ⟨phrase, hp, hg⟩
    exact ⟨phrase, asks_iff.2 ⟨hp.1.1, hg⟩, (isPreferred_congr hfinds).1 hp⟩
  · rintro ⟨phrase, ha, hp⟩
    exact ⟨phrase, (isPreferred_congr hfinds).2 hp, (asks_iff.1 ha).2⟩

theorem priceAt?_lexicon_eq_none_iff : priceAt? (lexicon phrases) s = none ↔
    ∀ phrase ∈ phrases, ∀ digits rest, ¬Asks phrase (dropBlanks s) digits rest := by
  unfold priceAt?
  rw [List.findSome?_eq_none_iff]
  constructor
  · intro h phrase hm digits rest ha
    obtain ⟨hne, hg⟩ := asks_iff.1 ha
    obtain ⟨e, he, hw⟩ := exists_mem_lexicon hm hne
    have := h e he
    rw [hw, hg] at this
    simp at this
  · intro h e he
    obtain ⟨phrase, hm, hw, hne⟩ := exists_words_of_mem_lexicon he
    refine Option.eq_none_iff_forall_ne_some.2 fun (digits, rest) hg => ?_
    rw [hw] at hg hne
    exact h phrase hm digits rest (asks_iff.2 ⟨hne, hg⟩)

/-! ## The first price -/

/-- **The first price of a text**: a phrase asks for an amount behind the white space of a gap, no
phrase does so in front of it, and the phrase is the preferred one of those that do so there. -/
structure IsFirstPrice (phrases : List String) (s before gap after : List Char) (phrase : String)
    (digits rest : List Char) : Prop where
  /-- The text goes on behind the gap with the price. -/
  text : s = before ++ (gap ++ after)
  /-- The phrase asks for the amount. -/
  asks : Asks phrase after digits rest
  /-- No phrase asks for an amount at any place in front. -/
  leftmost : ∀ earlier later, s = earlier ++ later → earlier.length < (before ++ gap).length →
    ∀ other ∈ phrases, ∀ digits rest, ¬Asks other later digits rest
  /-- The phrase is preferred. -/
  preferred : IsPreferred (fun other => ∃ digits rest, Asks other after digits rest) phrases phrase
  /-- The gap is white space ... -/
  blank : ∀ c ∈ gap, isBlank c = true
  /-- ... and all that stands in front of the phrase. -/
  whole : ∀ c ∈ before.getLast?, isBlank c = false

/-- A beginning of a text goes on to a longer one. -/
theorem exists_append_of_length_le (h : s ++ t = u ++ v) (hle : u.length ≤ s.length) :
    ∃ w, s = u ++ w ∧ v = w ++ t := by
  rcases List.append_eq_append_iff.1 h with ⟨w, rfl, rfl⟩ | ⟨w, rfl, rfl⟩
  · rw [List.length_append] at hle
    obtain rfl : w = [] := List.length_eq_zero_iff.1 (by omega)
    exact ⟨[], by simp, by simp⟩
  · exact ⟨w, rfl, rfl⟩

/-- A beginning of a text goes on to a longer one with some character. -/
theorem exists_cons_append_of_length_lt (h : s ++ t = u ++ v) (hlt : u.length < s.length) :
    ∃ c w, s = u ++ c :: w ∧ v = c :: (w ++ t) := by
  obtain ⟨w, rfl, rfl⟩ := exists_append_of_length_le h (Nat.le_of_lt hlt)
  cases w with
  | nil => simp at hlt
  | cons c w => exact ⟨c, w, rfl, rfl⟩

theorem isFirstPrice_of_locate
    (h : locate (fun _ => priceAt? (lexicon phrases)) none s = some (before, digits, rest)) :
    ∃ gap after phrase, IsFirstPrice phrases s before gap after phrase digits rest := by
  obtain ⟨later, rfl, hp, hfirst⟩ := locate_eq_some_iff.1 h
  obtain ⟨phrase, ha, hpref⟩ := priceAt?_lexicon_eq_some_iff.1 hp
  obtain ⟨gap, hl, hg⟩ := dropBlanks_eq later
  refine ⟨gap, dropBlanks later, phrase, by rw [← hl], ha, ?_, hpref, hg, ?_⟩
  · intro earlier tail htext hlt other ho digits rest hasks
    by_cases hle : earlier.length < before.length
    · -- in front of the gap: nothing was found there
      have := priceAt?_lexicon_eq_none_iff.1 (hfirst earlier tail htext hle) other ho digits rest
      rw [hasks.dropBlanks_eq] at this
      exact this hasks
    · -- in the gap: white space is no beginning of a phrase
      rw [hl, ← List.append_assoc] at htext
      obtain ⟨c, w, hw, rfl⟩ := exists_cons_append_of_length_lt htext hlt
      obtain ⟨x, -, hx⟩ := exists_append_of_length_le hw.symm (Nat.le_of_not_lt hle)
      have hc : c ∈ gap := by
        rw [hx]
        simp
      have := hasks.head? c rfl
      rw [hg c hc] at this
      simp at this
  · -- White space in front of the gap would be a place further left.
    intro c hc
    refine Bool.eq_false_iff.2 fun hb => ?_
    obtain ⟨front, rfl⟩ := List.getLast?_eq_some_iff.1 hc
    have hn := hfirst front (c :: later) (by simp) (by simp)
    rw [priceAt?, dropBlanks_blank_cons hb, ← priceAt?, hp] at hn
    simp at hn

theorem IsFirstPrice.locate_eq (h : IsFirstPrice phrases s before gap after phrase digits rest) :
    locate (fun _ => priceAt? (lexicon phrases)) none s = some (before, digits, rest) := by
  obtain ⟨rfl, ha, hfirst, hpref, hg, hwhole⟩ := h
  refine locate_eq_some_iff.2 ⟨gap ++ after, rfl, ?_, ?_⟩
  · have hd : dropBlanks (gap ++ after) = after := by
      rw [dropBlanks_blanks_append hg]
      exact ha.dropBlanks_eq
    rw [← hd] at ha hpref
    exact priceAt?_lexicon_eq_some_iff.2 ⟨phrase, ha, hpref⟩
  · intro earlier later htext hlt
    rw [priceAt?_lexicon_eq_none_iff]
    obtain ⟨c, w, rfl, rfl⟩ := exists_cons_append_of_length_lt htext hlt
    obtain ⟨blanks, hb, hall⟩ := dropBlanks_eq (c :: (w ++ (gap ++ after)))
    -- The white space ends before the gap: the text in front of the gap does not end with any.
    have hshort : blanks.length < (c :: w).length := by
      by_contra hge
      obtain ⟨x, hx, -⟩ := exists_append_of_length_le (u := c :: w) hb.symm (Nat.le_of_not_lt hge)
      have hlast := List.getLast_mem (List.cons_ne_nil c w)
      have hnot := hwhole _ (by
        rw [List.getLast?_append, List.getLast?_eq_some_getLast (List.cons_ne_nil c w)]
        rfl)
      rw [hall _ (hx ▸ List.mem_append_left x hlast)] at hnot
      simp at hnot
    refine hfirst (earlier ++ blanks) _ ?_ ?_
    · rw [htext, List.append_assoc, ← hb]
    · simp only [List.length_append] at hshort ⊢
      omega

/-- A text in which a phrase asks for an amount has a first price. -/
theorem exists_isFirstPrice {earlier later : List Char} (hs : s = earlier ++ later)
    (hm : phrase ∈ phrases) (ha : Asks phrase later digits rest) :
    ∃ before gap after phrase digits rest,
      IsFirstPrice phrases s before gap after phrase digits rest := by
  cases h : locate (fun _ => priceAt? (lexicon phrases)) none s with
  | none =>
    have hn := priceAt?_lexicon_eq_none_iff.1 (locate_eq_none.1 h earlier later hs) phrase hm
    rw [ha.dropBlanks_eq] at hn
    exact absurd ha (hn digits rest)
  | some found =>
    obtain ⟨before, digits, rest⟩ := found
    obtain ⟨gap, after, phrase, hf⟩ := isFirstPrice_of_locate h
    exact ⟨before, gap, after, phrase, digits, rest, hf⟩

/-! ## The pass -/

/-- **What is left and reported of a text whose first price is taken**, if its amount is a ceiling:
the usual ten digits, and a value that does not lie beyond the greatest one. -/
structure IsPricePass (phrases : List String) (s : List Char) (result : List Char × Option Nat) :
    Prop where
  /-- A ceiling is reported exactly if it is the amount of the first price; a space is left in the
  place of the price and of the white space in front of it. -/
  taken : ∀ t n, result = (t, some n) ↔ ∃ before gap after phrase digits rest,
    IsFirstPrice phrases s before gap after phrase digits rest ∧
      (∀ d ∈ digits, isAsciiDigit d = true) ∧ Nat.ofDigitChars 10 digits 0 = n ∧
      n ≤ 4294967295 ∧ t = before ++ ' ' :: rest
  /-- Nothing is reported, and the text left as it is, exactly if the first price, if there is one,
  has an amount that is no ceiling, whatever stands behind it. -/
  refused : result = (s, none) ↔ ∀ before gap after phrase digits rest,
    IsFirstPrice phrases s before gap after phrase digits rest →
      (∃ d ∈ digits, isAsciiDigit d = false) ∨ 4294967295 < Nat.ofDigitChars 10 digits 0
  /-- A text is left as it is if nothing is reported. -/
  unchanged : ∀ t, result = (t, none) → t = s
  /-- There is a first price where any phrase asks for an amount. -/
  first : ∀ earlier later, s = earlier ++ later →
    (∃ phrase ∈ phrases, ∃ digits rest, Asks phrase later digits rest) →
    ∃ before gap after phrase digits rest,
      IsFirstPrice phrases s before gap after phrase digits rest

theorem ceiling?_eq_some_iff {n : Nat} : ceiling? digits = some n ↔
    (∀ d ∈ digits, isAsciiDigit d = true) ∧ Nat.ofDigitChars 10 digits 0 = n ∧ n ≤ maxCeiling := by
  constructor
  · exact ceiling?_eq_some
  · rintro ⟨hd, rfl, hn⟩
    rw [ceiling?, if_pos]
    rw [Bool.and_eq_true, List.all_eq_true, decide_eq_true_eq]
    exact ⟨hd, hn⟩

theorem IsFirstPrice.takePrice_of_some {n : Nat}
    (h : IsFirstPrice phrases s before gap after phrase digits rest)
    (hc : ceiling? digits = some n) :
    takePrice (lexicon phrases) s = (before ++ ' ' :: rest, some n) := by
  simp [takePrice, h.locate_eq, hc]

theorem IsFirstPrice.takePrice_of_none
    (h : IsFirstPrice phrases s before gap after phrase digits rest) (hc : ceiling? digits = none) :
    takePrice (lexicon phrases) s = (s, none) := by
  simp [takePrice, h.locate_eq, hc]

theorem takePrice_eq_some_iff {n : Nat} : takePrice (lexicon phrases) s = (t, some n) ↔
    ∃ before gap after phrase digits rest,
      IsFirstPrice phrases s before gap after phrase digits rest ∧ ceiling? digits = some n ∧
      t = before ++ ' ' :: rest := by
  constructor
  · intro h
    cases hl : locate (fun _ => priceAt? (lexicon phrases)) none s with
    | none => simp [takePrice, hl] at h
    | some found =>
      obtain ⟨before, digits, rest⟩ := found
      obtain ⟨gap, after, phrase, hf⟩ := isFirstPrice_of_locate hl
      cases hc : ceiling? digits with
      | none =>
        rw [hf.takePrice_of_none hc] at h
        simp at h
      | some m =>
        rw [hf.takePrice_of_some hc] at h
        obtain ⟨rfl, hm⟩ := Prod.mk.inj h
        obtain rfl := Option.some.inj hm
        exact ⟨before, gap, after, phrase, digits, rest, hf, hc, rfl⟩
  · rintro ⟨before, gap, after, phrase, digits, rest, hf, hc, rfl⟩
    exact hf.takePrice_of_some hc

theorem takePrice_eq_none_iff_of_first : (takePrice (lexicon phrases) s).2 = none ↔
    ∀ before gap after phrase digits rest,
      IsFirstPrice phrases s before gap after phrase digits rest → ceiling? digits = none := by
  constructor
  · intro h before gap after phrase digits rest hf
    cases hc : ceiling? digits with
    | none => rfl
    | some n =>
      rw [hf.takePrice_of_some hc] at h
      simp at h
  · intro h
    rw [takePrice_eq_none_iff]
    intro digits hd
    obtain ⟨before, rest, hl⟩ := leadingPrice_iff.1 hd
    obtain ⟨gap, after, phrase, hf⟩ := isFirstPrice_of_locate hl
    exact h before gap after phrase digits rest hf

/-- **The price pass takes the first price**, if its amount is a ceiling, and nothing else. -/
theorem isPricePass_takePrice (phrases : List String) (s : List Char) :
    IsPricePass phrases s (takePrice (lexicon phrases) s) := by
  refine ⟨?_, ?_, ?_, ?_⟩
  · intro t n
    simp only [takePrice_eq_some_iff, ceiling?_eq_some_iff, and_assoc]
    rfl
  · have hnone : takePrice (lexicon phrases) s = (s, none) ↔
        (takePrice (lexicon phrases) s).2 = none :=
      ⟨fun h => congrArg Prod.snd h, takePrice_eq_of_none⟩
    simp only [hnone, takePrice_eq_none_iff_of_first, ceiling?_eq_none_iff]
    rfl
  · intro t h
    have := takePrice_eq_of_none (congrArg Prod.snd h)
    rw [h] at this
    exact congrArg Prod.fst this
  · rintro earlier later hs ⟨phrase, hm, digits, rest, ha⟩
    exact exists_isFirstPrice hs hm ha

end Storefront.Extraction
