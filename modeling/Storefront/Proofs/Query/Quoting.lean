import Mathlib.Algebra.Ring.Parity
import Mathlib.Tactic.SplitIfs
import Storefront.Query.Lexeme

/-!
# Literals end where their texts do

A character is written in one of three ways: behind a backslash as a letter, as two hexadecimal
digits, or as it is. Each of them is read back as the one character, whatever follows, and none of
them leaves a backslash behind that could escape what follows. So a literal is read back up to its
closing quote, and all other quotes in it are escaped.

## Main definitions

* `backslashes`: how many backslashes a text ends with
* `IsSelfDelimiting`: literals that can be read back, whatever follows

## Main results

* `escape_cases`: the three ways in which a character is written
* `readLiteral?_quote`: a literal is read back, and its end is found
* `not_isControl_of_mem_quote`: a literal has no control character
* `odd_backslashes_of_flatMap_escape`: every quote within a literal is escaped
* `eq_of_isPrefix_quote`: no literal begins with another one
* `isSelfDelimiting_quote`: literals delimit themselves
-/

namespace Storefront.Query

open Text

variable {s t u rest : List Char} {c d : Char}

/-! ## Reading literals -/

/-- **How a character is written**: behind a backslash as a letter or with two hexadecimal digits,
or as it is. -/
theorem escape_cases (c : Char) :
    (∃ e ∈ ['\\', '"', 'n', 'r', 't'], escapeLetter? e = some c ∧ escape c = ['\\', e]) ∨
    (isControl c = true ∧ escape c =
      ['\\', 'u', '0', '0', upperHexDigit (c.toNat / 16), upperHexDigit (c.toNat % 16)]) ∨
    c ≠ '\\' ∧ c ≠ '"' ∧ isControl c = false ∧ escape c = [c] := by
  unfold escape
  split_ifs with hb hq hn hr ht hc
  · exact .inl ⟨'\\', by decide, by rw [hb]; rfl, rfl⟩
  · exact .inl ⟨'"', by decide, by rw [hq]; rfl, rfl⟩
  · exact .inl ⟨'n', by decide, by rw [hn]; rfl, rfl⟩
  · exact .inl ⟨'r', by decide, by rw [hr]; rfl, rfl⟩
  · exact .inl ⟨'t', by decide, by rw [ht]; rfl, rfl⟩
  · exact .inr (.inl ⟨hc, rfl⟩)
  · exact .inr (.inr ⟨hb, hq, by simpa using hc, rfl⟩)

theorem toNat_lt_of_isControl (h : isControl c = true) : c.toNat < 160 := by
  simp only [isControl, Bool.or_eq_true, decide_eq_true_eq] at h
  omega

/-- A control character is told by its two hexadecimal digits. -/
theorem codeUnit?_upperHexDigit (h : isControl c = true) :
    codeUnit? '0' '0' (upperHexDigit (c.toNat / 16)) (upperHexDigit (c.toNat % 16)) = some c := by
  -- Every control character is below 160: its two digits are checked one by one.
  have all : ∀ n : Fin 160, codeUnit? '0' '0' (upperHexDigit (n / 16)) (upperHexDigit (n % 16)) =
      some (Char.ofNat n) := by decide +kernel
  simpa using all ⟨c.toNat, toNat_lt_of_isControl h⟩

/-- A hexadecimal digit is no control character and has no meaning in a literal. -/
theorem upperHexDigit_plain {n : Nat} (h : n < 16) : isControl (upperHexDigit n) = false ∧
    upperHexDigit n ≠ '\\' ∧ upperHexDigit n ≠ '"' := by
  have all : ∀ n : Fin 16, isControl (upperHexDigit n) = false ∧ upperHexDigit n ≠ '\\' ∧
      upperHexDigit n ≠ '"' := by decide +kernel
  exact all ⟨n, h⟩

/-- An escape letter is read as the character that it stands for. -/
theorem readCharacters?_letter {e c : Char} (h : escapeLetter? e = some c) (he : e ≠ 'u')
    (t : List Char) : readCharacters? ('\\' :: e :: t) =
      (readCharacters? t).map fun (s, rest) => (c :: s, rest) := by
  cases hr : readCharacters? t <;> simp [readCharacters?, h, he, hr]

theorem isControl_of_isLineEnd (h : isLineEnd c = true) : isControl c = true := by
  simp only [isLineEnd, Bool.or_eq_true, decide_eq_true_eq] at h
  rcases h with rfl | rfl <;> decide

/-- **One character of a literal** is read as the character that it was written for. -/
theorem readCharacters?_escape (c : Char) (t : List Char) :
    readCharacters? (escape c ++ t) = (readCharacters? t).map fun (s, rest) => (c :: s, rest) := by
  rcases escape_cases c with ⟨e, he, hl, heq⟩ | ⟨hc, heq⟩ | ⟨hb, hq, hc, heq⟩
  · -- a letter
    have hu : e ≠ 'u' := by
      rintro rfl
      exact absurd he (by decide)
    rw [heq]
    exact readCharacters?_letter hl hu t
  · -- two hexadecimal digits
    have hu := codeUnit?_upperHexDigit hc
    rw [heq]
    cases hs : readCharacters? t <;> simp [readCharacters?, hu, hs]
  · -- Every other character stands for itself, since the ends of lines are control characters.
    have hl : isLineEnd c = false := by
      refine Bool.eq_false_iff.2 fun hl => ?_
      simp [isControl_of_isLineEnd hl] at hc
    simp only [isLineEnd, Bool.or_eq_false_iff, decide_eq_false_iff_not] at hl
    rw [heq]
    cases hs : readCharacters? t <;> simp [readCharacters?, hb, hl.1, hl.2, hs]

/-- The characters of a literal end at its closing quote. -/
theorem readCharacters?_flatMap_escape (s rest : List Char) :
    readCharacters? (s.flatMap escape ++ '"' :: rest) = some (s, rest) := by
  induction s with
  | nil => simp [readCharacters?]
  | cons c s ih => rw [List.flatMap_cons, List.append_assoc, readCharacters?_escape, ih]; rfl

/-- No character of a literal is written with a quote in front. -/
theorem escape_head?_ne_quote (c : Char) (t : List Char) : (escape c ++ t).head? ≠ some '"' := by
  rcases escape_cases c with ⟨e, -, -, heq⟩ | ⟨-, heq⟩ | ⟨-, hq, -, heq⟩
  · simp [heq]
  · simp [heq]
  · simpa [heq] using hq

/-- **A literal is read back**, and its end is found, unless it is empty and a quote follows. -/
theorem readLiteral?_quote (h : s = [] → rest.head? ≠ some '"') :
    readLiteral? (quote s ++ rest) = some (s, rest) := by
  have hr := readCharacters?_flatMap_escape s rest
  have hs : quote s ++ rest = '"' :: (s.flatMap escape ++ '"' :: rest) := by simp [quote]
  rw [hs]
  unfold readLiteral?
  split
  · next heq =>
    -- Three quotes: the second one closes an empty literal, and the third one follows it.
    cases s with
    | nil => simp_all
    | cons c s =>
      have := escape_head?_ne_quote c (s.flatMap escape ++ '"' :: rest)
      simp_all
  · next heq => obtain rfl := (List.cons.inj heq).2; exact hr
  · next hn => exact absurd rfl (hn _)

/-! ## Control characters -/

theorem isControl_quote : isControl '"' = false := by decide

/-- **No character is written with a control character.** -/
theorem not_isControl_of_mem_escape (h : d ∈ escape c) : isControl d = false := by
  rcases escape_cases c with ⟨e, he, -, heq⟩ | ⟨hc, heq⟩ | ⟨-, -, hc, heq⟩
  · simp only [List.mem_cons, List.not_mem_nil, or_false] at he
    rw [heq, List.mem_cons, List.mem_singleton] at h
    rcases h with rfl | rfl
    · decide
    · rcases he with rfl | rfl | rfl | rfl | rfl <;> decide
  · have hlt := toNat_lt_of_isControl hc
    rw [heq] at h
    simp only [List.mem_cons, List.not_mem_nil, or_false] at h
    rcases h with rfl | rfl | rfl | rfl | rfl | rfl
    · decide
    · decide
    · decide
    · decide
    · exact (upperHexDigit_plain (by omega)).1
    · exact (upperHexDigit_plain (by omega)).1
  · obtain rfl := List.mem_singleton.1 (heq ▸ h)
    exact hc

/-- **A literal has no control character.** -/
theorem not_isControl_of_mem_quote (h : c ∈ quote s) : isControl c = false := by
  rw [quote_eq, List.mem_append, List.mem_append, List.mem_singleton, List.mem_flatMap] at h
  rcases h with (rfl | ⟨d, -, hd⟩) | rfl
  · exact isControl_quote
  · exact not_isControl_of_mem_escape hd
  · exact isControl_quote

/-! ## Backslashes -/

/-- How many backslashes a text ends with. -/
def backslashes (s : List Char) : Nat := (s.reverse.takeWhile (· = '\\')).length

theorem backslashes_eq_zero (h : s.getLast? ≠ some '\\') : backslashes s = 0 := by
  rw [← List.head?_reverse] at h
  unfold backslashes
  cases hs : s.reverse with
  | nil => rfl
  | cons c u =>
    rw [hs] at h
    have hc : c ≠ '\\' := by simpa using h
    simp [hc]

/-- An even number of backslashes in front changes nothing. -/
theorem odd_backslashes_append_iff (h : Even (backslashes s)) :
    Odd (backslashes (s ++ t)) ↔ Odd (backslashes t) := by
  unfold backslashes at h ⊢
  rw [List.reverse_append, List.takeWhile_append]
  split
  -- Those in front count only if there is nothing but backslashes behind them.
  · next ht => rw [List.length_append, ht, Nat.odd_add, iff_true_right h]
  · rfl

/-- What a character is written with escapes nothing that follows. -/
theorem even_backslashes_escape (c : Char) : Even (backslashes (escape c)) := by
  rcases escape_cases c with ⟨e, he, -, heq⟩ | ⟨-, heq⟩ | ⟨hb, -, -, heq⟩
  · simp only [List.mem_cons, List.not_mem_nil, or_false] at he
    rw [heq]
    rcases he with rfl | rfl | rfl | rfl | rfl <;> decide
  · have := (upperHexDigit_plain (Nat.mod_lt c.toNat (by decide : 16 > 0))).2.1
    rw [backslashes_eq_zero (by simpa [heq] using this)]
    exact Even.zero
  · rw [backslashes_eq_zero (by simpa [heq] using hb)]
    exact Even.zero

/-- Only a quote is written with a quote. -/
theorem eq_quote_of_mem_escape (h : '"' ∈ escape c) : c = '"' := by
  rcases escape_cases c with ⟨e, he, hl, heq⟩ | ⟨hc, heq⟩ | ⟨-, -, -, heq⟩
  · obtain rfl : '"' = e := by simpa [heq] using h
    exact (Option.some.inj hl).symm
  · have hlt := toNat_lt_of_isControl hc
    have h₁ := (upperHexDigit_plain (n := c.toNat / 16) (by omega)).2.2
    have h₂ := (upperHexDigit_plain (n := c.toNat % 16) (by omega)).2.2
    simp [heq, Ne.symm h₁, Ne.symm h₂] at h
  · simpa [heq, eq_comm] using h

theorem odd_backslashes_of_escape (h : escape c = u ++ '"' :: t) : Odd (backslashes u) := by
  obtain rfl : c = '"' := eq_quote_of_mem_escape (by simp [h])
  -- The text in front of the quote is the backslash.
  have he : ['\\', '"'] = u ++ '"' :: t := h
  obtain ⟨rfl, -⟩ : u = ['\\'] ∧ t = [] := by
    cases u with
    | nil => simp at he
    | cons d u =>
      obtain ⟨rfl, he⟩ := List.cons.inj he
      cases u with
      | nil => simpa using he
      | cons e u => simp at he
  decide

/-- **Every quote within a literal** stands behind an odd number of backslashes. -/
theorem odd_backslashes_of_flatMap_escape (h : s.flatMap escape = u ++ '"' :: t) :
    Odd (backslashes u) := by
  induction s generalizing u with
  | nil => simp at h
  | cons c s ih =>
    rw [List.flatMap_cons, List.append_eq_append_iff] at h
    rcases h with ⟨v, rfl, hs⟩ | ⟨v, hc, hs⟩
    · -- behind the first character (induction)
      exact (odd_backslashes_append_iff (even_backslashes_escape c)).2 (ih hs)
    · cases v with
      | nil => exact absurd (ih (u := []) hs.symm) (by decide)
      | cons d v =>
        -- within what the first character is written with
        obtain ⟨rfl, -⟩ := List.cons.inj hs
        exact odd_backslashes_of_escape hc

/-! ## Literals side by side -/

/-- **No literal begins with another one.** -/
theorem eq_of_isPrefix_quote (h : quote s <+: quote t) : s = t := by
  obtain ⟨more, hm⟩ := h
  have ht : readLiteral? (quote t ++ []) = some (t, []) := readLiteral?_quote fun _ => by simp
  rw [List.append_nil] at ht
  by_cases hq : s = [] ∧ more.head? = some '"'
  · -- two quotes in front of a third one, where an empty literal would begin a block
    obtain ⟨rfl, hq⟩ := hq
    cases t with
    | nil => rfl
    | cons c t =>
      have := escape_head?_ne_quote c (t.flatMap escape ++ ['"'])
      rw [quote_nil, quote, List.flatMap_cons, List.append_assoc] at hm
      rw [← (List.cons.inj hm).2] at this
      simp at this
  · have hs := readLiteral?_quote (not_and.1 hq)
    rw [hm, ht] at hs
    exact (Prod.mk.inj (Option.some.inj hs)).1.symm

/-- **Literals that delimit themselves**: `write` gives the literal of a text. -/
structure IsSelfDelimiting (write : List Char → List Char) : Prop where
  /-- A literal is read back, and its end is found, whatever follows; behind the empty one there
  may be no quote, which would begin a block. -/
  reads : ∀ s rest, (s = [] → rest.head? ≠ some '"') →
    readLiteral? (write s ++ rest) = some (s, rest)
  /-- A literal has neither control characters nor ends of lines. -/
  plain : ∀ s, ∀ c ∈ write s, isControl c = false ∧ isLineEnd c = false
  /-- Between its outer quotes every quote stands behind an odd number of backslashes. -/
  escaped : ∀ s, ∃ body, write s = '"' :: (body ++ ['"']) ∧
    ∀ before after, body = before ++ '"' :: after → Odd (backslashes before)
  /-- Different texts have different literals. -/
  injective : Function.Injective write
  /-- No literal goes on with more than another one. -/
  prefixFree : ∀ s t, write s <+: write t → write s = write t

/-- **The literals of texts delimit themselves.** -/
theorem isSelfDelimiting_quote : IsSelfDelimiting quote where
  reads _ _ h := readLiteral?_quote h
  plain s c hc := by
    have h := not_isControl_of_mem_quote hc
    refine ⟨h, Bool.eq_false_iff.2 fun hl => ?_⟩
    simp [isControl_of_isLineEnd hl] at h
  escaped s := ⟨s.flatMap escape, rfl, fun _ _ => odd_backslashes_of_flatMap_escape⟩
  injective _ _ h := eq_of_isPrefix_quote (h ▸ List.prefix_rfl)
  prefixFree _ _ h := congrArg quote (eq_of_isPrefix_quote h)

end Storefront.Query
