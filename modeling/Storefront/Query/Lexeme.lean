import Storefront.Query.Literal

/-!
# Lexemes of the query language

A document of the query language is cut into marks, names, numbers and texts as the grammar of the
language has it, whoever wrote the document. What means nothing between them is dropped: white
space, line ends, commas and comments.

## Main definitions

* `Lexeme`: the pieces of a document that mean something
* `readNumber?`: the number at the start of a text
* `nextLexeme?`, `lexemes?`: the lexeme at the start of a text, and those of a whole document

## Main results

* `nextLexeme?_length`: a lexeme takes at least one character
* `lexemes?_of_isIgnored`, `lexemes?_of_nextLexeme?`: how a document is cut at its start
-/

namespace Storefront.Query

open Text

/-! ## Lexemes -/

/-- A piece of a document that means something. -/
inductive Lexeme where
  /-- One of the marks. -/
  | mark (c : Char)
  /-- A name. -/
  | name (s : List Char)
  /-- A number as it is written. -/
  | number (s : List Char)
  /-- A text. -/
  | text (s : List Char)
  deriving DecidableEq, Repr

/-- Characters between lexemes that mean nothing: white space, line ends, commas, and the mark of
an encoding. -/
def isIgnored (c : Char) : Bool :=
  c = ' ' || c = '\t' || c = '\n' || c = '\r' || c = ',' || c = '\uFEFF'

/-- The marks of one character. -/
def isMark (c : Char) : Bool := "!$&():=@[]{|}".toList.contains c

/-- The first character of a name. -/
def isNameStart (c : Char) : Bool := c.isAlpha || c = '_'

/-- A further character of a name. -/
def isNamePart (c : Char) : Bool := c.isAlphanum || c = '_'

/-- The end of a line, where a comment ends. -/
def isLineEnd (c : Char) : Bool := c = '\n' || c = '\r'

/-- Digits at the start of a text, of which there must be one, and what follows them. -/
def readDigits? (s : List Char) : Option (List Char × List Char) :=
  match s.takeWhile isAsciiDigit with
  | [] => none
  | digits => some (digits, s.dropWhile isAsciiDigit)

/-- The whole part of a number: a zero, or digits that do not begin with one. -/
def readWhole? : List Char → Option (List Char × List Char)
  | '0' :: rest => some (['0'], rest)
  | s => readDigits? s

/-- A point and digits, if there is a point. -/
def readFraction? : List Char → Option (List Char × List Char)
  | '.' :: rest => (readDigits? rest).map fun (digits, rest) => ('.' :: digits, rest)
  | s => some ([], s)

/-- The letter of an exponent, its sign and its digits, if there is a letter. -/
def readExponent? : List Char → Option (List Char × List Char)
  | [] => some ([], [])
  | e :: rest =>
    if e = 'e' ∨ e = 'E' then
      match rest with
      | [] => none
      | c :: more =>
        if c = '+' ∨ c = '-' then
          (readDigits? more).map fun (digits, rest) => (e :: c :: digits, rest)
        else (readDigits? rest).map fun (digits, rest) => (e :: digits, rest)
    else some ([], e :: rest)

/-- Whether a number may end in front of a text. -/
def mayFollowNumber : List Char → Bool
  | [] => true
  | c :: _ => !(isNamePart c || c = '.')

/-- The sign of a number. -/
def readSign : List Char → List Char × List Char
  | '-' :: rest => (['-'], rest)
  | s => ([], s)

/-- **The number** at the start of a text, as it is written, and what follows. -/
def readNumber? (s : List Char) : Option (List Char × List Char) := do
  let (sign, s) := readSign s
  let (whole, s) ← readWhole? s
  let (fraction, s) ← readFraction? s
  let (exponent, s) ← readExponent? s
  if mayFollowNumber s then some (sign ++ whole ++ fraction ++ exponent, s) else none

theorem length_readDigits? {s digits rest : List Char} (h : readDigits? s = some (digits, rest)) :
    rest.length < s.length := by
  have hs := congrArg List.length (List.takeWhile_append_dropWhile (p := isAsciiDigit) (l := s))
  unfold readDigits? at h
  split at h
  · simp at h
  · next d hd =>
    obtain ⟨rfl, rfl⟩ : s.takeWhile isAsciiDigit = digits ∧ s.dropWhile isAsciiDigit = rest := by
      simpa using h
    have : 0 < (s.takeWhile isAsciiDigit).length := List.length_pos_iff.2 hd
    simp only [List.length_append] at hs
    omega

theorem length_readWhole? {s whole rest : List Char} (h : readWhole? s = some (whole, rest)) :
    rest.length < s.length := by
  unfold readWhole? at h
  split at h
  · obtain ⟨-, rfl⟩ : ['0'] = whole ∧ _ = rest := by simpa using h
    simp
  · exact length_readDigits? h

theorem length_readFraction? {s fraction rest : List Char}
    (h : readFraction? s = some (fraction, rest)) : rest.length ≤ s.length := by
  unfold readFraction? at h
  split at h
  · obtain ⟨⟨d, r⟩, hd, he⟩ := Option.map_eq_some_iff.1 h
    obtain ⟨-, rfl⟩ : '.' :: d = fraction ∧ r = rest := by simpa using he
    exact Nat.le_succ_of_le (Nat.le_of_lt (length_readDigits? hd))
  · obtain ⟨-, rfl⟩ : [] = fraction ∧ s = rest := by simpa using h
    exact Nat.le_refl _

theorem length_readExponent? {s exponent rest : List Char}
    (h : readExponent? s = some (exponent, rest)) : rest.length ≤ s.length := by
  unfold readExponent? at h
  split at h
  · simp_all
  · next e more =>
    split at h
    · split at h
      · simp at h
      · split at h
        · obtain ⟨⟨d, r⟩, hd, he⟩ := Option.map_eq_some_iff.1 h
          obtain rfl : r = rest := by simpa using (Prod.mk.inj he).2
          have := length_readDigits? hd
          simp only [List.length_cons]
          omega
        · obtain ⟨⟨d, r⟩, hd, he⟩ := Option.map_eq_some_iff.1 h
          obtain rfl : r = rest := by simpa using (Prod.mk.inj he).2
          have := length_readDigits? hd
          simp only [List.length_cons] at this ⊢
          omega
    · simp_all

/-- A number takes at least one character. -/
theorem readNumber?_length {s number rest : List Char}
    (h : readNumber? s = some (number, rest)) : rest.length < s.length := by
  have hsign : (readSign s).2.length ≤ s.length := by
    unfold readSign
    split <;> simp
  -- The whole part takes a character; the other parts take none back.
  simp only [readNumber?, Option.bind_eq_bind, Option.bind_eq_some_iff] at h
  obtain ⟨⟨whole, s₁⟩, hw, ⟨fraction, s₂⟩, hf, ⟨exponent, s₃⟩, he, h⟩ := h
  split at h
  · obtain rfl : s₃ = rest := by simpa using (Prod.mk.inj (Option.some.inj h)).2
    exact Nat.lt_of_le_of_lt (Nat.le_trans (length_readExponent? he) (length_readFraction? hf))
      (Nat.lt_of_lt_of_le (length_readWhole? hw) hsign)
  · simp at h

/-- The characters of a literal take at least one character. -/
theorem readCharacters?_length {s t rest : List Char} (h : readCharacters? s = some (t, rest)) :
    rest.length < s.length := by
  fun_induction readCharacters? s generalizing t with
  | case1 => simp at h
  | case2 => simp_all
  | case3 a b c d r ih =>
    simp only [Option.bind_eq_bind, Option.bind_eq_some_iff] at h
    obtain ⟨ch, -, ⟨t', r'⟩, hr, he⟩ := h
    obtain rfl : r' = rest := by simpa using (Prod.mk.inj (Option.some.inj he)).2
    have := ih hr
    simp only [List.length_cons]
    omega
  | case4 e r _ ih =>
    simp only [Option.bind_eq_bind, Option.bind_eq_some_iff] at h
    obtain ⟨ch, -, ⟨t', r'⟩, hr, he⟩ := h
    obtain rfl : r' = rest := by simpa using (Prod.mk.inj (Option.some.inj he)).2
    have := ih hr
    simp only [List.length_cons]
    omega
  | case5 => simp at h
  | case6 c r _ _ _ _ ih =>
    simp only [Option.bind_eq_bind, Option.bind_eq_some_iff] at h
    obtain ⟨⟨t', r'⟩, hr, he⟩ := h
    obtain rfl : r' = rest := by simpa using (Prod.mk.inj (Option.some.inj he)).2
    have := ih hr
    simp only [List.length_cons]
    omega

theorem readLiteral?_length {s t rest : List Char} (h : readLiteral? s = some (t, rest)) :
    rest.length < s.length := by
  unfold readLiteral? at h
  split at h
  · simp at h
  · have := readCharacters?_length h
    simp only [List.length_cons]
    omega
  · simp at h

/-! ## Documents -/

/-- **The lexeme at the start of a text**, and what follows it. A name is taken as long as it
goes. -/
def nextLexeme? : List Char → Option (Lexeme × List Char)
  | [] => none
  | c :: rest =>
    if isMark c then some (.mark c, rest)
    else if isNameStart c then
      some (.name (c :: rest.takeWhile isNamePart), rest.dropWhile isNamePart)
    else if c = '"' then (readLiteral? (c :: rest)).map fun (t, rest) => (.text t, rest)
    else (readNumber? (c :: rest)).map fun (n, rest) => (.number n, rest)

/-- A lexeme takes at least one character. -/
theorem nextLexeme?_length {s rest : List Char} {l : Lexeme}
    (h : nextLexeme? s = some (l, rest)) : rest.length < s.length := by
  unfold nextLexeme? at h
  split at h
  · simp at h
  · next c more =>
    split at h
    · obtain ⟨-, rfl⟩ : Lexeme.mark c = l ∧ more = rest := by simpa using h
      simp
    · split at h
      · obtain rfl : more.dropWhile isNamePart = rest :=
          (Prod.mk.inj (Option.some.inj h)).2
        exact Nat.lt_succ_of_le (List.dropWhile_suffix _).length_le
      · split at h
        · obtain ⟨⟨t, r⟩, ht, he⟩ := Option.map_eq_some_iff.1 h
          obtain rfl : r = rest := by simpa using (Prod.mk.inj he).2
          exact readLiteral?_length ht
        · obtain ⟨⟨t, r⟩, ht, he⟩ := Option.map_eq_some_iff.1 h
          obtain rfl : r = rest := by simpa using (Prod.mk.inj he).2
          exact readNumber?_length ht

/-- **The lexemes of a document.** A comment goes to the end of its line. -/
def lexemes? (s : List Char) : Option (List Lexeme) :=
  match s with
  | [] => some []
  | c :: rest =>
    if isIgnored c then lexemes? rest
    else if c = '#' then lexemes? (rest.dropWhile fun d => !isLineEnd d)
    else
      match _h : nextLexeme? (c :: rest) with
      | none => none
      | some (l, more) => (lexemes? more).map (l :: ·)
termination_by s.length
decreasing_by
  · simp
  · exact Nat.lt_succ_of_le (List.dropWhile_suffix _).length_le
  · exact nextLexeme?_length ‹_›

@[simp] theorem lexemes?_nil : lexemes? [] = some [] := by
  rw [lexemes?]

/-- What means nothing is dropped. -/
theorem lexemes?_of_isIgnored {c : Char} (h : isIgnored c = true) (rest : List Char) :
    lexemes? (c :: rest) = lexemes? rest := by
  rw [lexemes?, if_pos h]

/-- No lexeme begins with a character that means nothing, nor with a comment. -/
theorem nextLexeme?_eq_none {c : Char} (h : isIgnored c = true ∨ c = '#') (rest : List Char) :
    nextLexeme? (c :: rest) = none := by
  simp only [isIgnored, Bool.or_eq_true, decide_eq_true_eq] at h
  rcases h with (((((rfl | rfl) | rfl) | rfl) | rfl) | rfl) | rfl <;> rfl

/-- The lexeme at the start of a document is its first. -/
theorem lexemes?_of_nextLexeme? {s rest : List Char} {l : Lexeme}
    (h : nextLexeme? s = some (l, rest)) : lexemes? s = (lexemes? rest).map (l :: ·) := by
  cases s with
  | nil => simp [nextLexeme?] at h
  | cons c more =>
    -- Where a lexeme begins, nothing is dropped.
    have hc : ¬(isIgnored c = true ∨ c = '#') := fun hc => by
      simp [nextLexeme?_eq_none hc] at h
    rw [lexemes?, if_neg fun h => hc (.inl h), if_neg fun h => hc (.inr h)]
    split
    · simp_all
    · next l' r' h' =>
      obtain ⟨rfl, rfl⟩ : l' = l ∧ r' = rest := by simpa [h] using h'.symm
      rfl

end Storefront.Query
