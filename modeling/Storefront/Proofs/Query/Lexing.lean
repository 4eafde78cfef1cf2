import Mathlib.Data.List.TakeWhile
import Mathlib.Tactic.Tauto
import Storefront.Proofs.Query.Quoting
import Storefront.Query.Document

/-!
# Texts that are cut apart from what follows

The lexemes of a document are those of its pieces, as long as no piece goes on into the next one.
A name, a number and a literal go on only into some characters, and a piece that ends with a mark or
with white space never does. So a document that is written piece by piece is cut piece by piece,
whatever its literals hold.

## Main definitions

* `startsApart`: no lexeme in front of a text goes on into it
* `Delimits s ls`: the text `s` is cut into `ls` whatever follows it
* `IsWhole`, `IsFraction`: the parts of a number as they are written

## Main results

* `readNumber?_append`: a number is read back, and its end is found
* `Delimits.literal`, `Delimits.number`, `Delimits.word`: the three pieces that need a separator
* `delimits_of_plain`: a text of names, marks and white space that ends with one of the latter two
-/

namespace Storefront.Query

open Text

variable {s t rest w : List Char} {ls ms : List Lexeme}

/-- **No lexeme goes on** into a text that begins so. -/
def startsApart : List Char → Bool
  | [] => false
  | c :: _ => !(isNamePart c || c = '.' || c = '"')

/-- **The text is cut into the lexemes**, whatever follows it. -/
def Delimits (s : List Char) (ls : List Lexeme) : Prop :=
  ∀ rest, lexemes? (s ++ rest) = (lexemes? rest).map (ls ++ ·)

theorem Delimits.nil : Delimits [] [] := fun rest => by simp

theorem Delimits.append (hs : Delimits s ls) (ht : Delimits t ms) :
    Delimits (s ++ t) (ls ++ ms) := by
  intro rest
  rw [List.append_assoc, hs, ht, Option.map_map]
  simp [Function.comp_def]

/-- A lexeme in front of a text that is cut into lexemes. -/
theorem Delimits.of_nextLexeme? {l : Lexeme} (ht : Delimits t ms)
    (h : ∀ rest, nextLexeme? (w ++ (t ++ rest)) = some (l, t ++ rest)) :
    Delimits (w ++ t) (l :: ms) := by
  intro rest
  rw [List.append_assoc, lexemes?_of_nextLexeme? (h rest), ht, Option.map_map]
  rfl

theorem Delimits.lexemes?_eq (h : Delimits s ls) : lexemes? s = some ls := by
  simpa using h []

theorem startsApart_append (h : startsApart t = true) (rest : List Char) :
    startsApart (t ++ rest) = true := by
  cases t with
  | nil => simp [startsApart] at h
  | cons c t => exact h

theorem takeWhile_append_of_stop {p : Char → Bool} (hw : ∀ c ∈ w, p c = true)
    (hr : rest.takeWhile p = []) : (w ++ rest).takeWhile p = w := by
  rw [List.takeWhile_append_of_pos hw, hr, List.append_nil]

theorem dropWhile_append_of_stop {p : Char → Bool} (hw : ∀ c ∈ w, p c = true)
    (hr : rest.takeWhile p = []) : (w ++ rest).dropWhile p = rest := by
  have := List.takeWhile_append_dropWhile (p := p) (l := w ++ rest)
  rw [takeWhile_append_of_stop hw hr] at this
  exact List.append_cancel_left this

theorem isMark_iff {c : Char} : isMark c = true ↔ c ∈ "!$&():=@[]{|}".toList := by
  rw [isMark, List.contains_iff_mem]

/-! ## Literals -/

/-- A literal in front of a text that no lexeme goes on into. -/
theorem Delimits.literal (ht : Delimits t ms) (ha : startsApart t = true) (s : List Char) :
    Delimits (quote s ++ t) (.text s :: ms) := by
  refine ht.of_nextLexeme? fun rest => ?_
  -- No quote follows, so that an empty literal is not taken for the start of a block.
  have hq : (t ++ rest).head? ≠ some '"' := by
    cases t with
    | nil => simp [startsApart] at ha
    | cons c t =>
      intro h
      simp_all [startsApart]
  have hl : readLiteral? (quote s ++ (t ++ rest)) = some (s, t ++ rest) :=
    readLiteral?_quote fun _ => hq
  rw [quote, List.cons_append] at hl ⊢
  rw [nextLexeme?, if_neg (by decide), if_neg (by decide), if_pos rfl, hl]
  rfl

/-! ## Numbers -/

/-- Digits without a superfluous zero in front. -/
def IsWhole (w : List Char) : Prop :=
  w = ['0'] ∨ w ≠ [] ∧ w.head? ≠ some '0' ∧ ∀ c ∈ w, isAsciiDigit c = true

/-- Nothing, or a point and digits. -/
def IsFraction (w : List Char) : Prop :=
  w = [] ∨ ∃ digits, w = '.' :: digits ∧ digits ≠ [] ∧ ∀ c ∈ digits, isAsciiDigit c = true

theorem isAsciiDigit_eq_isDigit (c : Char) : isAsciiDigit c = c.isDigit := rfl

/-- What a number does not go on into. -/
theorem exists_of_startsApart (h : startsApart t = true) :
    ∃ c s, t = c :: s ∧ isNamePart c = false ∧ c ≠ '.' ∧ c ≠ '"' := by
  cases t with
  | nil => simp [startsApart] at h
  | cons c s =>
    simp only [startsApart, Bool.not_eq_true', Bool.or_eq_false_iff, decide_eq_false_iff_not] at h
    exact ⟨c, s, rfl, h.1.1, h.1.2, h.2⟩

/-- Digits end where a text begins with something else. -/
theorem readDigits?_append (hne : w ≠ []) (hw : ∀ c ∈ w, isAsciiDigit c = true)
    (hr : rest.takeWhile isAsciiDigit = []) : readDigits? (w ++ rest) = some (w, rest) := by
  rw [readDigits?, takeWhile_append_of_stop hw hr, dropWhile_append_of_stop hw hr]
  cases w with
  | nil => exact absurd rfl hne
  | cons => rfl

theorem readWhole?_append (hw : IsWhole w) (hr : rest.takeWhile isAsciiDigit = []) :
    readWhole? (w ++ rest) = some (w, rest) := by
  rcases hw with rfl | ⟨hne, hz, hd⟩
  · rfl
  · have := readDigits?_append hne hd hr
    cases w with
    | nil => exact absurd rfl hne
    | cons c w =>
      have hc : c ≠ '0' := fun e => hz (by simp [e])
      simpa [readWhole?, hc] using this

theorem readFraction?_append (hw : IsFraction w) (hr : startsApart rest = true) :
    readFraction? (w ++ rest) = some (w, rest) := by
  obtain ⟨c, s, rfl, hn, hp, -⟩ := exists_of_startsApart hr
  rcases hw with rfl | ⟨digits, rfl, hne, hd⟩
  · simp [readFraction?, hp]
  · have hc : isAsciiDigit c = false := by
      simp_all [isAsciiDigit_eq_isDigit, isNamePart, Char.isAlphanum]
    have : readDigits? (digits ++ c :: s) = some (digits, c :: s) :=
      readDigits?_append hne hd (by simp [hc])
    simp [readFraction?, this]

theorem readSign_append {sign : List Char} (hs : sign = [] ∨ sign = ['-']) (hw : IsWhole w) :
    readSign (sign ++ (w ++ rest)) = (sign, w ++ rest) := by
  rcases hs with rfl | rfl
  · -- A whole part begins with a digit, which is no sign.
    rcases hw with rfl | ⟨hne, -, hd⟩
    · rfl
    · cases w with
      | nil => exact absurd rfl hne
      | cons c w =>
        have hc : c ≠ '-' := by
          rintro rfl
          exact absurd (hd '-' (by simp)) (by decide)
        simp [readSign, hc]
  · rfl

/-- **A number is read back**, and its end is found. -/
theorem readNumber?_append {sign whole fraction : List Char} (hs : sign = [] ∨ sign = ['-'])
    (hw : IsWhole whole) (hf : IsFraction fraction) (hr : startsApart rest = true) :
    readNumber? (sign ++ whole ++ fraction ++ rest) = some (sign ++ whole ++ fraction, rest) := by
  have hfr := readFraction?_append hf hr
  obtain ⟨c, s, rfl, hn, hp, -⟩ := exists_of_startsApart hr
  have hc : isAsciiDigit c = false := by
    simp_all [isAsciiDigit_eq_isDigit, isNamePart, Char.isAlphanum]
  -- The whole part ends at the point, or at what follows the number.
  have hstop : (fraction ++ c :: s).takeWhile isAsciiDigit = [] := by
    rcases hf with rfl | ⟨digits, rfl, -, -⟩
    · simp [hc]
    · rfl
  -- An exponent would begin with a letter, and a letter is a part of a name.
  have he : readExponent? (c :: s) = some ([], c :: s) := by
    have hne : ¬(c = 'e' ∨ c = 'E') := by
      rintro (rfl | rfl)
      · exact absurd hn (by decide)
      · exact absurd hn (by decide)
    simp [readExponent?, hne]
  have hm : mayFollowNumber (c :: s) = true := by simp [mayFollowNumber, hn, hp]
  simp only [List.append_assoc] at hfr ⊢
  simp only [readNumber?, readSign_append hs hw, readWhole?_append hw hstop, hfr, he, hm,
    Option.bind_eq_bind, Option.bind_some, if_true, List.append_nil, List.append_assoc]

/-- A digit begins neither a mark nor a name nor a literal. -/
theorem not_other_of_isAsciiDigit {c : Char} (h : isAsciiDigit c = true) :
    isMark c = false ∧ isNameStart c = false ∧ c ≠ '"' := by
  have all : ∀ n : Fin 10, isMark (Char.ofNat (48 + n)) = false ∧
      isNameStart (Char.ofNat (48 + n)) = false ∧ Char.ofNat (48 + n) ≠ '"' := by decide +kernel
  have hd : 48 ≤ c.toNat ∧ c.toNat ≤ 57 := by
    simpa [isAsciiDigit, Char.le_def, UInt32.le_iff_toNat_le] using h
  have hc : Char.ofNat (48 + (c.toNat - 48)) = c := by
    rw [Nat.add_sub_cancel' hd.1, Char.ofNat_toNat]
  have := all ⟨c.toNat - 48, by omega⟩
  rwa [hc] at this

/-- A number begins with a sign or with a digit. -/
theorem exists_number_cons {sign whole : List Char} (hs : sign = [] ∨ sign = ['-'])
    (hw : IsWhole whole) (t : List Char) :
    ∃ c s, sign ++ (whole ++ t) = c :: s ∧ (c = '-' ∨ isAsciiDigit c = true) := by
  rcases hs with rfl | rfl
  · rcases hw with rfl | ⟨hne, -, hd⟩
    · exact ⟨'0', _, rfl, .inr (by decide)⟩
    · cases whole with
      | nil => exact absurd rfl hne
      | cons c whole => exact ⟨c, _, rfl, .inr (hd c (by simp))⟩
  · exact ⟨'-', _, rfl, .inl rfl⟩

/-- A number in front of a text that no lexeme goes on into. -/
theorem Delimits.number (ht : Delimits t ms) (ha : startsApart t = true)
    {sign whole fraction : List Char} (hs : sign = [] ∨ sign = ['-']) (hw : IsWhole whole)
    (hf : IsFraction fraction) :
    Delimits (sign ++ whole ++ fraction ++ t) (.number (sign ++ whole ++ fraction) :: ms) := by
  refine ht.of_nextLexeme? fun rest => ?_
  have hn := readNumber?_append hs hw hf (startsApart_append ha rest)
  obtain ⟨c, s, hcs, hc⟩ := exists_number_cons hs hw (fraction ++ (t ++ rest))
  simp only [List.append_assoc] at hn hcs ⊢
  rw [hcs] at hn ⊢
  -- The sign and the digits begin no other lexeme.
  have hother : isMark c = false ∧ isNameStart c = false ∧ c ≠ '"' := by
    rcases hc with rfl | hd
    · decide
    · exact not_other_of_isAsciiDigit hd
  simp [nextLexeme?, hother, hn]

/-! ## Names, marks and white space -/

theorem not_isMark_of_isNameStart {c : Char} (h : isNameStart c = true) : isMark c = false := by
  have hm : ("!$&():=@[]{|}".toList.all fun d => !isNameStart d) = true := by decide +kernel
  refine Bool.eq_false_iff.2 fun hc => ?_
  have := List.all_eq_true.1 hm c (isMark_iff.1 hc)
  simp [h] at this

/-- A name as it is written. -/
def isName : List Char → Bool
  | [] => false
  | c :: w => isNameStart c && w.all isNamePart

/-- A name in front of a text that does not begin with a part of one. -/
theorem nextLexeme?_name {c : Char} (hc : isNameStart c = true)
    (hw : ∀ d ∈ w, isNamePart d = true) (hr : rest.takeWhile isNamePart = []) :
    nextLexeme? (c :: w ++ rest) = some (.name (c :: w), rest) := by
  rw [List.cons_append, nextLexeme?, if_neg (by simp [not_isMark_of_isNameStart hc]), if_pos hc,
    takeWhile_append_of_stop hw hr, dropWhile_append_of_stop hw hr]

/-- A name in front of a text that no lexeme goes on into. -/
theorem Delimits.word (ht : Delimits t ms) (ha : startsApart t = true) (hw : isName w = true) :
    Delimits (w ++ t) (.name w :: ms) := by
  cases w with
  | nil => simp [isName] at hw
  | cons c w =>
    simp only [isName, Bool.and_eq_true, List.all_eq_true] at hw
    refine ht.of_nextLexeme? fun rest => nextLexeme?_name hw.1 hw.2 ?_
    obtain ⟨d, s, hd, hn, -⟩ := exists_of_startsApart (startsApart_append ha rest)
    simp [hd, hn]

/-- A character that is a mark or means nothing. -/
def isStop (c : Char) : Bool := isMark c || isIgnored c

/-- A text of names, marks and characters that mean nothing, which ends with one of the latter
two. -/
def isPlain (s : List Char) : Bool :=
  s.all (fun c => isStop c || isNameStart c) && s.getLast?.all isStop

theorem not_isNamePart_of_isStop {c : Char} (h : isStop c = true) : isNamePart c = false := by
  have hm : (("!$&():=@[]{|}".toList ++ [' ', '\t', '\n', '\r', ',', '\uFEFF']).all
      fun d => !isNamePart d) = true := by decide +kernel
  have hc : c ∈ "!$&():=@[]{|}".toList ++ [' ', '\t', '\n', '\r', ',', '\uFEFF'] := by
    simpa [isStop, isMark, isIgnored, or_assoc] using h
  simpa using List.all_eq_true.1 hm c hc

theorem isPlain_of_suffix (h : isPlain s = true) (ht : t <:+ s) : isPlain t = true := by
  obtain ⟨w, rfl⟩ := ht
  simp only [isPlain, List.all_append, Bool.and_eq_true, List.getLast?_append] at h ⊢
  refine ⟨h.1.2, ?_⟩
  cases hl : t.getLast? with
  | none => rfl
  | some c => simpa [hl] using h.2

/-- A plain text does not end within a name. -/
theorem exists_stop_of_plain (hs : isPlain s = true) (hne : s ≠ []) :
    ∃ c ∈ s, isNamePart c = false := by
  refine ⟨s.getLast hne, List.getLast_mem hne, not_isNamePart_of_isStop ?_⟩
  simp only [isPlain, List.getLast?_eq_some_getLast hne, Bool.and_eq_true] at hs
  exact hs.2

theorem isNamePart_of_isNameStart {c : Char} (h : isNameStart c = true) : isNamePart c = true := by
  simp only [isNameStart, isNamePart, Char.isAlphanum, Bool.or_eq_true] at h ⊢
  exact h.imp_left .inl

/-- The first lexeme of a plain text is cut apart from what follows the text. -/
theorem nextLexeme?_append_of_plain {l : Lexeme} (hs : isPlain s = true)
    (h : nextLexeme? s = some (l, t)) :
    t <:+ s ∧ ∀ rest, nextLexeme? (s ++ rest) = some (l, t ++ rest) := by
  cases s with
  | nil => simp [nextLexeme?] at h
  | cons c s =>
    by_cases hm : isMark c = true
    · obtain ⟨rfl, rfl⟩ : Lexeme.mark c = l ∧ s = t := by simpa [nextLexeme?, hm] using h
      exact ⟨List.suffix_cons c s, fun rest => by simp [nextLexeme?, hm]⟩
    by_cases hn : isNameStart c = true
    · -- The name ends within the text, since the last character is no part of a name.
      obtain ⟨rfl, rfl⟩ : Lexeme.name (c :: s.takeWhile isNamePart) = l ∧
          s.dropWhile isNamePart = t := by simpa [nextLexeme?, hm, hn] using h
      refine ⟨(List.dropWhile_suffix _).trans (List.suffix_cons c s), fun rest => ?_⟩
      have hw : ∀ d ∈ s.takeWhile isNamePart, isNamePart d = true :=
        fun d hd => List.mem_takeWhile_imp hd
      have hr : (s.dropWhile isNamePart ++ rest).takeWhile isNamePart = [] := by
        cases hd : s.dropWhile isNamePart with
        | nil =>
          obtain ⟨d, hd', hp⟩ := exists_stop_of_plain hs (List.cons_ne_nil c s)
          have hall := List.dropWhile_eq_nil_iff.1 hd
          rcases List.mem_cons.1 hd' with rfl | hd'
          · simp [isNamePart_of_isNameStart hn] at hp
          · simp [hall d hd'] at hp
        | cons d u =>
          have := List.head?_dropWhile_not isNamePart s
          simp_all
      have := nextLexeme?_name hn hw hr
      rwa [List.cons_append, ← List.append_assoc, List.takeWhile_append_dropWhile] at this
    · -- Nothing else begins a lexeme of a plain text.
      have hi : isIgnored c = true := by
        simp only [isPlain, List.all_cons, isStop, Bool.and_eq_true, Bool.or_eq_true] at hs
        tauto
      simp [nextLexeme?_eq_none (.inl hi)] at h

/-- **A plain text is cut apart** from what follows it. -/
theorem delimits_of_plain (h : isPlain s = true ∧ lexemes? s = some ls) : Delimits s ls := by
  obtain ⟨hs, hl⟩ := h
  intro rest
  fun_induction lexemes? s generalizing ls with
  | case1 => simp_all
  | case2 c s hc ih =>
    -- a character that means nothing
    rw [List.cons_append, lexemes?_of_isIgnored hc]
    exact ih (isPlain_of_suffix hs (List.suffix_cons c s)) hl
  | case3 =>
    -- a comment, which no plain text holds
    simp [isPlain, isStop, isMark, isIgnored, isNameStart] at hs
  | case4 => simp at hl
  | case5 c s _ _ l t h ih =>
    -- a lexeme, which ends at the same place whatever follows
    obtain ⟨hst, ha⟩ := nextLexeme?_append_of_plain hs h
    obtain ⟨ms, hms, rfl⟩ := Option.map_eq_some_iff.1 hl
    rw [lexemes?_of_nextLexeme? (ha rest), ih (isPlain_of_suffix hs hst) hms, Option.map_map]
    rfl

end Storefront.Query
