import Storefront.Config.Normal
import Storefront.Proofs.Query.Compilation
import Storefront.Proofs.Query.Lexing
import Storefront.Proofs.Query.Reading

/-!
# Compiled documents as lexemes

The text of a compiled query is cut into the lexemes that its selection is written with, whatever
text a shopper typed. It is written piece by piece, and no piece goes on into the next one: the
pieces that could are the class, the numbers and the literals, and what follows them is a mark or
white space.

## Main results

* `delimits_render`: the text of a condition is cut into the lexemes of its value
* `delimits_clause`: the text of a way of scoring is cut into the lexemes of its argument
* `delimits_document`: a document is cut into the lexemes of its selection
-/

namespace Storefront

open Query Text

variable {ms : List Lexeme} {t : List Char}

/-! ## Numbers -/

/-- The digits of a number have a zero in front for zero only. -/
theorem head?_toDigits_ne_zero {n : Nat} (h : 0 < n) : (Nat.toDigits 10 n).head? ≠ some '0' := by
  induction n using Nat.strongRecOn with
  | ind n ih =>
    by_cases hn : n < 10
    · -- one digit
      rw [Nat.toDigits_of_lt_base hn]
      have : ∀ d : Fin 10, 0 < d.val → [d.val.digitChar].head? ≠ some '0' := by decide
      exact this ⟨n, hn⟩ h
    · -- more digits: those of the tenth part come first
      have hq := ih (n / 10) (by omega) (by omega)
      obtain ⟨c, w, hw⟩ := List.exists_cons_of_ne_nil (Nat.toDigits_ne_nil (b := 10) (n := n / 10))
      rw [Nat.toDigits_of_base_le (by decide) (by omega), hw]
      simpa [hw] using hq

theorem isAsciiDigit_of_mem_toDigits {n : Nat} {c : Char} (h : c ∈ Nat.toDigits 10 n) :
    isAsciiDigit c = true :=
  Nat.isDigit_of_mem_toDigits (by decide) (by decide) h

theorem isWhole_toDigits (n : Nat) : IsWhole (Nat.toDigits 10 n) := by
  rcases Nat.eq_zero_or_pos n with rfl | h
  · exact .inl (Nat.toDigits_zero 10)
  · exact .inr ⟨Nat.toDigits_ne_nil, head?_toDigits_ne_zero h,
      fun _ => isAsciiDigit_of_mem_toDigits⟩

/-- A whole number in front of a text that no lexeme goes on into. -/
theorem Query.Delimits.digits (ht : Delimits t ms) (ha : startsApart t = true) (n : Nat) :
    Delimits (Nat.toDigits 10 n ++ t) (.number (Nat.toDigits 10 n) :: ms) := by
  simpa using ht.number ha (.inl rfl) (isWhole_toDigits n) (.inl rfl)

/-- A fixed decimal is a whole number, a point and digits. -/
theorem exists_layFixed (places n : Nat) :
    ∃ fraction, IsFraction fraction ∧
      layFixed places n = Nat.toDigits 10 (n / Nat.pow 10 places) ++ fraction := by
  refine ⟨_, .inr ⟨_, rfl, ?_, ?_⟩, rfl⟩
  · simp
  · -- zeros in front, and the digits of what is left
    intro c hc
    rcases List.mem_append.1 hc with hc | hc
    · rw [List.eq_of_mem_replicate hc]
      rfl
    · exact isAsciiDigit_of_mem_toDigits hc

/-- A fixed decimal in front of a text that no lexeme goes on into. -/
theorem Query.Delimits.fixed {f : Format} {x : Binary f} (ht : Delimits t ms)
    (ha : startsApart t = true) (hx : x.isFinite = true) (places : Nat) :
    Delimits (x.fixed places ++ t) (.number (x.fixed places) :: ms) := by
  cases x with
  | nan => simp [Binary.isFinite] at hx
  | infinite => simp [Binary.isFinite] at hx
  | finite negative units holds =>
    obtain ⟨fraction, hf, he⟩ := exists_layFixed places (Binary.lastPlaces f places units)
    have hs : (if negative then ['-'] else []) = [] ∨ (if negative then ['-'] else []) = ['-'] := by
      cases negative <;> simp
    have := ht.number ha hs
      (isWhole_toDigits (Binary.lastPlaces f places units / Nat.pow 10 places)) hf
    rwa [List.append_assoc _ _ fraction, ← he] at this

/-! ## The parts of a query -/

theorem delimits_open : Delimits ['{', ' '] [.mark '{'] :=
  delimits_of_plain (by decide +kernel)

theorem delimits_close : Delimits [' ', '}'] [.mark '}'] :=
  delimits_of_plain (by decide +kernel)

theorem delimits_bracket : Delimits [']'] [.mark ']'] :=
  delimits_of_plain (by decide +kernel)

theorem delimits_comma : Delimits ", ".toList [] :=
  delimits_of_plain (by decide +kernel)

theorem delimits_line : Delimits ['\n'] [] :=
  delimits_of_plain (by decide +kernel)

theorem delimits_spaces (n : Nat) : Delimits (List.replicate n ' ') [] := by
  have hspace : Delimits [' '] [] := delimits_of_plain (by decide +kernel)
  induction n with
  | zero => exact Delimits.nil
  | succ n ih => exact hspace.append ih

/-- What stands between braces is an object, if its last lexeme ends at the second one. -/
theorem Query.Delimits.object {members : List (List Char × Value)}
    (h : Delimits (t ++ [' ', '}']) (memberLexemes members ++ [.mark '}'])) :
    Delimits (braced t) (Value.object members).lexemes := by
  rw [Value.lexemes]
  exact delimits_open.append h

/-- The path of a condition. -/
theorem delimits_renderPath (field : FilterField) : Delimits (Predicate.renderPath field)
    (.name "path".toList :: .mark ':' :: (Value.list [.text field.name.toList]).lexemes) := by
  have hopen : Delimits "path: [".toList [.name "path".toList, .mark ':', .mark '['] :=
    delimits_of_plain (by decide +kernel)
  have := hopen.append (delimits_bracket.literal (by decide) field.name.toList)
  unfold Predicate.renderPath
  simpa only [Value.lexemes, elementLexemes, List.append_assoc, List.cons_append,
    List.nil_append] using this

/-- A comparison is the path of its field, an operator, and a value up to the closing brace. -/
theorem delimits_comparison (field : FilterField) {between value operator key : List Char}
    {v : Value}
    (hb : Delimits between
      [.name "operator".toList, .mark ':', .name operator, .name key, .mark ':'])
    (hv : Delimits (value ++ [' ', '}']) (v.lexemes ++ [.mark '}'])) :
    Delimits (braced (Predicate.renderPath field ++ between ++ value))
      (Value.object [("path".toList, .list [.text field.name.toList]),
        ("operator".toList, .name operator), (key, v)]).lexemes := by
  have hpath := (delimits_renderPath field).append (hb.append hv)
  refine Query.Delimits.object ?_
  simpa only [Value.lexemes, memberLexemes, List.append_assoc, List.cons_append,
    List.nil_append] using hpath

mutual

/-- **The text of a condition** is cut into the lexemes of its value. -/
theorem delimits_render : (p : Predicate) → Delimits p.render p.value.lexemes
  | .and operands => by
    have hopen : Delimits "operator: And, operands: [".toList [.name "operator".toList, .mark ':',
        .name "And".toList, .name "operands".toList, .mark ':', .mark '['] :=
      delimits_of_plain (by decide +kernel)
    have hlist := (hopen.append (delimits_renderAll operands)).append
      (delimits_bracket.append delimits_close)
    unfold Predicate.render Predicate.value
    refine Query.Delimits.object ?_
    simpa only [Value.lexemes, memberLexemes, List.append_assoc, List.cons_append,
      List.nil_append] using hlist
  | .lessThan field bound => by
    unfold Predicate.render Predicate.value
    refine delimits_comparison field (delimits_of_plain (by decide +kernel)) ?_
    simpa only [Value.lexemes, List.singleton_append] using
      delimits_close.digits (by decide) bound
  | .equal field value => by
    unfold Predicate.render Predicate.value
    refine delimits_comparison field (delimits_of_plain (by decide +kernel)) ?_
    simpa only [Value.lexemes, List.singleton_append] using
      delimits_close.literal (by decide) value.toList

/-- The texts of conditions are cut into the lexemes of their values. -/
theorem delimits_renderAll : (ps : List Predicate) →
    Delimits (Predicate.renderAll ps) (elementLexemes (Predicate.values ps))
  | [] => Delimits.nil
  | [p] => by
    unfold Predicate.renderAll
    simpa only [Predicate.values, elementLexemes, List.append_nil] using delimits_render p
  | p :: q :: rest => by
    have := ((delimits_render p).append delimits_comma).append (delimits_renderAll (q :: rest))
    unfold Predicate.renderAll
    simpa only [Predicate.values, elementLexemes, List.append_nil] using this

end

/-- The decimals of a vector with commas between them, up to the end of the list. -/
theorem delimits_decimals {v : List Single} (hv : ∀ x ∈ v, x.isFinite = true) :
    Delimits ((", ".toList).intercalate (v.map (Binary.fixed SearchClause.vectorPlaces)) ++ [']'])
      (elementLexemes (v.map fun x => .number (x.fixed SearchClause.vectorPlaces)) ++
        [.mark ']']) := by
  induction v with
  | nil => exact delimits_bracket
  | cons x v ih =>
    have hx := hv x (List.mem_cons_self ..)
    cases v with
    | nil => simpa [Value.lexemes, elementLexemes] using delimits_bracket.fixed (by decide) hx _
    | cons y v =>
      -- What follows a decimal begins with the comma, so the decimal ends there.
      have hrest := delimits_comma.append (ih fun z hz => hv z (List.mem_cons_of_mem _ hz))
      have := hrest.fixed (startsApart_append (by decide +kernel) _) hx SearchClause.vectorPlaces
      simpa [Value.lexemes, elementLexemes] using this

/-- **The text of a vector** is cut into the lexemes of its value. -/
theorem delimits_renderVector {v : List Single} (hv : ∀ x ∈ v, x.isFinite = true) :
    Delimits (SearchClause.renderVector v) (SearchClause.vectorValue v).lexemes := by
  have hopen : Delimits ['['] [.mark '['] :=
    delimits_of_plain (by decide +kernel)
  have := hopen.append (delimits_decimals hv)
  unfold SearchClause.renderVector SearchClause.vectorValue
  simpa only [Value.lexemes, List.cons_append, List.nil_append] using this

/-- A name and a colon in front of a value. -/
theorem Query.Delimits.member {name s : List Char} {v : Value}
    (h : Delimits s [.name name, .mark ':']) (hv : Delimits t v.lexemes) :
    Delimits (s ++ t) (memberLexemes [(name, v)]) := by
  simpa only [memberLexemes, List.append_nil, List.cons_append, List.nil_append] using h.append hv

/-- The text to search for, in front of what no lexeme goes on into. -/
theorem Query.Delimits.query (ht : Delimits t ms) (ha : startsApart t = true) (query : List Char) :
    Delimits ("query: ".toList ++ quote query ++ t)
      (.name "query".toList :: .mark ':' :: .text query :: ms) := by
  have hopen : Delimits "query: ".toList [.name "query".toList, .mark ':'] :=
    delimits_of_plain (by decide +kernel)
  simpa only [List.append_assoc, List.cons_append, List.nil_append] using
    hopen.append (ht.literal ha query)

/-- **The text of a way of scoring** is cut into its name and the lexemes of its value. -/
theorem delimits_clause {s : SearchClause} (hv : IsFiniteVector s.vector?) :
    Delimits s.render (memberLexemes [s.argument]) := by
  unfold SearchClause.render SearchClause.argument
  cases s with
  | bm25 query =>
    -- The name ends in digits, which are a piece of their own.
    have hcolon : Delimits ": ".toList [.mark ':'] := delimits_of_plain (by decide +kernel)
    have hname : "bm25: ".toList = "bm25".toList ++ ": ".toList := by decide +kernel
    have hopen : Delimits "bm25: ".toList [.name "bm25".toList, .mark ':'] := by
      rw [hname]
      exact hcolon.word (by decide +kernel) (by decide +kernel)
    refine hopen.member (Query.Delimits.object ?_)
    simpa only [Value.lexemes, memberLexemes, List.cons_append, List.nil_append] using
      delimits_close.query (by decide +kernel) query.toList
  | nearVector vector =>
    have hopen : Delimits "nearVector: ".toList [.name "nearVector".toList, .mark ':'] :=
      delimits_of_plain (by decide +kernel)
    have hvector : Delimits "vector: ".toList [.name "vector".toList, .mark ':'] :=
      delimits_of_plain (by decide +kernel)
    refine hopen.member (Query.Delimits.object ?_)
    exact (hvector.member (delimits_renderVector (hv vector rfl))).append delimits_close
  | hybrid query vector =>
    have hopen : Delimits "hybrid: ".toList [.name "hybrid".toList, .mark ':'] :=
      delimits_of_plain (by decide +kernel)
    refine hopen.member (Query.Delimits.object ?_)
    cases vector with
    | none =>
      simpa only [Value.lexemes, memberLexemes, List.append_nil, List.cons_append, List.nil_append,
        Option.map_none, Option.toList_none] using
        delimits_close.query (by decide +kernel) query.toList
    | some v =>
      have hvector : Delimits ", vector: ".toList [.name "vector".toList, .mark ':'] :=
        delimits_of_plain (by decide +kernel)
      have hrest := (hvector.member (delimits_renderVector (hv v rfl))).append delimits_close
      -- The text ends at the comma in front of the vector.
      have hapart : startsApart
          (", vector: ".toList ++ SearchClause.renderVector v ++ [' ', '}']) = true :=
        startsApart_append (startsApart_append (by decide +kernel) _) _
      simpa only [Value.lexemes, memberLexemes, List.append_assoc, List.cons_append,
        List.nil_append, Option.map_some, Option.toList_some] using
        hrest.query hapart query.toList

/-- The condition of a query, if there is one, is cut into its name and the lexemes of its value. -/
theorem delimits_where (q : CompiledQuery) :
    Delimits (match q.filter with
      | some p => "      where: ".toList ++ p.render ++ ['\n']
      | none => [])
      (memberLexemes (q.filter.map fun p => ("where".toList, p.value)).toList) := by
  have hopen : Delimits "      where: ".toList [.name "where".toList, .mark ':'] :=
    delimits_of_plain (by decide +kernel)
  cases q.filter with
  | none => exact Delimits.nil
  | some p =>
    have := (hopen.append (delimits_render p)).append delimits_line
    simpa only [memberLexemes, List.append_assoc, List.cons_append, List.nil_append,
      List.append_nil, Option.map_some, Option.toList_some] using this

theorem isName_of_isClassName {name : String} (h : isClassName name = true) :
    isName name.toList = true := by
  unfold isClassName at h
  split at h
  · next c rest heq =>
    simp only [Bool.and_eq_true] at h
    have hc : c.isAlpha = true := by
      change (c.isUpper || c.isLower) = true
      rw [h.1, Bool.true_or]
    rw [heq, isName, isNameStart, hc, Bool.true_or, Bool.true_and]
    simpa [isNamePart] using h.2
  · simp at h

theorem memberLexemes_append (ms ns : List (List Char × Value)) :
    memberLexemes (ms ++ ns) = memberLexemes ms ++ memberLexemes ns := by
  induction ms with
  | nil => rfl
  | cons m ms ih => simp [memberLexemes, ih]

/-- Lines between braces are the fields selected of a field, if there are any. -/
theorem Query.Delimits.block {fs : List Selection} (h : Delimits t (selectionLexemes fs))
    (hne : fs ≠ []) (indent : Nat) : Delimits (block indent t) (innerLexemes fs) := by
  obtain ⟨f, fs, rfl⟩ := List.exists_cons_of_ne_nil hne
  have hopen : Delimits ['{', '\n'] [.mark '{'] := delimits_of_plain (by decide +kernel)
  have hclose : Delimits ['}'] [.mark '}'] := delimits_of_plain (by decide +kernel)
  have := hopen.append (((delimits_spaces (indent + 2)).append h).append
    (delimits_line.append ((delimits_spaces indent).append hclose)))
  simpa only [Query.block, innerLexemes, selectionLexemes, List.append_assoc, List.cons_append,
    List.nil_append] using this

/-- A name, its arguments and the fields selected of it. -/
theorem Query.Delimits.field {name s : List Char} {arguments : List (List Char × Value)}
    {fs : List Selection} (hn : isName name = true) (ha : startsApart (s ++ t) = true)
    (hs : Delimits s (argumentLexemes arguments)) (ht : Delimits t (innerLexemes fs)) :
    Delimits (name ++ s ++ t) (selectionLexemes [.field name arguments fs]) := by
  simpa only [selectionLexemes, Selection.lexemes, List.append_assoc, List.append_nil] using
    (hs.append ht).word ha hn

/-- The arguments of a query are cut into those of its selection. -/
theorem delimits_renderArguments {q : CompiledQuery} (hv : IsFiniteVector q.search.vector?) :
    Delimits q.renderArguments (argumentLexemes q.arguments) := by
  have hopen : Delimits "(\n      ".toList [.mark '('] := delimits_of_plain (by decide +kernel)
  have hlimit : Delimits "      limit: ".toList [.name "limit".toList, .mark ':'] :=
    delimits_of_plain (by decide +kernel)
  have hclose : Delimits "\n    ) ".toList [.mark ')'] := delimits_of_plain (by decide +kernel)
  -- From the end: the limit, the condition, the way of scoring.
  have hbehind := hlimit.append (hclose.digits (by decide +kernel) q.limit)
  have := hopen.append (((delimits_clause hv).append delimits_line).append
    ((delimits_where q).append hbehind))
  unfold CompiledQuery.renderArguments CompiledQuery.arguments
  simp only [argumentLexemes, memberLexemes, memberLexemes_append, Value.lexemes,
    List.append_assoc, List.cons_append, List.nil_append, List.append_nil] at this ⊢
  exact this

theorem delimits_renderFields : Delimits CompiledQuery.renderFields
    (selectionLexemes (CompiledQuery.recordFields.map CompiledQuery.bare ++
      [.field CompiledQuery.additionalName []
        (CompiledQuery.scoringFields.map CompiledQuery.bare)])) :=
  delimits_of_plain (by decide +kernel)

/-- **The document of a query** is cut into the lexemes of its selection. -/
theorem delimits_document {q : CompiledQuery} (hc : isClassName q.className = true)
    (hv : IsFiniteVector q.search.vector?) :
    Delimits q.render (innerLexemes [q.selection]) := by
  have hget : "Get ".toList = "Get".toList ++ [' '] := by decide +kernel
  -- The class ends at the parenthesis of its arguments.
  have hclass := Query.Delimits.field (isName_of_isClassName hc) (startsApart_append rfl _)
    (delimits_renderArguments hv) (delimits_renderFields.block (by decide) 4)
  unfold CompiledQuery.render CompiledQuery.selection
  rw [hget]
  exact (Query.Delimits.field (by decide +kernel) rfl (delimits_spaces 1)
    (hclass.block (by simp) 2)).block (by simp) 0

end Storefront
