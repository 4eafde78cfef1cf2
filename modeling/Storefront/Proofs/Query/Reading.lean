import Storefront.Query.Document

/-!
# Reading what is written

The lexemes that values and selected fields are written with, and the readers on them. Every value
and every selection is read back from its lexemes, whatever follows, once the bound of the reader is
the number of lexemes that it takes: a reader spends one of its bound on each lexeme at most.

## Main definitions

* `Value.lexemes`, `Selection.lexemes`: how values and selected fields are written
* `innerLexemes`: selected fields between braces

## Main results

* `readValue?_lexemes`: a value is read back
* `readInner?_lexemes`: selected fields are read back
* `readDocument?_of_lexemes?`: a document is what its lexemes are written for
-/

namespace Storefront.Query

/-! ## Values -/

mutual

/-- **The lexemes of a value.** -/
def Value.lexemes : Value → List Lexeme
  | .text s => [.text s]
  | .number s => [.number s]
  | .name s => [.name s]
  | .list vs => .mark '[' :: (elementLexemes vs ++ [.mark ']'])
  | .object ms => .mark '{' :: (memberLexemes ms ++ [.mark '}'])

/-- The lexemes of values in order. -/
def elementLexemes : List Value → List Lexeme
  | [] => []
  | v :: vs => v.lexemes ++ elementLexemes vs

/-- The lexemes of values with names. -/
def memberLexemes : List (List Char × Value) → List Lexeme
  | [] => []
  | (k, v) :: ms => .name k :: .mark ':' :: (v.lexemes ++ memberLexemes ms)

end

/-- A value does not begin like the end of a list. -/
theorem Value.exists_lexemes_cons (v : Value) : ∃ l ls, v.lexemes = l :: ls ∧ l ≠ .mark ']' := by
  cases v <;> simp [Value.lexemes]

mutual

/-- **A value is read back** from its lexemes. -/
theorem readValue?_lexemes : (v : Value) → ∀ {n : Nat} (rest : List Lexeme),
    v.lexemes.length ≤ n → readValue? n (v.lexemes ++ rest) = some (v, rest)
  | .text s, n + 1, rest, _ => by simp [Value.lexemes]
  | .number s, n + 1, rest, _ => by simp [Value.lexemes]
  | .name s, n + 1, rest, _ => by simp [Value.lexemes]
  | .list vs, n + 1, rest, h => by
    have hn : (elementLexemes vs).length < n := by simp [Value.lexemes] at h; omega
    simp [Value.lexemes, readValue?, readElements?_lexemes vs rest hn]
  | .object ms, n + 1, rest, h => by
    have hn : (memberLexemes ms).length < n := by simp [Value.lexemes] at h; omega
    simp [Value.lexemes, readValue?, readMembers?_lexemes ms '}' rest hn]

/-- The values of a list are read back up to its end. -/
theorem readElements?_lexemes : (vs : List Value) → ∀ {n : Nat} (rest : List Lexeme),
    (elementLexemes vs).length < n →
      readElements? n (elementLexemes vs ++ .mark ']' :: rest) = some (vs, rest)
  | [], n + 1, rest, _ => by simp [elementLexemes, readElements?]
  | v :: vs, n + 1, rest, h => by
    have hn : (elementLexemes vs).length < n := by
      obtain ⟨l, ls, hl, -⟩ := v.exists_lexemes_cons
      simp [elementLexemes, hl] at h
      omega
    -- The first value is read in front of the others and of the end of the list ...
    have hv := readValue?_lexemes v (n := n) (elementLexemes vs ++ .mark ']' :: rest)
      (by simp [elementLexemes] at h; omega)
    -- ... and it is told from that end by its first lexeme.
    obtain ⟨l, ls, hl, hne⟩ := v.exists_lexemes_cons
    rw [hl, List.cons_append] at hv
    rw [elementLexemes, List.append_assoc, hl, List.cons_append]
    simp [readElements?, hne, hv, readElements?_lexemes vs rest hn]

/-- Values with names are read back up to a closing mark. -/
theorem readMembers?_lexemes : (ms : List (List Char × Value)) → ∀ (closing : Char),
    ∀ {n : Nat} (rest : List Lexeme), (memberLexemes ms).length < n →
      readMembers? n closing (memberLexemes ms ++ .mark closing :: rest) = some (ms, rest)
  | [], closing, n + 1, rest, _ => by simp [memberLexemes, readMembers?]
  | (k, v) :: ms, closing, n + 1, rest, h => by
    have hn : (memberLexemes ms).length < n := by simp [memberLexemes] at h; omega
    have hv : v.lexemes.length ≤ n := by simp [memberLexemes] at h; omega
    simp [memberLexemes, readMembers?, readValue?_lexemes v _ hv,
      readMembers?_lexemes ms closing rest hn]

end

/-! ## Selected fields -/

/-- The lexemes of the arguments of a field: none, or parentheses with one argument at least. -/
def argumentLexemes : List (List Char × Value) → List Lexeme
  | [] => []
  | ms => .mark '(' :: (memberLexemes ms ++ [.mark ')'])

mutual

/-- **The lexemes of a selected field.** -/
def Selection.lexemes : Selection → List Lexeme
  | .field name arguments selections =>
    .name name :: (argumentLexemes arguments ++ innerLexemes selections)

/-- The lexemes of selected fields in order. -/
def selectionLexemes : List Selection → List Lexeme
  | [] => []
  | f :: fs => f.lexemes ++ selectionLexemes fs

/-- The lexemes of the fields selected of a field: none, or braces with one field at least. -/
def innerLexemes : List Selection → List Lexeme
  | [] => []
  | f :: fs => .mark '{' :: (f.lexemes ++ selectionLexemes fs ++ [.mark '}'])

end

/-- The arguments of a field are read back, if what follows is no parenthesis. -/
theorem readArguments?_lexemes (ms : List (List Char × Value)) {n : Nat} {rest : List Lexeme}
    (hn : (argumentLexemes ms).length ≤ n) (hr : rest.head? ≠ some (.mark '(')) :
    readArguments? n (argumentLexemes ms ++ rest) = some (ms, rest) := by
  cases ms with
  | nil => cases rest <;> simp_all [argumentLexemes, readArguments?]
  | cons m ms =>
    have hm := readMembers?_lexemes (m :: ms) ')' rest (n := n)
      (by simp [argumentLexemes] at hn; omega)
    simp [argumentLexemes, readArguments?, hm]

/-- Nothing is selected of a field where no brace follows. -/
theorem readInner?_of_head?_ne {n : Nat} {s : List Lexeme} (h : s.head? ≠ some (.mark '{')) :
    readInner? (n + 1) s = some ([], s) := by
  unfold readInner?
  split
  · contradiction
  · simp at h
  · next heq => simp_all

/-- What follows the fields selected of a field is told from them by its first lexeme. -/
theorem innerLexemes_head? (fs : List Selection) (rest : List Lexeme) :
    (innerLexemes fs ++ rest).head? = some (.mark '{') ∨ innerLexemes fs = [] := by
  cases fs <;> simp [innerLexemes]

/-- A field begins with its name. -/
theorem selectionLexemes_head? (fs : List Selection) (rest : List Lexeme) :
    (∃ name, (selectionLexemes fs ++ .mark '}' :: rest).head? = some (.name name)) ∨
      (selectionLexemes fs ++ .mark '}' :: rest).head? = some (.mark '}') := by
  match fs with
  | [] => exact .inr rfl
  | .field name _ _ :: _ => exact .inl ⟨name, by simp [selectionLexemes, Selection.lexemes]⟩

mutual

/-- **Selected fields are read back** up to the closing brace. -/
theorem readSelections?_lexemes : (fs : List Selection) → ∀ {n : Nat} (rest : List Lexeme),
    (selectionLexemes fs).length < n →
      readSelections? n (selectionLexemes fs ++ .mark '}' :: rest) = some (fs, rest)
  | [], n + 1, rest, _ => by simp [selectionLexemes, readSelections?]
  | .field name arguments selections :: fs, n + 1, rest, h => by
    simp only [selectionLexemes, Selection.lexemes, List.length_append, List.length_cons] at h
    -- What follows begins with the name of the next field or with the closing brace.
    have hnext : (selectionLexemes fs ++ .mark '}' :: rest).head? ≠ some (.mark '{') ∧
        (selectionLexemes fs ++ .mark '}' :: rest).head? ≠ some (.mark '(') := by
      rcases selectionLexemes_head? fs rest with ⟨_, h⟩ | h
      · simp [h]
      · simp [h]
    have hi := readInner?_lexemes selections (n := n) (by omega) hnext.1
    have hparen : (innerLexemes selections ++
        (selectionLexemes fs ++ .mark '}' :: rest)).head? ≠ some (.mark '(') := by
      rcases innerLexemes_head? selections (selectionLexemes fs ++ .mark '}' :: rest) with h | h
      · simp [h]
      · simpa [h] using hnext.2
    have ha := readArguments?_lexemes arguments (n := n) (by omega) hparen
    have hs := readSelections?_lexemes fs (n := n) rest (by omega)
    simp [selectionLexemes, Selection.lexemes, readSelections?, ha, hi, hs]

/-- The fields selected of a field are read back, if what follows is no brace. -/
theorem readInner?_lexemes : (fs : List Selection) → ∀ {n : Nat} {rest : List Lexeme},
    (innerLexemes fs).length < n → rest.head? ≠ some (.mark '{') →
      readInner? n (innerLexemes fs ++ rest) = some (fs, rest)
  | [], n + 1, rest, _, hr => readInner?_of_head?_ne hr
  | f :: fs, n + 1, rest, h, _ => by
    have := readSelections?_lexemes (f :: fs) (n := n) rest
      (by simp [innerLexemes, selectionLexemes] at h ⊢; omega)
    simp only [selectionLexemes, List.append_assoc] at this
    simp [innerLexemes, readInner?, this]

end

/-- **A document is what its lexemes are written for.** -/
theorem readDocument?_of_lexemes? {s : List Char} {f : Selection} {fs : List Selection}
    (h : lexemes? s = some (innerLexemes (f :: fs))) : readDocument? s = some (f :: fs) := by
  have hnil : ([] : List Lexeme).head? ≠ some (.mark '{') := by simp
  have := readInner?_lexemes (f :: fs) (Nat.lt_succ_self _) hnil
  rw [List.append_nil] at this
  simp [readDocument?, h, this]

end Storefront.Query
