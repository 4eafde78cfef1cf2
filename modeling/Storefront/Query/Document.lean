import Storefront.Query.Compiled
import Storefront.Query.Lexeme

/-!
# Documents of the query language

A document selects fields, each with arguments and with fields of its own. The reader follows the
grammar of the language and knows nothing of how this library writes its queries, so that what a
compiled query says to others can be compared with what was compiled.

## Main definitions

* `Value`, `Selection`: the values of arguments, and the fields that are selected
* `readDocument?`: the selections of a document
* `Predicate.value`, `SearchClause.argument`, `CompiledQuery.selection`: what the parts of a
  compiled query mean in a document

## Main results

* `readValue?_text`, `readValue?_number`, `readValue?_name`: a lexeme with a value is a value
-/

namespace Storefront

namespace Query

/-- **A value** of an argument. -/
inductive Value where
  /-- A text. -/
  | text (s : List Char)
  /-- A number as it is written. -/
  | number (s : List Char)
  /-- A name. -/
  | name (s : List Char)
  /-- Values in order. -/
  | list (elements : List Value)
  /-- Values with names, in the order written. -/
  | object (members : List (List Char × Value))
  deriving Repr

/-- **A selected field**, with its arguments and the fields selected of it. -/
inductive Selection where
  /-- The field of a name. -/
  | field (name : List Char) (arguments : List (List Char × Value)) (selections : List Selection)
  deriving Repr

/-! ## Reading

Every reader takes lexemes from the front and gives back those that follow. The number bounds the
lexemes that are taken. -/

mutual

/-- A value. -/
def readValue? : Nat → List Lexeme → Option (Value × List Lexeme)
  | 0, _ => none
  | _ + 1, .text s :: rest => some (.text s, rest)
  | _ + 1, .number s :: rest => some (.number s, rest)
  | _ + 1, .name s :: rest => some (.name s, rest)
  | n + 1, .mark '[' :: rest => (readElements? n rest).map fun (vs, rest) => (.list vs, rest)
  | n + 1, .mark '{' :: rest =>
    (readMembers? n '}' rest).map fun (ms, rest) => (.object ms, rest)
  | _ + 1, _ => none

/-- The values of a list up to its end. -/
def readElements? : Nat → List Lexeme → Option (List Value × List Lexeme)
  | 0, _ => none
  | _ + 1, .mark ']' :: rest => some ([], rest)
  | n + 1, s => do
    let (v, s) ← readValue? n s
    let (vs, s) ← readElements? n s
    return (v :: vs, s)

/-- Values with names up to a closing mark. -/
def readMembers? : Nat → Char → List Lexeme → Option (List (List Char × Value) × List Lexeme)
  | 0, _, _ => none
  | n + 1, closing, .name k :: .mark ':' :: s => do
    let (v, s) ← readValue? n s
    let (ms, s) ← readMembers? n closing s
    return ((k, v) :: ms, s)
  | _ + 1, closing, .mark c :: rest => if c = closing then some ([], rest) else none
  | _ + 1, _, _ => none

end

/-- The arguments of a field, of which there is one at least if there are parentheses. -/
def readArguments? (n : Nat) : List Lexeme → Option (List (List Char × Value) × List Lexeme)
  | .mark '(' :: rest => (readMembers? n ')' rest).filter fun (ms, _) => !ms.isEmpty
  | s => some ([], s)

mutual

/-- Selected fields up to a closing brace. -/
def readSelections? : Nat → List Lexeme → Option (List Selection × List Lexeme)
  | 0, _ => none
  | n + 1, .name f :: s => do
    let (arguments, s) ← readArguments? n s
    let (inner, s) ← readInner? n s
    let (rest, s) ← readSelections? n s
    return (.field f arguments inner :: rest, s)
  | _ + 1, .mark '}' :: rest => some ([], rest)
  | _ + 1, _ => none

/-- The fields selected of a field, of which there is one at least if there are braces. -/
def readInner? : Nat → List Lexeme → Option (List Selection × List Lexeme)
  | 0, _ => none
  | n + 1, .mark '{' :: rest => (readSelections? n rest).filter fun (fs, _) => !fs.isEmpty
  | _ + 1, s => some ([], s)

end

/-- **The selections of a document** that is nothing but braces with selected fields. -/
def readDocument? (s : List Char) : Option (List Selection) := do
  let lexemes ← lexemes? s
  match readInner? (lexemes.length + 1) lexemes with
  | some (f :: fs, []) => some (f :: fs)
  | _ => none

/-- A text is a value. -/
@[simp] theorem readValue?_text (n : Nat) (s : List Char) (rest : List Lexeme) :
    readValue? (n + 1) (.text s :: rest) = some (.text s, rest) := by
  simp [readValue?]

/-- A number is a value. -/
@[simp] theorem readValue?_number (n : Nat) (s : List Char) (rest : List Lexeme) :
    readValue? (n + 1) (.number s :: rest) = some (.number s, rest) := by
  simp [readValue?]

/-- A name is a value. -/
@[simp] theorem readValue?_name (n : Nat) (s : List Char) (rest : List Lexeme) :
    readValue? (n + 1) (.name s :: rest) = some (.name s, rest) := by
  simp [readValue?]

example : (readDocument? r#"{a(b:"c"),d}"#.toList).isSome = true := by decide +kernel

end Query

open Query

/-! ## Meanings of compiled queries -/

mutual

/-- **The value of a condition**: its operator, and its operands or its path and its value. -/
def Predicate.value : Predicate → Value
  | .and operands => .object [("operator".toList, .name "And".toList),
      ("operands".toList, .list (Predicate.values operands))]
  | .lessThan field bound => .object [("path".toList, .list [.text field.name.toList]),
      ("operator".toList, .name "LessThan".toList),
      ("valueNumber".toList, .number (Nat.toDigits 10 bound))]
  | .equal field value => .object [("path".toList, .list [.text field.name.toList]),
      ("operator".toList, .name "Equal".toList), ("valueText".toList, .text value.toList)]

/-- The values of conditions. -/
def Predicate.values : List Predicate → List Value
  | [] => []
  | p :: rest => Predicate.value p :: Predicate.values rest

end

namespace SearchClause

/-- The value of a vector: the decimals of its components. -/
def vectorValue (v : List Single) : Value :=
  .list (v.map fun x => .number (x.fixed vectorPlaces))

/-- **The argument of a way of scoring.** -/
def argument : SearchClause → List Char × Value
  | .bm25 query => ("bm25".toList, .object [("query".toList, .text query.toList)])
  | .nearVector vector => ("nearVector".toList, .object [("vector".toList, vectorValue vector)])
  | .hybrid query vector => ("hybrid".toList, .object (("query".toList, .text query.toList) ::
      (vector.map fun v => ("vector".toList, vectorValue v)).toList))

end SearchClause

namespace CompiledQuery

/-- The arguments of a query: the way of scoring, the condition if there is one, and the limit. -/
def arguments (q : CompiledQuery) : List (List Char × Value) :=
  q.search.argument :: (q.filter.map fun p => ("where".toList, p.value)).toList ++
    [("limit".toList, .number (Nat.toDigits 10 q.limit))]

/-- A field that is selected with nothing of its own. -/
def bare (name : List Char) : Selection := .field name [] []

/-- **What a query selects**: of the one class the fields of a record, and what a record was scored
with. -/
def selection (q : CompiledQuery) : Selection :=
  .field "Get".toList [] [.field q.className.toList q.arguments
    (recordFields.map bare ++ [.field additionalName [] (scoringFields.map bare)])]

end CompiledQuery

end Storefront
