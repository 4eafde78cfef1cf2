import Storefront.Error
import Storefront.Number.Fixed
import Storefront.Query.Predicate

/-!
# Compiled queries

A search becomes one query document: the way of scoring with only the inputs that it scores with,
the predicate if there is one, the limit, and the fields of a record.

## Main definitions

* `SearchClause`: the ways of scoring
* `CompiledQuery`, `CompiledQuery.text`: the parts of a query, and its document
* `usableVector?`: a vector that can be scored with
* `compile`: the query of a search
-/

namespace Storefront

open Query

/-- **A way of scoring** with the inputs it takes. -/
inductive SearchClause where
  /-- By the keywords of a text. -/
  | bm25 (query : String)
  /-- By the distance from a vector. -/
  | nearVector (vector : List Single)
  /-- By the keywords of a text, and by the distance from a vector if there is one. -/
  | hybrid (query : String) (vector : Option (List Single))
  deriving DecidableEq

namespace SearchClause

/-- How many decimals the components of a vector are written with. -/
def vectorPlaces : Nat := 6

/-- The text of a vector. -/
def renderVector (v : List Single) : List Char :=
  '[' :: ((", ".toList).intercalate (v.map (Binary.fixed vectorPlaces)) ++ [']'])

/-- The text of a clause. -/
def render : SearchClause → List Char
  | .bm25 query => "bm25: ".toList ++ braced ("query: ".toList ++ quote query.toList)
  | .nearVector vector => "nearVector: ".toList ++ braced ("vector: ".toList ++ renderVector vector)
  | .hybrid query vector =>
    "hybrid: ".toList ++ braced ("query: ".toList ++ quote query.toList ++
      match vector with
      | some v => ", vector: ".toList ++ renderVector v
      | none => [])

end SearchClause

/-- Lines between braces, which stand further in than those around them. -/
def Query.block (indent : Nat) (s : List Char) : List Char :=
  '{' :: '\n' :: (List.replicate (indent + 2) ' ' ++ s ++
    '\n' :: (List.replicate indent ' ' ++ ['}']))

/-- The parts of a query. -/
structure CompiledQuery where
  /-- The class of the records. -/
  className : String
  /-- The mode that the query was compiled for. -/
  mode : Mode
  /-- The way of scoring. -/
  search : SearchClause
  /-- The condition on records. -/
  filter : Option Predicate
  /-- How many records are wanted. -/
  limit : Nat

namespace CompiledQuery

/-- The fields of a record that a query selects. -/
def recordFields : List (List Char) :=
  ["name", "brand", "color", "category", "price", "description"].map String.toList

/-- The field of what a record was scored with. -/
def additionalName : List Char := "_additional".toList

/-- What a query selects of the scoring. -/
def scoringFields : List (List Char) := ["score", "distance"].map String.toList

/-- The arguments of a query, each on a line. -/
def renderArguments (q : CompiledQuery) : List Char :=
  "(\n      ".toList ++ q.search.render ++ ['\n'] ++
    (match q.filter with
      | some p => "      where: ".toList ++ p.render ++ ['\n']
      | none => []) ++
    "      limit: ".toList ++ Nat.toDigits 10 q.limit ++ "\n    ) ".toList

/-- The fields that a query selects, those of a record on one line and those of the scoring on the
next. -/
def renderFields : List Char :=
  [' '].intercalate recordFields ++ "\n      ".toList ++ additionalName ++ [' '] ++
    braced ([' '].intercalate scoringFields)

/-- The characters of the document. -/
def render (q : CompiledQuery) : List Char :=
  block 0 ("Get ".toList ++
    block 2 (q.className.toList ++ q.renderArguments ++ block 4 renderFields))

/-- **The document of a query.** -/
def text (q : CompiledQuery) : String := String.ofList q.render

end CompiledQuery

/-- A vector that can be scored with; an empty one counts as none. -/
def usableVector? : Option (List Single) → Option (List Single)
  | some [] => none
  | v => v

/-- **The query of a search.** A vector that is not finite throughout is refused in every mode;
scoring by vector alone needs a vector; and only the filtered mode has a condition. -/
def compile (className searchText : String) (mode : Mode) (vector : Option (List Single))
    (filters : Filters) (limit : Nat) : Except SearchError CompiledQuery :=
  if vector.any fun v => v.any fun x => !x.isFinite then
    .error (.invalidRequest "Query vector contains a non-finite value.")
  else
    -- From here on an empty vector is the same as none.
    let vector := usableVector? vector
    let query (search : SearchClause) (filter : Option Predicate) : CompiledQuery :=
      { className, mode, search, filter, limit }
    match mode with
    | .lexical => .ok (query (.bm25 searchText) none)
    | .vector =>
      match vector with
      | some v => .ok (query (.nearVector v) none)
      | none => .error .missingVector
    | .hybrid => .ok (query (.hybrid searchText vector) none)
    | .hybridFiltered =>
      .ok (query (.hybrid searchText vector) (Predicate.ofFilters? filters))

end Storefront
