import Storefront.Proofs.Query.Compilation
import Storefront.Proofs.Query.Writing

/-!
# Compiled documents are read back

What a compiled query says to a reader of the query language is what was compiled, whatever text a
shopper typed: the one class, the one way of scoring with its text and its vector, the condition if
there is one, and the limit.

## Main definitions

* `Predicate.ofValue?`: the condition that a value states
* `Scoring`, `Scoring.ofArgument?`: the way of scoring that an argument states
* `Request`, `readRequest?`: what a document asks of a class

## Main results

* `Predicate.ofValue?_value`: a condition is read back from its value
* `Scoring.ofArgument?_argument`: a way of scoring is read back from its argument
* `readRequest?_text_of_compile`: a compiled document is read back as what was compiled
-/

namespace Storefront

open Query Text

/-! ## Values -/

namespace Query.Value

/-- The text that a value is. -/
def text? : Value → Option (List Char)
  | .text s => some s
  | _ => none

/-- The number that a value is, as it is written. -/
def number? : Value → Option (List Char)
  | .number s => some s
  | _ => none

/-- The numbers that a value lists, as they are written. -/
def numbers? : Value → Option (List (List Char))
  | .list vs => vs.mapM number?
  | _ => none

/-- The natural number that a value is. -/
def natural? (v : Value) : Option Nat := do
  let s ← v.number?
  if s.all isAsciiDigit then some (Nat.ofDigitChars 10 s 0) else none

/-- A natural number is read back from its digits. -/
@[simp] theorem natural?_toDigits (n : Nat) :
    natural? (.number (Nat.toDigits 10 n)) = some n := by
  have hall : (Nat.toDigits 10 n).all isAsciiDigit = true :=
    List.all_eq_true.2 fun _ => isAsciiDigit_of_mem_toDigits
  rw [natural?, number?, Option.bind_eq_bind, Option.bind_some, if_pos hall,
    Nat.ofDigitChars_ten_toDigits]

end Query.Value

/-! ## Conditions -/

/-- The field of a name. -/
def FilterField.ofName? (s : List Char) : Option FilterField :=
  [price, color, category].find? fun f => f.name.toList = s

@[simp] theorem FilterField.ofName?_name (f : FilterField) : ofName? f.name.toList = some f := by
  cases f <;> decide

namespace Predicate

/-- The comparison of a field with a value, of which the operator tells whether it is a number or a
text. -/
def ofComparison? (field operator key : List Char) (v : Value) : Option Predicate := do
  let field ← FilterField.ofName? field
  if operator = "LessThan".toList ∧ key = "valueNumber".toList then
    v.natural?.map (.lessThan field)
  else if operator = "Equal".toList ∧ key = "valueText".toList then
    v.text?.map fun s => .equal field (String.ofList s)
  else none

mutual

/-- **The condition that a value states.** -/
def ofValue? : Value → Option Predicate
  | .object [(k, .name operator), (l, .list operands)] =>
    if k = "operator".toList ∧ operator = "And".toList ∧ l = "operands".toList then
      (ofValues? operands).map .and
    else none
  | .object [(k, .list [.text field]), (l, .name operator), (key, v)] =>
    if k = "path".toList ∧ l = "operator".toList then ofComparison? field operator key v else none
  | _ => none

/-- The conditions that values state. -/
def ofValues? : List Value → Option (List Predicate)
  | [] => some []
  | v :: vs => do return (← ofValue? v) :: (← ofValues? vs)

end

mutual

/-- **A condition is read back** from its value. -/
theorem ofValue?_value : (p : Predicate) → ofValue? p.value = some p
  | .and operands => by simp [value, ofValue?, ofValues?_values operands]
  | .lessThan field bound => by simp [value, ofValue?, ofComparison?]
  | .equal field text => by simp [value, ofValue?, ofComparison?, Value.text?]

/-- Conditions are read back from their values. -/
theorem ofValues?_values : (ps : List Predicate) → ofValues? (values ps) = some ps
  | [] => by simp [values, ofValues?]
  | p :: ps => by simp [values, ofValues?, ofValue?_value p, ofValues?_values ps]

end

end Predicate

/-! ## Ways of scoring -/

/-- A way of scoring as a document states it, the components of a vector as they are written. -/
inductive Scoring where
  /-- By the keywords of a text. -/
  | bm25 (query : List Char)
  /-- By the distance from a vector. -/
  | nearVector (vector : List (List Char))
  /-- By the keywords of a text, and by the distance from a vector if there is one. -/
  | hybrid (query : List Char) (vector : Option (List (List Char)))
  deriving DecidableEq, Repr

/-- **The way of scoring that an argument states.** -/
def Scoring.ofArgument? : List Char × Value → Option Scoring
  | (name, .object [(k, v)]) =>
    if name = "bm25".toList ∧ k = "query".toList then v.text?.map .bm25
    else if name = "nearVector".toList ∧ k = "vector".toList then v.numbers?.map .nearVector
    else if name = "hybrid".toList ∧ k = "query".toList then v.text?.map (.hybrid · none)
    else none
  | (name, .object [(k, v), (l, u)]) =>
    if name = "hybrid".toList ∧ k = "query".toList ∧ l = "vector".toList then do
      return .hybrid (← v.text?) (some (← u.numbers?))
    else none
  | _ => none

namespace SearchClause

/-- The components of a vector as they are written, with six decimals each. -/
def decimals (v : List Single) : List (List Char) := v.map (Binary.fixed 6)

/-- What a way of scoring says in a document. -/
def scoring : SearchClause → Scoring
  | .bm25 query => .bm25 query.toList
  | .nearVector vector => .nearVector (decimals vector)
  | .hybrid query vector => .hybrid query.toList (vector.map decimals)

@[simp] theorem numbers?_vectorValue (v : List Single) :
    (vectorValue v).numbers? = some (decimals v) := by
  induction v with
  | nil => rfl
  | cons x v ih =>
    simp only [vectorValue, vectorPlaces, Value.numbers?, decimals, List.map_cons] at ih ⊢
    simp [List.mapM_cons, Value.number?, ih]

end SearchClause

/-- **A way of scoring is read back** from its argument. -/
theorem Scoring.ofArgument?_argument (s : SearchClause) :
    ofArgument? s.argument = some s.scoring := by
  unfold SearchClause.argument ofArgument? SearchClause.scoring
  cases s with
  | bm25 query => simp [Value.text?]
  | nearVector vector => simp
  | hybrid query vector => cases vector <;> simp [Value.text?]

/-! ## Requests -/

/-- **What a document asks for**: the records of one class. -/
structure Request where
  /-- The class of the records. -/
  className : List Char
  /-- The way of scoring. -/
  scoring : Scoring
  /-- The condition on records. -/
  condition : Option Predicate
  /-- How many records are wanted. -/
  limit : Nat
  /-- What is wanted of a record. -/
  fields : List Selection

namespace Request

/-- The condition and the limit that arguments state; there may be no condition. -/
def constraint? : List (List Char × Value) → Option (Option Predicate × Nat)
  | [(k, v)] => if k = "limit".toList then v.natural?.map (none, ·) else none
  | [(k, v), (l, u)] =>
    if k = "where".toList ∧ l = "limit".toList then do
      return (some (← Predicate.ofValue? v), ← u.natural?)
    else none
  | _ => none

/-- The request that a selected field is. -/
def ofSelection? : Selection → Option Request
  | .field get [] [.field className (argument :: arguments) fields] =>
    if get = "Get".toList then do
      let scoring ← Scoring.ofArgument? argument
      let (condition, limit) ← constraint? arguments
      return { className, scoring, condition, limit, fields }
    else none
  | _ => none

/-- What is wanted of every record: its own fields, and what it was scored with. -/
def recordSelections : List Selection :=
  [.field "name".toList [] [], .field "brand".toList [] [], .field "color".toList [] [],
    .field "category".toList [] [], .field "price".toList [] [], .field "description".toList [] [],
    .field "_additional".toList []
      [.field "score".toList [] [], .field "distance".toList [] []]]

theorem constraint?_arguments (condition : Option Predicate) (limit : Nat) :
    constraint? ((condition.map fun p => ("where".toList, p.value)).toList ++
      [("limit".toList, .number (Nat.toDigits 10 limit))]) = some (condition, limit) := by
  cases condition <;> simp [constraint?, Predicate.ofValue?_value]

/-- A request is read back from what it selects. -/
theorem ofSelection?_selection (q : CompiledQuery) : ofSelection? q.selection = some
    { className := q.className.toList
      scoring := q.search.scoring
      condition := q.filter
      limit := q.limit
      fields := recordSelections } := by
  have hs := Scoring.ofArgument?_argument q.search
  have hc := constraint?_arguments q.filter q.limit
  unfold CompiledQuery.selection CompiledQuery.arguments
  rw [List.cons_append, ofSelection?, if_pos rfl, hs, hc]
  rfl

end Request

/-- **The request of a document**, which selects one field and nothing else. -/
def readRequest? (s : List Char) : Option Request :=
  match readDocument? s with
  | some [f] => Request.ofSelection? f
  | _ => none

variable {className searchText : String} {mode : Mode} {vector : Option (List Single)}
  {filters : Filters} {limit : Nat} {q : CompiledQuery}

/-- **A compiled document is read back as what was compiled**, whatever the text holds: the reader
takes the whole document and finds one class with the scoring of the mode, its condition and the
limit. -/
theorem readRequest?_text_of_compile (hc : isClassName className = true)
    (h : compile className searchText mode vector filters limit = .ok q) :
    ∃ s, SearchClause.ofMode? searchText vector mode = some s ∧
      readRequest? q.text.toList = some
        { className := className.toList
          scoring := s.scoring
          condition := mode.condition? filters
          limit
          fields := Request.recordSelections } := by
  obtain ⟨hv, s, hs, rfl⟩ := compile_eq_ok_iff.1 h
  refine ⟨s, hs, ?_⟩
  -- The document is cut into the lexemes of its selection, from which the selection is read back.
  have hl := (delimits_document (q := ⟨className, mode, s, mode.condition? filters, limit⟩) hc
    (SearchClause.isFiniteVector_vector? hv hs)).lexemes?_eq
  have hd := readDocument?_of_lexemes? hl
  rw [CompiledQuery.text, String.toList_ofList, readRequest?, hd]
  exact Request.ofSelection?_selection _

/-- A text that would close its literal, its object and the arguments is read back as a text. -/
theorem readRequest?_text_of_closing_marks :
    isClassName "Product" = true ∧ ∃ q,
      compile "Product" r#"{{red" } ) } \"# .hybridFiltered (some [.ofInt .single 3])
        { price := some 70, color := some " Blue " } 5 = .ok q ∧
      readRequest? q.text.toList = some
        { className := "Product".toList
          scoring := .hybrid r#"{{red" } ) } \"#.toList (some ["3.000000".toList])
          condition := some (.and [.lessThan .price 70, .equal .color "Blue"])
          limit := 5
          fields := Request.recordSelections } := by
  have hv : IsFiniteVector (some [.ofInt .single 3]) := isFiniteVector_singleton (by decide +kernel)
  have hq : compile "Product" r#"{{red" } ) } \"# .hybridFiltered (some [.ofInt .single 3])
      { price := some 70, color := some " Blue " } 5 = .ok
        { className := "Product"
          mode := .hybridFiltered
          search := .hybrid r#"{{red" } ) } \"# (some [.ofInt .single 3])
          filter := Predicate.ofFilters? { price := some 70, color := some " Blue " }
          limit := 5 } := compile_hybrid hv rfl
  refine ⟨by decide, _, hq, ?_⟩
  obtain ⟨s, hs, hr⟩ := readRequest?_text_of_compile (by decide) hq
  obtain rfl := Option.some.inj hs
  have hn : Binary.fixed 6 (.ofInt .single 3) = "3.000000".toList := by
    decide +kernel
  have hb : trimText " Blue " = "Blue" := by decide +kernel
  rw [hr]
  simp [SearchClause.scoring, usableVector?, SearchClause.decimals, hn, Mode.condition?,
    Predicate.ofFilters?, Predicate.comparisons, Predicate.constraintText?, Predicate.conjunction?,
    hb]

end Storefront
