import Storefront.Filters
import Storefront.Query.Literal
import Storefront.Text.Blank

/-!
# Filter predicates

The conditions on records that a filtered query carries: a tree of comparisons under conjunctions.

## Main definitions

* `FilterField`, `Predicate`: what conditions are about, and the conditions
* `Predicate.leaves`: the comparisons of a tree, in order
* `Predicate.ofFilters?`: the predicate of filters, in normal form
* `Query.braced`: a text between braces
* `Predicate.render`: the text of a predicate in the query language

## Main results

* `leaves_ofFilters?`: the comparisons are those of the present constraints
-/

namespace Storefront

open Query Text

/-- What a condition is about. -/
inductive FilterField where
  /-- The price of a record. -/
  | price
  /-- The color of a record. -/
  | color
  /-- The category of a record. -/
  | category
  deriving DecidableEq, Repr

/-- The name of a field. -/
def FilterField.name : FilterField → String
  | .price => "price"
  | .color => "color"
  | .category => "category"

/-- **A condition on records.** -/
inductive Predicate where
  /-- All of the conditions hold. -/
  | and (operands : List Predicate)
  /-- The number in the field is below the bound. -/
  | lessThan (field : FilterField) (bound : Nat)
  /-- The text in the field is the given one. -/
  | equal (field : FilterField) (value : String)
  deriving Repr

namespace Predicate

mutual

/-- The comparisons of a condition, in order. -/
def leaves : Predicate → List Predicate
  | .and operands => leavesOf operands
  | .lessThan field bound => [.lessThan field bound]
  | .equal field value => [.equal field value]

/-- The comparisons of several conditions, in order. -/
def leavesOf : List Predicate → List Predicate
  | [] => []
  | p :: rest => leaves p ++ leavesOf rest

end

/-- The text of a constraint, trimmed; a blank one constrains nothing. -/
def constraintText? (s : Option String) : Option String :=
  (s.map trimText).filter fun t => t ≠ ""

/-- The comparisons of the present constraints, in the order price, color, category. -/
def comparisons (f : Filters) : List Predicate :=
  (f.price.map (lessThan .price)).toList ++
    ((constraintText? f.color).map (equal .color)).toList ++
    ((constraintText? f.category).map (equal .category)).toList

/-- The conjunction of comparisons: none for none, the comparison itself for one. -/
def conjunction? : List Predicate → Option Predicate
  | [] => none
  | [p] => some p
  | ps => some (.and ps)

/-- **The predicate of filters.** -/
def ofFilters? (f : Filters) : Option Predicate := conjunction? (comparisons f)

/-- The comparisons of filters are leaves. -/
theorem leavesOf_comparisons (f : Filters) : leavesOf (comparisons f) = comparisons f := by
  cases h₁ : f.price <;> cases h₂ : constraintText? f.color <;>
    cases h₃ : constraintText? f.category <;> simp [comparisons, leavesOf, leaves, h₁, h₂, h₃]

/-- The comparisons of the predicate are those of the present constraints. -/
theorem leaves_ofFilters? (f : Filters) :
    ((ofFilters? f).map leaves).getD [] = comparisons f := by
  rw [← leavesOf_comparisons f]
  unfold ofFilters?
  match comparisons f with
  | [] => rfl
  | [p] => simp [conjunction?, leavesOf]
  | _ :: _ :: _ => simp [conjunction?, leaves]

end Predicate

/-! ## Text -/

/-- A text between braces, with a space inside of each. -/
def Query.braced (s : List Char) : List Char := '{' :: ' ' :: (s ++ [' ', '}'])

namespace Predicate

/-- The path of a field in the query language. -/
def renderPath (field : FilterField) : List Char :=
  "path: [".toList ++ quote field.name.toList ++ [']']

mutual

/-- **The text of a condition** in the query language. -/
def render : Predicate → List Char
  | .and operands =>
    braced ("operator: And, operands: [".toList ++ renderAll operands ++ [']'])
  | .lessThan field bound =>
    braced (renderPath field ++ ", operator: LessThan, valueNumber: ".toList ++
      Nat.toDigits 10 bound)
  | .equal field value =>
    braced (renderPath field ++ ", operator: Equal, valueText: ".toList ++ quote value.toList)

/-- The texts of conditions with commas between them. -/
def renderAll : List Predicate → List Char
  | [] => []
  | [p] => render p
  | p :: rest => render p ++ ", ".toList ++ renderAll rest

end

end Predicate

end Storefront
