import Storefront.Query.Predicate
import Storefront.Record

/-!
# Products that meet a condition

What a predicate means on the products of a shop, apart from how it is written: a price is compared
as a number, strictly, and a text must be equal. A product without a price is below no bound.

## Main definitions

* `FilterField.number?`, `FilterField.text?`: the values of a product that conditions are about
* `Predicate.Accepts`: a product meets a condition; an absent condition is met by all

## Main results

* `accepts_and`: a product meets a conjunction when it meets all of its operands
* `acceptsAll_iff_leaves`: the comparisons of conditions decide which products meet them
-/

namespace Storefront

namespace FilterField

/-- The number of a product in a field. -/
def number? (p : Product) : FilterField → Option Double
  | .price => p.price
  | .color | .category => none

/-- The text of a product in a field. -/
def text? (p : Product) : FilterField → Option String
  | .price => none
  | .color => some p.color
  | .category => some p.category

end FilterField

namespace Predicate

mutual

/-- **A product meets a condition.** -/
def Accepts (p : Product) : Predicate → Prop
  | .and operands => AcceptsAll p operands
  | .lessThan field bound => ∃ x, field.number? p = some x ∧ x.below (.ofInt .double bound) = true
  | .equal field value => field.text? p = some value

/-- A product meets all of the conditions. -/
def AcceptsAll (p : Product) : List Predicate → Prop
  | [] => True
  | q :: rest => Accepts p q ∧ AcceptsAll p rest

end

/-- An absent condition is met by all products. -/
def AcceptsIfAny (p : Product) (q : Option Predicate) : Prop := ∀ c ∈ q, Accepts p c

theorem acceptsAll_iff {p : Product} {qs : List Predicate} :
    AcceptsAll p qs ↔ ∀ q ∈ qs, Accepts p q := by
  induction qs with
  | nil => simp [AcceptsAll]
  | cons q rest ih => simp [AcceptsAll, ih]

/-- A product meets a conjunction when it meets all of its operands. -/
@[simp] theorem accepts_and {p : Product} {qs : List Predicate} :
    Accepts p (.and qs) ↔ ∀ q ∈ qs, Accepts p q := by
  rw [Accepts, acceptsAll_iff]

mutual

/-- A product meets a condition when it meets its comparisons. -/
theorem accepts_iff_leaves {p : Product} :
    (q : Predicate) → (Accepts p q ↔ ∀ c ∈ q.leaves, Accepts p c)
  | .and operands => by rw [Accepts, leaves]; exact acceptsAll_iff_leaves operands
  | .lessThan .. => by simp [leaves]
  | .equal .. => by simp [leaves]

/-- The comparisons of conditions decide which products meet them. -/
theorem acceptsAll_iff_leaves {p : Product} :
    (qs : List Predicate) → (AcceptsAll p qs ↔ ∀ c ∈ leavesOf qs, Accepts p c)
  | [] => by simp [AcceptsAll, leavesOf]
  | q :: rest => by
    rw [AcceptsAll, leavesOf, accepts_iff_leaves q, acceptsAll_iff_leaves rest]
    simp [or_imp, forall_and]

end

example : Accepts { price := some (.ofInt .double 69), color := "Blue" }
    (.and [.lessThan .price 70, .equal .color "Blue"]) :=
  accepts_and.2 fun q hq => by
    rcases List.mem_cons.1 hq with rfl | hq
    · exact ⟨_, rfl, by decide +kernel⟩
    · obtain rfl := List.mem_singleton.1 hq
      rfl

end Predicate

end Storefront
