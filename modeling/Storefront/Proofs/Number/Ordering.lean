import Mathlib
import Storefront.Number.Binary

/-!
# The order of binary values

A value that is a number has a place on one line: the infinities are its ends, and between them
stand the signed numbers of units. Comparing values is comparing places, so the order of the values
has the laws of the order on the line, except that what is not a number compares with nothing.

## Main definitions

* `Binary.rank?`: the place of a value on the line
* `Binary.IsAtLeast`: one value has a place at another's or above

## Main results

* `atLeast_iff`: the test compares places
* `IsAtLeast.trans`: the order is transitive
-/

namespace Storefront.Binary

variable {f : Format} {x y z : Binary f}

/-- **The place of a value** among the whole numbers of units and two ends. Both zeros have the same
place, and what is not a number has none. -/
def rank? : Binary f → Option (WithBot (WithTop Int))
  | .nan _ => none
  | .infinite true => some ⊥
  | .infinite false => some ⊤
  | .finite negative units _ => some ((signedUnits negative units : WithTop Int))

/-- One value is another or above: both have a place, and they stand in that order. -/
def IsAtLeast (x y : Binary f) : Prop := ∃ a b, x.rank? = some a ∧ y.rank? = some b ∧ b ≤ a

/-- **The test compares places.** -/
theorem atLeast_iff : x.atLeast y = true ↔ x.IsAtLeast y := by
  unfold IsAtLeast
  cases x with
  | nan n => simp [atLeast, rank?]
  | infinite n =>
    cases y with
    | nan m => cases n <;> simp [atLeast, rank?]
    | infinite m => cases n <;> cases m <;> simp [atLeast, rank?]
    | finite m units hm => cases n <;> simp [atLeast, rank?]
  | finite n units hn =>
    cases y with
    | nan m => simp [atLeast, rank?]
    | infinite m => cases m <;> simp [atLeast, rank?]
    | finite m units' hm => simp [atLeast, rank?]

theorem IsAtLeast.trans (h : x.IsAtLeast y) (h' : y.IsAtLeast z) : x.IsAtLeast z := by
  obtain ⟨a, b, ha, hb, hab⟩ := h
  obtain ⟨b', c, hb', hc, hbc⟩ := h'
  obtain rfl := Option.some.inj (hb.symm.trans hb')
  exact ⟨a, c, ha, hc, hbc.trans hab⟩

/-- What is not a number is above nothing. -/
theorem not_isAtLeast_nan (negative : Bool) (y : Binary f) : ¬ (nan negative).IsAtLeast y := by
  rintro ⟨a, b, ha, -⟩
  cases ha

end Storefront.Binary
