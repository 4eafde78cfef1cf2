import Storefront.Json.Decode

/-!
# Search filters

The constraints that a search may impose on records, and their JSON form.

## Main definitions

* `Filters`: the constraints; an absent one constrains nothing
* `Filters.encode`, `Filters.decode`: their JSON form, and reading it
-/

namespace Storefront

/-- The constraints on the records of a search. -/
structure Filters where
  /-- Records must be cheaper. -/
  price : Option Nat := none
  /-- Records must have this color. -/
  color : Option String := none
  /-- Records must be of this category. -/
  category : Option String := none
  deriving DecidableEq, Repr

namespace Filters

/-- No constraint is present. A blank text is present. -/
def isEmpty (f : Filters) : Bool := f.price.isNone && f.color.isNone && f.category.isNone

/-- The JSON form: only present constraints have members. -/
def encode (f : Filters) : Json :=
  .object ((f.category.map fun s => ("category", Json.text s)).toList ++
    (f.color.map fun s => ("color", Json.text s)).toList ++
    (f.price.map fun n => ("price", Json.ofNat n)).toList)

open Json in
/-- The fields of the JSON form. -/
def spec : List Field :=
  [.of "price" .defaulted (Decoder.unsigned 32).nullable,
    .of "color" .defaulted Decoder.text.nullable, .of "category" .defaulted Decoder.text.nullable]

open Json in
/-- **Reading the JSON form.** -/
def decode : Decoder Filters := fun r => do
  let found ← fields spec r
  return {
    price := ← found.optional "price" (.unsigned 32)
    color := ← found.optional "color" .text
    category := ← found.optional "category" .text }

end Filters

end Storefront
