import Storefront.Json.Decode

/-!
# Ranked records

The records that a backend returns, with what it says about their relevance, and their JSON form.

## Main definitions

* `Product`, `Relevance`, `RankedRecord`: a product, and a record of one with its relevance
* `RankedRecord.score?`: the normalized score of a record
* `RankedRecord.encode`, `RankedRecord.decode`: the JSON form, and reading it

## Main results

* `score?_eq_some`: a record has the score that its relevance is
-/

namespace Storefront

/-- What a shop offers. -/
structure Product where
  /-- The name. -/
  name : String := ""
  /-- The brand. -/
  brand : String := ""
  /-- The color. -/
  color : String := ""
  /-- The category. -/
  category : String := ""
  /-- The price, if it is known. -/
  price : Option Double := none
  /-- The description. -/
  description : String := ""
  deriving DecidableEq

/-- What a backend says about relevance. -/
inductive Relevance where
  /-- A normalized score; higher is better. -/
  | score (value : Single)
  /-- A distance; lower is better. -/
  | distance (value : Single)
  deriving DecidableEq

/-- **A product in the order of a backend**, with its relevance. -/
structure RankedRecord where
  /-- The product. -/
  product : Product
  /-- What the backend says about its relevance. -/
  relevance : Option Relevance
  deriving DecidableEq

namespace RankedRecord

/-- The normalized score of a record; a distance is none. -/
def score? (r : RankedRecord) : Option Single :=
  match r.relevance with
  | some (.score value) => some value
  | _ => none

theorem score?_eq_some {r : RankedRecord} {x : Single} :
    r.score? = some x ↔ r.relevance = some (.score x) := by
  unfold score?
  split
  · next h => simp [h]
  · next h => exact ⟨fun e => by simp at e, fun e => (h x e).elim⟩

end RankedRecord

/-! ## JSON form -/

/-- The JSON form of a relevance: its kind and its value. -/
def Relevance.encode : Relevance → Json
  | .score x => .object [("kind", .text "score"), ("value", .ofNumber (.single x))]
  | .distance x => .object [("kind", .text "distance"), ("value", .ofNumber (.single x))]

/-- The kind of a relevance by its name. -/
def Relevance.ofKind? (name : String) : Option (Single → Relevance) :=
  if name = "score" then some .score else if name = "distance" then some .distance else none

open Json in
/-- **Reading a relevance**: a kind and a number. In an array the kind can only be a text. -/
def Relevance.decode : Decoder Relevance := fun r => do
  let decodeKind : Decoder (Single → Relevance) := match r with
    | .array .. => .named ofKind?
    | _ => .choice ofKind?
  let found ← fields [.of "kind" .required decodeKind, .of "value" .required Decoder.single] r
  let kind ← found.required "kind" decodeKind
  return kind (← found.required "value" .single)

namespace RankedRecord

/-- The JSON form of a record: the product and its relevance in one object. -/
def encode (r : RankedRecord) : Json :=
  .object [
    ("brand", .text r.product.brand),
    ("category", .text r.product.category),
    ("color", .text r.product.color),
    ("description", .text r.product.description),
    ("name", .text r.product.name),
    ("price", (r.product.price.map fun x => .ofNumber (.double x)).getD .null),
    ("relevance", (r.relevance.map Relevance.encode).getD .null)]

open Json in
/-- The fields of a record. Texts are empty where they are missing, but not null. -/
def spec : List Field :=
  [.of "name" .defaulted Decoder.text, .of "brand" .defaulted Decoder.text,
    .of "color" .defaulted Decoder.text, .of "category" .defaulted Decoder.text,
    .of "price" .defaulted Decoder.double.nullable, .of "description" .defaulted Decoder.text,
    .of "relevance" .defaulted Relevance.decode.nullable]

open Json in
/-- **Reading a record** from an object; an array is none. -/
def decode : Decoder RankedRecord
  | .array .. => .error .mismatched
  | r => do
    let found ← fields spec r
    let product : Product := {
      name := ← found.defaulted "name" .text ""
      brand := ← found.defaulted "brand" .text ""
      color := ← found.defaulted "color" .text ""
      category := ← found.defaulted "category" .text ""
      price := ← found.optional "price" .double
      description := ← found.defaulted "description" .text "" }
    return { product, relevance := ← found.optional "relevance" Relevance.decode }

end RankedRecord

end Storefront
