import Storefront.Error
import Storefront.Json.Printer
import Storefront.Record
import Storefront.Text.Blank

/-!
# Executions

What a backend answers to a query: records under the name of the class, and errors beside them.

## Main definitions

* `Execution`: the records and the errors of an answer
* `queryErrors`: the errors that an answer lists
* `numeric?`: a number, or a text that spells one
* `RankedRecord.ofRow?`: the record of a row
* `Execution.ofBody`: the execution of an answer
-/

namespace Storefront

open Json

/-- The records of an answer, and the errors beside them. -/
structure Execution where
  /-- The records, in the order of the backend. -/
  records : List RankedRecord
  /-- The errors that the backend lists. -/
  rawErrors : List String
  deriving DecidableEq

/-- The text of an error: its message, or else all of it. -/
def queryError (error : Json) : String :=
  match (error.get? "message").bind text? with
  | some message => message
  | none => error.compress

/-- **The errors that an answer lists.** -/
def queryErrors (body : Json) : List String :=
  match (body.get? "errors").bind items? with
  | some errors => errors.map queryError
  | none => []

/-- **A number, or a text that spells one** but for white space around it. -/
def numeric? : Json → Option Double
  | .number n => some n.toDouble
  | .text s => Binary.ofText? .double (Text.trim s.toList)
  | _ => none

/-- A text member, and the empty text where there is none. -/
def textMember (members : List (String × Json)) (key : String) : String :=
  ((members.lookup key).bind text?).getD ""

/-- The relevance of a row: the score if it is a number, and else the distance. -/
def rowRelevance? (members : List (String × Json)) : Option Relevance :=
  let additional (key : String) : Option Double :=
    ((members.lookup "_additional").bind (get? key)).bind numeric?
  match additional "score" with
  | some x => some (.score (x.convert .single))
  | none => (additional "distance").map fun x => .distance (x.convert .single)

/-- **The record of a row**, which must be an object; what is not usable in it is left out. -/
def RankedRecord.ofRow? : Json → Option RankedRecord
  | .object members => some {
      product := {
        name := textMember members "name"
        brand := textMember members "brand"
        color := textMember members "color"
        category := textMember members "category"
        price := (members.lookup "price").bind numeric?
        description := textMember members "description" }
      relevance := rowRelevance? members }
  | _ => none

namespace Execution

/-- What an answer holds for a class. -/
def rows? (body : Json) (className : String) : Option Json :=
  ((body.get? "data").bind (get? "Get")).bind (get? className)

/-- **The execution of an answer.** No rows are no records; rows that are no list, and a row that is
no object, are errors of the query. -/
def ofBody (body : Json) (className : String) : Except SearchError Execution :=
  match rows? body className with
  | none | some .null => .ok { records := [], rawErrors := queryErrors body }
  | some (.array rows) =>
    match rows.mapM RankedRecord.ofRow? with
    | some records => .ok { records, rawErrors := queryErrors body }
    | none => .error (.backendQueryError "Result record is not an object.")
  | some _ => .error (.backendQueryError ("Result for class " ++ className ++ " is not a list."))

end Execution

end Storefront
