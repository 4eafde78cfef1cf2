import Storefront.Api.MediaType
import Storefront.Service

/-!
# Bodies

The bodies of search requests and of their answers.

## Main definitions

* `Rejection`, `Rejection.message`: why a body is not taken
* `readBody`: what a body holds
* `SearchRequest.decode`, `RawSearchRequest.decode`: reading requests
* `SearchResponse.encode`: writing answers
-/

namespace Storefront

open Json

/-! ## Requests -/

/-- Reading a search as a shopper asks for it. -/
def SearchRequest.decode : Decoder SearchRequest := fun r => do
  let found ← fields
    [.of "query" .required Decoder.text, .of "mode" .required Toggle.decode,
      .of "limit" .optional (Decoder.unsigned 32).nullable] r
  return {
    query := ← found.required "query" .text
    toggle := ← found.required "mode" Toggle.decode
    limit := ← found.optional "limit" (.unsigned 32) }

/-- Reading a search that names its mode and its filters. -/
def RawSearchRequest.decode : Decoder RawSearchRequest := fun r => do
  let found ← fields
    [.of "query" .required Decoder.text, .of "mode" .required Decoder.text,
      .of "filters" .defaulted Filters.decode,
      .of "limit" .optional (Decoder.unsigned 32).nullable] r
  return {
    query := ← found.required "query" .text
    mode := ← found.required "mode" .text
    filters := ← found.defaulted "filters" Filters.decode {}
    limit := ← found.optional "limit" (.unsigned 32) }

namespace Api

/-- **The reason why a body is not taken.** -/
inductive Rejection where
  /-- Its type is not JSON. -/
  | mediaType
  /-- It is too large. -/
  | tooLarge
  /-- It is not JSON. -/
  | malformed
  /-- It is JSON, and not what is asked for. -/
  | mismatched
  deriving DecidableEq, Repr

/-- The sentence of a reason. -/
def Rejection.message : Rejection → String
  | .mediaType => "Expected request with `Content-Type: application/json`"
  | .tooLarge => "Failed to buffer the request body"
  | .malformed => "Failed to parse the request body as JSON"
  | .mismatched => "Failed to deserialize the JSON body into the target type"

/-- The reason that a fault of a text is. -/
def Rejection.ofFault : Fault → Rejection
  | .malformed => .malformed
  | .mismatched => .mismatched

/-- How many octets a body may have. -/
def maxBodySize : Nat := 2097152

/-- **What a body holds.** The type is looked at first, then the size, and then the text up to its
first problem. -/
def readBody {α : Type} (d : Decoder α) (contentType : Option String) (body : String) :
    Except Rejection α :=
  if !(contentType.bind MediaType.ofText?).any MediaType.isJson then .error .mediaType
  else if maxBodySize < body.utf8ByteSize then .error .tooLarge
  else
    let (reading, hasTail) := Reading.ofText body.toList
    match d reading with
    | .error fault => .error (.ofFault fault)
    | .ok a => if hasTail then .error .malformed else .ok a

end Api

/-! ## Answers -/

/-- The JSON form of what was extracted. -/
def Constraints.encode (c : Constraints) : Json :=
  .object [("clean_text", .text c.cleanText), ("color", .ofText? c.color),
    ("price_ceiling", (c.priceCeiling.map Json.ofNat).getD .null)]

/-- **The JSON form of an answer.** -/
def SearchResponse.encode (r : SearchResponse) : Json :=
  .object ((r.constraints.map fun c => ("constraints", c.encode)).toList ++ [
    ("errors", .array (r.errors.map .text)),
    ("filters", r.filters.encode),
    ("hidden", .array (r.records.hidden.map RankedRecord.encode)),
    ("hidden_count", .ofNat r.records.hidden.length),
    ("items", .array (r.records.visible.map RankedRecord.encode)),
    ("mode", .text r.mode.name),
    ("query", .text r.query),
    ("search_text", .text r.searchText),
    ("threshold", .ofNumber (.single r.threshold))])

end Storefront
