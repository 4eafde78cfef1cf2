import Storefront.Http.Error
import Storefront.Mode

/-!
# Search errors

Why a search fails, and the sentence that says so.

## Main definitions

* `SearchError`, `SearchError.message`: the reasons and their sentences
* `SearchError.ofUnknownMode`: a mode name that is none
* `SearchError.ofBackend`, `SearchError.ofEmbedding`: a call that failed
* `SearchError.status`, `SearchError.code`: how an error is answered over HTTP

## Main results

* `ofBackend_status`: only a refusal of the query is an error of the query
-/

namespace Storefront

/-- The reason why a search fails. -/
inductive SearchError where
  /-- The mode has no such name. -/
  | invalidMode (detail : String)
  /-- Scoring by vector needs a vector. -/
  | missingVector
  /-- The request cannot be served. -/
  | invalidRequest (detail : String)
  /-- The configuration cannot be used. -/
  | invalidConfig (detail : String)
  /-- The search text has no embedding. -/
  | embeddingUnavailable (detail : String)
  /-- The backend gave no usable answer. -/
  | backendUnavailable (detail : String)
  /-- The backend refused the query, or its answer has the wrong form. -/
  | backendQueryError (detail : String)
  deriving DecidableEq, Repr

namespace SearchError

/-- The sentence of an error. -/
def message : SearchError → String
  | .invalidMode detail => "Invalid mode: " ++ detail
  | .missingVector => "Vector mode requires a non-empty query vector."
  | .invalidRequest detail => "Invalid request: " ++ detail
  | .invalidConfig detail => "Invalid config: " ++ detail
  | .embeddingUnavailable detail => "Embedding unavailable: " ++ detail
  | .backendUnavailable detail => "Backend unavailable: " ++ detail
  | .backendQueryError detail => "Backend query error: " ++ detail

/-- The error of a mode name that is none. -/
def ofUnknownMode (e : Mode.Unknown) : SearchError := .invalidMode e.message

/-- **The error of a call to the backend**: a rejection means that the backend understood the query
and refused it. -/
def ofBackend (e : Http.CallError) : SearchError :=
  if e.isRejection then .backendQueryError e.message else .backendUnavailable e.message

/-- The error of a call to the embedding service. -/
def ofEmbedding (e : Http.CallError) : SearchError := .embeddingUnavailable e.message

/-- Only a refusal of the query is an error of the query. -/
theorem ofBackend_status (code : Nat) (body : String) :
    ofBackend (.status code body) =
      if 400 ≤ code ∧ code < 500 then
        .backendQueryError (Http.CallError.status code body).message
      else .backendUnavailable (Http.CallError.status code body).message := by
  simp [ofBackend, Http.CallError.isRejection]

/-! ## Answers over HTTP -/

/-- The status of the answer to a search that failed. -/
def status : SearchError → Nat
  | .invalidMode _ | .missingVector | .invalidRequest _ => 400
  | .embeddingUnavailable _ | .backendUnavailable _ | .backendQueryError _ => 502
  | .invalidConfig _ => 500

/-- The code of the answer to a search that failed. -/
def code : SearchError → String
  | .invalidMode _ => "invalid_mode"
  | .missingVector => "missing_vector"
  | .invalidRequest _ => "invalid_request"
  | .embeddingUnavailable _ => "embedding_unavailable"
  | .backendUnavailable _ => "backend_unavailable"
  | .backendQueryError _ => "backend_query_error"
  | .invalidConfig _ => "internal_error"

end SearchError

end Storefront
