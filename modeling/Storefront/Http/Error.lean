/-!
# Call errors

Why a call to another service gives no usable answer, and the sentence that says so.

## Main definitions

* `TransportError`: no answer, or one that is no JSON
* `EmbeddingFault`: what can be wrong with the answer of an embedding service
* `CallError`, `CallError.message`: all the reasons, and their sentences
* `CallError.isRejection`: the service answered and refused the request itself
-/

namespace Storefront.Http

/-- The reason why no answer can be had over HTTP. -/
inductive TransportError where
  /-- The address is no URL. -/
  | noUrl
  /-- The URL is none that HTTP can be used with. -/
  | unusableUrl (url : String)
  /-- Nothing answered at the URL. -/
  | unreachable (url : String)
  /-- The body of the answer is no JSON. -/
  | undecodable
  deriving DecidableEq, Repr

/-- The sentence of an error. -/
def TransportError.message : TransportError → String
  | .noUrl => "builder error"
  | .unusableUrl url => "builder error for url (" ++ url ++ ")"
  | .unreachable url => "error sending request for url (" ++ url ++ ")"
  | .undecodable => "error decoding response body"

/-- What can be wrong with the answer of an embedding service. -/
inductive EmbeddingFault where
  /-- There is no list of items. -/
  | noData
  /-- An item has no embedding. -/
  | noEmbedding
  /-- An embedding is no list. -/
  | noVector
  /-- A component of an embedding is no number. -/
  | noNumber
  /-- There are not as many embeddings as texts. -/
  | count (returned expected : Nat)
  /-- An embedding has no components. -/
  | empty
  /-- An embedding has not the number of components that is configured. -/
  | dimension
  /-- A component is beyond all finite values. -/
  | nonFinite
  deriving DecidableEq, Repr

/-- The sentence of a fault. -/
def EmbeddingFault.message : EmbeddingFault → String
  | .noData => "Embedding response is missing data array."
  | .noEmbedding => "Embedding item missing embedding array."
  | .noVector => "Embedding must be an array of numbers."
  | .noNumber => "Embedding value must be numeric."
  | .count returned expected =>
    "Embedding provider returned " ++ toString returned ++ " vectors for " ++ toString expected ++
      " inputs."
  | .empty => "Embedding provider returned an empty vector."
  | .dimension => "Embedding vector dimension mismatch."
  | .nonFinite => "Embedding vector contains a non-finite value."

/-- **The reason why a call gives no usable answer.** -/
inductive CallError where
  /-- There is no answer, or one that is no JSON. -/
  | transport (error : TransportError)
  /-- A header has a name that is none. -/
  | headerName
  /-- A header has a value that is none. -/
  | headerValue
  /-- The value configured for a header is no text. -/
  | headerNotText (key : String)
  /-- The answer of an embedding service is of the wrong form. -/
  | response (fault : EmbeddingFault)
  /-- The answer has a status that is no success. -/
  | status (code : Nat) (body : String)
  deriving DecidableEq, Repr

namespace CallError

/-- The sentence of an error. -/
def message : CallError → String
  | .transport error => error.message
  | .headerName => "invalid HTTP header name"
  | .headerValue => "failed to parse header value"
  | .headerNotText key => "Default header " ++ key ++ " must be a string."
  | .response fault => fault.message
  | .status code body => "Upstream returned HTTP " ++ toString code ++ ": " ++ body

/-- **Whether the service answered and refused the request itself.** -/
def isRejection : CallError → Bool
  | .status code _ => decide (400 ≤ code ∧ code < 500)
  | _ => false

end CallError

end Storefront.Http
