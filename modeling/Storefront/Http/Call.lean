import Storefront.Http.Header
import Storefront.Json.Reading
import Storefront.Text.Base64
import Storefront.Url.Basic

/-!
# Calls

A call to another service: one request to a URL, whose answer is JSON. What carries requests is a
parameter, and may be any effect.

## Main definitions

* `Request`, `Outcome`, `Transport`: requests, what becomes of them, and what carries them
* `Endpoint`, `Endpoint.request`: whom to call, and the request of a call
* `basicAuthorization`, `Endpoint.withUser`: the user that a URL names, as a header
* `Outcome.read`: the JSON of an answer
* `Endpoint.call`: a call

## Main results

* `read_response`: which answers are successes
-/

namespace Storefront.Http

/-- What a request is for. -/
inductive Method where
  /-- To read. -/
  | get
  /-- To send a body. -/
  | post
  deriving DecidableEq, Repr

/-- **A request.** -/
structure Request where
  /-- What it is for. -/
  method : Method
  /-- Where it goes. -/
  url : Url
  /-- Its headers, by name. -/
  headers : Table String
  /-- Its body. -/
  body : Option Json

/-- **What becomes of a request.** -/
inductive Outcome where
  /-- Nothing answers. -/
  | unreachable
  /-- An answer with a status and the octets of a body. -/
  | response (status : Nat) (body : List UInt8)
  deriving DecidableEq

/-- What carries requests. -/
abbrev Transport (m : Type → Type) := Request → m Outcome

/-- Whom to call, and with which headers. -/
structure Endpoint where
  /-- The text of the URL. -/
  address : String
  /-- The key of the service. -/
  apiKey : Option String
  /-- The headers of every request. -/
  defaultHeaders : Table Json

namespace Endpoint

/-- The URL to call, which HTTP must be usable with. It does not show the user that it names. -/
def url (e : Endpoint) : Except TransportError Url :=
  match (Url.ofText? e.address).map Url.withoutCredentials with
  | none => .error .noUrl
  | some url => if url.isUsable then .ok url else .error (.unusableUrl url.text)

/-- Adds the type of a JSON body unless the headers have one. -/
def withContentType (headers : Table String) : Table String :=
  match headers.lookup "content-type" with
  | some _ => headers
  | none => Table.insert "content-type" "application/json" headers

/-- The authorization of a user with a password. -/
def basicAuthorization (user password : List Char) : String :=
  String.ofList ("Basic ".toList ++ Base64.encode (Utf8.encode (user ++ ':' :: password)))

/-- Adds the authorization of the user that the URL names, unless the headers have one. -/
def withUser (e : Endpoint) (headers : Table String) : Table String :=
  match (Url.ofText? e.address).bind Url.credentials?, headers.lookup "authorization" with
  | some (user, password), none =>
    Table.insert "authorization" (basicAuthorization user password) headers
  | _, _ => headers

/-- **The request of a call.** The headers are checked before the URL. -/
def request (e : Endpoint) (method : Method) (body : Option Json) : Except CallError Request := do
  let headers ← authHeaders e.apiKey e.defaultHeaders
  let url ← e.url.mapError .transport
  let headers := e.withUser headers
  return { method, url, headers := if body.isSome then withContentType headers else headers, body }

-- The user goes from the URL into a header.
example :
    let e : Endpoint :=
      { address := "http://shop:a%20b@h", apiKey := none, defaultHeaders := [] }
    ((e.request .get none).toOption.map fun r => (r.url.text, r.headers)) =
      some ("http://h/", [("authorization", "Basic c2hvcDphIGI=")]) := by
  decide +kernel

end Endpoint

namespace Outcome

/-- Whether a status is a success. -/
def isSuccess (status : Nat) : Bool := decide (200 ≤ status ∧ status < 300)

/-- The octets that may begin a text to say that it is UTF-8. -/
def byteOrderMark : List UInt8 := [0xEF, 0xBB, 0xBF]

/-- The text of a body; what is no text in it is marked. -/
def bodyText (body : List UInt8) : String :=
  String.ofList (Utf8.decodeLossy
    (if byteOrderMark.isPrefixOf body then body.drop byteOrderMark.length else body))

/-- The JSON of a body. -/
def bodyJson? (body : List UInt8) : Option Json :=
  (Utf8.decode? body).bind fun s => Json.parse (String.ofList s)

/-- **The JSON of an answer** to a request to the URL. -/
def read (url : Url) : Outcome → Except CallError Json
  | .unreachable => .error (.transport (.unreachable url.text))
  | .response status body =>
    if isSuccess status then
      match bodyJson? body with
      | some json => .ok json
      | none => .error (.transport .undecodable)
    else .error (.status status (bodyText body))

/-- An answer is a success if its status is one and its body is JSON. -/
theorem read_response {url : Url} {status : Nat} {body : List UInt8} {json : Json} :
    read url (.response status body) = .ok json ↔
      isSuccess status ∧ bodyJson? body = some json := by
  simp only [read]
  split
  · next h => split <;> simp_all
  · next h => simp [h]

end Outcome

/-- **A call.** A request that cannot be made is not carried. -/
def Endpoint.call {m : Type → Type} [Monad m] (transport : Transport m) (e : Endpoint)
    (method : Method) (body : Option Json) : m (Except CallError Json) :=
  match e.request method body with
  | .error error => pure (.error error)
  | .ok request => do return (← transport request).read request.url

end Storefront.Http
