import Storefront.Api.Body

/-!
# The HTTP interface

Requests are routed by path and method; what they ask for is done by the service, and its answer or
error becomes an answer with a status.

## Main definitions

* `Route`, `Route.ofPath?`: the paths that are served
* `Request`, `Answer`: what comes in and goes out
* `Answer.ofError`, `Answer.ofRejection`: the answers to what fails
* `Service.answer`: the answer to a request
-/

namespace Storefront.Api

variable {m : Type → Type}

/-- What is served. -/
inductive Route where
  /-- Whether the server runs. -/
  | health
  /-- A search as a shopper asks for it. -/
  | search
  /-- A search that names its mode and its filters. -/
  | searchRaw
  /-- What the backend says about itself. -/
  | metadata
  deriving DecidableEq, Repr

/-- The route of a path. -/
def Route.ofPath? : List Char → Option Route := fun path =>
  if path = "/health".toList then some .health
  else if path = "/v1/search".toList then some .search
  else if path = "/v1/search/raw".toList then some .searchRaw
  else if path = "/v1/meta".toList then some .metadata
  else none

/-- Whether a route takes the method. What can be read can be asked for without its body. -/
def Route.takes (method : String) : Route → Bool
  | .health | .metadata => method = "GET" || method = "HEAD"
  | .search | .searchRaw => method = "POST"

/-- **A request.** -/
structure Request where
  /-- Its method. -/
  method : String
  /-- Its path, with a query if it has one. -/
  target : String
  /-- The type of its body, if it says so. -/
  contentType : Option String
  /-- Its body. -/
  body : String

/-- The path of a request. -/
def Request.path (r : Request) : List Char :=
  r.target.toList.takeWhile fun c => c != '?' && c != '#'

/-- **An answer.** -/
structure Answer where
  /-- Its status. -/
  status : Nat
  /-- Its body, if it has one. -/
  body : Option Json

namespace Answer

/-- An answer without a body. -/
def empty (status : Nat) : Answer where
  status
  body := none

/-- The answer to something that fails. -/
def failure (status : Nat) (code message : String) : Answer where
  status
  body := some (.object [("error_code", .text code), ("message", .text message)])

/-- **The answer to a search that fails.** -/
def ofError (e : SearchError) : Answer := failure e.status e.code e.message

/-- The answer to a body that is not taken. -/
def ofRejection (r : Rejection) : Answer := failure 400 "invalid_request" r.message

/-- The answer with a result, or to an error. -/
def ofResult {α : Type} (encode : α → Json) : Except SearchError α → Answer
  | .ok a => { status := 200, body := some (encode a) }
  | .error e => ofError e

end Answer

/-- Runs a search on the body of a request. -/
def withBody [Monad m] {α : Type} (d : Json.Decoder α) (r : Request)
    (run : α → m (Except SearchError SearchResponse)) : m Answer :=
  match readBody d r.contentType r.body with
  | .error rejection => pure (.ofRejection rejection)
  | .ok a => do return .ofResult SearchResponse.encode (← run a)

/-- The answer of a route. -/
def Route.serve [Monad m] (s : Service) (c : Collaborators m) (r : Request) : Route → m Answer
  | .health => pure (.empty 200)
  | .search => withBody SearchRequest.decode r (s.search c)
  | .searchRaw => withBody RawSearchRequest.decode r (s.searchRaw c)
  | .metadata => do return .ofResult id (← s.metadata c)

/-- **The answer to a request.** An unknown path is not found, and a method that a path does not
take is not allowed. -/
def answer [Monad m] (s : Service) (c : Collaborators m) (r : Request) : m Answer :=
  match Route.ofPath? r.path with
  | none => pure (.empty 404)
  | some route =>
    if route.takes r.method then do
      let a ← route.serve s c r
      return if r.method = "HEAD" then .empty a.status else a
    else pure (.empty 405)

end Storefront.Api
