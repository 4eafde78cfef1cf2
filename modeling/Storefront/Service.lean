import Storefront.Config.Basic
import Storefront.Embedding
import Storefront.Execution
import Storefront.Plan
import Storefront.Query.Compiled
import Storefront.ResultSet

/-!
# The search service

A search makes a plan, embeds its text if the mode wants that, compiles a query, runs it, and cuts
the records. What embeds texts and what runs queries are parameters, and may have any effect.

## Main definitions

* `Collaborators`: what embeds texts and what runs queries
* `Collaborators.overHttp`: the ones that call the configured services
* `Service`, `Service.ofConfig?`: a configuration with its vocabulary made ready
* `SearchRequest`, `RawSearchRequest`, `SearchResponse`: what is asked and answered
* `Service.search`, `Service.searchRaw`, `Service.metadata`: the operations

## Main results

* `Service.ofConfig?_eq_ok`: a service has its configuration, and the extractor of its vocabulary
-/

namespace Storefront

open Http

variable {m : Type → Type}

/-- **What embeds texts and what runs queries.** -/
structure Collaborators (m : Type → Type) where
  /-- Embeds a text. -/
  embed : EmbeddingService → String → m (Except SearchError (List Single))
  /-- Runs a query. -/
  execute : Backend → CompiledQuery → m (Except SearchError Execution)
  /-- What a backend says about itself. -/
  metadata : Backend → m (Except SearchError Json)

/-! ## Collaborators over HTTP -/

namespace Backend

/-- Whom to call with a path of the backend. -/
def endpoint (b : Backend) (path : String) : Endpoint where
  address := b.url ++ path
  apiKey := b.apiKey
  defaultHeaders := b.defaultHeaders

/-- **Runs the document of a query.** Errors of the query come with a success, in the answer. -/
def run [Monad m] (transport : Transport m) (b : Backend) (document : String) :
    m (Except CallError Json) :=
  (b.endpoint "/v1/graphql").call transport .post (some (.object [("query", .text document)]))

/-- What the backend says about itself. -/
def describe [Monad m] (transport : Transport m) (b : Backend) : m (Except CallError Json) :=
  (b.endpoint "/v1/meta").call transport .get none

end Backend

/-- The embedding of the only text. -/
def onlyVector (vectors : List (List Single)) : Except SearchError (List Single) :=
  match vectors with
  | v :: _ => .ok v
  | [] => .error (.embeddingUnavailable "Embedding provider returned no vectors.")

/-- **The collaborators that call the configured services.** -/
def Collaborators.overHttp [Monad m] (transport : Transport m) : Collaborators m where
  embed service text := do
    let vectors ← service.embed transport [text]
    return (vectors.mapError .ofEmbedding).bind onlyVector
  execute backend query := do
    let answer ← backend.run transport query.text
    return (answer.mapError .ofBackend).bind fun body => Execution.ofBody body query.className
  metadata backend := do
    return (← backend.describe transport).mapError .ofBackend

/-! ## The service -/

/-- A configuration with its vocabulary made ready. -/
structure Service where
  /-- The configuration. -/
  config : Config
  /-- What extracts constraints. -/
  extractor : Extractor

/-- A search as a shopper asks for it. -/
structure SearchRequest where
  /-- What was typed. -/
  query : String
  /-- The position of the switch. -/
  toggle : Toggle
  /-- How many records are wanted. -/
  limit : Option Nat
  deriving DecidableEq, Repr

/-- A search that names its mode and its filters. -/
structure RawSearchRequest where
  /-- The text to search for. -/
  query : String
  /-- The name of the mode. -/
  mode : String
  /-- The constraints on records. -/
  filters : Filters
  /-- How many records are wanted. -/
  limit : Option Nat
  deriving DecidableEq, Repr

/-- **The answer to a search.** -/
structure SearchResponse where
  /-- The mode of the search. -/
  mode : Mode
  /-- The text that was searched for. -/
  searchText : String
  /-- What was extracted, if the search extracts. -/
  constraints : Option Constraints
  /-- The constraints on records. -/
  filters : Filters
  /-- The document that was run. -/
  query : String
  /-- The threshold of the cut. -/
  threshold : Single
  /-- The records that are shown, and the ones that are not. -/
  records : ResultSet
  /-- The errors that the backend lists. -/
  errors : List String
  deriving DecidableEq

namespace Service

/-- **The service of a configuration**, unless its vocabulary is too large. -/
def ofConfig? (config : Config) : Except SearchError Service :=
  match Extractor.ofVocabulary? (config.vocabulary.getD .standard) with
  | .ok extractor => .ok { config, extractor }
  | .error e => .error (.invalidConfig ("Vocabulary does not compile: " ++ e.message))

/-- The service of a configuration extracts with the vocabulary of that. -/
theorem ofConfig?_eq_ok {config : Config} {s : Service} (h : ofConfig? config = .ok s) :
    s.config = config ∧ s.extractor = .ofVocabulary (config.vocabulary.getD .standard) := by
  unfold ofConfig? at h
  split at h
  · next extractor hx =>
    obtain rfl := Except.ok.inj h
    exact ⟨rfl, Extractor.eq_ofVocabulary hx⟩
  · cases h

/-- The service that embeds the text of a plan: none if the mode does not score by embeddings, or
if there is nothing to embed. -/
def embedder? (s : Service) (plan : Plan) : Option EmbeddingService :=
  if plan.mode.needsEmbedding && !Text.isBlankText plan.searchText then s.config.embedding
  else none

/-- The vector of a plan, if it has one. -/
def queryVector [Monad m] (s : Service) (c : Collaborators m) (plan : Plan) :
    m (Except SearchError (Option (List Single))) :=
  match s.embedder? plan with
  | none => pure (.ok none)
  | some service => do return (← c.embed service plan.searchText).map some

/-- The query of a plan. -/
def compilePlan (s : Service) (plan : Plan) (limit : Option Nat) (vector : Option (List Single)) :
    Except SearchError CompiledQuery :=
  compile s.config.backend.className plan.searchText plan.mode vector plan.filters
    (limit.getD s.config.search.defaultLimit)

/-- The answer to a query that was run. -/
def respond (s : Service) (plan : Plan) (constraints : Option Constraints) (query : CompiledQuery)
    (execution : Execution) : SearchResponse where
  mode := plan.mode
  searchText := plan.searchText
  constraints
  filters := plan.filters
  query := query.text
  threshold := s.config.search.relevanceThreshold
  records := .cut execution.records plan.mode s.config.search.relevanceThreshold
  errors := execution.rawErrors

/-- **Carries out a plan**: vector, query, execution, cut. The first failure is the answer. -/
def carryOut [Monad m] (s : Service) (c : Collaborators m) (plan : Plan) (limit : Option Nat)
    (constraints : Option Constraints) : m (Except SearchError SearchResponse) := do
  -- Nothing is run unless there is a vector where one is wanted, and a query.
  match (← s.queryVector c plan).bind (s.compilePlan plan limit) with
  | .error e => return .error e
  | .ok query =>
    return (← c.execute s.config.backend query).map (s.respond plan constraints query)

/-- **A search as a shopper asks for it.** -/
def search [Monad m] (s : Service) (c : Collaborators m) (r : SearchRequest) :
    m (Except SearchError SearchResponse) :=
  let constraints := s.extractor.extract r.query
  s.carryOut c (.make r.query constraints r.toggle) r.limit (some constraints)

/-- **A search that names its mode and its filters.** -/
def searchRaw [Monad m] (s : Service) (c : Collaborators m) (r : RawSearchRequest) :
    m (Except SearchError SearchResponse) :=
  match Mode.parse r.mode with
  | .error e => pure (.error (.ofUnknownMode e))
  | .ok mode => s.carryOut c { searchText := r.query, mode, filters := r.filters } r.limit none

/-- What the backend says about itself. -/
def metadata (s : Service) (c : Collaborators m) : m (Except SearchError Json) :=
  c.metadata s.config.backend

end Service

end Storefront
