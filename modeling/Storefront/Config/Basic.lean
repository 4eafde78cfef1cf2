import Storefront.Json.Decode
import Storefront.Number.Decimal
import Storefront.Vocabulary

/-!
# Configurations

What a shop configures: where it listens, its backend, the service that embeds texts if there is
one, the defaults of a search, and its vocabulary.

## Main definitions

* `ServerSettings`, `Backend`, `EmbeddingService`, `SearchSettings`, `Config`: the parts and the
  whole
* `Config.decode`, and `decode` of each part: reading them from JSON
-/

namespace Storefront

/-- Where requests arrive, and what is logged. -/
structure ServerSettings where
  /-- The address to listen at. -/
  httpBind : String
  /-- What is logged. -/
  logLevel : String := "info"
  deriving DecidableEq, Repr

/-- **The database that runs queries.** -/
structure Backend where
  /-- The URL that the paths of requests are put behind. -/
  url : String
  /-- The key of the service. -/
  apiKey : Option String := none
  /-- The class of the records. -/
  className : String := "Product"
  /-- How long an answer may take. -/
  timeoutMs : Nat := 10000
  /-- The headers of every request. -/
  defaultHeaders : Table Json := []

/-- **The service that embeds texts.** -/
structure EmbeddingService where
  /-- The name of the service. -/
  providerId : String
  /-- The URL that the path is put behind. -/
  apiBase : String
  /-- The key of the service. -/
  apiKey : Option String := none
  /-- The path of requests. -/
  path : String
  /-- The model that embeds. -/
  model : String
  /-- How many components an embedding must have. -/
  dimensions : Option Nat := none
  /-- How long an answer may take. -/
  timeoutMs : Nat := 10000
  /-- The headers of every request. -/
  defaultHeaders : Table Json := []

/-- The defaults of a search. -/
structure SearchSettings where
  /-- How many records are wanted. -/
  defaultLimit : Nat := 12
  /-- The score that a record must reach to be shown in a hybrid search. -/
  relevanceThreshold : Single := Decimal.toBinary .single ⟨false, 7, -1⟩
  deriving DecidableEq

/-- **A configuration.** -/
structure Config where
  /-- Where requests arrive. -/
  server : ServerSettings
  /-- The database that runs queries. -/
  backend : Backend
  /-- The service that embeds texts; without it hybrid searches score by keywords only. -/
  embedding : Option EmbeddingService := none
  /-- The defaults of a search. -/
  search : SearchSettings := {}
  /-- The vocabulary in place of the standard one. -/
  vocabulary : Option Vocabulary := none

open Json

/-! ## Reading -/

/-- Reading the settings of the server. -/
def ServerSettings.decode : Decoder ServerSettings := fun r => do
  let found ← fields
    [.of "http_bind" .required Decoder.text, .of "log_level" .defaulted Decoder.text] r
  return {
    httpBind := ← found.required "http_bind" .text
    logLevel := ← found.defaulted "log_level" .text "info" }

/-- Reading a backend. -/
def Backend.decode : Decoder Backend := fun r => do
  let found ← fields
    [.of "url" .required Decoder.text, .of "api_key" .optional Decoder.text.nullable,
      .of "class_name" .defaulted Decoder.text, .of "timeout_ms" .defaulted (Decoder.unsigned 64),
      .of "default_headers" .defaulted Decoder.table] r
  return {
    url := ← found.required "url" .text
    apiKey := ← found.optional "api_key" .text
    className := ← found.defaulted "class_name" .text "Product"
    timeoutMs := ← found.defaulted "timeout_ms" (.unsigned 64) 10000
    defaultHeaders := ← found.defaulted "default_headers" .table [] }

/-- Reading an embedding service. -/
def EmbeddingService.decode : Decoder EmbeddingService := fun r => do
  let found ← fields
    [.of "provider_id" .required Decoder.text, .of "api_base" .required Decoder.text,
      .of "api_key" .optional Decoder.text.nullable, .of "path" .required Decoder.text,
      .of "model" .required Decoder.text,
      .of "dimensions" .optional (Decoder.unsigned 32).nullable,
      .of "timeout_ms" .defaulted (Decoder.unsigned 64),
      .of "default_headers" .defaulted Decoder.table] r
  return {
    providerId := ← found.required "provider_id" .text
    apiBase := ← found.required "api_base" .text
    apiKey := ← found.optional "api_key" .text
    path := ← found.required "path" .text
    model := ← found.required "model" .text
    dimensions := ← found.optional "dimensions" (.unsigned 32)
    timeoutMs := ← found.defaulted "timeout_ms" (.unsigned 64) 10000
    defaultHeaders := ← found.defaulted "default_headers" .table [] }

/-- Reading the defaults of a search. -/
def SearchSettings.decode : Decoder SearchSettings := fun r => do
  let standard : SearchSettings := {}
  let found ← fields
    [.of "default_limit" .defaulted (Decoder.unsigned 32),
      .of "relevance_threshold" .defaulted Decoder.single] r
  return {
    defaultLimit := ← found.defaulted "default_limit" (.unsigned 32) standard.defaultLimit
    relevanceThreshold :=
      ← found.defaulted "relevance_threshold" .single standard.relevanceThreshold }

/-- Reading a vocabulary. -/
def Vocabulary.decode : Decoder Vocabulary := fun r => do
  let found ← fields
    [.of "price_phrases" .required (Decoder.list Decoder.text),
      .of "colors" .required (Decoder.list Decoder.text)] r
  return {
    pricePhrases := ← found.required "price_phrases" (.list .text)
    colors := ← found.required "colors" (.list .text) }

/-- Reading the services beside the backend, of which there is one kind. -/
def Config.decodeProviders : Decoder (Option EmbeddingService) := fun r => do
  let found ← fields [.of "embedding" .optional EmbeddingService.decode.nullable] r
  found.optional "embedding" EmbeddingService.decode

/-- **Reading a configuration.** -/
def Config.decode : Decoder Config := fun r => do
  let found ← fields
    [.of "service" .required ServerSettings.decode, .of "backend" .required Backend.decode,
      .of "providers" .defaulted Config.decodeProviders,
      .of "search" .defaulted SearchSettings.decode,
      .of "vocabulary" .optional Vocabulary.decode.nullable] r
  return {
    server := ← found.required "service" ServerSettings.decode
    backend := ← found.required "backend" Backend.decode
    embedding := ← found.defaulted "providers" Config.decodeProviders none
    search := ← found.defaulted "search" SearchSettings.decode {}
    vocabulary := ← found.optional "vocabulary" Vocabulary.decode }

end Storefront
