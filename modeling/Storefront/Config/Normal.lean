import Storefront.Config.Basic
import Storefront.Text.Blank

/-!
# Normal configurations

What a configuration is changed into before it is used, and what it must satisfy.

## Main definitions

* `Config.normalize`: keys that are blank are none, and URLs do not end in a slash
* `Config.Fault`, `Config.Fault.message`: what can be wrong with a configuration
* `Config.fault?`: the first thing that is wrong

## Main results

* `normalize_normalize`: normalizing again changes nothing
-/

namespace Storefront

open Text

/-- The text without the slashes at its end. -/
def trimSlashes (s : String) : String :=
  String.ofList (s.toList.reverse.dropWhile (· = '/')).reverse

/-- A key that is not blank. -/
def usableKey? (key : Option String) : Option String := key.filter fun k => !isBlankText k

/-- Whether a text can be the name of a class: a capital letter, then letters, digits and
underscores, all of ASCII. -/
def isClassName (s : String) : Bool :=
  match s.toList with
  | c :: rest => c.isUpper && rest.all fun d => d.isAlphanum || d = '_'
  | [] => false

/-- The backend with a usable key and without slashes at the end of its URL. -/
def Backend.normalize (b : Backend) : Backend :=
  { b with url := trimSlashes b.url, apiKey := usableKey? b.apiKey }

/-- The service with a usable key and without slashes at the end of its URL. -/
def EmbeddingService.normalize (e : EmbeddingService) : EmbeddingService :=
  { e with apiBase := trimSlashes e.apiBase, apiKey := usableKey? e.apiKey }

namespace Config

/-- **The normal form of a configuration.** -/
def normalize (c : Config) : Config :=
  { c with backend := c.backend.normalize, embedding := c.embedding.map EmbeddingService.normalize }

/-- What can be wrong with a configuration. -/
inductive Fault where
  /-- A text is blank. -/
  | blank (field : String)
  /-- The class has no name that a query can use. -/
  | className
  /-- A number is zero. -/
  | zero (field : String)
  /-- The threshold is no number or infinite. -/
  | thresholdNotFinite
  /-- The threshold is below zero or above one. -/
  | thresholdOutOfRange
  /-- A list has a blank entry. -/
  | blankEntry (field : String)
  deriving DecidableEq, Repr

/-- The sentence of a fault. -/
def Fault.message : Fault → String
  | .blank field => field ++ " must be non-empty."
  | .className =>
    "backend.class_name must start with an uppercase ASCII letter and contain only ASCII letters, "
      ++ "digits, or underscores."
  | .zero field => field ++ " must be greater than zero."
  | .thresholdNotFinite => "search.relevance_threshold must be a finite number."
  | .thresholdOutOfRange => "search.relevance_threshold must be in the range 0.0-1.0."
  | .blankEntry field => field ++ " must not contain blank entries."

/-- Requirements with the faults that failing them is. -/
abbrev Requirements := List (Bool × Fault)

/-- What a text must be. -/
def notBlank (field value : String) : Bool × Fault := (!isBlankText value, .blank field)

/-- What a number must be. -/
def notZero (field : String) (value : Nat) : Bool × Fault := (value != 0, .zero field)

/-- What the search settings must be. -/
def searchRequirements (s : SearchSettings) : Requirements :=
  [notZero "search.default_limit" s.defaultLimit,
    (s.relevanceThreshold.isFinite, .thresholdNotFinite),
    (s.relevanceThreshold.atLeast (.ofInt .single 0) &&
      (Binary.ofInt .single 1).atLeast s.relevanceThreshold, .thresholdOutOfRange)]

/-- What an embedding service must be. -/
def embeddingRequirements (e : EmbeddingService) : Requirements :=
  [notBlank "providers.embedding.api_base" e.apiBase,
    notBlank "providers.embedding.model" e.model,
    notZero "providers.embedding.dimensions" (e.dimensions.getD 1),
    notZero "providers.embedding.timeout_ms" e.timeoutMs]

/-- What a list of entries must be. -/
def entryRequirements (field : String) (entries : List String) : Requirements :=
  [(!entries.isEmpty, .blank field), (entries.all fun e => !isBlankText e, .blankEntry field)]

/-- What a vocabulary must be. -/
def vocabularyRequirements (v : Vocabulary) : Requirements :=
  entryRequirements "vocabulary.price_phrases" v.pricePhrases ++
    entryRequirements "vocabulary.colors" v.colors

/-- **What a configuration must be**, in the order of reports. -/
def requirements (c : Config) : Requirements :=
  [notBlank "service.http_bind" c.server.httpBind, notBlank "backend.url" c.backend.url,
      (isClassName c.backend.className, .className),
      notZero "backend.timeout_ms" c.backend.timeoutMs] ++
    searchRequirements c.search ++
    (c.embedding.map embeddingRequirements).getD [] ++
    (c.vocabulary.map vocabularyRequirements).getD []

/-- **The first thing that is wrong** with a configuration. -/
def fault? (c : Config) : Option Fault := (c.requirements.find? fun r => !r.1).map Prod.snd

/-- A configuration has no fault if it satisfies every requirement. -/
theorem fault?_eq_none_iff {c : Config} :
    c.fault? = none ↔ ∀ r ∈ c.requirements, r.1 = true := by
  simp [fault?]

end Config

theorem dropWhile_dropWhile {α : Type} (p : α → Bool) (s : List α) :
    (s.dropWhile p).dropWhile p = s.dropWhile p := by
  induction s with
  | nil => rfl
  | cons c rest ih =>
    by_cases h : p c
    · simpa [h] using ih
    · simp [h]

@[simp] theorem trimSlashes_trimSlashes (s : String) :
    trimSlashes (trimSlashes s) = trimSlashes s := by
  simp [trimSlashes, dropWhile_dropWhile]

@[simp] theorem usableKey?_usableKey? (key : Option String) :
    usableKey? (usableKey? key) = usableKey? key := by
  cases key <;> simp [usableKey?, Option.filter_filter]

/-- Normalizing again changes nothing. -/
@[simp] theorem Config.normalize_normalize (c : Config) : c.normalize.normalize = c.normalize := by
  cases h : c.embedding <;>
    simp [Config.normalize, Backend.normalize, EmbeddingService.normalize, h]

end Storefront
