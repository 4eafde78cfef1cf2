import Storefront.Config.Basic
import Storefront.Http.Call

/-!
# Embeddings

Asking a service to embed texts. Its answer either lists vectors, or items that have a vector and
may have an index; then the vectors are put in the order of the indices. An answer is only used if
there is one vector a text, each of the right dimension and finite.

## Main definitions

* `EmbeddingService.body`: the request for some texts
* `Embedding.ofAnswer`: the vectors of an answer, in order
* `Embedding.fault?`: what is wrong with vectors
* `EmbeddingService.embed`: the embeddings of some texts

## Main results

* `fault?_eq_none`: what vectors are that nothing is wrong with
-/

namespace Storefront

open Http

namespace Embedding

open Json

/-- A component. -/
def component : Json → Except EmbeddingFault Single
  | .number n => .ok (n.toDouble.convert .single)
  | _ => .error .noNumber

/-- A vector. -/
def vector : Json → Except EmbeddingFault (List Single)
  | .array components => components.mapM component
  | _ => .error .noVector

/-- The index of an item: what it says, if that is a whole number, and else its place. -/
def index (item : Json) (place : Nat) : Nat :=
  match item.get? "index" with
  | some (.number (.integer n)) => if 0 ≤ n then n.toNat else place
  | _ => place

/-- The index and the vector of the item in a place. -/
def labelled (entry : Json × Nat) : Except EmbeddingFault (Nat × List Single) :=
  match entry.1.get? "embedding" with
  | some embedding => (vector embedding).map fun v => (index entry.1 entry.2, v)
  | none => .error .noEmbedding

/-- Items in the order of their indices; items of one index keep their order. -/
def inOrder (items : List (Nat × List Single)) : List (Nat × List Single) :=
  items.mergeSort fun a b => decide (a.1 ≤ b.1)

/-- **The vectors of an answer**, in order. -/
def ofAnswer (answer : Json) : Except EmbeddingFault (List (List Single)) :=
  match answer with
  | .array vectors => vectors.mapM vector
  | answer =>
    match (answer.get? "data").bind items? with
    | some items => do return (inOrder (← items.zipIdx.mapM labelled)).map Prod.snd
    | none => .error .noData

/-- What is wrong with a vector. -/
def vectorFault? (dimensions : Option Nat) (v : List Single) : Option EmbeddingFault :=
  if v.isEmpty then some .empty
  else if dimensions.any fun d => v.length != d then some .dimension
  else if v.any fun x => !x.isFinite then some .nonFinite
  else none

/-- **What is wrong with vectors**, as the embeddings of so many texts: their number, or else what
is wrong with the first of them that is wrong. -/
def fault? (expected : Nat) (dimensions : Option Nat) (vectors : List (List Single)) :
    Option EmbeddingFault :=
  if vectors.length ≠ expected then some (.count vectors.length expected)
  else vectors.findSome? (vectorFault? dimensions)

/-- Nothing is wrong with vectors if there are as many as texts, and each has components, all of
them finite, and as many as are configured. -/
theorem fault?_eq_none {expected : Nat} {dimensions : Option Nat} {vectors : List (List Single)} :
    fault? expected dimensions vectors = none ↔
      vectors.length = expected ∧ ∀ v ∈ vectors, v ≠ [] ∧ (∀ d ∈ dimensions, v.length = d) ∧
        ∀ x ∈ v, x.isFinite = true := by
  have hv (v : List Single) : vectorFault? dimensions v = none ↔
      v ≠ [] ∧ (∀ d ∈ dimensions, v.length = d) ∧ ∀ x ∈ v, x.isFinite = true := by
    unfold vectorFault?
    split
    · simp_all
    · split
      · next h => cases dimensions <;> simp_all
      · next h => cases dimensions <;> simp_all
  unfold fault?
  split
  · simp_all
  · simp_all [List.findSome?_eq_none_iff]

/-- The vectors of an answer, if nothing is wrong with them. -/
def checked (expected : Nat) (dimensions : Option Nat) (answer : Json) :
    Except EmbeddingFault (List (List Single)) := do
  let vectors ← ofAnswer answer
  match fault? expected dimensions vectors with
  | some fault => .error fault
  | none => return vectors

end Embedding

namespace EmbeddingService

/-- The request for the embeddings of some texts. -/
def body (e : EmbeddingService) (texts : List String) : Json :=
  .ofMembers ([("model", .text e.model), ("input", .array (texts.map .text))] ++
    (e.dimensions.map fun d => ("dimensions", Json.ofNat d)).toList)

/-- Whom to call. -/
def endpoint (e : EmbeddingService) : Endpoint where
  address := e.apiBase ++ e.path
  apiKey := e.apiKey
  defaultHeaders := e.defaultHeaders

/-- **The embeddings of some texts**, in their order. -/
def embed {m : Type → Type} [Monad m] (transport : Transport m) (e : EmbeddingService)
    (texts : List String) : m (Except CallError (List (List Single))) := do
  let answer ← e.endpoint.call transport .post (some (e.body texts))
  return answer.bind fun json =>
    (Embedding.checked texts.length e.dimensions json).mapError .response

end EmbeddingService

end Storefront
