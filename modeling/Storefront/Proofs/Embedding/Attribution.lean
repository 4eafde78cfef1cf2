import Mathlib
import Storefront.Proofs.Embedding.Labels

/-!
# Which text an embedding belongs to

An answer that lists items is taken for its vectors alone: there must be as many as texts, and each
must be usable. Its labels decide which text a vector goes to, and they do so by their order. As
long as the labels are the places of the texts, each once, every vector goes to the text whose place
is its label. But labels are never a reason to refuse an answer, so a vector may go to another text
when a label is repeated or left out.

## Main definitions

* `EmbeddingService.Receives`: a request for embeddings that is answered with a body
* `Embedding.IsAttributed`: the law of the embeddings of texts

## Main results

* `embed_run_of_receives`: the embeddings are those of the body
* `exists_checked_eq_ok_iff`: when items are taken
* `isAttributed_embed`: vectors are attributed by the order of the labels
* `embed_of_repeated_label`: they need not be attributed by the labels themselves
-/

namespace Storefront

open Http Json

variable {World : Type}

/-! ## Answers to requests -/

/-- What carries requests to a service that has the same text for all of them. -/
def Http.replying (text : String) : Transport (StateM World) :=
  fun _ => pure (.response 200 (Utf8.encode text.toList))

namespace EmbeddingService

variable {transport : Transport (StateM World)} {e : EmbeddingService} {texts : List String}
  {body : Json} {w after : World}

/-- **The request for the embeddings of some texts is answered with a body**, which takes one state
of the world to another. The body is a JSON value that was read: an answer whose text the reader
refuses, since it is nested too deeply or has a number out of range, is not received. -/
def Receives (e : EmbeddingService) (transport : Transport (StateM World)) (texts : List String)
    (w : World) (body : Json) (after : World) : Prop :=
  (e.endpoint.call transport .post (some (e.body texts))).run w = (.ok body, after)

/-- A text that is JSON is received if the request can be made. -/
theorem receives_replying {text : String}
    (hr : (e.endpoint.request .post (some (e.body texts))).toBool = true)
    (hd : Utf8.decode? (Utf8.encode text.toList) = some text.toList)
    (hp : Json.parse text = some body) : e.Receives (replying text) texts w body w := by
  have hb : Outcome.bodyJson? (Utf8.encode text.toList) = some body := by
    rw [Outcome.bodyJson?, hd, Option.bind_some, String.ofList_toList, hp]
  unfold Receives Endpoint.call
  cases h : e.endpoint.request .post (some (e.body texts)) with
  | error failure =>
    rw [h] at hr
    cases hr
  | ok request =>
    have hread : (Outcome.response 200 (Utf8.encode text.toList)).read request.url = .ok body :=
      Outcome.read_response.2 ⟨rfl, hb⟩
    show ((Outcome.response 200 (Utf8.encode text.toList)).read request.url, w) = _
    rw [hread]

/-- **The embeddings of texts** are the vectors that the body is checked to have. -/
theorem embed_run_of_receives (h : e.Receives transport texts w body after) :
    (e.embed transport texts).run w =
      ((Embedding.checked texts.length e.dimensions body).mapError .response, after) := by
  unfold Receives at h
  simp only [embed, run_bind, h]
  rfl

/-- They are the vectors of the body if nothing is wrong with those. -/
theorem embed_run_eq_ok {vectors : List (List Single)} (h : e.Receives transport texts w body after)
    (hv : Embedding.ofAnswer body = .ok vectors)
    (hf : Embedding.fault? texts.length e.dimensions vectors = none) :
    ((e.embed transport texts).run w).1 = .ok vectors := by
  have hc : Embedding.checked texts.length e.dimensions body = .ok vectors := by
    simp only [Embedding.checked, hv, bind, Except.bind, hf]
    rfl
  rw [embed_run_of_receives h, hc]
  rfl

end EmbeddingService

theorem Except.mapError_eq_ok_iff {ε ε' α : Type} {x : Except ε α} {f : ε → ε'} {a : α} :
    x.mapError f = .ok a ↔ x = .ok a := by
  cases x <;> simp [Except.mapError]

theorem Except.mapError_eq_error_iff {ε ε' α : Type} {x : Except ε α} {f : ε → ε'} {e' : ε'} :
    x.mapError f = .error e' ↔ ∃ e, x = .error e ∧ f e = e' := by
  cases x <;> simp [Except.mapError]

namespace Embedding

variable {dimensions : Option Nat} {count : Nat} {body : Json} {items : List Json}
  {vectors : List (List Single)}

/-! ## Which answers are taken -/

/-- An answer that is no list lists items if it has vectors. -/
theorem exists_items_of_ofAnswer (hb : ∀ vs, body ≠ .array vs) (h : ofAnswer body = .ok vectors) :
    ∃ items, body.get? "data" = some (.array items) := by
  unfold ofAnswer at h
  split at h
  · next vs => exact absurd rfl (hb vs)
  · split at h
    · next items hi => exact ⟨items, bind_items?_eq_some_iff.1 hi⟩
    · cases h

/-- **Items are taken if there are as many as texts and each has a usable embedding.** The labels
have no part in it. -/
theorem exists_checked_eq_ok_iff (hd : body.get? "data" = some (.array items)) :
    (∃ vectors, checked count dimensions body = .ok vectors) ↔ items.length = count ∧
      ∀ item ∈ items, ∃ xs, IsEmbeddingOf item xs ∧ IsUsable dimensions xs := by
  constructor
  · rintro ⟨vectors, h⟩
    obtain ⟨ho, hl, hu⟩ := checked_eq_ok_iff.1 h
    have hv := isOrdered_of_ofAnswer hd ho
    refine ⟨hv.length_eq.symm.trans hl, fun item hm => ?_⟩
    obtain ⟨xs, hx, he⟩ := hv.exists_vector hm
    exact ⟨xs, he, hu xs hx⟩
  · rintro ⟨hl, hi⟩
    obtain ⟨vectors, ho⟩ := exists_ofAnswer_eq_ok hd fun item hm =>
      (hi item hm).imp fun _ h => h.1
    have hv := isOrdered_of_ofAnswer hd ho
    refine ⟨vectors, checked_eq_ok_iff.2 ⟨ho, hv.length_eq.trans hl, fun xs hx => ?_⟩⟩
    -- The vector is that of an item, and the item has no other one.
    obtain ⟨item, hm, he⟩ := hv.exists_item hx
    obtain ⟨ys, hy, hu⟩ := hi item hm
    rwa [he.unique hy]

/-! ## The law of attribution -/

/-- **The embeddings of so many texts are attributed** in the result of a request that is answered
with a body. -/
structure IsAttributed (dimensions : Option Nat) (count : Nat) (body : Json)
    (result : Except CallError (List (List Single))) : Prop where
  /-- There are embeddings if the body lists one item for each text and all items have usable
  embeddings, whatever their labels are. -/
  taken : (∃ vectors, result = .ok vectors) ↔ ∃ items, body.get? "data" = some (.array items) ∧
    items.length = count ∧ ∀ item ∈ items, ∃ xs, IsEmbeddingOf item xs ∧ IsUsable dimensions xs
  /-- Otherwise the answer is to blame. -/
  refused : ∀ failure, result = .error failure → ∃ fault, failure = .response fault
  /-- The embeddings are in the order of the labels, each item's once. -/
  ordered : ∀ vectors, result = .ok vectors → ∀ items, body.get? "data" = some (.array items) →
    vectors.length = count ∧ IsOrdered items vectors
  /-- If the labels are the places of the texts, each once, the embedding of the text in a place is
  that of the item with the place as its label. -/
  labelled : ∀ vectors, result = .ok vectors → ∀ items, body.get? "data" = some (.array items) →
    ((List.range count).map (label items)).Perm (List.range count) →
    ∀ place item l, items[place]? = some item → HasLabel item place l →
      ∃ xs, vectors[l]? = some xs ∧ IsEmbeddingOf item xs

theorem isOrdered_of_checked (hd : body.get? "data" = some (.array items))
    (h : checked count dimensions body = .ok vectors) :
    vectors.length = count ∧ IsOrdered items vectors := by
  obtain ⟨ho, hl, -⟩ := checked_eq_ok_iff.1 h
  exact ⟨hl, isOrdered_of_ofAnswer hd ho⟩

/-- **Every answer that is no bare list is attributed by the order of its labels**, whatever carries
the request. Answers that the JSON reader refuses (too deeply nested, numbers out of range) are not
among them: they are no bodies. -/
theorem isAttributed_embed {transport : Transport (StateM World)} {e : EmbeddingService}
    {texts : List String} {body : Json} {w after : World}
    (h : e.Receives transport texts w body after) (hb : ∀ vs, body ≠ .array vs) :
    IsAttributed e.dimensions texts.length body ((e.embed transport texts).run w).1 := by
  rw [EmbeddingService.embed_run_of_receives h]
  constructor
  case taken =>
    simp only [Except.mapError_eq_ok_iff]
    constructor
    · rintro ⟨vectors, hc⟩
      obtain ⟨items, hd⟩ := exists_items_of_ofAnswer hb (checked_eq_ok_iff.1 hc).1
      exact ⟨items, hd, (exists_checked_eq_ok_iff hd).1 ⟨vectors, hc⟩⟩
    · rintro ⟨items, hd, hi⟩
      exact (exists_checked_eq_ok_iff hd).2 hi
  case refused =>
    intro failure hf
    obtain ⟨fault, -, rfl⟩ := Except.mapError_eq_error_iff.1 hf
    exact ⟨fault, rfl⟩
  case ordered =>
    intro vectors hv items hd
    exact isOrdered_of_checked hd (Except.mapError_eq_ok_iff.1 hv)
  case labelled =>
    intro vectors hv items hd hl place item l hi hlabel
    obtain ⟨hc, ho⟩ := isOrdered_of_checked hd (Except.mapError_eq_ok_iff.1 hv)
    rw [← hc, ho.length_eq] at hl
    obtain rfl : label items place = l :=
      (label_of_getElem? hi).trans (index_eq_iff.2 hlabel)
    exact ho.getElem?_label hl hi

/-- Items in another order than their labels: the embeddings are in the order of the labels. -/
theorem isAttributed_embed_of_exchanged_items :
    let service : EmbeddingService :=
      { providerId := "local", apiBase := "http://e", path := "/embed", model := "m" }
    let text := r#"{"data":[{"index":1,"embedding":[2]},{"index":0,"embedding":[3]}]}"#
    let body : Json := .object [("data", .array
      [.object [("embedding", .array [.number (.integer 2)]), ("index", .number (.integer 1))],
        .object [("embedding", .array [.number (.integer 3)]), ("index", .number (.integer 0))]])]
    service.Receives (replying text) ["a", "b"] () body () ∧ (∀ vs, body ≠ .array vs) ∧
      ((service.embed (replying text) ["a", "b"]).run ()).1 =
        .ok [[.ofInt .single 3], [.ofInt .single 2]] ∧
      IsAttributed none 2 body ((service.embed (replying text) ["a", "b"]).run ()).1 := by
  intro service text body
  have hp : Json.parse text = some body := by
    simp only [text, body]
    cbv
  have h : service.Receives (replying text) ["a", "b"] () body () :=
    EmbeddingService.receives_replying (by decide +kernel) (by decide +kernel) hp
  have hb : ∀ vs, body ≠ .array vs := by simp [body]
  have ho : ofAnswer body = .ok [[.ofInt .single 3], [.ofInt .single 2]] := by
    refine (ofAnswer_eq_ok_iff rfl).2 ⟨[(1, [.ofInt .single 2]), (0, [.ofInt .single 3])],
      .cons (by decide +kernel) (.cons (by decide +kernel) .nil), ?_⟩
    simp [inOrder, List.mergeSort]
  exact ⟨h, hb, EmbeddingService.embed_run_eq_ok h ho (by decide +kernel), isAttributed_embed h hb⟩

/-- **An embedding need not belong to the text that its label says**: one item states the label that
the other has by its place, and the text in the first place gets an embedding that is labelled with
the second. -/
theorem embed_of_repeated_label :
    let service : EmbeddingService :=
      { providerId := "local", apiBase := "http://e", path := "/embed", model := "m" }
    let text := r#"{"data":[{"index":1,"embedding":[2]},{"embedding":[3]}]}"#
    let items : List Json :=
      [.object [("embedding", .array [.number (.integer 2)]), ("index", .number (.integer 1))],
        .object [("embedding", .array [.number (.integer 3)])]]
    service.Receives (replying text) ["a", "b"] () (.object [("data", .array items)]) () ∧
      ((service.embed (replying text) ["a", "b"]).run ()).1 =
        .ok [[.ofInt .single 2], [.ofInt .single 3]] ∧
      (List.range 2).map (label items) = [1, 1] ∧
      ∀ place item, items[place]? = some item → ¬HasLabel item place 0 := by
  intro service text items
  have hp : Json.parse text = some (.object [("data", .array items)]) := by
    simp only [text, items]
    cbv
  have h : service.Receives (replying text) ["a", "b"] () (.object [("data", .array items)]) () :=
    EmbeddingService.receives_replying (by decide +kernel) (by decide +kernel) hp
  have ho : ofAnswer (.object [("data", .array items)]) =
      .ok [[.ofInt .single 2], [.ofInt .single 3]] := by
    refine (ofAnswer_eq_ok_iff rfl).2 ⟨[(1, [.ofInt .single 2]), (1, [.ofInt .single 3])],
      .cons (by decide +kernel) (.cons (by decide +kernel) .nil), ?_⟩
    -- Equal labels are in order as they are.
    rw [inOrder, List.mergeSort_of_pairwise (by decide)]
    rfl
  refine ⟨h, EmbeddingService.embed_run_eq_ok h ho (by decide +kernel), by decide +kernel, ?_⟩
  intro place item hi hl
  have hn : label items place = 0 := (label_of_getElem? hi).trans (index_eq_iff.2 hl)
  rcases place with _ | _ | place
  · exact absurd hn (by decide +kernel)
  · exact absurd hn (by decide +kernel)
  · cases hi

end Embedding

end Storefront
