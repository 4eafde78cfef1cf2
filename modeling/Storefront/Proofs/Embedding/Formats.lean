import Storefront.Proofs.Embedding.Attribution

/-!
# Formats of embeddings

A service may answer with a bare list of embeddings, or with items in any order that state their
indices, or with items in order that state none. In all three the labels are the places of the
embeddings, each once, so the vectors come out in the order of the bare list. What is taken and what
is refused is decided by the embeddings alone.

## Main definitions

* `Embedding.Carries`: a body that carries embeddings in one of the formats
* `Embedding.IsLabelling`: items whose labels are the places of embeddings
* `Embedding.Embeds`: the vectors that embeddings give so many texts
* `Embedding.Agree`: two results that agree on embeddings

## Main results

* `ofAnswer_eq_ok_iff_of_isLabelling`: the vectors of items are those of the embeddings
* `ofAnswer_eq_ok_iff_of_carries`: so are those of every format
* `agree_embed`: all formats and orders lead to the same embeddings
-/

namespace Storefront

open Http Json

variable {World World' : Type}

namespace Embedding

variable {dimensions : Option Nat} {count : Nat} {vs items : List Json} {body : Json}
  {vectors : List (List Single)}

/-! ## Formats -/

/-- **A body that carries embeddings**, which stand in the order of the texts. -/
inductive Carries (vs : List Json) : Json → Prop
  /-- They are the body. -/
  | bare : Carries vs (.array vs)
  /-- They are in items that state their indices, in any order. -/
  | indexed {body : Json} {items : List Json} {pairs : List (Json × Nat)}
      (hd : body.get? "data" = some (.array items)) (hp : pairs.Perm vs.zipIdx)
      (hi : List.Forall₂ (fun pair item => item.get? "embedding" = some pair.1 ∧
        item.get? "index" = some (.ofNat pair.2)) pairs items) : Carries vs body
  /-- They are in items that state no index, in their order. -/
  | plain {body : Json} {items : List Json} (hd : body.get? "data" = some (.array items))
      (hi : List.Forall₂ (fun v item => item.get? "embedding" = some v ∧ item.get? "index" = none)
        vs items) : Carries vs body

/-- **Items whose labels are the places of embeddings**, each once. -/
structure IsLabelling (vs items : List Json) : Prop where
  /-- There are as many items as embeddings. -/
  length_eq : items.length = vs.length
  /-- The labels are the places. -/
  labels : ((List.range items.length).map (label items)).Perm (List.range items.length)
  /-- Each item has the embedding in the place that is its label. -/
  embedding : ∀ place item, items[place]? = some item →
    ∃ v, vs[label items place]? = some v ∧ item.get? "embedding" = some v

/-- The labels of items are a list of numbers if the label in each place is the number there. -/
theorem map_label_eq {numbers : List Nat} (hl : items.length = numbers.length)
    (h : ∀ (place : Nat) n, numbers[place]? = some n → label items place = n) :
    (List.range items.length).map (label items) = numbers := by
  apply List.ext_getElem
  · rw [List.length_map, List.length_range, hl]
  · intro place hp hn
    rw [List.getElem_map, List.getElem_range]
    exact h place _ (List.getElem?_eq_getElem hn)

theorem isLabelling_of_pairs {pairs : List (Json × Nat)} (hp : pairs.Perm vs.zipIdx)
    (he : List.Forall₂ (fun pair item => item.get? "embedding" = some pair.1) pairs items)
    (hl : ∀ (place : Nat) pair, pairs[place]? = some pair → label items place = pair.2) :
    IsLabelling vs items := by
  have hlen : items.length = vs.length := by
    rw [← he.length_eq, hp.length_eq, List.length_zipIdx]
  have hmap : (List.range items.length).map (label items) = pairs.map Prod.snd := by
    apply map_label_eq
    · rw [List.length_map, he.length_eq]
    · intro place n hn
      rw [List.getElem?_map, Option.map_eq_some_iff] at hn
      obtain ⟨pair, hpair, rfl⟩ := hn
      exact hl place pair hpair
  constructor
  case length_eq => exact hlen
  case labels =>
    rw [hmap, hlen, List.range_eq_range', ← List.zipIdx_map_snd]
    exact hp.map Prod.snd
  case embedding =>
    intro place item hitem
    obtain ⟨pair, hpair, hv⟩ := exists_partner_at he.flip hitem
    refine ⟨pair.1, ?_, hv⟩
    -- The pair stands with the place of its embedding, which is the label.
    rw [hl place pair hpair]
    exact List.mem_zipIdx_iff_getElem?.1 (hp.subset (List.mem_of_getElem? hpair))

theorem isLabelling_of_indexed {pairs : List (Json × Nat)} (hp : pairs.Perm vs.zipIdx)
    (hi : List.Forall₂ (fun pair item => item.get? "embedding" = some pair.1 ∧
      item.get? "index" = some (.ofNat pair.2)) pairs items) : IsLabelling vs items := by
  apply isLabelling_of_pairs hp (hi.imp fun _ _ h => h.1)
  intro place pair hpair
  obtain ⟨item, hitem, -, hindex⟩ := exists_partner_at hi hpair
  exact (label_of_getElem? hitem).trans (index_eq_iff.2 (.stated hindex))

theorem isLabelling_of_plain (hi : List.Forall₂ (fun v item => item.get? "embedding" = some v ∧
    item.get? "index" = none) vs items) : IsLabelling vs items := by
  -- The embeddings are paired with their places, so that there is nothing to reorder.
  have hz : List.Forall₂ (fun pair item => item.get? "embedding" = some pair.1 ∧
      item.get? "index" = none) vs.zipIdx items := by
    rw [← List.zipIdx_map_fst 0 vs, List.forall₂_map_left_iff] at hi
    exact hi
  apply isLabelling_of_pairs (.refl _) (hz.imp fun _ _ h => h.1)
  intro place pair hpair
  obtain ⟨item, hitem, -, hindex⟩ := exists_partner_at hz hpair
  have hplaced : HasLabel item place place := by
    apply HasLabel.placed
    intro n hn
    cases hindex.symm.trans hn
  rw [List.getElem?_zipIdx, Option.map_eq_some_iff] at hpair
  obtain ⟨v, -, rfl⟩ := hpair
  rw [label_of_getElem? hitem, index_eq_iff.2 hplaced, Nat.zero_add]

/-! ## Vectors -/

/-- A list of vectors that is read of items labelled with places has the vector of each embedding in
its place. -/
theorem forall₂_of_isLabelling (hl : IsLabelling vs items) (ho : IsOrdered items vectors) :
    List.Forall₂ IsVectorOf vs vectors := by
  refine List.forall₂_iff_get.2 ⟨hl.length_eq.symm.trans ho.length_eq.symm, fun i hv hx => ?_⟩
  -- The place is the label of some item.
  have hm : i ∈ (List.range items.length).map (label items) :=
    hl.labels.mem_iff.2 (List.mem_range.2 (hl.length_eq ▸ hv))
  obtain ⟨place, hplace, rfl⟩ := List.mem_map.1 hm
  have hitem := List.getElem?_eq_getElem (List.mem_range.1 hplace)
  obtain ⟨v, hvs, he⟩ := hl.embedding place _ hitem
  obtain ⟨xs, hxs, v', he', hvec⟩ := ho.getElem?_label hl.labels hitem
  obtain rfl := Option.some.inj (he.symm.trans he')
  rw [List.get_eq_getElem, List.get_eq_getElem, (List.getElem?_eq_some_iff.1 hvs).2,
    (List.getElem?_eq_some_iff.1 hxs).2]
  exact hvec

/-- **The vectors of items labelled with places** are those of the embeddings. -/
theorem ofAnswer_eq_ok_iff_of_isLabelling (hd : body.get? "data" = some (.array items))
    (hl : IsLabelling vs items) :
    ofAnswer body = .ok vectors ↔ List.Forall₂ IsVectorOf vs vectors := by
  constructor
  · intro h
    exact forall₂_of_isLabelling hl (isOrdered_of_ofAnswer hd h)
  · intro h
    have hi : ∀ item ∈ items, ∃ xs, IsEmbeddingOf item xs := by
      intro item hm
      obtain ⟨place, hitem⟩ := List.mem_iff_getElem?.1 hm
      obtain ⟨v, hv, he⟩ := hl.embedding place item hitem
      obtain ⟨xs, -, hx⟩ := exists_partner_at h hv
      exact ⟨xs, v, he, hx⟩
    obtain ⟨found, hf⟩ := exists_ofAnswer_eq_ok hd hi
    -- Each embedding has one vector only, so no others are found.
    have hfound := forall₂_of_isLabelling hl (isOrdered_of_ofAnswer hd hf)
    have hunique : Relator.RightUnique IsVectorOf := fun _ _ _ => IsVectorOf.unique
    rwa [List.right_unique_forall₂' hunique h hfound]

/-- **The vectors of a body** are those of the embeddings that it carries, in whichever format. -/
theorem ofAnswer_eq_ok_iff_of_carries (h : Carries vs body) :
    ofAnswer body = .ok vectors ↔ List.Forall₂ IsVectorOf vs vectors := by
  cases h with
  | bare =>
    show vs.mapM vector = .ok vectors ↔ _
    simp only [mapM_eq_ok_iff, vector_eq_ok_iff]
  | indexed hd hp hi => exact ofAnswer_eq_ok_iff_of_isLabelling hd (isLabelling_of_indexed hp hi)
  | plain hd hi => exact ofAnswer_eq_ok_iff_of_isLabelling hd (isLabelling_of_plain hi)

/-! ## Agreement -/

/-- **The vectors that embeddings give so many texts**: there is one for each, and all are
usable. -/
structure Embeds (dimensions : Option Nat) (count : Nat) (vs : List Json)
    (vectors : List (List Single)) : Prop where
  /-- They are the vectors of the embeddings, in order. -/
  forall₂ : List.Forall₂ IsVectorOf vs vectors
  /-- There are as many as texts. -/
  length_eq : vectors.length = count
  /-- Nothing is wrong with any of them. -/
  isUsable : ∀ xs ∈ vectors, IsUsable dimensions xs

theorem checked_eq_ok_iff_of_carries (h : Carries vs body) :
    checked count dimensions body = .ok vectors ↔ Embeds dimensions count vs vectors := by
  rw [checked_eq_ok_iff, ofAnswer_eq_ok_iff_of_carries h]
  exact ⟨fun ⟨hv, hl, hu⟩ => ⟨hv, hl, hu⟩, fun ⟨hv, hl, hu⟩ => ⟨hv, hl, hu⟩⟩

/-- **Two results that agree** on the embeddings of so many texts. -/
inductive Agree (dimensions : Option Nat) (count : Nat) (vs : List Json) :
    Except CallError (List (List Single)) → Except CallError (List (List Single)) → Prop
  /-- Both are the vectors of the embeddings. -/
  | taken {vectors : List (List Single)} (h : Embeds dimensions count vs vectors) :
      Agree dimensions count vs (.ok vectors) (.ok vectors)
  /-- Both find fault with the answer, for the embeddings do not give the texts vectors. -/
  | refused {fault fault' : EmbeddingFault} (h : ∀ vectors, ¬Embeds dimensions count vs vectors) :
      Agree dimensions count vs (.error (.response fault)) (.error (.response fault'))

/-- **All formats and orders lead to the same embeddings**, whatever carries the requests. Both
bodies have passed the JSON reader, which refuses numbers out of range and what is nested too deeply.
As the formats nest to different depths, it may refuse one answer and read the other; of such a pair
nothing is said. -/
theorem agree_embed {transport : Transport (StateM World)} {transport' : Transport (StateM World')}
    {e : EmbeddingService} {texts : List String} {body body' : Json} {w after : World}
    {w' after' : World'} (h : e.Receives transport texts w body after)
    (h' : e.Receives transport' texts w' body' after') (hb : Carries vs body)
    (hb' : Carries vs body') :
    Agree e.dimensions texts.length vs ((e.embed transport texts).run w).1
      ((e.embed transport' texts).run w').1 := by
  rw [EmbeddingService.embed_run_of_receives h, EmbeddingService.embed_run_of_receives h']
  cases hc : checked texts.length e.dimensions body with
  | ok vectors =>
    have hv := (checked_eq_ok_iff_of_carries hb).1 hc
    rw [(checked_eq_ok_iff_of_carries hb').2 hv]
    exact .taken hv
  | error fault =>
    have hn : ∀ vectors, ¬Embeds e.dimensions texts.length vs vectors := by
      intro vectors hv
      cases hc.symm.trans ((checked_eq_ok_iff_of_carries hb).2 hv)
    cases hc' : checked texts.length e.dimensions body' with
    | ok vectors => exact absurd ((checked_eq_ok_iff_of_carries hb').1 hc') (hn vectors)
    | error fault' => exact .refused hn

/-- A bare list and items in another order. -/
theorem agree_embed_of_exchanged_items :
    let service : EmbeddingService :=
      { providerId := "local", apiBase := "http://e", path := "/embed", model := "m" }
    let bare := "[[2],[3]]"
    let indexed := r#"{"data":[{"index":1,"embedding":[3]},{"index":0,"embedding":[2]}]}"#
    let vs : List Json := [.array [.number (.integer 2)], .array [.number (.integer 3)]]
    let body : Json := .object [("data", .array
      [.object [("embedding", .array [.number (.integer 3)]), ("index", .number (.integer 1))],
        .object [("embedding", .array [.number (.integer 2)]), ("index", .number (.integer 0))]])]
    service.Receives (replying bare) ["a", "b"] () (.array vs) () ∧
      service.Receives (replying indexed) ["a", "b"] () body () ∧
      Carries vs (.array vs) ∧ Carries vs body ∧
      ((service.embed (replying indexed) ["a", "b"]).run ()).1 =
        .ok [[.ofInt .single 2], [.ofInt .single 3]] ∧
      Agree none 2 vs ((service.embed (replying bare) ["a", "b"]).run ()).1
        ((service.embed (replying indexed) ["a", "b"]).run ()).1 := by
  intro service bare indexed vs body
  have hp : Json.parse bare = some (.array vs) := by
    simp only [bare, vs]
    cbv
  have hp' : Json.parse indexed = some body := by
    simp only [indexed, body]
    cbv
  have h : service.Receives (replying bare) ["a", "b"] () (.array vs) () :=
    EmbeddingService.receives_replying (by decide +kernel) (by decide +kernel) hp
  have h' : service.Receives (replying indexed) ["a", "b"] () body () :=
    EmbeddingService.receives_replying (by decide +kernel) (by decide +kernel) hp'
  have hb : Carries vs body :=
    .indexed rfl (.swap _ _ _) (.cons ⟨rfl, rfl⟩ (.cons ⟨rfl, rfl⟩ .nil))
  -- The items have the vectors of the bare list.
  have ho : ofAnswer body = .ok [[.ofInt .single 2], [.ofInt .single 3]] :=
    (ofAnswer_eq_ok_iff_of_carries hb).2
      ((ofAnswer_eq_ok_iff_of_carries .bare).1 (by decide +kernel))
  exact ⟨h, h', .bare, hb, EmbeddingService.embed_run_eq_ok h' ho (by decide +kernel),
    agree_embed h h' .bare hb⟩

end Embedding

end Storefront
