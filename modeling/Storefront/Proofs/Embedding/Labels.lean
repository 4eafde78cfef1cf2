import Storefront.Proofs.Json.Records
import Storefront.Proofs.Search.Vectors
import Storefront.Proofs.Traversal

/-!
# The vectors of an answer

The items of an answer have labels: the index that an item states, or else its place. The vectors of
the items are put in the order of their labels, and those of equal labels stay in the order of the
items. So if the labels are the places in some order, the vector of an item stands in the place that
is its label.

## Main definitions

* `Embedding.IsVectorOf`, `Embedding.IsEmbeddingOf`: the vector of a value and of an item
* `Embedding.HasLabel`, `Embedding.label`: the label of an item
* `Embedding.IsOrdered`: vectors in the order of the labels

## Main results

* `vector_eq_ok_iff`, `index_eq_iff`: which vectors and which labels are read
* `isOrdered_of_ofAnswer`: the vectors of a list of items are in the order of the labels
* `exists_ofAnswer_eq_ok`: a list of items that all have embeddings has vectors
* `IsOrdered.getElem?_label`: where the vector of an item stands if the labels are the places
-/

namespace Storefront

open Json

namespace Embedding

/-! ## Vectors and labels -/

variable {item v : Json} {xs : List Single} {place n : Nat}

/-- **The vector of a value**: the value is a list of numbers, and these are its components once
they are narrowed to 32 bits. -/
def IsVectorOf (v : Json) (xs : List Single) : Prop :=
  ∃ components, v = .array components ∧ List.Forall₂
    (fun c x => ∃ number, c = .number number ∧ x = number.toDouble.convert .single) components xs

theorem component_eq_ok_iff {c : Json} {x : Single} : component c = .ok x ↔
    ∃ number, c = .number number ∧ x = number.toDouble.convert .single := by
  cases c with
  | number number => simp [component, eq_comm]
  | null | bool | text | array | object => simp [component]

theorem vector_eq_ok_iff : vector v = .ok xs ↔ IsVectorOf v xs := by
  cases v with
  | array components => simp [vector, IsVectorOf, mapM_eq_ok_iff, component_eq_ok_iff]
  | null | bool | number | text | object => simp [vector, IsVectorOf]

theorem IsVectorOf.unique {ys : List Single} (h : IsVectorOf v xs) (h' : IsVectorOf v ys) :
    xs = ys :=
  Except.ok.inj ((vector_eq_ok_iff.2 h).symm.trans (vector_eq_ok_iff.2 h'))

/-- The vector of an item is that of its embedding. -/
def IsEmbeddingOf (item : Json) (xs : List Single) : Prop :=
  ∃ v, item.get? "embedding" = some v ∧ IsVectorOf v xs

theorem IsEmbeddingOf.unique {ys : List Single} (h : IsEmbeddingOf item xs)
    (h' : IsEmbeddingOf item ys) : xs = ys := by
  obtain ⟨v, hv, hx⟩ := h
  obtain ⟨v', hv', hy⟩ := h'
  obtain rfl := Option.some.inj (hv.symm.trans hv')
  exact hx.unique hy

/-- **The label of the item in a place**: the index that it states, if that is a whole number that
is not negative, and else the place. -/
inductive HasLabel (item : Json) (place : Nat) : Nat → Prop
  /-- The item states its index. -/
  | stated {n : Nat} (h : item.get? "index" = some (.ofNat n)) : HasLabel item place n
  /-- The item states none. -/
  | placed (h : ∀ n : Nat, item.get? "index" ≠ some (.ofNat n)) : HasLabel item place place

theorem hasLabel_index (item : Json) (place : Nat) : HasLabel item place (index item place) := by
  unfold index
  split
  · next n hn =>
    split
    · next h0 =>
      refine .stated ?_
      rw [hn, Json.ofNat, Int.toNat_of_nonneg h0]
    · next h0 =>
      refine .placed fun n' he => ?_
      cases hn.symm.trans he
      exact h0 (Int.natCast_nonneg n')
  · next hn => exact .placed fun n' he => hn n' he

theorem HasLabel.unique {m n : Nat} (h : HasLabel item place m) (h' : HasLabel item place n) :
    m = n := by
  cases h with
  | stated h =>
    cases h' with
    | stated h' =>
      cases h.symm.trans h'
      rfl
    | placed h' => exact absurd h (h' m)
  | placed h =>
    cases h' with
    | stated h' => exact absurd h' (h n)
    | placed => rfl

theorem index_eq_iff : index item place = n ↔ HasLabel item place n :=
  ⟨fun h => h ▸ hasLabel_index item place, fun h => (hasLabel_index item place).unique h⟩

theorem labelled_eq_ok_iff {entry : Nat × List Single} : labelled (item, place) = .ok entry ↔
    index item place = entry.1 ∧ IsEmbeddingOf item entry.2 := by
  obtain ⟨l, xs⟩ := entry
  unfold labelled IsEmbeddingOf
  cases he : item.get? "embedding" with
  | none => simp
  | some v =>
    cases hv : vector v with
    | error fault => simp [hv, ← vector_eq_ok_iff, Except.map]
    | ok ys => simp [hv, ← vector_eq_ok_iff, Except.map]

/-! ## The order of the vectors -/

variable {items : List Json} {body : Json} {vectors : List (List Single)}

/-- The label of the item in a place of a list. -/
def label (items : List Json) (place : Nat) : Nat :=
  (items[place]?.map (index · place)).getD place

theorem label_of_getElem? (h : items[place]? = some item) :
    label items place = index item place := by
  simp [label, h]

/-- Where the labels decide, the places decide between equal labels. -/
def ComesBefore (items : List Json) (p q : Nat) : Prop :=
  label items p < label items q ∨ label items p = label items q ∧ p < q

/-- **Vectors in the order of the labels**: there is one for each item, and those of equal labels
stand as their items do. -/
def IsOrdered (items : List Json) (vectors : List (List Single)) : Prop :=
  ∃ places : List Nat, places.Perm (List.range items.length) ∧
    places.Pairwise (ComesBefore items) ∧
    List.Forall₂ (fun place xs => ∃ item, items[place]? = some item ∧ IsEmbeddingOf item xs)
      places vectors

theorem ofAnswer_eq_ok_iff (hd : body.get? "data" = some (.array items)) :
    ofAnswer body = .ok vectors ↔ ∃ entries,
      List.Forall₂ (fun entry found => labelled entry = .ok found) items.zipIdx entries ∧
        (inOrder entries).map Prod.snd = vectors := by
  cases body with
  | object members =>
    simp only [ofAnswer, bind_items?_eq_some_iff.2 hd]
    rw [bind_eq_ok_iff]
    simp [mapM_eq_ok_iff, pure, Except.pure]
  | null | bool | number | text | array => cases hd

/-- **Sorting keeps the places apart**: entries in order are entries at places, and of equal labels
the earlier place comes first. -/
theorem exists_placed_eq_inOrder (entries : List (Nat × List Single)) :
    ∃ placed : List ((Nat × List Single) × Nat), placed.Perm entries.zipIdx ∧
      placed.Pairwise (fun a b => a.1.1 < b.1.1 ∨ a.1.1 = b.1.1 ∧ a.2 < b.2) ∧
      placed.map Prod.fst = inOrder entries := by
  let le (a b : Nat × List Single) : Bool := decide (a.1 ≤ b.1)
  have htrans : ∀ a b c, le a b = true → le b c = true → le a c = true := by
    simp only [le, decide_eq_true_eq]
    omega
  have htotal : ∀ a b, (le a b || le b a) = true := by
    simp only [le, Bool.or_eq_true, decide_eq_true_eq]
    omega
  have hp := List.mergeSort_perm entries.zipIdx (List.zipIdxLE le)
  have hs := List.pairwise_mergeSort (List.zipIdxLE_trans htrans) (List.zipIdxLE_total htotal)
    entries.zipIdx
  have hn : ((entries.zipIdx.mergeSort (List.zipIdxLE le)).map Prod.snd).Nodup := by
    rw [(hp.map Prod.snd).nodup_iff, List.zipIdx_map_snd]
    exact List.nodup_range'
  refine ⟨_, hp, hs.imp₂ (fun a b hle hne => ?_) (List.pairwise_map.1 hn), List.mergeSort_zipIdx⟩
  -- The sort compares the places where the labels are equal, and no place is there twice.
  unfold List.zipIdxLE at hle
  simp only [le, decide_eq_true_eq] at hle
  split at hle
  · split at hle
    · simp only [decide_eq_true_eq] at hle
      omega
    · omega
  · cases hle

/-- **The vectors of a list of items are in the order of the labels.** -/
theorem isOrdered_of_ofAnswer (hd : body.get? "data" = some (.array items))
    (h : ofAnswer body = .ok vectors) : IsOrdered items vectors := by
  obtain ⟨entries, hentries, rfl⟩ := (ofAnswer_eq_ok_iff hd).1 h
  obtain ⟨placed, hp, hs, hmap⟩ := exists_placed_eq_inOrder entries
  have hlen : entries.length = items.length := by
    rw [← hentries.length_eq, List.length_zipIdx]
  -- What is placed is what the item in the place gives.
  have hitem : ∀ a ∈ placed, ∃ item, items[a.2]? = some item ∧ label items a.2 = a.1.1 ∧
      IsEmbeddingOf item a.1.2 := by
    intro a ha
    have hget : entries[a.2]? = some a.1 := List.mem_zipIdx_iff_getElem?.1 (hp.subset ha)
    obtain ⟨⟨item, place⟩, hz, hl⟩ := exists_partner_at hentries.flip hget
    rw [List.getElem?_zipIdx, Option.map_eq_some_iff] at hz
    obtain ⟨_, hi, he⟩ := hz
    simp only [Prod.mk.injEq, Nat.zero_add] at he
    obtain ⟨rfl, rfl⟩ := he
    obtain ⟨hindex, hx⟩ := labelled_eq_ok_iff.1 hl
    exact ⟨_, hi, (label_of_getElem? hi).trans hindex, hx⟩
  refine ⟨placed.map Prod.snd, ?_, ?_, ?_⟩
  · refine (hp.map Prod.snd).trans (.of_eq ?_)
    rw [List.zipIdx_map_snd, hlen, List.range_eq_range']
  · refine List.pairwise_map.2 (hs.imp_of_mem fun {a b} ha hb hab => ?_)
    obtain ⟨-, -, hla, -⟩ := hitem a ha
    obtain ⟨-, -, hlb, -⟩ := hitem b hb
    rw [ComesBefore, hla, hlb]
    exact hab
  · rw [← hmap, List.map_map, List.forall₂_map_left_iff, List.forall₂_map_right_iff]
    refine List.forall₂_same.2 fun a ha => ?_
    obtain ⟨item, hi, -, hx⟩ := hitem a ha
    exact ⟨item, hi, hx⟩

theorem exists_ofAnswer_eq_ok (hd : body.get? "data" = some (.array items))
    (h : ∀ item ∈ items, ∃ xs, IsEmbeddingOf item xs) : ∃ vectors, ofAnswer body = .ok vectors := by
  have hl : ∀ entry ∈ items.zipIdx, ∃ found, labelled entry = .ok found := by
    rintro ⟨item, place⟩ hm
    obtain ⟨xs, hx⟩ := h item (List.mem_of_getElem? (List.mem_zipIdx_iff_getElem?.1 hm))
    exact ⟨(index item place, xs), labelled_eq_ok_iff.2 ⟨rfl, hx⟩⟩
  obtain ⟨entries, he⟩ := exists_forall₂ hl
  exact ⟨_, (ofAnswer_eq_ok_iff hd).2 ⟨entries, he, rfl⟩⟩

namespace IsOrdered

theorem length_eq (h : IsOrdered items vectors) : vectors.length = items.length := by
  obtain ⟨places, hp, -, hv⟩ := h
  rw [← hv.length_eq, hp.length_eq, List.length_range]

theorem exists_item (h : IsOrdered items vectors) (hx : xs ∈ vectors) :
    ∃ item ∈ items, IsEmbeddingOf item xs := by
  obtain ⟨places, -, -, hv⟩ := h
  obtain ⟨place, -, item, hi, he⟩ := exists_partner hv.flip hx
  exact ⟨item, List.mem_of_getElem? hi, he⟩

theorem exists_vector (h : IsOrdered items vectors) (hm : item ∈ items) :
    ∃ xs ∈ vectors, IsEmbeddingOf item xs := by
  obtain ⟨places, hp, -, hv⟩ := h
  obtain ⟨place, hi⟩ := List.mem_iff_getElem?.1 hm
  obtain ⟨hlt, -⟩ := List.getElem?_eq_some_iff.1 hi
  obtain ⟨xs, hx, item', hi', he⟩ := exists_partner hv (hp.mem_iff.2 (List.mem_range.2 hlt))
  obtain rfl := Option.some.inj (hi.symm.trans hi')
  exact ⟨xs, hx, he⟩

/-- **Where the vector of an item stands** if the labels are the places in some order: in the place
that is its label. -/
theorem getElem?_label (h : IsOrdered items vectors)
    (hl : ((List.range items.length).map (label items)).Perm (List.range items.length))
    (hi : items[place]? = some item) :
    ∃ xs, vectors[label items place]? = some xs ∧ IsEmbeddingOf item xs := by
  obtain ⟨places, hp, hs, hv⟩ := h
  -- The labels in their order can only be the numbers in theirs.
  have hle : (places.map (label items)).Pairwise (· ≤ ·) :=
    List.pairwise_map.2 (hs.imp fun {p q} hpq => by rcases hpq with h | ⟨h, -⟩ <;> omega)
  have hrange : places.map (label items) = List.range items.length :=
    List.Perm.eq_of_pairwise (fun _ _ _ _ => Nat.le_antisymm) hle List.pairwise_le_range
      ((hp.map _).trans hl)
  obtain ⟨hlt, -⟩ := List.getElem?_eq_some_iff.1 hi
  obtain ⟨i, hpi⟩ := List.mem_iff_getElem?.1 (hp.mem_iff.2 (List.mem_range.2 hlt))
  have hlabel : label items place = i := by
    have hli : (places.map (label items))[i]? = some (label items place) := by
      rw [List.getElem?_map, hpi]
      rfl
    rw [hrange] at hli
    exact ((List.getElem?_eq_some_iff.1 hli).2).symm.trans (List.getElem_range _)
  obtain ⟨xs, hx, item', hi', he⟩ := exists_partner_at hv hpi
  obtain rfl := Option.some.inj (hi.symm.trans hi')
  exact ⟨xs, hlabel ▸ hx, he⟩

end IsOrdered

end Embedding

end Storefront
