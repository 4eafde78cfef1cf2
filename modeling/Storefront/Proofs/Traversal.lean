import Mathlib.Data.List.Forall2

/-!
# Walks through a list that may fail

A walk through a list takes each item to a result, and gives nothing as soon as one item has none.
So it succeeds exactly if every item has a result, and then the results stand as the items do.

## Main results

* `mapM_eq_some_iff`, `mapM_eq_ok_iff`: the results of a walk, item by item
* `exists_forall₂`: a walk succeeds if every item has a result
* `getElem?_of_forall₂`: each result is that of the item in its place
-/

namespace Storefront

variable {α β ε : Type}

/-- **The results of a walk** are those of the items, one for each. -/
theorem mapM_eq_some_iff {f : α → Option β} {items : List α} {results : List β} :
    items.mapM f = some results ↔ List.Forall₂ (fun a b => f a = some b) items results := by
  induction items generalizing results with
  | nil => simp [eq_comm]
  | cons a items ih =>
    rw [List.mapM_cons, List.forall₂_cons_left_iff]
    constructor
    · intro h
      obtain ⟨b, hb, h⟩ := Option.bind_eq_some_iff.1 h
      obtain ⟨rest, hrest, h⟩ := Option.bind_eq_some_iff.1 h
      exact ⟨b, rest, hb, ih.1 hrest, (Option.some.inj h).symm⟩
    · rintro ⟨b, rest, hb, hrest, rfl⟩
      rw [hb, ih.2 hrest]
      rfl

/-- **The results of a walk** are those of the items, one for each. -/
theorem mapM_eq_ok_iff {f : α → Except ε β} {items : List α} {results : List β} :
    items.mapM f = .ok results ↔ List.Forall₂ (fun a b => f a = .ok b) items results := by
  induction items generalizing results with
  | nil => simp [pure, Except.pure, eq_comm]
  | cons a items ih =>
    rw [List.mapM_cons, List.forall₂_cons_left_iff]
    constructor
    · intro h
      cases ha : f a with
      | error e => simp [ha, bind, Except.bind] at h
      | ok b =>
        cases hr : items.mapM f with
        | error e => simp [ha, hr, bind, Except.bind] at h
        | ok rest =>
          rw [ha, hr] at h
          exact ⟨b, rest, rfl, ih.1 hr, (Except.ok.inj h).symm⟩
    · rintro ⟨b, rest, hb, hrest, rfl⟩
      rw [hb, ih.2 hrest]
      rfl

theorem exists_forall₂ {R : α → β → Prop} {items : List α} (h : ∀ a ∈ items, ∃ b, R a b) :
    ∃ results, List.Forall₂ R items results := by
  induction items with
  | nil => exact ⟨[], .nil⟩
  | cons a items ih =>
    obtain ⟨b, hb⟩ := h a List.mem_cons_self
    obtain ⟨rest, hrest⟩ := ih fun a' ha => h a' (List.mem_cons_of_mem _ ha)
    exact ⟨b :: rest, .cons hb hrest⟩

section Partners

variable {R : α → β → Prop} {items : List α} {results : List β}

/-- The partner of an item stands where the item does. -/
theorem exists_partner_at (h : List.Forall₂ R items results) {i : Nat} {a : α}
    (ha : items[i]? = some a) : ∃ b, results[i]? = some b ∧ R a b := by
  induction h generalizing i with
  | nil => cases ha
  | cons hr _ ih =>
    cases i with
    | zero => exact ⟨_, rfl, Option.some.inj ha ▸ hr⟩
    | succ i => exact ih ha

theorem exists_partner (h : List.Forall₂ R items results) {a : α} (ha : a ∈ items) :
    ∃ b ∈ results, R a b := by
  obtain ⟨i, hi⟩ := List.mem_iff_getElem?.1 ha
  obtain ⟨b, hb, hr⟩ := exists_partner_at h hi
  exact ⟨b, List.mem_of_getElem? hb, hr⟩

end Partners

end Storefront
