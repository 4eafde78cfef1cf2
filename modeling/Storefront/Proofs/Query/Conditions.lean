import Storefront.Proofs.Text.Layout
import Storefront.Query.Satisfaction

/-!
# What the condition of filters means

A product meets the condition of filters exactly if it meets each constraint that they set, where
texts are trimmed and blank ones constrain nothing. The condition is written in one way only: it has
one comparison for each constrained field, in a fixed order, and a conjunction around them if there
are several. So a further constraint adds a comparison and loses none, and what meets the larger
condition meets the smaller one.

## Main definitions

* `Filters.constrains`: the fields that filters constrain
* `Filters.IsWithin`: filters that set no more than others
* `Predicate.IsNormalOf`: the one condition with the given comparisons
* `Predicate.IsConjunctionOf`: a condition means its filters, and is in normal form

## Main results

* `mem_comparisons`, `map_field?_comparisons`: the comparisons of filters, and their fields
* `acceptsIfAny_ofFilters?_iff`: which products meet the condition of filters
* `comparisons_sublist`: a further constraint loses no comparison
* `isConjunctionOf_ofFilters?`: the condition of filters is the conjunction of their constraints
-/

namespace Storefront

open Text

/-! ## Filters -/

/-- The fields that can be constrained, in the order in which they are compared. -/
def FilterField.all : List FilterField := [.price, .color, .category]

namespace Filters

/-- **The fields that filters constrain.** A blank text constrains nothing. -/
def constrains (f : Filters) : FilterField → Bool
  | .price => f.price.isSome
  | .color => f.color.any (!isBlankText ·)
  | .category => f.category.any (!isBlankText ·)

/-- **Filters within others**: whatever the first ones set, the second ones set to the same. -/
structure IsWithin (f g : Filters) : Prop where
  price : ∀ n ∈ f.price, n ∈ g.price
  color : ∀ s ∈ f.color, s ∈ g.color
  category : ∀ s ∈ f.category, s ∈ g.category

end Filters

namespace Predicate

variable {f g : Filters} {p : Product} {c : Predicate} {q : Option Predicate} {t : String}
  {o o' : Option String}

/-! ## Conditions -/

/-- The field that a comparison is about; a conjunction is about none. -/
def field? : Predicate → Option FilterField
  | .and _ => none
  | .lessThan field _ => some field
  | .equal field _ => some field

/-- The comparisons of a condition, if there is one. -/
def leavesIfAny (q : Option Predicate) : List Predicate := (q.map leaves).getD []

/-- **The one condition with the given comparisons**: none for none, the comparison itself for one,
and one conjunction of all of them for more. -/
inductive IsNormalOf : List Predicate → Option Predicate → Prop
  /-- Nothing is compared. -/
  | absent : IsNormalOf [] none
  /-- One comparison stands alone. -/
  | single (c : Predicate) : IsNormalOf [c] (some c)
  /-- Several comparisons stand side by side. -/
  | several {cs : List Predicate} (h : 2 ≤ cs.length) : IsNormalOf cs (some (.and cs))

/-- A product meets a condition, if there is one, when it meets its comparisons. -/
theorem acceptsIfAny_iff : AcceptsIfAny p q ↔ ∀ c ∈ leavesIfAny q, Accepts p c := by
  cases q with
  | none => simp [AcceptsIfAny, leavesIfAny]
  | some c => simp [AcceptsIfAny, leavesIfAny, accepts_iff_leaves (q := c)]

theorem leavesIfAny_ofFilters? (f : Filters) : leavesIfAny (ofFilters? f) = comparisons f :=
  leaves_ofFilters? f

theorem isNormalOf_conjunction? (cs : List Predicate) : IsNormalOf cs (conjunction? cs) := by
  match cs with
  | [] => exact .absent
  | [c] => exact .single c
  | _ :: _ :: _ => exact .several (by simp)

/-! ## Constraints -/

/-- A text constrains by what is left of it after trimming, if it is not blank. -/
theorem constraintText?_eq_some_iff :
    constraintText? o = some t ↔ ∃ s ∈ o, isBlankText s = false ∧ t = trimText s := by
  simp only [constraintText?, Option.filter_eq_some_iff, Option.map_eq_some_iff, ne_eq,
    decide_eq_true_eq, Option.mem_def]
  constructor
  · rintro ⟨⟨s, rfl, rfl⟩, hne⟩
    rw [trimText_eq_empty_iff, Bool.not_eq_true] at hne
    exact ⟨s, rfl, hne, rfl⟩
  · rintro ⟨s, rfl, hb, rfl⟩
    refine ⟨⟨s, rfl, rfl⟩, ?_⟩
    rw [trimText_eq_empty_iff, hb]
    simp

theorem exists_mem_constraintText?_iff {P : String → Prop} :
    (∃ t ∈ constraintText? o, P t) ↔ ∃ s ∈ o, isBlankText s = false ∧ P (trimText s) := by
  constructor
  · rintro ⟨t, ht, hp⟩
    obtain ⟨s, hs, hb, rfl⟩ := constraintText?_eq_some_iff.1 ht
    exact ⟨s, hs, hb, hp⟩
  · rintro ⟨s, hs, hb, hp⟩
    exact ⟨trimText s, constraintText?_eq_some_iff.2 ⟨s, hs, hb, rfl⟩, hp⟩

theorem isSome_constraintText? : (constraintText? o).isSome = o.any (!isBlankText ·) := by
  rw [Bool.eq_iff_iff, Option.isSome_iff_exists]
  simp [constraintText?_eq_some_iff, Option.any_eq_true]

theorem constraintText?_mono (h : ∀ s ∈ o, s ∈ o') :
    ∀ t ∈ constraintText? o, t ∈ constraintText? o' := by
  intro t ht
  obtain ⟨s, hs, hb, rfl⟩ := constraintText?_eq_some_iff.1 ht
  exact constraintText?_eq_some_iff.2 ⟨s, h s hs, hb, rfl⟩

/-! ## The comparisons of filters -/

section Options

variable {α β : Type} {a a' : Option α} {h : α → β} {b : β}

theorem mem_toList_map : b ∈ (a.map h).toList ↔ ∃ x ∈ a, b = h x := by
  rw [Option.mem_toList, Option.map_eq_some_iff]
  simp only [eq_comm, Option.mem_def]

theorem sublist_toList_map (ha : ∀ x ∈ a, x ∈ a') :
    (a.map h).toList.Sublist (a'.map h).toList := by
  cases a with
  | none => exact List.nil_sublist _
  | some x =>
    obtain rfl := ha x rfl
    exact List.Sublist.refl _

end Options

/-- **The comparisons of filters** are those of the constraints that they set. -/
theorem mem_comparisons : c ∈ comparisons f ↔ (∃ n ∈ f.price, c = .lessThan .price n) ∨
    (∃ s ∈ f.color, isBlankText s = false ∧ c = .equal .color (trimText s)) ∨
    ∃ s ∈ f.category, isBlankText s = false ∧ c = .equal .category (trimText s) := by
  simp only [comparisons, List.mem_append, mem_toList_map, exists_mem_constraintText?_iff, or_assoc]

/-- There is one comparison for each constrained field, in the order of the fields. -/
theorem map_field?_comparisons (f : Filters) :
    (comparisons f).map field? = (FilterField.all.filter f.constrains).map some := by
  have hcolor : f.constrains .color = (constraintText? f.color).isSome :=
    isSome_constraintText?.symm
  have hcategory : f.constrains .category = (constraintText? f.category).isSome :=
    isSome_constraintText?.symm
  unfold comparisons FilterField.all
  -- by which of the three constraints are there
  cases hp : f.price <;> cases hc : constraintText? f.color <;>
    cases hk : constraintText? f.category <;>
    simp_all [Filters.constrains, field?]

/-- **A further constraint loses no comparison.** -/
theorem comparisons_sublist (h : f.IsWithin g) : (comparisons f).Sublist (comparisons g) := by
  have hcolor := sublist_toList_map (h := equal .color) (constraintText?_mono h.color)
  have hcategory := sublist_toList_map (h := equal .category) (constraintText?_mono h.category)
  exact ((sublist_toList_map h.price).append hcolor).append hcategory

/-! ## Products -/

/-- **A product meets the condition of filters** exactly if it meets each constraint. -/
theorem acceptsIfAny_ofFilters?_iff : AcceptsIfAny p (ofFilters? f) ↔
    (∀ n ∈ f.price, ∃ x, p.price = some x ∧ x.below (.ofInt .double n) = true) ∧
    (∀ s ∈ f.color, isBlankText s = false → p.color = trimText s) ∧
    ∀ s ∈ f.category, isBlankText s = false → p.category = trimText s := by
  have hprice (n : Nat) : Accepts p (.lessThan .price n) ↔
      ∃ x, p.price = some x ∧ x.below (.ofInt .double n) = true := Iff.rfl
  have hcolor (s : String) : Accepts p (.equal .color s) ↔ p.color = s := by
    simp [Accepts, FilterField.text?]
  have hcategory (s : String) : Accepts p (.equal .category s) ↔ p.category = s := by
    simp [Accepts, FilterField.text?]
  rw [acceptsIfAny_iff, leavesIfAny_ofFilters?]
  simp only [mem_comparisons]
  constructor
  · intro h
    refine ⟨fun n hn => ?_, fun s hs hb => ?_, fun s hs hb => ?_⟩
    · exact (hprice n).1 (h _ (.inl ⟨n, hn, rfl⟩))
    · exact (hcolor _).1 (h _ (.inr (.inl ⟨s, hs, hb, rfl⟩)))
    · exact (hcategory _).1 (h _ (.inr (.inr ⟨s, hs, hb, rfl⟩)))
  · rintro ⟨hp, hc, hk⟩ c (⟨n, hn, rfl⟩ | ⟨s, hs, hb, rfl⟩ | ⟨s, hs, hb, rfl⟩)
    · exact (hprice n).2 (hp n hn)
    · exact (hcolor _).2 (hc s hs hb)
    · exact (hcategory _).2 (hk s hs hb)

/-- **A condition is the conjunction of the constraints** that filters set. -/
structure IsConjunctionOf (f : Filters) (q : Option Predicate) : Prop where
  /-- A product meets it exactly if its price is known and less than the bound, if there is one, and
  if its color and its category are the trimmed ones, where these are not blank. -/
  accepts : ∀ p : Product, AcceptsIfAny p q ↔
    (∀ n ∈ f.price, ∃ x, p.price = some x ∧ x.below (.ofInt .double n) = true) ∧
    (∀ s ∈ f.color, isBlankText s = false → p.color = trimText s) ∧
    ∀ s ∈ f.category, isBlankText s = false → p.category = trimText s
  /-- Its comparisons are those of the constraints ... -/
  mem_leaves : ∀ c, c ∈ leavesIfAny q ↔ (∃ n ∈ f.price, c = .lessThan .price n) ∨
    (∃ s ∈ f.color, isBlankText s = false ∧ c = .equal .color (trimText s)) ∨
    ∃ s ∈ f.category, isBlankText s = false ∧ c = .equal .category (trimText s)
  /-- ... one for each constrained field, in the order price, color, category. -/
  fields : (leavesIfAny q).map field? = (FilterField.all.filter f.constrains).map some
  /-- It is the one condition with these comparisons, so that no conjunction stands in another. -/
  normal : IsNormalOf (leavesIfAny q) q

/-- **The condition of filters is the conjunction of their constraints**, and filters that set more
have all of the comparisons and are met by no other products. -/
theorem isConjunctionOf_ofFilters? (f : Filters) :
    IsConjunctionOf f (ofFilters? f) ∧ ∀ g, f.IsWithin g →
      (leavesIfAny (ofFilters? f)).Sublist (leavesIfAny (ofFilters? g)) ∧
        ∀ p, AcceptsIfAny p (ofFilters? g) → AcceptsIfAny p (ofFilters? f) := by
  refine ⟨⟨fun _ => acceptsIfAny_ofFilters?_iff, ?_, ?_, ?_⟩, ?_⟩
  · intro c
    rw [leavesIfAny_ofFilters?, mem_comparisons]
  · rw [leavesIfAny_ofFilters?, map_field?_comparisons]
  · rw [leavesIfAny_ofFilters?]
    exact isNormalOf_conjunction? _
  · -- what meets the larger condition meets all of its comparisons, the smaller one's too
    intro g h
    have hs := comparisons_sublist h
    rw [← leavesIfAny_ofFilters?, ← leavesIfAny_ofFilters?] at hs
    refine ⟨hs, fun p hp => ?_⟩
    rw [acceptsIfAny_iff] at hp ⊢
    exact fun c hc => hp c (hs.subset hc)

/-- A price in front of a color, and a blank category, which adds nothing. -/
theorem isConjunctionOf_ofFilters?_of_added_price :
    let f : Filters := { color := some " Blue\t" }
    let g : Filters := { price := some 300, color := some " Blue\t", category := some "\u3000" }
    f.IsWithin g ∧ ofFilters? f = some (.equal .color "Blue") ∧
      ofFilters? g = some (.and [.lessThan .price 300, .equal .color "Blue"]) ∧
      IsConjunctionOf f (ofFilters? f) ∧
      (leavesIfAny (ofFilters? f)).Sublist (leavesIfAny (ofFilters? g)) ∧
      ∀ p, AcceptsIfAny p (ofFilters? g) → AcceptsIfAny p (ofFilters? f) := by
  intro f g
  have hw : f.IsWithin g := ⟨by simp [f], by simp [f, g], by simp [f]⟩
  obtain ⟨hf, hg⟩ := isConjunctionOf_ofFilters? f
  have hcolor : constraintText? (some " Blue\t") = some "Blue" := by decide +kernel
  have hcategory : constraintText? (some "\u3000") = none := by decide +kernel
  refine ⟨hw, ?_, ?_, hf, hg g hw⟩
  · simp only [f, ofFilters?, comparisons, hcolor]
    rfl
  · simp only [g, ofFilters?, comparisons, hcolor, hcategory]
    rfl

end Predicate

end Storefront
