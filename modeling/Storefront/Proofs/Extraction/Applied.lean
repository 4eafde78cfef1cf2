import Storefront.Plan
import Storefront.Proofs.Extraction.Removal
import Storefront.Proofs.Query.Compilation

/-!
# Reported constraints are applied

A smart search compiles to a query whose condition compares what was extracted and nothing else. A
condition on a blank text would be dropped and the ends of a text are trimmed, so it matters that a
color, which is put in title case before it is reported, is neither blank nor has white space at its
ends.

## Main definitions

* `CompiledQuery.leaves`: the comparisons of a query
* `CompiledQuery.Applies`: a query compares what the constraints say, and nothing else

## Main results

* `extract_color_eq_some`: a reported color is neither blank nor has white space at its ends
* `compile_plan`: a smart search applies the constraints, and a standard search none
-/

namespace Storefront

open Extraction Text

/-! ## Reported colors -/

/-- **A reported color** is neither blank nor has white space at its ends. -/
theorem Extractor.extract_color_eq_some {v : Vocabulary} {text color : String}
    (hc : ((ofVocabulary v).extract text).color = some color) :
    trimText color = color ∧ color ≠ "" := by
  obtain ⟨rest, hr, -⟩ := (isRemoved_extract v text).removes
  rw [hc, Option.map_some] at hr
  obtain ⟨block, hb, name, -, -, hne⟩ := hr.exists_isColorBlock
  have ht := isTitleCaseOf_iff.1 hb
  constructor
  · rw [trimText, ht, (isTidy_titleCase block).trim_eq_self, ← ht, String.ofList_toList]
  · rintro rfl
    exact titleCase_ne_nil hne (ht.symm.trans String.toList_empty)

/-! ## Conditions -/

namespace Predicate

/-- The constraint of a text without white space at its ends is the text, if there is any. -/
theorem constraintText?_eq_self {s : Option String}
    (h : ∀ t ∈ s, trimText t = t ∧ t ≠ "") : constraintText? s = s := by
  cases s with
  | none => rfl
  | some t => simp [constraintText?, h t rfl]

end Predicate

/-- The comparisons of a query. -/
def CompiledQuery.leaves (q : CompiledQuery) : List Predicate :=
  (q.filter.map Predicate.leaves).getD []

/-- **A query compares what the constraints say**, and nothing else. -/
structure CompiledQuery.Applies (q : CompiledQuery) (c : Constraints) : Prop where
  /-- The price is compared with the ceiling. -/
  price : ∀ n, .lessThan .price n ∈ q.leaves ↔ c.priceCeiling = some n
  /-- The color is compared with the color, character for character. -/
  color : ∀ s, .equal .color s ∈ q.leaves ↔ c.color = some s
  /-- Trimming would not change the color. -/
  trimmed : ∀ s, c.color = some s → trimText s = s
  /-- Nothing else is compared. -/
  only : ∀ p ∈ q.leaves, (∃ n, p = .lessThan .price n) ∨ ∃ s, p = .equal .color s
  /-- There is no condition exactly if there are no constraints. -/
  none : q.filter = .none ↔ c.priceCeiling = .none ∧ c.color = .none

/-- There is no conjunction of nothing only. -/
theorem Predicate.conjunction?_eq_none_iff {ps : List Predicate} :
    conjunction? ps = none ↔ ps = [] := by
  match ps with
  | [] => simp [conjunction?]
  | [p] => simp [conjunction?]
  | _ :: _ :: _ => simp [conjunction?]

/-- The comparisons of a price and of a color that trimming leaves alone. -/
theorem Predicate.comparisons_eq {price : Option Nat} {color : Option String}
    (h : ∀ s ∈ color, trimText s = s ∧ s ≠ "") :
    comparisons { price, color } =
      (price.map (lessThan .price)).toList ++ (color.map (equal .color)).toList := by
  rw [comparisons, constraintText?_eq_self h]
  simp [constraintText?]

/-- **A query applies the constraints that it was compiled with**, if the color is neither blank nor
has white space at its ends. -/
theorem CompiledQuery.applies_of_filter {q : CompiledQuery} {c : Constraints}
    (hq : q.filter = Predicate.ofFilters? { price := c.priceCeiling, color := c.color })
    (hc : ∀ s ∈ c.color, trimText s = s ∧ s ≠ "") : q.Applies c := by
  have hl : q.leaves = (c.priceCeiling.map (Predicate.lessThan .price)).toList ++
      (c.color.map (Predicate.equal .color)).toList := by
    rw [leaves, hq, Predicate.leaves_ofFilters?, Predicate.comparisons_eq hc]
  refine ⟨?_, ?_, ?_, ?_, ?_⟩
  · intro n
    simp [hl]
  · intro s
    simp [hl]
  · intro s hs
    exact (hc s hs).1
  · intro p hp
    rw [hl] at hp
    rcases List.mem_append.1 hp with hp | hp
    · obtain ⟨n, -, rfl⟩ := Option.map_eq_some_iff.1 (Option.mem_toList.1 hp)
      exact .inl ⟨n, rfl⟩
    · obtain ⟨s, -, rfl⟩ := Option.map_eq_some_iff.1 (Option.mem_toList.1 hp)
      exact .inr ⟨s, rfl⟩
  · rw [hq, Predicate.ofFilters?, Predicate.conjunction?_eq_none_iff, Predicate.comparisons_eq hc]
    simp

/-! ## Searches -/

/-- The query of a plan. -/
def Plan.compile (p : Plan) (className : String) (vector : Option (List Single)) (limit : Nat) :
    Except SearchError CompiledQuery :=
  Storefront.compile className p.searchText p.mode vector p.filters limit

/-- **A smart search applies exactly the constraints that it reports**, on the clean text; a
standard search is one of the whole text, and applies none. -/
theorem compile_plan {vector : Option (List Single)} (hv : IsFiniteVector vector) (v : Vocabulary)
    (className text : String) (limit : Nat) :
    let c := (Extractor.ofVocabulary v).extract text
    (∃ q, (Plan.make text c .smart).compile className vector limit = .ok q ∧
      q.search = .hybrid c.cleanText (usableVector? vector) ∧ q.Applies c) ∧
    ∀ c', ∃ q, (Plan.make text c' .standard).compile className vector limit = .ok q ∧
      q.search = .hybrid text (usableVector? vector) ∧ q.filter = none := by
  intro c
  refine ⟨⟨_, compile_hybrid hv rfl, rfl, ?_⟩, fun _ => ⟨_, compile_hybrid hv rfl, rfl, rfl⟩⟩
  exact CompiledQuery.applies_of_filter rfl fun s hs => Extractor.extract_color_eq_some hs

/-- A smart search for a color of two words and a price looks for nothing else. -/
theorem compile_plan_of_standard_vocabulary :
    let text := "case Space  gray under $70"
    let c : Constraints :=
      { cleanText := "case", priceCeiling := some 70, color := some "Space Gray" }
    let vector := some [.ofInt .single 3]
    (Extractor.ofVocabulary .standard).extract text = c ∧ IsFiniteVector vector ∧
      (∃ q, (Plan.make text c .smart).compile "Product" vector 5 = .ok q ∧
        q.search = .hybrid "case" vector ∧ q.Applies c) ∧
      ∀ c', ∃ q, (Plan.make text c' .standard).compile "Product" vector 5 = .ok q ∧
        q.search = .hybrid text vector ∧ q.filter = none := by
  intro text c vector
  have hx : (Extractor.ofVocabulary .standard).extract text = c := by
    rw [Extractor.ofVocabulary_standard]
    decide +kernel
  have hv : IsFiniteVector vector := isFiniteVector_singleton (by decide +kernel)
  have hp := compile_plan hv .standard "Product" text 5
  rw [hx] at hp
  exact ⟨hx, hv, hp⟩

end Storefront
