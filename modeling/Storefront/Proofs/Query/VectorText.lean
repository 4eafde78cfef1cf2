import Storefront.Proofs.Number.FixedPoint
import Storefront.Proofs.Text.Casing
import Storefront.Proofs.Text.Layout
import Storefront.Text.Split

/-!
# The text of a vector

A vector is written as a list of fixed decimals with six places. The text can be taken apart without
knowing how long the decimals are: none of them holds a comma or white space, so the commas are
where one ends and the next begins.

## Main definitions

* `Text.itemTexts?`: the items of a list as it is written
* `SearchClause.IsFixedPointList`: a text that lists the decimals of a vector

## Main results

* `map_trim_split_intercalate`: items that hold no comma are found between the commas
* `exists_isFixedPointList`: the text of a vector lists the nearest decimals in their order
-/

namespace Storefront

open Text

/-! ## Taking lists apart -/

namespace Text

variable {sep : Char} {part s : List Char} {parts : List (List Char)}

theorem split_of_notMem (h : sep ∉ part) : split sep part = [part] := by
  induction part with
  | nil => rfl
  | cons c part ih =>
    rw [List.mem_cons, not_or] at h
    rw [split, if_neg (Ne.symm h.1), ih h.2]

theorem split_append (h : sep ∉ part) (s : List Char) :
    split sep (part ++ sep :: s) = part :: split sep s := by
  induction part with
  | nil => rw [List.nil_append, split, if_pos rfl]
  | cons c part ih =>
    rw [List.mem_cons, not_or] at h
    rw [List.cons_append, split, if_neg (Ne.symm h.1), ih h.2]

/-- White space in front of a text goes to its first part. -/
theorem map_trim_split_blank {b : Char} (hb : isBlank b = true) (hne : b ≠ sep) (s : List Char) :
    (split sep (b :: s)).map trim = (split sep s).map trim := by
  obtain ⟨part, parts, hp⟩ := List.exists_cons_of_ne_nil (split_ne_nil sep s)
  have htrim : trim (b :: part) = trim part :=
    trim_blanks_append (s := [b]) (by simpa using hb) part
  rw [split, if_neg hne, hp, List.map_cons, List.map_cons, htrim]

/-- **Items that hold no comma are found between the commas**, up to white space. -/
theorem map_trim_split_intercalate (hne : parts ≠ []) (hsep : ∀ p ∈ parts, ',' ∉ p)
    (htidy : ∀ p ∈ parts, trim p = p) :
    (split ',' ((", ".toList).intercalate parts)).map trim = parts := by
  induction parts with
  | nil => exact absurd rfl hne
  | cons p parts ih =>
    have hp := hsep p (List.mem_cons_self ..)
    have hpt := htidy p (List.mem_cons_self ..)
    cases parts with
    | nil => rw [List.intercalate_singleton, split_of_notMem hp, List.map_singleton, hpt]
    | cons q parts =>
      have hrest := ih (by simp) (fun r hr => hsep r (List.mem_cons_of_mem _ hr))
        (fun r hr => htidy r (List.mem_cons_of_mem _ hr))
      -- The space behind the comma stands in front of the next item.
      have hcomma : ", ".toList = [',', ' '] := rfl
      rw [hcomma] at hrest ⊢
      rw [List.intercalate_cons_cons, List.append_assoc, List.cons_append, List.cons_append,
        List.nil_append, split_append hp, List.map_cons, hpt,
        map_trim_split_blank isBlank_space (by decide), hrest]

/-- **The items of a list as it is written**: what stands between its brackets, cut at the commas
and trimmed. -/
def itemTexts? : List Char → Option (List (List Char))
  | '[' :: s => if s.getLast? = some ']' then some ((split ',' s.dropLast).map trim) else none
  | _ => none

end Text

/-! ## Decimals in a list -/

namespace FixedDecimal

variable {places : Nat}

/-- A decimal consists of digits, a point and a sign. -/
theorem mem_text {d : FixedDecimal places} {c : Char} (h : c ∈ d.text) :
    c = '-' ∨ c = '.' ∨ isAsciiDigit c = true := by
  rcases List.mem_append.1 h with h | h
  · left
    cases hn : d.negative <;> simp_all
  rcases List.mem_append.1 h with h | h
  · right; right
    rcases d.isWhole with hw | ⟨-, -, hw⟩
    · rw [hw, List.mem_singleton] at h
      rw [h]
      rfl
    · exact hw c h
  · rcases List.mem_cons.1 h with h | h
    · exact .inr (.inl h)
    · exact .inr (.inr (d.isAsciiDigit_of_mem c h))

theorem comma_notMem_text (d : FixedDecimal places) : ',' ∉ d.text := by
  intro h
  have := mem_text h
  revert this
  decide

theorem isWord_text (d : FixedDecimal places) : IsWord d.text := by
  refine ⟨?_, fun c hc => ?_⟩
  · -- The point is always there.
    simp [text]
  · rcases mem_text hc with rfl | rfl | h
    · decide
    · decide
    · exact not_isBlank_of_isAsciiDigit h

end FixedDecimal

namespace SearchClause

/-- **The text lists the decimals** as the components of a vector. -/
structure IsFixedPointList (v : List Single) (text : List Char) (ds : List (FixedDecimal 6)) :
    Prop where
  /-- The decimals stand between brackets, with a comma and a space between them. -/
  text_eq : text = '[' :: ((", ".toList).intercalate (ds.map FixedDecimal.text) ++ [']'])
  /-- Each is the nearest one to its component. -/
  nearest : List.Forall₂ FixedDecimal.IsNearest v ds
  /-- They are in the order of the components. -/
  ordered : ∀ p ∈ v.zip ds, ∀ q ∈ v.zip ds, p.1.toRat ≤ q.1.toRat → p.2.toRat ≤ q.2.toRat
  /-- They are the items of the text. -/
  items : itemTexts? text = some (ds.map FixedDecimal.text)

theorem itemTexts?_of_decimals {places : Nat} {ds : List (FixedDecimal places)} (hne : ds ≠ []) :
    itemTexts? ('[' :: ((", ".toList).intercalate (ds.map FixedDecimal.text) ++ [']'])) =
      some (ds.map FixedDecimal.text) := by
  rw [itemTexts?, if_pos List.getLast?_concat, List.dropLast_concat]
  rw [map_trim_split_intercalate]
  · simpa using hne
  · rintro _ h
    obtain ⟨d, -, rfl⟩ := List.mem_map.1 h
    exact d.comma_notMem_text
  · rintro _ h
    obtain ⟨d, -, rfl⟩ := List.mem_map.1 h
    exact d.isWord_text.isTidy.trim_eq_self

/-- **The text of a finite vector lists the nearest decimals of its components.** -/
theorem exists_isFixedPointList {v : List Single} (hne : v ≠ [])
    (hv : ∀ x ∈ v, x.isFinite = true) : ∃ ds, IsFixedPointList v (renderVector v) ds := by
  have hsix : 0 < 6 := by decide
  refine ⟨v.map (Binary.literal 6 hsix), ?_⟩
  have htext : renderVector v = '[' :: ((", ".toList).intercalate
      ((v.map (Binary.literal 6 hsix)).map FixedDecimal.text) ++ [']']) := by
    rw [renderVector, List.map_map]
    congr 3
    exact List.map_congr_left fun x hx => Binary.fixed_eq_text hsix (hv x hx)
  constructor
  case text_eq => exact htext
  case nearest =>
    rw [List.forall₂_map_right_iff, List.forall₂_same]
    intro x _
    exact x.isNearest_literal hsix
  case ordered =>
    -- Beside each component stands its own decimal.
    have hown {x : Single} {d : FixedDecimal 6}
        (h : (x, d) ∈ v.zip (v.map (Binary.literal 6 hsix))) : x.literal 6 hsix = d := by
      apply (List.forall₂_iff_zip.1 _).2 h
      rw [List.forall₂_map_right_iff, List.forall₂_same]
      intro x _
      rfl
    rintro ⟨x, d⟩ hp ⟨y, e⟩ hq hxy
    rw [← hown hp, ← hown hq]
    exact Binary.literal_mono hsix hxy
  case items =>
    rw [htext]
    apply itemTexts?_of_decimals
    simpa using hne

/-- Two ties, a carry into the whole part, the least value below zero and the largest one. -/
theorem exists_isFixedPointList_of_ties :
    let v : List Single := [Decimal.toBinary .single ⟨false, 78125, -7⟩,
      Decimal.toBinary .single ⟨false, 234375, -7⟩, Decimal.toBinary .single ⟨false, 9999996, -7⟩,
      Decimal.toBinary .single ⟨true, 14, -46⟩, Decimal.toBinary .single ⟨false, 34028235, 31⟩]
    v ≠ [] ∧ (∀ x ∈ v, x.isFinite = true) ∧ ∃ ds, IsFixedPointList v
      ("[0.007812, 0.023438, 1.000000, -0.000000, " ++
        "340282346638528859811704183484516925440.000000]").toList ds := by
  intro v
  have hne : v ≠ [] := by simp [v]
  have hv : ∀ x ∈ v, x.isFinite = true := by decide +kernel
  have htext : ("[0.007812, 0.023438, 1.000000, -0.000000, " ++
      "340282346638528859811704183484516925440.000000]").toList = renderVector v := by
    decide +kernel
  rw [htext]
  exact ⟨hne, hv, exists_isFixedPointList hne hv⟩

end SearchClause

end Storefront
