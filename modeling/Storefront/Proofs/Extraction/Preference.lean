import Storefront.Proofs.Extraction.Matching

/-!
# The preferred name

Names are tried one after the other in the order of their lexicon, which is sorted by their length.
What comes of it is said here without sorting: of the names that match, the one taken is as long as
any, and the first of those that are as long as it is.

## Main definitions

* `trimmedLength`: the length of a name without the white space at its ends
* `IsPreferred`: the first of the longest names with a property

## Main results

* `findSome?_eq_of_sorted`: what is found first in a sorted list, whatever its order was before
* `exists_first_of_findSome?_mergeSort`: what is found first in a sorted list, by the list itself
* `IsPreferred.unique`: there is at most one preferred name
* `findSome?_lexicon_eq_some_iff`: what is found first in a lexicon is that of the preferred name
-/

namespace Storefront.Extraction

open Text

variable {α β : Type}

/-! ## Sorted lists -/

theorem zipIdxLE_iff {le : α → α → Bool} {a b : α} {i j : Nat} :
    List.zipIdxLE le (a, i) (b, j) = true ↔ le a b = true ∧ (le b a = true → i ≤ j) := by
  unfold List.zipIdxLE
  cases le a b <;> cases le b a <;> simp

/-- **What is found first in a sorted list** is that of an element which goes before all others in
which something is found, and which stands in front of its equals in the list itself. -/
theorem exists_first_of_findSome?_mergeSort {le : α → α → Bool}
    (trans : ∀ a b c, le a b = true → le b c = true → le a c = true)
    (total : ∀ a b, (le a b || le b a) = true) {f : α → Option β} {l : List α} {b : β}
    (h : (l.mergeSort le).findSome? f = some b) :
    ∃ earlier a later, l = earlier ++ a :: later ∧ f a = some b ∧
      (∀ x ∈ earlier, f x ≠ none → le x a = false) ∧ ∀ x ∈ later, f x ≠ none → le a x = true := by
  -- Sorting is stable: it sorts the elements together with their places.
  rw [← List.mergeSort_zipIdx, List.findSome?_map] at h
  obtain ⟨front, ⟨a, i⟩, back, hsort, hf, hnone⟩ := List.findSome?_eq_some_iff.1 h
  have hpair := List.pairwise_mergeSort (List.zipIdxLE_trans trans) (List.zipIdxLE_total total)
    l.zipIdx
  rw [hsort, List.pairwise_append, List.pairwise_cons] at hpair
  have hmem (x : α) (j : Nat) : l[j]? = some x ↔ (x, j) ∈ front ++ (a, i) :: back := by
    rw [← hsort, List.mem_mergeSort, List.mem_zipIdx_iff_getElem?]
  have hi : l[i]? = some a := (hmem a i).2 (by simp)
  -- Whatever is found elsewhere stands behind.
  have hle (x : α) (j : Nat) (hx : l[j]? = some x) (hfx : f x ≠ none) (hj : j ≠ i) :
      List.zipIdxLE le (a, i) (x, j) = true := by
    rcases List.mem_append.1 ((hmem x j).1 hx) with hm | hm
    · exact absurd (hnone _ hm) hfx
    · rcases List.mem_cons.1 hm with he | hm
      · exact absurd (congrArg Prod.snd he) hj
      · exact hpair.2.1.1 _ hm
  obtain ⟨hlt, rfl⟩ := List.getElem?_eq_some_iff.1 hi
  refine ⟨l.take i, l[i], l.drop (i + 1), ?_, hf, ?_, ?_⟩
  · rw [List.getElem_cons_drop, List.take_append_drop]
  · -- an element in front that went behind cannot be an equal
    intro x hx hfx
    obtain ⟨j, hj, rfl⟩ := List.mem_iff_getElem.1 hx
    rw [List.length_take] at hj
    rw [List.getElem_take] at hfx ⊢
    have hz := hle l[j] j (List.getElem?_eq_getElem _) hfx (by omega)
    refine Bool.eq_false_iff.2 fun hback => ?_
    have := (zipIdxLE_iff.1 hz).2 hback
    omega
  · intro x hx hfx
    obtain ⟨j, hj, rfl⟩ := List.mem_iff_getElem.1 hx
    rw [List.length_drop] at hj
    rw [List.getElem_drop] at hfx ⊢
    have hz := hle _ (i + 1 + j) (List.getElem?_eq_getElem (by omega)) hfx (by omega)
    exact (zipIdxLE_iff.1 hz).1

section Width

variable {width : α → Nat} {l l' : List α} {f : α → Option β} {b : β}

/-- What is found first in a list that is sorted by width is found in a widest element. -/
theorem exists_widest_of_findSome? (hl : l.Pairwise fun a b => width b ≤ width a)
    (h : l.findSome? f = some b) :
    ∃ a ∈ l, f a = some b ∧ ∀ x ∈ l, f x ≠ none → width x ≤ width a := by
  obtain ⟨front, a, back, rfl, ha, hnone⟩ := List.findSome?_eq_some_iff.1 h
  rw [List.pairwise_append, List.pairwise_cons] at hl
  refine ⟨a, by simp, ha, fun x hx hf => ?_⟩
  rcases List.mem_append.1 hx with hx | hx
  · exact absurd (hnone x hx) hf
  · rcases List.mem_cons.1 hx with rfl | hx
    · exact Nat.le_refl _
    · exact hl.2.1.1 x hx

/-- **What is found first in a sorted list** does not depend on the order of elements of one width,
nor on how often they stand there, if the same is found in all of them. -/
theorem findSome?_eq_of_sorted (hl : l.Pairwise fun a b => width b ≤ width a)
    (hl' : l'.Pairwise fun a b => width b ≤ width a) (hmem : ∀ a, a ∈ l ↔ a ∈ l')
    (hf : ∀ a ∈ l, ∀ b ∈ l, width a = width b → f a ≠ none → f b ≠ none → f a = f b) :
    l.findSome? f = l'.findSome? f := by
  cases h : l.findSome? f with
  | none =>
    rw [List.findSome?_eq_none_iff] at h
    exact (List.findSome?_eq_none_iff.2 fun x hx => h x ((hmem x).2 hx)).symm
  | some b =>
    obtain ⟨a, ha, hfa, hle⟩ := exists_widest_of_findSome? hl h
    have hne : f a ≠ none := by simp [hfa]
    cases h' : l'.findSome? f with
    | none => exact absurd (List.findSome?_eq_none_iff.1 h' a ((hmem a).1 ha)) hne
    | some b' =>
      -- The widest elements of both lists are elements of one width.
      obtain ⟨a', ha', hfa', hle'⟩ := exists_widest_of_findSome? hl' h'
      have hne' : f a' ≠ none := by simp [hfa']
      have hw : width a = width a' :=
        Nat.le_antisymm (hle' a ((hmem a).1 ha) hne) (hle a' ((hmem a').2 ha') hne')
      rw [← hfa, ← hfa', hf a ha a' ((hmem a').2 ha') hw hne hne']

end Width

/-! ## Names -/

/-- How many characters a name has without the white space at its ends. -/
def trimmedLength (name : String) : Nat := (trim name.toList).length

/-- **The preferred name** of a list among the names with a property: the others with the property
are shorter if they are listed in front of it, and no longer if they are listed behind it. -/
def IsPreferred (P : String → Prop) (names : List String) (name : String) : Prop :=
  P name ∧ ∃ earlier later, names = earlier ++ name :: later ∧
    (∀ other ∈ earlier, P other → trimmedLength other < trimmedLength name) ∧
    ∀ other ∈ later, P other → trimmedLength other ≤ trimmedLength name

variable {P Q : String → Prop} {names : List String} {name other : String}

theorem IsPreferred.mem (h : IsPreferred P names name) : name ∈ names := by
  obtain ⟨-, earlier, later, rfl, -, -⟩ := h
  simp

/-- No name with the property is longer than the preferred one. -/
theorem IsPreferred.trimmedLength_le (h : IsPreferred P names name) (hm : other ∈ names)
    (ho : P other) : trimmedLength other ≤ trimmedLength name := by
  obtain ⟨-, earlier, later, rfl, he, hl⟩ := h
  rcases List.mem_append.1 hm with hm | hm
  · exact Nat.le_of_lt (he other hm ho)
  · rcases List.mem_cons.1 hm with rfl | hm
    · exact Nat.le_refl _
    · exact hl other hm ho

/-- **There is at most one preferred name.** -/
theorem IsPreferred.unique (h : IsPreferred P names name) (h' : IsPreferred P names other) :
    name = other := by
  have hle := h'.trimmedLength_le h.mem h.1
  have hge := h.trimmedLength_le h'.mem h'.1
  obtain ⟨hp, e, l, he, hes, -⟩ := h
  obtain ⟨hq, e', l', he', hes', -⟩ := h'
  rw [he'] at he
  -- If they stood at two places, the one in front would be shorter than the other one.
  rcases List.append_eq_append_iff.1 he with ⟨as, hx, hy⟩ | ⟨bs, hx, hy⟩
  · cases as with
    | nil => exact (List.cons.inj hy).1.symm
    | cons a as =>
      obtain ⟨rfl, rfl⟩ := List.cons.inj hy
      have := hes other (by simp [hx]) hq
      omega
  · cases bs with
    | nil => exact (List.cons.inj hy).1
    | cons b bs =>
      obtain ⟨rfl, rfl⟩ := List.cons.inj hy
      have := hes' name (by simp [hx]) hp
      omega

theorem isPreferred_congr (h : ∀ n, P n ↔ Q n) :
    IsPreferred P names name ↔ IsPreferred Q names name := by
  rw [show P = Q from funext fun n => propext (h n)]

/-! ## Lexicons -/

theorem ofText?_eq_some_iff {e : Entry} : Entry.ofText? name = some e ↔
    words name.toList ≠ [] ∧ e = ⟨words name.toList, trimmedLength name⟩ := by
  unfold Entry.ofText? trimmedLength
  cases words name.toList <;> simp [eq_comm]

variable {g : List (List Char) → Option β} {b : β}

/-- Whether something is found for the words of a name. -/
def Finds (g : List (List Char) → Option β) (name : String) : Prop :=
  words name.toList ≠ [] ∧ g (words name.toList) ≠ none

theorem exists_isPreferred_of_findSome?_lexicon
    (h : ((lexicon names).findSome? fun e => g e.words) = some b) :
    ∃ name, IsPreferred (Finds g) names name ∧ g (words name.toList) = some b := by
  obtain ⟨earlier, e, later, hl, hg, he, hla⟩ :=
    exists_first_of_findSome?_mergeSort (fun a b c h₁ h₂ => by simp at *; omega)
      (fun a b => by simp; omega) h
  -- The entries in front and behind are those of the names in front and behind.
  obtain ⟨front, back, rfl, rfl, hback⟩ := List.filterMap_eq_append_iff.1 hl
  obtain ⟨blanks, name, later', rfl, hblank, hname, rfl⟩ := List.filterMap_eq_cons_iff.1 hback
  obtain ⟨hne, rfl⟩ := ofText?_eq_some_iff.1 hname
  refine ⟨name, ⟨⟨hne, by simp [hg]⟩, front ++ blanks, later', by simp, ?_, ?_⟩, hg⟩
  · rintro other hm ⟨ho, hfound⟩
    have hentry := ofText?_eq_some_iff.2 ⟨ho, rfl⟩
    rcases List.mem_append.1 hm with hm | hm
    · have := he _ (List.mem_filterMap.2 ⟨other, hm, hentry⟩) hfound
      simpa using this
    · -- blank names have no entry
      rw [hblank other hm] at hentry
      simp at hentry
  · rintro other hm ⟨ho, hfound⟩
    have hentry := ofText?_eq_some_iff.2 ⟨ho, rfl⟩
    have := hla _ (List.mem_filterMap.2 ⟨other, hm, hentry⟩) hfound
    simpa using this

/-- **What is found first in a lexicon** is what is found for the preferred name. -/
theorem findSome?_lexicon_eq_some_iff :
    ((lexicon names).findSome? fun e => g e.words) = some b ↔
      ∃ name, IsPreferred (Finds g) names name ∧ g (words name.toList) = some b := by
  constructor
  · exact exists_isPreferred_of_findSome?_lexicon
  · rintro ⟨name, hp, hg⟩
    -- Something is found, for a preferred name, and there is one only.
    have hentry := ofText?_eq_some_iff.2 ⟨hp.1.1, rfl⟩
    have hsome : ((lexicon names).findSome? fun e => g e.words) ≠ none := by
      intro hn
      have := List.findSome?_eq_none_iff.1 hn _ (mem_lexicon.2 ⟨name, hp.mem, hentry⟩)
      exact hp.1.2 this
    obtain ⟨b', hb'⟩ := Option.ne_none_iff_exists'.1 hsome
    obtain ⟨name', hp', hg'⟩ := exists_isPreferred_of_findSome?_lexicon hb'
    obtain rfl := hp.unique hp'
    rw [hb', ← hg', hg]

end Storefront.Extraction
