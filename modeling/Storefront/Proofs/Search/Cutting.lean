import Storefront.Proofs.Number.Ordering
import Storefront.ResultSet

/-!
# The cut as a partition

The relevance cut divides the records of a backend without losing, repeating or moving one: what is
shown and what is not interleave to all records. Whether anything is cut is decided by the list as
a whole, which must have a score on every record. This is why the cut can be repeated: what is shown
of a list that is cut has scores only, and all of them reach the threshold.

## Main definitions

* `Interleaves`: two lists that are merged to a third, each in its own order
* `ResultSet.IsScored`: a list of records that all have a score
* `ResultSet.IsPartition`: the law of the cut

## Main results

* `Interleaves.filter`: a list is merged from what passes a test and what does not
* `cut_of_uncut`, `cut_of_isScored`: the two ways of the cut
* `isPartition_cut`: every cut is a stable partition
-/

namespace Storefront

/-! ## Interleaving -/

/-- **Two lists that interleave to a third**: each item of the third is the next one of the first or
of the second, until both are used up. -/
inductive Interleaves {α : Type} : List α → List α → List α → Prop
  /-- Nothing is left. -/
  | nil : Interleaves [] [] []
  /-- The next item is one of the first list. -/
  | left {a : α} {first second all : List α} (h : Interleaves first second all) :
      Interleaves (a :: first) second (a :: all)
  /-- The next item is one of the second list. -/
  | right {a : α} {first second all : List α} (h : Interleaves first second all) :
      Interleaves first (a :: second) (a :: all)

namespace Interleaves

variable {α : Type} {first second all : List α}

theorem sublist_left (h : Interleaves first second all) : first.Sublist all := by
  induction h with
  | nil => exact .slnil
  | left _ ih => exact ih.cons_cons _
  | right _ ih => exact ih.cons _

theorem sublist_right (h : Interleaves first second all) : second.Sublist all := by
  induction h with
  | nil => exact .slnil
  | left _ ih => exact ih.cons _
  | right _ ih => exact ih.cons_cons _

theorem nil_right (all : List α) : Interleaves all [] all := by
  induction all with
  | nil => exact .nil
  | cons a all ih => exact ih.left

/-- **What passes a test and what does not interleave to the list.** -/
theorem filter (p : α → Bool) (all : List α) :
    Interleaves (all.filter p) (all.filter fun a => !p a) all := by
  induction all with
  | nil => exact .nil
  | cons a all ih =>
    cases hp : p a with
    | true =>
      rw [List.filter_cons_of_pos hp, List.filter_cons_of_neg (by simp [hp])]
      exact ih.left
    | false =>
      rw [List.filter_cons_of_neg (by simp [hp]), List.filter_cons_of_pos (by simp [hp])]
      exact ih.right

end Interleaves

namespace ResultSet

variable {records : List RankedRecord} {mode : Mode} {threshold : Single} {r : RankedRecord}

/-! ## The two ways of the cut -/

/-- Every record has a score. -/
def IsScored (records : List RankedRecord) : Prop :=
  ∀ r ∈ records, ∃ x, r.relevance = some (.score x)

/-- The mode scores by keywords and embeddings together. -/
def IsBlended (mode : Mode) : Prop := mode = .hybrid ∨ mode = .hybridFiltered

theorem isHybrid_iff : mode.isHybrid = true ↔ IsBlended mode := by
  cases mode <;> simp [Mode.isHybrid, IsBlended]

theorem reaches_iff {x : Single} (h : r.relevance = some (.score x)) :
    reaches threshold r = true ↔ x.IsAtLeast threshold := by
  rw [reaches, RankedRecord.score?_eq_some.2 h, ← Binary.atLeast_iff]
  rfl

/-- A list is shown as it is if the mode does not blend, or if a record has no score. -/
theorem cut_of_uncut (h : ¬(IsBlended mode ∧ IsScored records)) (threshold : Single) :
    cut records mode threshold = ⟨records, []⟩ := by
  by_cases hm : mode.isHybrid = true
  · -- Then it is a record that the cut fails for.
    have hs : ¬IsScored records := fun hs => h ⟨isHybrid_iff.1 hm, hs⟩
    unfold IsScored at hs
    push Not at hs
    obtain ⟨r, hr, hx⟩ := hs
    refine cut_of_unscored hr ?_ mode threshold
    exact Option.eq_none_iff_forall_ne_some.2 fun x he => hx x (RankedRecord.score?_eq_some.1 he)
  · exact cut_of_not_isHybrid (Bool.eq_false_iff.2 hm) records threshold

/-- A list is divided by the threshold if the mode blends and every record has a score. -/
theorem cut_of_isScored (hm : IsBlended mode) (hs : IsScored records) (threshold : Single) :
    cut records mode threshold =
      ⟨records.filter (reaches threshold), records.filter fun r => !reaches threshold r⟩ := by
  refine cut_of_scored ?_ (isHybrid_iff.2 hm) threshold
  intro r hr
  obtain ⟨x, hx⟩ := hs r hr
  exact Option.isSome_iff_exists.2 ⟨x, RankedRecord.score?_eq_some.2 hx⟩

/-! ## The law of the cut -/

theorem interleaves_cut (records : List RankedRecord) (mode : Mode) (threshold : Single) :
    Interleaves (cut records mode threshold).visible (cut records mode threshold).hidden
      records := by
  by_cases h : IsBlended mode ∧ IsScored records
  · rw [cut_of_isScored h.1 h.2]
    exact .filter _ records
  · rw [cut_of_uncut h]
    exact .nil_right records

theorem mem_visible_cut_iff (hm : IsBlended mode) (hs : IsScored records) (hr : r ∈ records)
    {x : Single} (hx : r.relevance = some (.score x)) :
    r ∈ (cut records mode threshold).visible ↔ x.IsAtLeast threshold := by
  rw [cut_of_isScored hm hs, List.mem_filter, reaches_iff hx]
  exact and_iff_right hr

theorem mem_hidden_cut_iff (hm : IsBlended mode) (hs : IsScored records) (hr : r ∈ records)
    {x : Single} (hx : r.relevance = some (.score x)) :
    r ∈ (cut records mode threshold).hidden ↔ ¬x.IsAtLeast threshold := by
  rw [cut_of_isScored hm hs, List.mem_filter, Bool.not_eq_true', ← Bool.not_eq_true,
    reaches_iff hx]
  exact and_iff_right hr

/-- **A higher threshold shows a part of what a lower one shows.** -/
theorem visible_cut_sublist {lower higher : Single} (h : higher.IsAtLeast lower)
    (records : List RankedRecord) (mode : Mode) :
    (cut records mode higher).visible.Sublist (cut records mode lower).visible := by
  by_cases hc : IsBlended mode ∧ IsScored records
  · rw [cut_of_isScored hc.1 hc.2, cut_of_isScored hc.1 hc.2]
    refine List.monotone_filter_right records fun r hr => ?_
    -- What reaches a threshold has a score.
    obtain ⟨x, hx, hreach⟩ := (Option.any_eq_true _ _).1 hr
    have hrel := RankedRecord.score?_eq_some.1 hx
    exact (reaches_iff hrel).2 ((Binary.atLeast_iff.1 hreach).trans h)
  · rw [cut_of_uncut hc, cut_of_uncut hc]

/-- Records that all reach the threshold are all shown, whatever the mode. -/
theorem cut_of_reaches (h : ∀ r ∈ records, reaches threshold r = true) (mode : Mode) :
    cut records mode threshold = ⟨records, []⟩ := by
  by_cases hc : IsBlended mode ∧ IsScored records
  · have hn : ∀ r ∈ records, ¬(!reaches threshold r) = true := fun r hr => by simp [h r hr]
    rw [cut_of_isScored hc.1 hc.2, List.filter_eq_self.2 h, List.filter_eq_nil_iff.2 hn]
  · exact cut_of_uncut hc threshold

/-- **What is shown stays so** when it is cut again. -/
theorem cut_visible_cut (records : List RankedRecord) (mode : Mode) (threshold : Single) :
    cut (cut records mode threshold).visible mode threshold =
      ⟨(cut records mode threshold).visible, []⟩ := by
  by_cases hc : IsBlended mode ∧ IsScored records
  · refine cut_of_reaches (fun r hr => ?_) mode
    rw [cut_of_isScored hc.1 hc.2] at hr
    exact (List.mem_filter.1 hr).2
  · rw [cut_of_uncut hc, cut_of_uncut hc]

/-- **A stable partition of records** by what is shown of them in a mode, and how it goes with other
thresholds and another cut. -/
structure IsPartition (records : List RankedRecord) (mode : Mode) (threshold : Single)
    (result : ResultSet) : Prop where
  /-- What is shown are records in their order. -/
  visible : result.visible.Sublist records
  /-- So is what is not shown. -/
  hidden : result.hidden.Sublist records
  /-- Together they are all records, each of them once. -/
  interleaves : Interleaves result.visible result.hidden records
  /-- All are shown in a mode that does not blend, and if a record has no score. -/
  uncut : ¬IsBlended mode ∨ (∃ r ∈ records, ∀ x, r.relevance ≠ some (.score x)) →
    result.visible = records ∧ result.hidden = []
  /-- Otherwise those are shown whose score reaches the threshold, and no others. -/
  divided : IsBlended mode → IsScored records →
    ∀ r ∈ records, ∀ x, r.relevance = some (.score x) →
      (r ∈ result.visible ↔ x.IsAtLeast threshold) ∧
        (r ∈ result.hidden ↔ ¬x.IsAtLeast threshold)
  /-- A score that is not a number reaches none. -/
  nan : IsBlended mode → IsScored records →
    ∀ r ∈ records, ∀ negative, r.relevance = some (.score (.nan negative)) →
      r ∈ result.hidden ∧ r ∉ result.visible
  /-- A higher threshold shows a part of them. -/
  higher : ∀ t : Single, t.IsAtLeast threshold →
    (cut records mode t).visible.Sublist result.visible
  /-- Cut again, all that is shown is shown. -/
  again : cut result.visible mode threshold = ⟨result.visible, []⟩

/-- **Every cut is a stable partition.** -/
theorem isPartition_cut (records : List RankedRecord) (mode : Mode) (threshold : Single) :
    IsPartition records mode threshold (cut records mode threshold) where
  visible := (interleaves_cut records mode threshold).sublist_left
  hidden := (interleaves_cut records mode threshold).sublist_right
  interleaves := interleaves_cut records mode threshold
  uncut h := by
    have hc : ¬(IsBlended mode ∧ IsScored records) := by
      rintro ⟨hm, hs⟩
      rcases h with h | ⟨r, hr, hx⟩
      · exact h hm
      · obtain ⟨x, he⟩ := hs r hr
        exact hx x he
    rw [cut_of_uncut hc]
    exact ⟨rfl, rfl⟩
  divided hm hs r hr x hx := ⟨mem_visible_cut_iff hm hs hr hx, mem_hidden_cut_iff hm hs hr hx⟩
  nan hm hs r hr negative hx := by
    have hn := Binary.not_isAtLeast_nan negative threshold
    exact ⟨(mem_hidden_cut_iff hm hs hr hx).2 hn, fun hv =>
      hn ((mem_visible_cut_iff hm hs hr hx).1 hv)⟩
  higher t ht := visible_cut_sublist ht records mode
  again := cut_visible_cut records mode threshold

end ResultSet

end Storefront
