import Storefront.Mode
import Storefront.Record

/-!
# The relevance cut

The records of a hybrid search are divided at a threshold if the backend scored every one of them;
otherwise all are shown.

## Main definitions

* `ResultSet`: the records that are shown and the ones that are not
* `ResultSet.cut`: the division at a threshold

## Main results

* `cut_of_not_isHybrid`, `cut_of_unscored`: when all records are shown
* `cut_of_scored`: the division of scored records
-/

namespace Storefront

/-- The records that are shown and the ones that are not, each in the order of the backend. -/
structure ResultSet where
  /-- The records that are shown. -/
  visible : List RankedRecord
  /-- The records that are not shown. -/
  hidden : List RankedRecord
  deriving DecidableEq

namespace ResultSet

/-- Whether the score of a record reaches the threshold. -/
def reaches (threshold : Single) (r : RankedRecord) : Bool :=
  r.score?.any fun x => x.atLeast threshold

/-- **The cut at a threshold**, which only applies to hybrid searches all of whose records have a
score. -/
def cut (records : List RankedRecord) (mode : Mode) (threshold : Single) : ResultSet :=
  if mode.isHybrid && records.all fun r => r.score?.isSome then
    { visible := records.filter (reaches threshold)
      hidden := records.filter fun r => !reaches threshold r }
  else { visible := records, hidden := [] }

theorem cut_of_not_isHybrid {mode : Mode} (h : mode.isHybrid = false)
    (records : List RankedRecord) (threshold : Single) :
    cut records mode threshold = ⟨records, []⟩ := by
  simp [cut, h]

theorem cut_of_unscored {records : List RankedRecord} {r : RankedRecord} (hr : r ∈ records)
    (h : r.score? = none) (mode : Mode) (threshold : Single) :
    cut records mode threshold = ⟨records, []⟩ := by
  have : (records.all fun r => r.score?.isSome) = false :=
    List.all_eq_false.2 ⟨r, hr, by simp [h]⟩
  simp [cut, this]

theorem cut_of_scored {records : List RankedRecord} (h : ∀ r ∈ records, r.score?.isSome)
    {mode : Mode} (hm : mode.isHybrid) (threshold : Single) :
    cut records mode threshold =
      ⟨records.filter (reaches threshold), records.filter fun r => !reaches threshold r⟩ := by
  have : (records.all fun r => r.score?.isSome) = true := List.all_eq_true.2 h
  simp [cut, hm, this]

end ResultSet

end Storefront
