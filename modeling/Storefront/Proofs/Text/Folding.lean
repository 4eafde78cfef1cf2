import Mathlib.Data.List.Chain
import Storefront.Proofs.Text.AsciiCase

/-!
# What folding joins

Matching takes two letters for the same if they fold to the same character. They belong to words
both or neither, and have lower cases of the same length, but they need not have the same cases: the
long s folds to `s` and is its own lower case, and the Kelvin sign folds to `k` and is its own upper
case. So what two words that match have in common in title case is a matter of its own.

## Main definitions

* `KeepsCases`: a character has the upper and lower case of what it folds to
* `CasedAlike`: two words have the same upper case of the first letter and lower cases of the others

## Main results

* `image_cases`: a table moves a code point along one of its runs, or leaves it
* `isWordChar_foldCase`: folding stays in words, and outside of them
* `length_lowerCase_of_foldCase_eq`: letters that fold alike have lower cases of the same length
* `keepsCases_of_isAscii`: ASCII characters keep their cases
* `isAscii_or_of_foldCase`, `cases_foldCase_iff`: what folds to ASCII characters, and its cases
-/

namespace Storefront.Text

variable {c d : Char} {n m : Nat} {runs : List CodeRun} {ranges : List CodeRange}
  {u w : List Char}

/-! ## Steps of a table -/

/-- **A table moves a code point along one of its runs**, or leaves it where it is. -/
theorem image_cases (runs : List CodeRun) (n : Nat) : image runs n = n ∨ ∃ r ∈ runs,
    ∃ i ≤ r.last - r.first, i % r.step = 0 ∧ n = r.first + i ∧ image runs n = r.target + i := by
  induction runs with
  | nil => exact .inl rfl
  | cons r rest ih =>
    unfold image
    split_ifs with hlt hle hstep
    · exact .inl rfl
    · exact .inr ⟨r, List.mem_cons_self .., n - r.first, by omega, hstep, by omega, rfl⟩
    · exact .inl rfl
    · rcases ih with hstay | ⟨q, hq, hmove⟩
      · exact .inl hstay
      · exact .inr ⟨q, List.mem_cons_of_mem _ hq, hmove⟩

/-- Whether the runs of a table lead to code points of characters only. -/
def leadsToChars (runs : List CodeRun) : Bool :=
  runs.all fun r => (r.target + (r.last - r.first)).blt 0xD800 ||
    Nat.blt 0xDFFF r.target && (r.target + (r.last - r.first)).blt 0x110000

theorem leadsToChars_foldRuns : leadsToChars foldRuns = true := by decide +kernel

theorem isValidChar_image (h : leadsToChars runs = true) (hn : n.isValidChar) :
    (image runs n).isValidChar := by
  rcases image_cases runs n with hstay | ⟨r, hr, i, hi, -, -, hmove⟩
  · rwa [hstay]
  · have := List.all_eq_true.1 h r hr
    simp only [Bool.or_eq_true, Bool.and_eq_true, Nat.blt_eq] at this
    rw [hmove, Nat.isValidChar]
    omega

theorem toNat_foldCase (c : Char) : (foldCase c).toNat = image foldRuns c.toNat := by
  have hv : (image foldRuns c.toNat).isValidChar := isValidChar_image leadsToChars_foldRuns c.valid
  rw [foldCase, Char.ofNat, dif_pos hv]
  rfl

/-! ## Words -/

/-- A code point of one of the ascending ranges is in them. -/
theorem inRanges_of_mem (hs : ranges.Pairwise fun r q => r.first ≤ q.first) {r : CodeRange}
    (hr : r ∈ ranges) (hn : r.first ≤ n ∧ n ≤ r.last) : inRanges ranges n = true := by
  induction ranges with
  | nil => simp at hr
  | cons q rest ih =>
    obtain ⟨hq, hrest⟩ := List.pairwise_cons.1 hs
    unfold inRanges
    rcases List.mem_cons.1 hr with rfl | hm
    · simp [Nat.not_lt.2 hn.1, hn.2]
    · have := hq r hm
      rw [if_neg (by omega), ih hrest hm, Bool.or_true]

/-- Whether the code points from one to another lie in one of the ranges. -/
def liesWithin (ranges : List CodeRange) (first last : Nat) : Bool :=
  ranges.any fun r => r.first.ble first && last.ble r.last

/-- Whether the steps of a run lie in the ranges: all together in one of them, or one by one. -/
def stepsWithin (ranges : List CodeRange) (first length step : Nat) : Bool :=
  liesWithin ranges first (first + length) || (List.range (length + 1)).all fun i =>
    i % step != 0 || liesWithin ranges (first + i) (first + i)

theorem exists_of_stepsWithin {first length step i : Nat}
    (h : stepsWithin ranges first length step = true) (hi : i ≤ length) (hs : i % step = 0) :
    ∃ r ∈ ranges, r.first ≤ first + i ∧ first + i ≤ r.last := by
  rcases Bool.or_eq_true_iff.1 h with hall | hone
  · obtain ⟨r, hr, hb⟩ := List.any_eq_true.1 hall
    simp only [Bool.and_eq_true, Nat.ble_eq] at hb
    exact ⟨r, hr, by omega, by omega⟩
  · have := List.all_eq_true.1 hone i (List.mem_range.2 (Nat.lt_succ_of_le hi))
    simp only [hs, bne_self_eq_false, Bool.false_or] at this
    obtain ⟨r, hr, hb⟩ := List.any_eq_true.1 this
    simp only [Bool.and_eq_true, Nat.ble_eq] at hb
    exact ⟨r, hr, hb⟩

/-- All that folds to something else belongs to words, and so does what it folds to. -/
theorem stepsWithin_wordRanges : (foldRuns.all fun r =>
    stepsWithin wordRanges r.first (r.last - r.first) r.step &&
      stepsWithin wordRanges r.target (r.last - r.first) r.step) = true := by
  decide +kernel

theorem pairwise_wordRanges : wordRanges.Pairwise fun r q => r.first ≤ q.first := by
  have hchain : wordRanges.IsChain fun r q => r.first ≤ q.first := by decide +kernel
  exact hchain.pairwise

/-- **Folding stays in words**, and outside of them. -/
@[simp] theorem isWordChar_foldCase (c : Char) : isWordChar (foldCase c) = isWordChar c := by
  rw [isWordChar, toNat_foldCase, isWordChar]
  rcases image_cases foldRuns c.toNat with hstay | ⟨r, hr, i, hi, hs, hsource, htarget⟩
  · rw [hstay]
  · have := List.all_eq_true.1 stepsWithin_wordRanges r hr
    rw [Bool.and_eq_true] at this
    obtain ⟨q, hq, hn⟩ := exists_of_stepsWithin this.1 hi hs
    obtain ⟨q', hq', hn'⟩ := exists_of_stepsWithin this.2 hi hs
    rw [htarget, hsource, inRanges_of_mem pairwise_wordRanges hq hn,
      inRanges_of_mem pairwise_wordRanges hq' hn']

theorem isWordChar_eq_of_foldCase_eq (h : foldCase c = foldCase d) :
    isWordChar c = isWordChar d := by
  rw [← isWordChar_foldCase c, h, isWordChar_foldCase]

/-! ## Cases -/

/-- A code point that no run leads to is the image of itself only. -/
theorem eq_of_image_eq (h : (runs.all fun r => m.blt r.target ||
    (r.target + (r.last - r.first)).blt m) = true) (hn : image runs n = m) : n = m := by
  rcases image_cases runs n with hstay | ⟨r, hr, i, hi, -, -, hmove⟩
  · rw [← hstay, hn]
  · have := List.all_eq_true.1 h r hr
    simp only [Bool.or_eq_true, Nat.blt_eq] at this
    omega

/-- Nothing else folds to the capital I with a dot above, the only letter with a lower case of two
characters. -/
theorem eq_dotted_of_foldCase_eq (h : foldCase c = foldCase '\u0130') : c = '\u0130' := by
  have hself : foldCase '\u0130' = '\u0130' := by decide +kernel
  have hn : image foldRuns c.toNat = 0x130 := by
    rw [← toNat_foldCase, h, hself]
    rfl
  exact Char.toNat_inj.1 (eq_of_image_eq (by decide +kernel) hn)

/-- **Letters that fold alike have lower cases of the same length.** -/
theorem length_lowerCase_of_foldCase_eq (h : foldCase c = foldCase d) :
    (lowerCase c).length = (lowerCase d).length := by
  by_cases hc : c = '\u0130'
  · subst hc
    rw [eq_dotted_of_foldCase_eq h.symm]
  · have hd : d ≠ '\u0130' := by
      rintro rfl
      exact hc (eq_dotted_of_foldCase_eq h)
    simp [lowerCase, hc, hd]

/-- **A character keeps its cases** when it is folded. -/
def KeepsCases (c : Char) : Prop :=
  upperCase (foldCase c) = upperCase c ∧ lowerCase (foldCase c) = lowerCase c

theorem foldCase_of_isAscii (h : c.toNat < 128) : foldCase c = c.toLower := by
  have hall : ∀ n < 128, foldCase (Char.ofNat n) = (Char.ofNat n).toLower := by decide +kernel
  have := hall c.toNat h
  rwa [Char.ofNat_toNat] at this

/-- **ASCII characters keep their cases.** -/
theorem keepsCases_of_isAscii (h : c.toNat < 128) : KeepsCases c := by
  rw [KeepsCases, foldCase_of_isAscii h]
  exact ⟨upperCase_toLower c, lowerCase_toLower c⟩

theorem isAscii_foldCase (h : c.toNat < 128) : (foldCase c).toNat < 128 := by
  have hall : ∀ n < 128, (foldCase (Char.ofNat n)).toNat < 128 := by decide +kernel
  have := hall c.toNat h
  rwa [Char.ofNat_toNat] at this

/-- **Only the long s and the Kelvin sign** fold to ASCII characters from outside of them. -/
theorem isAscii_or_of_foldCase (h : (foldCase c).toNat < 128) :
    c.toNat < 128 ∨ c = 'ſ' ∨ c = '\u212a' := by
  have hall : (foldRuns.all fun r => Nat.ble 128 r.target ||
      (r.first + (r.last - r.first)).blt 128 ||
      r.first == r.last && (r.first == 0x17F || r.first == 0x212A)) = true := by decide +kernel
  rw [toNat_foldCase] at h
  rcases image_cases foldRuns c.toNat with hstay | ⟨r, hr, i, hi, -, hsource, htarget⟩
  · exact .inl (hstay ▸ h)
  · have := List.all_eq_true.1 hall r hr
    simp only [Bool.or_eq_true, Bool.and_eq_true, Nat.ble_eq, Nat.blt_eq, beq_iff_eq] at this
    rcases this with (hout | hin) | ⟨hone, hs | hk⟩
    · omega
    · exact .inl (by omega)
    · exact .inr (.inl (Char.toNat_inj.1 (show c.toNat = 0x17F by omega)))
    · exact .inr (.inr (Char.toNat_inj.1 (show c.toNat = 0x212A by omega)))

/-- The Kelvin sign is its own capital, and the long s its own small letter. All else that folds to
an ASCII character has the cases of that character. -/
theorem cases_foldCase_iff (h : (foldCase c).toNat < 128) :
    (upperCase (foldCase c) = upperCase c ↔ c ≠ '\u212a') ∧
      (lowerCase (foldCase c) = lowerCase c ↔ c ≠ 'ſ') := by
  rcases isAscii_or_of_foldCase h with hc | rfl | rfl
  · obtain ⟨hu, hl⟩ := keepsCases_of_isAscii hc
    refine ⟨iff_of_true hu ?_, iff_of_true hl ?_⟩
    · rintro rfl
      exact absurd hc (by decide)
    · rintro rfl
      exact absurd hc (by decide)
  · exact ⟨iff_of_true (by decide +kernel) (by decide), iff_of_false (by decide +kernel) (by simp)⟩
  · exact ⟨iff_of_false (by decide +kernel) (by simp), iff_of_true (by decide +kernel) (by decide)⟩

/-- **Two words are cased alike**: their first letters have the same upper case, and the others, one
by one, the same lower case. -/
def CasedAlike (u w : List Char) : Prop :=
  u.head?.map upperCase = w.head?.map upperCase ∧ u.tail.map lowerCase = w.tail.map lowerCase

theorem CasedAlike.symm (h : CasedAlike u w) : CasedAlike w u := ⟨h.1.symm, h.2.symm⟩

theorem CasedAlike.trans {v : List Char} (h : CasedAlike u w) (h' : CasedAlike w v) :
    CasedAlike u v := ⟨h.1.trans h'.1, h.2.trans h'.2⟩

end Storefront.Text
