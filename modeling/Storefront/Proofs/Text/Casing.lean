import Mathlib.Tactic.SplitIfs
import Storefront.Proofs.Text.Layout
import Storefront.Text.Character

/-!
# Letter case and white space

No mapping of letter case makes white space of a letter, or a letter of white space. The tables show
it: their runs keep clear of the code points of white space on both sides.

## Main definitions

* `blankRanges`: the code points of white space
* `isClear`, `keepsClear`: code points, and the runs of a table, that keep clear of them

## Main results

* `isBlank_foldCase`: folding keeps white space, and makes none
* `isWord_upperCase`, `isWord_lowerCase`: the other cases of a letter are words
* `not_isBlank_of_isDigit`, `not_isWordChar_of_isBlank`: white space holds no digits and belongs to
  no word
-/

namespace Storefront.Text

variable {c : Char} {n : Nat} {runs : List CodeRun}

/-- The ranges of the code points of white space. -/
def blankRanges : List CodeRange :=
  [⟨9, 13⟩, ⟨0x20, 0x20⟩, ⟨0x85, 0x85⟩, ⟨0xA0, 0xA0⟩, ⟨0x1680, 0x1680⟩, ⟨0x2000, 0x200A⟩,
   ⟨0x2028, 0x2029⟩, ⟨0x202F, 0x202F⟩, ⟨0x205F, 0x205F⟩, ⟨0x3000, 0x3000⟩]

theorem isBlank_iff : isBlank c = true ↔
    ∃ b ∈ blankRanges, b.first ≤ c.toNat ∧ c.toNat ≤ b.last := by
  simp only [isBlank, blankRanges, Bool.or_eq_true, Bool.and_eq_true, decide_eq_true_eq, beq_iff_eq,
    List.mem_cons, List.not_mem_nil, or_false, exists_eq_or_imp, exists_eq_left]
  omega

/-! ## Tables -/

/-- Whether the code points from one to another are clear of white space. -/
def isClear (first last : Nat) : Bool :=
  blankRanges.all fun b => last.blt b.first || b.last.blt first

theorem not_isBlank_of_isClear {first last : Nat} (h : isClear first last = true)
    (hn : first ≤ c.toNat ∧ c.toNat ≤ last) : isBlank c = false := by
  refine Bool.eq_false_iff.2 fun hc => ?_
  obtain ⟨b, hb, hf, hl⟩ := isBlank_iff.1 hc
  have := List.all_eq_true.1 h b hb
  simp only [Bool.or_eq_true, Nat.blt_eq] at this
  omega

/-- **The runs of a table keep clear of white space**: none takes any, and none leads to any. -/
def keepsClear (runs : List CodeRun) : Bool :=
  runs.all fun r => isClear r.first r.last && isClear r.target (r.target + (r.last - r.first))

/-- What is no code point stands for the null character, which is no white space. -/
theorem toNat_ofNat_of_isBlank (h : isBlank (Char.ofNat n) = true) : (Char.ofNat n).toNat = n := by
  by_cases hn : n.isValidChar
  · rw [Char.ofNat, dif_pos hn]
    rfl
  · rw [Char.ofNat, dif_neg hn] at h
    exact absurd h (by decide)

/-- A table whose runs keep clear of white space leads to white space only from there, where it
stays. -/
theorem isBlank_ofNat_image (h : keepsClear runs = true) (c : Char) :
    isBlank (Char.ofNat (image runs c.toNat)) = isBlank c := by
  induction runs with
  | nil => rw [image_nil, Char.ofNat_toNat]
  | cons r rest ih =>
    simp only [keepsClear, List.all_cons, Bool.and_eq_true] at h
    obtain ⟨⟨hsource, htarget⟩, hrest⟩ := h
    unfold image
    -- Before the run and beside its steps the character stays.
    split_ifs with hlt hle hstep
    · rw [Char.ofNat_toNat]
    · -- A code point of the run is no white space, and neither is what it moves to.
      rw [not_isBlank_of_isClear hsource ⟨by omega, hle⟩]
      refine Bool.eq_false_iff.2 fun hb => ?_
      have hn := toNat_ofNat_of_isBlank hb
      rw [not_isBlank_of_isClear htarget (by omega)] at hb
      simp at hb
    · rw [Char.ofNat_toNat]
    · exact ih hrest

/-! ## Letter case -/

/-- The tables of letter case keep clear of white space. -/
theorem keepsClear_tables : keepsClear foldRuns = true ∧ keepsClear upperRuns = true ∧
    keepsClear lowerRuns = true := by
  decide +kernel

theorem isClear_upperTexts :
    (upperTexts.all fun (_, text) => !text.isEmpty && text.all fun n => isClear n n) = true := by
  decide +kernel

/-- **Folding keeps white space**, and makes none. -/
@[simp] theorem isBlank_foldCase (c : Char) : isBlank (foldCase c) = isBlank c :=
  isBlank_ofNat_image keepsClear_tables.1 c

/-- Characters with the same fold are white space or not together. -/
theorem isBlank_eq_of_foldCase_eq {d : Char} (h : foldCase c = foldCase d) :
    isBlank c = isBlank d := by
  rw [← isBlank_foldCase c, h, isBlank_foldCase]

theorem isWord_singleton (h : isBlank c = false) : IsWord [c] :=
  ⟨by simp, by simpa using h⟩

/-- The upper case of a character other than white space is a word. -/
theorem isWord_upperCase (h : isBlank c = false) : IsWord (upperCase c) := by
  unfold upperCase
  split
  · -- an upper case of its own, which may have several characters
    next text heq =>
    obtain ⟨before, after, hl, -⟩ := List.lookup_eq_some_iff.1 heq
    have := List.all_eq_true.1 isClear_upperTexts (c.toNat, text) (by simp [hl])
    simp only [Bool.and_eq_true, Bool.not_eq_true', List.all_eq_true] at this
    refine ⟨by simpa using this.1, ?_⟩
    intro d hd
    -- Each of its characters is clear of white space.
    obtain ⟨n, hn, rfl⟩ := List.mem_map.1 hd
    refine Bool.eq_false_iff.2 fun hb => ?_
    have hclear := this.2 n hn
    rw [not_isBlank_of_isClear hclear (by rw [toNat_ofNat_of_isBlank hb]; omega)] at hb
    simp at hb
  · exact isWord_singleton ((isBlank_ofNat_image keepsClear_tables.2.1 c).trans h)

/-- The lower case of a character other than white space is a word. -/
theorem isWord_lowerCase (h : isBlank c = false) : IsWord (lowerCase c) := by
  unfold lowerCase
  split
  · exact ⟨by simp, List.forall_mem_cons.2 ⟨by decide, List.forall_mem_singleton.2 (by decide)⟩⟩
  · exact isWord_singleton ((isBlank_ofNat_image keepsClear_tables.2.2 c).trans h)

/-! ## Digits and word characters -/

theorem isClear_digits : (digitZeros.all fun first => isClear first (first + 9)) = true := by
  decide +kernel

theorem isClear_wordRanges : (wordRanges.all fun r => isClear r.first r.last) = true := by
  decide +kernel

/-- No digit is white space. -/
theorem not_isBlank_of_isDigit (h : isDigit c = true) : isBlank c = false := by
  obtain ⟨first, hf, hc⟩ := List.any_eq_true.1 h
  simp only [Bool.and_eq_true, decide_eq_true_eq] at hc
  exact not_isBlank_of_isClear (List.all_eq_true.1 isClear_digits first hf) (by omega)

theorem not_isBlank_of_isAsciiDigit (h : isAsciiDigit c = true) : isBlank c = false := by
  have hc : 48 ≤ c.toNat ∧ c.toNat ≤ 57 := by
    simpa [isAsciiDigit, Char.le_def, UInt32.le_iff_toNat_le] using h
  have hclear : isClear 48 57 = true := by decide
  exact not_isBlank_of_isClear hclear hc

/-- A code point in ranges lies in one of them. -/
theorem exists_of_inRanges {ranges : List CodeRange} (h : inRanges ranges n = true) :
    ∃ r ∈ ranges, r.first ≤ n ∧ n ≤ r.last := by
  induction ranges with
  | nil => simp at h
  | cons r rest ih =>
    unfold inRanges at h
    split at h
    · simp at h
    · rcases Bool.or_eq_true_iff.1 h with hl | hr
      · exact ⟨r, by simp, by omega, by simpa using hl⟩
      · obtain ⟨q, hq, hn⟩ := ih hr
        exact ⟨q, List.mem_cons_of_mem _ hq, hn⟩

/-- White space belongs to no word. -/
theorem not_isWordChar_of_isBlank (h : isBlank c = true) : isWordChar c = false := by
  refine Bool.eq_false_iff.2 fun hw => ?_
  obtain ⟨r, hr, hn⟩ := exists_of_inRanges hw
  rw [not_isBlank_of_isClear (List.all_eq_true.1 isClear_wordRanges r hr) hn] at h
  simp at h

end Storefront.Text
