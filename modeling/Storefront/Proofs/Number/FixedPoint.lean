import Mathlib
import Storefront.Number.Fixed
import Storefront.Proofs.Query.Writing

/-!
# Fixed decimals are the nearest ones

A finite binary value is a dyadic rational. Written with a fixed number of places it becomes the
decimal of those places that is nearest to it; of two that are equally near it becomes the one with
the even last digit. It keeps its sign, also where all digits are zero, and the order of two values
is the order of their decimals. Rounding is done on magnitudes, so all of this follows from what
`divideEven` does with one quotient.

## Main definitions

* `Binary.toRat`, `Binary.isNegative`: the exact value, and the sign
* `FixedDecimal`: a decimal as it is written, and `FixedDecimal.toRat`, its exact value
* `FixedDecimal.IsNearest`: the decimal that stands for a value
* `Binary.literal`: the decimal that a value is written as

## Main results

* `abs_divideEven_sub_le`, `even_divideEven_of_tie`, `divideEven_mono`: rounding a quotient
* `atLeast_iff_toRat_le`: finite values are compared as the numbers they are
* `fixed_eq_text`: the text of a value is that of its decimal
* `isNearest_literal`, `literal_mono`: it is the nearest one, and keeps the order
-/

namespace Storefront

open Text

/-! ## Rounding a quotient -/

section Rounding

variable {num num' den : Nat}

/-- The rounded quotient is at most half a unit away, and half a unit only if it is even. -/
theorem divideEven_spec (num : Nat) (h : 0 < den) :
    2 * (divideEven num den * den) ≤ 2 * num + den ∧
      2 * num ≤ 2 * (divideEven num den * den) + den ∧
      (2 * (divideEven num den * den) = 2 * num + den ∨
        2 * num = 2 * (divideEven num den * den) + den → Even (divideEven num den)) := by
  have hlt := Nat.mod_lt num h
  have hnum : num = num / den * den + num % den := by
    rw [Nat.mul_comm]
    exact (Nat.div_add_mod num den).symm
  have hsucc : (num / den + 1) * den = num / den * den + den := Nat.succ_mul ..
  unfold divideEven
  dsimp only
  split
  · -- nearer to the lower neighbour
    exact ⟨by omega, by omega, by omega⟩
  · split
    · -- nearer to the upper one
      rw [hsucc]
      exact ⟨by omega, by omega, by omega⟩
    · -- a tie, where the remainder says which neighbour is even
      rcases Nat.mod_two_eq_zero_or_one (num / den) with he | he <;> rw [he]
      · rw [Nat.add_zero]
        exact ⟨by omega, by omega, fun _ => Nat.even_iff.2 he⟩
      · rw [hsucc]
        exact ⟨by omega, by omega, fun _ => Nat.even_iff.2 (by omega)⟩

theorem divideEven_mono (h : 0 < den) (hle : num ≤ num') :
    divideEven num den ≤ divideEven num' den := by
  rcases hle.eq_or_lt with rfl | hlt
  · exact le_rfl
  obtain ⟨hlow, -⟩ := divideEven_spec num h
  obtain ⟨-, hhigh, -⟩ := divideEven_spec num' h
  by_contra hcon
  -- The larger numerator would be rounded down past the smaller one.
  have hstep : (divideEven num' den + 1) * den ≤ divideEven num den * den :=
    Nat.mul_le_mul_right den (by omega)
  rw [Nat.succ_mul] at hstep
  omega

/-- **The rounded quotient is at most half a unit away** from the quotient. -/
theorem abs_divideEven_sub_le (h : 0 < den) :
    |(divideEven num den : ℚ) - num / den| ≤ 1 / 2 := by
  obtain ⟨hlow, hhigh, -⟩ := divideEven_spec num h
  have hden : (0 : ℚ) < den := by exact_mod_cast h
  have hlow' : (2 * (divideEven num den * den) : ℚ) ≤ 2 * num + den := by exact_mod_cast hlow
  have hhigh' : (2 * num : ℚ) ≤ 2 * (divideEven num den * den) + den := by exact_mod_cast hhigh
  rw [abs_le]
  constructor
  · rw [neg_le_sub_iff_le_add, div_le_iff₀ hden]
    linarith
  · rw [sub_le_iff_le_add', ← sub_le_iff_le_add, le_div_iff₀ hden]
    linarith

/-- **A tie goes to the even neighbour.** -/
theorem even_divideEven_of_tie (h : 0 < den)
    (ht : |(divideEven num den : ℚ) - num / den| = 1 / 2) : Even (divideEven num den) := by
  obtain ⟨-, -, heven⟩ := divideEven_spec num h
  have hden : (den : ℚ) ≠ 0 := by exact_mod_cast h.ne'
  apply heven
  rcases eq_or_eq_neg_of_abs_eq ht with he | he
  · left
    field_simp at he
    have : (2 * (divideEven num den * den) : ℚ) = 2 * num + den := by linarith
    exact_mod_cast this
  · right
    field_simp at he
    have : (2 * num : ℚ) = 2 * (divideEven num den * den) + den := by linarith
    exact_mod_cast this

end Rounding

/-! ## Exact values -/

namespace Binary

variable {f : Format}

/-- Whether a value has a minus sign; zeros have signs, too. -/
def isNegative : Binary f → Bool
  | .nan negative | .infinite negative | .finite negative _ _ => negative

/-- **The exact value**, a dyadic rational. What is not finite counts as zero. -/
def toRat (x : Binary f) : ℚ := (if x.isNegative then -1 else 1) * (x.units / 2 ^ f.bias)

theorem toRat_finite (negative : Bool) (units : Nat) (holds : f.Holds units) :
    (finite negative units holds).toRat = signedUnits negative units / 2 ^ f.bias := by
  cases negative <;> simp [toRat, isNegative, Binary.units, signedUnits, neg_div]

/-- **Finite values are compared as the numbers they are.** -/
theorem atLeast_iff_toRat_le {x y : Binary f} (hx : x.isFinite = true) (hy : y.isFinite = true) :
    x.atLeast y = true ↔ y.toRat ≤ x.toRat := by
  have htwo : (0 : ℚ) < 2 ^ f.bias := by positivity
  cases x <;> cases y <;> simp only [isFinite, Bool.false_eq_true] at hx hy
  rw [toRat_finite, toRat_finite, div_le_div_iff_of_pos_right htwo, atLeast, decide_eq_true_iff,
    Int.cast_le]

end Binary

/-! ## Decimals as they are written -/

/-- **A decimal with a fixed number of places**, as it is written: perhaps a minus sign, digits
without a superfluous zero in front, a point, and so many digits. -/
structure FixedDecimal (places : Nat) where
  /-- Whether there is a minus sign. -/
  negative : Bool
  /-- The digits before the point. -/
  whole : List Char
  /-- The digits behind it. -/
  fraction : List Char
  isWhole : Query.IsWhole whole
  length_fraction : fraction.length = places
  isAsciiDigit_of_mem : ∀ c ∈ fraction, isAsciiDigit c = true

namespace FixedDecimal

variable {places : Nat} {f : Format}

/-- How the decimal is written. -/
def text (d : FixedDecimal places) : List Char :=
  (if d.negative then ['-'] else []) ++ (d.whole ++ '.' :: d.fraction)

/-- The digits without the point, read as a whole number. -/
def coefficient (d : FixedDecimal places) : Nat := Nat.ofDigitChars 10 (d.whole ++ d.fraction) 0

/-- **The number that is written.** -/
def toRat (d : FixedDecimal places) : ℚ :=
  (if d.negative then -1 else 1) * (d.coefficient / 10 ^ places)

/-- **The decimal stands for a value**: it has the sign of the value and is at most half of a last
place away from it, and where it is just that, its last digit is even. -/
structure IsNearest (x : Binary f) (d : FixedDecimal places) : Prop where
  negative_eq : d.negative = x.isNegative
  error_le : |d.toRat - x.toRat| ≤ 1 / 2 / 10 ^ places
  even_of_tie : |d.toRat - x.toRat| = 1 / 2 / 10 ^ places →
    ∀ c, (d.whole ++ d.fraction).getLast? = some c → Even (digitValue c)

/-- The number of last places, laid out with a point. -/
def ofLastPlaces (negative : Bool) (n : Nat) (h : 0 < places) : FixedDecimal places where
  negative
  whole := Nat.toDigits 10 (n / Nat.pow 10 places)
  fraction :=
    let fraction := Nat.toDigits 10 (n % Nat.pow 10 places)
    List.replicate (places - fraction.length) '0' ++ fraction
  isWhole := isWhole_toDigits _
  length_fraction := by
    have hlt : n % Nat.pow 10 places < 10 ^ places := Nat.mod_lt _ (Nat.pow_pos (by decide))
    have hle := (Nat.length_toDigits_le_iff (by decide) h).2 hlt
    simp only [List.length_append, List.length_replicate]
    omega
  isAsciiDigit_of_mem := by
    intro c hc
    rcases List.mem_append.1 hc with hc | hc
    · rw [List.eq_of_mem_replicate hc]
      rfl
    · exact isAsciiDigit_of_mem_toDigits hc

theorem coefficient_ofLastPlaces (negative : Bool) (n : Nat) (h : 0 < places) :
    (ofLastPlaces negative n h).coefficient = n := by
  have hlen := (ofLastPlaces negative n h).length_fraction
  unfold coefficient
  rw [Nat.ofDigitChars_append, Nat.ofDigitChars_eq_ofDigitChars_zero, hlen]
  simp only [ofLastPlaces, Nat.ofDigitChars_append, Nat.ofDigitChars_replicate_zero,
    Nat.ofDigitChars_ten_toDigits, Nat.mul_zero]
  exact Nat.div_add_mod n (10 ^ places)

/-- The last digit of a number is even if the number is. -/
theorem even_digitValue {d : FixedDecimal places} (h : Even d.coefficient) {c : Char}
    (hc : (d.whole ++ d.fraction).getLast? = some c) : Even (digitValue c) := by
  obtain ⟨front, hfront⟩ := List.getLast?_eq_some_iff.1 hc
  unfold coefficient at h
  rw [hfront, Nat.ofDigitChars_append, Nat.ofDigitChars_cons, Nat.ofDigitChars_nil] at h
  rw [Nat.even_add] at h
  exact h.1 (Even.mul_right (by decide) _)

end FixedDecimal

/-! ## The decimal of a value -/

namespace Binary

variable {f : Format} {places : Nat} {x y : Binary f}

/-- **The decimal that a value is written as.** -/
def literal (places : Nat) (h : 0 < places) (x : Binary f) : FixedDecimal places :=
  .ofLastPlaces x.isNegative (lastPlaces f places x.units) h

theorem fixed_eq_text (h : 0 < places) (hx : x.isFinite = true) :
    x.fixed places = (x.literal places h).text := by
  cases x with
  | finite negative units holds => rfl
  | _ => simp [isFinite] at hx

theorem toRat_literal (h : 0 < places) (x : Binary f) :
    (x.literal places h).toRat =
      (if x.isNegative then -1 else 1) * (lastPlaces f places x.units / 10 ^ places) := by
  rw [literal, FixedDecimal.toRat, FixedDecimal.coefficient_ofLastPlaces]
  rfl

/-- How far a decimal is off does not depend on the sign. -/
theorem abs_literal_sub (h : 0 < places) (x : Binary f) :
    |(x.literal places h).toRat - x.toRat| =
      |(lastPlaces f places x.units : ℚ) -
        (x.units * Nat.pow 10 places : Nat) / (Nat.pow 2 f.bias : Nat)| / 10 ^ places := by
  have hten : (0 : ℚ) < 10 ^ places := by positivity
  rw [toRat_literal, toRat, ← mul_sub, abs_mul]
  have hsign : |if x.isNegative then (-1 : ℚ) else 1| = 1 := by split <;> simp
  rw [hsign, one_mul, ← abs_of_pos hten, ← abs_div, abs_of_pos hten]
  congr 1
  push_cast [Nat.pow_eq]
  field_simp

/-- **The decimal of a value is the nearest one.** -/
theorem isNearest_literal (h : 0 < places) (x : Binary f) :
    (x.literal places h).IsNearest x := by
  have hten : (0 : ℚ) < 10 ^ places := by positivity
  have hden : 0 < Nat.pow 2 f.bias := Nat.two_pow_pos _
  constructor
  case negative_eq => rfl
  case error_le =>
    rw [abs_literal_sub]
    exact div_le_div_of_nonneg_right (abs_divideEven_sub_le hden) hten.le
  case even_of_tie =>
    intro ht c hc
    rw [abs_literal_sub, div_left_inj' hten.ne'] at ht
    apply FixedDecimal.even_digitValue _ hc
    rw [literal, FixedDecimal.coefficient_ofLastPlaces]
    exact even_divideEven_of_tie hden ht

theorem lastPlaces_mono {m n : Nat} (h : m ≤ n) : lastPlaces f places m ≤ lastPlaces f places n :=
  divideEven_mono (Nat.two_pow_pos _) (Nat.mul_le_mul_right _ h)

/-- **The decimals of two values are in the order of the values.** -/
theorem literal_mono (h : 0 < places) (hxy : x.toRat ≤ y.toRat) :
    (x.literal places h).toRat ≤ (y.literal places h).toRat := by
  have htwo : (0 : ℚ) < 2 ^ f.bias := by positivity
  have hten : (0 : ℚ) < 10 ^ places := by positivity
  rw [toRat_literal, toRat_literal, mul_div_assoc', mul_div_assoc',
    div_le_div_iff_of_pos_right hten]
  rw [toRat, toRat, mul_div_assoc', mul_div_assoc', div_le_div_iff_of_pos_right htwo] at hxy
  have hx0 : (0 : ℚ) ≤ x.units := Nat.cast_nonneg _
  have hy0 : (0 : ℚ) ≤ y.units := Nat.cast_nonneg _
  cases hx : x.isNegative <;> cases hy : y.isNegative <;>
    simp only [hx, hy, if_true, Bool.false_eq_true, if_false, one_mul, neg_one_mul] at hxy ⊢
  · exact_mod_cast lastPlaces_mono (by exact_mod_cast hxy)
  · -- A value that is not negative is below a negative one only if both are zero.
    have hxu : x.units = 0 := by
      rw [← Nat.cast_eq_zero (R := ℚ)]
      linarith
    have hyu : y.units = 0 := by
      rw [← Nat.cast_eq_zero (R := ℚ)]
      linarith
    simp [hxu, hyu, lastPlaces]
  · have hnonneg : (0 : ℚ) ≤ lastPlaces f places x.units + lastPlaces f places y.units := by
      positivity
    linarith
  · rw [neg_le_neg_iff] at hxy ⊢
    exact_mod_cast lastPlaces_mono (by exact_mod_cast hxy)

end Binary

end Storefront
