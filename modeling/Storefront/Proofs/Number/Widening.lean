import Storefront.Number.Binary

/-!
# Values in a wider format

A value is its own rounding. If one format is wider than another, every value of the narrower one is
a value of the wider one, so what is moved there is moved back to what it was.

## Main definitions

* `Format.IsWider`: a format that has all values of another

## Main results

* `round_mul_self`: a value is its own rounding
* `convert_convert`: a value comes back from a wider format
-/

namespace Storefront

/-- **A format that has all values of another**: more bits, smaller units and a larger range. -/
structure Format.IsWider (g f : Format) : Prop where
  /-- A significand has no fewer bits. -/
  precision_le : f.precision ≤ g.precision
  /-- The units are no larger. -/
  bias_le : f.bias ≤ g.bias
  /-- The range is no smaller. -/
  limit_le : f.limit + (g.bias - f.bias) ≤ g.limit

theorem Format.isWider_double_single : Format.double.IsWider .single := by
  constructor <;> decide

namespace Format.IsWider

variable {f g : Format} {units : Nat}

/-- A value in the units of a wider format is a value of that format. -/
theorem holds (hw : g.IsWider f) (h : f.Holds units) :
    g.Holds (units * Nat.pow 2 (g.bias - f.bias)) := by
  obtain ⟨hl, m, k, hm, rfl⟩ := h
  simp only [Nat.pow_eq] at hl hm ⊢
  refine ⟨?_, m, k + (g.bias - f.bias), ?_, ?_⟩
  · calc m * 2 ^ k * 2 ^ (g.bias - f.bias)
      _ < 2 ^ f.limit * 2 ^ (g.bias - f.bias) := Nat.mul_lt_mul_of_pos_right hl (Nat.two_pow_pos _)
      _ = 2 ^ (f.limit + (g.bias - f.bias)) := (Nat.pow_add ..).symm
      _ ≤ 2 ^ g.limit := Nat.pow_le_pow_right (by decide) hw.limit_le
  · exact Nat.lt_of_lt_of_le hm (Nat.pow_le_pow_right (by decide) hw.precision_le)
  · rw [Nat.pow_eq, Nat.pow_add, Nat.mul_assoc]

/-- One unit of the narrower format is so many of the wider one. -/
theorem pow_bias (hw : g.IsWider f) :
    Nat.pow 2 g.bias = Nat.pow 2 (g.bias - f.bias) * Nat.pow 2 f.bias := by
  simp only [Nat.pow_eq]
  rw [← Nat.pow_add, Nat.sub_add_cancel hw.bias_le]

end Format.IsWider

namespace Binary

variable {f g : Format} {units den : Nat}

/-- The last place of a rounding stands no higher than the last bit of a value. -/
theorem lastPlace_le {m k : Nat} (hm : m < Nat.pow 2 f.precision) (hd : 0 < den) :
    lastPlace f (m * Nat.pow 2 k * den) den ≤ k := by
  simp only [Nat.pow_eq] at hm ⊢
  have hlog : (m * 2 ^ k).log2 < f.precision + k := by
    rcases Nat.eq_zero_or_pos (m * 2 ^ k) with h0 | hpos
    · have := f.precision_pos
      rw [h0, Nat.log2_zero]
      omega
    · rw [Nat.log2_lt (by omega), Nat.pow_add]
      exact Nat.mul_lt_mul_of_pos_right hm (Nat.two_pow_pos _)
  rw [lastPlace, Nat.mul_div_cancel _ hd]
  omega

/-- **A value is its own rounding**, in whatever units it is given. -/
theorem round_mul_self (h : f.Holds units) (hd : 0 < den) (negative : Bool) :
    round f negative (units * den) den = .finite negative units h := by
  obtain ⟨hl, m, k, hm, rfl⟩ := id h
  generalize hj : lastPlace f (m * Nat.pow 2 k * den) den = j
  have hle : j ≤ k := hj ▸ lastPlace_le hm hd
  -- All that stands below the last place is zero, so nothing is lost there.
  have hk : Nat.pow 2 k = Nat.pow 2 (k - j) * Nat.pow 2 j := by
    simp only [Nat.pow_eq]
    rw [← Nat.pow_add, Nat.sub_add_cancel hle]
  have hq : divideEven (m * Nat.pow 2 k * den) (den * Nat.pow 2 j) = m * Nat.pow 2 (k - j) := by
    have hn : m * Nat.pow 2 k * den = m * Nat.pow 2 (k - j) * (den * Nat.pow 2 j) := by
      rw [hk]
      ac_rfl
    rw [hn]
    exact divideEven_mul_self (Nat.mul_pos hd (Nat.two_pow_pos _))
  have hu : m * Nat.pow 2 (k - j) * Nat.pow 2 j = m * Nat.pow 2 k := by
    rw [Nat.mul_assoc, ← hk]
  unfold round
  simp only [hj, hq, hu]
  exact dif_pos hl

/-- **A value comes back from a wider format**, be it finite or not. -/
theorem convert_convert (hw : g.IsWider f) (x : Binary f) : (x.convert g).convert f = x := by
  cases x with
  | nan negative => rfl
  | infinite negative => rfl
  | finite negative units h =>
    have hg : convert g (.finite negative units h) = .finite negative _ (hw.holds h) := by
      rw [convert, hw.pow_bias, ← Nat.mul_assoc]
      exact round_mul_self (hw.holds h) (Nat.two_pow_pos _) negative
    rw [hg, convert, Nat.mul_assoc, ← hw.pow_bias]
    exact round_mul_self h (Nat.two_pow_pos _) negative

end Binary

end Storefront
