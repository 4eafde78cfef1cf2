/-!
# Binary floating point

The values of a binary floating point format, as exact multiples of the least positive one. Every
operation is integer arithmetic on those multiples: rounding to nearest with ties to even, moving
between formats, comparing, and the bit pattern.

## Main definitions

* `Format`, `Format.single`, `Format.double`: the formats
* `Binary f`: the values of the format `f`; `Format.Holds` states which multiples are values
* `Binary.round`: the value nearest to a quotient of units
* `Binary.convert`: the nearest value of another format
* `Binary.scale`: the value nearest to a multiple of a value
* `Binary.atLeast`, `Binary.below`: the order of the values, false when one is not a number
* `Binary.bits`: the bit pattern of a value

## Main results

* `divideEven_le_of_lt`: a quotient below a whole number does not round above it
* `Binary.round_zero`: nothing rounds to zero of the given sign
-/

namespace Storefront

/-- A binary floating point format: its finite values are the multiples of `2 ^ -bias` below
`2 ^ (limit - bias)` whose leading `precision` bits hold all that is not zero. -/
structure Format where
  /-- How many bits a significand has. -/
  precision : Nat
  /-- The least positive value is `2 ^ -bias`. -/
  bias : Nat
  /-- Values have fewer than `2 ^ limit` units. -/
  limit : Nat
  /-- A significand is not empty. -/
  precision_pos : 0 < precision := by decide
  deriving DecidableEq

/-- The 32-bit format. -/
def Format.single : Format := { precision := 24, bias := 149, limit := 277 }

/-- The 64-bit format. -/
def Format.double : Format := { precision := 53, bias := 1074, limit := 2098 }

/-- **The magnitudes of a format**, in units of its least positive value. -/
def Format.Holds (f : Format) (units : Nat) : Prop :=
  units < Nat.pow 2 f.limit ∧ ∃ m k, m < Nat.pow 2 f.precision ∧ units = m * Nat.pow 2 k

theorem Format.holds_zero (f : Format) : f.Holds 0 :=
  ⟨Nat.two_pow_pos _, 0, 0, Nat.two_pow_pos _, by simp⟩

/-- A value of the format `f`. Only finite values have a magnitude, and what is not a number keeps
its sign. -/
inductive Binary (f : Format) where
  /-- Not a number. -/
  | nan (negative : Bool)
  /-- An infinity. -/
  | infinite (negative : Bool)
  /-- The value of that many units of `2 ^ -bias`; zero has a sign, too. -/
  | finite (negative : Bool) (units : Nat) (holds : f.Holds units)
  deriving DecidableEq

/-- A 32-bit value. -/
abbrev Single := Binary .single

/-- A 64-bit value. -/
abbrev Double := Binary .double

/-! ## Rounding -/

/-- **Rounding a quotient to the nearest whole number**; a half goes to the even neighbour. -/
def divideEven (num den : Nat) : Nat :=
  let q := num / den
  let r := num % den
  if 2 * r < den then q else if den < 2 * r then q + 1 else q + q % 2

@[simp] theorem divideEven_zero (den : Nat) : divideEven 0 den = 0 := by
  simp [divideEven]

/-- A quotient below a whole number does not round above it. -/
theorem divideEven_le_of_lt {num den bound : Nat} (h : num / den < bound) :
    divideEven num den ≤ bound := by
  unfold divideEven
  have := Nat.mod_lt (num / den) (show 0 < 2 by decide)
  dsimp only
  split
  · omega
  · split <;> omega

/-- A quotient without remainder is its own rounding. -/
theorem divideEven_mul_self {n den : Nat} (h : 0 < den) : divideEven (n * den) den = n := by
  simp [divideEven, Nat.mul_div_cancel n h, h]

namespace Binary

variable {f g : Format}

/-- The exponent of the last bit of a significand that begins like the quotient `num / den`. -/
def lastPlace (f : Format) (num den : Nat) : Nat := (num / den).log2 + 1 - f.precision

private theorem significand_le (f : Format) (num den : Nat) :
    divideEven num (den * Nat.pow 2 (lastPlace f num den)) ≤ Nat.pow 2 f.precision := by
  simp only [Nat.pow_eq]
  apply divideEven_le_of_lt
  rw [← Nat.div_div_eq_div_mul]
  apply Nat.div_lt_of_lt_mul
  rw [← Nat.pow_add]
  calc num / den < 2 ^ ((num / den).log2 + 1) := Nat.lt_log2_self
    _ ≤ 2 ^ (lastPlace f num den + f.precision) :=
      Nat.pow_le_pow_right (by decide) (by unfold lastPlace; omega)

private theorem holds_of_le {m k : Nat} (h : m ≤ Nat.pow 2 f.precision)
    (hl : m * Nat.pow 2 k < Nat.pow 2 f.limit) : f.Holds (m * Nat.pow 2 k) := by
  refine ⟨hl, ?_⟩
  rcases Nat.lt_or_eq_of_le h with h | rfl
  · exact ⟨m, k, h, rfl⟩
  · refine ⟨1, f.precision + k, ?_, by simp only [Nat.pow_eq, Nat.pow_add, Nat.one_mul]⟩
    exact Nat.one_lt_two_pow (Nat.ne_of_gt f.precision_pos)

/-- **The value nearest to `num / den` units**, ties to even; too large a quotient is infinite. -/
def round (f : Format) (negative : Bool) (num den : Nat) : Binary f :=
  let k := lastPlace f num den
  let m := divideEven num (den * Nat.pow 2 k)
  if h : m * Nat.pow 2 k < Nat.pow 2 f.limit then
    .finite negative (m * Nat.pow 2 k) (holds_of_le (significand_le f num den) h)
  else .infinite negative

/-- The zero of a sign. -/
def ofSign (negative : Bool) : Binary f := .finite negative 0 f.holds_zero

/-- Nothing rounds to the zero of the given sign. -/
@[simp] theorem round_zero (negative : Bool) (den : Nat) :
    round f negative 0 den = ofSign negative := by
  simp only [round, ofSign, divideEven_zero, Nat.zero_mul]
  exact dif_pos (Nat.two_pow_pos _)

/-- The value nearest to a whole number. -/
def ofInt (f : Format) (n : Int) : Binary f :=
  round f (decide (n < 0)) (n.natAbs * Nat.pow 2 f.bias) 1

/-- The value nearest to one of another format. What is not finite stays what it is. -/
def convert (g : Format) : Binary f → Binary g
  | .nan negative => .nan negative
  | .infinite negative => .infinite negative
  | .finite negative units _ => round g negative (units * Nat.pow 2 g.bias) (Nat.pow 2 f.bias)

/-- The number of units that a finite value is away from zero. -/
def units : Binary f → Nat
  | .finite _ units _ => units
  | _ => 0

/-- A zero of either sign. -/
def isZero : Binary f → Bool
  | .finite _ units _ => units == 0
  | _ => false

/-- The value nearest to a finite value times `num / den`. -/
def scale (num den : Nat) : Binary f → Binary f
  | .finite negative units _ => round f negative (units * num) den
  | x => x

/-! ## Order -/

/-- Neither infinite nor something that is not a number. -/
def isFinite : Binary f → Bool
  | .finite .. => true
  | _ => false

/-- The signed number of units of a finite value; both zeros have none. -/
def signedUnits (negative : Bool) (units : Nat) : Int :=
  if negative then -(units : Int) else units

/-- **The order of the values**: `x.atLeast y` states that `x` is `y` or above. It is false when
one of them is not a number. -/
def atLeast : Binary f → Binary f → Bool
  | .nan _, _ => false
  | _, .nan _ => false
  | .infinite false, _ => true
  | _, .infinite true => true
  | .infinite true, _ => false
  | _, .infinite false => false
  | .finite n x _, .finite m y _ => decide (signedUnits m y ≤ signedUnits n x)

/-- One value is less than another. What is not a number is less than none. -/
def below (x y : Binary f) : Bool := y.atLeast x && !x.atLeast y

/-! ## Bit patterns -/

/-- The pattern of a magnitude: the exponent of the leading bit above the other bits of the
significand, and below the least normal magnitude the number of units. -/
def magnitudeBits (f : Format) (units : Nat) : Nat :=
  let lead := Nat.pow 2 (f.precision - 1)
  if units < lead then units
  else
    let k := units.log2 - (f.precision - 1)
    (k + 1) * lead + (units / Nat.pow 2 k - lead)

/-- The pattern of an infinity without its sign. -/
def infinityBits (f : Format) : Nat := (f.limit - f.precision + 2) * Nat.pow 2 (f.precision - 1)

/-- The sign bit, which stands above the largest exponent. -/
def signBit (f : Format) (negative : Bool) : Nat :=
  if negative then (f.limit - f.precision + 3) * Nat.pow 2 (f.precision - 1) else 0

/-- **The bit pattern of a value.** What is not a number has the first bit of its significand. -/
def bits : Binary f → Nat
  | .nan negative => signBit f negative + infinityBits f + Nat.pow 2 (f.precision - 2)
  | .infinite negative => signBit f negative + infinityBits f
  | .finite negative units _ => signBit f negative + magnitudeBits f units

example : (Binary.infinite true : Single).bits = 4286578688 := by decide
example : (Binary.nan true : Single).bits = 4290772992 := by decide
example : (Binary.ofInt .single (-2)).bits = 3221225472 := by decide +kernel
example : (Binary.infinite false : Double).bits = 0x7FF0000000000000 := by decide
example : (Binary.infinite true : Double).bits = 0xFFF0000000000000 := by decide

end Binary

end Storefront
