import Storefront.Number.Decimal

/-!
# TOML scalars

What a run of characters outside of quotes stands for: a truth value, a whole number in one of four
bases, or a number with a point or an exponent. Digits may be grouped by underscores, each of which
stands between two digits.

## Main definitions

* `Scalar`: the values
* `ungroup?`: digits without their underscores
* `integer?`, `float?`, `Scalar.ofText?`: reading a value

## Main results

* `ungroup?_eq_some`: what is left are digits of the base
-/

namespace Storefront.Toml

open Text

/-- What a run of characters stands for. -/
inductive Scalar where
  /-- A truth value. -/
  | bool (b : Bool)
  /-- A whole number. -/
  | integer (n : Int)
  /-- A number with a point or an exponent, an infinity, or what is not a number. -/
  | float (x : Double)
  deriving DecidableEq

/-- Digits of a base without the underscores between them, given whether a digit stands before. -/
def ungroupFrom? (base : Nat) : (digitBefore : Bool) → List Char → Option (List Char)
  | digitBefore, [] => if digitBefore then some [] else none
  | digitBefore, c :: rest =>
    if c = '_' then if digitBefore then ungroupFrom? base false rest else none
    else if (digit? base c).isSome then (ungroupFrom? base true rest).map (c :: ·)
    else none

/-- **Digits of a base without the underscores between them.** There must be one at least. -/
def ungroup? (base : Nat) (s : List Char) : Option (List Char) := ungroupFrom? base false s

/-- What is left are digits of the base. -/
theorem ungroup?_eq_some {base : Nat} {s t : List Char} (h : ungroup? base s = some t) :
    ∀ c ∈ t, (digit? base c).isSome := by
  suffices ∀ b, ungroupFrom? base b s = some t → ∀ c ∈ t, (digit? base c).isSome from this _ h
  clear h
  induction s generalizing t with
  | nil => intro b h; cases b <;> simp_all [ungroupFrom?]
  | cons c rest ih =>
    intro b h
    unfold ungroupFrom? at h
    split at h
    · split at h
      · exact ih _ h
      · simp at h
    · split at h
      · next hc =>
        obtain ⟨t', ht', rfl⟩ := Option.map_eq_some_iff.1 h
        intro d hd
        rcases List.mem_cons.1 hd with rfl | hd
        · exact hc
        · exact ih _ ht' d hd
      · simp at h

/-- The number that grouped digits of a base spell. -/
def grouped? (base : Nat) (s : List Char) : Option Nat := (ungroup? base s).bind (ofDigits? base)

/-- Grouped decimal digits without a needless zero in front. -/
def wholeDigits? (s : List Char) : Option (List Char) :=
  (ungroup? 10 s).filter fun ds => ds.length = 1 || ds.head? != some '0'

/-- Whether a whole number is one that can be read: it fits 128 bits, with a sign or without. -/
def isReadable (n : Int) : Bool :=
  decide (-(Nat.pow 2 127 : Nat) ≤ n) && decide (n < (Nat.pow 2 128 : Nat))

/-- **A whole number**: decimal with an optional sign, or in another base without one. -/
def integer? (s : List Char) : Option Int :=
  match s with
  | '0' :: 'x' :: ds => (grouped? 16 ds).map Int.ofNat
  | '0' :: 'o' :: ds => (grouped? 8 ds).map Int.ofNat
  | '0' :: 'b' :: ds => (grouped? 2 ds).map Int.ofNat
  | s =>
    let (negative, ds) := Decimal.splitSign s
    ((wholeDigits? ds).bind (ofDigits? 10)).map fun n => if negative then -(n : Int) else n

/-- The parts of a number before and from the letter of its exponent. -/
def splitExponent (s : List Char) : List Char × List Char := s.span fun c => c != 'e' && c != 'E'

/-- The power of ten behind the letter of an exponent. -/
def power? : List Char → Option Int
  | [] => some 0
  | _ :: s =>
    let (negative, ds) := Decimal.splitSign s
    (grouped? 10 ds).map fun n => if negative then -(n : Int) else n

/-- The digits behind a point; a point needs one at least. -/
def fraction? : List Char → Option (List Char)
  | [] => some []
  | _ :: ds => ungroup? 10 ds

/-- **A number with a point or an exponent.** One that rounds to an infinity is none. -/
def float? (s : List Char) : Option Double :=
  let (negative, s) := Decimal.splitSign s
  if s = "inf".toList then some (.infinite negative)
  else if s = "nan".toList then some (.nan negative)
  else do
    let (mantissa, exponent) := splitExponent s
    let (whole, fraction) := mantissa.span (· ≠ '.')
    let d := Decimal.ofParts negative (← wholeDigits? whole) (← fraction? fraction)
      (← power? exponent)
    let x := d.toBinary .double
    if x.isFinite then some x else none

/-- **What a run of characters stands for.** -/
def Scalar.ofText? (s : List Char) : Option Scalar :=
  if s = "true".toList then some (.bool true)
  else if s = "false".toList then some (.bool false)
  else match integer? s with
    | some n => if isReadable n then some (.integer n) else none
    | none => (float? s).map .float

example : integer? "-1_000".toList = some (-1000) ∧ integer? "0xfF".toList = some 255 ∧
    integer? "05".toList = none ∧ integer? "1__0".toList = none := by decide +kernel

example : Scalar.ofText? (List.replicate 40 '9') = none := by decide +kernel

example : float? "1E0".toList = some (.ofInt .double 1) ∧ float? ".5".toList = none ∧
    float? "1.".toList = none := by decide +kernel

end Storefront.Toml
