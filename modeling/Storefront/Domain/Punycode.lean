/-!
# Punycode

A text in other characters as one in letters, digits and hyphens. The characters of ASCII come
first, then the places of the others as numbers: in ascending order, every one of them is the number
of steps from the one before it through all places of the text and all code points.

## Main definitions

* `threshold`, `adapt`: where the digits of a number end, and how that changes
* `writeNumber`, `encode`: writing
* `readNumber`, `decode?`: reading

## Main results

* `threshold_bounds`: a number can end at each of its digits, and go on there
* `digit?_digit`: a digit reads back
-/

namespace Storefront.Domain.Punycode

/-! ## Digits -/

/-- The digit of a value: the letters, then the decimal digits. -/
def digit (value : Nat) : Char := Char.ofNat (if value < 26 then 0x61 + value else 0x16 + value)

/-- The value of a digit; letters count in both cases. -/
def digit? (c : Char) : Option Nat :=
  if 'a' ≤ c ∧ c ≤ 'z' then some (c.toNat - 0x61)
  else if 'A' ≤ c ∧ c ≤ 'Z' then some (c.toNat - 0x41)
  else if '0' ≤ c ∧ c ≤ '9' then some (c.toNat - 0x16)
  else none

/-- A digit reads back. -/
theorem digit?_digit {value : Nat} (h : value < 36) : digit? (digit value) = some value := by
  have hall : ∀ v < 36, digit? (digit v) = some v := by decide
  exact hall value h

/-- A digit below the threshold of its place is the last one of its number. The threshold grows with
the place, from 1 to 26, later if the bias is higher. -/
def threshold (bias place : Nat) : Nat := max 1 (min 26 (36 * place - bias))

/-- A number can end at each of its digits, and go on there. -/
theorem threshold_bounds (bias place : Nat) : 1 ≤ threshold bias place ∧
    threshold bias place ≤ 26 := by
  unfold threshold
  omega

/-- How often a number is divided by 35 until it is at most 455, and what is left. -/
def reduce (n : Nat) : Nat × Nat :=
  if 455 < n then
    let (times, rest) := reduce (n / 35)
    (times + 1, rest)
  else (0, n)
termination_by n
decreasing_by omega

/-- **The bias after a number**, given how many characters are placed and whether it was the first
number: small numbers are expected after small ones. -/
def adapt (n placed : Nat) (isFirst : Bool) : Nat :=
  let n := if isFirst then n / 700 else n / 2
  let (times, rest) := reduce (n + n / placed)
  36 * times + 36 * rest / (rest + 38)

/-! ## Writing -/

/-- **The digits of a number**, the lowest first. -/
def writeNumber (bias place n : Nat) : List Char :=
  let t := threshold bias place
  if n < t then [digit n]
  else digit (t + (n - t) % (36 - t)) :: writeNumber bias (place + 1) ((n - t) / (36 - t))
termination_by n
decreasing_by
  have := threshold_bounds bias place
  exact Nat.lt_of_le_of_lt (Nat.div_le_self _ _) (by omega)

/-- A text that is being written. -/
structure Writer where
  /-- The digits so far. -/
  digits : List Char := []
  /-- The steps since the last character. -/
  steps : Nat := 0
  /-- The code point that is looked for. -/
  code : Nat := 0x80
  /-- The bias. -/
  bias : Nat := 72
  /-- How many characters are placed. -/
  placed : Nat
  /-- Whether no number was written yet. -/
  isFirst : Bool := true

/-- Passes one place of the text: a lower character is one step, and the one that is looked for is
placed. -/
def Writer.pass (w : Writer) (c : Char) : Writer :=
  if c.toNat < w.code then { w with steps := w.steps + 1 }
  else if c.toNat = w.code then
    { w with
      digits := w.digits ++ writeNumber w.bias 1 w.steps
      steps := 0
      bias := adapt w.steps (w.placed + 1) w.isFirst
      placed := w.placed + 1
      isFirst := false }
  else w

/-- Places all characters with a code point. On the way there, each code point is a step at every
place. -/
def Writer.placeAll (s : List Char) (w : Writer) (code : Nat) : Writer :=
  let w := { w with steps := w.steps + (code - w.code) * (w.placed + 1), code }
  let w := s.foldl Writer.pass w
  { w with steps := w.steps + 1, code := code + 1 }

/-- **A text in letters, digits and hyphens.** -/
def encode (s : List Char) : List Char :=
  let basic := s.filter fun c => c.toNat < 0x80
  let codes := ((s.map Char.toNat).filter fun n => 0x80 ≤ n).mergeSort.eraseDups
  let w := codes.foldl (Writer.placeAll s) { placed := basic.length }
  basic ++ (if basic.isEmpty then [] else ['-']) ++ w.digits

/-! ## Reading -/

/-- Reads a number, which is added to `value`; digits count `weight` times as much as at the first
place. What follows the number is left. -/
def readNumber (bias : Nat) : (place weight value : Nat) → List Char → Option (Nat × List Char)
  | _, _, _, [] => none
  | place, weight, value, c :: rest =>
    match digit? c with
    | none => none
    | some d =>
      let t := threshold bias place
      let value := value + d * weight
      if d < t then some (value, rest)
      else readNumber bias (place + 1) (weight * (36 - t)) value rest

/-- A number takes one digit at least. -/
theorem length_lt_of_readNumber {bias place weight value n : Nat} {s rest : List Char}
    (h : readNumber bias place weight value s = some (n, rest)) : rest.length < s.length := by
  induction s generalizing place weight value with
  | nil => simp [readNumber] at h
  | cons c tail ih =>
    unfold readNumber at h
    split at h
    · simp at h
    · dsimp only at h
      split at h
      · simp_all
      · have := ih h
        simp only [List.length_cons]
        omega

/-- Reads the places of characters, which go into the text read so far. -/
def readPlaces (text : List Char) (code steps bias : Nat) (isFirst : Bool) (s : List Char) :
    Option (List Char) :=
  if s.isEmpty then some text
  else
    match _h : readNumber bias 1 1 steps s with
    | none => none
    | some (n, rest) =>
      let count := text.length + 1
      let code := code + n / count
      if code.isValidChar then
        readPlaces (text.insertIdx (n % count) (Char.ofNat code)) code (n % count + 1)
          (adapt (n - steps) count isFirst) false rest
      else none
termination_by s.length
decreasing_by exact length_lt_of_readNumber _h

/-- The characters of ASCII in front of the last hyphen, and the digits behind it. A hyphen at the
start is none that ends such characters. -/
def splitBasic (s : List Char) : List Char × List Char :=
  match s.reverse.span (· ≠ '-') with
  | (digits, _ :: c :: basic) => ((c :: basic).reverse, digits.reverse)
  | _ => ([], s)

/-- **The text that letters, digits and hyphens stand for.** -/
def decode? (s : List Char) : Option (List Char) :=
  let (basic, digits) := splitBasic s
  readPlaces basic 0x80 0 72 true digits

example : encode "bücher".toList = "bcher-kva".toList := by decide +kernel
example : encode "☃".toList = "n3h".toList := by decide +kernel
example : decode? "bcher-kva".toList = some "bücher".toList := by decide +kernel
example : decode? "-a".toList = none ∧ decode? "a".toList = some ['\x80'] := by decide +kernel

end Storefront.Domain.Punycode
