/-!
# UTF-8

The octets of characters, and the characters of octets. Octets that are no character are found one
faulty group at a time, so a reader can refuse them or put a mark in their place.

## Main definitions

* `Utf8.encode`: the octets of characters
* `Utf8.next`: the character at the start of some octets, or the faulty group there
* `Utf8.decode?`, `Utf8.decodeLossy`: the characters of octets, refusing faults or marking them

## Main results

* `next_rest_lt`: a character or a fault takes at least one octet
-/

namespace Storefront.Utf8

/-- The octets of characters. -/
def encode (s : List Char) : List UInt8 := s.flatMap String.utf8EncodeChar

/-- The bounds of the second octet that go with a first one, and how many octets follow the first.
The bounds keep out overlong forms, surrogates, and numbers that are too large. -/
def lead? (first : UInt8) : Option (UInt8 × UInt8 × Nat) :=
  if 0xC2 ≤ first ∧ first ≤ 0xDF then some (0x80, 0xBF, 1)
  else if first = 0xE0 then some (0xA0, 0xBF, 2)
  else if first = 0xED then some (0x80, 0x9F, 2)
  else if 0xE1 ≤ first ∧ first ≤ 0xEF then some (0x80, 0xBF, 2)
  else if first = 0xF0 then some (0x90, 0xBF, 3)
  else if 0xF1 ≤ first ∧ first ≤ 0xF3 then some (0x80, 0xBF, 3)
  else if first = 0xF4 then some (0x80, 0x8F, 3)
  else none

/-- The six bits of an octet that continues a character. -/
def tailBits (b : UInt8) : Nat := b.toNat % 0x40

/-- The continuing octets of a character, of which `count` are wanted and the first has the given
bounds: the number they lead to, if all are there, and what follows the ones that are. -/
def continuation : (count : Nat) → (low high : UInt8) → (value : Nat) → List UInt8 →
    Option Nat × List UInt8
  | 0, _, _, value, rest => (some value, rest)
  | _ + 1, _, _, _, [] => (none, [])
  | count + 1, low, high, value, b :: rest =>
    if low ≤ b ∧ b ≤ high then continuation count 0x80 0xBF (value * 0x40 + tailBits b) rest
    else (none, b :: rest)

/-- The value bits of a first octet that `count` others follow. -/
def leadBits (first : UInt8) (count : Nat) : Nat := first.toNat % Nat.pow 2 (6 - count)

/-- **The character at the start of the octets** `first :: rest`, or none for a faulty group there,
and what follows. -/
def next (first : UInt8) (rest : List UInt8) : Option Char × List UInt8 :=
  if first < 0x80 then (some (Char.ofNat first.toNat), rest)
  else
    match lead? first with
    | none => (none, rest)
    | some (low, high, count) =>
      let (value, rest) := continuation count low high (leadBits first count) rest
      (value.map Char.ofNat, rest)

theorem continuation_rest_le (count : Nat) (low high : UInt8) (value : Nat) (s : List UInt8) :
    (continuation count low high value s).2.length ≤ s.length := by
  induction count generalizing low high value s with
  | zero => simp [continuation]
  | succ count ih =>
    cases s with
    | nil => simp [continuation]
    | cons b rest =>
      unfold continuation
      split
      · exact Nat.le_succ_of_le (ih ..)
      · simp

/-- A character or a fault takes at least one octet. -/
theorem next_rest_lt (first : UInt8) (rest : List UInt8) :
    (next first rest).2.length < (first :: rest).length := by
  unfold next
  split
  · simp
  · split
    · simp
    · exact Nat.lt_succ_of_le (continuation_rest_le ..)

/-- The characters of octets, each faulty group being none. -/
def groups : List UInt8 → List (Option Char)
  | [] => []
  | first :: rest => (next first rest).1 :: groups (next first rest).2
termination_by s => s.length
decreasing_by exact next_rest_lt first rest

/-- **The characters of octets**, if all of them are characters. -/
def decode? (s : List UInt8) : Option (List Char) := (groups s).mapM id

/-- The mark in place of a faulty group. -/
def replacement : Char := '\uFFFD'

/-- **The characters of octets**, with a mark in place of each faulty group. -/
def decodeLossy (s : List UInt8) : List Char := (groups s).map fun c => c.getD replacement

example : decode? (encode ['a', 'é', '€', '😀']) = some ['a', 'é', '€', '😀'] := by decide +kernel

example : decodeLossy [0x61, 0xE2, 0x82, 0x62, 0xFF] = ['a', replacement, 'b', replacement] := by
  decide +kernel

end Storefront.Utf8
