import Storefront.Text.Digit

/-!
# String literals of the query language

A text becomes a double-quoted literal of the query language: quotes, backslashes and all control
characters are escaped, so the literal ends where the text does and stays on one line. The reader
follows the grammar of the language, which knows more escapes than the writer uses.

## Main definitions

* `isControl`: the control characters
* `escape`, `quote`: the literal of a text
* `readLiteral?`: the text of a literal, and what follows it

## Main results

* `quote_eq`: a literal is its escaped characters between quotes
-/

namespace Storefront.Query

open Text

/-- The control characters: below the space, and from the delete character to the next space. -/
def isControl (c : Char) : Bool :=
  decide (c.toNat < 0x20) || decide (0x7F ≤ c.toNat ∧ c.toNat < 0xA0)

/-- A hexadecimal digit in upper case. -/
def upperHexDigit (n : Nat) : Char :=
  if n < 10 then Char.ofNat ('0'.toNat + n) else Char.ofNat ('A'.toNat + (n - 10))

/-- One character of a literal. -/
def escape (c : Char) : List Char :=
  if c = '\\' then ['\\', '\\']
  else if c = '"' then ['\\', '"']
  else if c = '\n' then ['\\', 'n']
  else if c = '\r' then ['\\', 'r']
  else if c = '\t' then ['\\', 't']
  else if isControl c then
    ['\\', 'u', '0', '0', upperHexDigit (c.toNat / 16), upperHexDigit (c.toNat % 16)]
  else [c]

/-- **The literal of a text.** -/
def quote (s : List Char) : List Char := '"' :: (s.flatMap escape ++ ['"'])

theorem quote_eq (s : List Char) : quote s = ['"'] ++ s.flatMap escape ++ ['"'] := rfl

@[simp] theorem quote_nil : quote [] = ['"', '"'] := rfl

/-! ## Reading -/

/-- The character of four hexadecimal digits; half a surrogate pair is none. -/
def codeUnit? (a b c d : Char) : Option Char := do
  let n := (((← hexValue? a) * 16 + (← hexValue? b)) * 16 + (← hexValue? c)) * 16 + (← hexValue? d)
  if 0xD800 ≤ n ∧ n < 0xE000 then none else some (Char.ofNat n)

/-- The character that an escape letter stands for. -/
def escapeLetter? (c : Char) : Option Char :=
  if c = '"' ∨ c = '\\' ∨ c = '/' then some c
  else if c = 'b' then some '\x08'
  else if c = 'f' then some '\x0c'
  else if c = 'n' then some '\n'
  else if c = 'r' then some '\r'
  else if c = 't' then some '\t'
  else none

/-- The characters of a literal up to its closing quote, and what follows. A line end may not stand
in a literal. -/
def readCharacters? : List Char → Option (List Char × List Char)
  | [] => none
  | '"' :: rest => some ([], rest)
  | '\\' :: 'u' :: a :: b :: c :: d :: rest => do
    let ch ← codeUnit? a b c d
    let (s, rest) ← readCharacters? rest
    return (ch :: s, rest)
  | '\\' :: e :: rest => do
    let ch ← escapeLetter? e
    let (s, rest) ← readCharacters? rest
    return (ch :: s, rest)
  | c :: rest =>
    if c = '\n' ∨ c = '\r' ∨ c = '\\' then none
    else do
      let (s, rest) ← readCharacters? rest
      return (c :: s, rest)

/-- **The text of a literal** at the start of a text, and what follows it. Three quotes begin a
literal of another kind. -/
def readLiteral? : List Char → Option (List Char × List Char)
  | '"' :: '"' :: '"' :: _ => none
  | '"' :: rest => readCharacters? rest
  | _ => none

example : readLiteral? (quote ['a', '"', '\\', '\x07', 'é'] ++ ['x']) =
    some (['a', '"', '\\', '\x07', 'é'], ['x']) := by decide

end Storefront.Query
