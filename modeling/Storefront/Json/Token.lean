import Storefront.Json.Numeral

/-!
# JSON tokens

The division of a text into JSON tokens, one character at a time. The scan goes on as long as the
text can be divided; a last token `junk` marks the place where it cannot.

## Main definitions

* `Token`: the tokens
* `Scan`, `Scan.step`: the scanner and its step
* `tokens`: the tokens of a text
-/

namespace Storefront.Json

open Text

/-- A JSON token. A text has no content if it holds half of a surrogate pair, and a number no value
if it is out of range. -/
inductive Token where
  /-- The opening brace of an object. -/
  | openObject
  /-- The closing brace of an object. -/
  | closeObject
  /-- The opening bracket of an array. -/
  | openArray
  /-- The closing bracket of an array. -/
  | closeArray
  /-- The colon between a key and its value. -/
  | colon
  /-- The comma between two members or items. -/
  | comma
  /-- The null value. -/
  | null
  /-- A truth value. -/
  | bool (b : Bool)
  /-- A number. -/
  | number (value : Option Number)
  /-- A text. -/
  | text (content : Option String)
  /-- The place where the text is no JSON token. -/
  | junk
  deriving DecidableEq

/-! ## The scanner -/

/-- The content of a text so far, last character first, with the state of its surrogates. -/
structure Content where
  /-- The characters, the last one first. -/
  chars : List Char := []
  /-- A first half of a surrogate pair that waits for the second. -/
  half : Option Nat := none
  /-- Whether every surrogate had its other half. -/
  paired : Bool := true

/-- Adds a character that is not an escaped code unit. -/
def Content.push (c : Content) (ch : Char) : Content :=
  { chars := ch :: c.chars, half := none, paired := c.paired && c.half.isNone }

/-- Adds an escaped code unit: a second half joins the first half before it. -/
def Content.pushUnit (c : Content) (unit : Nat) : Content :=
  if 0xD800 ≤ unit ∧ unit < 0xDC00 then
    { chars := c.chars, half := some unit, paired := c.paired && c.half.isNone }
  else if 0xDC00 ≤ unit ∧ unit < 0xE000 then
    match c.half with
    | some high =>
      -- Ten bits of each half, above the characters of one unit.
      let joined := 0x10000 + (high - 0xD800) * 0x400 + (unit - 0xDC00)
      { chars := Char.ofNat joined :: c.chars, half := none, paired := c.paired }
    | none => { c with paired := false }
  else c.push (Char.ofNat unit)

/-- The whole content, if every surrogate had its other half. -/
def Content.text? (c : Content) : Option String :=
  if c.paired && c.half.isNone then some (String.ofList c.chars.reverse) else none

/-- What a scanner is in the middle of. -/
inductive Phase where
  /-- Nothing: the next character begins a token. -/
  | between
  /-- A word; these characters must follow. -/
  | word (rest : List Char) (token : Token)
  /-- A text. -/
  | text (content : Content)
  /-- A text, after a backslash. -/
  | escape (content : Content)
  /-- A text, in an escaped code unit with that many digits to come. -/
  | unit (content : Content) (value : Nat) (missing : Nat)
  /-- A number after its minus sign. -/
  | minus
  /-- A number in its digits before the point; no digit follows a leading zero. -/
  | whole (n : Numeral) (leadingZero : Bool)
  /-- A number after its point. -/
  | point (n : Numeral)
  /-- A number in its digits after the point. -/
  | fraction (n : Numeral)
  /-- A number after the letter of its exponent. -/
  | power (n : Numeral)
  /-- A number after the sign of its exponent. -/
  | powerSign (n : Numeral)
  /-- A number in the digits of its exponent. -/
  | powerDigits (n : Numeral)
  /-- The text is no JSON from here on. -/
  | stopped

/-- A scanner: its tokens so far, the last one first, and what it is in the middle of. -/
structure Scan where
  /-- The tokens, the last one first. -/
  tokens : List Token := []
  /-- What the scanner is in the middle of. -/
  phase : Phase := .between

namespace Scan

/-- The scan ends here. -/
def stop (s : Scan) : Scan := { tokens := .junk :: s.tokens, phase := .stopped }

/-- A token is complete. -/
def emit (s : Scan) (t : Token) : Scan := { tokens := t :: s.tokens, phase := .between }

/-- The scan goes on in the middle of a token. -/
def goto (s : Scan) (p : Phase) : Scan := { s with phase := p }

/-- White space between tokens. -/
def isSpace (c : Char) : Bool := c == ' ' || c == '\n' || c == '\t' || c == '\r'

/-- A digit begins or continues a number. -/
def isZero (c : Char) : Bool := c == '0'

/-- The first character of a token. -/
def begin (s : Scan) (c : Char) : Scan :=
  if isSpace c then s.goto .between
  else if c = '{' then s.emit .openObject
  else if c = '}' then s.emit .closeObject
  else if c = '[' then s.emit .openArray
  else if c = ']' then s.emit .closeArray
  else if c = ':' then s.emit .colon
  else if c = ',' then s.emit .comma
  else if c = '"' then s.goto (.text {})
  else if c = '-' then s.goto .minus
  else if isAsciiDigit c then s.goto (.whole { negative := false, whole := [c] } (isZero c))
  else if c = 'n' then s.goto (.word ['u', 'l', 'l'] .null)
  else if c = 't' then s.goto (.word ['r', 'u', 'e'] (.bool true))
  else if c = 'f' then s.goto (.word ['a', 'l', 's', 'e'] (.bool false))
  else s.stop

/-- A number is complete; the character belongs to the next token. -/
def endNumber (s : Scan) (n : Numeral) (c : Char) : Scan := (s.emit (.number n.number?)).begin c

/-- The character that an escape letter stands for. -/
def escaped? (c : Char) : Option Char :=
  if c = '"' ∨ c = '\\' ∨ c = '/' then some c
  else if c = 'b' then some '\x08'
  else if c = 'f' then some '\x0c'
  else if c = 'n' then some '\n'
  else if c = 'r' then some '\r'
  else if c = 't' then some '\t'
  else none

/-- The letter of an exponent. -/
def isPower (c : Char) : Bool := c == 'e' || c == 'E'

/-- **One character.** -/
def step (s : Scan) (c : Char) : Scan :=
  match s.phase with
  | .between => s.begin c
  | .word rest token =>
    -- The token is complete with its last letter: words need no end.
    match rest with
    | [] => s.stop
    | [r] => if c = r then s.emit token else s.stop
    | r :: rest => if c = r then s.goto (.word rest token) else s.stop
  | .text content =>
    if c = '"' then s.emit (.text content.text?)
    else if c = '\\' then s.goto (.escape content)
    else if c.toNat < 0x20 then s.stop
    else s.goto (.text (content.push c))
  | .escape content =>
    if c = 'u' then s.goto (.unit content 0 4)
    else match escaped? c with
      | some ch => s.goto (.text (content.push ch))
      | none => s.stop
  | .unit content value missing =>
    match hexValue? c with
    | none => s.stop
    | some d =>
      let value := value * 16 + d
      if missing ≤ 1 then s.goto (.text (content.pushUnit value))
      else s.goto (.unit content value (missing - 1))
  | .minus =>
    if isAsciiDigit c then s.goto (.whole { negative := true, whole := [c] } (isZero c))
    else s.stop
  | .whole n leadingZero =>
    if isAsciiDigit c then
      if leadingZero then s.stop else s.goto (.whole { n with whole := c :: n.whole } false)
    else if c = '.' then s.goto (.point { n with fraction := some [] })
    else if isPower c then s.goto (.power n)
    else s.endNumber n c
  | .point n =>
    if isAsciiDigit c then s.goto (.fraction { n with fraction := some [c] }) else s.stop
  | .fraction n =>
    if isAsciiDigit c then
      s.goto (.fraction { n with fraction := n.fraction.map (c :: ·) })
    else if isPower c then s.goto (.power n)
    else s.endNumber n c
  | .power n =>
    if c = '+' ∨ c = '-' then s.goto (.powerSign { n with exponent := some (c == '-', []) })
    else if isAsciiDigit c then s.goto (.powerDigits { n with exponent := some (false, [c]) })
    else s.stop
  | .powerSign n =>
    if isAsciiDigit c then
      s.goto (.powerDigits { n with exponent := n.exponent.map fun e => (e.1, c :: e.2) })
    else s.stop
  | .powerDigits n =>
    if isAsciiDigit c then
      s.goto (.powerDigits { n with exponent := n.exponent.map fun e => (e.1, c :: e.2) })
    else s.endNumber n c
  | .stopped => s

/-- The tokens at the end of the text; a token that is not complete is junk. -/
def finish (s : Scan) : List Token :=
  match s.phase with
  | .between | .stopped => s.tokens.reverse
  | .whole n _ | .fraction n | .powerDigits n => (Token.number n.number? :: s.tokens).reverse
  | _ => (Token.junk :: s.tokens).reverse

end Scan

/-- **The tokens of a text.** -/
def tokens (s : List Char) : List Token := (s.foldl Scan.step {}).finish

end Storefront.Json
