import Storefront.Text.Digit

/-!
# TOML tokens

A TOML text is cut into tokens one character at a time. What a bare run of characters means depends
on its place, so it stays a run here; texts in quotes are decoded.

## Main definitions

* `Piece`, `pieces`: characters and line ends
* `Token`: the tokens
* `Phase`, `Scan`, `Scan.step`: what the scanner is in the middle of, and one piece
* `tokens`: the tokens of a text
-/

namespace Storefront.Toml

open Text

/-! ## Pieces -/

/-- A character or a line end. -/
inductive Piece where
  /-- A character. -/
  | char (c : Char)
  /-- A line end: a line feed, perhaps behind a carriage return. -/
  | lineEnd (withReturn : Bool)
  deriving DecidableEq, Repr

/-- The characters of a piece. -/
def Piece.written : Piece → List Char
  | .char c => [c]
  | .lineEnd true => ['\r', '\n']
  | .lineEnd false => ['\n']

/-- **The pieces of a text.** -/
def pieces : List Char → List Piece
  | [] => []
  | '\r' :: '\n' :: rest => .lineEnd true :: pieces rest
  | '\n' :: rest => .lineEnd false :: pieces rest
  | c :: rest => .char c :: pieces rest

/-! ## Tokens -/

/-- A TOML token. -/
inductive Token where
  /-- A run of characters that are not marks, quotes or white space. -/
  | bare (run : List Char)
  /-- A text in quotes; a long one may go over several lines. -/
  | text (content : String) (long : Bool)
  /-- One of the marks. -/
  | mark (c : Char)
  /-- White space within a line. -/
  | blank
  /-- The end of a line, with the comment in front of it. -/
  | lineEnd
  /-- The place where the text has no token. -/
  | junk
  deriving DecidableEq, Repr

/-- The two kinds of quotes. -/
inductive Quote where
  /-- Double quotes, between which a backslash begins an escape. -/
  | basic
  /-- Single quotes. -/
  | literal
  deriving DecidableEq, Repr

/-- The character of a kind of quotes. -/
def Quote.char : Quote → Char
  | .basic => '"'
  | .literal => '\x27'

/-- The kind of quotes that a character is. -/
def Quote.ofChar? (c : Char) : Option Quote :=
  if c = '"' then some .basic else if c = '\x27' then some .literal else none

/-- The marks. -/
def isMark (c : Char) : Bool := c = '.' || c = '=' || c = ',' || c = '[' || c = ']' ||
  c = '{' || c = '}'

/-- White space within a line. -/
def isBlank (c : Char) : Bool := c = ' ' || c = '\t'

/-- Characters that may stand in comments and in quotes: no control character but the tab. -/
def isPlain (c : Char) : Bool := c = '\t' || (decide (0x20 ≤ c.toNat) && decide (c.toNat ≠ 0x7F))

/-- A text in quotes that is being read, its last character first. -/
structure Content where
  /-- The kind of quotes. -/
  quote : Quote
  /-- Whether it may go over several lines. -/
  long : Bool
  /-- The characters, the last one first. -/
  chars : List Char := []
  deriving DecidableEq, Repr

/-- Adds characters. -/
def Content.add (t : Content) (s : List Char) : Content := { t with chars := s.reverse ++ t.chars }

/-- The token of a text that is complete. -/
def Content.token (t : Content) : Token := .text (String.ofList t.chars.reverse) t.long

/-- What a scanner is in the middle of. -/
inductive Phase where
  /-- Nothing: the next piece begins a token. -/
  | between
  /-- A run of characters, the last one first. -/
  | bare (run : List Char)
  /-- White space. -/
  | blank
  /-- A comment. -/
  | comment
  /-- A text behind its first quote. -/
  | opened (q : Quote)
  /-- A text behind two quotes. -/
  | openedTwice (q : Quote)
  /-- A long text behind its quotes, where one line end is not part of it. -/
  | longStart (t : Content)
  /-- A text. -/
  | text (t : Content)
  /-- A long text, behind some quotes. -/
  | closing (t : Content) (count : Nat)
  /-- A text behind a backslash. -/
  | escape (t : Content)
  /-- A text in the number of a character, with that many digits to come. -/
  | number (t : Content) (missing : Nat) (value : Nat)
  /-- A long text behind a backslash and white space; `ended` states that the line ended. -/
  | gap (t : Content) (ended : Bool)
  /-- The text has no tokens from here on. -/
  | stopped
  deriving DecidableEq, Repr

/-- A scanner: its tokens so far, the last one first, and what it is in the middle of. -/
structure Scan where
  /-- The tokens, the last one first. -/
  tokens : List Token := []
  /-- What the scanner is in the middle of. -/
  phase : Phase := .between

namespace Scan

/-- The scan ends here. -/
def stop (s : Scan) : Scan := { tokens := .junk :: s.tokens, phase := .stopped }

/-- A token is complete. -/
def emit (s : Scan) (t : Token) : Scan := { tokens := t :: s.tokens, phase := .between }

/-- The scan goes on in the middle of a token. -/
def goto (s : Scan) (p : Phase) : Scan := { s with phase := p }

/-- The first piece of a token. -/
def begin (s : Scan) : Piece → Scan
  | .lineEnd _ => s.emit .lineEnd
  | .char c =>
    match Quote.ofChar? c with
    | some q => s.goto (.opened q)
    | none =>
      if isBlank c then s.goto .blank
      else if isMark c then s.emit (.mark c)
      else if c = '#' then s.goto .comment
      else if isPlain c then s.goto (.bare [c])
      else s.stop

/-- Whether a character goes on with a run. -/
def isBare (c : Char) : Bool :=
  isPlain c && !isBlank c && !isMark c && c != '#' && (Quote.ofChar? c).isNone

/-- A piece in a text. -/
def content (s : Scan) (t : Content) (p : Piece) : Scan :=
  match p with
  | .lineEnd _ => if t.long then s.goto (.text (t.add p.written)) else s.stop
  | .char c =>
    if c = t.quote.char then
      if t.long then s.goto (.closing t 1) else s.emit t.token
    else if c = '\\' ∧ t.quote = .basic then s.goto (.escape t)
    else if isPlain c then s.goto (.text (t.add [c]))
    else s.stop

/-- The character that an escape letter stands for. -/
def escapeLetter? (c : Char) : Option Char :=
  if c = '"' ∨ c = '\\' then some c
  else if c = 'b' then some '\x08'
  else if c = 'e' then some '\x1b'
  else if c = 'f' then some '\x0c'
  else if c = 'n' then some '\n'
  else if c = 'r' then some '\r'
  else if c = 't' then some '\t'
  else none

/-- How many digits follow the letter of an escaped number. -/
def escapeDigits? (c : Char) : Option Nat :=
  if c = 'x' then some 2 else if c = 'u' then some 4 else if c = 'U' then some 8 else none

/-- A piece behind a backslash. In a long text, white space up to the next line and further to its
first character may be escaped. -/
def escaped (s : Scan) (t : Content) : Piece → Scan
  | .lineEnd _ => if t.long then s.goto (.gap t true) else s.stop
  | .char c =>
    match escapeLetter? c, escapeDigits? c with
    | some e, _ => s.goto (.text (t.add [e]))
    | none, some n => s.goto (.number t n 0)
    | none, none => if t.long && isBlank c then s.goto (.gap t false) else s.stop

/-- A piece in the number of a character, which must be one. -/
def numbered (s : Scan) (t : Content) (missing value : Nat) : Piece → Scan
  | .lineEnd _ => s.stop
  | .char c =>
    match hexValue? c with
    | none => s.stop
    | some d =>
      let value := value * 16 + d
      if 1 < missing then s.goto (.number t (missing - 1) value)
      else if value.isValidChar then s.goto (.text (t.add [Char.ofNat value]))
      else s.stop

/-- **One piece.** -/
def step (s : Scan) (p : Piece) : Scan :=
  match s.phase with
  | .between => s.begin p
  | .bare run =>
    match p with
    | .char c =>
      if isBare c then s.goto (.bare (c :: run)) else (s.emit (.bare run.reverse)).begin p
    | .lineEnd _ => (s.emit (.bare run.reverse)).begin p
  | .blank =>
    match p with
    | .char c => if isBlank c then s else (s.emit .blank).begin p
    | .lineEnd _ => (s.emit .blank).begin p
  | .comment =>
    match p with
    | .char c => if isPlain c then s else s.stop
    | .lineEnd _ => s.begin p
  | .opened q =>
    if p = .char q.char then s.goto (.openedTwice q)
    else s.content { quote := q, long := false } p
  | .openedTwice q =>
    if p = .char q.char then s.goto (.longStart { quote := q, long := true })
    else (s.emit (.text "" false)).begin p
  | .longStart t =>
    match p with
    | .lineEnd _ => s.goto (.text t)
    | p => s.content t p
  | .text t => s.content t p
  | .closing t count =>
    if p = .char t.quote.char then
      -- Three quotes end the text, and up to two in front of them belong to it.
      if count < 4 then s.goto (.closing t (count + 1))
      else s.emit (t.add [t.quote.char, t.quote.char]).token
    else if 3 ≤ count then (s.emit (t.add (List.replicate (count - 3) t.quote.char)).token).begin p
    else s.content (t.add (List.replicate count t.quote.char)) p
  | .escape t => s.escaped t p
  | .number t missing value => s.numbered t missing value p
  | .gap t ended =>
    match p with
    | .lineEnd _ => s.goto (.gap t true)
    | .char c =>
      if isBlank c then s else if ended then s.content t p else s.stop
  | .stopped => s

end Scan

/-- The mark that may stand in front of a text. -/
def byteOrderMark : Char := '\uFEFF'

/-- **The tokens of a text**, of which the last is the end of a line. -/
def tokens (s : List Char) : List Token :=
  let s := if s.head? = some byteOrderMark then s.tail else s
  -- The end of the text counts as the end of its last line.
  let scan := (pieces s ++ [Piece.lineEnd false]).foldl Scan.step {}
  match scan.phase with
  | .between | .stopped => scan.tokens.reverse
  | _ => scan.stop.tokens.reverse

example : tokens "a.b = 'x'# c".toList =
    [.bare ['a'], .mark '.', .bare ['b'], .blank, .mark '=', .blank, .text "x" false, .lineEnd] :=
  by decide +kernel

example : tokens "\"\"\"\na\\\n  \\u0062\"\"\"\"".toList = [.text "ab\"" true, .lineEnd] := by
  decide +kernel

end Storefront.Toml
