import Storefront.Text.Alphanumeric
import Storefront.Text.Digit
import Storefront.Text.Split

/-!
# Patterns

The patterns that the value of a field may be compared with: characters, sets of them in brackets,
groups, choices and repetitions. Only whether a text is a pattern matters here. Repetitions with
counts in braces are none, as no text that is asked about has a closing brace.

## Main definitions

* `Escape`, `escape?`: what stands behind a backslash
* `readSet`: a set in brackets
* `Opening`, `openGroup?`: what opens a group
* `isPattern`: whether a text is a pattern
-/

namespace Storefront

namespace Pattern

open Text

/-! ## Escapes -/

/-- What stands behind a backslash. -/
inductive Escape where
  /-- A character. -/
  | character (c : Char)
  /-- A set of characters. -/
  | set
  /-- A place in the text. -/
  | place
  deriving DecidableEq, Repr

/-- The character of a letter behind a backslash. -/
def letter? (c : Char) : Option Char :=
  if c = 'a' then some '\x07'
  else if c = 'f' then some '\x0c'
  else if c = 'n' then some '\n'
  else if c = 'r' then some '\r'
  else if c = 't' then some '\t'
  else if c = 'v' then some '\x0b'
  else none

/-- How many digits the number of a character has behind a letter. -/
def digitCount? (c : Char) : Option Nat :=
  if c = 'x' then some 2 else if c = 'u' then some 4 else if c = 'U' then some 8 else none

/-- Whether a mark of ASCII stands for itself behind a backslash. -/
def isEscapable (c : Char) : Bool :=
  decide (c.toNat < 0x80) && !c.isAlphanum && c != '<' && c != '>'

/-- **What stands behind a backslash**, and what follows it. -/
def escape? : List Char → Option (Escape × List Char)
  | [] => none
  | c :: rest =>
    if isEscapable c then some (.character c, rest)
    else if "dDsSwW".toList.contains c then some (.set, rest)
    else if c = 'A' ∨ c = 'z' then some (.place, rest)
    else if c = 'p' ∨ c = 'P' then
      -- The kinds of characters are named by one letter.
      match rest with
      | k :: rest => if "clmnpsz".toList.contains k.toLower then some (.set, rest) else none
      | [] => none
    else
      match letter? c, digitCount? c with
      | some l, _ => some (.character l, rest)
      | none, none => none
      | none, some count => do
        if rest.length < count then none
        let value ← ofDigits? 16 (rest.take count)
        if value.isValidChar then some (.character (Char.ofNat value), rest.drop count) else none

/-! ## Sets -/

/-- An item of a set: a character, or a whole set if there is none. -/
def setItem? : List Char → Option (Option Char × List Char)
  | [] => none
  | '\\' :: rest =>
    match escape? rest with
    | some (.character c, rest) => some (some c, rest)
    | some (.set, rest) => some (none, rest)
    | _ => none
  | c :: rest => some (some c, rest)

/-- An item of a set, or two characters with a hyphen between them, in ascending order. -/
def setRange? (s : List Char) : Option (List Char) := do
  let (low, rest) ← setItem? s
  match rest with
  | '-' :: ']' :: _ | '-' :: '-' :: _ => some rest
  | '-' :: rest =>
    match low, ← setItem? rest with
    | some low, (some high, rest) => if low ≤ high then some rest else none
    | _, _ => none
  | rest => some rest

/-- The names of sets between a bracket with a colon and a colon with a bracket. -/
def setNames : List String :=
  ["alnum", "alpha", "ascii", "blank", "cntrl", "digit", "graph", "lower", "print", "punct",
    "space", "upper", "word", "xdigit"]

/-- What follows a named set, behind its bracket. -/
def namedSet? (s : List Char) : Option (List Char) :=
  match s with
  | ':' :: rest => do
    let (name, rest) ← splitFirst? ':' (if rest.head? = some '^' then rest.drop 1 else rest)
    match rest with
    | ']' :: rest => if setNames.contains (String.ofList name) then some rest else none
    | _ => none
  | _ => none

/-- What follows the bracket that opens a set: hyphens count as characters here, and without any so
does a closing bracket. -/
def openSet (s : List Char) : List Char :=
  let s := if s.head? = some '^' then s.drop 1 else s
  let rest := s.dropWhile (· = '-')
  if rest.length = s.length ∧ rest.head? = some ']' then rest.drop 1 else rest

/-- What follows a set in brackets, given how many brackets are open. -/
def readSet : (fuel depth : Nat) → List Char → Option (List Char)
  | 0, _, _ | _, _, [] => none
  | fuel + 1, depth, '[' :: rest =>
    match namedSet? rest with
    | some rest => readSet fuel depth rest
    | none => readSet fuel (depth + 1) (openSet rest)
  | fuel + 1, depth, ']' :: rest =>
    if 1 < depth then readSet fuel (depth - 1) rest else some rest
  | fuel + 1, depth, '&' :: '&' :: rest | fuel + 1, depth, '-' :: '-' :: rest
  | fuel + 1, depth, '~' :: '~' :: rest => readSet fuel depth rest
  | fuel + 1, depth, s => (setRange? s).bind (readSet fuel depth)

/-! ## Groups -/

/-- What a parenthesis opens. -/
inductive Opening where
  /-- A group, which may have a name. -/
  | group (name : Option (List Char))
  /-- Nothing: it holds flags for what follows. -/
  | flags
  deriving DecidableEq, Repr

/-- Whether a character may stand in the name of a group. -/
def isNameCharacter (isFirst : Bool) (c : Char) : Bool :=
  if isFirst then c = '_' || (isAlphanumeric c && !isDigit c)
  else "_.[]".toList.contains c || isAlphanumeric c

/-- Whether a text is a name of a group. -/
def isName : List Char → Bool
  | [] => false
  | c :: rest => isNameCharacter true c && rest.all (isNameCharacter false)

/-- Whether a text holds flags, each one once, some of them perhaps behind a hyphen. -/
def areFlags (s : List Char) : Bool :=
  s.all "imsUuRx-".toList.contains && s.eraseDups.length = s.length && s.getLast? != some '-'

/-- **What a parenthesis opens**, and what follows that. -/
def openGroup? (s : List Char) : Option (Opening × List Char) :=
  let named (s : List Char) : Option (Opening × List Char) := do
    let (name, rest) ← splitFirst? '>' s
    if isName name then some (.group (some name), rest) else none
  match s with
  | '?' :: 'P' :: '<' :: rest => named rest
  | '?' :: '<' :: rest => named rest
  | '?' :: rest =>
    let flags := rest.takeWhile fun c => c != ':' && c != ')'
    if !areFlags flags then none
    else
      match rest.drop flags.length with
      | ':' :: rest => some (.group none, rest)
      | ')' :: rest => if flags.isEmpty then none else some (.flags, rest)
      | _ => none
  | rest => some (.group none, rest)

/-! ## Patterns -/

/-- A pattern that is being read. -/
structure State where
  /-- How many groups are open. -/
  depth : Nat := 0
  /-- The names of groups. -/
  names : List (List Char) := []
  /-- Whether there is something to repeat. -/
  hasItem : Bool := false

/-- Whether what follows completes a pattern. -/
def completes : (fuel : Nat) → State → List Char → Bool
  | 0, _, _ => false
  | _, st, [] => st.depth = 0
  | fuel + 1, st, c :: rest =>
    let go (st : State) (s : List Char) : Bool := completes fuel st s
    let item (s : List Char) : Bool := go { st with hasItem := true } s
    if c = '(' then
      match openGroup? rest with
      | none => false
      | some (.flags, rest) => go { st with hasItem := false } rest
      | some (.group none, rest) => go { st with depth := st.depth + 1, hasItem := false } rest
      | some (.group (some name), rest) =>
        !st.names.contains name &&
          go { depth := st.depth + 1, names := name :: st.names, hasItem := false } rest
    else if c = ')' then
      decide (0 < st.depth) && go { st with depth := st.depth - 1, hasItem := true } rest
    else if c = '|' then go { st with hasItem := false } rest
    else if c = '[' then ((readSet rest.length 1 (openSet rest)).map item).getD false
    else if c = '\\' then ((escape? rest).map fun e => item e.2).getD false
    else if c = '*' ∨ c = '+' ∨ c = '?' then
      st.hasItem && item (if rest.head? = some '?' then rest.drop 1 else rest)
    else c != '{' && item rest

end Pattern

/-- **Whether a text is a pattern.** -/
def isPattern (s : List Char) : Bool := Pattern.completes (s.length + 1) {} s

example : isPattern "(a|b*)+?[^]x-z[:digit:]]\\d".toList = true := by decide +kernel
example : isPattern "*".toList = false ∧ isPattern "(a".toList = false ∧
    isPattern "[a".toList = false ∧ isPattern "[z-a]".toList = false := by decide +kernel

end Storefront
