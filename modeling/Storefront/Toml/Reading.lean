import Storefront.Toml.Document
import Storefront.Toml.Token

/-!
# Reading TOML

The tokens of a text are put together one at a time: lines that open a table, and lines with a key
and a value. Values may be lists and tables between braces, which may go over several lines.

## Main definitions

* `Frame`, `Expected`, `Reader`: what is being read and what may come next
* `Reader.step`: one token
* `read?`: the document of a text
-/

namespace Storefront.Toml

/-- How many lists and tables between braces may stand inside each other, and how many parts a key
may have. -/
def maxDepth : Nat := 80

/-- A list or a table between braces that is being read. -/
inductive Frame where
  /-- A list with its items, the last one first. -/
  | array (items : List Node)
  /-- A table with its entries, and the key whose value is next. -/
  | table (entries : Entries) (key : List String)

/-- Where a key stands. -/
inductive KeyPlace where
  /-- In front of a value on a line of its own. -/
  | line
  /-- In front of a value between braces. -/
  | brace
  /-- Between the brackets that open a table. -/
  | table
  /-- Between the double brackets that open an element of a list of tables. -/
  | element
  deriving DecidableEq, Repr

/-- What may come next. -/
inductive Expected where
  /-- A line. -/
  | line
  /-- What follows a bracket at the start of a line. -/
  | bracket
  /-- A part of a key, given the parts before it. -/
  | keyPart (place : KeyPlace) (parts : List String)
  /-- What follows a part of a key. -/
  | afterKeyPart (place : KeyPlace) (parts : List String)
  /-- The equals sign behind a key between braces, on a later line. -/
  | equals (parts : List String)
  /-- The second of two closing brackets. -/
  | secondBracket (path : List String)
  /-- A value. -/
  | value
  /-- More of a run of characters, the last one first. -/
  | scalar (run : List Char)
  /-- An item of a list or the end of it. -/
  | itemOrClose
  /-- A key of a table between braces or the end of it. -/
  | keyOrClose
  /-- A comma or the end of a list or table between braces. -/
  | commaOrClose
  /-- The end of a line. -/
  | lineEnd
  /-- Nothing: the text is no TOML. -/
  | fault
  deriving DecidableEq, Repr

/-- A document that is being read. -/
structure Reader where
  /-- The document so far. -/
  document : Document := {}
  /-- The key of the value on this line. -/
  key : List String := []
  /-- The lists and tables around the place, the innermost first. -/
  frames : List Frame := []
  /-- What may come next. -/
  expected : Expected := .line

/-- Whether a token is white space or the end of a line. -/
def Token.isSpace : Token → Bool
  | .blank | .lineEnd => true
  | _ => false

/-- What a token adds to a run of characters that is a value: points are part of it. -/
def Token.run? : Token → Option (List Char)
  | .bare run => some run
  | .mark c => if c = '.' then some ['.'] else none
  | _ => none

namespace Reader

/-- The reader goes on with something. -/
def goto (r : Reader) (e : Expected) : Reader := { r with expected := e }

/-- The text is no TOML. -/
def fail (r : Reader) : Reader := r.goto .fault

/-- Goes on with a changed document, if it could be changed. -/
def withDocument (r : Reader) (d : Option Document) : Reader :=
  match d with
  | some document => { r with document, expected := .lineEnd }
  | none => r.fail

/-- A value is complete. -/
def put (r : Reader) (v : Node) : Reader :=
  match r.frames with
  | [] => r.withDocument (r.document.add r.key v)
  | .array items :: rest =>
    { r with frames := .array (v :: items) :: rest, expected := .commaOrClose }
  | .table entries key :: rest =>
    match addEntry key v .written entries with
    | some entries => { r with frames := .table entries [] :: rest, expected := .commaOrClose }
    | none => r.fail

/-- A list or a table between braces begins. -/
def openFrame (r : Reader) (frame : Frame) (e : Expected) : Reader :=
  if r.frames.length < maxDepth then { r with frames := frame :: r.frames, expected := e }
  else r.fail

/-- The mark that ends the innermost list or table between braces; its value is complete then. -/
def close (r : Reader) (c : Char) : Reader :=
  match r.frames with
  | .array items :: rest =>
    if c = ']' then { r with frames := rest }.put (.array items.reverse) else r.fail
  | .table entries _ :: rest =>
    if c = '}' then { r with frames := rest }.put (.table .inline entries) else r.fail
  | [] => r.fail

/-- Whether a run can be part of a key without quotes. -/
def isBareKey (run : List Char) : Bool := run.all fun c => c.isAlphanum || c = '_' || c = '-'

/-- One more part of a key was read. -/
def addKeyPart (r : Reader) (place : KeyPlace) (parts : List String) (part : String) : Reader :=
  if parts.length < maxDepth then r.goto (.afterKeyPart place (parts ++ [part])) else r.fail

/-- A part of a key. -/
def keyPart (r : Reader) (place : KeyPlace) (parts : List String) : Token → Reader
  | .blank => r.goto (.keyPart place parts)
  | .bare run => if isBareKey run then r.addKeyPart place parts (String.ofList run) else r.fail
  | .text s false => r.addKeyPart place parts s
  | _ => r.fail

/-- A key is complete, at a mark. -/
def endKey (r : Reader) (place : KeyPlace) (parts : List String) (c : Char) : Reader :=
  match place with
  | .line => if c = '=' then { r with key := parts, expected := .value } else r.fail
  | .brace =>
    match r.frames with
    | .table entries _ :: rest =>
      if c = '=' then { r with frames := .table entries parts :: rest, expected := .value }
      else r.fail
    | _ => r.fail
  | .table => if c = ']' then r.withDocument (r.document.openTable parts) else r.fail
  | .element => if c = ']' then r.goto (.secondBracket parts) else r.fail

/-- What follows a part of a key. -/
def afterKeyPart (r : Reader) (place : KeyPlace) (parts : List String) : Token → Reader
  | .blank => r
  | .mark c => if c = '.' then r.goto (.keyPart place parts) else r.endKey place parts c
  | .lineEnd => if place = .brace then r.goto (.equals parts) else r.fail
  | _ => r.fail

/-- What follows a key between braces on a later line. -/
def equals (r : Reader) (parts : List String) : Token → Reader
  | .blank | .lineEnd => r
  | .mark c => r.endKey .brace parts c
  | _ => r.fail

/-- A value begins. Between brackets and braces it may stand on a later line. -/
def value (r : Reader) : Token → Reader
  | .blank => r
  | .lineEnd => if r.frames.isEmpty then r.fail else r
  | .text s _ => r.put (.text s)
  | .bare run => r.goto (.scalar run.reverse)
  | .mark c =>
    if c = '[' then r.openFrame (.array []) .itemOrClose
    else if c = '{' then r.openFrame (.table [] []) .keyOrClose
    else r.fail
  | _ => r.fail

/-- What follows a value. -/
def afterValue (r : Reader) (t : Token) : Reader :=
  match r.expected, t with
  | .fault, _ => r
  | _, .blank => r
  | .lineEnd, .lineEnd => r.goto .line
  | .commaOrClose, .lineEnd => r
  | .commaOrClose, .mark c =>
    if c = ',' then
      match r.frames with
      | .array _ :: _ => r.goto .itemOrClose
      | _ => r.goto .keyOrClose
    else r.close c
  | _, _ => r.fail

/-- **One token.** -/
def step (r : Reader) (t : Token) : Reader :=
  match r.expected with
  | .line =>
    if t.isSpace then r
    else if t = .mark '[' then r.goto .bracket
    else r.keyPart .line [] t
  | .bracket => if t = .mark '[' then r.goto (.keyPart .element []) else r.keyPart .table [] t
  | .keyPart place parts => r.keyPart place parts t
  | .afterKeyPart place parts => r.afterKeyPart place parts t
  | .equals parts => r.equals parts t
  | .secondBracket path =>
    if t = .mark ']' then r.withDocument (r.document.openElement path) else r.fail
  | .value => r.value t
  | .scalar run =>
    -- A run ends at the first token that cannot be part of a number.
    match t.run? with
    | some more => r.goto (.scalar (more.reverse ++ run))
    | none =>
      match Scalar.ofText? run.reverse with
      | some x => (r.put (.scalar x)).afterValue t
      | none => r.fail
  | .itemOrClose =>
    if t.isSpace then r
    else if t = .mark ']' then r.close ']'
    else r.value t
  | .keyOrClose =>
    if t.isSpace then r
    else if t = .mark '}' then r.close '}'
    else r.keyPart .brace [] t
  | .commaOrClose | .lineEnd => r.afterValue t
  | .fault => r

end Reader

/-- **The document of a text.** -/
def read? (s : String) : Option Document :=
  let r := (tokens s.toList).foldl Reader.step {}
  if r.expected = .line then some r.document else none

end Storefront.Toml
