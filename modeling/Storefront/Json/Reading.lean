import Storefront.Json.Token

/-!
# JSON read as far as it goes

A text is read into a tree even where it is no JSON: what was read before the first fault stands in
the tree, and the fault has a place in it. A decoder that walks the tree in the order of the text
therefore meets the first problem of the text first, be it of form or of content.

## Main definitions

* `Ending`, `Reading`: how a list ends, and a value as far as it could be read
* `Builder`, `Builder.step`: putting tokens together
* `Reading.ofText`: the reading of a text, with whether anything follows the value
* `Reading.isComplete`: no fault of form in a value
* `Reading.ofJson`, `Reading.toJson?`: values as readings, and back
* `Reading.depth`: how many arrays and objects stand inside each other
* `parse`: the value of a text that is JSON throughout
-/

namespace Storefront

/-- How a list of values ends. -/
inductive Json.Ending where
  /-- It broke off. -/
  | brokenOff
  /-- It ended. -/
  | closed
  /-- It ended, and values that nothing asks for may stand at its end. -/
  | loose
  deriving DecidableEq, Repr

/-- **A JSON value as far as it could be read.** A text or number without content is one that the
grammar allows and that still has no value. -/
inductive Json.Reading where
  /-- The null value. -/
  | null
  /-- A truth value. -/
  | bool (b : Bool)
  /-- A number. -/
  | number (value : Option Json.Number)
  /-- A text. -/
  | text (content : Option String)
  /-- A list of values. -/
  | array (items : List Json.Reading) (ending : Json.Ending)
  /-- A list of named values that ended. -/
  | object (members : List (Option String × Json.Reading))
  /-- A list of named values that broke off before this value, which is no key. -/
  | openObject (members : List (Option String × Json.Reading)) (offender : Json.Reading)
  /-- A place where no value could be read. -/
  | broken

namespace Json

/-! ## Building -/

/-- An array or object that is being read, the last item first. -/
inductive Frame where
  /-- An array with its items. -/
  | array (items : List Reading)
  /-- An object with its members, and the key whose value is next. -/
  | object (members : List (Option String × Reading)) (key : Option (Option String))

/-- What may come next. -/
inductive Expected where
  /-- A value. -/
  | value
  /-- The first item of an array or its end. -/
  | itemOrClose
  /-- The first key of an object or its end. -/
  | keyOrClose
  /-- A key. -/
  | key
  /-- A colon. -/
  | colon
  /-- A comma or the end of the array or object. -/
  | commaOrClose
  /-- Nothing: the value is complete. -/
  | nothing
  /-- Nothing more is read. -/
  | stopped
  deriving DecidableEq

/-- A tree under construction: the arrays and objects around the place, the innermost first. -/
structure Builder where
  /-- The arrays and objects around the place, the innermost first. -/
  frames : List Frame := []
  /-- What may come next. -/
  expected : Expected := .value
  /-- The value, once it is complete or broken. -/
  root : Reading := .broken
  /-- Whether something follows the complete value. -/
  hasTail : Bool := false

namespace Builder

/-- A value is complete. -/
def put (b : Builder) (r : Reading) : Builder :=
  match b.frames with
  | [] => { b with expected := .nothing, root := r }
  | .array items :: rest =>
    { b with frames := .array (r :: items) :: rest, expected := .commaOrClose }
  | .object members key :: rest =>
    let members := match key with
      | some k => (k, r) :: members
      | none => members
    { b with frames := .object members none :: rest, expected := .commaOrClose }

/-- The value of a frame that ends. -/
def close (b : Builder) : Builder :=
  match b.frames with
  | [] => b
  | .array items :: rest => { b with frames := rest }.put (.array items.reverse .closed)
  | .object members _ :: rest => { b with frames := rest }.put (.object members.reverse)

/-- The value that a token begins in a place where no value may stand. -/
def offender : Token → Reading
  | .null => .null
  | .bool v => .bool v
  | .number v => .number v
  | .text s => .text s
  | .openArray => .array [] .brokenOff
  | .openObject => .openObject [] .broken
  | _ => .broken

/-- A frame that breaks off before the reading `r`. -/
def breakOff (r : Reading) : Frame → Reading
  | .array items => .array items.reverse .brokenOff
  | .object members none => .openObject members.reverse r
  | .object members (some k) => .openObject ((k, .broken) :: members).reverse .broken

/-- The tree breaks off: so does every frame, from the inside out, each as the last part of the
next. -/
def unwind (r : Reading) : List Frame → Reading
  | [] => r
  | .array items :: rest => unwind (.array (r :: items).reverse .brokenOff) rest
  | .object members (some k) :: rest =>
    unwind (.openObject ((k, r) :: members).reverse .broken) rest
  | .object members none :: rest => unwind (.openObject members.reverse r) rest

/-- Reading ends before the token `t`. -/
def stop (b : Builder) (t : Token) : Builder :=
  let root := match b.frames with
    | [] => .broken
    | frame :: rest => unwind (breakOff (offender t) frame) rest
  { b with frames := [], expected := .stopped, root }

/-- A value begins. -/
def value (b : Builder) : Token → Builder
  | .null => b.put .null
  | .bool v => b.put (.bool v)
  | .number v => b.put (.number v)
  | .text s => b.put (.text s)
  | .openArray => { b with frames := .array [] :: b.frames, expected := .itemOrClose }
  | .openObject => { b with frames := .object [] none :: b.frames, expected := .keyOrClose }
  | t => b.stop t

/-- A key is read. -/
def key (b : Builder) (k : Option String) : Builder :=
  match b.frames with
  | .object members _ :: rest =>
    { b with frames := .object members (some k) :: rest, expected := .colon }
  | _ => b

/-- After a comma. -/
def afterComma (b : Builder) : Builder :=
  match b.frames with
  | .object .. :: _ => { b with expected := .key }
  | _ => { b with expected := .value }

/-- Whether the token ends the innermost frame. -/
def closes (b : Builder) (t : Token) : Bool :=
  match b.frames, t with
  | .array _ :: _, .closeArray => true
  | .object .. :: _, .closeObject => true
  | _, _ => false

/-- **One token.** -/
def step (b : Builder) (t : Token) : Builder :=
  match b.expected with
  | .value => b.value t
  | .itemOrClose => if b.closes t then b.close else b.value t
  | .keyOrClose =>
    if b.closes t then b.close
    else match t with
      | .text k => b.key k
      | _ => b.stop t
  | .key =>
    match t with
    | .text k => b.key k
    | _ => b.stop t
  | .colon => if t = .colon then { b with expected := .value } else b.stop t
  | .commaOrClose =>
    if b.closes t then b.close
    else if t = .comma then b.afterComma
    else b.stop .junk
  | .nothing => { b with hasTail := true, expected := .stopped }
  | .stopped => b

end Builder

/-- **The reading of a text**, and whether something follows the value. -/
def Reading.ofText (s : List Char) : Reading × Bool :=
  let b := (tokens s).foldl Builder.step {}
  let b := if b.expected = .nothing ∨ b.expected = .stopped then b else b.stop .junk
  (b.root, b.hasTail)

/-! ## Readings and values -/

mutual

/-- **No fault of form**: every part of the value could be read. -/
def Reading.isComplete : Reading → Bool
  | .array items ending => ending != .brokenOff && areComplete items
  | .object members => areMembersComplete members
  | .openObject .. => false
  | .broken => false
  | _ => true

/-- Every item could be read. -/
def Reading.areComplete : List Reading → Bool
  | [] => true
  | r :: rest => r.isComplete && areComplete rest

/-- Every value of a member could be read. -/
def Reading.areMembersComplete : List (Option String × Reading) → Bool
  | [] => true
  | (_, r) :: rest => r.isComplete && areMembersComplete rest

end

mutual

/-- The reading of a value, in which nothing is at fault. -/
def Reading.ofJson : Json → Reading
  | .null => .null
  | .bool b => .bool b
  | .number n => .number (some n)
  | .text s => .text (some s)
  | .array items => .array (ofItems items) .closed
  | .object members => .object (ofMembers members)

/-- The readings of values. -/
def Reading.ofItems : List Json → List Reading
  | [] => []
  | v :: rest => Reading.ofJson v :: ofItems rest

/-- The readings of named values. -/
def Reading.ofMembers : List (String × Json) → List (Option String × Reading)
  | [] => []
  | (k, v) :: rest => (some k, Reading.ofJson v) :: ofMembers rest

end

mutual

/-- **The value that was read**, if no part is at fault. -/
def Reading.toJson? : Reading → Option Json
  | .null => some .null
  | .bool b => some (.bool b)
  | .number n => n.map ofNumber
  | .text s => s.map .text
  | .array items ending => if ending = .brokenOff then none else (toItems? items).map .array
  | .object members => (toMembers? members).map Json.ofMembers
  | .openObject .. | .broken => none

/-- The values that were read. -/
def Reading.toItems? : List Reading → Option (List Json)
  | [] => some []
  | r :: rest => do return (← r.toJson?) :: (← toItems? rest)

/-- The named values that were read. -/
def Reading.toMembers? : List (Option String × Reading) → Option (List (String × Json))
  | [] => some []
  | (k, r) :: rest => do return (← k, ← r.toJson?) :: (← toMembers? rest)

end

mutual

/-- **How many arrays and objects stand inside each other.** -/
def Reading.depth : Reading → Nat
  | .array items _ => itemDepth items + 1
  | .object members => memberDepth members + 1
  | _ => 0

/-- The largest depth of an item. -/
def Reading.itemDepth : List Reading → Nat
  | [] => 0
  | r :: rest => max r.depth (itemDepth rest)

/-- The largest depth of a named value. -/
def Reading.memberDepth : List (Option String × Reading) → Nat
  | [] => 0
  | (_, r) :: rest => max r.depth (memberDepth rest)

end

/-- How many arrays and objects may stand inside each other in a text. -/
def maxDepth : Nat := 127

/-- **The value of a text** that is JSON throughout, within `maxDepth`. -/
def parse (s : String) : Option Json :=
  match Reading.ofText s.toList with
  | (r, false) => if r.depth ≤ maxDepth then r.toJson? else none
  | (_, true) => none

end Json

end Storefront
