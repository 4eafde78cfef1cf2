import Storefront.Number.Decimal
import Storefront.Server.Pattern
import Storefront.Text.Blank

/-!
# Log filters

What is logged is told by directives with commas between them. A directive gives a level to the
targets that begin with its name, or to all, and perhaps only where a field is present; of the
directives for an event the most specific one decides.

## Main definitions

* `Level`, `Level.ofName?`: the levels
* `LogEvent`: what happens
* `Directive`, `Directive.ofText?`: one directive
* `LogFilter.ofText?`, `LogFilter.ofSetting`: directives, and the filter of a setting
* `LogFilter.logs`: whether an event is logged
-/

namespace Storefront

open Text

/-- What is logged of a target, from nothing to everything. -/
inductive Level where
  /-- Nothing. -/
  | off
  /-- Errors. -/
  | error
  /-- Warnings as well. -/
  | warn
  /-- What happens as well. -/
  | info
  /-- How it happens as well. -/
  | debug
  /-- Everything. -/
  | trace
  deriving DecidableEq, Repr

namespace Level

/-- The place of a level in their order. -/
def rank : Level → Nat
  | .off => 0
  | .error => 1
  | .warn => 2
  | .info => 3
  | .debug => 4
  | .trace => 5

/-- The level of a place in their order. -/
def ofRank? : Nat → Option Level
  | 0 => some .off
  | 1 => some .error
  | 2 => some .warn
  | 3 => some .info
  | 4 => some .debug
  | 5 => some .trace
  | _ => none

@[simp] theorem ofRank?_rank (l : Level) : ofRank? l.rank = some l := by
  cases l <;> rfl

/-- The level of a number, which may have a plus sign. -/
def ofNumber? (s : List Char) : Option Level :=
  let digits := match s with
    | '+' :: rest => rest
    | s => s
  (ofDigits? 10 digits).bind ofRank?

/-- **The level of a name** in any letter case, or of a number. -/
def ofName? (s : List Char) : Option Level :=
  let name := String.ofList (s.map Char.toLower)
  if name = "off" then some .off
  else if name = "error" then some .error
  else if name = "warn" then some .warn
  else if name = "info" then some .info
  else if name = "debug" then some .debug
  else if name = "trace" then some .trace
  else ofNumber? s

end Level

/-- **What happens**: an event of a target, with the fields that describe it. -/
structure LogEvent where
  /-- Where it happens. -/
  target : String
  /-- How important it is. -/
  level : Level
  /-- The names of its fields. -/
  fields : List String
  deriving DecidableEq, Repr

/-- **A directive**: a level for the targets that begin with a name, or for all. One that is for
spans, or compares the value of a field, says nothing about what happens outside of spans. -/
structure Directive where
  /-- The name that targets begin with. -/
  target : Option (List Char)
  /-- The field that must be present. -/
  field : Option (List Char) := none
  /-- Whether it is for spans only. -/
  forSpans : Bool := false
  /-- What is logged. -/
  level : Level := .trace
  deriving DecidableEq, Repr

namespace Directive

/-! ## Reading -/

/-- Whether a directive may begin with a character; a bracket apart. -/
def mayBegin (c : Char) : Bool := c = '-' || c = ':' || c = '_' || isAlphanumeric c

/-- The part of a text from one place to another. -/
def slice (s : List Char) (start count : Nat) : List Char := (s.drop start).take count

/-- The level behind the equals sign of a directive; an empty one is everything. -/
def levelBehind? : List Char → Option Level
  | [] => some .trace
  | s => Level.ofName? s

/-- The level of a directive that goes on with `rest` at a place. -/
def levelAt? (s : List Char) (place : Nat) : (rest : List Char) → Option Level
  | [] => some .trace
  | '=' :: _ => levelBehind? (s.drop (place + 1))
  | _ => none

/-- A directive without an equals sign and a bracket: a level for all targets, or a name for which
everything is logged. -/
def plain (s : List Char) : Directive :=
  match Level.ofName? s with
  | some level => { target := none, level }
  | none => { target := some s }

/-- Whether a text is a value that a field can be compared with: a number or a pattern. -/
def isValue (s : List Char) : Bool := (Binary.ofText? .double s).isSome || isPattern s

/-- The name of a field, and whether its value is compared. -/
def field? (s : List Char) : Option (List Char × Bool) :=
  match split '=' s with
  | name :: value :: _ => if isValue value then some (name, true) else none
  | _ => if s.isEmpty then none else some (s, false)

/-- What goes on with `rest` behind a bracket: the name of a span, or a field in braces. -/
def bracketed? (s : List Char) (target : Option (List Char)) (place : Nat) (rest : List Char) :
    Option Directive := do
  let name := rest.takeWhile fun c => c != ']' && c != '{'
  let next := place + name.length + 1
  match rest.drop name.length with
  | ']' :: rest => return { target, forSpans := true, level := ← levelAt? s next rest }
  | '{' :: rest =>
    let text := rest.takeWhile (· ≠ '}')
    match rest.drop text.length with
    | '}' :: ']' :: rest =>
      let (field, isCompared) ← field? (slice s next text.length)
      return {
        target
        field := some field
        forSpans := !name.isEmpty || isCompared
        level := ← levelAt? s (next + text.length + 2) rest }
    | _ => none
  | _ => none

/-- **Reading a directive.** Its marks are looked for in the text without the white space around it,
and its parts are cut out of the text as it is written, counted from its start. -/
def ofText? (s : List Char) : Option Directive :=
  let trimmed := trim s
  match trimmed with
  | [] => none
  | '[' :: rest => bracketed? s none 1 rest
  | c :: _ =>
    if !mayBegin c then none
    else
      -- The place is counted in the trimmed text, and used in the text as it is written.
      let place := (trimmed.takeWhile fun c => c != '=' && c != '[').length
      match trimmed.drop place with
      | [] => some (plain s)
      | '[' :: rest => bracketed? s (some (s.take place)) (place + 1) rest
      | rest => (levelAt? s place rest).map fun level => { target := some (s.take place), level }

/-! ## Choosing -/

/-- Whether a directive is for an event. -/
def isFor (d : Directive) (e : LogEvent) : Bool :=
  !d.forSpans && (d.target.all fun name => name.isPrefixOf e.target.toList) &&
    (d.field.all fun name => e.fields.contains (String.ofList name))

/-- How specific the target of a directive is. -/
def reach (d : Directive) : Nat := (d.target.map fun name => name.length + 1).getD 0

/-- Whether the first directive decides, of two that are for an event: the longer target does, then
the field, then the later name of a field. -/
def decidesOver (d e : Directive) : Bool :=
  if d.reach ≠ e.reach then decide (e.reach < d.reach)
  else
    match d.field, e.field with
    | none, e => e.isNone
    | some _, none => true
    | some f, some g => decide (¬ f < g)

end Directive

/-- Directives, in the order in which they were given. -/
abbrev LogFilter := List Directive

namespace LogFilter

/-- **Reading directives** with commas between them; empty ones are left out. -/
def ofText? (s : String) : Option LogFilter :=
  ((split ',' s.toList).filter fun d => !d.isEmpty).mapM Directive.ofText?

/-- What is logged if a setting says nothing that can be read. -/
def standard : LogFilter := [{ target := none, level := .info }]

/-- **The filter of a setting.** -/
def ofSetting (s : String) : LogFilter := (ofText? s).getD standard

/-- The directive that decides, of the one chosen so far and a later one. -/
def choose (best : Option Directive) (d : Directive) : Option Directive :=
  match best with
  | none => some d
  | some b => if d.decidesOver b then some d else some b

/-- What is logged where an event happens. Without directives errors are. -/
def levelOf (f : LogFilter) (e : LogEvent) : Level :=
  if f.isEmpty then .error
  else (((f.filter fun d => d.isFor e).foldl choose none).map Directive.level).getD .off

/-- **Whether an event is logged.** -/
def logs (f : LogFilter) (e : LogEvent) : Bool := decide (e.level.rank ≤ (levelOf f e).rank)

example : ofText? "a,[{x}]=3" =
    some [{ target := some ['a'] }, { target := none, field := some ['x'], level := .info }] := by
  decide +kernel

end LogFilter

end Storefront
