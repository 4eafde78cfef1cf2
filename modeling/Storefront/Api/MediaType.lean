import Storefront.Http.Header
import Storefront.Text.Split

/-!
# Media types

Whether the type that a request gives for its body is a JSON type: `application/json`, or an
application type that is written in JSON. Parameters are read and have no effect; letter case does
not matter.

## Main definitions

* `skipParameters`: reads parameters
* `MediaType`, `MediaType.ofText?`: the two names of a type, and reading them
* `MediaType.isJson`: the JSON types
-/

namespace Storefront.Api

open Http

/-- Characters that may stand in quotes. -/
def isQuotedCharacter (c : Char) : Bool := decide (0x20 ≤ c.toNat ∧ c.toNat < 0x7F)

/-- Where reading parameters is. -/
inductive ParameterPlace where
  /-- In front of a name. -/
  | start
  /-- In a name. -/
  | name
  /-- In front of a value. -/
  | valueStart
  /-- In a value. -/
  | value
  /-- Behind an opening quote. -/
  | quoteStart
  /-- In a quoted value. -/
  | quoted
  /-- Behind a closing quote. -/
  | afterQuote
  deriving DecidableEq, Repr

namespace ParameterPlace

/-- One character. -/
def step? (c : Char) : ParameterPlace → Option ParameterPlace
  | .start => if c = ' ' then some .start else if isTokenCharacter c then some .name else none
  | .name => if c = '=' then some .valueStart else if isTokenCharacter c then some .name else none
  | .valueStart =>
    if c = '"' then some .quoteStart else if isTokenCharacter c then some .value else none
  | .value => if c = ';' then some .start else if isTokenCharacter c then some .value else none
  | .quoteStart => if isQuotedCharacter c then some .quoted else none
  | .quoted =>
    if c = '"' then some .afterQuote else if isQuotedCharacter c then some .quoted else none
  | .afterQuote => if c = ';' then some .start else if c = ' ' then some .afterQuote else none

/-- Whether parameters may end in a place. -/
def mayEnd : ParameterPlace → Bool
  | .start | .valueStart | .value | .afterQuote => true
  | .name | .quoteStart | .quoted => false

end ParameterPlace

/-- **Reading parameters** behind the first semicolon: whether they have the right form. -/
def areParameters (s : List Char) : Bool :=
  (s.foldlM (fun place c => ParameterPlace.step? c place) .start).any ParameterPlace.mayEnd

/-- The two names of a type, in lower case. -/
structure MediaType where
  /-- The kind of content. -/
  kind : List Char
  /-- The content of that kind. -/
  subkind : List Char
  deriving DecidableEq, Repr

namespace MediaType

/-- **Reading a type** with its parameters. -/
def ofText? (s : String) : Option MediaType :=
  let lower (s : List Char) : List Char := s.map Char.toLower
  match s.toList.span isTokenCharacter with
  | (kind, '/' :: rest) =>
    if kind.isEmpty then none
    else
      match rest.span isTokenCharacter with
      | (subkind, []) => some { kind := lower kind, subkind := lower subkind }
      | (subkind, ';' :: parameters) =>
        if subkind.isEmpty || !areParameters parameters then none
        else some { kind := lower kind, subkind := lower subkind }
      | _ => none
  | _ => none

/-- The parts of the second name around the last plus sign behind its first character. -/
def splitSuffix (t : MediaType) : List Char × Option (List Char) :=
  match Text.splitLast? '+' (t.subkind.drop 1) with
  | some (before, after) => (t.subkind.take 1 ++ before, some after)
  | none => (t.subkind, none)

/-- **Whether a type is JSON**: an application type whose content is JSON, or written in it. -/
def isJson (t : MediaType) : Bool :=
  let (content, suffix) := t.splitSuffix
  t.kind = "application".toList &&
    (content = "json".toList || suffix = some "json".toList)

example : ((ofText? "Application/vnd.api+JSON; a=\"b c\"").map isJson) = some true := by
  decide +kernel
example : ((ofText? "text/json").map isJson) = some false := by decide +kernel
example : ofText? "application/json ; a=b" = none := by decide +kernel

end MediaType

end Storefront.Api
