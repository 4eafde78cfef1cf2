import Storefront.Json.Basic
import Storefront.Number.Shortest

/-!
# Writing JSON

The compact text of a value: no white space, members in their order, only what must be escaped
escaped, and numbers by their shortest digits.

## Main definitions

* `layout`: how numbers with a point are laid out
* `escape`, `quoted`: the text of a text
* `Number.render`, `render`: the text of a number and of a value
-/

namespace Storefront.Json

/-- Numbers are positional from `0.00001` to below `1e16`. -/
def layout : Layout := { least := -5, greatest := 15 }

/-- A hexadecimal digit below ten or in lower case. -/
def hexDigit (n : Nat) : Char := Nat.digitChar n

/-- One character of a text: quotes, backslashes and the control characters below the space are
escaped. -/
def escape (c : Char) : List Char :=
  if c = '"' then ['\\', '"']
  else if c = '\\' then ['\\', '\\']
  else if c = '\x08' then ['\\', 'b']
  else if c = '\x0c' then ['\\', 'f']
  else if c = '\n' then ['\\', 'n']
  else if c = '\r' then ['\\', 'r']
  else if c = '\t' then ['\\', 't']
  else if c.toNat < 0x20 then
    ['\\', 'u', '0', '0', hexDigit (c.toNat / 16), hexDigit (c.toNat % 16)]
  else [c]

/-- A text in quotes. -/
def quoted (s : String) : List Char := '"' :: (s.toList.flatMap escape ++ ['"'])

/-- The text of a binary value; what is not finite is null. -/
def renderBinary {f : Format} : Binary f → List Char
  | .finite negative units _ => layout.finite f negative units
  | _ => ['n', 'u', 'l', 'l']

/-- The text of a number. -/
def Number.render : Number → List Char
  | .integer n => (toString n).toList
  | .double x => renderBinary x
  | .single x => renderBinary x

mutual

/-- **The text of a value.** -/
def render : Json → List Char
  | .null => ['n', 'u', 'l', 'l']
  | .bool true => ['t', 'r', 'u', 'e']
  | .bool false => ['f', 'a', 'l', 's', 'e']
  | .number n => n.render
  | .text s => quoted s
  | .array [] => ['[', ']']
  | .array (v :: rest) => '[' :: (render v ++ renderItems rest)
  | .object [] => ['{', '}']
  | .object ((k, v) :: rest) => '{' :: (quoted k ++ ':' :: (render v ++ renderMembers rest))

/-- The items after the first, and the closing bracket. -/
def renderItems : List Json → List Char
  | [] => [']']
  | v :: rest => ',' :: (render v ++ renderItems rest)

/-- The members after the first, and the closing brace. -/
def renderMembers : List (String × Json) → List Char
  | [] => ['}']
  | (k, v) :: rest => ',' :: (quoted k ++ ':' :: (render v ++ renderMembers rest))

end

/-- The text of a value, as a string. -/
def compress (v : Json) : String := String.ofList v.render

end Storefront.Json
