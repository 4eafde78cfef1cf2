import Storefront.Http.Error
import Storefront.Json.Basic

/-!
# Headers of a call

The headers that a configuration gives to every call: the key of the service as a bearer token, and
the default headers. Names do not depend on letter case, and a later header replaces an earlier one
of its name.

## Main definitions

* `isTokenCharacter`, `isHeaderName`, `isHeaderValue`: what headers may consist of
* `configuredHeader`: the header of a configured entry
* `authHeaders`: the headers of a configuration

## Main results

* `configuredHeader_eq_ok_iff`: which entries are headers
-/

namespace Storefront.Http

/-- The characters of a token. -/
def isTokenCharacter (c : Char) : Bool := c.isAlphanum || "!#$%&'*+-.^_`|~".toList.contains c

/-- How long the name of a header may be. -/
def maxNameLength : Nat := 65535

/-- **Whether a text is the name of a header**: a token that is not empty and not too long. -/
def isHeaderName (s : String) : Bool :=
  !s.isEmpty && s.toList.all isTokenCharacter && decide (s.length ≤ maxNameLength)

/-- **Whether a text is the value of a header**: no control character but the tab. -/
def isHeaderValue (s : String) : Bool :=
  s.toList.all fun c => c = '\t' || (decide (0x20 ≤ c.toNat) && decide (c.toNat ≠ 0x7F))

/-- The one spelling of a header name. -/
def headerKey (name : String) : String := String.ofList (name.toList.map Char.toLower)

/-- The header of a configured entry: its value must be a text, its name a name, and the text a
value, and the first of these that fails is the error. -/
def configuredHeader (entry : String × Json) : Except CallError (String × String) :=
  match entry with
  | (name, .text value) =>
    if !isHeaderName name then .error .headerName
    else if !isHeaderValue value then .error .headerValue
    else .ok (headerKey name, value)
  | (name, _) => .error (.headerNotText name)

/-- Adds the header of a configured entry. -/
def addHeader (headers : Table String) (entry : String × Json) : Except CallError (Table String) :=
  (configuredHeader entry).map fun (name, value) => Table.insert name value headers

/-- The header of a key, if there is one. -/
def bearer : Option String → Except CallError (Table String)
  | none => .ok []
  | some key =>
    if isHeaderValue ("Bearer " ++ key) then .ok [("authorization", "Bearer " ++ key)]
    else .error .headerValue

/-- **The headers of a configuration**: that of the key, and then the default headers in their
order. The table takes any number of names: that a table of headers may give up beyond 24576 names is
left out here. -/
def authHeaders (apiKey : Option String) (defaults : Table Json) :
    Except CallError (Table String) := do
  defaults.foldlM addHeader (← bearer apiKey)

/-- An entry is a header if it is a text with a name and a value that are ones. -/
theorem configuredHeader_eq_ok_iff {name key value : String} {v : Json} :
    configuredHeader (name, v) = .ok (key, value) ↔
      v = .text value ∧ isHeaderName name ∧ isHeaderValue value ∧ key = headerKey name := by
  cases v with
  | text s =>
    simp only [configuredHeader, Json.text.injEq]
    split
    · next h => simp_all
    · split
      · next h => simp only [reduceCtorEq, false_iff]; rintro ⟨rfl, _, h', _⟩; simp_all
      · next h₁ h₂ =>
        simp only [Except.ok.injEq, Prod.mk.injEq]
        constructor
        · rintro ⟨rfl, rfl⟩; simp_all
        · rintro ⟨rfl, _, _, rfl⟩; simp
  | _ => simp [configuredHeader]

end Storefront.Http
