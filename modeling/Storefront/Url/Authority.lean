import Storefront.Text.Split
import Storefront.Url.Host

/-!
# Authorities

What stands between the two slashes of a URL and its path: a user with a password, a host, and a
port.

## Main definitions

* `specialPorts`, `isSpecial`: the schemes of the web, with their ports
* `Authority`, `authority?`: an authority, and reading one

## Main results

* `port?_lt`: a port is below 65536
-/

namespace Storefront.Url

open Text

/-! ## Schemes -/

/-- The schemes of the web, with their ports. -/
def specialPorts : List (String × Nat) :=
  [("http", 80), ("https", 443), ("ws", 80), ("wss", 443), ("ftp", 21)]

/-- Whether a scheme is that of files. -/
def isFileScheme (scheme : List Char) : Bool := scheme = "file".toList

/-- Whether a scheme has the rules of the web. -/
def isSpecial (scheme : List Char) : Bool :=
  (specialPorts.lookup (String.ofList scheme)).isSome || isFileScheme scheme

/-! ## Parts -/

/-- The host and the port of a text, of which the port may be missing. -/
def splitPort : List Char → List Char × Option (List Char)
  | '[' :: rest =>
    match splitFirst? ']' rest with
    | some (inner, ':' :: port) => ('[' :: inner ++ [']'], some port)
    | _ => ('[' :: rest, none)
  | s =>
    match splitFirst? ':' s with
    | some (host, port) => (host, some port)
    | none => (s, none)

/-- The port that a text spells; an empty text spells none, and neither does the port of the
scheme. -/
def port? (scheme : List Char) (s : List Char) : Option (Option Nat) :=
  if s.isEmpty then some none
  else
    match ofDigits? 10 s with
    | none => none
    | some n =>
      if n < 65536 then
        some (if specialPorts.lookup (String.ofList scheme) = some n then none else some n)
      else none

/-- A port is below 65536. -/
theorem port?_lt {scheme s : List Char} {n : Nat} (h : port? scheme s = some (some n)) :
    n < 65536 := by
  unfold port? at h
  split at h
  · simp at h
  · split at h
    · simp at h
    · split at h
      · split at h <;> simp_all
      · simp at h

/-- The name and the password of a user, in their written forms. -/
def splitUser (s : List Char) : List Char × List Char :=
  let (name, password) := (splitFirst? ':' s).getD (s, [])
  (encode inUser name, encode inUser password)

/-! ## Authorities -/

/-- **What stands between two slashes and a path**, each part in its written form. -/
structure Authority where
  /-- The name of a user. -/
  user : List Char
  /-- The password of the user. -/
  password : List Char
  /-- The host. -/
  host : List Char
  /-- The port, if it is not that of the scheme. -/
  port : Option Nat
  deriving DecidableEq, Repr

/-- **Reading an authority**, given whether the URL ends after it, with what a backslash behind the
port leaves of it. A host must not be empty in a scheme of the web, nor where a user or a port is
given. -/
def authority? (scheme s : List Char) (isEnd : Bool) : Option (Authority × List Char) := do
  -- The last sign counts: those in front of it belong to the user.
  let (info, place) := match splitLast? '@' s with
    | some (info, place) => (some info, place)
    | none => (none, s)
  if info = some [] && place.isEmpty && !isEnd then none
  let (user, password) := splitUser (info.getD [])
  let (host, port) := splitPort place
  if host.isEmpty &&
      (isSpecial scheme || !user.isEmpty || !password.isEmpty || port.isSome) then none
  let host ← if isSpecial scheme then specialHost? host else otherHost? host
  let (digits, rest) := (port.getD []).span (· ≠ '\\')
  return ({ user, password, host, port := ← port? scheme digits }, rest)

end Storefront.Url
