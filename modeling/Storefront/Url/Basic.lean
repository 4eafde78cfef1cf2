import Storefront.Url.Authority
import Storefront.Url.Path

/-!
# URLs

The parts of an absolute URL, reading them as web browsers do, and the one written form of a URL.

## Main definitions

* `Url`: the parts
* `Url.ofText?`: reading a URL
* `Url.text`: the written form
* `Url.credentials?`, `Url.withoutCredentials`: the user that a URL names, and the URL without it
* `Url.isUsable`: whether HTTP can be used with a URL
-/

namespace Storefront

open Text

/-- **The parts of a URL**, each in its written form. -/
structure Url where
  /-- The scheme, in lower case. -/
  scheme : List Char
  /-- What names the user, the host and the port. -/
  authority : Option Url.Authority := none
  /-- The path. -/
  path : List Char
  /-- What follows a question mark. -/
  query : Option (List Char) := none
  /-- What follows a number sign. -/
  fragment : Option (List Char) := none
  deriving DecidableEq, Repr

namespace Url

/-! ## Reading -/

/-- What may stand in a scheme behind its first letter. -/
def isSchemeCharacter (c : Char) : Bool := c.isAlphanum || c = '+' || c = '-' || c = '.'

/-- The scheme of a text and what follows its colon. -/
def splitScheme? (s : List Char) : Option (List Char × List Char) := do
  let (scheme, rest) ← splitFirst? ':' s
  if (scheme.take 1).all Char.isAlpha && !scheme.isEmpty && scheme.all isSchemeCharacter then
    some (scheme.map Char.toLower, rest)
  else none

/-- The text that counts: without controls and spaces around it, and without tabs and line ends. -/
def significant (s : List Char) : List Char :=
  let blank (c : Char) : Bool := decide (c.toNat ≤ 0x20)
  let s := s.dropWhile blank
  let s := (s.reverse.dropWhile blank).reverse
  s.filter fun c => c != '\t' && c != '\n' && c != '\r'

/-- The path of a text, and what follows a question mark and a number sign. A question mark behind a
number sign belongs to the fragment. -/
def splitTail (s : List Char) : List Char × Option (List Char) × Option (List Char) :=
  let (s, fragment) := match splitFirst? '#' s with
    | some (s, fragment) => (s, some fragment)
    | none => (s, none)
  match splitFirst? '?' s with
  | some (s, query) => (s, some query, fragment)
  | none => (s, none, fragment)

/-- What comes before the path, and the path with all that follows it. -/
def splitPlace (special : Bool) (s : List Char) : List Char × List Char :=
  s.span fun c => !(isSlash special c || c = '?' || c = '#')

/-- The path of a URL whose authority leaves `rest`, which begins with a slash if it has a path; in
a scheme of the web every URL has one. -/
def pathAfter (special : Bool) (left rest : List Char) : List Char :=
  if !left.isEmpty then absolutePath special (left ++ rest)
  else
    match rest with
    | [] => if special then ['/'] else []
    | _ :: rest => absolutePath special rest

/-- The URL of a text that begins with an authority. -/
def withAuthority? (scheme s : List Char) : Option Url := do
  let special := isSpecial scheme
  let (place, tail) := splitPlace special s
  let (authority, left) ← authority? scheme place tail.isEmpty
  return { scheme, authority := some authority, path := pathAfter special left (splitTail tail).1 }

/-- The host of a file; this machine is none. -/
def fileHost? (s : List Char) : Option (Option (List Char)) :=
  if s.isEmpty then some none
  else (specialHost? s).map fun host => if host = "localhost".toList then none else some host

/-- The URL of a file on a host, given what follows the first slash of its path. Slashes at the
start of the path count once, and a drive is on this machine. -/
def fileUrl (scheme : List Char) (host : Option (List Char)) (s : List Char) : Url :=
  let place := followAll true [] (segments true (splitTail s).1)
  let host := if place.head?.any isDrive then none else host
  { scheme
    authority := some { user := [], password := [], host := host.getD [], port := none }
    path := '/' :: (writePath place).dropWhile (· = '/') }

/-- What follows the slash that a text may begin with. -/
def dropSlash : List Char → List Char
  | [] => []
  | c :: rest => if isSlash true c then rest else c :: rest

/-- The URL of a text that names a file. -/
def file? (scheme s : List Char) : Option Url :=
  match s with
  | a :: b :: rest =>
    if isSlash true a && isSlash true b then
      let (place, tail) := splitPlace true rest
      if isDrive place then some (fileUrl scheme none rest)
      else (fileHost? place).map fun host =>
        fileUrl scheme host (if host.isSome then dropSlash tail else tail)
    else some (fileUrl scheme none (dropSlash s))
  | s => some (fileUrl scheme none (dropSlash s))

/-- The parts of a URL in front of its query. Files may have a host, other schemes of the web must
have one, and in the rest two slashes announce one. -/
def hierarchy? (scheme s : List Char) : Option Url :=
  if isFileScheme scheme then file? scheme s
  else if isSpecial scheme then withAuthority? scheme (s.dropWhile (isSlash true))
  else
    match s with
    | '/' :: '/' :: rest => withAuthority? scheme rest
    | '/' :: rest => some { scheme, path := absolutePath false (splitTail rest).1 }
    | s => some { scheme, path := encode isPrintable (splitTail s).1 }

/-- **Reading a URL**; a text without a scheme is none. -/
def ofText? (s : String) : Option Url := do
  let (scheme, rest) ← splitScheme? (significant s.toList)
  let url ← hierarchy? scheme rest
  let (_, query, fragment) := splitTail rest
  return { url with
    query := query.map (encode (if isSpecial scheme then inSpecialQuery else inQuery))
    fragment := fragment.map (encode inFragment) }

/-! ## Writing -/

/-- The name and the password of a user, in front of a host. -/
def renderUser (a : Authority) : List Char :=
  let password := if a.password.isEmpty then [] else ':' :: a.password
  if a.user.isEmpty && a.password.isEmpty then [] else a.user ++ password ++ ['@']

/-- The authority with the slashes in front of it. A path that begins with two slashes must not be
taken for one. -/
def renderAuthority (u : Url) : List Char :=
  match u.authority with
  | some a =>
    "//".toList ++ renderUser a ++ a.host ++ (match a.port with
      | some port => ':' :: decimal port
      | none => [])
  | none => if u.path.take 2 = "//".toList then "/.".toList else []

/-- The characters of a URL. -/
def render (u : Url) : List Char :=
  u.scheme ++ [':'] ++ u.renderAuthority ++ u.path ++
    (match u.query with
      | some query => '?' :: query
      | none => []) ++
    (match u.fragment with
      | some fragment => '#' :: fragment
      | none => [])

/-- **The written form of a URL.** -/
def text (u : Url) : String := String.ofList u.render

/-! ## Use -/

/-- The text that the written form of a part stands for. -/
def decodeText? (s : List Char) : Option (List Char) := Utf8.decode? (decode s)

/-- **The name and the password of the user** that an authority tells to a server. The name must be
a text, and a password that is none counts for nothing; one of the two must be there. -/
def Authority.credentials? (a : Authority) : Option (List Char × List Char) := do
  let user ← decodeText? a.user
  let password := (decodeText? a.password).getD []
  if user.isEmpty && password.isEmpty then none else some (user, password)

/-- The user that a URL tells to a server. -/
def credentials? (u : Url) : Option (List Char × List Char) :=
  u.authority.bind Authority.credentials?

/-- **The URL without the user** that it tells to a server. -/
def withoutCredentials (u : Url) : Url :=
  { u with authority := u.authority.map fun a =>
      if a.credentials?.isSome then { a with user := [], password := [] } else a }

/-- How long a URL may be that is sent over HTTP. -/
def maxLength : Nat := 65534

/-- What may stand in a domain and still not be sent over HTTP. -/
def isUnsendable (c : Char) : Bool := "\"`{}".toList.contains c

/-- **Whether HTTP can be used with the URL.** -/
def isUsable (u : Url) : Bool :=
  (u.scheme = "http".toList || u.scheme = "https".toList) &&
    !(u.authority.any fun a => a.host.any isUnsendable) && decide (u.render.length ≤ maxLength)

end Url

end Storefront
