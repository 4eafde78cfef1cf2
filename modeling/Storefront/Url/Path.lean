import Storefront.Text.Split
import Storefront.Url.Percent

/-!
# Paths

The written form of a path: parts that stand for the same or the parent place are followed, and what
may not stand in a path is encoded. A letter and a colon or a bar name a drive, which is no place
that has a parent.

## Main definitions

* `points?`, `isDrive`: the parts of a path with a meaning
* `follow`, `followAll`: following the parts
* `writePath`, `absolutePath`: the written form of a path
-/

namespace Storefront.Url

open Text

/-- Whether a character ends a part of a path. -/
def isSlash (special : Bool) (c : Char) : Bool := c = '/' || (special && c = '\\')

/-- The parts of a path between slashes. -/
def segments (special : Bool) (s : List Char) : List (List Char) :=
  split '/' (s.map fun c => if isSlash special c then '/' else c)

/-- How many points a part of a path stands for, if it is only points; an encoded point is one. -/
def points? : List Char → Option Nat
  | [] => some 0
  | '.' :: rest => (points? rest).map (· + 1)
  | '%' :: '2' :: e :: rest => if e.toLower = 'e' then (points? rest).map (· + 1) else none
  | _ => none

/-- Whether a part of a path names a drive. -/
def isDrive : List Char → Bool
  | [letter, c] => letter.isAlpha && (c = ':' || c = '|')
  | _ => false

/-- The parent place; that of a drive is the drive. -/
def parent (place : List (List Char)) : List (List Char) :=
  if place.getLast?.any isDrive then place else place.dropLast

/-- The drive that a part of a path names, with its colon. -/
def drive (segment : List Char) : List Char := segment.take 1 ++ [':']

/-- Follows one part of a path: a point is the same place and two points are the parent place. In
front of the end of the path a slash stands behind such a place. The first part of the path of a
file may be a drive. -/
def follow (isFile : Bool) (place : List (List Char)) (segment : List Char) (last : Bool) :
    List (List Char) :=
  match points? segment with
  | some 1 => if last then place ++ [[]] else place
  | some 2 => if last then parent place ++ [[]] else parent place
  | _ =>
    if isFile && place.isEmpty && isDrive segment then [drive segment]
    else place ++ [encode inPath segment]

/-- Follows the parts of a path. -/
def followAll (isFile : Bool) : (place : List (List Char)) → List (List Char) → List (List Char)
  | place, [] => place
  | place, segment :: rest =>
    followAll isFile (follow isFile place segment rest.isEmpty) rest

/-- A path with these parts. -/
def writePath (place : List (List Char)) : List Char := '/' :: ['/'].intercalate place

/-- **The written form of a path**, given what follows its first slash. -/
def absolutePath (special : Bool) (s : List Char) : List Char :=
  writePath (followAll false [] (segments special s))

example : absolutePath true "a/./b/%2E./c d".toList = "/a/c%20d".toList := by decide +kernel
example : absolutePath true "C|/../..".toList = "/C|/".toList := by decide +kernel

end Storefront.Url
