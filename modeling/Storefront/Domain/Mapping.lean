import Storefront.Domain.MappingTable
import Storefront.Text.Composition

/-!
# Characters in domains

A domain may be written in many ways. Each character of it stands for itself, for another text, or
for nothing at all; the text of these, in composed form, is the domain.

## Main definitions

* `mapCharacter?`: what a character stands for
* `isSettled`: a character that stands for itself
* `normalize?`: the text that a domain stands for

## Main results

* `normalize?_of_ascii`: a domain in ASCII stands for its form in lower case
-/

namespace Storefront.Domain

open Text

/-- Whether a character belongs to ASCII. -/
def isAscii (c : Char) : Bool := decide (c.toNat < 0x80)

/-- **What a character stands for**; some may not stand in a domain. -/
def mapCharacter? (c : Char) : Option (List Char) :=
  if isAscii c then some [c.toLower]
  else if inRanges disallowedRanges c.toNat then none
  else some ((textImage mappedRuns c.toNat).map Char.ofNat)

/-- A character that stands for itself. -/
def isSettled (c : Char) : Bool := mapCharacter? c = some [c]

/-- **The text that a domain stands for**, in composed form. -/
def normalize? (s : List Char) : Option (List Char) :=
  (s.mapM mapCharacter?).map fun texts => compose texts.flatten

private theorem toLower_isAscii {c : Char} (h : isAscii c) : c.toLower.toNat < 0x80 := by
  have hlt : c.toNat < 0x80 := by simpa [isAscii] using h
  have hall : ∀ n < 0x80, (Char.ofNat n).toLower.toNat < 0x80 := by decide
  have := hall c.toNat hlt
  rwa [Char.ofNat_toNat] at this

/-- A domain in ASCII stands for its form in lower case. -/
theorem normalize?_of_ascii {s : List Char} (h : ∀ c ∈ s, isAscii c) :
    normalize? s = some (s.map Char.toLower) := by
  have hm : s.mapM mapCharacter? = some (s.map fun c => [c.toLower]) := by
    induction s with
    | nil => rfl
    | cons c rest ih =>
      have hc : isAscii c = true := h c List.mem_cons_self
      have hr := ih fun d hd => h d (List.mem_cons_of_mem c hd)
      simp [List.mapM_cons, mapCharacter?, hc, hr]
  have hf : (s.map fun c => [c.toLower]).flatten = s.map Char.toLower := by
    rw [← List.flatMap_def, List.map_eq_flatMap]
  rw [normalize?, hm, Option.map_some, hf, compose_of_ascii]
  intro c hc
  obtain ⟨d, hd, rfl⟩ := List.mem_map.1 hc
  exact toLower_isAscii (h d hd)

example : mapCharacter? 'A' = some ['a'] := by decide

end Storefront.Domain
