import Storefront.Text.Blank
import Storefront.Text.Character

/-!
# Lexicons

Vocabulary entries made ready for matching. An entry is matched word by word: letter case does not
matter, and two words of an entry stand apart by any white space. Entries with more characters are
tried first, so that a name of several words wins over one of its words.

## Main definitions

* `Entry`: the words of an entry with its width
* `lexicon`: the entries that are not blank, the widest first
* `dropLiteral?`, `dropWords?`: what follows a word, and what follows the words of an entry

## Main results

* `mem_lexicon`: the lexicon has the entries that are not blank
* `lexicon_sorted`: no entry of a lexicon is followed by a wider one
-/

namespace Storefront.Extraction

open Text

/-- A vocabulary entry: its words, and how many characters it has without the white space at its
ends. -/
structure Entry where
  /-- The words of the entry. -/
  words : List (List Char)
  /-- How many characters the trimmed entry has. -/
  width : Nat
  deriving DecidableEq, Repr

/-- The entry that a text spells; blank texts spell none. -/
def Entry.ofText? (s : String) : Option Entry :=
  match Text.words s.toList with
  | [] => none
  | ws => some { words := ws, width := (trim s.toList).length }

/-- **The lexicon of a list of entries**: the ones that are not blank, the widest first, entries of
one width in their order. -/
def lexicon (entries : List String) : List Entry :=
  (entries.filterMap Entry.ofText?).mergeSort fun a b => decide (b.width ≤ a.width)

/-- What follows the literal `w` at the start of a text, up to letter case. -/
def dropLiteral? : List Char → List Char → Option (List Char)
  | [], s => some s
  | _ :: _, [] => none
  | p :: w, c :: s => if foldCase p = foldCase c then dropLiteral? w s else none

/-- What follows white space of at least one character. -/
def dropGap? : List Char → Option (List Char)
  | c :: s => if isBlank c then some (dropBlanks s) else none
  | [] => none

/-- **What follows the words of an entry** at the start of a text: the words with white space
between them. -/
def dropWords? : List (List Char) → List Char → Option (List Char)
  | [], s => some s
  | [w], s => dropLiteral? w s
  | w :: ws, s => ((dropLiteral? w s).bind dropGap?).bind (dropWords? ws)

/-- The lexicon has the entries that are not blank. -/
theorem mem_lexicon {entries : List String} {e : Entry} :
    e ∈ lexicon entries ↔ ∃ s ∈ entries, Entry.ofText? s = some e := by
  simp [lexicon, List.mem_mergeSort]

/-- No entry of a lexicon is followed by a wider one. -/
theorem lexicon_sorted (entries : List String) :
    (lexicon entries).Pairwise fun a b => b.width ≤ a.width := by
  have := @List.pairwise_mergeSort Entry (fun a b => decide (b.width ≤ a.width))
    (fun a b c h₁ h₂ => by simp at *; omega) (fun a b => by simp; omega)
    (entries.filterMap Entry.ofText?)
  simpa [lexicon] using this

end Storefront.Extraction
