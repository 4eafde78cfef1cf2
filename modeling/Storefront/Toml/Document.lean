import Storefront.Json.Reading
import Storefront.Toml.Scalar

/-!
# TOML documents

The tree that a document describes. A table can be written in one place only, but a place may also
be implied by the paths of others, so every table keeps how it came to be.

## Main definitions

* `Node`, `Origin`: the values of a document, and how a table came to be
* `changeAt`: changes the table at the end of a path
* `addEntry`: adds an entry under a dotted key
* `Document`, `Document.openTable`, `Document.openElement`, `Document.add`: the parts of a document
* `Node.reading`: a value as a reading of JSON
-/

namespace Storefront.Toml

open Json

/-- How a table came to be. -/
inductive Origin where
  /-- A longer path leads through it. -/
  | implied
  /-- A dotted key leads through it. -/
  | dotted
  /-- It was written. -/
  | written
  /-- It was written between braces. -/
  | inline
  deriving DecidableEq, Repr

/-- **A value of a document.** -/
inductive Node where
  /-- A text. -/
  | text (s : String)
  /-- A truth value or a number. -/
  | scalar (x : Scalar)
  /-- A list of values. -/
  | array (items : List Node)
  /-- A table. -/
  | table (origin : Origin) (entries : List (String × Node))
  /-- A list of tables that were each written. -/
  | tables (elements : List Node)

/-- The entries of a table. -/
abbrev Entries := List (String × Node)

/-- Replaces the value of a key. -/
def replaceEntry (key : String) (value : Node) (entries : Entries) : Entries :=
  entries.map fun (k, v) => if k = key then (k, value) else (k, v)

/-- **Changes the table at the end of a path**, given how that table came to be. Tables on the way
are made where there are none; the last one of a list of tables is on the way. A dotted key does not
lead through a table that was written, and makes what was only implied its own. -/
def changeAt (byKey : Bool) (change : Origin → Entries → Option Entries) :
    (path : List String) → Origin → Entries → Option Entries
  | [], origin, entries => change origin entries
  | key :: rest, _, entries =>
    match entries.lookup key with
    | none =>
      -- What is not there yet is made on the way.
      let origin : Origin := if byKey then .dotted else .implied
      (changeAt byKey change rest origin []).map fun inner =>
        entries ++ [(key, .table origin inner)]
    | some (.table origin inner) =>
      -- A table between braces is complete, and one that was written has its own place.
      if origin = .inline ∨ (byKey ∧ origin = .written) then none
      else
        let origin := if byKey then .dotted else origin
        (changeAt byKey change rest origin inner).map fun inner =>
          replaceEntry key (.table origin inner) entries
    | some (.tables elements) =>
      -- Of a list of tables the one being written is meant.
      match elements.getLast? with
      | some (.table origin inner) =>
        (changeAt byKey change rest origin inner).map fun inner =>
          replaceEntry key (.tables (elements.dropLast ++ [.table origin inner])) entries
      | _ => none
    | some _ => none

/-- Adds an entry to the table that a dotted key leads to: it must be there for dotted keys alone,
and the key must be new. -/
def addLast (isDotted : Bool) (key : String) (value : Node) (origin : Origin) (entries : Entries) :
    Option Entries :=
  if decide (origin = .dotted) ≠ isDotted then none
  else if (entries.lookup key).isSome then none
  else some (entries ++ [(key, value)])

/-- **Adds an entry under a dotted key.** -/
def addEntry (key : List String) (value : Node) (origin : Origin) (entries : Entries) :
    Option Entries :=
  match key.getLast? with
  | none => none
  | some last =>
    changeAt true (addLast (decide (1 < key.length)) last value) key.dropLast origin entries

/-! ## Documents -/

/-- A document: its entries, and the table that entries go to. -/
structure Document where
  /-- The entries of the document. -/
  root : Entries := []
  /-- The path of the table that entries go to. -/
  place : List String := []

namespace Document

/-- The table with a key is written here: it was at most implied before. -/
def writeTable (key : String) (entries : Entries) : Option Entries :=
  match entries.lookup key with
  | none => some (entries ++ [(key, .table .written [])])
  | some (.table .implied inner) => some (replaceEntry key (.table .written inner) entries)
  | some _ => none

/-- A new element of the list of tables with a key is written here. -/
def writeElement (key : String) (entries : Entries) : Option Entries :=
  match entries.lookup key with
  | none => some (entries ++ [(key, .tables [.table .written []])])
  | some (.tables elements) =>
    some (replaceEntry key (.tables (elements ++ [.table .written []])) entries)
  | some _ => none

/-- Writes something at the end of a path, where entries go from then on. -/
def openPlace (d : Document) (path : List String) (write : String → Entries → Option Entries) :
    Option Document :=
  match path.getLast? with
  | none => none
  | some last =>
    (changeAt false (fun _ => write last) path.dropLast .written d.root).map fun root =>
      { root, place := path }

/-- **A table is written from here on.** -/
def openTable (d : Document) (path : List String) : Option Document := d.openPlace path writeTable

/-- **An element of a list of tables is written from here on.** -/
def openElement (d : Document) (path : List String) : Option Document :=
  d.openPlace path writeElement

/-- **Adds an entry** to the table that is being written. -/
def add (d : Document) (key : List String) (value : Node) : Option Document :=
  (changeAt false (addEntry key value) d.place .written d.root).map fun root => { d with root }

end Document

/-! ## Readings -/

/-- A truth value or a number as a reading. A whole number that fits no 64 bits has no value. -/
def Scalar.reading : Scalar → Reading
  | .bool b => .bool b
  | .integer n => .number (if Number.isKept n then some (.integer n) else none)
  | .float x => .number (some (.double x))

mutual

/-- **A value as a reading of JSON.** A list may hold more than what a record asks for. -/
def Node.reading : Node → Reading
  | .text s => .text (some s)
  | .scalar x => x.reading
  | .array items => .array (readings items) .loose
  | .table _ entries => .object (memberReadings entries)
  | .tables elements => .array (readings elements) .loose

/-- Values as readings of JSON. -/
def readings : List Node → List Reading
  | [] => []
  | v :: rest => v.reading :: readings rest

/-- Entries as readings of JSON. -/
def memberReadings : List (String × Node) → List (Option String × Reading)
  | [] => []
  | (k, v) :: rest => (some k, v.reading) :: memberReadings rest

end

/-- The whole document as a reading of JSON. -/
def Document.reading (d : Document) : Reading := .object (memberReadings d.root)

end Storefront.Toml
