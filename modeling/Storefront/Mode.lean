import Storefront.Json.Decode
import Storefront.Text.Blank

/-!
# Retrieval modes

How a search is scored, and the switch between the two searches a shopper has.

## Main definitions

* `Mode`, `Mode.name`, `Mode.parse`: the modes and their names
* `Mode.needsEmbedding`, `Mode.isHybrid`: what a mode takes part in
* `Toggle`, `Toggle.decode`: the switch

## Main results

* `Mode.parse_name`: the name of a mode is read back as that mode
-/

namespace Storefront

/-- How a search is scored. -/
inductive Mode where
  /-- By keywords. -/
  | lexical
  /-- By the distance of embeddings. -/
  | vector
  /-- By both. -/
  | hybrid
  /-- By both, among the records that satisfy the filters. -/
  | hybridFiltered
  deriving DecidableEq, Repr

/-- A name that no mode has. -/
structure Mode.Unknown where
  /-- The name as it was given. -/
  name : String
  deriving DecidableEq, Repr

/-- The text of the error. -/
def Mode.Unknown.message (e : Mode.Unknown) : String :=
  "unknown retrieval mode '" ++ e.name ++
    "', expected one of lexical, vector, hybrid, hybrid_filtered"

namespace Mode

/-- The name of a mode. -/
def name : Mode → String
  | .lexical => "lexical"
  | .vector => "vector"
  | .hybrid => "hybrid"
  | .hybridFiltered => "hybrid_filtered"

/-- **The mode of a name.** White space around the name and the case of its ASCII letters do not
matter, and `bm25` is another name of the lexical mode. -/
def parse (given : String) : Except Unknown Mode :=
  let key := String.ofList ((Text.trim given.toList).map Char.toLower)
  if key = "lexical" ∨ key = "bm25" then .ok .lexical
  else if key = "vector" then .ok .vector
  else if key = "hybrid" then .ok .hybrid
  else if key = "hybrid_filtered" then .ok .hybridFiltered
  else .error ⟨given⟩

/-- Whether the mode scores by embeddings. -/
def needsEmbedding : Mode → Bool
  | .lexical => false
  | _ => true

/-- Whether the mode scores by keywords and embeddings. -/
def isHybrid : Mode → Bool
  | .hybrid | .hybridFiltered => true
  | _ => false

/-- The name of a mode is read back as that mode. -/
@[simp] theorem parse_name (m : Mode) : parse m.name = .ok m := by
  cases m <;> rfl

end Mode

/-- The switch between the plain search and the one that understands constraints. -/
inductive Toggle where
  /-- The text is searched as it is. -/
  | standard
  /-- The constraints in the text become filters. -/
  | smart
  deriving DecidableEq, Repr

namespace Toggle

/-- The name of a position of the switch. -/
def name : Toggle → String
  | .standard => "standard"
  | .smart => "smart"

/-- The position of a name. -/
def ofName? (s : String) : Option Toggle :=
  if s = "standard" then some .standard else if s = "smart" then some .smart else none

/-- **Decoding a position of the switch** by its name. -/
def decode : Json.Decoder Toggle := .choice ofName?

@[simp] theorem ofName?_name (t : Toggle) : ofName? t.name = some t := by
  cases t <;> decide

end Toggle

end Storefront
