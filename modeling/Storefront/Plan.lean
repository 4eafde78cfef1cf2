import Storefront.Extraction.Extractor
import Storefront.Filters
import Storefront.Mode

/-!
# Search plans

The one place where the position of the switch becomes a mode, a text and filters.

## Main definitions

* `Plan`, `Plan.make`: the plan of a search
-/

namespace Storefront

/-- What to search for, and how. -/
structure Plan where
  /-- The text to search for. -/
  searchText : String
  /-- How to score. -/
  mode : Mode
  /-- The constraints on records. -/
  filters : Filters
  deriving DecidableEq, Repr

/-- **The plan of a search.** The standard search takes the text as it is and applies no constraint;
the smart search takes the clean text and applies what was extracted. -/
def Plan.make (raw : String) (c : Constraints) : Toggle → Plan
  | .standard => { searchText := raw, mode := .hybrid, filters := {} }
  | .smart =>
    { searchText := c.cleanText
      mode := .hybridFiltered
      filters := { price := c.priceCeiling, color := c.color } }

end Storefront
