/-!
# The vocabulary

The phrases that announce a price ceiling and the names of colors.

## Main definitions

* `Vocabulary`, `Vocabulary.standard`: phrases and colors, and the ones used without a
  configuration
-/

namespace Storefront

/-- The phrases that announce a price ceiling and the names of colors, each in the order in which
they were given. -/
structure Vocabulary where
  /-- Phrases that come before a price ceiling. -/
  pricePhrases : List String
  /-- Names of colors. -/
  colors : List String
  deriving DecidableEq, Repr, Inhabited

/-- The vocabulary used without a configuration. -/
def Vocabulary.standard : Vocabulary where
  pricePhrases := ["below", "under", "less than", "<", "sous", "moins de"]
  colors := ["black", "white", "silver", "gray", "grey", "red", "blue", "green", "yellow",
    "orange", "purple", "pink", "gold", "rose gold", "brown", "navy", "teal", "midnight",
    "space gray", "starlight", "graphite", "sky blue", "bay blue", "titanium"]

end Storefront
