import Lineage.Leveled.Line
import Lineage.Listing.Condition

/-!
# Conditions as they are written

A comparison is written as the tags of a path with colons between them, the word for
the comparison and the value, with a space behind each of the first two. A tag
consists of capital letters and digits, and an underscore may precede them.
-/

namespace Lineage

/-- The word that a comparison is written with. -/
def Comparison.keyword : Comparison → String
  | atLeast => "GTE"
  | atMost => "LTE"
  | equal => "EQUALS"

namespace ListCondition

/-- Whether a text is a tag. -/
structure IsTag (tag : String) : Prop where
  nonempty : tag.toList ≠ []
  chars : ∀ c ∈ ((Text.after? "_" tag).getD tag).toList, Leveled.isTagChar c = true

/-- A path of tags. -/
def pathOf (tags : List String) : String :=
  ":".intercalate tags

/-- A comparison as it is written. -/
def written (tags : List String) (comparison : Comparison) (value : String) : String :=
  pathOf tags ++ " " ++ comparison.keyword ++ " " ++ value

/-- Whether a text can be the value of a condition: it is not empty, has neither line breaks
nor references to variables, and no blanks at its ends. -/
structure IsValue (value : String) : Prop where
  nonempty : value ≠ ""
  single : '\n' ∉ value.toList
  plain : '$' ∉ value.toList
  trimmed : Text.trim value = value

end ListCondition

end Lineage
