import Lineage.Unicode.Category
import Lineage.Unicode.Script

/-!
# Descriptions of sets of characters

Most properties of characters are put together from others: a set is described
by its ranges, by a category or a script, or by other descriptions.
-/

namespace Lineage.Unicode

/-- A description of a set of characters. -/
inductive Description where
  | ranges (text : String)
  | category (c : Category)
  | script (name : String)
  | union (a b : Description)
  | inter (a b : Description)
  | without (a b : Description)
deriving DecidableEq, Repr

namespace Description

/-- The characters in any of several sets. -/
def anyOf (ds : List Description) : Description :=
  ds.foldr union (ranges "")

/-- The characters of any of several categories. -/
def categories (cs : List Category) : Description :=
  anyOf (cs.map category)

/-- The set that is described. -/
def set : Description → CharSet
  | ranges text => .ofText text
  | category c => c.set
  | script name => ((Script.find? name).map Script.set).getD .empty
  | union a b => a.set.union b.set
  | inter a b => a.set.inter b.set
  | without a b => a.set.without b.set

end Description

end Lineage.Unicode
