/-!
# Stable sorting by a test that need not be an order

Some lists are sorted by a comparison that is neither symmetric nor
transitive, so the result depends on which pairs are compared. The sort used
everywhere is the plain insertion sort: each element in turn moves left past
its neighbours as long as it tests as less than the neighbour. It is stable,
and for a total preorder it gives what any stable sort gives.
-/

namespace Lineage.Order

/-- Inserts an element into a list written backwards: it passes the elements
that it tests as less than. -/
def insertBack {α : Type} (less : α → α → Bool) (x : α) : List α → List α
  | [] => [x]
  | y :: ys => if less x y then y :: insertBack less x ys else x :: y :: ys

/-- Insertion sort. -/
def sortBy {α : Type} (less : α → α → Bool) (xs : List α) : List α :=
  (xs.foldl (fun sorted x => insertBack less x sorted) []).reverse

/-- The lexicographic order of pairs of numbers. -/
def lexLess (a b : Int × Int) : Bool :=
  a.1 < b.1 || (a.1 == b.1 && a.2 < b.2)

end Lineage.Order
