import Lineage.Kin.Relatives

/-!
# Descendancy by recursion

The walk down the tree as it is said in words: whoever is visited has its families gone
through one after the other, and in each family the children that have not been visited are
visited before the next family is looked at. There is no list of tasks. The recursion ends
because a child is visited only once: what is left after a visit is no more than before.
-/

namespace Lineage

namespace Descendancy

/-- What a walk down has found and whom it has visited, who are all that had been visited before
at least. -/
structure Walked (store : Store) (before : List String) where
  found : List Relative
  visited : List String
  unvisited_le : store.unvisited visited ≤ store.unvisited before

/-- What a walk has come to is still what it has come to when it is seen from earlier on. -/
def Walked.since {store : Store} {before earlier : List String} (walk : Walked store before)
    (h : store.unvisited before ≤ store.unvisited earlier) : Walked store earlier :=
  ⟨walk.found, walk.visited, Nat.le_trans walk.unvisited_le h⟩

mutual

/-- Visits a person. It keeps the generation that it has, which is 0 if it has none, while its
families are gone through. -/
def visit (store : Store) (limit : Option Int) (withSpouses : Bool) (person : Record)
    (found : List Relative) (visited : List String) : Walked store visited :=
  let relative := (Relative.find? person.xref found).getD ⟨person, none⟩
  let generation := relative.generation.getD 0
  let found := Relative.put { relative with generation := some generation } found
  visitFamilies store limit withSpouses person.xref generation (store.spouseFamilies person) found
    visited
termination_by (store.unvisited visited, 2, 0)
decreasing_by exact Prod.Lex.right _ (Prod.Lex.left _ _ Nat.one_lt_two)

/-- Goes through the families of a person: in each the other spouse gets one generation less, if
spouses are wanted, and the children one more. Within the limit the children are visited. -/
def visitFamilies (store : Store) (limit : Option Int) (withSpouses : Bool) (person : String)
    (generation : Int) (families : List Record) (found : List Relative) (visited : List String) :
    Walked store visited :=
  match families with
  | [] => ⟨found, visited, Nat.le_refl _⟩
  | family :: rest =>
    let others := (store.spouses family).filter (·.xref != person)
    let found := if withSpouses then Relative.putAll (generation - 1) others found else found
    let found := Relative.putAll (generation + 1) (store.children family) found
    if withinLimit limit generation then
      let walk := visitChildren store limit withSpouses (store.children family)
        (fun _ => Store.mem_of_mem_linked) found visited
      (visitFamilies store limit withSpouses person generation rest walk.found walk.visited).since
        walk.unvisited_le
    else visitFamilies store limit withSpouses person generation rest found visited
termination_by (store.unvisited visited, 1, families.length)
decreasing_by
  · exact Prod.Lex.right _ (Prod.Lex.left _ _ Nat.zero_lt_one)
  · exact Prod.Lex.right' _ walk.unvisited_le (Prod.Lex.right _ (Nat.lt_succ_self _))
  · exact Prod.Lex.right _ (Prod.Lex.right _ (Nat.lt_succ_self _))

/-- Visits those of some children that have not been visited yet. -/
def visitChildren (store : Store) (limit : Option Int) (withSpouses : Bool)
    (children : List Record) (known : ∀ c ∈ children, c ∈ store.records) (found : List Relative)
    (visited : List String) : Walked store visited :=
  match children with
  | [] => ⟨found, visited, Nat.le_refl _⟩
  | child :: rest =>
    have later : ∀ c ∈ rest, c ∈ store.records := fun c h => known c (List.mem_cons_of_mem _ h)
    if met : visited.contains child.xref then
      visitChildren store limit withSpouses rest later found visited
    else
      have fewer := Store.unvisited_cons_lt (known child List.mem_cons_self) (by simpa using met)
      let walk := visit store limit withSpouses child found (child.xref :: visited)
      (visitChildren store limit withSpouses rest later walk.found walk.visited).since
        (Nat.le_trans walk.unvisited_le (Nat.le_of_lt fewer))
termination_by (store.unvisited visited, 0, children.length)
decreasing_by
  · exact Prod.Lex.right _ (Prod.Lex.right _ (Nat.lt_succ_self _))
  · exact Prod.Lex.left _ _ fewer
  · exact Prod.Lex.left _ _ (Nat.lt_of_le_of_lt walk.unvisited_le fewer)

end

end Descendancy

end Lineage
