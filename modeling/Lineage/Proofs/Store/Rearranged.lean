import Mathlib.Data.List.Nodup
import Lineage.Kin.Relatives
import Lineage.Listing.Condition
import Lineage.Proofs.Store.Privacy
import Lineage.Store.Filter

/-!
# Stores in another order

Records are looked up by their cross-references, and each of these is there once. So the order
in which a store keeps its records decides nothing but the order in which it lists them: links
lead to the same records, the relatives of a person are found in the same order, and a list has
the same records.

> `Store.Rearranged.relatives_eq`: the relatives are the same list.
> `Store.Rearranged.list_perm`: what passes the filters of a list is the same but for its order.
-/

namespace Lineage.Store

variable {store other : Store}

/-! ## Each cross-reference once -/

theorem eq_or_mem_of_mem_put {record r : Record} {records : List Record}
    (h : r ∈ put record records) : r = record ∨ r ∈ records := by
  induction records with
  | nil => exact .inl (List.mem_singleton.mp h)
  | cons first rest ih =>
    rw [put] at h
    split at h
    · exact (List.mem_cons.mp h).imp_right (List.mem_cons_of_mem _)
    · rcases List.mem_cons.mp h with rfl | h
      · exact .inr List.mem_cons_self
      · exact (ih h).imp_right (List.mem_cons_of_mem _)

/-- Adding a record keeps the cross-references apart. -/
theorem nodup_map_xref_put {records : List Record} (record : Record)
    (h : (records.map Record.xref).Nodup) : ((put record records).map Record.xref).Nodup := by
  induction records with
  | nil => simp [put]
  | cons r rest ih =>
    rw [List.map_cons, List.nodup_cons] at h
    rw [put]
    split
    next hsame =>
      rw [List.map_cons, ← hsame, List.nodup_cons]
      exact h
    next hother =>
      rw [List.map_cons, List.nodup_cons]
      refine ⟨fun hxref => ?_, ih h.2⟩
      obtain ⟨later, hlater, hsame⟩ := List.mem_map.mp hxref
      rcases eq_or_mem_of_mem_put hlater with rfl | hlater
      · exact hother hsame.symm
      · exact h.1 (hsame ▸ List.mem_map_of_mem hlater)

/-- **A store that is filled with records has each cross-reference once.** -/
theorem nodup_map_xref_ofRecords (records : List Record) :
    ((ofRecords records).records.map Record.xref).Nodup := by
  have hfold (store : Store) (h : (store.records.map Record.xref).Nodup) :
      ((records.foldl add store).records.map Record.xref).Nodup := by
    induction records generalizing store with
    | nil => exact h
    | cons record rest ih => exact ih _ (nodup_map_xref_put record h)
  exact hfold {} .nil

/-- Where each cross-reference is there once, looking it up finds the record that has it. -/
theorem record?_eq_some_iff (hxrefs : (store.records.map Record.xref).Nodup) {xref : String}
    {record : Record} :
    store.record? xref = some record ↔ record ∈ store.records ∧ record.xref = xref := by
  constructor
  · exact fun h => ⟨mem_of_record? h, xref_of_record? h⟩
  · rintro ⟨hmem, rfl⟩
    have hsome : (store.record? record.xref).isSome := by
      rw [record?, List.find?_isSome]
      exact ⟨record, hmem, beq_self_eq_true _⟩
    obtain ⟨found, hfound⟩ := Option.isSome_iff_exists.mp hsome
    rw [hfound, List.inj_on_of_nodup_map hxrefs (mem_of_record? hfound) hmem
      (xref_of_record? hfound)]

/-- The same records and the same waiting changes, in another order, where each cross-reference is
there once. -/
structure Rearranged (store other : Store) : Prop where
  access : other.access = store.access
  records : other.records.Perm store.records
  pending : other.pending.Perm store.pending
  xrefs : (store.records.map Record.xref).Nodup

namespace Rearranged

variable (h : store.Rearranged other)

include h

/-! ## Links -/

/-- **Looking up a cross-reference finds the same record.** -/
theorem record?_eq : other.record? = store.record? := by
  have hxrefs : (other.records.map Record.xref).Nodup :=
    (h.records.map Record.xref).nodup_iff.mpr h.xrefs
  funext xref
  ext record
  rw [record?_eq_some_iff hxrefs, record?_eq_some_iff h.xrefs, h.records.mem_iff]

theorem linked_eq : other.linked = store.linked := by
  funext record tag
  rw [linked, linked, h.record?_eq]

theorem childFamilies_eq : other.childFamilies = store.childFamilies := by
  funext person
  rw [childFamilies, childFamilies, h.linked_eq]

theorem spouseFamilies_eq : other.spouseFamilies = store.spouseFamilies := by
  funext person
  rw [spouseFamilies, spouseFamilies, h.linked_eq]

theorem children_eq : other.children = store.children := by
  funext family
  rw [children, children, h.linked_eq]

theorem spouses_eq : other.spouses = store.spouses := by
  funext family
  rw [spouses, spouses, husband?, husband?, wife?, wife?, h.linked_eq]

theorem noteText?_eq : other.noteText? = store.noteText? := by
  funext xref
  rw [Store.noteText?_eq, Store.noteText?_eq, h.record?_eq]

/-! ## Relatives -/

theorem ascent_addFamily_eq : Ascent.addFamily other = Ascent.addFamily store := by
  funext limit withSiblings generation walk family
  rw [Ascent.addFamily, Ascent.addFamily, h.spouses_eq, h.children_eq]

/-- The walk up goes the same way. -/
theorem ascent_run_eq (limit : Option Int) (withSiblings : Bool) (walk : Ascent) :
    Ascent.run other limit withSiblings walk = Ascent.run store limit withSiblings walk := by
  fun_induction Ascent.run store limit withSiblings walk with
  | case1 walk hqueue =>
    rw [Ascent.run]
    split
    next => rfl
    next hnext => rw [hqueue] at hnext; cases hnext
  | case2 walk person rest hqueue generation ih =>
    rw [Ascent.run]
    split
    next hnone => rw [hqueue] at hnone; cases hnone
    next hnext =>
      rw [hqueue, List.cons.injEq] at hnext
      obtain ⟨rfl, rfl⟩ := hnext
      rw [h.ascent_addFamily_eq, h.childFamilies_eq]
      exact ih

theorem descent_addFamily_eq : Descent.addFamily other = Descent.addFamily store := by
  funext withSpouses spouse generation record found
  rw [Descent.addFamily, Descent.addFamily, h.spouses_eq, h.children_eq]

theorem descent_families_eq : Descent.families other = Descent.families store := by
  funext person generation
  rw [Descent.families, Descent.families, h.spouseFamilies_eq]

theorem descent_children_eq : Descent.children other = Descent.children store := by
  funext record
  rw [Descent.children, Descent.children, h.children_eq]

/-- The walk down goes the same way. -/
theorem descent_run_eq (limit : Option Int) (withSpouses : Bool) (work : List Descent)
    (found : List Relative) (visited : List String) :
    Descent.run other limit withSpouses work found visited =
      Descent.run store limit withSpouses work found visited := by
  fun_induction Descent.run store limit withSpouses work found visited with
  | case1 => rw [Descent.run]
  | case2 found visited xref rest hnone ih =>
    rw [Descent.run, h.record?_eq]
    split
    next => exact ih
    next hknown => rw [hnone] at hknown; cases hknown
  | case3 found visited xref rest r hknown hvisited ih =>
    rw [Descent.run, h.record?_eq]
    split
    next hnone => rw [hknown] at hnone; cases hnone
    next hfound =>
      rw [hknown, Option.some_inj] at hfound
      subst hfound
      rw [if_pos hvisited]
      exact ih
  | case4 found visited xref rest r hknown hnew ih =>
    rw [Descent.run, h.record?_eq]
    split
    next hnone => rw [hknown] at hnone; cases hnone
    next hfound =>
      rw [hknown, Option.some_inj] at hfound
      subst hfound
      rw [if_neg hnew]
      exact ih
  | case5 found visited r rest generation later hsettle ih =>
    rw [Descent.run, hsettle, h.descent_families_eq]
    exact ih
  | case6 found visited spouse generation r rest later hlimit ih =>
    rw [Descent.run, if_pos hlimit, h.descent_addFamily_eq, h.descent_children_eq]
    exact ih
  | case7 found visited spouse generation r rest later hlimit ih =>
    rw [Descent.run, if_neg hlimit, h.descent_addFamily_eq]
    exact ih

theorem addMembers_eq : other.addMembers = store.addMembers := by
  funext families found
  have hmembers : other.members = store.members := by
    funext family
    rw [members, members, h.spouses_eq, h.children_eq]
  rw [addMembers, addMembers, hmembers]

/-- **The relatives of a person are the same, in the same order.** -/
theorem relatives_eq (anchor : String) (kin : Kin) (limit : Option Int) :
    other.relatives anchor kin limit = store.relatives anchor kin limit := by
  have hascent : Ascent.ofPerson other = Ascent.ofPerson store := by
    funext limit withSiblings person found
    exact h.ascent_run_eq limit withSiblings _
  have hdescent : Descent.ofPerson other = Descent.ofPerson store := by
    funext limit withSpouses root found
    exact congrArg Prod.fst (h.descent_run_eq limit withSpouses _ _ _)
  rw [relatives, relatives, h.record?_eq, h.addMembers_eq, h.childFamilies_eq,
    h.spouseFamilies_eq, hascent, hdescent]

/-! ## Lists -/

theorem collection_perm (kind : ListKind) :
    (other.collection kind).Perm (store.collection kind) := by
  cases kind with
  | individual => exact h.records.filter _
  | family => exact h.records.filter _
  | pending => exact h.pending.filterMap _

theorem accepts_eq (filter : ListFilter) (record : Record) :
    filter.accepts other record = filter.accepts store record := by
  cases filter with
  | factDate tag bound date => rfl
  | nameContains words =>
    cases words with
    | nil => rfl
    | cons word rest => rw [ListFilter.accepts, ListFilter.accepts, h.linked_eq] <;> nofun
  | like pattern => rfl

/-- **A list has the same records.** -/
theorem list_perm (kind : ListKind) (filters : List ListFilter) :
    (other.list kind filters).Perm (store.list kind filters) := by
  have haccepts : (fun record => filters.all (·.accepts other record)) =
      fun record => filters.all (·.accepts store record) := by
    funext record
    exact congrArg filters.all (funext fun filter => h.accepts_eq filter record)
  rw [list, list, haccepts]
  exact (h.collection_perm kind).filter _

theorem holds_eq (text : String) (condition : ListCondition) :
    condition.holds other text = condition.holds store text := by
  cases condition with
  | contains pattern => rfl
  | compare path comparison value =>
    have hvalue : ListCondition.valueAt other = ListCondition.valueAt store := by
      funext path last text
      rw [ListCondition.valueAt, ListCondition.valueAt, h.noteText?_eq]
    simp only [ListCondition.holds, hvalue]

theorem satisfying_eq (conditions : List ListCondition) :
    other.satisfying conditions = store.satisfying conditions := by
  funext records
  refine congrArg (List.filter · records) (funext fun record => ?_)
  rw [privatize_congr h.access]
  exact congrArg conditions.all (funext fun condition => h.holds_eq _ condition)

end Rearranged

end Lineage.Store
