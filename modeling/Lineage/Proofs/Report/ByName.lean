import Lineage.Proofs.Listing.Order
import Lineage.Proofs.Store.Rearranged
import Lineage.Report.Repetition

/-!
# Lists by name

Names, with the cross-references behind them, put records into an order that leaves no choice. So
sorting by name gives the same list whatever the order of the records was before, and with it
the order in which the store keeps them no longer counts for a list. Relatives are found by
following links, whose order the store has no part in.

> `sortedByName_canonical`: lists and relatives by name do not depend on the order of the store.
-/

namespace Lineage

/-! ## Sorting -/

/-- **Sorting by name forgets the order that records had.** -/
theorem sortRecords_name_eq {records other : List Record} (hxrefs : (records.map Record.xref).Nodup)
    (hperm : other.Perm records) : sortRecords "NAME" other = sortRecords "NAME" records :=
  Order.sortBy_eq_of_perm Record.nameKey SortKey.less_name_iff (Record.nodup_nameKey hxrefs) hperm

/-- Different records by name are in strict order. -/
theorem pairwise_sortRecords_name {records : List Record}
    (hxrefs : (records.map Record.xref).Nodup) :
    (sortRecords "NAME" records).Pairwise fun earlier later => earlier.nameKey < later.nameKey :=
  Order.pairwise_lt_sortBy Record.nameKey SortKey.less_name_iff (Record.nodup_nameKey hxrefs)

theorem sortRelatives_name (relatives : List Relative) :
    sortRelatives "NAME" relatives =
      Order.sortBy (fun a b => SortKey.name.less a.record b.record) relatives :=
  rfl

theorem Relative.nodup_nameKey {relatives : List Relative}
    (h : ((relatives.map Relative.record).map Record.xref).Nodup) :
    (relatives.map fun relative => relative.record.nameKey).Nodup := by
  have hkeys := Record.nodup_nameKey h
  rw [List.map_map] at hkeys
  exact hkeys

/-- **Sorting by name forgets the order that relatives had.** -/
theorem sortRelatives_name_eq {relatives other : List Relative}
    (hxrefs : ((relatives.map Relative.record).map Record.xref).Nodup)
    (hperm : other.Perm relatives) :
    sortRelatives "NAME" other = sortRelatives "NAME" relatives := by
  rw [sortRelatives_name, sortRelatives_name]
  exact Order.sortBy_eq_of_perm (fun relative : Relative => relative.record.nameKey)
    (fun a b => SortKey.less_name_iff a.record b.record) (Relative.nodup_nameKey hxrefs) hperm

/-- Different relatives by name are in strict order. -/
theorem pairwise_sortRelatives_name {relatives : List Relative}
    (hxrefs : ((relatives.map Relative.record).map Record.xref).Nodup) :
    (sortRelatives "NAME" relatives).Pairwise fun earlier later =>
      earlier.record.nameKey < later.record.nameKey := by
  rw [sortRelatives_name]
  exact Order.pairwise_lt_sortBy (fun relative : Relative => relative.record.nameKey)
    (fun a b => SortKey.less_name_iff a.record b.record) (Relative.nodup_nameKey hxrefs)

theorem ListKind.eq_of_ofName?_pending {name : String} (h : ofName? name = some pending) :
    name = "pending" := by
  unfold ofName? at h
  split at h
  · cases h
  · cases h
  · rfl
  · cases h

namespace Report

variable {store other : Store}

/-! ## Blocks -/

/-- What a list takes from a collection has the cross-references of it. -/
theorem nodup_map_xref_list {kind : ListKind} {filters : List ListFilter}
    {conditions : List ListCondition} (h : ((store.collection kind).map Record.xref).Nodup) :
    ((store.satisfying conditions (store.list kind filters)).map Record.xref).Nodup :=
  h.sublist ((List.filter_sublist.trans List.filter_sublist).map Record.xref)

/-- The records of a list by name do not depend on the order of the store. -/
theorem recordsOf_name_eq (h : store.Rearranged other) {scope : Scope} (active : Active)
    {attrs : Attributes} (hkey : settingOf scope attrs "sortby" "NAME" = "NAME")
    (hpending : attrs.getD "list" "individual" = "pending" →
      ((store.collection .pending).map Record.xref).Nodup) :
    recordsOf other scope active attrs = recordsOf store scope active attrs := by
  unfold recordsOf
  dsimp only
  split
  next => rfl
  next kind hkind =>
    have hxrefs : ((store.collection kind).map Record.xref).Nodup := by
      cases kind with
      | individual => exact h.xrefs.sublist (List.filter_sublist.map Record.xref)
      | family => exact h.xrefs.sublist (List.filter_sublist.map Record.xref)
      | pending => exact hpending (ListKind.eq_of_ofName?_pending hkind)
    rw [hkey, h.satisfying_eq]
    refine congrArg Except.ok (sortRecords_name_eq (nodup_map_xref_list hxrefs) ?_)
    exact (h.list_perm kind _).filter _

/-- The relatives of a person do not depend on it by any key. -/
theorem relativesOf_eq (h : store.Rearranged other) (scope : Scope) (active : Active)
    (attrs : Attributes) :
    relativesOf other scope active attrs = relativesOf store scope active attrs := by
  have hrelatives : other.relatives = store.relatives := by
    funext anchor kin limit
    exact h.relatives_eq anchor kin limit
  rw [relativesOf, relativesOf, h.record?_eq, hrelatives]

/-- **Sorting by name leaves no choice.** Of records with different cross-references it gives the
same list in whatever order they come, all of them, in the strict order of their names and
cross-references; so it does of relatives; and what a block is repeated for that lists records
or relatives by name does not depend on the order in which the store has its records. Only
changes that wait may be about the same record more than once. -/
theorem sortedByName_canonical :
    (∀ records other : List Record, (records.map Record.xref).Nodup → other.Perm records →
      sortRecords "NAME" other = sortRecords "NAME" records ∧
      (sortRecords "NAME" records).Perm records ∧
      (sortRecords "NAME" records).Pairwise fun earlier later =>
        earlier.nameKey < later.nameKey) ∧
    (∀ relatives other : List Relative,
      ((relatives.map Relative.record).map Record.xref).Nodup → other.Perm relatives →
      sortRelatives "NAME" other = sortRelatives "NAME" relatives ∧
      (sortRelatives "NAME" relatives).Perm relatives ∧
      (sortRelatives "NAME" relatives).Pairwise fun earlier later =>
        earlier.record.nameKey < later.record.nameKey) ∧
    ∀ (store other : Store) (scope : Scope) (active : Active) (attrs : Attributes),
      store.Rearranged other →
      relativesOf other scope active attrs = relativesOf store scope active attrs ∧
      (settingOf scope attrs "sortby" "NAME" = "NAME" →
        (attrs.getD "list" "individual" = "pending" →
          ((store.collection .pending).map Record.xref).Nodup) →
        recordsOf other scope active attrs = recordsOf store scope active attrs) := by
  refine ⟨fun records other hxrefs hperm => ?_, fun relatives other hxrefs hperm => ?_,
    fun store other scope active attrs hother => ?_⟩
  · exact ⟨sortRecords_name_eq hxrefs hperm, Order.perm_sortBy _ records,
      pairwise_sortRecords_name hxrefs⟩
  · exact ⟨sortRelatives_name_eq hxrefs hperm, Order.perm_sortBy _ relatives,
      pairwise_sortRelatives_name hxrefs⟩
  · exact ⟨relativesOf_eq hother scope active attrs, recordsOf_name_eq hother active⟩

/-- A store with people of the same name, which is written in different ways. -/
def namesakes : Store :=
  .ofRecords
    [⟨"I1", .individual, "0 @I1@ INDI\n1 NAME Zoe /ek/\n1 FAMS @F1@"⟩,
      ⟨"I2", .individual, "0 @I2@ INDI\n1 NAME Bo /EK/\n1 FAMC @F1@"⟩,
      ⟨"I3", .individual, "0 @I3@ INDI\n1 NAME bo /Ek/"⟩,
      ⟨"F1", .family, "0 @F1@ FAM\n1 WIFE @I1@\n1 CHIL @I2@"⟩]

/-- The same store, filled the other way round. -/
def namesakesReversed : Store :=
  { namesakes with records := namesakes.records.reverse }

theorem sortedByName_canonical_namesakes :
    (namesakes.records.map Record.xref).Nodup ∧
    settingOf {} {} "sortby" "NAME" = "NAME" ∧
    namesakes.Rearranged namesakesReversed ∧
    sortRecords "NAME" namesakesReversed.records =
      sortRecords "NAME" namesakes.records ∧
    sortRelatives "NAME" (namesakesReversed.records.map (⟨·, none⟩)) =
      sortRelatives "NAME" (namesakes.records.map (⟨·, none⟩)) ∧
    relativesOf namesakesReversed {} { text := "0 @I2@ INDI" } {} =
      relativesOf namesakes {} { text := "0 @I2@ INDI" } {} ∧
    recordsOf namesakesReversed {} {} {} = recordsOf namesakes {} {} {} := by
  have hxrefs : (namesakes.records.map Record.xref).Nodup := Store.nodup_map_xref_ofRecords _
  have hkey : settingOf {} {} "sortby" "NAME" = "NAME" := by decide +kernel
  have hperm : namesakesReversed.records.Perm namesakes.records := List.reverse_perm _
  have hother : namesakes.Rearranged namesakesReversed := ⟨rfl, hperm, .refl _, hxrefs⟩
  obtain ⟨hrecords, hrelatives, hblocks⟩ := sortedByName_canonical
  refine ⟨hxrefs, hkey, hother, (hrecords _ _ hxrefs hperm).1, ?_,
    (hblocks _ _ {} { text := "0 @I2@ INDI" } {} hother).1,
    (hblocks _ _ {} {} {} hother).2 hkey (by decide +kernel)⟩
  exact (hrelatives _ _ (by decide) (hperm.map _)).1

/-- People of the same name come in the order of their cross-references. -/
example : (sortRecords "NAME" (namesakes.ofKind .individual)).map Record.xref =
    ["I2", "I3", "I1"] := by decide +kernel

end Report

end Lineage
