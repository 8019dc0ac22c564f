import Lineage.Proofs.Kin.Relatives

/-!
# What was found, read back

The relatives that were found are a list that is read by cross-reference. The last one
put among them is read back, and putting a relative changes nothing for the others.
-/

namespace Lineage

namespace Relative

variable {store : Store} {relative r : Relative} {found : List Relative} {generation : Int}
  {records : List Record} {xref : String}

theorem find?_cons (relative : Relative) (found : List Relative) (xref : String) :
    find? xref (relative :: found) =
      if relative.record.xref = xref then some relative else find? xref found := by
  rw [find?, List.find?_cons]
  by_cases h : relative.record.xref = xref
  · rw [if_pos h, beq_iff_eq.mpr h]
  · rw [if_neg h, beq_eq_false_iff_ne.mpr h]
    rfl

/-- **A relative that was put is read back**, and nobody else has changed. -/
theorem find?_put (relative : Relative) (found : List Relative) (xref : String) :
    find? xref (put relative found) =
      if relative.record.xref = xref then some relative else find? xref found := by
  induction found with
  | nil => exact find?_cons relative [] xref
  | cons r rest ih =>
    rw [put]
    by_cases hr : r.record.xref = relative.record.xref
    · rw [if_pos hr, find?_cons, find?_cons, hr]
      by_cases h : relative.record.xref = xref
      · rw [if_pos h, if_pos h]
      · rw [if_neg h, if_neg h, if_neg h]
    · rw [if_neg hr, find?_cons, find?_cons, ih]
      by_cases h : r.record.xref = xref
      · have hne : relative.record.xref ≠ xref := fun he => hr (h.trans he.symm)
        rw [if_pos h, if_neg hne, if_pos h]
      · rw [if_neg h, if_neg h]

/-- Putting back what was read changes nothing. -/
theorem put_of_find? (h : find? relative.record.xref found = some relative) :
    put relative found = found := by
  induction found with
  | nil => cases h
  | cons r rest ih =>
    rw [find?_cons] at h
    rw [put]
    by_cases hr : r.record.xref = relative.record.xref
    · rw [if_pos hr, Option.some_inj] at h
      rw [if_pos hr, h]
    · rw [if_neg hr] at h
      rw [if_neg hr, ih h]

theorem eq_or_mem_of_mem_put (h : r ∈ put relative found) : r = relative ∨ r ∈ found := by
  induction found with
  | nil => exact .inl (List.mem_singleton.mp h)
  | cons s rest ih =>
    rw [put] at h
    by_cases hs : s.record.xref = relative.record.xref
    · rw [if_pos hs, List.mem_cons] at h
      exact h.imp_right (List.mem_cons_of_mem s)
    · rw [if_neg hs, List.mem_cons] at h
      rcases h with rfl | h
      · exact .inr List.mem_cons_self
      · exact (ih h).imp_right (List.mem_cons_of_mem s)

theorem putAll_cons (generation : Int) (record : Record) (records : List Record)
    (found : List Relative) :
    putAll generation (record :: records) found =
      putAll generation records (put ⟨record, some generation⟩ found) :=
  rfl

theorem putAll_append (generation : Int) (records more : List Record) (found : List Relative) :
    putAll generation (records ++ more) found =
      putAll generation more (putAll generation records found) :=
  List.foldl_append

theorem mem_or_eq_of_mem_putAll (h : r ∈ putAll generation records found) :
    r ∈ found ∨ ∃ record ∈ records, r = ⟨record, some generation⟩ := by
  induction records generalizing found with
  | nil => exact .inl h
  | cons record rest ih =>
    rw [putAll_cons] at h
    rcases ih h with h | ⟨s, hs, rfl⟩
    · rcases eq_or_mem_of_mem_put h with rfl | h
      · exact .inr ⟨record, List.mem_cons_self, rfl⟩
      · exact .inl h
    · exact .inr ⟨s, List.mem_cons_of_mem _ hs, rfl⟩

/-- **Those that were put in a generation are read back in it**, and nobody else has changed. -/
theorem find?_putAll (hrecords : ∀ r ∈ records, store.Listed r) {record : Record}
    (hrecord : store.Listed record) :
    find? record.xref (putAll generation records found) =
      if record ∈ records then some ⟨record, some generation⟩ else find? record.xref found := by
  induction records generalizing found with
  | nil => rw [if_neg List.not_mem_nil]; rfl
  | cons r rest ih =>
    rw [List.forall_mem_cons] at hrecords
    rw [putAll_cons, ih hrecords.2]
    by_cases hrest : record ∈ rest
    · rw [if_pos hrest, if_pos (List.mem_cons_of_mem _ hrest)]
    · rw [if_neg hrest, find?_put]
      by_cases hxref : r.xref = record.xref
      · have hsame : r = record := hrecords.1.eq_of_xref hrecord hxref
        rw [if_pos hxref, hsame, if_pos List.mem_cons_self]
      · have hne : record ≠ r := fun h => hxref (h ▸ rfl)
        have hnot : record ∉ r :: rest := fun h => (List.mem_cons.mp h).elim hne hrest
        rw [if_neg hxref, if_neg hnot]

/-- A record that was found is read back with its generation. -/
theorem exists_find? (hfound : ∀ r ∈ found.map Relative.record, store.Listed r) {record : Record}
    (h : record ∈ found.map Relative.record) :
    ∃ relative ∈ found, relative.record = record ∧ find? record.xref found = some relative := by
  obtain ⟨r, hr, rfl⟩ := List.mem_map.mp h
  obtain ⟨relative, hrelative⟩ : ∃ relative, find? r.record.xref found = some relative := by
    rw [← Option.isSome_iff_exists, find?, List.find?_isSome]
    exact ⟨r, hr, beq_self_eq_true _⟩
  have hmem : relative ∈ found := List.mem_of_find?_eq_some hrelative
  have hxref : relative.record.xref = r.record.xref := by simpa using List.find?_some hrelative
  have hsame := (hfound _ (List.mem_map_of_mem hmem)).eq_of_xref (hfound _ h) hxref
  exact ⟨relative, hmem, hsame, hrelative⟩

/-- Where each cross-reference stands once, whoever was found is read back. -/
theorem find?_of_mem (hnodup : (found.map fun r => r.record.xref).Nodup) (h : relative ∈ found) :
    find? relative.record.xref found = some relative := by
  induction found with
  | nil => cases h
  | cons r rest ih =>
    rw [List.map_cons, List.nodup_cons] at hnodup
    rw [find?_cons]
    rcases List.mem_cons.mp h with rfl | h
    · rw [if_pos rfl]
    · have hne : r.record.xref ≠ relative.record.xref := by
        intro he
        exact hnodup.1 (he ▸ List.mem_map_of_mem (f := fun r : Relative => r.record.xref) h)
      rw [if_neg hne, ih hnodup.2 h]

end Relative

end Lineage
