import Mathlib.Data.List.Nodup
import Mathlib.Data.Prod.Lex
import Mathlib.Data.String.Basic
import Lineage.Listing.Order
import Lineage.Proofs.Order.Insertion

/-!
# What a list is sorted to

Dates are compared by a test that is no order: what has no date is less than what has one, which
counts as equal to it, and two dates may be equal to a third without being equal. So a sorted list
need not be in order. But what has no date is less than every date, and nothing is less than it,
which is enough for it to come first. Names, with the cross-references behind them, are in a
strict order.

> `sortRecords_factDate_undated_first`: records without a date come first, as they stood.
> `SortKey.less_name_iff`: one name comes before another when its key is smaller.
-/

namespace Lineage

/-! ## Dates -/

namespace Date

/-- Whether a value says nothing about days: there is no calendar date in it, nor a qualifier
that asks for the day before or after one. -/
def isUndated (date : Date) : Bool :=
  date.first.isNone && date.second.isNone &&
    date.qualifier != some .before && date.qualifier != some .after

variable {a b : Date}

theorem range_of_isUndated (h : a.isUndated = true) : a.range = (0, 0) := by
  simp only [isUndated, Bool.and_eq_true, Option.isNone_iff_eq_none, bne_iff_ne] at h
  obtain ⟨⟨⟨hfirst, hsecond⟩, hbefore⟩, hafter⟩ := h
  unfold range
  split
  next hqualifier _ => exact absurd hqualifier hbefore
  next hqualifier _ => exact absurd hqualifier hafter
  next => simp [firstDay, lastDay, hfirst, hsecond]

theorem isUndated_parse_empty : (parse "").isUndated = true := by decide +kernel

/-- What has no date comes before what starts in the time that is counted. -/
theorem compare_undated_eq_lt_iff (h : a.isUndated = true) :
    compare a b = .lt ↔ 0 < b.range.1 := by
  have hrange := range_of_isUndated h
  unfold compare
  dsimp only
  rw [hrange]
  split_ifs <;> simp <;> omega

/-- **What has a date that counts is equal to what has none**, although that is less. -/
theorem compare_undated_eq_eq (h : b.isUndated = true) (hstart : 0 < a.range.1)
    (hend : 0 < a.range.2) : compare a b = .eq := by
  have hrange := range_of_isUndated h
  unfold compare
  dsimp only
  rw [hrange]
  split_ifs <;> first | omega | rfl

end Date

namespace Record

variable {record : Record} {tag : String}

/-- A record has no date for a fact that it does not have, or that has no date line or an empty
one. -/
theorem isUndated_factDate (h : ∀ fact, record.fact? tag = some fact →
    Leveled.value "DATE" 2 fact.text (fun _ => none) = "") :
    (record.factDate tag).isUndated = true := by
  rw [factDate]
  cases hfact : record.fact? tag with
  | none => exact Date.isUndated_parse_empty
  | some fact =>
    dsimp only
    rw [Fact.date, h fact hfact]
    exact Date.isUndated_parse_empty

end Record

namespace SortKey

theorem ofName?_factDate {tag : String} (h : tag ∈ ["BIRT", "DEAT", "MARR"]) :
    ofName? (tag ++ ":DATE") = some (factDate tag) := by
  simp only [List.mem_cons, List.not_mem_nil, or_false] at h
  rcases h with rfl | rfl | rfl <;> decide

variable {tag : String} {a b : Record}

/-- A record without a date comes before those whose date starts in the time that is counted. -/
theorem less_factDate_of_isUndated (h : (a.factDate tag).isUndated = true) :
    (factDate tag).less a b = true ↔ 0 < (b.factDate tag).range.1 := by
  rw [less, compare, beq_iff_eq]
  exact Date.compare_undated_eq_lt_iff h

/-- No record with such a date comes before one without. -/
theorem less_factDate_eq_false (h : (b.factDate tag).isUndated = true)
    (hstart : 0 < (a.factDate tag).range.1) (hend : 0 < (a.factDate tag).range.2) :
    (factDate tag).less a b = false := by
  rw [less, compare, Date.compare_undated_eq_eq h hstart hend]
  rfl

end SortKey

/-- **Records without a date come first**, in the order that they had, and behind them those with
one, provided that these dates lie in the time that is counted. Without a date are all records that
lack the fact or its date line. -/
theorem sortRecords_factDate_undated_first {tag : String} (htag : tag ∈ ["BIRT", "DEAT", "MARR"])
    {records : List Record}
    (hdates : ∀ record ∈ records, (record.factDate tag).isUndated = true ∨
      0 < (record.factDate tag).range.1 ∧ 0 < (record.factDate tag).range.2) :
    (sortRecords (tag ++ ":DATE") records).Perm records ∧
    (∃ dated, dated.Perm (records.filter fun record => !(record.factDate tag).isUndated) ∧
      sortRecords (tag ++ ":DATE") records =
        records.filter (fun record => (record.factDate tag).isUndated) ++ dated) ∧
    ∀ record : Record, (∀ fact, record.fact? tag = some fact →
      Leveled.value "DATE" 2 fact.text (fun _ => none) = "") →
      (record.factDate tag).isUndated = true := by
  have hless : ∀ a ∈ records, ∀ b ∈ records, (a.factDate tag).isUndated = true →
      (SortKey.factDate tag).less a b = !(b.factDate tag).isUndated := by
    intro a _ b hb hundated
    have hless := @SortKey.less_factDate_of_isUndated tag a b hundated
    cases hlater : (b.factDate tag).isUndated with
    | true =>
      rw [Date.range_of_isUndated hlater] at hless
      simpa using hless
    | false =>
      have hcounted := (hdates b hb).resolve_left (by simp [hlater])
      exact hless.mpr hcounted.1
  have hnot : ∀ a ∈ records, ∀ b ∈ records, (a.factDate tag).isUndated = false →
      (b.factDate tag).isUndated = true → (SortKey.factDate tag).less a b = false := by
    intro a ha b _ hdated hundated
    have hcounted := (hdates a ha).resolve_left (by simp [hdated])
    exact SortKey.less_factDate_eq_false hundated hcounted.1 hcounted.2
  rw [sortRecords, SortKey.ofName?_factDate htag]
  exact ⟨Order.perm_sortBy _ records,
    ⟨_, Order.perm_sortBy _ _, Order.sortBy_eq_append hless hnot⟩,
    fun _ => Record.isUndated_factDate⟩

/-- Four people, two of them without a date of birth. -/
def Record.births : List Record :=
  [⟨"I1", .individual, "0 @I1@ INDI\n1 BIRT\n2 DATE 1905"⟩,
    ⟨"I2", .individual, "0 @I2@ INDI\n1 BIRT Y"⟩,
    ⟨"I3", .individual, "0 @I3@ INDI\n1 BIRT\n2 DATE 1900"⟩,
    ⟨"I4", .individual, "0 @I4@ INDI"⟩]

theorem sortRecords_factDate_undated_first_births :
    "BIRT" ∈ ["BIRT", "DEAT", "MARR"] ∧
    (∀ record ∈ Record.births, (record.factDate "BIRT").isUndated = true ∨
      0 < (record.factDate "BIRT").range.1 ∧ 0 < (record.factDate "BIRT").range.2) ∧
    ∃ dated : List Record, (dated.map Record.xref).Perm ["I1", "I3"] ∧
      (sortRecords ("BIRT" ++ ":DATE") Record.births).map Record.xref =
        ["I2", "I4"] ++ dated.map Record.xref := by
  have htag : "BIRT" ∈ ["BIRT", "DEAT", "MARR"] := by decide
  -- evaluated together, so that each date is read once
  obtain ⟨hdates, hundated, hothers⟩ :
      (∀ record ∈ Record.births, (record.factDate "BIRT").isUndated = true ∨
        0 < (record.factDate "BIRT").range.1 ∧ 0 < (record.factDate "BIRT").range.2) ∧
      (Record.births.filter fun record => (record.factDate "BIRT").isUndated).map Record.xref =
        ["I2", "I4"] ∧
      (Record.births.filter fun record => !(record.factDate "BIRT").isUndated).map Record.xref =
        ["I1", "I3"] := by decide +kernel
  obtain ⟨-, ⟨dated, hperm, hsorted⟩, -⟩ := sortRecords_factDate_undated_first htag hdates
  refine ⟨htag, hdates, dated, ?_, ?_⟩
  · exact hothers ▸ hperm.map Record.xref
  · rw [hsorted, List.map_append]
    exact congrArg (· ++ _) hundated

/-- A qualifier without a date is no date either, but it asks for the day before: the order of
such records is not kept. -/
example :
    sortRecords "BIRT:DATE" [⟨"I1", .individual, "0 @I1@ INDI"⟩,
      ⟨"I2", .individual, "0 @I2@ INDI\n1 BIRT\n2 DATE BEF unknown"⟩] =
    [⟨"I2", .individual, "0 @I2@ INDI\n1 BIRT\n2 DATE BEF unknown"⟩,
      ⟨"I1", .individual, "0 @I1@ INDI"⟩] := by decide +kernel

/-! ## Names -/

/-- What a record is sorted by with the key of names. -/
def Record.nameKey (record : Record) : String ×ₗ String :=
  toLex (Text.lower record.sortName, record.xref)

theorem SortKey.lexicographic_eq_lt_iff {first second : Ordering} :
    lexicographic first second = .lt ↔ first = .lt ∨ first = .eq ∧ second = .lt := by
  cases first <;> simp [lexicographic]

/-- **Names are in a strict order**, which the cross-references decide where they are the same. -/
theorem SortKey.less_name_iff (a b : Record) : name.less a b = true ↔ a.nameKey < b.nameKey := by
  rw [less, beq_iff_eq, compare, lexicographic_eq_lt_iff, compareOfLessAndEq_eq_lt,
    compareOfLessAndEq_eq_lt, compareOfLessAndEq_eq_eq le_refl not_le, Record.nameKey,
    Record.nameKey, Prod.Lex.toLex_lt_toLex]

theorem Record.nodup_nameKey {records : List Record} (h : (records.map Record.xref).Nodup) :
    (records.map Record.nameKey).Nodup := by
  refine .of_map (fun key => (ofLex key).2) ?_
  rw [List.map_map]
  exact h

end Lineage
