import Mathlib.Data.List.Forall2
import Lineage.Store.Basic

/-!
# Stores that a reader cannot tell apart

A reader may not see all records of a store. Where a record may be seen it is
there as a whole; of a record that is hidden its cross-reference and its kind
remain, its header line, which is what the privatized text of the record is
reduced to, and of a note its text, which `Store.noteText?` gives without
asking who reads.

`Record.Alike` relates records that are the same or both hidden, and
`Record.Indistinct` asks in addition that what remains of hidden records is
the same. `Store.Matches` extends such a relation to stores. The results of
this file are that indistinct stores give the same answers:

> `Store.Matches.privatize?_eq`: what may be seen of the record with a
> cross-reference is the same in both stores,

and the same is true of the texts of notes and of whether a record may be seen.
-/

namespace Lineage

namespace Record

/-- The first line of a record. -/
def header (record : Record) : String :=
  (Text.lines record.text).headD ""

/-- The text of a note: the value on its header line and the continuation
lines. -/
def noteText (record : Record) : String :=
  Text.trim ((Text.splitUpTo ' ' 4 record.header)[3]?.getD "") ++
    Leveled.continuation 1 record.text

/-- Two records with the same cross-reference and kind that are the same
record or may both not be seen. -/
structure Alike (level : AccessLevel) (r r' : Record) : Prop where
  xref : r.xref = r'.xref
  kind : r.kind = r'.kind
  same_or_hidden : r = r' ∨
    level.allows r.restriction = false ∧ level.allows r'.restriction = false

/-- Two records that a reader cannot tell apart: they are alike, and so is what
remains of them when they are hidden. -/
structure Indistinct (level : AccessLevel) (r r' : Record) : Prop extends
    Alike level r r' where
  header : r.header = r'.header
  noteText : r.kind = .note → r.noteText = r'.noteText

/-- Of two records that are alike, either both may be seen or none. -/
theorem Alike.allows_eq {level : AccessLevel} {r r' : Record} (h : Alike level r r') :
    level.allows r'.restriction = level.allows r.restriction := by
  obtain rfl | ⟨hr, hr'⟩ := h.same_or_hidden
  · rfl
  · rw [hr, hr']

/-- Alike records that may be seen are the same record. -/
theorem Alike.eq_of_allows {level : AccessLevel} {r r' : Record} (h : Alike level r r')
    (hr : level.allows r.restriction = true) : r' = r := by
  obtain rfl | ⟨hidden, -⟩ := h.same_or_hidden
  · rfl
  · rw [hidden] at hr
    cases hr

end Record

namespace Store

/-! ## What depends on the level of access alone -/

theorem canShow_congr {store store' : Store} (h : store'.access = store.access)
    (record : Record) : store'.canShow record = store.canShow record := by
  rw [canShow, canShow, h]

theorem privatize_congr {store store' : Store} (h : store'.access = store.access)
    (record : Record) : store'.privatize record = store.privatize record := by
  have hfacts : store'.visibleFacts record = store.visibleFacts record := by
    unfold visibleFacts canShowFact
    rw [h]
  rw [privatize, privatize, canShow_congr h, hfacts]

/-- A record that may not be seen is reduced to its header line. -/
theorem privatize_of_hidden {store : Store} {record : Record}
    (h : store.canShow record = false) : store.privatize record = record.header := by
  rw [privatize, h]
  rfl

/-- The text of a note, by its record. -/
theorem noteText?_eq (store : Store) (xref : String) :
    store.noteText? xref =
      (store.record? xref).bind fun note =>
        if note.kind = .note then some note.noteText else none := by
  rw [noteText?]
  cases store.record? xref with
  | none => rfl
  | some note => rfl

/-! ## Related stores -/

/-- Two stores that are read with the same level of access, and whose records
are related one by one. -/
structure Matches (R : AccessLevel → Record → Record → Prop) (store store' : Store) : Prop where
  access : store'.access = store.access
  records : List.Forall₂ (R store.access) store.records store'.records

namespace Matches

variable {store store' : Store}

/-- Looking up a cross-reference finds nothing in both of two indistinct stores,
or it finds indistinct records. -/
theorem record?_cases (h : Matches Record.Indistinct store store') (xref : String) :
    store.record? xref = none ∧ store'.record? xref = none ∨
      ∃ r r', store.record? xref = some r ∧ store'.record? xref = some r' ∧
        Record.Indistinct store.access r r' := by
  have hrecords := h.records
  unfold record?
  generalize store.records = records, store'.records = records' at hrecords ⊢
  induction hrecords with
  | nil => exact Or.inl ⟨rfl, rfl⟩
  | @cons r r' rest rest' hr _ ih =>
    rw [List.find?_cons, List.find?_cons, ← hr.xref]
    cases r.xref == xref with
    | true => exact Or.inr ⟨r, r', rfl, rfl, hr⟩
    | false => exact ih

theorem canShow_eq (h : Matches Record.Indistinct store store') {r r' : Record}
    (hr : Record.Indistinct store.access r r') : store'.canShow r' = store.canShow r := by
  rw [canShow_congr h.access]
  exact hr.allows_eq

theorem canShowName_eq (h : Matches Record.Indistinct store store') {r r' : Record}
    (hr : Record.Indistinct store.access r r') : store'.canShowName r' = store.canShowName r :=
  h.canShow_eq hr

/-- What may be seen of indistinct records is the same text. -/
theorem privatize_eq (h : Matches Record.Indistinct store store') {r r' : Record}
    (hr : Record.Indistinct store.access r r') : store'.privatize r' = store.privatize r := by
  cases hshown : store.canShow r with
  | true => rw [hr.eq_of_allows hshown, privatize_congr h.access]
  | false =>
    have hshown' : store'.canShow r' = false := by
      rw [h.canShow_eq hr, hshown]
    rw [privatize_of_hidden hshown, privatize_of_hidden hshown', hr.header]

/-- **What may be seen of the record with a cross-reference is the same text in
indistinct stores.** -/
theorem privatize?_eq (h : Matches Record.Indistinct store store') (xref : String) :
    (store'.record? xref).map store'.privatize = (store.record? xref).map store.privatize := by
  obtain ⟨hnone, hnone'⟩ | ⟨r, r', hr, hr', hrel⟩ := h.record?_cases xref
  · rw [hnone, hnone']
    rfl
  · rw [hr, hr']
    exact congrArg some (h.privatize_eq hrel)

/-- The texts of notes are the same in indistinct stores. -/
theorem noteText?_eq (h : Matches Record.Indistinct store store') :
    store'.noteText? = store.noteText? := by
  funext xref
  rw [Store.noteText?_eq, Store.noteText?_eq]
  obtain ⟨hnone, hnone'⟩ | ⟨r, r', hr, hr', hrel⟩ := h.record?_cases xref
  · rw [hnone, hnone']
  · rw [hr, hr', Option.bind_some, Option.bind_some, ← hrel.kind]
    split
    next hnote => rw [hrel.noteText hnote]
    next => rfl

end Matches

end Store

end Lineage
