import Lineage.Proofs.Record.Facts
import Lineage.Proofs.Record.Regular
import Lineage.Proofs.Store.Privacy

/-!
# The facts that may be seen

`Store.visibleFacts` leaves facts out of a list, `Store.privatize` leaves their
lines out of a text. For a record that may be seen both come to the same. A
hidden record has no facts in its privatized text, which is its header, whereas
`Store.visibleFacts` does not ask whether the record may be seen.

> `Store.facts_privatize`: the facts that are read from the privatized text of a
> record are its visible facts, if the record may be seen itself, and else there
> are none.
-/

namespace Lineage

namespace Record

namespace Regular

variable {record : Record}

/-- Each fact of a regular record is a block of lines. -/
theorem blocks_sound (h : record.Regular) :
    ∀ block ∈ record.blocks, Fact.IsBlock block ∧ ∀ line ∈ block, Text.IsLine line := by
  intro block hblock
  refine ⟨Fact.isBlock_of_mem_blocks hblock, fun line hline => h.isLine line ?_⟩
  exact List.mem_of_mem_drop (Fact.mem_of_mem_blocks hblock hline)

theorem head?_lines (h : record.Regular) :
    (Text.lines record.text).head? = some record.header := by
  obtain ⟨-, -, first, -, hfirst, -⟩ := of_parse? h.read
  rw [header, List.headD_eq_head?_getD, hfirst, Option.getD_some]

theorem isLine_header (h : record.Regular) : Text.IsLine record.header :=
  h.isLine _ (List.mem_of_mem_head? h.head?_lines)

end Regular

end Record

namespace Store

variable {record : Record}

/-- The lines of each fact that the privatized text of a record keeps. -/
def keptBlocks (store : Store) (record : Record) : List (List String) :=
  if store.canShow record then
    record.blocks.filter fun block => store.canShowFact (.ofLines block)
  else []

theorem visibleFacts_eq (store : Store) (record : Record) :
    store.visibleFacts record =
      (record.blocks.filter fun block => store.canShowFact (.ofLines block)).map .ofLines := by
  rw [visibleFacts, Record.facts_eq, List.filter_map]
  rfl

/-- The privatized text is the header with the facts that are kept. -/
theorem privatize_eq (store : Store) (record : Record) :
    store.privatize record =
      Text.unlines (record.header :: (store.keptBlocks record).map Text.unlines) := by
  unfold keptBlocks
  cases hshown : store.canShow record with
  | true =>
    rw [privatize, hshown, if_pos rfl, if_pos rfl, visibleFacts_eq, List.map_map]
    rfl
  | false =>
    rw [privatize_of_hidden hshown, if_neg Bool.false_ne_true, List.map_nil,
      Text.unlines_singleton]

theorem keptBlocks_sound (store : Store) (h : record.Regular) :
    ∀ block ∈ store.keptBlocks record,
      Fact.IsBlock block ∧ ∀ line ∈ block, Text.IsLine line := by
  intro block hblock
  unfold keptBlocks at hblock
  split at hblock
  next => exact h.blocks_sound block (List.mem_of_mem_filter hblock)
  next => cases hblock

/-- The header and the kept facts all end plainly, so that they may be joined. -/
theorem endsPlain_of_kept (store : Store) (h : record.Regular) :
    ∀ text ∈ record.header :: (store.keptBlocks record).map Text.unlines,
      Text.EndsPlain text := by
  intro text htext
  rcases List.mem_cons.mp htext with rfl | htext
  · exact h.isLine_header.ends
  · obtain ⟨block, hblock, rfl⟩ := List.mem_map.mp htext
    obtain ⟨⟨first, rest, rfl, -⟩, hlines⟩ := store.keptBlocks_sound h block hblock
    exact Text.endsPlain_unlines (List.cons_ne_nil _ _) fun line hline => (hlines line hline).ends

/-- **The lines of a privatized text** are the header and the lines of the facts
that are kept. -/
theorem lines_privatize (store : Store) (h : record.Regular) :
    Text.lines (store.privatize record) =
      record.header :: (store.keptBlocks record).flatten := by
  have hblocks : (store.keptBlocks record).flatMap (fun block => Text.lines (Text.unlines block)) =
      (store.keptBlocks record).flatMap id :=
    List.flatMap_congr fun block hblock =>
      Text.lines_unlines_of_isLine (store.keptBlocks_sound h block hblock).2
  rw [privatize_eq, Text.lines_unlines (store.endsPlain_of_kept h), List.flatMap_cons,
    h.isLine_header.lines_eq, List.flatMap_map, hblocks, List.flatMap_id, List.singleton_append]

/-- **The facts that are read from a privatized text** are the visible facts of
the record, if it may be seen itself. -/
theorem facts_privatize (store : Store) (h : record.Regular) :
    (Record.parse? (store.privatize record)).map Record.facts =
      some (if store.canShow record then store.visibleFacts record else []) := by
  have hlines := store.lines_privatize h
  -- the header has been kept, so the text is read as the same record
  have hfirst : (Text.lines (store.privatize record)).head? = (Text.lines record.text).head? := by
    rw [hlines, h.head?_lines, List.head?_cons]
  have hend : Text.EndsPlain (store.privatize record) := by
    rw [privatize_eq]
    exact Text.endsPlain_unlines (List.cons_ne_nil _ _) (store.endsPlain_of_kept h)
  have hblocks : Record.blocks { record with text := store.privatize record } =
      store.keptBlocks record := by
    rw [Record.blocks, hlines, List.drop_one, List.tail_cons,
      Fact.blocks_flatten fun block hblock => (store.keptBlocks_sound h block hblock).1]
  rw [Record.parse?_of_header h.read hfirst hend, Option.map_some, Record.facts_eq, hblocks,
    visibleFacts_eq, keptBlocks]
  split <;> rfl

/-! ## Stores of files -/

theorem mem_of_mem_put {r : Record} {records : List Record} (h : r ∈ put record records) :
    r = record ∨ r ∈ records := by
  induction records with
  | nil => exact .inl (List.mem_singleton.mp h)
  | cons first rest ih =>
    rw [put] at h
    split at h
    · exact (List.mem_cons.mp h).imp_right (List.mem_cons_of_mem _)
    · rcases List.mem_cons.mp h with rfl | h
      · exact .inr (List.mem_cons_self ..)
      · exact (ih h).imp_right (List.mem_cons_of_mem _)

/-- A store holds no other records than those that it has been filled with. -/
theorem mem_of_mem_ofRecords {r : Record} {records : List Record}
    (h : r ∈ (ofRecords records).records) : r ∈ records := by
  have hfold : ∀ store : Store, r ∈ (records.foldl add store).records →
      r ∈ records ∨ r ∈ store.records := by
    clear h
    induction records with
    | nil => exact fun store h => .inr h
    | cons first rest ih =>
      intro store h
      rcases ih _ h with h | h
      · exact .inl (List.mem_cons_of_mem _ h)
      · rcases mem_of_mem_put h with rfl | h
        · exact .inl (List.mem_cons_self ..)
        · exact .inr h
  exact (hfold {} h).resolve_right List.not_mem_nil

/-- The records of a store that has been read from a file are regular, as long as
no line of the file ends with a carriage return. -/
theorem regular_of_ofFile {text : String} {store : Store} (h : ofFile text = .ok store)
    (hreturn : ∀ line ∈ Text.lines (Record.dropByteOrderMarks text),
      line.toList.getLast? ≠ some '\r') :
    ∀ record ∈ store.records, record.Regular := by
  cases hsplit : Record.splitFile text with
  | error e =>
    rw [ofFile, hsplit] at h
    cases h
  | ok records =>
    rw [ofFile, hsplit] at h
    cases h
    exact fun record hrecord =>
      Record.regular_of_splitFile hsplit hreturn record (mem_of_mem_ofRecords hrecord)

end Store

end Lineage
