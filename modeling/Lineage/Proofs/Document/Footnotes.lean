import Mathlib.Data.List.Nodup
import Lineage.Proofs.Document.Nesting
import Lineage.Proofs.Text.Blank

/-!
# Footnotes and their table

A footnote is registered when it ends, and its number is written into a mark
that has been filled until then. Text goes to whatever element is being filled,
so a mark that has its number already might still be written to, by a cell that
ends inside of the footnote or by what comes after it.

This does not happen. `Cited` is the invariant: a footnote is placed only when
it is closed, and the element that is being filled is a footnote only as long as
that one is open. So the text of a placed mark is the one that was registered.

> `footnotes_of_mem_history`: at any time of a run the table is numbered in
> order and without repeats, it has only grown, and all placed marks agree with
> it.
-/

namespace Lineage

/-! ## The table -/

namespace FootnoteTable

/-- A table in order: entries have their place as number, and a link made from
it; their texts are trimmed, and no two of them are the same. -/
structure Sound (table : FootnoteTable) : Prop where
  numbered : ∀ (i : Nat) (entry : FootnoteEntry), table.entries[i]? = some entry →
    entry.num = i + 1 ∧ entry.link = linkFor (i + 1)
  trimmed : ∀ entry ∈ table.entries, Text.trim entry.text = entry.text
  distinct : (table.entries.map FootnoteEntry.text).Nodup

/-- Whether a mark is that of an entry: it has the number and the link of the
entry, and its text, once trimmed. -/
def Cites (table : FootnoteTable) (mark : FootnoteMark) : Prop :=
  1 ≤ mark.num ∧ mark.num ≤ table.entries.length ∧
    ∃ entry, table.entries[mark.num - 1]? = some entry ∧
      entry.num = mark.num ∧ entry.link = mark.link ∧ entry.text = Text.trim mark.text

variable {table : FootnoteTable}

theorem sound_empty : Sound {} where
  numbered i entry h := by cases h
  trimmed entry h := by cases h
  distinct := .nil

/-- What registering a text does: either the text is there already, or it gets
an entry at the end of the table. -/
theorem register_cases (table : FootnoteTable) (text style : String) :
    (∃ entry ∈ table.entries, entry.text = Text.trim text ∧
        table.register text style = (entry, table)) ∨
      (Text.trim text ∉ table.entries.map FootnoteEntry.text ∧
        ∃ entry : FootnoteEntry, entry.num = table.entries.length + 1 ∧
          entry.link = linkFor (table.entries.length + 1) ∧ entry.text = Text.trim text ∧
          table.register text style = (entry, ⟨table.entries ++ [entry]⟩)) := by
  unfold register
  dsimp only
  cases hfound : table.entries.find? (·.text == Text.trim text) with
  | some entry =>
    have htext : entry.text = Text.trim text := by simpa using List.find?_some hfound
    exact .inl ⟨entry, List.mem_of_find?_eq_some hfound, htext, rfl⟩
  | none =>
    refine .inr ⟨?_, _, rfl, rfl, rfl, rfl⟩
    rintro hmem
    obtain ⟨entry, hentry, htext⟩ := List.mem_map.mp hmem
    have hne := List.find?_eq_none.mp hfound entry hentry
    exact hne (beq_iff_eq.mpr htext)

/-- Entries are only ever appended. -/
theorem entries_prefix_register (table : FootnoteTable) (text style : String) :
    table.entries <+: (table.register text style).2.entries := by
  rcases table.register_cases text style with ⟨_, _, _, h⟩ | ⟨_, entry, _, _, _, h⟩
  · have hsame : (table.register text style).2.entries = table.entries := by rw [h]
    exact hsame.symm ▸ List.prefix_refl _
  · rw [h]
    exact List.prefix_append _ _

theorem Sound.register (h : table.Sound) (text style : String) :
    (table.register text style).2.Sound := by
  rcases table.register_cases text style with ⟨_, _, _, hr⟩ | ⟨hnew, entry, hnum, hlink, htext, hr⟩
  · rw [hr]
    exact h
  · rw [hr]
    refine ⟨?_, ?_, ?_⟩
    · intro i e he
      rcases Nat.lt_or_ge i table.entries.length with hi | hi
      · rw [List.getElem?_append_left hi] at he
        exact h.numbered i e he
      · -- the new entry has the number of its place
        rw [List.getElem?_append_right hi, List.getElem?_singleton] at he
        split at he
        next hzero =>
          cases he
          have hplace : i = table.entries.length := by omega
          rw [hplace]
          exact ⟨hnum, hlink⟩
        next => cases he
    · intro e he
      rcases List.mem_append.mp he with he | he
      · exact h.trimmed e he
      · rw [List.mem_singleton.mp he, htext, Text.trim_trim]
    · rw [List.map_append, List.map_singleton, htext]
      exact List.nodup_append_comm.mp (List.nodup_cons.mpr ⟨hnew, h.distinct⟩)

/-- The entry that a text gets is in the table, at the place of its number. -/
theorem Sound.getElem?_register (h : table.Sound) (text style : String) :
    ∃ i, (table.register text style).2.entries[i]? = some (table.register text style).1 ∧
      (table.register text style).1.num = i + 1 ∧
      (table.register text style).1.text = Text.trim text := by
  have hsound := h.register text style
  have hmem : (table.register text style).1 ∈ (table.register text style).2.entries ∧
      (table.register text style).1.text = Text.trim text := by
    rcases table.register_cases text style with ⟨_, he, ht, hr⟩ | ⟨_, _, _, _, ht, hr⟩
    · rw [hr]
      exact ⟨he, ht⟩
    · rw [hr]
      exact ⟨List.mem_append_right _ (List.mem_singleton_self _), ht⟩
  obtain ⟨i, hi⟩ := List.getElem?_of_mem hmem.1
  exact ⟨i, hi, (hsound.numbered i _ hi).1, hmem.2⟩

/-- A mark with the number and the link that its text is given is that of its
entry. -/
theorem Sound.cites_register (h : table.Sound) {text style : String} {mark : FootnoteMark}
    (hnum : mark.num = (table.register text style).1.num)
    (hlink : mark.link = (table.register text style).1.link)
    (htext : Text.trim mark.text = Text.trim text) :
    (table.register text style).2.Cites mark := by
  obtain ⟨i, hi, hplace, hentry⟩ := h.getElem?_register text style
  have hlt : i < (table.register text style).2.entries.length := (List.getElem?_eq_some_iff.mp hi).1
  have hindex : mark.num - 1 = i := by omega
  refine ⟨by omega, by omega, (table.register text style).1, ?_, hnum.symm, hlink.symm, ?_⟩
  · rw [hindex, hi]
  · rw [hentry, htext]

/-- Two marks of a table share their number if and only if they share their
text. -/
theorem Sound.num_eq_iff (h : table.Sound) {mark other : FootnoteMark} (hmark : table.Cites mark)
    (hother : table.Cites other) :
    mark.num = other.num ↔ Text.trim mark.text = Text.trim other.text := by
  obtain ⟨hpos, hle, entry, hentry, -, -, htext⟩ := hmark
  obtain ⟨hpos', hle', entry', hentry', -, -, htext'⟩ := hother
  constructor
  · intro hnum
    rw [hnum, hentry'] at hentry
    cases hentry
    rw [← htext, htext']
  · intro hsame
    have hi : (table.entries.map FootnoteEntry.text)[mark.num - 1]? =
        some (Text.trim mark.text) := by
      rw [List.getElem?_map, hentry, Option.map_some, htext]
    have hj : (table.entries.map FootnoteEntry.text)[other.num - 1]? =
        some (Text.trim mark.text) := by
      rw [List.getElem?_map, hentry', Option.map_some, htext', hsame]
    have hlt : mark.num - 1 < (table.entries.map FootnoteEntry.text).length := by
      rw [List.length_map]
      omega
    have hplaces : mark.num - 1 = other.num - 1 :=
      (List.getElem?_inj hlt h.distinct).mp (hi.trans hj.symm)
    omega

/-- A mark stays that of its entry when the table grows. -/
theorem Cites.mono {later : FootnoteTable} {mark : FootnoteMark} (h : table.Cites mark)
    (hgrows : table.entries <+: later.entries) : later.Cites mark := by
  obtain ⟨hpos, hle, entry, hentry, hfields⟩ := h
  refine ⟨hpos, Nat.le_trans hle hgrows.length_le, entry, ?_, hfields⟩
  obtain ⟨added, hlater⟩ := hgrows
  rw [← hlater, List.getElem?_append_left (by omega)]
  exact hentry

end FootnoteTable

/-! ## Placed marks -/

/-- Whether an element stands in a section or in a text box. -/
def Draft.Places (draft : Draft) (id : Nat) : Prop :=
  (∃ place, id ∈ draft.ids place) ∨ ∃ parent, id ∈ draft.arena.children parent

/-- Whether a number is that of a footnote. -/
def Arena.IsFootnote (arena : Arena) (id : Nat) : Prop :=
  ∃ mark, arena.get? id = some (.footnote mark)

/-- Changes of elements that make no footnote of anything else. -/
def Arena.KeepsFootnotes (f : Element → Element) : Prop :=
  ∀ e mark, f e = .footnote mark → ∃ before, e = .footnote before

namespace Arena

theorem isFootnote_of_update {f : Element → Element} (hf : KeepsFootnotes f) {arena : Arena}
    {id j : Nat} (h : (arena.update id f).IsFootnote j) : arena.IsFootnote j := by
  obtain ⟨mark, hmark⟩ := h
  rw [get?_update] at hmark
  split at hmark
  · obtain ⟨e, he, hfe⟩ := Option.map_eq_some_iff.mp hmark
    obtain ⟨before, rfl⟩ := hf e mark hfe
    exact ⟨before, he⟩
  · exact ⟨mark, hmark⟩

theorem isFootnote_of_alloc {arena : Arena} {e : Element} {id : Nat} (hid : id < arena.size)
    (h : (arena.alloc e).2.IsFootnote id) : arena.IsFootnote id := by
  obtain ⟨mark, hmark⟩ := h
  rw [get?_alloc, if_neg (Nat.ne_of_lt hid)] at hmark
  exact ⟨mark, hmark⟩

/-- A text box is no footnote. -/
theorem not_isFootnote_of_isTextBox {arena : Arena} {id : Nat} (h : arena.isTextBox id = true) :
    ¬ arena.IsFootnote id := by
  rintro ⟨mark, hmark⟩
  rw [isTextBox, hmark] at h
  cases h

end Arena

namespace Draft

variable {draft : Draft} {id j : Nat}

theorem Orderly.lt_size_of_places (h : draft.Orderly) (hid : draft.Places id) :
    id < draft.arena.size := by
  rcases hid with ⟨place, hid⟩ | ⟨parent, hid⟩
  · exact h.sections place id hid
  · exact (h.children parent id hid).2.2

/-- Changes of the elements have no influence on where they are. -/
theorem places_congr {arena : Arena} (h : ∀ parent, arena.children parent =
    draft.arena.children parent) : ({ draft with arena } : Draft).Places id ↔ draft.Places id := by
  simp only [Places, ids_arena, h]

theorem places_of_push {place : Section} (h : (draft.push place id).Places j) :
    draft.Places j ∨ j = id := by
  rcases h with ⟨other, hj⟩ | ⟨parent, hj⟩
  · rw [ids_push] at hj
    split at hj
    · rcases List.mem_append.mp hj with hj | hj
      · exact .inl (.inl ⟨other, hj⟩)
      · exact .inr (List.mem_singleton.mp hj)
    · exact .inl (.inl ⟨other, hj⟩)
  · rw [arena_push] at hj
    exact .inl (.inr ⟨parent, hj⟩)

theorem places_of_withChild {box : Nat} (hbox : box < draft.arena.size)
    (h : ({ draft with arena := draft.arena.withChild box id } : Draft).Places j) :
    draft.Places j ∨ j = id := by
  rcases h with ⟨place, hj⟩ | ⟨parent, hj⟩
  · rw [ids_arena] at hj
    exact .inl (.inl ⟨place, hj⟩)
  · rw [Arena.children_withChild hbox] at hj
    split at hj
    · rcases List.mem_append.mp hj with hj | hj
      · exact .inl (.inr ⟨parent, hj⟩)
      · exact .inr (List.mem_singleton.mp hj)
    · exact .inl (.inr ⟨parent, hj⟩)

end Draft

namespace Report

/-- Whether an element may be filled: if it is a footnote, it must be one of the
open ones. -/
def Fillable (arena : Arena) (current : Option ElementId) (o : List Opened) : Prop :=
  ∀ id : Nat, current = some id → arena.IsFootnote id → ∃ previous, .footnote id previous ∈ o

theorem Fillable.mono {arena later : Arena} {current : Option ElementId} {o o' : List Opened}
    (h : Fillable arena current o)
    (hlater : ∀ id : Nat, current = some id → later.IsFootnote id → arena.IsFootnote id)
    (ho : ∀ id previous, .footnote id previous ∈ o → .footnote id previous ∈ o') :
    Fillable later current o' := by
  intro id hid hfootnote
  obtain ⟨previous, hopen⟩ := h id hid (hlater id hid hfootnote)
  exact ⟨previous, ho id previous hopen⟩

/-- A moment in which placed footnotes and the table agree. Open footnotes have
no place yet, and text goes to no other footnotes than these. -/
structure Cited (m : Moment) : Prop where
  table : m.state.footnotes.Sound
  placed : ∀ (id : Nat) (mark : FootnoteMark), m.state.draft.Places id →
    m.state.draft.arena.get? id = some (.footnote mark) → m.state.footnotes.Cites mark
  unplaced : ∀ (id : Nat) (previous : Option ElementId), .footnote id previous ∈ m.opened →
    ¬ m.state.draft.Places id
  current : Fillable m.state.draft.arena m.state.current m.opened
  previous : ∀ (id : Nat) (previous : Option ElementId) (rest : List Opened),
    .footnote id previous :: rest <:+ m.opened → Fillable m.state.draft.arena previous rest

theorem State.keepsFootnotes_numbered (entry : FootnoteEntry) :
    Arena.KeepsFootnotes (numbered entry) := by
  intro e mark he
  cases e with
  | footnote before => exact ⟨before, rfl⟩
  | _ => cases he

namespace Cited

variable {s t : State} {o : List Opened}

/-- The invariant looks at nothing but the document, the table, and the element
that is being filled. -/
theorem congr (h : Cited ⟨s, o⟩) (hdraft : t.draft = s.draft) (hcurrent : t.current = s.current)
    (hfootnotes : t.footnotes = s.footnotes) : Cited ⟨t, o⟩ where
  table := hfootnotes ▸ h.table
  placed := by
    show ∀ (id : Nat) (mark : FootnoteMark), t.draft.Places id →
      t.draft.arena.get? id = some (.footnote mark) → t.footnotes.Cites mark
    rw [hdraft, hfootnotes]
    exact h.placed
  unplaced := by
    show ∀ (id : Nat) (previous : Option ElementId), .footnote id previous ∈ o →
      ¬ t.draft.Places id
    rw [hdraft]
    exact h.unplaced
  current := by
    show Fillable t.draft.arena t.current o
    rw [hdraft, hcurrent]
    exact h.current
  previous := by
    show ∀ (id : Nat) (previous : Option ElementId) (rest : List Opened),
      .footnote id previous :: rest <:+ o → Fillable t.draft.arena previous rest
    rw [hdraft]
    exact h.previous

/-- What was filled before an open footnote was created before now. -/
theorem fillable_previous {id : Nat} {previous : Option ElementId} {rest : List Opened}
    {arena : Arena} (h : Cited ⟨s, o⟩) (hn : Nested ⟨s, o⟩)
    (hsuffix : .footnote id previous :: rest <:+ o)
    (harena : ∀ j < s.nextId, arena.IsFootnote j → s.draft.arena.IsFootnote j) :
    Fillable arena previous rest := by
  refine (h.previous id previous rest hsuffix).mono ?_ fun _ _ hopen => hopen
  rintro j rfl hfootnote
  have hopen : .footnote id (some j) ∈ o := hsuffix.mem (List.mem_cons_self ..)
  exact harena j (hn.previous id j hopen) hfootnote

/-- The document may change as long as the placed marks stay what they are. -/
theorem withDraft (h : Cited ⟨s, o⟩) (hn : Nested ⟨s, o⟩) {draft : Draft}
    (hfootnotes : ∀ id < s.nextId, draft.arena.IsFootnote id → s.draft.arena.IsFootnote id)
    (hplaces : ∀ id, draft.Places id → s.draft.Places id)
    (hmarks : ∀ id mark, s.draft.Places id → draft.arena.get? id = some (.footnote mark) →
      s.draft.arena.get? id = some (.footnote mark)) : Cited ⟨{ s with draft }, o⟩ where
  table := h.table
  placed id mark hid hmark :=
    h.placed id mark (hplaces id hid) (hmarks id mark (hplaces id hid) hmark)
  unplaced id previous hopen hid := h.unplaced id previous hopen (hplaces id hid)
  current := h.current.mono (fun id hid => hfootnotes id (hn.current id hid)) fun _ _ hopen => hopen
  previous _ _ _ hsuffix := h.fillable_previous hn hsuffix hfootnotes

/-- A new element. -/
theorem create (h : Cited ⟨s, o⟩) (hn : Nested ⟨s, o⟩) (e : Element) :
    Cited ⟨(s.create e).2, o⟩ := by
  refine h.withDraft hn ?_ ?_ ?_
  · intro id hid hfootnote
    exact Arena.isFootnote_of_alloc hid hfootnote
  · intro id hid
    exact (Draft.places_congr fun parent => Arena.children_alloc ..).mp hid
  · intro id mark hid hmark
    have hold : id ≠ s.draft.arena.size := Nat.ne_of_lt (hn.draft.lt_size_of_places hid)
    have hsame : (s.draft.arena.alloc e).2.get? id = s.draft.arena.get? id := by
      rw [Arena.get?_alloc, if_neg hold]
    exact hsame ▸ hmark

/-- A place for an element. If it is a footnote it must be in the table, and
closed. -/
theorem attach (h : Cited ⟨s, o⟩) (hn : Nested ⟨s, o⟩) {id : Nat}
    (hcites : ∀ mark, s.draft.arena.get? id = some (.footnote mark) → s.footnotes.Cites mark)
    (hclosed : ∀ previous, .footnote id previous ∉ o) : Cited ⟨s.attach id, o⟩ := by
  have hget (j : Nat) : (s.attach id).draft.arena.get? j = s.draft.arena.get? j :=
    s.get?_attach id j
  have hplaces (j : Nat) (hj : (s.attach id).draft.Places j) : s.draft.Places j ∨ j = id := by
    rcases State.attach_cases id fun box hbox => hn.isTextBox_of_mem hbox with
      ⟨_, ha⟩ | ⟨box, rest, hcontainers, ha⟩
    · rw [ha] at hj
      exact Draft.places_of_push hj
    · rw [ha] at hj
      have hbox : s.draft.arena.isTextBox box = true := hn.isTextBox_of_mem (by simp [hcontainers])
      exact Draft.places_of_withChild (Arena.lt_size_of_isTextBox hbox) hj
  have hfootnotes : (s.attach id).footnotes = s.footnotes := s.footnotes_attach id
  have hfootnote (j : Nat) (hj : (s.attach id).draft.arena.IsFootnote j) :
      s.draft.arena.IsFootnote j := by
    obtain ⟨mark, hmark⟩ := hj
    exact ⟨mark, hget j ▸ hmark⟩
  refine
    { table := hfootnotes ▸ h.table, placed := ?placed, unplaced := ?unplaced
      current := ?current, previous := ?previous }
  case placed =>
    intro j mark hj hmark
    rw [hfootnotes]
    have hmark' : s.draft.arena.get? j = some (.footnote mark) := hget j ▸ hmark
    rcases hplaces j hj with hj | rfl
    · exact h.placed j mark hj hmark'
    · exact hcites mark hmark'
  case unplaced =>
    intro j previous hopen hj
    rcases hplaces j hj with hj | rfl
    · exact h.unplaced j previous hopen hj
    · exact hclosed previous hopen
  case current =>
    show Fillable (s.attach id).draft.arena (s.attach id).current o
    rw [State.current_attach]
    exact h.current.mono (fun j _ hj => hfootnote j hj) fun _ _ hopen => hopen
  case previous =>
    intro j previous rest hsuffix
    exact h.fillable_previous hn hsuffix fun j _ hj => hfootnote j hj

/-- A new element is opened. -/
theorem opens (h : Cited ⟨s, o⟩) (hn : Nested ⟨s, o⟩) {x : Opened} {e : Element}
    (hdraft : t.draft = (s.create e).2.draft) (hfootnotes : t.footnotes = s.footnotes)
    (hx : x.id = s.nextId)
    (hprevious : ∀ id previous, x = .footnote id previous → previous = s.current)
    (hcurrent : Fillable t.draft.arena t.current (x :: o)) : Cited ⟨t, x :: o⟩ := by
  have hcreated : Cited ⟨(s.create e).2, o⟩ := h.create hn e
  refine
    { table := hfootnotes ▸ h.table, placed := ?placed, unplaced := ?unplaced
      current := hcurrent, previous := ?previous }
  case placed =>
    show ∀ (id : Nat) (mark : FootnoteMark), t.draft.Places id →
      t.draft.arena.get? id = some (.footnote mark) → t.footnotes.Cites mark
    rw [hdraft, hfootnotes]
    exact hcreated.placed
  case unplaced =>
    intro id previous hopen
    show ¬ t.draft.Places id
    rw [hdraft]
    rcases List.mem_cons.mp hopen with rfl | hopen
    · -- the new element has no place, since what has a place is older
      intro hplaced
      have hold : id < s.nextId := hn.draft.lt_size_of_places
        ((Draft.places_congr fun parent => Arena.children_alloc ..).mp hplaced)
      have hnew : id = s.nextId := hx
      omega
    · exact hcreated.unplaced id previous hopen
  case previous =>
    intro id previous rest hsuffix
    show Fillable t.draft.arena previous rest
    rw [hdraft]
    rcases List.suffix_cons_iff.mp hsuffix with heq | hsuffix
    · obtain ⟨rfl, rfl⟩ := List.cons.inj heq
      rw [hprevious id previous rfl]
      exact hcreated.current
    · exact hcreated.previous id previous rest hsuffix

/-- The innermost open element is closed. -/
theorem closes {x : Opened} (h : Cited ⟨s, x :: o⟩) (hdraft : t.draft = s.draft)
    (hfootnotes : t.footnotes = s.footnotes)
    (hcurrent : Fillable s.draft.arena t.current o) : Cited ⟨t, o⟩ := by
  refine
    { table := hfootnotes ▸ h.table, placed := ?placed, unplaced := ?unplaced
      current := hdraft ▸ hcurrent, previous := ?previous }
  case placed =>
    show ∀ (id : Nat) (mark : FootnoteMark), t.draft.Places id →
      t.draft.arena.get? id = some (.footnote mark) → t.footnotes.Cites mark
    rw [hdraft, hfootnotes]
    exact h.placed
  case unplaced =>
    intro id previous hopen
    show ¬ t.draft.Places id
    rw [hdraft]
    exact h.unplaced id previous (List.mem_cons_of_mem _ hopen)
  case previous =>
    intro id previous rest hsuffix
    show Fillable t.draft.arena previous rest
    rw [hdraft]
    exact h.previous id previous rest (hsuffix.trans (List.suffix_cons ..))

/-! ### Edits -/

theorem endPrinting (h : Cited ⟨s, o⟩) : Cited ⟨s.endPrinting, o⟩ := by
  exact h.congr s.draft_endPrinting s.current_endPrinting s.footnotes_endPrinting

/-- Text goes to no footnote that has a place. -/
theorem write (h : Cited ⟨s, o⟩) (hn : Nested ⟨s, o⟩) (text : String) :
    Cited ⟨s.addText text, o⟩ := by
  have hkeeps : Arena.KeepsFootnotes (Element.append (Content.chunk text)) := by
    intro e mark he
    cases e with
    | footnote before => exact ⟨before, rfl⟩
    | _ => cases he
  unfold State.addText
  split
  · exact h
  next id hid =>
    refine h.withDraft hn ?_ ?_ ?_
    · intro j _ hj
      exact Arena.isFootnote_of_update hkeeps hj
    · intro j hj
      exact (Draft.places_congr fun parent => Arena.children_update ..).mp hj
    · intro j mark hj hmark
      have hmark' : (s.draft.arena.update id (Element.append (Content.chunk text))).get? j =
          some (.footnote mark) := hmark
      -- what is being filled would be an open footnote, and these have no place
      have hne : j ≠ id := by
        rintro rfl
        obtain ⟨previous, hopen⟩ :=
          h.current j hid (Arena.isFootnote_of_update hkeeps ⟨mark, hmark'⟩)
        exact h.unplaced j previous hopen hj
      rwa [Arena.get?_update, if_neg hne] at hmark'

theorem addElement (h : Cited ⟨s, o⟩) (hn : Nested ⟨s, o⟩) {e : Element}
    (he : e.isPlain = true) : Cited ⟨s.addElement e, o⟩ := by
  refine (h.create hn e).attach (hn.create e) ?_ ?_
  · intro mark hmark
    have hnew : (s.draft.arena.alloc e).2.get? s.draft.arena.size = some (.footnote mark) := hmark
    rw [Arena.get?_alloc, if_pos rfl] at hnew
    cases hnew
    cases he
  · intro previous hopen
    exact Nat.lt_irrefl _ (hn.created _ hopen)

theorem openText (h : Cited ⟨s, o⟩) (hn : Nested ⟨s, o⟩) {e : Element} (he : e.isText = true) :
    Cited ⟨s.beginText e, .text s.nextId :: o⟩ := by
  refine h.opens hn (e := e) rfl rfl rfl (by simp) ?_
  rintro id hid ⟨mark, hmark⟩
  cases hid
  have hnew : (s.draft.arena.alloc e).2.get? s.draft.arena.size = some (.footnote mark) := hmark
  rw [Arena.get?_alloc, if_pos rfl] at hnew
  cases hnew
  cases he

theorem openBox (h : Cited ⟨s, o⟩) (hn : Nested ⟨s, o⟩) (attrs : Attributes) :
    Cited ⟨s.beginBox attrs, .box s.nextId :: o⟩ := by
  have hcreated : Cited ⟨(s.create (.textBox (textBoxOf attrs))).2, o⟩ := h.create hn _
  refine h.opens hn (e := .textBox (textBoxOf attrs)) rfl rfl rfl (by simp) ?_
  exact hcreated.current.mono (fun _ _ hfootnote => hfootnote) fun _ _ hopen =>
    List.mem_cons_of_mem _ hopen

theorem openFootnote (h : Cited ⟨s, o⟩) (hn : Nested ⟨s, o⟩) (style : String) :
    Cited ⟨s.openFootnote style, .footnote s.nextId s.current :: o⟩ := by
  refine h.opens hn (e := .footnote (.ofStyle style)) rfl rfl rfl (by simp [eq_comm]) ?_
  intro id hid _
  cases hid
  exact ⟨s.current, List.mem_cons_self ..⟩

/-- The end of a cell or a run of text, without a place for it. -/
theorem leaveText {id : Nat} (h : Cited ⟨s, .text id :: o⟩) : Cited ⟨s.endPrinting, o⟩ := by
  refine h.endPrinting.closes rfl rfl ?_
  intro j hj hfootnote
  obtain ⟨previous, hopen⟩ := h.endPrinting.current j hj hfootnote
  rcases List.mem_cons.mp hopen with htext | hopen
  · cases htext
  · exact ⟨previous, hopen⟩

/-- The end of a cell or a run of text. What it places is newer than all open
footnotes, and so it is none of them. -/
theorem closeText {id : Nat} (h : Cited ⟨s, .text id :: o⟩) (hn : Nested ⟨s, .text id :: o⟩) :
    Cited ⟨s.endText, o⟩ := by
  obtain ⟨c, hc, -, hnewer⟩ := hn.exists_filled
  have hclosed (previous : Option ElementId) : .footnote c previous ∉ o := fun hopen =>
    Nat.lt_irrefl c (hnewer _ hopen)
  rw [State.endText_eq hc]
  refine h.leaveText.attach hn.leaveText ?_ hclosed
  intro mark hmark
  obtain ⟨previous, hopen⟩ :=
    h.leaveText.current c (s.current_endPrinting.trans hc) ⟨mark, hmark⟩
  exact absurd hopen (hclosed previous)

/-- The end of a text box, which is no footnote. -/
theorem closeBox {id : Nat} {rest : List ElementId} (h : Cited ⟨s, .box id :: o⟩)
    (hn : Nested ⟨s, .box id :: o⟩) (hcontainers : s.containers = id :: rest) :
    Cited ⟨s.endBox, o⟩ := by
  have hbox : ¬ s.endPrinting.draft.arena.IsFootnote id :=
    Arena.not_isFootnote_of_isTextBox (hn.endPrinting.boxes id (List.mem_cons_self ..))
  have hleft : Cited ⟨s.leaveBox id rest, o⟩ := by
    refine h.endPrinting.closes rfl rfl ?_
    intro j hj hfootnote
    cases hj
    exact absurd hfootnote hbox
  rw [State.endBox_eq hcontainers]
  refine hleft.attach (hn.leaveBox hcontainers) ?_ ?_
  · intro mark hmark
    exact absurd ⟨mark, hmark⟩ hbox
  · intro previous hopen
    exact Nat.lt_irrefl id (hn.around_lt hopen)

/-- The end of a footnote, without a place for it. -/
theorem leaveFootnote {id : Nat} {previous : Option ElementId} (rest : List FootnoteFrame)
    (h : Cited ⟨s, .footnote id previous :: o⟩) : Cited ⟨s.leaveFootnote previous rest, o⟩ := by
  exact h.closes (s.draft_leaveFootnote previous rest) (s.footnotes_leaveFootnote previous rest)
    (h.previous id previous o (List.suffix_refl _))

/-- A footnote that has no place yet is registered. The placed marks stay what
they are, and the table grows. -/
theorem registerFootnote (h : Cited ⟨s, o⟩) (hn : Nested ⟨s, o⟩) {id : Nat}
    (hid : ¬ s.draft.Places id) (text : String) : Cited ⟨s.registerFootnote id text, o⟩ := by
  have hgrows : s.footnotes.entries <+: (s.registerFootnote id text).footnotes.entries :=
    s.footnotes.entries_prefix_register text (s.markStyle id)
  have hplaces (j : Nat) : (s.registerFootnote id text).draft.Places j ↔ s.draft.Places j :=
    Draft.places_congr fun parent => Arena.children_update ..
  have hfootnote (j : Nat) (hj : (s.registerFootnote id text).draft.arena.IsFootnote j) :
      s.draft.arena.IsFootnote j :=
    Arena.isFootnote_of_update (State.keepsFootnotes_numbered _) hj
  refine
    { table := h.table.register text _, placed := ?placed, unplaced := ?unplaced
      current := ?current, previous := ?previous }
  case placed =>
    intro j mark hj hmark
    have hplaced : s.draft.Places j := (hplaces j).mp hj
    have hne : j ≠ id := by
      rintro rfl
      exact hid hplaced
    have hsame : (s.registerFootnote id text).draft.arena.get? j = s.draft.arena.get? j := by
      rw [State.registerFootnote, Draft.update, Arena.get?_update, if_neg hne]
    exact (h.placed j mark hplaced (hsame ▸ hmark)).mono hgrows
  case unplaced =>
    intro j previous hopen hj
    exact h.unplaced j previous hopen ((hplaces j).mp hj)
  case current => exact h.current.mono (fun j _ hj => hfootnote j hj) fun _ _ hopen => hopen
  case previous =>
    intro j previous rest hsuffix
    exact h.fillable_previous hn hsuffix fun j _ hj => hfootnote j hj

/-- The mark of a footnote that has been registered with its own text is that of
its entry. -/
theorem cites_registerFootnote (h : Cited ⟨s, o⟩) {id : Nat} {text : String}
    (htext : text = Text.trim (s.textOf id)) {mark : FootnoteMark}
    (hmark : (s.registerFootnote id text).draft.arena.get? id = some (.footnote mark)) :
    (s.registerFootnote id text).footnotes.Cites mark := by
  rw [State.registerFootnote, Draft.update, Arena.get?_update, if_pos rfl] at hmark
  obtain ⟨e, he, hnumbered⟩ := Option.map_eq_some_iff.mp hmark
  cases e with
  | footnote before =>
    cases hnumbered
    -- numbering a mark leaves its text alone
    have hbefore : s.textOf id = before.text := by
      rw [State.textOf, he]
      rfl
    refine h.table.cites_register rfl rfl ?_
    rw [htext, hbefore, Text.trim_trim]
  | _ => cases hnumbered

/-- The end of a footnote. If it is placed, the table has its text. -/
theorem closeFootnote {id : Nat} {previous : Option ElementId} {rest : List FootnoteFrame}
    (h : Cited ⟨s, .footnote id previous :: o⟩) (hn : Nested ⟨s, .footnote id previous :: o⟩)
    (hframes : s.footnoteFrames = .visible id previous :: rest) : Cited ⟨s.endFootnote, o⟩ := by
  have hleft : Cited ⟨s.leaveFootnote previous rest, o⟩ := h.leaveFootnote rest
  have hnested : Nested ⟨s.leaveFootnote previous rest, o⟩ := hn.leaveFootnote hframes
  have hunplaced : ¬ (s.leaveFootnote previous rest).draft.Places id := by
    rw [s.draft_leaveFootnote previous rest]
    exact h.unplaced id previous (List.mem_cons_self ..)
  have htext : (s.leaveFootnote previous rest).textOf id = s.textOf id := by
    rw [State.textOf, s.draft_leaveFootnote previous rest, State.textOf]
  rw [State.endFootnote_eq hframes]
  split
  · refine (hleft.registerFootnote hnested hunplaced _).attach (hnested.registerFootnote id _) ?_ ?_
    · intro mark hmark
      exact hleft.cites_registerFootnote (by rw [htext]) hmark
    · intro before hopen
      exact Nat.lt_irrefl id (hn.around_lt hopen)
  · exact hleft

end Cited

variable {rule : NestingRule}

/-- Every edit keeps placed footnotes and the table in agreement. -/
theorem cited_step {m n : Moment} (h : Cited m) (hn : Nested m) (hedit : Edit rule m n) :
    Cited n := by
  cases hedit with
  | idle desk =>
    exact h.congr (congrArg Desk.draft desk) (congrArg Desk.current desk)
      (congrArg Desk.footnotes desk)
  | write s o text => exact h.write hn text
  | turn s o place => exact h.congr rfl rfl rfl
  | add s o plain => exact h.addElement hn plain
  | openText s text allowed => exact h.openText hn text
  | closeText s o id => exact h.closeText hn
  | openBox s attrs allowed => exact h.openBox hn attrs
  | closeBox o containers => exact h.closeBox hn containers
  | openFootnote s style allowed => exact h.openFootnote hn style
  | closeFootnote o frames => exact h.closeFootnote hn frames

/-- A run starts without footnotes. -/
theorem cited_start (scope : Scope) (output : Output) : Cited (.start scope output) where
  table := FootnoteTable.sound_empty
  placed id mark _ hmark := by cases hmark
  unplaced id previous hopen := by cases hopen
  current id hid := by cases hid
  previous id previous rest hsuffix := by
    cases List.suffix_nil.mp hsuffix

/-- **At every moment of a run placed footnotes and the table agree.** -/
theorem cited_of_leads {scope : Scope} {output : Output} {m : Moment}
    (h : Leads rule (.start scope output) m) : Cited m := by
  induction h with
  | refl => exact cited_start scope output
  | tail hbefore hedit ih =>
    exact cited_step ih (nested_of_leads (nested_start scope output) hbefore) hedit

/-- No edit removes or changes an entry: only the end of a footnote has to do
with the table. -/
theorem entries_prefix_step {m n : Moment} (hedit : Edit rule m n) :
    m.state.footnotes.entries <+: n.state.footnotes.entries := by
  have hsame {s t : State} (h : t.footnotes = s.footnotes) :
      s.footnotes.entries <+: t.footnotes.entries := h ▸ List.prefix_refl _
  cases hedit with
  | idle desk => exact hsame (congrArg Desk.footnotes desk)
  | write s o text =>
    refine hsame ?_
    unfold State.addText
    split <;> rfl
  | turn s o place => exact hsame rfl
  | add s o plain => exact hsame (State.footnotes_attach _ _)
  | openText s text allowed => exact hsame rfl
  | openBox s attrs allowed => exact hsame rfl
  | openFootnote s style allowed => exact hsame rfl
  | closeText s o id =>
    refine hsame ?_
    unfold State.endText
    dsimp only
    split
    · rw [State.footnotes_attach, State.footnotes_endPrinting]
    · exact s.footnotes_endPrinting
  | @closeBox s id rest o containers =>
    refine hsame ?_
    rw [State.endBox_eq containers, State.footnotes_attach]
    exact s.footnotes_endPrinting
  | @closeFootnote s id previous rest o frames =>
    rw [State.endFootnote_eq frames]
    dsimp only
    split
    · rw [State.footnotes_attach, ← s.footnotes_leaveFootnote previous rest]
      exact FootnoteTable.entries_prefix_register _ _ _
    · exact hsame (s.footnotes_leaveFootnote previous rest)

theorem entries_prefix_of_leads {m n : Moment} (h : Leads rule m n) :
    m.state.footnotes.entries <+: n.state.footnotes.entries := by
  induction h with
  | refl => exact List.prefix_refl _
  | tail _ hedit ih => exact ih.trans (entries_prefix_step hedit)

/-- **The footnotes of a document and their table always agree.** In a run the
table only grows at its end. At any time it is numbered in order, with the links
that belong to the numbers, and no text is in it twice; every footnote that
stands in a section or a text box has the number and the link of the entry with
its text. So placed footnotes share a number if and only if they share their
text. -/
theorem footnotes_of_mem_history (env : Environment) (template : List Template.Node)
    (scope : Scope) (output : Output) :
    ((history env template (.start scope output)).Pairwise fun s t =>
      s.footnotes.entries <+: t.footnotes.entries) ∧
    ∀ t ∈ history env template (.start scope output),
      t.footnotes.Sound ∧
      (∀ (id : Nat) (mark : FootnoteMark), t.draft.Places id →
        t.draft.arena.get? id = some (.footnote mark) → t.footnotes.Cites mark) ∧
      ∀ (id other : Nat) (mark otherMark : FootnoteMark),
        t.draft.Places id → t.draft.arena.get? id = some (.footnote mark) →
        t.draft.Places other → t.draft.arena.get? other = some (.footnote otherMark) →
          (mark.num = otherMark.num ↔ Text.trim mark.text = Text.trim otherMark.text) := by
  refine ⟨?_, ?_⟩
  · refine (pairwise_history env template scope output).imp ?_
    rintro s t ⟨_, _, _, hleads⟩
    exact entries_prefix_of_leads hleads
  · intro t ht
    obtain ⟨o, hleads⟩ := leads_of_mem_history ht
    have hcited : Cited ⟨t, o⟩ := cited_of_leads hleads
    refine ⟨hcited.table, hcited.placed, ?_⟩
    intro id other mark otherMark hid hmark hother hotherMark
    exact hcited.table.num_eq_iff (hcited.placed id mark hid hmark)
      (hcited.placed other otherMark hother hotherMark)

/-- A person with a source. -/
def personWithSource : Environment :=
  { store :=
      { records :=
          [⟨"I1", .individual, "0 @I1@ INDI\n1 SOUR @S1@"⟩, ⟨"S1", .source, "0 @S1@ SOUR"⟩] } }

/-- Three footnotes on the person, the last one with the text of the first, but
for blanks. -/
def threeFootnotes : List Template.Node :=
  [.element ⟨.gedcom, "Gedcom", ⟨[("id", "I1")]⟩, {}⟩
    [.element ⟨.footnote, "Footnote", ⟨[]⟩, {}⟩ [.text "Census"],
      .element ⟨.footnote, "Footnote", ⟨[]⟩, {}⟩ [.text "Letter"],
      .element ⟨.footnote, "Footnote", ⟨[]⟩, {}⟩ [.text " Census "]]]

/-- Three footnotes are placed, and two of them share an entry. -/
theorem footnotes_of_threeFootnotes :
    ∃ t ∈ history personWithSource threeFootnotes (.start {} {}),
      t.draft.header = [0, 1, 2] ∧
      t.footnotes.entries.map FootnoteEntry.text = ["Census", "Letter"] ∧
      t.footnotes.Sound ∧
      (∀ (id : Nat) (mark : FootnoteMark), t.draft.Places id →
        t.draft.arena.get? id = some (.footnote mark) → t.footnotes.Cites mark) ∧
      ∀ (id other : Nat) (mark otherMark : FootnoteMark),
        t.draft.Places id → t.draft.arena.get? id = some (.footnote mark) →
        t.draft.Places other → t.draft.arena.get? other = some (.footnote otherMark) →
          (mark.num = otherMark.num ↔ Text.trim mark.text = Text.trim otherMark.text) := by
  have hlast : (history personWithSource threeFootnotes (.start {} {}))[11]?.map
      (fun t => (t.draft.header, t.footnotes.entries.map FootnoteEntry.text)) =
        some ([0, 1, 2], ["Census", "Letter"]) := by
    decide +kernel
  obtain ⟨t, ht, hfields⟩ := Option.map_eq_some_iff.mp hlast
  obtain ⟨hheader, hentries⟩ := Prod.mk.inj hfields
  have hmem := List.mem_of_getElem? ht
  exact ⟨t, hmem, hheader, hentries,
    (footnotes_of_mem_history personWithSource threeFootnotes {} {}).2 t hmem⟩

end Report

end Lineage
