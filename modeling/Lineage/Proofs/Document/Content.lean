import Lineage.Proofs.Document.Arena
import Lineage.Proofs.Text.Blank
import Lineage.Proofs.Text.Pieces
import Lineage.Proofs.Walk.Frame

/-!
# Text joins a document without markup

A chunk of text is trimmed, two marks in it are replaced, and then markup is removed
from the left. A removal joins what stands before the markup with what stands behind
it, so one might fear that new markup comes into being, as it does when a word is
deleted from a text only once.

It does not. An opening bracket is kept only when no closing one follows anywhere
behind it, so what is kept cannot be closed by anything that is kept later on.

> `text?_foldl_addText`: an element has the text it had and then the chunks, each of them
> without markup; a text that has neither an opening bracket nor a fixed space in it
> is a chunk as it stands, but for the breaks and tabs at its ends.
-/

namespace Lineage

namespace Content

/-! ## Markup -/

/-- Whether an opening bracket is followed by a closing one. -/
def HasMarkup (cs : List Char) : Prop :=
  ['<', '>'].Sublist cs

theorem not_hasMarkup_nil : ¬ HasMarkup [] := by
  intro h
  cases h

/-- Markup starts with the first character, or there is markup behind it. -/
theorem hasMarkup_cons_iff {c : Char} {rest : List Char} :
    HasMarkup (c :: rest) ↔ (c = '<' ∧ '>' ∈ rest) ∨ HasMarkup rest := by
  unfold HasMarkup
  rw [List.sublist_cons_iff, or_comm]
  refine or_congr_left ?_
  constructor
  · rintro ⟨_, heq, hrest⟩
    obtain ⟨rfl, rfl⟩ := List.cons.inj heq
    exact ⟨rfl, List.singleton_sublist.mp hrest⟩
  · rintro ⟨rfl, hclosed⟩
    exact ⟨['>'], rfl, List.singleton_sublist.mpr hclosed⟩

/-- What is left of a text is a part of it. -/
theorem stripMarkup_sublist (inside : Bool) (cs : List Char) :
    (stripMarkup inside cs).Sublist cs := by
  induction cs generalizing inside with
  | nil => exact .slnil
  | cons c rest ih =>
    rw [stripMarkup]
    split
    · exact (ih _).cons c
    · split
      · exact (ih true).cons c
      · exact (ih false).cons_cons c

/-- **No markup is left**, and none comes into being. -/
theorem not_hasMarkup_stripMarkup (inside : Bool) (cs : List Char) :
    ¬ HasMarkup (stripMarkup inside cs) := by
  induction cs generalizing inside with
  | nil => exact not_hasMarkup_nil
  | cons c rest ih =>
    rw [stripMarkup]
    split
    · exact ih _
    · split
      · exact ih true
      next hkept =>
        rw [hasMarkup_cons_iff, not_or]
        refine ⟨?_, ih false⟩
        -- a closing bracket that is left behind the character has been there before
        rintro ⟨hopen, hclosed⟩
        have hrest : '>' ∈ rest := (stripMarkup_sublist false rest).subset hclosed
        exact hkept ⟨hopen, List.contains_iff_mem.mpr hrest⟩

/-- A text without markup stays as it is. -/
theorem stripMarkup_eq_self {cs : List Char} (h : ¬ HasMarkup cs) : stripMarkup false cs = cs := by
  induction cs with
  | nil => rfl
  | cons c rest ih =>
    rw [hasMarkup_cons_iff, not_or] at h
    have hkept : ¬ (c = '<' ∧ rest.contains '>' = true) := fun hopen =>
      h.1 ⟨hopen.1, List.contains_iff_mem.mp hopen.2⟩
    rw [stripMarkup, if_neg Bool.false_ne_true, if_neg hkept, ih h.2]

/-! ## Chunks -/

/-- Whether a text is what is left of another one when the line breaks and tabs at its ends
are removed. -/
structure Trims (text inner : String) : Prop where
  removed : ∃ before behind : List Char, text.toList = before ++ (inner.toList ++ behind) ∧
    ∀ c ∈ before ++ behind, c = '\r' ∨ c = '\n' ∨ c = '\t'
  first : ∀ c, inner.toList.head? = some c → c ≠ '\r' ∧ c ≠ '\n' ∧ c ≠ '\t'
  last : ∀ c, inner.toList.getLast? = some c → c ≠ '\r' ∧ c ≠ '\n' ∧ c ≠ '\t'

theorem isEdge_iff {c : Char} : isEdge c = true ↔ c = '\r' ∨ c = '\n' ∨ c = '\t' := by
  simp [isEdge, or_assoc]

theorem not_isEdge_iff {c : Char} : isEdge c = false ↔ c ≠ '\r' ∧ c ≠ '\n' ∧ c ≠ '\t' := by
  simp [isEdge, and_assoc]

/-- The removal of what stands at the ends. -/
theorem trims_stripWhile (text : String) :
    Trims text (.ofList (Chars.stripWhile isEdge text.toList)) := by
  have hsame := Chars.stripWhile_stripWhile isEdge text.toList
  obtain ⟨before, behind, hbefore, hbehind, htext⟩ :=
    Chars.exists_eq_append_stripWhile isEdge text.toList
  refine ⟨⟨before, behind, ?_, ?_⟩, ?_, ?_⟩
  · rw [String.toList_ofList]
    exact htext
  · intro c hc
    rcases List.mem_append.mp hc with hc | hc
    · exact isEdge_iff.mp (hbefore c hc)
    · exact isEdge_iff.mp (hbehind c hc)
  · intro c hc
    rw [String.toList_ofList] at hc
    exact not_isEdge_iff.mp (Chars.head?_of_stripWhile_eq hsame hc)
  · intro c hc
    rw [String.toList_ofList] at hc
    exact not_isEdge_iff.mp (Chars.getLast?_of_stripWhile_eq hsame hc)

/-- No chunk has markup in it. -/
theorem not_hasMarkup_chunk (text : String) : ¬ HasMarkup (chunk text).toList := by
  rw [chunk, String.toList_ofList]
  exact not_hasMarkup_stripMarkup false _

/-- In a text without opening brackets and fixed spaces nothing is replaced, and nothing is
removed but what stands at its ends. -/
theorem chunk_of_plain {text : String} (hopen : '<' ∉ text.toList)
    (hspace : ¬ "&nbsp;".toList <:+: text.toList) :
    chunk text = .ofList (Chars.stripWhile isEdge text.toList) := by
  obtain ⟨before, behind, -, -, htext⟩ := Chars.exists_eq_append_stripWhile isEdge text.toList
  have hinner : Chars.stripWhile isEdge text.toList <:+: text.toList :=
    ⟨before, behind, by rw [List.append_assoc, ← htext]⟩
  have hplain : '<' ∉ Chars.stripWhile isEdge text.toList := fun hmem => hopen (hinner.subset hmem)
  have hbreak : ¬ "<br>".toList <:+: Chars.stripWhile isEdge text.toList := fun hbr =>
    hplain (hbr.subset (List.mem_cons_self ..))
  have hfixed : ¬ "&nbsp;".toList <:+: Chars.stripWhile isEdge text.toList := fun hnbsp =>
    hspace (hnbsp.trans hinner)
  have hmarkup : ¬ HasMarkup (Chars.stripWhile isEdge text.toList) := fun hmarkup =>
    hplain (hmarkup.subset (List.mem_cons_self ..))
  rw [chunk, Chars.replace_of_not_isInfix _ hbreak, Chars.replace_of_not_isInfix _ hfixed,
    stripMarkup_eq_self hmarkup]

end Content

/-! ## Elements -/

theorem Element.text?_append (e : Element) (s : String) :
    (e.append s).text? = e.text?.map (· ++ s) := by
  cases e <;> rfl

namespace Report

open Content

/-- What is added to an element that is being filled is the chunk of the text. -/
theorem State.text?_addText {s : State} {id : ElementId} (h : s.current = some id)
    (text : String) :
    ((s.addText text).draft.arena.get? id).bind Element.text? =
      ((s.draft.arena.get? id).bind Element.text?).map (· ++ chunk text) := by
  unfold State.addText
  rw [h]
  dsimp only
  rw [Draft.update, Arena.get?_update, if_pos rfl, Option.map_bind, Option.bind_map]
  refine congrArg (Option.bind _) (funext fun e => ?_)
  exact e.text?_append (chunk text)

/-- When texts are added one after the other, their chunks stand behind the text that the element
had. -/
theorem State.text?_addTexts {s : State} {id : ElementId} (h : s.current = some id)
    (texts : List String) :
    ((texts.foldl State.addText s).draft.arena.get? id).bind Element.text? =
      ((s.draft.arena.get? id).bind Element.text?).map
        (· ++ String.join (texts.map chunk)) := by
  induction texts generalizing s with
  | nil => simp
  | cons text rest ih =>
    have hcurrent : (s.addText text).current = some id :=
      (congrArg State.current (State.sameButDraft_addText s text)).trans h
    calc ((rest.foldl State.addText (s.addText text)).draft.arena.get? id).bind Element.text?
        = (((s.draft.arena.get? id).bind Element.text?).map (· ++ chunk text)).map
            (· ++ String.join (rest.map chunk)) := by
          rw [ih hcurrent, State.text?_addText h]
      _ = ((s.draft.arena.get? id).bind Element.text?).map
            (· ++ String.join ((text :: rest).map chunk)) := by
          rw [Option.map_map, List.map_cons, String.join_cons]
          congr 1
          funext before
          exact String.append_assoc ..

/-- **Text joins a document as chunks without markup.** When texts are added one after the
other, the text that the element had stays at the start, and the chunks of the texts follow it in
order. No chunk has an opening bracket with a closing one behind it, and a text with neither an
opening bracket nor a fixed space is added as it is, without the line breaks and tabs at its
ends. -/
theorem text?_foldl_addText {s : State} {id : ElementId} (h : s.current = some id)
    (texts : List String) :
    ((texts.foldl State.addText s).draft.arena.get? id).bind Element.text? =
        ((s.draft.arena.get? id).bind Element.text?).map
          (· ++ String.join (texts.map chunk)) ∧
      ∀ text : String, ¬ HasMarkup (chunk text).toList ∧
        ('<' ∉ text.toList → ¬ "&nbsp;".toList <:+: text.toList → Trims text (chunk text)) := by
  refine ⟨State.text?_addTexts h texts, fun text => ⟨not_hasMarkup_chunk text, ?_⟩⟩
  intro hopen hspace
  rw [chunk_of_plain hopen hspace]
  exact trims_stripWhile text

/-- A cell that has been filled already. -/
def filledCell : State :=
  { draft := { arena := ⟨#[⟨.cell { text := "Life: " }, []⟩]⟩ }, current := some 0 }

/-- Text with nested brackets, and text that only looks like markup. -/
theorem text?_of_filledCell :
    ((["\n<b<i>>Born<br>in <br><Oslo>&nbsp;", "\t3 > 2\r\n", "1 < 2"].foldl State.addText
        filledCell).draft.arena.get? 0).bind Element.text? =
        some "Life: >Born\nin \n\u00A03 > 21 < 2" ∧
      Trims "\t3 > 2\r\n" (chunk "\t3 > 2\r\n") := by
  obtain ⟨htext, hchunks⟩ := @text?_foldl_addText filledCell 0 rfl
    ["\n<b<i>>Born<br>in <br><Oslo>&nbsp;", "\t3 > 2\r\n", "1 < 2"]
  exact ⟨htext.trans (by decide +kernel), (hchunks _).2 (by decide +kernel) (by decide +kernel)⟩

end Report

end Lineage
