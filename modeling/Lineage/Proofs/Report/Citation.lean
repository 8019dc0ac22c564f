import Lineage.Proofs.Document.Placement

/-!
# The end of a footnote

What a footnote cites decides at its start whether it is filled. Whether it is kept is
decided at its end, by the text that its content has written into it until then. The
text must take four bytes, so one with at least four characters is kept whatever they
are, and a shorter one may be kept as well (`not_dropsFootnote_of_threeCharacters`).

Kept or dropped, a footnote goes back to what was being filled before it. While its
content is carried out it is open, and an open footnote has no place (`Cited`). So its
end alone decides whether it gets one.

> `kept_or_dropped_of_footnote`: any footnote of a run that is filled, whatever its
> content is.
-/

namespace Lineage

/-- A character takes at least one byte. -/
theorem Text.length_le_utf8ByteSize (s : String) : s.length ≤ s.utf8ByteSize := by
  induction s using String.push_induction with
  | empty => exact Nat.le_refl _
  | push s c ih =>
    have hc : 0 < c.utf8Size := c.utf8Size_pos
    rw [String.length_push, String.utf8ByteSize_push]
    omega

namespace Report

open Template (Head Node)

/-! ## What the end of a footnote may do -/

/-- The end of a footnote that is kept. Its text is registered, its mark gets the number and
the link of the entry, and the footnote stands behind everything else in the innermost open
text box, or else in the present section. -/
structure KeepsFootnote (id : ElementId) (text : String) (s t : State) : Prop where
  registered : t.footnotes = (s.footnotes.register text (s.markStyle id)).2
  numbered : ∃ mark : FootnoteMark, s.draft.arena.get? id = some (.footnote mark) ∧
    Text.trim mark.text = text ∧
    t.draft.arena.get? id = some (.footnote
      { mark with
        num := (s.footnotes.register text (s.markStyle id)).1.num
        link := (s.footnotes.register text (s.markStyle id)).1.link })
  cited : ∀ mark : FootnoteMark, t.draft.arena.get? id = some (.footnote mark) →
    t.footnotes.Cites mark
  others : ∀ other : Nat, other ≠ id → t.draft.arena.get? other = s.draft.arena.get? other
  sections : ∀ place, t.draft.ids place =
    if s.containers = [] ∧ place = s.place then s.draft.ids place ++ [id] else s.draft.ids place
  boxes : ∀ box : Nat, t.draft.arena.children box =
    if s.containers.head? = some box then s.draft.arena.children box ++ [id]
    else s.draft.arena.children box

/-- The end of a footnote that is dropped. Neither the footnotes nor the document change, and
in the document the footnote has no place. -/
structure DropsFootnote (id : ElementId) (s t : State) : Prop where
  footnotes : t.footnotes = s.footnotes
  draft : t.draft = s.draft
  unplaced : ¬ t.draft.Places id

namespace State

variable {s : State} {o : List Opened} {id : Nat} {previous : Option ElementId}
  {rest : List FootnoteFrame}

/-- What stands in the sections after an element has been placed. -/
theorem ids_attach (hn : Nested ⟨s, o⟩) (id : ElementId) (place : Section) :
    (s.attach id).draft.ids place =
      if s.containers = [] ∧ place = s.place then s.draft.ids place ++ [id]
      else s.draft.ids place := by
  obtain ⟨hnone, hattach⟩ | ⟨box, around, hbox, hattach⟩ :=
    attach_cases id fun box hbox => hn.isTextBox_of_mem hbox
  · rw [hattach, Draft.ids_push]
    simp [hnone]
  · rw [hattach, Draft.ids_arena, if_neg]
    simp [hbox]

/-- What is in the text boxes after an element has been placed. -/
theorem children_attach (hn : Nested ⟨s, o⟩) (id box : ElementId) :
    (s.attach id).draft.arena.children box =
      if s.containers.head? = some box then s.draft.arena.children box ++ [id]
      else s.draft.arena.children box := by
  obtain ⟨hnone, hattach⟩ | ⟨innermost, around, hbox, hattach⟩ :=
    attach_cases id fun box hbox => hn.isTextBox_of_mem hbox
  · rw [hattach, Draft.arena_push, if_neg]
    simp [hnone]
  · have htext : s.draft.arena.isTextBox innermost = true := hn.isTextBox_of_mem (by simp [hbox])
    rw [hattach]
    dsimp only
    rw [Arena.children_withChild (Arena.lt_size_of_isTextBox htext)]
    simp [hbox, eq_comm]

/-! ## Both ends -/

/-- The end of a footnote goes back to what was being filled before. -/
theorem current_endFootnote (hframes : s.footnoteFrames = .visible id previous :: rest) :
    s.endFootnote.current = previous := by
  rw [endFootnote_eq hframes]
  split
  · rw [current_attach]
    exact s.current_leaveFootnote previous rest
  · exact s.current_leaveFootnote previous rest

/-- A footnote with enough text is kept. -/
theorem keepsFootnote_endFootnote (hn : Nested ⟨s, .footnote id previous :: o⟩)
    (hc : Cited ⟨s, .footnote id previous :: o⟩)
    (hframes : s.footnoteFrames = .visible id previous :: rest)
    (hfootnote : s.draft.arena.IsFootnote id)
    (hsize : leastFootnoteSize ≤ (Text.trim (s.textOf id)).utf8ByteSize) :
    KeepsFootnote id (Text.trim (s.textOf id)) s s.endFootnote := by
  obtain ⟨mark, hmark⟩ := hfootnote
  have hmarkText : s.textOf id = mark.text := by
    rw [textOf, hmark]
    rfl
  rw [endFootnote_eq hframes, if_pos hsize]
  generalize htext : Text.trim (s.textOf id) = text
  -- the footnote is closed, then registered, and then placed
  have hclosed : Cited ⟨s.leaveFootnote previous rest, o⟩ := hc.leaveFootnote rest
  have hdraft := s.draft_leaveFootnote previous rest
  have hstyle : (s.leaveFootnote previous rest).markStyle id = s.markStyle id := by
    rw [markStyle, hdraft, markStyle]
  have hentry : (s.leaveFootnote previous rest).footnotes.register text
      ((s.leaveFootnote previous rest).markStyle id) =
        s.footnotes.register text (s.markStyle id) := by
    rw [footnotes_leaveFootnote, hstyle]
  have hnested : Nested ⟨(s.leaveFootnote previous rest).registerFootnote id text, o⟩ :=
    (hn.leaveFootnote hframes).registerFootnote id text
  have hcontainers : ((s.leaveFootnote previous rest).registerFootnote id text).containers =
      s.containers := s.containers_leaveFootnote previous rest
  have hplace : ((s.leaveFootnote previous rest).registerFootnote id text).place = s.place :=
    congrArg Desk.place (s.desk_leaveFootnote previous rest)
  have hregistered : ((s.leaveFootnote previous rest).registerFootnote id text).draft =
      s.draft.update id (numbered (s.footnotes.register text (s.markStyle id)).1) := by
    rw [registerFootnote, hentry, hdraft]
  refine
    { registered := ?registered, numbered := ⟨mark, hmark, ?trimmed, ?numbered⟩, cited := ?cited
      others := ?others, sections := ?sections, boxes := ?boxes }
  case registered => rw [footnotes_attach, registerFootnote, hentry]
  case trimmed => rw [← hmarkText, htext]
  case numbered =>
    rw [get?_attach, hregistered, Draft.update, Arena.get?_update, if_pos rfl, hmark]
    rfl
  case cited =>
    intro numberedMark hnumbered
    rw [get?_attach] at hnumbered
    rw [footnotes_attach]
    refine hclosed.cites_registerFootnote ?_ hnumbered
    rw [textOf, hdraft, ← htext, textOf]
  case others =>
    intro other hother
    rw [get?_attach, hregistered, Draft.update, Arena.get?_update, if_neg hother]
  case sections =>
    intro place
    rw [ids_attach hnested, hcontainers, hplace, hregistered, Draft.update, Draft.ids_arena]
  case boxes =>
    intro box
    rw [children_attach hnested, hcontainers, hregistered, Draft.update, Arena.children_update]

/-- A footnote with hardly any text is dropped. -/
theorem dropsFootnote_endFootnote (hc : Cited ⟨s, .footnote id previous :: o⟩)
    (hframes : s.footnoteFrames = .visible id previous :: rest)
    (hsize : (Text.trim (s.textOf id)).utf8ByteSize < leastFootnoteSize) :
    DropsFootnote id s s.endFootnote := by
  have hdraft := s.draft_leaveFootnote previous rest
  rw [endFootnote_eq hframes, if_neg (Nat.not_le.mpr hsize)]
  refine ⟨s.footnotes_leaveFootnote previous rest, hdraft, ?_⟩
  rw [hdraft]
  exact hc.unplaced id previous (List.mem_cons_self ..)

end State

/-! ## Blocks of a run -/

variable {env : Environment} {head : Head} {children : List Node} {s t : State}

/-- What a walk that succeeds does to the document, inside of whatever is open. -/
theorem leads_of_walkAll {nodes : List Node} (o : List Opened) (h : walkAll env nodes s = .ok t) :
    Leads (fun _ _ => true) ⟨s, o⟩ ⟨t, o⟩ := by
  obtain ⟨m, htrail, hends⟩ := trails_walkAll env (Node.obeysIn_true nodes (kinds o)) s o fun _ => rfl
  rw [h] at hends
  cases hends
  exact htrail.leads

/-- A footnote on a record that may be seen is filled by its content and then closed, so it
fails only where its content does. -/
theorem walk_footnote {record : Record} (hclear : s.suppression.isClear = true)
    (htag : head.tag = .footnote)
    (hcited : (Leveled.citedXref? s.active.text).bind env.store.record? = some record)
    (hshown : env.store.canShow record = true) (children : List Node) :
    walk env (.element head children) s =
      (walkAll env children
          (s.openFootnote ((head.attributes.resolve s.scope).getD "style" "")) >>=
        fun u => .ok u.endFootnote) := by
  have hzero : ¬ 0 < s.suppression.footnotes := Suppression.not_counter_pos hclear .footnote
  have henter : enter env head s =
      .ok (s.openFootnote ((head.attributes.resolve s.scope).getD "style" "")) := by
    rw [enter_of_allows (Suppression.allows_of_isClear hclear _), startElement, htag]
    dsimp only
    rw [State.beginFootnote, if_neg hzero, hcited]
    dsimp only
    rw [if_pos hshown]
  rw [walk_element, carryOut_of_enter henter]
  generalize hopened : s.openFootnote _ = opened
  cases hbody : walkAll env children opened with
  | error failure => rfl
  | ok u =>
    have hu : u.suppression.isClear = true := by
      refine isClear_of_frame ((realizes_walkAll env children).keepsFrame hbody) ?_
      rw [← hopened]
      exact hclear
    rw [Outcome.ok_bind, Outcome.ok_bind, leave_of_allows (Suppression.allows_of_isClear hu _),
      endElement, htag]

/-- An element that was a footnote stays one. -/
theorem isFootnote_of_extends {arena later : Arena} {id : Nat} (h : arena.Extends later)
    (hid : arena.IsFootnote id) : later.IsFootnote id := by
  obtain ⟨mark, hmark⟩ := hid
  obtain ⟨e, he, hname, -⟩ := h id _ hmark
  cases e with
  | footnote filled => exact ⟨filled, he⟩
  | _ => simp [Element.name] at hname

variable {template : List Node} {scope : Scope} {output : Output}

/-- When the content of a footnote of a run has been carried out, the footnote is the innermost
open element again, and the moment is in order. -/
theorem open_of_content {style : String} {u : State}
    (hs : s ∈ history env template (.start scope output))
    (hbody : walkAll env children (s.openFootnote style) = .ok u) :
    ∃ o, Nested ⟨u, .footnote s.nextId s.current :: o⟩ ∧
      Cited ⟨u, .footnote s.nextId s.current :: o⟩ ∧ u.draft.arena.IsFootnote s.nextId := by
  obtain ⟨o, hbefore⟩ := leads_of_mem_history hs
  have hcontent : Leads (fun _ _ => true)
      ⟨s.openFootnote style, .footnote s.nextId s.current :: o⟩
      ⟨u, .footnote s.nextId s.current :: o⟩ := leads_of_walkAll _ hbody
  have hleads : Leads (fun _ _ => true) (.start scope output)
      ⟨u, .footnote s.nextId s.current :: o⟩ :=
    (hbefore.tail (.openFootnote s style rfl)).trans hcontent
  refine ⟨o, nested_of_leads (nested_start scope output) hleads, cited_of_leads hleads, ?_⟩
  have hopened : (s.openFootnote style).draft.arena.IsFootnote s.nextId :=
    ⟨_, (Arena.get?_alloc ..).trans (if_pos rfl)⟩
  exact isFootnote_of_extends (extends_of_leads hcontent) hopened

/-- **A footnote is kept or dropped by the size of its text.** In a state of a run in which
nothing is skipped, take any footnote on a record that may be seen. It fails only where its
content fails. Otherwise the footnote has no place yet when its content has been carried out.
At its end it is kept if its text, once trimmed, has four characters or more; if it has fewer,
it is dropped when they take fewer than four bytes, and kept when they take four or more. In
any case what was being filled before is being filled again, and text is printed as before. -/
theorem kept_or_dropped_of_footnote {record : Record}
    (hs : s ∈ history env template (.start scope output))
    (hclear : s.suppression.isClear = true) (htag : head.tag = .footnote)
    (hcited : (Leveled.citedXref? s.active.text).bind env.store.record? = some record)
    (hshown : env.store.canShow record = true) (children : List Node) :
    let body := walkAll env children
      (s.openFootnote ((head.attributes.resolve s.scope).getD "style" ""))
    (∀ failure, body = .error failure → walk env (.element head children) s = .error failure) ∧
    ∀ u, body = .ok u → ∃ t, walk env (.element head children) s = .ok t ∧
      t.current = s.current ∧ t.prints = s.prints ∧ t.frame = s.frame ∧
      ¬ u.draft.Places s.nextId ∧
      let text := Text.trim (u.textOf s.nextId)
      (4 ≤ text.length → KeepsFootnote s.nextId text u t) ∧
      (text.length < 4 →
        if text.utf8ByteSize < 4 then DropsFootnote s.nextId u t
        else KeepsFootnote s.nextId text u t) := by
  dsimp only
  rw [walk_footnote hclear htag hcited hshown children]
  generalize (head.attributes.resolve s.scope).getD "style" "" = style
  refine ⟨fun failure hbody => by rw [hbody]; rfl, fun u hbody => ?_⟩
  obtain ⟨o, hn, hc, hfootnote⟩ := open_of_content hs hbody
  have hframe : u.frame = (s.openFootnote style).frame :=
    (realizes_walkAll env children).keepsFrame hbody
  have hframes : u.footnoteFrames = .visible s.nextId s.current :: s.footnoteFrames :=
    congrArg Frame.footnoteFrames hframe
  have hend : u.endFootnote.frame = s.frame := State.frame_endFootnote hframe
  have hkeeps := State.keepsFootnote_endFootnote hn hc hframes hfootnote
  have hdrops := State.dropsFootnote_endFootnote hc hframes
  refine ⟨u.endFootnote, by rw [hbody]; rfl, State.current_endFootnote hframes,
    congrArg Frame.prints hend, hend, hc.unplaced _ _ (List.mem_cons_self ..), ?_⟩
  generalize Text.trim (u.textOf s.nextId) = text at hkeeps hdrops ⊢
  refine ⟨fun hlong => hkeeps (hlong.trans (Text.length_le_utf8ByteSize text)), fun _ => ?_⟩
  split
  next hsmall => exact hdrops hsmall
  next hlarge => exact hkeeps (Nat.not_lt.mp hlarge)

/-- A footnote without attributes. -/
def plainFootnote : Head :=
  ⟨.footnote, "Footnote", ⟨[]⟩, {}⟩

/-- A cell in a text box, on a person with a source. -/
def boxedCell : List Node :=
  [.element ⟨.gedcom, "Gedcom", ⟨[("id", "I1")]⟩, {}⟩
    [.element ⟨.textBox, "TextBox", ⟨[]⟩, {}⟩
      [.element ⟨.cell, "Cell", ⟨[]⟩, {}⟩ [.text "Born"]]]]

/-- The source of the person. -/
def citedSource : Record :=
  ⟨"S1", .source, "0 @S1@ SOUR"⟩

/-- Content with four characters around another footnote. -/
def footnoteAround : List Node :=
  [.text " Øl ", .element plainFootnote [.text "Census"], .text "7 "]

/-- The footnote is kept behind the one that stands in it, and its text has four characters. -/
theorem kept_of_footnoteAround :
    ∃ s ∈ history personWithSource boxedCell (.start {} {}), ∃ u t,
      walkAll personWithSource footnoteAround (s.openFootnote "") = .ok u ∧
      walk personWithSource (.element plainFootnote footnoteAround) s = .ok t ∧
      t.current = s.current ∧ t.prints = s.prints ∧ s.current = some 1 ∧ s.prints = true ∧
      u.footnotes.entries.map FootnoteEntry.text = ["Census"] ∧
      KeepsFootnote s.nextId "Øl 7" u t := by
  have hstart : (history personWithSource boxedCell (.start {} {}))[4]?.map (fun s =>
      (s.suppression.isClear, (Leveled.citedXref? s.active.text).bind personWithSource.store.record?,
        s.current, s.prints)) = some (true, some citedSource, some 1, true) := by
    decide +kernel
  have hfilled : (history personWithSource boxedCell (.start {} {}))[4]?.bind (fun s =>
      (walkAll personWithSource footnoteAround (s.openFootnote "")).toOption.map fun u =>
        (Text.trim (u.textOf s.nextId), u.footnotes.entries.map FootnoteEntry.text)) =
        some ("Øl 7", ["Census"]) := by
    decide +kernel
  obtain ⟨s, hs, hfields⟩ := Option.map_eq_some_iff.mp hstart
  simp only [Prod.mk.injEq] at hfields
  obtain ⟨hclear, hcited, hcurrent, hprints⟩ := hfields
  have hmem := List.mem_of_getElem? hs
  rw [hs, Option.bind_some] at hfilled
  have htag : plainFootnote.tag = .footnote := rfl
  obtain ⟨-, hends⟩ := kept_or_dropped_of_footnote hmem hclear htag hcited (by decide +kernel)
    footnoteAround
  cases hu : walkAll personWithSource footnoteAround (s.openFootnote "") with
  | error failure =>
    rw [hu] at hfilled
    cases hfilled
  | ok u =>
    rw [hu] at hfilled
    obtain ⟨htext, hentries⟩ := Prod.mk.inj (Option.some.inj hfilled)
    obtain ⟨t, ht, hback, hprinted, -, -, hkept, -⟩ := hends u hu
    rw [htext] at hkept
    exact ⟨s, hmem, u, t, hu, ht, hback, hprinted, hcurrent, hprints, hentries,
      hkept (by decide +kernel)⟩

/-- Three characters, the first of which takes two bytes, are not dropped. -/
theorem not_dropsFootnote_of_threeCharacters :
    ∃ s ∈ history personWithSource boxedCell (.start {} {}), ∃ u t,
      walkAll personWithSource [.text "§ 7"] (s.openFootnote "") = .ok u ∧
      walk personWithSource (.element plainFootnote [.text "§ 7"]) s = .ok t ∧
      (Text.trim (u.textOf s.nextId)).length = 3 ∧ ¬ DropsFootnote s.nextId u t := by
  have hfacts : (history personWithSource boxedCell (.start {} {}))[4]?.map (fun s =>
      ((walkAll personWithSource [.text "§ 7"] (s.openFootnote "")).toOption.map fun u =>
          ((Text.trim (u.textOf s.nextId)).length, u.footnotes.entries.length),
        (walk personWithSource (.element plainFootnote [.text "§ 7"]) s).toOption.map fun t =>
          t.footnotes.entries.length)) = some (some (3, 0), some 1) := by
    decide +kernel
  obtain ⟨s, hs, hfields⟩ := Option.map_eq_some_iff.mp hfacts
  obtain ⟨hcontent, hwalked⟩ := Prod.mk.inj hfields
  cases hu : walkAll personWithSource [.text "§ 7"] (s.openFootnote "") with
  | error failure =>
    rw [hu] at hcontent
    cases hcontent
  | ok u =>
    cases ht : walk personWithSource (.element plainFootnote [.text "§ 7"]) s with
    | error failure =>
      rw [ht] at hwalked
      cases hwalked
    | ok t =>
      rw [hu] at hcontent
      rw [ht] at hwalked
      obtain ⟨hlength, hnone⟩ := Prod.mk.inj (Option.some.inj hcontent)
      refine ⟨s, List.mem_of_getElem? hs, u, t, hu, ht, hlength, fun hdrops => ?_⟩
      -- the table has an entry that it had not before
      have hone : t.footnotes.entries.length = 1 := Option.some.inj hwalked
      rw [hdrops.footnotes, hnone] at hone
      cases hone

end Report

end Lineage
