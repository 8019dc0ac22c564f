import Lineage.Proofs.Markup.Outline
import Lineage.Template.Setup
import Mathlib.Data.List.DropRight

/-!
# The inputs of a setup

The setup is read in one pass with one text for everything: each event may add to the
text, and the start of a title, a description or an input begins it anew. An input is
kept open from its tag until a closing tag with its name comes.

In a text in which no input stands in another one that is right for inputs with separate
tags: what is read between the tags neither opens nor closes an input, and the text at
the end is that of the label.

> `text_foldl`: the text behind some events is what they bring since the last start of
> a text.
> `inputs_foldl`: the events of fragments add the inputs among them that have an end tag.
> `inputs_of_read`: a setup lists these inputs in document order, with the attributes
> and the label of each.

An input that is written as a self-closed tag is never closed and not listed, and a title
in an input takes away the text in front of it (`not_inputs_of_read`).
-/

namespace Lineage.Template

open Markup (Event Fragment)
open Markup.Fragment (eventsIn elementsIn)

namespace Setup

/-! ## The text of a label -/

/-- Whether an event starts a text of its own. -/
def startsText (e : Event) : Bool :=
  e.tag?.any fun tag => tag.1 == "Title" || tag.1 == "Description" || tag.1 == "Input"

/-- The text that an event brings: that of a message, or what stands in the source. -/
def textOf (localizer : Localizer) : Event → String
  | .opening name attributes | .selfClosed name attributes =>
    if name = "Var" then messageText localizer ((attributes.lookup "var").getD "") else ""
  | .closing _ => ""
  | .text s | .literal s => s
  | .reference name => Markup.textReference name

/-- All that some events bring. -/
def joinedText (localizer : Localizer) (events : List Event) : String :=
  String.join (events.map (textOf localizer))

/-- What some events bring since the last start of a text. -/
def lastText (localizer : Localizer) (events : List Event) : String :=
  joinedText localizer (events.rtakeWhile fun e => !startsText e)

/-- Where no text starts, all that is brought is text. -/
theorem lastText_of_none {localizer : Localizer} {events : List Event}
    (h : ∀ e ∈ events, startsText e = false) :
    lastText localizer events = joinedText localizer events := by
  have hall : events.rtakeWhile (fun e => !startsText e) = events := by
    rw [List.rtakeWhile_eq_self_iff]
    intro e he
    rw [h e he]
    rfl
  rw [lastText, hall]

namespace Reader

variable {localizer : Localizer} {today : Int}

/-! ## One event -/

/-- **An event adds its text**, and a start of a text takes away what was there. -/
theorem text_take (localizer : Localizer) (today : Int) (r : Reader) (e : Event) :
    (r.take localizer today e).text =
      (if startsText e then "" else r.text) ++ textOf localizer e := by
  have hopen (name : String) (attributes : List (String × String)) :
      (r.open_ localizer today name attributes).text =
        (if name == "Title" || name == "Description" || name == "Input" then "" else r.text) ++
          if name = "Var" then messageText localizer ((attributes.lookup "var").getD "")
          else "" := by
    unfold open_
    split
    · rfl
    · rfl
    · rfl
    · rfl
    next htitle hdescription hvar hinput =>
      rw [beq_false_of_ne htitle, beq_false_of_ne hdescription, beq_false_of_ne hinput,
        if_neg hvar]
      exact String.append_empty.symm
  have hclose (name : String) : (r.close name).text = r.text ++ "" := by
    rw [String.append_empty]
    unfold close
    dsimp only
    split
    · rfl
    · rfl
    · split <;> rfl
    · rfl
  cases e with
  | opening name attributes | selfClosed name attributes => exact hopen name attributes
  | closing name => exact hclose name
  | text s | reference name | literal s => rfl

/-- Only a closing tag of an input changes the inputs that have been read. -/
theorem inputs_take (localizer : Localizer) (today : Int) (r : Reader) {e : Event}
    (h : e ≠ .closing "Input") :
    (r.take localizer today e).setup.inputs = r.setup.inputs := by
  have hopen (name : String) (attributes : List (String × String)) :
      (r.open_ localizer today name attributes).setup.inputs = r.setup.inputs := by
    unfold open_
    split <;> rfl
  cases e with
  | opening name attributes | selfClosed name attributes => exact hopen name attributes
  | closing name =>
    show (r.close name).setup.inputs = r.setup.inputs
    unfold close
    dsimp only
    split
    · rfl
    · rfl
    · exact absurd rfl h
    · rfl
  | text s | reference name | literal s => rfl

/-- Only a tag of an input changes the input that is open. -/
theorem input_take (localizer : Localizer) (today : Int) (r : Reader) {e : Event}
    (h : e.name? ≠ some "Input") :
    (r.take localizer today e).input = r.input := by
  have hopen (name : String) (attributes : List (String × String)) (hname : name ≠ "Input") :
      (r.open_ localizer today name attributes).input = r.input := by
    unfold open_
    split
    · rfl
    · rfl
    · rfl
    · exact absurd rfl hname
    · rfl
  cases e with
  | opening name attributes | selfClosed name attributes =>
    apply hopen
    intro hsame
    subst hsame
    exact h rfl
  | closing name =>
    show (r.close name).input = r.input
    unfold close
    dsimp only
    split
    · rfl
    · rfl
    · exact absurd rfl h
    · rfl
  | text s | reference name | literal s => rfl

/-! ## Sequences of events -/

/-- **The text behind some events** is what they bring since the last start of a text. -/
theorem text_foldl {r : Reader} (h : r.text = "") (events : List Event) :
    (events.foldl (take localizer today) r).text = lastText localizer events := by
  -- the events that still count are at the end, so the induction is from there
  induction events using List.reverseRecOn with
  | nil => exact h
  | append_singleton events e ih =>
    rw [List.foldl_concat, text_take, ih]
    unfold lastText
    rw [List.rtakeWhile_concat]
    cases hstarts : startsText e with
    | true =>
      have hempty : textOf localizer e = "" := by
        cases e with
        | opening name attributes | selfClosed name attributes =>
          rw [textOf, if_neg]
          rintro rfl
          cases hstarts
        | closing name | text s | reference name | literal s => cases hstarts
      rw [hempty]
      rfl
    | false =>
      have hjoin (events : List Event) :
          joinedText localizer (events ++ [e]) =
            joinedText localizer events ++ textOf localizer e := by
        rw [joinedText, List.map_append, String.join_append]
        simp [joinedText]
      exact (hjoin _).symm

/-- Without tags of inputs, neither the inputs nor the open one change. -/
theorem inputs_foldl_of_ne (localizer : Localizer) (today : Int) {events : List Event}
    (h : ∀ e ∈ events, e.name? ≠ some "Input") (r : Reader) :
    (events.foldl (take localizer today) r).setup.inputs = r.setup.inputs ∧
      (events.foldl (take localizer today) r).input = r.input := by
  induction events generalizing r with
  | nil => exact ⟨rfl, rfl⟩
  | cons e rest ih =>
    have he := h e List.mem_cons_self
    have hclosing : e ≠ .closing "Input" := by
      intro hsame
      subst hsame
      exact he rfl
    obtain ⟨hinputs, hinput⟩ := ih (fun e he => h e (List.mem_cons_of_mem _ he))
      (r.take localizer today e)
    rw [List.foldl_cons]
    exact ⟨hinputs.trans (r.inputs_take localizer today hclosing),
      hinput.trans (r.input_take localizer today he)⟩

end Reader

/-! ## Elements -/

/-- The input that an element stands for: its attributes, and the text in it as its
label. -/
def inputFrom (localizer : Localizer) (today : Int) (element : Fragment) : Input :=
  { inputOf today element.attributes with
    label := Text.trim (lastText localizer (eventsIn element.content)) }

/-- The elements of inputs that have an end tag, in document order. -/
def closedInputs (fragments : List Fragment) : List Fragment :=
  (elementsIn "Input" fragments).filter Fragment.hasEndTag

theorem closedInputs_cons (fragment : Fragment) (rest : List Fragment) :
    closedInputs (fragment :: rest) =
      (fragment.elements "Input").filter Fragment.hasEndTag ++ closedInputs rest := by
  rw [closedInputs, Fragment.elementsIn, List.filter_append]
  rfl

/-- Whether no element of an input stands in another one. -/
def InputsApart (fragments : List Fragment) : Prop :=
  ∀ element ∈ elementsIn "Input" fragments, elementsIn "Input" element.content = []

instance (fragments : List Fragment) : Decidable (InputsApart fragments) :=
  inferInstanceAs (Decidable (∀ element ∈ elementsIn "Input" fragments,
    elementsIn "Input" element.content = []))

namespace Reader

variable {localizer : Localizer} {today : Int}

/-- An element of an input without other inputs in it is read with its own attributes
and its own text. -/
theorem inputs_element (r : Reader) {attributes : List (String × String)}
    {content : List Fragment} (h : elementsIn "Input" content = []) (closed : Bool) :
    ((Fragment.events (.element "Input" attributes content closed)).foldl
        (take localizer today) r).setup.inputs =
      r.setup.inputs ++
        if closed then [inputFrom localizer today (.element "Input" attributes content closed)]
        else [] := by
  have hcontent : ∀ e ∈ eventsIn content, e.name? ≠ some "Input" :=
    fun e he hname => Markup.elementsIn_ne_nil he hname h
  generalize hopen : r.take localizer today (.opening "Input" attributes) = opened
  have htext : opened.text = "" := by
    rw [← hopen]
    rfl
  have hinput : opened.input = some (inputOf today attributes) := by
    rw [← hopen]
    rfl
  have hinputs : opened.setup.inputs = r.setup.inputs := by
    rw [← hopen]
    rfl
  -- nothing in the content reaches the input that is open
  obtain ⟨hkeptInputs, hkeptInput⟩ := inputs_foldl_of_ne localizer today hcontent opened
  rw [Fragment.events, List.foldl_cons, List.foldl_append, hopen]
  cases closed with
  | false =>
    show _ = r.setup.inputs ++ []
    rw [List.append_nil, ← hinputs, ← hkeptInputs]
    rfl
  | true =>
    show (close "Input" _).setup.inputs = _
    unfold close
    dsimp only
    rw [hkeptInput, hinput, text_foldl htext]
    dsimp only
    rw [hkeptInputs, hinputs]
    rfl

/-- **The events of fragments add the inputs among them**, those that have an end tag, in
their order. -/
theorem inputs_foldl {fragments : List Fragment} (h : InputsApart fragments) (r : Reader) :
    ((eventsIn fragments).foldl (take localizer today) r).setup.inputs =
      r.setup.inputs ++ (closedInputs fragments).map (inputFrom localizer today) := by
  induction fragments using Fragment.forest generalizing r with
  | nil => exact (List.append_nil _).symm
  | text s rest ih | reference s rest ih | literal s rest ih =>
    exact ih h _
  | selfClosed name attributes rest ih =>
    have hrest : InputsApart rest :=
      fun element hmem => h element (List.mem_append_right _ hmem)
    have hkept : (r.take localizer today (.selfClosed name attributes)).setup.inputs =
        r.setup.inputs := by
      apply inputs_take
      intro hsame
      cases hsame
    have hunlisted : closedInputs (.selfClosed name attributes :: rest) = closedInputs rest := by
      rw [closedInputs_cons, Fragment.elements]
      split <;> rfl
    rw [hunlisted, ← hkept]
    exact ih hrest _
  | element name attributes content closed rest ihContent ihRest =>
    have hrest : InputsApart rest :=
      fun element hmem => h element (List.mem_append_right _ hmem)
    rw [closedInputs_cons, List.map_append, ← List.append_assoc, eventsIn, List.foldl_append,
      ihRest hrest]
    congr 1
    by_cases hname : name = "Input"
    · subst hname
      have hcontent : elementsIn "Input" content = [] :=
        h (.element "Input" attributes content closed) List.mem_cons_self
      rw [r.inputs_element hcontent, Fragment.elements, hcontent]
      cases closed <;> rfl
    · have hcontent : InputsApart content := by
        intro element hmem
        refine h element (List.mem_append_left _ ?_)
        rw [Fragment.elements]
        exact List.mem_append_right _ hmem
      rw [Fragment.elements, if_neg hname, Fragment.events, List.foldl_cons,
        List.foldl_append, List.nil_append]
      have hclosing : Event.closing name ≠ .closing "Input" := by
        intro hsame
        cases hsame
        exact hname rfl
      have hopened : (r.take localizer today (.opening name attributes)).setup.inputs =
          r.setup.inputs := by
        apply inputs_take
        intro hsame
        cases hsame
      have hinside := ihContent hcontent (r.take localizer today (.opening name attributes))
      rw [hopened] at hinside
      cases closed with
      | false => exact hinside
      | true => exact (inputs_take localizer today _ hclosing).trans hinside

end Reader

/-! ## Defaults that cannot be resolved -/

theorem breaksDown_eq (today : Int) (e : Event) :
    breaksDown today e = (e.attributesOf? "Input").any fun attributes =>
      (resolveDefault? today (valueOf "default" attributes)).isNone := by
  cases e with
  | opening name attributes | selfClosed name attributes =>
    by_cases hname : name = "Input" <;>
      simp [breaksDown, Event.attributesOf?, Event.tag?, hname]
  | closing name | text s | reference name | literal s => rfl

/-- **The reading breaks down over an input whose default cannot be resolved**, with or
without an end tag. -/
theorem any_breaksDown (today : Int) (fragments : List Fragment) :
    (eventsIn fragments).any (breaksDown today) =
      (elementsIn "Input" fragments).any fun element =>
        (resolveDefault? today (valueOf "default" element.attributes)).isNone := by
  have hattributes := Markup.map_attributes_elementsIn "Input" fragments
  calc (eventsIn fragments).any (breaksDown today)
      = ((eventsIn fragments).filterMap (Event.attributesOf? "Input")).any fun attributes =>
          (resolveDefault? today (valueOf "default" attributes)).isNone := by
        rw [List.any_filterMap]
        congr 1
        funext e
        rw [breaksDown_eq]
        cases e.attributesOf? "Input" <;> rfl
    _ = _ := by rw [← hattributes, List.any_map]; rfl

/-! ## Whole texts -/

/-- In an element without titles, descriptions and inputs in it, all text is that of the
label. -/
theorem lastText_of_elementsIn {localizer : Localizer} {fragments : List Fragment}
    (htitle : elementsIn "Title" fragments = [])
    (hdescription : elementsIn "Description" fragments = [])
    (hinput : elementsIn "Input" fragments = []) :
    lastText localizer (eventsIn fragments) = joinedText localizer (eventsIn fragments) := by
  refine lastText_of_none ?_
  intro e he
  have hne {name : String} (hnone : elementsIn name fragments = []) : e.name? ≠ some name :=
    fun hname => Markup.elementsIn_ne_nil he hname hnone
  cases e with
  | opening name attributes | selfClosed name attributes =>
    have hname {other : String} (hnone : elementsIn other fragments = []) :
        (name == other) = false := by
      apply beq_false_of_ne
      intro hsame
      subst hsame
      exact hne hnone rfl
    show (name == "Title" || name == "Description" || name == "Input") = false
    rw [hname htitle, hname hdescription, hname hinput]
    rfl
  | closing name | text s | reference name | literal s => rfl

/-- **A setup lists the inputs that have an end tag**, each once and in document order,
with its own attributes and the text in it since the last start of a title or a
description; without those that is all its text. The default of each input has to be one that
can be resolved. -/
theorem inputs_of_read (localizer : Localizer) (today : Int) {source : String}
    (hfault : (Markup.read source).fault = none) (hapart : InputsApart (Markup.outline source))
    (hdefaults : ∀ element ∈ elementsIn "Input" (Markup.outline source),
      (resolveDefault? today (valueOf "default" element.attributes)).isSome) :
    eventsIn (Markup.outline source) = (Markup.read source).events.map Markup.Placed.event ∧
      (∃ setup, Setup.read localizer today source = .ok setup ∧
        setup.inputs = (closedInputs (Markup.outline source)).map (inputFrom localizer today)) ∧
      ∀ element ∈ closedInputs (Markup.outline source),
        elementsIn "Title" element.content = [] → elementsIn "Description" element.content = [] →
          (inputFrom localizer today element).label =
            Text.trim (joinedText localizer (eventsIn element.content)) := by
  refine ⟨Markup.eventsIn_outline source, ?_, ?_⟩
  · have hgoes : (eventsIn (Markup.outline source)).any (breaksDown today) = false := by
      rw [any_breaksDown, List.any_eq_false]
      intro element hmem
      rw [Option.isNone_eq_false_iff.mpr (hdefaults element hmem)]
      exact Bool.false_ne_true
    unfold Setup.read
    dsimp only
    rw [hfault, ← Markup.eventsIn_outline, hgoes, if_neg Bool.false_ne_true]
    exact ⟨_, rfl, (Reader.inputs_foldl hapart {}).trans (List.nil_append _)⟩
  · intro element hmem htitle hdescription
    have hinput := hapart element (List.mem_filter.mp hmem).1
    show Text.trim (lastText localizer (eventsIn element.content)) = _
    rw [lastText_of_elementsIn htitle hdescription hinput]

/-- A source with two inputs and other elements around and in them. -/
def questionSource : String :=
  "<p><Input name='a'> <b>Who</b>&lt;<Var var='x'/></Input></p>y<Input default='NOW'></Input>"

theorem inputs_of_read_questionSource :
    ∃ setup, Setup.read {} 738952 questionSource = .ok setup ∧
      setup.inputs = [⟨"a", "", "", "", "", "Who<x"⟩, ⟨"", "", "", "", "07 MAR 2024", ""⟩] := by
  have hfault : (Markup.read questionSource).fault = none := by decide +kernel
  have hapart : InputsApart (Markup.outline questionSource) := by decide +kernel
  have hdefaults : ∀ element ∈ elementsIn "Input" (Markup.outline questionSource),
      (resolveDefault? 738952 (valueOf "default" element.attributes)).isSome := by
    decide +kernel
  obtain ⟨-, ⟨setup, hsetup, hinputs⟩, -⟩ := inputs_of_read {} 738952 hfault hapart hdefaults
  refine ⟨setup, hsetup, hinputs.trans ?_⟩
  decide +kernel

/-- An input that is written as a self-closed tag is not listed, and a title in an input
takes away the text in front of it. -/
theorem not_inputs_of_read :
    (Setup.read {} 0 "<Report><Input name=\"a\"/></Report>").map Setup.inputs = .ok [] ∧
      (elementsIn "Input" (Markup.outline "<Report><Input name=\"a\"/></Report>")).map
        Fragment.attributes = [[("name", "a")]] ∧
      (Setup.read {} 0 "<Input>From<Title>T</Title></Input>").map
        (fun setup => setup.inputs.map Input.label) = .ok ["T"] := by
  decide +kernel

end Setup

end Lineage.Template
