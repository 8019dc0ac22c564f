import Lineage.Proofs.Markup.Reading

/-!
# The outline has all that is read

An outline is put together from the events of a text, one after the other. An event adds
itself at the end of what the outline under construction comes to (`events_take`), a
closing tag because it has the name of the element that it ends. So nothing is lost and
nothing changes its place:

> `eventsIn_outline`: what is read from the fragments of an outline is what was read from
> the text.
-/

namespace Lineage.Markup

namespace Fragment

/-- Induction over fragments: a list of fragments is empty, or it starts with text, with a
self-closed tag or with an element, whose content is a list of fragments itself. -/
@[elab_as_elim]
theorem forest {P : List Fragment → Prop} (nil : P [])
    (text : ∀ s rest, P rest → P (.text s :: rest))
    (reference : ∀ name rest, P rest → P (.reference name :: rest))
    (literal : ∀ s rest, P rest → P (.literal s :: rest))
    (selfClosed : ∀ name attributes rest, P rest → P (.selfClosed name attributes :: rest))
    (element : ∀ name attributes content closed rest, P content → P rest →
      P (.element name attributes content closed :: rest)) :
    ∀ fragments, P fragments
  | [] => nil
  | .text s :: rest =>
    text s rest (forest nil text reference literal selfClosed element rest)
  | .reference name :: rest =>
    reference name rest (forest nil text reference literal selfClosed element rest)
  | .literal s :: rest =>
    literal s rest (forest nil text reference literal selfClosed element rest)
  | .selfClosed name attributes :: rest =>
    selfClosed name attributes rest (forest nil text reference literal selfClosed element rest)
  | .element name attributes content closed :: rest =>
    element name attributes content closed rest
      (forest nil text reference literal selfClosed element content)
      (forest nil text reference literal selfClosed element rest)

theorem eventsIn_append (fragments more : List Fragment) :
    eventsIn (fragments ++ more) = eventsIn fragments ++ eventsIn more := by
  induction fragments with
  | nil => rfl
  | cons fragment rest ih => rw [List.cons_append, eventsIn, eventsIn, ih, List.append_assoc]

theorem eventsIn_concat (fragments : List Fragment) (fragment : Fragment) :
    eventsIn (fragments ++ [fragment]) = eventsIn fragments ++ fragment.events := by
  rw [eventsIn_append, eventsIn, eventsIn, List.append_nil]

end Fragment

open Fragment

/-! ## Outlines under construction -/

namespace Outliner

/-- The events of the open elements, up to the innermost opening tag. -/
def openedEvents : List (String × List (String × String) × List Fragment) → List Event
  | [] => []
  | (name, attributes, before) :: opened =>
    openedEvents opened ++ eventsIn before.reverse ++ [.opening name attributes]

/-- What an outline under construction comes to. -/
def events (o : Outliner) : List Event :=
  openedEvents o.opened ++ eventsIn o.fragments.reverse

/-- The names of the open elements. -/
def names (o : Outliner) : List String :=
  o.opened.map Prod.fst

theorem events_push (o : Outliner) (fragment : Fragment) :
    (o.push fragment).events = o.events ++ fragment.events := by
  rw [events, events, push, List.reverse_cons, eventsIn_concat, List.append_assoc]

/-- **An event comes behind all before it**, when it can be read where the elements of
the outline are open. -/
theorem events_take {o : Outliner} {e : Event} {behind : List String}
    (h : e.namesBehind? o.names = some behind) :
    (o.take e).events = o.events ++ [e] ∧ (o.take e).names = behind := by
  cases e with
  | opening name attributes =>
    cases h
    refine ⟨?_, rfl⟩
    rw [take, events, openedEvents, List.reverse_nil, eventsIn, List.append_nil, ← events]
  | selfClosed name attributes | text s | reference name | literal s =>
    cases h
    exact ⟨o.events_push _, rfl⟩
  | closing name =>
    obtain ⟨fragments, opened⟩ := o
    cases opened with
    | nil => cases h
    | cons entry opened =>
      obtain ⟨first, attributes, before⟩ := entry
      rw [names, List.map_cons, Event.namesBehind?] at h
      split at h
      next hname =>
        cases h
        refine ⟨?_, rfl⟩
        -- the element is written with its tags around the fragments in it
        rw [take, events, events, List.reverse_cons, eventsIn_concat, Fragment.events, if_pos rfl,
          openedEvents, ← hname]
        simp only [List.append_assoc, List.cons_append, List.nil_append]
      next => cases h

theorem events_foldl {o : Outliner} {events : List Event} (h : Matched o.names events) :
    (events.foldl take o).events = o.events ++ events := by
  induction events generalizing o with
  | nil => exact (List.append_nil _).symm
  | cons e rest ih =>
    obtain ⟨behind, hbehind, hrest⟩ := h
    obtain ⟨hevents, hnames⟩ := events_take hbehind
    rw [← hnames] at hrest
    rw [List.foldl_cons, ih hrest, hevents, List.append_assoc, List.singleton_append]

/-- Where the text ends, nothing more is read from the elements that are open. -/
theorem eventsIn_endAll (fragments : List Fragment)
    (opened : List (String × List (String × String) × List Fragment)) :
    eventsIn (endAll fragments opened) = openedEvents opened ++ eventsIn fragments.reverse := by
  induction opened generalizing fragments with
  | nil => rfl
  | cons entry opened ih =>
    obtain ⟨name, attributes, before⟩ := entry
    rw [endAll, ih, List.reverse_cons, eventsIn_concat, Fragment.events, openedEvents]
    simp only [Bool.false_eq_true, if_false, List.append_nil, List.append_assoc,
      List.singleton_append]

end Outliner

/-- **An outline has all that is read**, in its order. -/
theorem eventsIn_outline (source : String) :
    eventsIn (outline source) = (read source).events.map Placed.event := by
  rw [outline, Outliner.finish, Outliner.eventsIn_endAll]
  exact Outliner.events_foldl (matched_read source)

/-! ## Tags and elements -/

/-- Every tag belongs to an element with its name. -/
theorem elementsIn_ne_nil {fragments : List Fragment} {e : Event} {name : String}
    (hmem : e ∈ eventsIn fragments) (hname : e.name? = some name) :
    elementsIn name fragments ≠ [] := by
  induction fragments using forest with
  | nil => cases hmem
  | text s rest ih | reference s rest ih | literal s rest ih =>
    rcases List.mem_cons.mp hmem with rfl | hmem
    · cases hname
    · exact ih hmem
  | selfClosed other attributes rest ih =>
    rw [elementsIn, elements]
    rcases List.mem_cons.mp hmem with rfl | hmem
    · cases hname
      rw [if_pos rfl]
      exact List.cons_ne_nil _ _
    · exact List.append_ne_nil_of_right_ne_nil _ (ih hmem)
  | element other attributes content closed rest ihContent ihRest =>
    rw [elementsIn, elements]
    rw [eventsIn, Fragment.events] at hmem
    have hown (h : other = name) : (if other = name then
        [element other attributes content closed] else []) ≠ [] := by
      rw [if_pos h]
      exact List.cons_ne_nil _ _
    rcases List.mem_append.mp hmem with hmem | hmem
    · refine List.append_ne_nil_of_left_ne_nil ?_ _
      rcases List.mem_cons.mp hmem with rfl | hmem
      · cases hname
        exact List.append_ne_nil_of_left_ne_nil (hown rfl) _
      rcases List.mem_append.mp hmem with hmem | hmem
      · exact List.append_ne_nil_of_right_ne_nil _ (ihContent hmem)
      · split at hmem
        · rw [List.mem_singleton] at hmem
          subst hmem
          cases hname
          exact List.append_ne_nil_of_left_ne_nil (hown rfl) _
        · cases hmem
    · exact List.append_ne_nil_of_right_ne_nil _ (ihRest hmem)

/-- **The elements with a name are its opening tags**, in document order. -/
theorem map_attributes_elementsIn (name : String) (fragments : List Fragment) :
    (elementsIn name fragments).map Fragment.attributes =
      (eventsIn fragments).filterMap (Event.attributesOf? name) := by
  induction fragments using forest with
  | nil => rfl
  | text s rest ih | reference s rest ih | literal s rest ih => exact ih
  | selfClosed other attributes rest ih =>
    rw [elementsIn, elements, List.map_append, ih, eventsIn, List.filterMap_append]
    congr 1
    by_cases hname : other = name <;>
      simp [Fragment.events, Fragment.attributes, Event.attributesOf?, Event.tag?, hname]
  | element other attributes content closed rest ihContent ihRest =>
    -- the closing tag opens nothing
    have hclosing : (if closed then [Event.closing other] else []).filterMap
        (Event.attributesOf? name) = [] := by
      cases closed <;> rfl
    rw [elementsIn, elements, List.map_append, List.map_append, ihContent, ihRest, eventsIn,
      Fragment.events, List.filterMap_append]
    by_cases hname : other = name <;>
      simp [Fragment.attributes, Event.attributesOf?, Event.tag?, hname, hclosing]

end Lineage.Markup
