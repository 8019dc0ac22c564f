import Lineage.Proofs.Walk.Output

/-!
# A report is handed over as a whole or not at all

The output gets the elements of a report and its footnotes from the end of the
document, in one go. If the template has one document, and that is not inside a
repeated block, this happens once or never: when the run fails before the end of
the document, or when the document is skipped, the output stays as it was; and
nothing that happens afterwards, be it a failure, changes what was handed over.

`endings` lists the states in which the elements with a tag end, the repetitions
of blocks included. A template that has the tag only once, and not in a repeated
block, has at most one of them.

> `contents_of_run`: in the end the output of a run has nothing in it, and no
> document has ended; or it is finished and has what was written when the one
> document ended.
-/

namespace Lineage

open Template (Head Node Tag)

namespace Template.Node

mutual

/-- The elements with a tag at or below a node: for each of them whether it is
inside a repeated block, `repeated` telling whether the node is. -/
def occurrences (tag : Tag) (repeated : Bool) : Node → List Bool
  | text _ => []
  | element head children =>
    (if head.tag = tag then [repeated] else []) ++
      occurrencesIn tag (repeated || head.tag.isRepeat) children

/-- The elements with a tag in a list of nodes. -/
def occurrencesIn (tag : Tag) (repeated : Bool) : List Node → List Bool
  | [] => []
  | node :: rest => occurrences tag repeated node ++ occurrencesIn tag repeated rest

end

/-- Inside of a repeated block no element is outside of one. -/
theorem false_not_mem_occurrencesIn (tag : Tag) (nodes : List Node) :
    false ∉ occurrencesIn tag true nodes := by
  induction nodes using Node.forest with
  | nil => simp [occurrencesIn]
  | text s rest ih => simpa [occurrencesIn, occurrences] using ih
  | element head children rest ihChildren ihRest =>
    rw [occurrencesIn, occurrences, Bool.true_or, List.mem_append, List.mem_append]
    rintro ((hhead | hchildren) | hrest)
    · split at hhead <;> simp at hhead
    · exact ihChildren hchildren
    · exact ihRest hrest

/-- Where an element has nothing with a tag, it does not have the tag itself. -/
theorem occurrences_eq_nil {tag : Tag} {repeated : Bool} {head : Head} {children : List Node}
    (h : occurrences tag repeated (.element head children) = []) :
    head.tag ≠ tag ∧ occurrencesIn tag (repeated || head.tag.isRepeat) children = [] := by
  rw [occurrences, List.append_eq_nil_iff] at h
  refine ⟨fun htag => ?_, h.2⟩
  rw [if_pos htag] at h
  cases h.1

/-- An element in which a tag is found once, outside of repeated blocks, has the
tag itself or is no repeated block. -/
theorem occurrences_eq_once {tag : Tag} {head : Head} {children : List Node}
    (h : occurrences tag false (.element head children) = [false]) :
    (head.tag = tag ∧ occurrencesIn tag head.tag.isRepeat children = []) ∨
      (head.tag ≠ tag ∧ head.tag.isRepeat = false ∧
        occurrencesIn tag false children = [false]) := by
  rw [occurrences, Bool.false_or] at h
  by_cases htag : head.tag = tag
  · rw [if_pos htag] at h
    exact .inl ⟨htag, List.append_cancel_left h⟩
  · rw [if_neg htag, List.nil_append] at h
    cases hrepeat : head.tag.isRepeat with
    | true =>
      rw [hrepeat] at h
      have hmem : false ∈ occurrencesIn tag true children := by
        rw [h]
        exact List.mem_singleton.mpr rfl
      exact absurd hmem (false_not_mem_occurrencesIn tag children)
    | false =>
      rw [hrepeat] at h
      exact .inr ⟨htag, rfl, h⟩

end Template.Node

namespace Report

/-! ## Where elements end -/

section

variable (env : Environment) (tag : Tag)

/-- The states in which elements end while a body is carried out for one item
after the other, `ends` giving those of the body. -/
def itemEndings (body : State → Outcome) (ends : State → List State) :
    List Item → State → List State
  | [], _ => []
  | item :: rest, s =>
    s.replayStates env ends item ++
    match s.replayItem env body item with
    | .ok t => itemEndings body ends rest t
    | .error _ => []

/-- The states in which elements end while the body of a repeated block is
carried out at its end. -/
def repeatEndings (body : State → Outcome) (ends : State → List State) (s : State) :
    List State :=
  let s := { s with suppression.repeats := s.suppression.repeats - 1 }
  if 0 < s.suppression.repeats then []
  else
    match s.collected with
    | [] => []
    | items :: rest =>
      itemEndings env body ends items.toList ({ s with collected := rest }.beginItems items)

/-- The states in which elements with the tag end when an element is left: the one
in which it is left itself, if it has the tag, and those of its repetitions. -/
def leaveEndings (head : Head) (body : State → Outcome) (ends : State → List State)
    (s : State) : List State :=
  if s.suppression.allows head.tag then
    (if head.tag = tag then [s] else []) ++
      if head.tag.isRepeat then repeatEndings env body ends s else []
  else []

mutual

/-- The states in which elements with the tag end in the walk of a node. -/
def nodeEndings : Node → State → List State
  | .text _, _ => []
  | .element head children, s =>
    match enter env head s with
    | .error _ => []
    | .ok t =>
      endings children t ++
      match walkAll env children t with
      | .ok u => leaveEndings env tag head (walkAll env children) (endings children) u
      | .error _ => []

/-- The states in which elements with the tag end in the walk of a list of nodes,
in the order in which they do. -/
def endings : List Node → State → List State
  | [], _ => []
  | node :: rest, s =>
    nodeEndings node s ++
    match walk env node s with
    | .ok t => endings rest t
    | .error _ => []

end

end

variable {env : Environment} {tag : Tag} {head : Head} {body : State → Outcome}

theorem endings_text (text : String) (rest : List Node) (s : State) :
    endings env tag (.text text :: rest) s =
      endings env tag rest (if s.printsText then s.addText text else s) := by
  rw [endings, nodeEndings, walk]
  rfl

theorem endings_element (children rest : List Node) (s : State) :
    endings env tag (.element head children :: rest) s =
      nodeEndings env tag (.element head children) s ++
        match carryOut env head (walkAll env children) s with
        | .ok t => endings env tag rest t
        | .error _ => [] := by
  rw [endings, walk_element]

theorem itemEndings_of_none {ends : State → List State} (hends : ∀ s, ends s = [])
    (items : List Item) (s : State) : itemEndings env body ends items s = [] := by
  induction items generalizing s with
  | nil => rw [itemEndings]
  | cons item rest ih =>
    have hreplay : s.replayStates env ends item = [] := by
      unfold State.replayStates
      split
      · split
        · rfl
        · exact hends _
      · rfl
    rw [itemEndings, hreplay, List.nil_append]
    split
    · exact ih _
    · rfl

theorem repeatEndings_of_none {ends : State → List State} (hends : ∀ s, ends s = [])
    (s : State) : repeatEndings env body ends s = [] := by
  unfold repeatEndings
  dsimp only
  split
  · rfl
  · split
    · rfl
    · exact itemEndings_of_none hends _ _

/-- Leaving an element ends none with another tag, if nothing in it does. -/
theorem leaveEndings_of_none {ends : State → List State} (hends : ∀ s, ends s = [])
    (htag : head.tag ≠ tag) (s : State) : leaveEndings env tag head body ends s = [] := by
  unfold leaveEndings
  rw [if_neg htag, repeatEndings_of_none hends]
  simp

/-- No element with the tag ends in an element with another tag, if none does in
its content. -/
theorem nodeEndings_of_none {children : List Node} (htag : head.tag ≠ tag)
    (hchildren : ∀ s, endings env tag children s = []) (s : State) :
    nodeEndings env tag (.element head children) s = [] := by
  rw [nodeEndings]
  split
  · rfl
  · rw [hchildren, List.nil_append]
    split
    · exact leaveEndings_of_none hchildren htag _
    · rfl

/-- Without elements with the tag none ends. -/
theorem endings_of_none {nodes : List Node} {repeated : Bool}
    (h : Node.occurrencesIn tag repeated nodes = []) (s : State) :
    endings env tag nodes s = [] := by
  induction nodes using Node.forest generalizing repeated s with
  | nil => rw [endings]
  | text text rest ih =>
    rw [Node.occurrencesIn, Node.occurrences, List.nil_append] at h
    rw [endings_text]
    exact ih h _
  | element head children rest ihChildren ihRest =>
    rw [Node.occurrencesIn, List.append_eq_nil_iff] at h
    obtain ⟨htag, hchildren⟩ := Node.occurrences_eq_nil h.1
    rw [endings_element, nodeEndings_of_none htag (ihChildren hchildren), List.nil_append]
    split
    · exact ihRest h.2 _
    · rfl

/-! ## Parts of a template without a document -/

/-- Text hands nothing over. -/
theorem contents_print (text : String) (s : State) :
    (if s.printsText then s.addText text else s).output.contents = s.output.contents := by
  split
  · rw [State.output_addText]
  · rfl

/-- **A template without a document hands nothing over.** -/
theorem withholds_walkAll (env : Environment) {nodes : List Node} {repeated : Bool}
    (h : Node.occurrencesIn .doc repeated nodes = []) : Withholds (walkAll env nodes) := by
  induction nodes using Node.forest generalizing repeated with
  | nil =>
    intro s
    rw [walkAll_nil]
    rfl
  | text text rest ih =>
    intro s
    rw [Node.occurrencesIn, Node.occurrences, List.nil_append] at h
    rw [walkAll_text, ih h]
    exact contents_print text s
  | element head children rest ihChildren ihRest =>
    rw [Node.occurrencesIn, List.append_eq_nil_iff] at h
    obtain ⟨htag, hchildren⟩ := Node.occurrences_eq_nil h.1
    intro s
    rw [walkAll_element]
    exact (withholds_carryOut env htag (ihChildren hchildren)).bind (ihRest h.2) s

/-! ## The part of a template with the document -/

/-- What an output has in the end: nothing, if no document has ended, and else what
was written when one did. -/
def Delivers (outcome : Outcome) (ends : List State) : Prop :=
  (ends = [] ∧ outcome.state.output.contents = {}) ∨
    ∃ d, ends = [d] ∧ outcome.state.output.contents = d.delivery

/-- What hands nothing over may come after it. -/
theorem Delivers.bind {outcome : Outcome} {ends : List State} (h : Delivers outcome ends)
    (hbody : Withholds body) : Delivers (outcome >>= body) ends := by
  have hstate :
      (Outcome.state (outcome >>= body)).output.contents = outcome.state.output.contents := by
    cases outcome with
    | ok t => exact hbody t
    | error failure => rfl
  rw [Delivers, hstate]
  exact h

/-- The document itself: it is handed over at its end, unless something has failed
in it or it is skipped. -/
theorem delivers_document {children : List Node} {s : State} (htag : head.tag = .doc)
    (hchildren : Node.occurrencesIn .doc false children = [])
    (hfresh : s.output.contents = {}) :
    Delivers (carryOut env head (walkAll env children) s)
      (nodeEndings env .doc (.element head children) s) := by
  have henter := contents_enter env head s
  rw [carryOut, nodeEndings]
  cases hstart : enter env head s with
  | error failure =>
    rw [hstart] at henter
    exact .inl ⟨rfl, henter.trans hfresh⟩
  | ok t =>
    rw [hstart] at henter
    have hwalk := withholds_walkAll env hchildren t
    rw [Outcome.ok_bind]
    dsimp only
    rw [endings_of_none hchildren, List.nil_append]
    cases hcontent : walkAll env children t with
    | error failure =>
      rw [hcontent] at hwalk
      exact .inl ⟨rfl, hwalk.trans (henter.trans hfresh)⟩
    | ok u =>
      rw [hcontent] at hwalk
      have hu : u.output.contents = {} := hwalk.trans (henter.trans hfresh)
      rw [Outcome.ok_bind]
      dsimp only
      rw [leave, leaveEndings, htag]
      split
      · right
        obtain ⟨output, hend, hdelivery⟩ := endDocument_of_fresh hu
        have hleave : endElement env head (walkAll env children) u = u.endDocument := by
          rw [endElement, htag]
        rw [hleave, hend]
        exact ⟨u, rfl, hdelivery⟩
      · exact .inl ⟨rfl, hu⟩

/-- An element that has the document in its content, and is repeated by nothing. -/
theorem delivers_around {children : List Node} {s : State} (htag : head.tag ≠ .doc)
    (hrepeat : head.tag.isRepeat = false)
    (hchildren : ∀ {t : State}, t.output.contents = {} →
      Delivers (walkAll env children t) (endings env .doc children t))
    (hfresh : s.output.contents = {}) :
    Delivers (carryOut env head (walkAll env children) s)
      (nodeEndings env .doc (.element head children) s) := by
  have henter := contents_enter env head s
  rw [carryOut, nodeEndings]
  cases hstart : enter env head s with
  | error failure =>
    rw [hstart] at henter
    exact .inl ⟨rfl, henter.trans hfresh⟩
  | ok t =>
    rw [hstart] at henter
    have hwalk := hchildren (henter.trans hfresh)
    rw [Outcome.ok_bind]
    dsimp only
    have hends : (match walkAll env children t with
        | .ok u =>
          leaveEndings env .doc head (walkAll env children) (endings env .doc children) u
        | .error _ => []) = [] := by
      split
      · unfold leaveEndings
        rw [if_neg htag, hrepeat]
        simp
      · rfl
    rw [hends, List.append_nil]
    refine hwalk.bind (withholds_leave htag ?_)
    intro h
    rw [hrepeat] at h
    cases h

/-- **A part of a template with one document outside of repeated blocks hands over
what was written when the document ended, or nothing.** -/
theorem delivers_walkAll (env : Environment) {nodes : List Node}
    (h : Node.occurrencesIn .doc false nodes = [false]) {s : State}
    (hfresh : s.output.contents = {}) :
    Delivers (walkAll env nodes s) (endings env .doc nodes s) := by
  induction nodes using Node.forest generalizing s with
  | nil => cases h
  | text text rest ih =>
    rw [Node.occurrencesIn, Node.occurrences, List.nil_append] at h
    rw [walkAll_text, endings_text]
    exact ih h ((contents_print text s).trans hfresh)
  | element head children rest ihChildren ihRest =>
    rw [Node.occurrencesIn] at h
    rw [walkAll_element, endings_element]
    rcases List.append_eq_singleton_iff.mp h with ⟨hnode, hrest⟩ | ⟨hnode, hrest⟩
    · -- the document comes after the element
      obtain ⟨htag, hchildren⟩ := Node.occurrences_eq_nil hnode
      have hcarry := withholds_carryOut env htag (withholds_walkAll env hchildren) s
      rw [nodeEndings_of_none htag (endings_of_none hchildren), List.nil_append]
      cases hcarried : carryOut env head (walkAll env children) s with
      | error failure =>
        rw [hcarried] at hcarry
        exact .inl ⟨rfl, hcarry.trans hfresh⟩
      | ok t =>
        rw [hcarried] at hcarry
        exact ihRest hrest (hcarry.trans hfresh)
    · -- the document is the element, or it is in it
      have hends : (match carryOut env head (walkAll env children) s with
          | .ok t => endings env .doc rest t
          | .error _ => []) = [] := by
        split
        · exact endings_of_none hrest _
        · rfl
      rw [hends, List.append_nil]
      refine Delivers.bind ?_ (withholds_walkAll env hrest)
      rcases Node.occurrences_eq_once hnode with ⟨htag, hchildren⟩ | ⟨htag, hrepeat, hchildren⟩
      · rw [htag] at hchildren
        exact delivers_document htag hchildren hfresh
      · exact delivers_around htag hrepeat (ihChildren hchildren) hfresh

/-! ## Whole runs -/

/-- **The output of a run is all or nothing.** The template has one document, which
is not inside a repeated block, and the output is fresh. However the run ends, in
success or with a failure at any point: either no document has ended, and the output
is unfinished and has nothing in it; or one has, and the output is finished and has
in each section exactly the elements of that moment, in order, and exactly the
footnotes of that moment. -/
theorem contents_of_run (env : Environment) {template : List Node}
    (h : Node.occurrencesIn .doc false template = [false]) (scope : Scope) {output : Output}
    (hfresh : output.contents = {}) :
    (endings env .doc template (.start scope output) = [] ∧
      (run env template scope output).state.output.finished = false ∧
      (∀ place, (run env template scope output).state.output.elements place = []) ∧
      (run env template scope output).state.output.footnotes = []) ∨
    ∃ d, endings env .doc template (.start scope output) = [d] ∧
      (run env template scope output).state.output.finished = true ∧
      (∀ place, (run env template scope output).state.output.elements place =
        d.draft.trees place) ∧
      (run env template scope output).state.output.footnotes = d.footnotes.entries := by
  have hrun : Delivers (run env template scope output)
      (endings env .doc template (.start scope output)) :=
    delivers_walkAll env h hfresh
  rcases hrun with ⟨hends, hcontents⟩ | ⟨d, hends, hcontents⟩
  · refine .inl ⟨hends, congrArg Contents.finished hcontents, ?_,
      congrArg Contents.footnotes hcontents⟩
    intro place
    rw [← Output.elements_contents, hcontents]
    cases place <;> rfl
  · refine .inr ⟨d, hends, congrArg Contents.finished hcontents, ?_,
      congrArg Contents.footnotes hcontents⟩
    intro place
    rw [← Output.elements_contents, hcontents, State.elements_delivery]

/-- A document with a page break in its body, and behind it a condition that is no
formula. -/
def failureBehindDocument : List Node :=
  [.element ⟨.doc, "Doc", ⟨[]⟩, {}⟩
    [.element ⟨.body, "Body", ⟨[]⟩, {}⟩ [.element ⟨.newPage, "NewPage", ⟨[]⟩, {}⟩ []]],
   .element ⟨.ifTag, "if", ⟨[("condition", "((")]⟩, {}⟩ []]

/-- The run fails after the document has been handed over. -/
theorem contents_of_failureBehindDocument :
    Node.occurrencesIn .doc false failureBehindDocument = [false] ∧
    ({} : Output).contents = {} ∧
    (run {} failureBehindDocument {} {}).toOption.isNone = true ∧
    (run {} failureBehindDocument {} {}).state.output.body.length = 1 ∧
    ((endings {} .doc failureBehindDocument (.start {} {}) = [] ∧
        (run {} failureBehindDocument {} {}).state.output.finished = false ∧
        (∀ place, (run {} failureBehindDocument {} {}).state.output.elements place = []) ∧
        (run {} failureBehindDocument {} {}).state.output.footnotes = []) ∨
      ∃ d, endings {} .doc failureBehindDocument (.start {} {}) = [d] ∧
        (run {} failureBehindDocument {} {}).state.output.finished = true ∧
        (∀ place, (run {} failureBehindDocument {} {}).state.output.elements place =
          d.draft.trees place) ∧
        (run {} failureBehindDocument {} {}).state.output.footnotes = d.footnotes.entries) :=
  ⟨by decide, rfl, by decide +kernel, by decide +kernel,
    contents_of_run {} (by decide) {} rfl⟩

end Report

end Lineage
