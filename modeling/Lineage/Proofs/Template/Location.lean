import Lineage.Proofs.Markup.Reading
import Lineage.Template.Compile
import Mathlib.Data.List.Forall2

/-!
# Locations of the elements of a template

An element is located where its opening tag starts. The tree under construction holds
the elements in the order of their opening tags: those of the nodes in front of an open
element, the open element, and so on inwards (`Builder.heads`). An event that opens an
element adds its head at the end of this order, and no other event changes it, so that

> `opens_of_compile`: the elements of a compiled template are those that the opening
> tags of the source open, one for one, in document order.

Each of these tags stands in the source where the reader says (`Placed.Stands`), and
there a text is cut between two characters. So

> `locations_of_compile`: an element has the line and the column of its own bracket,

provided that the source does not start with a byte order mark. With such a mark the
offset is not that in the source (`not_locations_of_compile_marked`).
-/

namespace Lineage

/-! ## Lines and columns -/

namespace Location

theorem byteLength_reverse (cs : List Char) : byteLength cs.reverse = byteLength cs := by
  induction cs with
  | nil => rfl
  | cons c cs ih =>
    rw [List.reverse_cons, byteLength_append, ih, byteLength, byteLength, byteLength]
    omega

/-- The line is counted from the line breaks in front of it, and the column from the
bytes behind the last one. -/
theorem behind_lines {lines last : List Char} (hlines : ∀ c ∈ lines.getLast?, c = '\n')
    (hlast : '\n' ∉ last) :
    behind (lines ++ last) = ⟨lines.count '\n' + 1, byteLength last + 1⟩ := by
  have hrun : (lines ++ last).reverse.takeWhile (· != '\n') = last.reverse := by
    rw [List.reverse_append]
    refine Chars.takeWhile_run ?_ ?_
    · intro c hc
      rw [bne_iff_ne]
      rintro rfl
      exact hlast (List.mem_reverse.mp hc)
    · intro c hc
      rw [List.head?_reverse] at hc
      rw [hlines c hc]
      rfl
  rw [behind, hrun, byteLength_reverse, List.count_append, List.count_eq_zero.mpr hlast,
    Nat.add_zero]

/-- Every text is some whole lines and the start of another one. -/
theorem exists_lines (cs : List Char) :
    ∃ lines last, cs = lines ++ last ∧ (∀ c ∈ lines.getLast?, c = '\n') ∧ '\n' ∉ last := by
  have hsplit := List.takeWhile_append_dropWhile (p := (· != '\n')) (l := cs.reverse)
  refine ⟨(cs.reverse.dropWhile (· != '\n')).reverse, (cs.reverse.takeWhile (· != '\n')).reverse,
    ?_, ?_, ?_⟩
  · rw [← List.reverse_append, hsplit, List.reverse_reverse]
  · intro c hc
    rw [List.getLast?_reverse] at hc
    have hstop := List.head?_dropWhile_not (· != '\n') cs.reverse
    rw [hc] at hstop
    simpa using hstop
  · intro hmem
    have hnot := List.mem_takeWhile_imp (List.mem_reverse.mp hmem)
    simp at hnot

end Location

namespace Template

open Markup (Event Placed)
open Location (IsBoundary byteLength)

/-! ## Elements in document order -/

namespace Node

mutual

/-- The heads of the elements at or below a node, in document order. -/
def heads : Node → List Head
  | text _ => []
  | element head children => head :: headsIn children

/-- The heads of the elements in a list of nodes, in document order. -/
def headsIn : List Node → List Head
  | [] => []
  | node :: rest => heads node ++ headsIn rest

end

theorem headsIn_append (nodes more : List Node) :
    headsIn (nodes ++ more) = headsIn nodes ++ headsIn more := by
  induction nodes with
  | nil => rfl
  | cons node rest ih => rw [List.cons_append, headsIn, headsIn, ih, List.append_assoc]

theorem headsIn_concat (nodes : List Node) (node : Node) :
    headsIn (nodes ++ [node]) = headsIn nodes ++ heads node := by
  rw [headsIn_append, headsIn, headsIn, List.append_nil]

/-- Text that only lays out the source has no elements in it. -/
theorem headsIn_withoutLayout (nodes : List Node) :
    headsIn (withoutLayout nodes) = headsIn nodes := by
  induction nodes with
  | nil => rfl
  | cons node rest ih =>
    rw [withoutLayout, List.filter_cons]
    split
    · rw [headsIn, headsIn, ← ih]
      rfl
    · cases node with
      | text s =>
        rw [headsIn, heads, List.nil_append]
        exact ih
      | element head children => contradiction

end Node

/-! ## Elements under construction -/

namespace Builder

/-- The heads of the elements of a tree under construction, in document order. -/
def heads (b : Builder) : List Head :=
  b.opened.reverse.flatMap (fun entry => Node.headsIn entry.2.reverse ++ [entry.1]) ++
    Node.headsIn b.nodes.reverse

theorem heads_push (b : Builder) (node : Node) : (b.push node).heads = b.heads ++ node.heads := by
  rw [heads, heads, push, List.reverse_cons, Node.headsIn_concat, List.append_assoc]

theorem heads_pushText (b : Builder) (s : String) : (b.pushText s).heads = b.heads := by
  unfold pushText
  split
  · rfl
  · split
    next before rest hnodes =>
      rw [heads, heads, hnodes, List.reverse_cons, List.reverse_cons, Node.headsIn_concat,
        Node.headsIn_concat]
      rfl
    next =>
      exact (b.heads_push (.text s)).trans (List.append_nil _)

/-- An element that is opened comes behind all elements so far. -/
theorem heads_open (b : Builder) (head : Head) :
    heads { nodes := [], opened := (head, b.nodes) :: b.opened } = b.heads ++ [head] := by
  rw [heads, heads, List.reverse_cons, List.flatMap_append, List.flatMap_singleton,
    List.reverse_nil, Node.headsIn, List.append_nil, List.append_assoc]

/-- An element keeps its place when it is closed. -/
theorem heads_close {nodes before : List Node} {head : Head} {opened : List (Head × List Node)} :
    heads { nodes := .element head (withoutLayout nodes.reverse) :: before, opened } =
      heads { nodes, opened := (head, before) :: opened } := by
  rw [heads, heads, List.reverse_cons, List.reverse_cons, List.flatMap_append,
    List.flatMap_singleton, Node.headsIn_concat, Node.heads, Node.headsIn_withoutLayout]
  simp only [List.append_assoc, List.singleton_append]

theorem headsIn_of_finish {b : Builder} {nodes : List Node} (h : b.finish = .ok nodes) :
    Node.headsIn nodes = b.heads := by
  unfold finish at h
  split at h
  next hopened =>
    cases h
    rw [Node.headsIn_withoutLayout, heads, hopened]
    rfl
  next => cases h

end Builder

/-! ## Elements and the tags that open them -/

variable {source : String}

/-- Whether an event opens an element. -/
def opensElement (placed : Placed) : Bool :=
  placed.event.tag?.isSome

/-- Whether an element is the one that an event opens, with the location of its
offset. -/
def Opens (source : String) (head : Head) (placed : Placed) : Prop :=
  ∃ attributes, placed.event.tag? = some (head.name, attributes) ∧
    head.attributes = .ofList attributes ∧ head.location = Location.ofOffset source placed.offset

theorem opens_of_head {placed : Placed} {name : String} {attributes : List (String × String)}
    {head : Head} (htag : placed.event.tag? = some (name, attributes))
    (h : Builder.head source placed.offset name attributes = .ok head) :
    Opens source head placed := by
  unfold Builder.head at h
  dsimp only at h
  split at h
  · cases h
    exact ⟨attributes, htag, rfl, rfl⟩
  · split at h
    · cases h
      exact ⟨attributes, htag, rfl, rfl⟩
    · cases h

/-- Whether a tree under construction gets the elements that some events open, behind
those that it had. -/
def Adds (source : String) (b b' : Builder) (events : List Placed) : Prop :=
  ∃ new, b'.heads = b.heads ++ new ∧ List.Forall₂ (Opens source) new (events.filter opensElement)

theorem Adds.append {b b' b'' : Builder} {events more : List Placed} (h : Adds source b b' events)
    (h' : Adds source b' b'' more) : Adds source b b'' (events ++ more) := by
  obtain ⟨new, hheads, hnew⟩ := h
  obtain ⟨others, hothers, hmore⟩ := h'
  refine ⟨new ++ others, ?_, ?_⟩
  · rw [hothers, hheads, List.append_assoc]
  · rw [List.filter_append]
    exact List.rel_append hnew hmore

variable {b b' : Builder} {placed : Placed}

theorem adds_of_head {name : String} {attributes : List (String × String)} {add : Head → Builder}
    (htag : placed.event.tag? = some (name, attributes))
    (hadd : ∀ head, (add head).heads = b.heads ++ [head])
    (h : (Builder.head source placed.offset name attributes).map add = .ok b') :
    Adds source b b' [placed] := by
  cases hhead : Builder.head source placed.offset name attributes with
  | error e =>
    rw [hhead] at h
    cases h
  | ok head =>
    rw [hhead] at h
    cases h
    refine ⟨[head], hadd head, ?_⟩
    rw [List.filter_cons_of_pos, List.filter_nil]
    · exact .cons (opens_of_head htag hhead) .nil
    · rw [opensElement, htag]
      rfl

theorem adds_of_heads_eq (htag : placed.event.tag? = none) (h : b'.heads = b.heads) :
    Adds source b b' [placed] := by
  refine ⟨[], ?_, ?_⟩
  · rw [h, List.append_nil]
  · rw [List.filter_cons_of_neg, List.filter_nil]
    · exact .nil
    · rw [opensElement, htag]
      exact Bool.false_ne_true

/-- **One event adds the element that it opens**, if it opens one. -/
theorem adds_take (h : b.take source placed = .ok b') : Adds source b b' [placed] := by
  -- two of the events open an element, and the others leave the order as it is
  unfold Builder.take at h
  cases he : placed.event with
  | opening name attributes =>
    rw [he] at h
    exact adds_of_head (by rw [he]; rfl) b.heads_open h
  | selfClosed name attributes =>
    rw [he] at h
    exact adds_of_head (by rw [he]; rfl) (fun head => b.heads_push (.element head [])) h
  | closing name =>
    rw [he] at h
    refine adds_of_heads_eq (by rw [he]; rfl) ?_
    obtain ⟨nodes, opened⟩ := b
    cases opened with
    | nil => cases h
    | cons entry opened =>
      cases h
      exact Builder.heads_close
  | text s | literal s =>
    rw [he] at h
    cases h
    exact adds_of_heads_eq (by rw [he]; rfl) (b.heads_pushText s)
  | reference name =>
    rw [he] at h
    cases h
    exact adds_of_heads_eq (by rw [he]; rfl) (b.heads_pushText _)

theorem adds_foldlM {events : List Placed}
    (h : events.foldlM (Builder.take source) b = .ok b') : Adds source b b' events := by
  induction events generalizing b with
  | nil =>
    cases h
    exact ⟨[], (List.append_nil _).symm, .nil⟩
  | cons placed rest ih =>
    rw [List.foldlM_cons] at h
    cases htake : b.take source placed with
    | error e =>
      rw [htake] at h
      cases h
    | ok next =>
      rw [htake] at h
      exact (adds_take htake).append (ih h)

/-- **The elements of a template are those of the opening tags**, one for one, in
document order. -/
theorem opens_of_compile {nodes : List Node} (h : compile source = .ok nodes) :
    List.Forall₂ (Opens source) (Node.headsIn nodes)
      ((Markup.read source).events.filter opensElement) := by
  unfold compile at h
  dsimp only at h
  cases hbuild : (Markup.read source).events.foldlM (Builder.take source) {} with
  | error e =>
    rw [hbuild] at h
    cases h
  | ok b =>
    rw [hbuild] at h
    cases hfault : (Markup.read source).fault with
    | some fault =>
      rw [hfault] at h
      cases h
    | none =>
      rw [hfault] at h
      obtain ⟨new, hheads, hnew⟩ := adds_foldlM hbuild
      rw [Builder.headsIn_of_finish h, hheads]
      exact hnew

/-! ## Where the tags stand -/

/-- Whether an element has the location of the bracket in front of its name, that
bracket being the one where an event is read: the whole lines in front of it are
counted, and the bytes in front of it in its own line. -/
def LocatedAt (source : String) (head : Head) (placed : Placed) : Prop :=
  ∃ lines last more, source.toList = lines ++ last ++ '<' :: (head.name.toList ++ more) ∧
    byteLength (lines ++ last) = placed.offset ∧
    (∀ c ∈ lines.getLast?, c = '\n') ∧ '\n' ∉ last ∧
    head.location = ⟨lines.count '\n' + 1, byteLength last + 1⟩

/-- An element is located at its bracket if its tag stands where the reader says. -/
theorem locatedAt_of_stands {head : Head} {placed : Placed} (h : Opens source head placed)
    (hstands : placed.Stands source.toList) : LocatedAt source head placed := by
  obtain ⟨attributes, htag, -, hlocation⟩ := h
  obtain ⟨front, cur, next, hsource, hoffset, -, hname⟩ := hstands
  obtain ⟨more, hrest⟩ := hname head.name attributes htag
  obtain ⟨lines, last, hfront, hlines, hlast⟩ := Location.exists_lines front
  refine ⟨lines, last, more, ?_, ?_, hlines, hlast, ?_⟩
  · rw [← hfront, ← hrest, hsource]
  · rw [← hfront, hoffset]
  · rw [hlocation, ← hoffset, Location.ofOffset_of_eq_append hsource, hfront,
      Location.behind_lines hlines hlast]

/-- **Elements are located where their opening tags start.** The source can be cut at
the offset of each event that is read from it, and the elements of the compiled template
are, in document order, those that the opening tags of the source open, each with the
attributes of its tag and the line and column of its bracket. -/
theorem locations_of_compile {source : String} (h : source.toList.head? ≠ some '\uFEFF') :
    (∀ placed ∈ (Markup.read source).events,
        placed.Stands source.toList ∧ IsBoundary source.toList placed.offset) ∧
      ∀ nodes, compile source = .ok nodes →
        List.Forall₂
          (fun head placed => LocatedAt source head placed ∧
            ∃ attributes, placed.event.tag? = some (head.name, attributes) ∧
              head.attributes = .ofList attributes)
          (Node.headsIn nodes) ((Markup.read source).events.filter opensElement) := by
  have hstands := Markup.stands_read source
  rw [Markup.rest_start h] at hstands
  refine ⟨?_, ?_⟩
  · intro placed hplaced
    obtain ⟨front, cur, next, hsource, hoffset, hrest⟩ := hstands placed hplaced
    exact ⟨hstands placed hplaced, front, cur.rest, hsource, hoffset⟩
  · intro nodes hnodes
    have htags : ∀ placed ∈ (Markup.read source).events.filter opensElement,
        placed.Stands source.toList :=
      fun placed hplaced => hstands placed (List.mem_filter.mp hplaced).1
    have hboth := (List.forall₂_and_left _ _).mpr ⟨htags, (opens_of_compile hnodes).flip⟩
    refine hboth.flip.imp ?_
    intro head placed hplaced
    obtain ⟨attributes, htag, hattributes, hlocation⟩ := hplaced.2
    exact ⟨locatedAt_of_stands hplaced.2 hplaced.1, attributes, htag, hattributes⟩

/-- A source with letters of two bytes and line breaks in front of and in its elements. -/
def umlautSource : String :=
  "é\n ü<Doc>\n<Body/>é<Footer a='ä'\n></Footer></Doc>"

theorem locations_of_compile_umlautSource :
    (∀ placed ∈ (Markup.read umlautSource).events,
        IsBoundary umlautSource.toList placed.offset) ∧
      ∃ nodes, compile umlautSource = .ok nodes ∧
        (Node.headsIn nodes).map Head.location = [⟨2, 4⟩, ⟨3, 1⟩, ⟨3, 10⟩] ∧
        List.Forall₂ (LocatedAt umlautSource) (Node.headsIn nodes)
          ((Markup.read umlautSource).events.filter opensElement) := by
  have h : umlautSource.toList.head? ≠ some '\uFEFF' := by decide
  have hlocations : (compile umlautSource).map
      (fun nodes => (Node.headsIn nodes).map Head.location) =
        .ok [⟨2, 4⟩, ⟨3, 1⟩, ⟨3, 10⟩] := by
    decide +kernel
  obtain ⟨hevents, hheads⟩ := locations_of_compile h
  refine ⟨fun placed hplaced => (hevents placed hplaced).2, ?_⟩
  cases hnodes : compile umlautSource with
  | error e =>
    rw [hnodes] at hlocations
    cases hlocations
  | ok nodes =>
    rw [hnodes] at hlocations
    exact ⟨nodes, rfl, Except.ok.inj hlocations, (hheads nodes hnodes).imp fun _ _ => And.left⟩

/-- Behind a byte order mark the offsets are three bytes short: the brackets of the
elements stand at line 1, column 4 and at line 2, column 1, but the elements are located
elsewhere. The offset of a tag may even fall into the mark. -/
theorem not_locations_of_compile_marked :
    (compile "\uFEFF<Doc>\n<Body></Body></Doc>").map
        (fun nodes => (Node.headsIn nodes).map Head.location) = .ok [⟨1, 1⟩, ⟨1, 7⟩] ∧
      Location.behind "\uFEFF".toList = ⟨1, 4⟩ ∧
      Location.behind "\uFEFF<Doc>\n".toList = ⟨2, 1⟩ ∧
      (Markup.read "\uFEFFa<Doc></Doc>").events.map Placed.offset = [0, 1, 6] ∧
      ¬ IsBoundary "\uFEFFa<Doc></Doc>".toList 1 := by
  decide +kernel

end Template

end Lineage
