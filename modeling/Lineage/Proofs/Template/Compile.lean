import Lineage.Proofs.Markup.Written
import Lineage.Template.Compile
import Lineage.Template.Written

/-!
# Compiling undoes writing

A source of a tree is read node by node. What is read of a node does not depend on
what stands around it: from a place in front of its source the compilation reaches
the place behind it, with the node added to those before it (`Reaches`). For text
this takes several events, one for each reference and each run of plain characters
between them, and the builder joins what they bring; for an element it takes its
opening tag, the nodes in it and its closing tag, or a single event. The proof goes
along the way in which the source is written.

> `compile_written`: the source of an element in normal form is compiled to that
> element, up to locations.
-/

namespace Lineage.Template

open Markup

/-! ## Going on from a place -/

/-- What compiling comes to from a place in the source on, with a tree under
construction; `fuel` bounds the number of events. -/
def compileFrom (source : String) (fuel : Nat) (cur : Cursor) (b : Builder) :
    Except CompileError (List Node) := do
  let reading := readFrom fuel cur
  let builder ← reading.events.foldlM (Builder.take source) b
  match reading.fault with
  | some (fault, _) => throw (.markup fault)
  | none => builder.finish

theorem compile_eq (source : String) :
    compile source = compileFrom source (source.toList.length + 1) (.start source) {} :=
  rfl

variable {source : String}

theorem compileFrom_event {fuel : Nat} {cur next : Cursor} {b b' : Builder} {e : Event}
    (hstep : cur.step = .event e next) (htake : b.take source ⟨e, cur.offset⟩ = .ok b') :
    compileFrom source (fuel + 1) cur b = compileFrom source fuel next b' := by
  simp only [compileFrom, readFrom, hstep, List.foldlM_cons, htake]
  rfl

theorem compileFrom_finished {fuel : Nat} {cur : Cursor} (hrest : cur.rest = []) (b : Builder) :
    compileFrom source (fuel + 1) cur b = b.finish := by
  simp only [compileFrom, readFrom, Cursor.step, hrest, List.foldlM_nil]
  rfl

variable (source) in
/-- Whether compiling from one place comes to the same as from another one, as long
as there is fuel for what is left. -/
def Reaches (cur : Cursor) (b : Builder) (cur' : Cursor) (b' : Builder) : Prop :=
  ∀ fuel, cur.rest.length < fuel →
    ∃ fuel', cur'.rest.length < fuel' ∧
      compileFrom source fuel cur b = compileFrom source fuel' cur' b'

theorem Reaches.refl (cur : Cursor) (b : Builder) : Reaches source cur b cur b :=
  fun fuel hfuel => ⟨fuel, hfuel, rfl⟩

theorem Reaches.trans {cur cur' cur'' : Cursor} {b b' b'' : Builder}
    (h : Reaches source cur b cur' b') (h' : Reaches source cur' b' cur'' b'') :
    Reaches source cur b cur'' b'' := by
  intro fuel hfuel
  obtain ⟨fuel', hfuel', heq⟩ := h fuel hfuel
  obtain ⟨fuel'', hfuel'', heq'⟩ := h' fuel' hfuel'
  exact ⟨fuel'', hfuel'', heq.trans heq'⟩

/-- An event that takes up some of the source. -/
theorem Reaches.of_event {cur next : Cursor} {b b' : Builder} {e : Event}
    (hstep : cur.step = .event e next) (hshort : next.rest.length < cur.rest.length)
    (htake : b.take source ⟨e, cur.offset⟩ = .ok b') : Reaches source cur b next b' := by
  intro fuel hfuel
  obtain ⟨fuel, rfl⟩ : ∃ n, fuel = n + 1 := ⟨fuel - 1, by omega⟩
  exact ⟨fuel, by omega, compileFrom_event hstep htake⟩

/-! ## Text -/

theorem Builder.pushText_empty (b : Builder) : b.pushText "" = b :=
  if_pos rfl

/-- **Text that comes in pieces is joined.** -/
theorem Builder.pushText_pushText (b : Builder) (s t : String) :
    (b.pushText s).pushText t = b.pushText (s ++ t) := by
  by_cases hs : s = ""
  · rw [hs, pushText_empty, String.empty_append]
  · by_cases ht : t = ""
    · rw [ht, pushText_empty, String.append_empty]
    · have hst : s ++ t ≠ "" := by
        rw [← String.toList_inj.ne, String.toList_append]
        simp [hs]
      obtain ⟨nodes, opened⟩ := b
      rw [pushText, pushText, pushText, String.isEmpty_eq_false_iff.mpr hs,
        String.isEmpty_eq_false_iff.mpr ht, String.isEmpty_eq_false_iff.mpr hst]
      simp only [Bool.false_eq_true, if_false]
      cases nodes with
      | nil => rfl
      | cons node rest =>
        cases node with
        | text before => simp [String.append_assoc]
        | element head children => rfl

/-- The reference that a character is written as stands for the character. -/
theorem escapedChar_reference {c : Char} (h : isPlain c = false) :
    ∃ name, escapedChar c = '&' :: (name ++ [';']) ∧
      (name.all fun d => d != ';' && d != '&' && d != '<') = true ∧
      textReference (.ofList name) = .ofList [c] := by
  rcases escapedChar_cases h with ⟨rfl, h⟩ | ⟨rfl, h⟩ | ⟨rfl, h⟩
  · exact ⟨"amp".toList, h, rfl, by decide⟩
  · exact ⟨"lt".toList, h, rfl, by decide⟩
  · exact ⟨"quot".toList, h, rfl, by decide⟩

/-- Plain characters are written as they are. -/
theorem escaped_append_of_plain {cs : List Char} (h : ∀ c ∈ cs, isPlain c = true)
    (more : List Char) : escaped (cs ++ more) = cs ++ escaped more := by
  induction cs with
  | nil => rfl
  | cons c cs ih =>
    rw [List.cons_append, escaped_cons, escapedChar_of_isPlain (h c List.mem_cons_self),
      ih fun d hd => h d (List.mem_cons_of_mem _ hd)]
    rfl

/-- Behind a run of plain characters comes a reference or a tag. -/
theorem head_escaped_dropWhile (cs : List Char) {rest : List Char}
    (hbehind : ∀ c, rest.head? = some c → c = '<') :
    ∀ c, (escaped (cs.dropWhile isPlain) ++ rest).head? = some c → c ∈ ['<', '&'] := by
  intro c hc
  cases hmore : cs.dropWhile isPlain with
  | nil =>
    rw [hmore] at hc
    rw [hbehind c hc]
    exact List.mem_cons_self
  | cons d ds =>
    have hd : isPlain d = false := by
      have hne : cs.dropWhile isPlain ≠ [] := by
        rw [hmore]
        exact List.cons_ne_nil d ds
      have hhead := List.head_dropWhile_not isPlain hne
      simpa [hmore] using hhead
    obtain ⟨name, hescaped, -, -⟩ := escapedChar_reference hd
    rw [hmore, escaped_cons, hescaped] at hc
    cases hc
    decide

/-- **The source of a text brings the text**, however it is cut into events. -/
theorem reaches_text (cs : List Char) {rest : List Char}
    (hbehind : ∀ c, rest.head? = some c → c = '<') (b : Builder) {cur : Cursor}
    (hrest : cur.rest = escaped cs ++ rest) :
    ∃ cur', cur'.rest = rest ∧ cur'.openNames = cur.openNames ∧
      Reaches source cur b cur' (b.pushText (.ofList cs)) := by
  induction hlength : cs.length using Nat.strong_induction_on generalizing cs b cur with
  | _ n ih =>
    subst hlength
    cases cs with
    | nil =>
      refine ⟨cur, hrest, rfl, ?_⟩
      rw [show String.ofList [] = "" from rfl, b.pushText_empty]
      exact .refl cur b
    | cons c cs =>
      cases hc : isPlain c with
      | false =>
        obtain ⟨name, hescaped, hname, hvalue⟩ := escapedChar_reference hc
        rw [escaped_cons, hescaped, List.cons_append, List.cons_append, List.append_assoc,
          List.append_assoc, List.singleton_append] at hrest
        obtain ⟨next, hstep, hnext, hopen⟩ := Cursor.step_reference hname hrest
        have hfirst : Reaches source cur b next (b.pushText (.ofList [c])) := by
          refine .of_event hstep ?_ (by rw [← hvalue]; rfl)
          rw [hnext, hrest]
          simp only [List.length_cons, List.length_append]
          omega
        obtain ⟨cur', hrest', hopen', hothers⟩ := ih cs.length (Nat.lt_succ_self _) cs
          (b.pushText (.ofList [c])) hnext rfl
        refine ⟨cur', hrest', hopen'.trans hopen, ?_⟩
        rw [b.pushText_pushText, ← String.ofList_append] at hothers
        exact hfirst.trans hothers
      | true =>
        have hsplit := List.takeWhile_append_dropWhile (p := isPlain) (l := c :: cs)
        have hplain : ∀ d ∈ (c :: cs).takeWhile isPlain, isPlain d = true :=
          fun d hd => List.mem_takeWhile_imp hd
        have hrun : (c :: cs).takeWhile isPlain ≠ [] := by
          rw [List.takeWhile_cons_of_pos hc]
          exact List.cons_ne_nil _ _
        have hlength := congrArg List.length hsplit
        rw [List.length_append] at hlength
        have hpos := List.length_pos_iff.mpr hrun
        rw [← hsplit, escaped_append_of_plain hplain, List.append_assoc] at hrest
        have htext : ∀ d ∈ (c :: cs).takeWhile isPlain, d ∉ ['<', '&'] :=
          fun d hd => Chars.not_mem_of_holds (hplain d hd) (by decide)
        obtain ⟨next, hstep, hnext, hopen⟩ :=
          Cursor.step_text hrun htext (head_escaped_dropWhile (c :: cs) hbehind) hrest
        have hfirst : Reaches source cur b next
            (b.pushText (.ofList ((c :: cs).takeWhile isPlain))) := by
          refine .of_event hstep ?_ rfl
          rw [hnext, hrest]
          simp only [List.length_append]
          omega
        obtain ⟨cur', hrest', hopen', hothers⟩ := ih _ (by omega) _
          (b.pushText (.ofList ((c :: cs).takeWhile isPlain))) hnext rfl
        refine ⟨cur', hrest', hopen'.trans hopen, ?_⟩
        rw [b.pushText_pushText, ← String.ofList_append, hsplit] at hothers
        exact hfirst.trans hothers

/-! ## Heads -/

/-- Attributes whose keys differ are kept as they are. -/
theorem ofList_of_nodup {entries : List (String × String)} (h : (entries.map Prod.fst).Nodup) :
    Attributes.ofList entries = ⟨entries⟩ := by
  have hput {name value : String} {done : List (String × String)}
      (hnew : name ∉ done.map Prod.fst) : Scope.put name value done = done ++ [(name, value)] := by
    induction done with
    | nil => rfl
    | cons entry rest ih =>
      rw [List.map_cons, List.mem_cons, not_or] at hnew
      rw [Scope.put, if_neg (Ne.symm hnew.1), ih hnew.2, List.cons_append]
  have hfold (entries done : List (String × String))
      (h : ((done ++ entries).map Prod.fst).Nodup) :
      entries.foldl (fun done entry => Scope.put entry.1 entry.2 done) done =
        done ++ entries := by
    induction entries generalizing done with
    | nil => rw [List.foldl_nil, List.append_nil]
    | cons entry rest ih =>
      obtain ⟨name, value⟩ := entry
      have hnew : name ∉ done.map Prod.fst := by
        rw [List.map_append, List.map_cons, List.nodup_append] at h
        exact fun hmem => h.2.2 _ hmem _ List.mem_cons_self rfl
      rw [List.foldl_cons]
      simp only [hput hnew]
      rw [ih _ (by rwa [List.append_assoc, List.singleton_append]), List.append_assoc,
        List.singleton_append]
  exact congrArg Attributes.mk (hfold entries [] h)

/-- **The head of an element is read back**, with the location of its tag. -/
theorem head_of_normal {head : Head} (h : head.Normal) (offset : Nat) :
    Builder.head source offset head.name head.attributes.entries =
      .ok { head with location := Location.ofOffset source offset } := by
  have hattributes : Attributes.ofList head.attributes.entries = head.attributes :=
    ofList_of_nodup h.distinct
  rw [Builder.head, ← h.tag, hattributes]
  cases hrequired : head.tag.required? with
  | none => rfl
  | some key => exact if_pos (h.required key hrequired)

theorem take_opening {head : Head} (h : head.Normal) (b : Builder) (offset : Nat) :
    b.take source ⟨.opening head.name head.attributes.entries, offset⟩ =
      .ok { nodes := [],
            opened := ({ head with location := Location.ofOffset source offset }, b.nodes) ::
              b.opened } := by
  simp only [Builder.take, head_of_normal h]
  rfl

theorem take_selfClosed {head : Head} (h : head.Normal) (b : Builder) (offset : Nat) :
    b.take source ⟨.selfClosed head.name head.attributes.entries, offset⟩ =
      .ok (b.push (.element { head with location := Location.ofOffset source offset } [])) := by
  simp only [Builder.take, head_of_normal h]
  rfl

/-! ## Nodes -/

theorem unplacedAll_eq (nodes : List Node) : Node.unplacedAll nodes = nodes.map Node.unplaced := by
  induction nodes with
  | nil => rw [Node.unplacedAll, List.map_nil]
  | cons node rest ih => rw [Node.unplacedAll, ih, List.map_cons]

/-- Whether a node is text. -/
def isText : Node → Bool
  | .text _ => true
  | .element .. => false

@[simp] theorem isText_unplaced (node : Node) : isText node.unplaced = isText node := by
  cases node <;> rfl

theorem isLayout_unplaced (node : Node) : isLayout node.unplaced = isLayout node := by
  cases node <;> rfl

theorem isLayout_of_normal {node : Node} (h : node.Normal) : isLayout node = false := by
  cases h with
  | @text s plain =>
    rw [isLayout, Bool.and_eq_false_iff]
    by_cases hbreak : '\n' ∈ s.toList
    · obtain ⟨c, hc, hblank⟩ := plain.noLayout hbreak
      refine .inr ?_
      rw [Text.isAllBlank, List.all_eq_false]
      exact ⟨c, hc, by simp [hblank]⟩
    · refine .inl ?_
      rwa [← Bool.not_eq_true, List.contains_iff_mem]
  | element => rfl

/-- **Nothing of a tree in normal form is left out as layout.** -/
theorem withoutLayout_of_normal {nodes nodes' : List Node} (h : ∀ node ∈ nodes, node.Normal)
    (hsame : Node.unplacedAll nodes' = Node.unplacedAll nodes) :
    withoutLayout nodes' = nodes' := by
  refine List.filter_eq_self.mpr fun node hnode => ?_
  rw [unplacedAll_eq, unplacedAll_eq] at hsame
  have hmem : node.unplaced ∈ nodes.map Node.unplaced := hsame ▸ List.mem_map_of_mem hnode
  obtain ⟨original, horiginal, heq⟩ := List.mem_map.mp hmem
  rw [← isLayout_unplaced, ← heq, isLayout_unplaced, isLayout_of_normal (h original horiginal)]
  rfl

theorem apart_cons {node : Node} {rest : List Node} (h : apart (node :: rest) = true) :
    apart rest = true ∧ ¬ (isText node = true ∧ rest.head?.any isText = true) := by
  cases node with
  | element head children => exact ⟨h, by simp [isText]⟩
  | text s =>
    cases rest with
    | nil => exact ⟨rfl, by simp⟩
    | cons next rest =>
      cases next with
      | text t => cases h
      | element head children => exact ⟨h, by simp [isText]⟩

/-- A source that is not one of a text starts a tag, unless there is none. -/
theorem head_of_writtenAll {nodes : List Node} {text : List Char} (h : WrittenAll nodes text)
    (hnodes : ¬ nodes.head?.any isText = true) {rest : List Char}
    (hbehind : ∀ c, rest.head? = some c → c = '<') :
    ∀ c, (text ++ rest).head? = some c → c = '<' := by
  cases h with
  | nil => exact hbehind
  | cons first others =>
    cases first with
    | text s => exact absurd rfl hnodes
    | selfClosed head | element head written =>
      rintro c ⟨⟩
      rfl

/-- Whether the nodes so far end with a text. -/
def Builder.endsWithText (b : Builder) : Bool :=
  b.nodes.head?.any isText

/-- A text that does not join another one becomes a node. -/
theorem Builder.pushText_eq_push {b : Builder} (h : b.endsWithText = false) {s : String}
    (hs : s ≠ "") : b.pushText s = b.push (.text s) := by
  obtain ⟨nodes, opened⟩ := b
  rw [pushText, String.isEmpty_eq_false_iff.mpr hs]
  cases nodes with
  | nil => rfl
  | cons node rest =>
    cases node with
    | text before => cases h
    | element head children => rfl

mutual

/-- **The source of a node brings the node.** -/
theorem reaches_node (source : String) {node : Node} {text : List Char}
    (hwritten : Written node text) (hnormal : node.Normal) {b : Builder} {cur : Cursor}
    {rest : List Char}
    (hbehind : isText node = true → ∀ c, rest.head? = some c → c = '<')
    (hjoin : isText node = true → b.endsWithText = false) (hrest : cur.rest = text ++ rest) :
    ∃ cur' node', cur'.rest = rest ∧ cur'.openNames = cur.openNames ∧
      node'.unplaced = node.unplaced ∧ Reaches source cur b cur' (b.push node') :=
  match node, hwritten, hnormal with
  | .text s, .text _, .text plain => by
    obtain ⟨cur', hrest', hopen, htext⟩ := reaches_text s.toList (hbehind rfl) b hrest
    rw [String.ofList_toList, Builder.pushText_eq_push (hjoin rfl) plain.nonempty] at htext
    exact ⟨cur', .text s, hrest', hopen, rfl, htext⟩
  | .element head [], .selfClosed _, .element hhead _ _ => by
    rw [List.cons_append, List.append_assoc, List.cons_append, List.singleton_append] at hrest
    obtain ⟨next, hstep, hnext, hopen⟩ :=
      Cursor.step_selfClosed hhead.name hhead.keys hhead.distinct hrest
    refine ⟨next, .element { head with location := Location.ofOffset source cur.offset } [], hnext,
      hopen, rfl, .of_event hstep ?_ ?_⟩
    · rw [hnext, hrest]
      simp only [List.length_cons, List.length_append]
      omega
    · exact take_selfClosed hhead b cur.offset
  | .element head children, @Written.element _ _ inner hchildren,
      .element hhead hnormals hapart => by
    have hopening : cur.rest = '<' :: (tagText head.name head.attributes.entries ++
        '>' :: (inner ++ '<' :: '/' :: (head.name.toList ++ '>' :: rest))) := by
      rw [hrest, Head.text]
      simp
    obtain ⟨first, hstep, hfirst, hopen⟩ :=
      Cursor.step_opening hhead.name hhead.keys hhead.distinct hopening
    let placed : Head := { head with location := Location.ofOffset source cur.offset }
    have hstart : Reaches source cur b first
        { nodes := [], opened := (placed, b.nodes) :: b.opened } := by
      refine .of_event hstep ?_ ?_
      · rw [hfirst, hopening]
        simp only [List.length_cons, List.length_append]
        omega
      · exact take_opening hhead b cur.offset
    obtain ⟨second, children', hsecond, hnames, hsame, hinner⟩ :=
      reaches_nodes source hchildren hnormals hapart
        (b := { nodes := [], opened := (placed, b.nodes) :: b.opened })
        (by rintro c ⟨⟩; rfl) (fun _ => rfl) hfirst
    obtain ⟨last, hclose, hlast, hclosed⟩ :=
      Cursor.step_closing hhead.name (hnames.trans hopen) hsecond
    refine ⟨last, .element placed children', hlast, hclosed, ?_, hstart.trans (hinner.trans ?_)⟩
    · rw [Node.unplaced, Node.unplaced, hsame]
      rfl
    · refine .of_event hclose ?_ ?_
      · rw [hlast, hsecond]
        simp only [List.length_cons, List.length_append]
        omega
      · simp only [Builder.take, List.append_nil, List.reverse_reverse,
          withoutLayout_of_normal hnormals hsame]
        rfl

/-- **The source of nodes that follow each other brings the nodes.** -/
theorem reaches_nodes (source : String) {nodes : List Node} {text : List Char}
    (hwritten : WrittenAll nodes text) (hnormal : ∀ node ∈ nodes, node.Normal)
    (hapart : apart nodes = true) {b : Builder} {cur : Cursor} {rest : List Char} (hbehind : ∀ c, rest.head? = some c → c = '<')
    (hjoin : nodes.head?.any isText = true → b.endsWithText = false)
    (hrest : cur.rest = text ++ rest) :
    ∃ cur' nodes', cur'.rest = rest ∧ cur'.openNames = cur.openNames ∧
      Node.unplacedAll nodes' = Node.unplacedAll nodes ∧
      Reaches source cur b cur' { b with nodes := nodes'.reverse ++ b.nodes } :=
  match nodes, hwritten with
  | [], .nil => ⟨cur, [], hrest, rfl, rfl, .refl cur b⟩
  | node :: others, .cons first hothers => by
    obtain ⟨hapart', hseparate⟩ := apart_cons hapart
    rw [List.append_assoc] at hrest
    obtain ⟨next, node', hnext, hopen, hsame, hfirst⟩ :=
      reaches_node source first (hnormal node List.mem_cons_self) (b := b)
        (fun htext => head_of_writtenAll hothers (fun hnext => hseparate ⟨htext, hnext⟩) hbehind)
        hjoin hrest
    have hjoin' : others.head?.any isText = true → (b.push node').endsWithText = false := by
      intro hnext
      have htext : isText node' = isText node := by
        rw [← isText_unplaced, hsame, isText_unplaced]
      change isText node' = false
      rw [htext, ← Bool.not_eq_true]
      exact fun htext => hseparate ⟨htext, hnext⟩
    obtain ⟨last, others', hlast, hopen', hsame', hrest'⟩ :=
      reaches_nodes source hothers
        (fun n hn => hnormal n (List.mem_cons_of_mem _ hn)) hapart' hbehind hjoin' hnext
    refine ⟨last, node' :: others', hlast, hopen'.trans hopen, ?_, ?_⟩
    · rw [Node.unplacedAll, Node.unplacedAll, hsame, hsame']
    · rw [List.reverse_cons, List.append_assoc]
      exact hfirst.trans hrest'

end

/-- **Compiling undoes writing**: whatever source of an element in normal form is
compiled, the outcome is that element, up to locations. -/
theorem compile_written {head : Head} {children : List Node} {source : String}
    (hnormal : (Node.element head children).Normal)
    (hwritten : Written (.element head children) source.toList) :
    (compile source).map Node.unplacedAll = .ok [(Node.element head children).unplaced] := by
  have hstart : Cursor.start source = ⟨source.toList, 0, []⟩ := by
    have hfirst : Chars.after? ['\uFEFF'] source.toList = none := by
      generalize source.toList = text at hwritten
      cases hwritten <;> rfl
    simp only [Cursor.start, hfirst, Option.getD_none]
  have hrest : (⟨source.toList, 0, []⟩ : Cursor).rest = source.toList ++ [] :=
    (List.append_nil _).symm
  obtain ⟨last, node', hlast, -, hsame, hreaches⟩ :=
    reaches_node source hwritten hnormal (b := {}) nofun nofun hrest
  obtain ⟨fuel, hfuel, heq⟩ := hreaches (source.toList.length + 1) (Nat.lt_succ_self _)
  obtain ⟨fuel, rfl⟩ : ∃ n, fuel = n + 1 := ⟨fuel - 1, by omega⟩
  have hsingle : Node.unplacedAll [node'] = Node.unplacedAll [.element head children] := by
    rw [Node.unplacedAll, hsame]
    rfl
  have hlayout : withoutLayout [node'] = [node'] :=
    withoutLayout_of_normal (by simpa using hnormal) hsingle
  have hfinish : (({} : Builder).push node').finish = .ok [node'] := by
    rw [Builder.finish]
    exact congrArg Except.ok hlayout
  rw [compile_eq, hstart, heq, compileFrom_finished hlast, hfinish, Except.map, Node.unplacedAll,
    Node.unplacedAll, hsame]

/-- An element with another one in it that is self-closed, text with characters that
are written as references, and an element with nothing between its tags. -/
def invitation : Node :=
  .element ⟨.doc, "Doc", {}, {}⟩
    [.element ⟨.style, "Style", ⟨[("name", "a\"<&>b"), ("x:y", "")]⟩, {}⟩ [],
      .text "\n A & B ",
      .element ⟨.other, "p", {}, {}⟩ []]

def invitationSource : String :=
  "<Doc><Style name=\"a&quot;&lt;&amp;>b\" x:y=\"\"/>\n A &amp; B <p></p></Doc>"

theorem normal_invitation : invitation.Normal := by
  refine .element ⟨⟨rfl, rfl⟩, rfl, nofun, by decide, nofun⟩ ?_ rfl
  intro child hchild
  simp only [List.mem_cons, List.not_mem_nil, or_false] at hchild
  rcases hchild with rfl | rfl | rfl
  · refine .element ⟨⟨rfl, rfl⟩, rfl, ?_, by decide, ?_⟩ nofun rfl
    · intro entry hentry
      simp only [List.mem_cons, List.not_mem_nil, or_false] at hentry
      rcases hentry with rfl | rfl <;> exact ⟨rfl, rfl⟩
    · rintro key ⟨⟩
      rfl
  · exact .text ⟨by decide, fun _ => ⟨'A', by decide, rfl⟩⟩
  · exact .element ⟨⟨rfl, rfl⟩, rfl, nofun, by decide, nofun⟩ nofun rfl

theorem written_invitation : Written invitation invitationSource.toList :=
  .element _ (.cons (.selfClosed _) (.cons (.text _) (.cons (.element _ .nil) .nil)))

theorem compile_written_invitation :
    invitation.Normal ∧ Written invitation invitationSource.toList ∧
      (compile invitationSource).map Node.unplacedAll = .ok [invitation.unplaced] :=
  ⟨normal_invitation, written_invitation, compile_written normal_invitation written_invitation⟩

end Lineage.Template
