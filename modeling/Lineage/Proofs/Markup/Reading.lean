import Lineage.Markup.Outline
import Lineage.Proofs.Text.Pieces

/-!
# What a reading comes to

The reader adds up the bytes that it passes, and an event comes with the sum at its
start. Each step leaves a shorter end of the text, counts what is missing from it, and
keeps account of the names that are open (`Step.Sound`). So the sum is always the length
of what stands in front of that end (`Cursor.At`). What is counted are whole characters,
so the text can be cut there:

> `stands_read`: each event stands where its offset says, and is what is read there.
> `matched_read`: closing tags have the names of the elements that they close.

The count starts behind a byte order mark, so it is no offset in a source that starts
with one.
-/

namespace Lineage

/-! ## Offsets in a text -/

namespace Location

/-- Whether an offset falls between two characters of a text, or at one of its ends. -/
def IsBoundary (cs : List Char) (offset : Nat) : Prop :=
  ∃ front tail, cs = front ++ tail ∧ byteLength front = offset

theorem byteLength_append (front tail : List Char) :
    byteLength (front ++ tail) = byteLength front + byteLength tail := by
  induction front with
  | nil => exact (Nat.zero_add _).symm
  | cons c front ih =>
    rw [List.cons_append, byteLength, byteLength, ih]
    omega

/-- The characters that make up the first bytes of a text. -/
theorem takeBytes_byteLength (front tail : List Char) :
    takeBytes (byteLength front) (front ++ tail) = front := by
  induction front with
  | nil =>
    cases tail with
    | nil => rfl
    | cons c tail =>
      have hpos := c.utf8Size_pos
      rw [List.nil_append, byteLength, takeBytes, if_neg (by omega)]
  | cons c front ih =>
    rw [List.cons_append, byteLength, takeBytes, if_pos (Nat.le_add_right _ _),
      Nat.add_sub_cancel_left, ih]

theorem exists_eq_takeBytes_append (n : Nat) (cs : List Char) :
    ∃ tail, cs = takeBytes n cs ++ tail := by
  induction cs generalizing n with
  | nil => exact ⟨[], rfl⟩
  | cons c cs ih =>
    rw [takeBytes]
    split
    · obtain ⟨tail, htail⟩ := ih (n - c.utf8Size)
      exact ⟨tail, congrArg (c :: ·) htail⟩
    · exact ⟨c :: cs, rfl⟩

theorem isBoundary_iff {cs : List Char} {offset : Nat} :
    IsBoundary cs offset ↔ byteLength (takeBytes offset cs) = offset := by
  constructor
  · intro h
    obtain ⟨front, tail, rfl, rfl⟩ := h
    rw [takeBytes_byteLength]
  · intro h
    obtain ⟨tail, htail⟩ := exists_eq_takeBytes_append offset cs
    exact ⟨_, tail, htail, h⟩

instance (cs : List Char) (offset : Nat) : Decidable (IsBoundary cs offset) :=
  decidable_of_iff _ isBoundary_iff.symm

/-- The location of an offset is that behind the characters in front of it. -/
theorem ofOffset_of_eq_append {source : String} {front tail : List Char}
    (h : source.toList = front ++ tail) :
    ofOffset source (byteLength front) = behind front := by
  rw [ofOffset, h, takeBytes_byteLength]

end Location

namespace Markup

open Location (byteLength byteLength_append)

/-! ## Where tags and other markup end -/

/-- One more character in front of a text that is split at a closing bracket. -/
theorem eq_append_of_map_cons {c : Char} {cs content rest : List Char}
    {pieces : Option (List Char × List Char)}
    (h : pieces.map (fun piece => (c :: piece.1, piece.2)) = some (content, rest))
    (hpieces : ∀ {content}, pieces = some (content, rest) → cs = content ++ '>' :: rest) :
    c :: cs = content ++ '>' :: rest := by
  obtain ⟨⟨inner, _⟩, hinner, hcontent⟩ := Option.map_eq_some_iff.mp h
  cases hcontent
  exact congrArg (c :: ·) (hpieces hinner)

theorem untilClose?_eq_some {quote : Option Char} {cs content rest : List Char}
    (h : untilClose? quote cs = some (content, rest)) : cs = content ++ '>' :: rest := by
  induction cs generalizing quote content with
  | nil => cases h
  | cons c cs ih =>
    cases quote with
    | some q =>
      rw [untilClose?] at h
      exact eq_append_of_map_cons h ih
    | none =>
      rw [untilClose?] at h
      by_cases hclose : c = '>'
      · simp only [if_pos hclose] at h
        cases h
        rw [hclose]
        rfl
      · simp only [if_neg hclose] at h
        exact eq_append_of_map_cons h ih

theorem untilMark?_eq_some {mark : List Char} {least : Nat} {passed cs content rest : List Char}
    (h : untilMark? mark least passed cs = some (content, rest)) :
    passed.reverse ++ cs = content ++ '>' :: rest := by
  induction cs generalizing passed with
  | nil => cases h
  | cons c cs ih =>
    rw [untilMark?] at h
    split at h
    next hmark =>
      cases h
      rw [hmark.1]
    next =>
      have hmore := ih h
      rw [List.reverse_cons, List.append_assoc] at hmore
      exact hmore

theorem untilDoctypeEnd?_eq_some {nested : Nat} {cs content rest : List Char}
    (h : untilDoctypeEnd? nested cs = some (content, rest)) : cs = content ++ '>' :: rest := by
  induction cs generalizing nested content with
  | nil => cases h
  | cons c cs ih =>
    rw [untilDoctypeEnd?] at h
    by_cases hclose : c = '>'
    · by_cases hnested : nested = 0
      · simp only [if_pos hclose, if_pos hnested] at h
        cases h
        rw [hclose]
        rfl
      · simp only [if_pos hclose, if_neg hnested] at h
        exact eq_append_of_map_cons h ih
    · simp only [if_neg hclose] at h
      split at h
      next hnone => split at hnone <;> cases hnone
      next => exact eq_append_of_map_cons h ih

theorem suffix_of_eq_append {cs content rest : List Char} {c : Char}
    (h : cs = content ++ c :: rest) : rest <:+ cs :=
  ⟨content ++ [c], by rw [h, List.append_assoc, List.singleton_append]⟩

/-! ## Steps -/

/-- Whether a cursor has passed as many bytes of a text as it has counted. -/
def Cursor.At (cs : List Char) (cur : Cursor) : Prop :=
  ∃ front, cs = front ++ cur.rest ∧ byteLength front = cur.offset

/-- Whether a cursor is further in the text than another one, and has counted what lies
between them. -/
structure Cursor.Advances (cur next : Cursor) : Prop where
  rest : next.rest <:+ cur.rest
  offset : next.offset = (cur.advanceTo next.rest).offset

theorem Cursor.Advances.at {cs : List Char} {cur next : Cursor} (h : cur.Advances next)
    (hat : cur.At cs) : next.At cs := by
  obtain ⟨front, hcs, hcount⟩ := hat
  obtain ⟨passed, hpassed⟩ := h.rest
  refine ⟨front ++ passed, ?_, ?_⟩
  · rw [List.append_assoc, hpassed, hcs]
  · rw [byteLength_append, hcount, h.offset]
    show _ = cur.offset + (byteLength cur.rest - byteLength next.rest)
    rw [← hpassed, byteLength_append]
    omega

/-- Whether an event is read on the way from one cursor to another one. -/
structure Event.Between (e : Event) (cur next : Cursor) : Prop where
  advances : cur.Advances next
  names : e.namesBehind? cur.openNames = some next.openNames
  /-- A tag has its name behind the bracket. -/
  tag : ∀ name attributes, e.tag? = some (name, attributes) →
    ∃ more, cur.rest = '<' :: (name.toList ++ more)

/-- Whether a step goes on in the text, by what it reads. -/
def Step.Sound (cur : Cursor) : Step → Prop
  | .event e next => e.Between cur next
  | .skipped next => cur.Advances next ∧ next.openNames = cur.openNames
  | .finished | .failed _ => True

namespace Cursor

variable {cur : Cursor} {inner : List Char}

/-- A step to an end of the text. -/
theorem advances_advanceTo {rest : List Char} (h : rest <:+ cur.rest) (names : List String) :
    cur.Advances { cur.advanceTo rest with openNames := names } :=
  ⟨h, rfl⟩

theorem sound_closingTag (h : inner <:+ cur.rest) : (cur.closingTag inner).Sound cur := by
  unfold closingTag
  split
  · trivial
  next content rest hclose =>
    dsimp only
    split
    · trivial
    next expected names hnames =>
      split
      next hfound =>
        have hrest := suffix_of_eq_append (untilClose?_eq_some hclose)
        refine ⟨advances_advanceTo (hrest.trans h) names, ?_, fun _ _ => nofun⟩
        rw [hnames]
        exact if_pos hfound
      next => trivial

/-- The name of a tag is what its content starts with. -/
theorem exists_tagName_append (content more : List Char) :
    ∃ rest, content ++ more = (tagName content).toList ++ rest := by
  refine ⟨content.dropWhile (fun c => !isSpace c) ++ more, ?_⟩
  rw [tagName, String.toList_ofList, ← List.append_assoc, List.takeWhile_append_dropWhile]

theorem sound_openingTag (h : cur.rest = '<' :: inner) : (cur.openingTag inner).Sound cur := by
  unfold openingTag
  split
  · trivial
  next content rest hclose =>
    have hinner := untilClose?_eq_some hclose
    have hsuffix : rest <:+ cur.rest := by
      rw [h]
      exact (suffix_of_eq_append hinner).trans (List.suffix_cons _ _)
    dsimp only
    split
    next before hslash =>
      -- the slash is not part of the name, even if it stands right behind it
      refine ⟨advances_advanceTo hsuffix cur.openNames, rfl, ?_⟩
      have hcontent : content = before ++ ['/'] := by
        rw [Chars.before?_singleton] at hslash
        split at hslash
        next hlast =>
          cases hslash
          exact (List.dropLast_append_getLast? _ hlast).symm
        next => cases hslash
      intro name attributes htag
      cases htag
      rw [h, hinner, hcontent, List.append_assoc]
      obtain ⟨more, hmore⟩ := exists_tagName_append before (['/'] ++ '>' :: rest)
      exact ⟨more, congrArg ('<' :: ·) hmore⟩
    next =>
      refine ⟨advances_advanceTo hsuffix _, rfl, ?_⟩
      intro name attributes htag
      cases htag
      rw [h, hinner]
      obtain ⟨more, hmore⟩ := exists_tagName_append content ('>' :: rest)
      exact ⟨more, congrArg ('<' :: ·) hmore⟩

theorem sound_declaration (h : inner <:+ cur.rest) : (cur.declaration inner).Sound cur := by
  have hsuffix {content rest : List Char} (hinner : inner = content ++ '>' :: rest) :
      cur.Advances (cur.advanceTo rest) :=
    advances_advanceTo ((suffix_of_eq_append hinner).trans h) cur.openNames
  unfold declaration
  split
  · split
    next content rest hmark =>
      split
      · exact ⟨hsuffix (untilMark?_eq_some hmark), rfl⟩
      · trivial
    next => trivial
  · split
    next content rest hmark =>
      split
      · exact ⟨hsuffix (untilMark?_eq_some hmark), rfl, fun _ _ => nofun⟩
      · trivial
    next => trivial
  · split
    · split
      next content rest hend =>
        split
        · trivial
        · split
          · trivial
          · exact ⟨hsuffix (untilDoctypeEnd?_eq_some hend), rfl⟩
      next => trivial
    · trivial
  · trivial

theorem sound_instruction (h : inner <:+ cur.rest) : (cur.instruction inner).Sound cur := by
  unfold instruction
  split
  next content rest hmark =>
    split
    · trivial
    · have hrest := suffix_of_eq_append (untilMark?_eq_some hmark)
      exact ⟨advances_advanceTo (hrest.trans h) cur.openNames, rfl⟩
  next => trivial

theorem sound_reference (h : inner <:+ cur.rest) : (cur.reference inner).Sound cur := by
  unfold reference
  dsimp only
  split
  next rest hrest =>
    have hdrop : rest <:+ inner := by
      refine (List.suffix_cons ';' rest).trans ?_
      rw [← hrest]
      exact List.drop_suffix _ _
    exact ⟨advances_advanceTo (hdrop.trans h) cur.openNames, rfl, fun _ _ => nofun⟩
  next => trivial

/-- **Every step goes on in the text**, counts what it passes, and knows which names
are open. -/
theorem sound_step (cur : Cursor) : cur.step.Sound cur := by
  have hbehind {c : Char} {rest : List Char} (h : cur.rest = c :: rest) : rest <:+ cur.rest := by
    rw [h]
    exact List.suffix_cons _ _
  unfold step
  split
  · trivial
  next inner hrest =>
    split
    next inner => exact sound_closingTag ((List.suffix_cons _ _).trans (hbehind hrest))
    next => exact sound_declaration (hbehind hrest)
    next => exact sound_instruction (hbehind hrest)
    next => trivial
    next => exact sound_openingTag hrest
  next inner hrest => exact sound_reference (hbehind hrest)
  next =>
    exact ⟨advances_advanceTo (List.drop_suffix _ _) cur.openNames, rfl, fun _ _ => nofun⟩

end Cursor

/-! ## Readings -/

/-- Whether an event stands in a text where its offset says: it is what is read there,
and a tag has its name there behind a bracket. -/
def Placed.Stands (cs : List Char) (placed : Placed) : Prop :=
  ∃ (front : List Char) (cur next : Cursor), cs = front ++ cur.rest ∧
    byteLength front = placed.offset ∧ cur.step = .event placed.event next ∧
    ∀ name attributes, placed.event.tag? = some (name, attributes) →
      ∃ more, cur.rest = '<' :: (name.toList ++ more)

theorem stands_readFrom {cs : List Char} (fuel : Nat) {cur : Cursor} (h : cur.At cs) :
    ∀ placed ∈ (readFrom fuel cur).events, placed.Stands cs := by
  induction fuel generalizing cur with
  | zero => exact fun _ => nofun
  | succ fuel ih =>
    have hsound := cur.sound_step
    intro placed hplaced
    rw [readFrom] at hplaced
    cases hstep : cur.step with
    | finished =>
      rw [hstep] at hplaced
      cases hplaced
    | failed fault =>
      rw [hstep] at hplaced
      cases hplaced
    | skipped next =>
      rw [hstep] at hplaced hsound
      exact ih (hsound.1.at h) placed hplaced
    | event e next =>
      rw [hstep] at hplaced hsound
      rcases List.mem_cons.mp hplaced with rfl | hplaced
      · obtain ⟨front, hcs, hcount⟩ := h
        exact ⟨front, cur, next, hcs, hcount, hstep, hsound.tag⟩
      · exact ih (hsound.advances.at h) placed hplaced

/-- **Every event stands where its offset says**, counted from behind a byte order
mark. -/
theorem stands_read (source : String) :
    ∀ placed ∈ (read source).events, placed.Stands (Cursor.start source).rest := by
  have hstart : (Cursor.start source).At (Cursor.start source).rest := ⟨[], rfl, rfl⟩
  exact stands_readFrom _ hstart

theorem matched_readFrom (fuel : Nat) (cur : Cursor) :
    Matched cur.openNames ((readFrom fuel cur).events.map Placed.event) := by
  induction fuel generalizing cur with
  | zero => trivial
  | succ fuel ih =>
    have hsound := cur.sound_step
    rw [readFrom]
    cases hstep : cur.step with
    | finished | failed fault => trivial
    | skipped next =>
      rw [hstep] at hsound
      rw [← hsound.2]
      exact ih next
    | event e next =>
      rw [hstep] at hsound
      exact ⟨next.openNames, hsound.names, ih next⟩

/-- **Closing tags match** in everything that is read. -/
theorem matched_read (source : String) : Matched [] ((read source).events.map Placed.event) :=
  matched_readFrom _ (.start source)

/-- A source without a byte order mark is read from its start. -/
theorem rest_start {source : String} (h : source.toList.head? ≠ some '\uFEFF') :
    (Cursor.start source).rest = source.toList := by
  show (Chars.after? ['\uFEFF'] source.toList).getD source.toList = source.toList
  cases hmark : Chars.after? ['\uFEFF'] source.toList with
  | none => rfl
  | some rest =>
    rw [Chars.after?_eq_some_iff.mp hmark] at h
    exact absurd rfl h

end Markup

end Lineage
