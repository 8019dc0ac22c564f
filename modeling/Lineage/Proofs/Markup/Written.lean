import Lineage.Markup.Event
import Lineage.Markup.Written
import Lineage.Proofs.Text.Blank
import Lineage.Proofs.Text.Pieces

/-!
# Written markup is read back

What has been written is taken apart by the reader where it was put together. The
characters that would end a piece too early are not in it: a name has no space, no
quote and no bracket, and an escaped text has no quote and no opening bracket. So a
tag is read with its name and its attributes, and a value with the characters that
its references stand for.
-/

namespace Lineage.Markup

/-! ## Names -/

theorem IsName.mem {s : String} (h : IsName s) {c : Char} (hc : c ∈ s.toList) :
    nameChars.contains c = true :=
  List.all_eq_true.mp h.chars c hc

theorem IsName.exists_cons {s : String} (h : IsName s) : ∃ c rest, s.toList = c :: rest := by
  refine List.exists_cons_of_ne_nil ?_
  intro hnil
  have hstarts := h.starts
  rw [hnil] at hstarts
  cases hstarts

/-- No name has white space in it. -/
theorem isSpace_of_nameChar {c : Char} (h : nameChars.contains c = true) : isSpace c = false := by
  have hspace := Chars.ne_of_holds h (d := ' ') (by decide)
  have htab := Chars.ne_of_holds h (d := '\t') (by decide)
  have hreturn := Chars.ne_of_holds h (d := '\r') (by decide)
  have hfeed := Chars.ne_of_holds h (d := '\n') (by decide)
  simp [isSpace, hspace, htab, hreturn, hfeed]

theorem endsKey_of_nameChar {c : Char} (h : nameChars.contains c = true) : endsKey c = false := by
  have hequal := Chars.ne_of_holds h (d := '=') (by decide)
  simp [endsKey, hequal, isSpace_of_nameChar h]

/-! ## Escaped text -/

theorem escaped_cons (c : Char) (cs : List Char) :
    escaped (c :: cs) = escapedChar c ++ escaped cs :=
  List.flatMap_cons

/-- Whether a character is written as it is. -/
def isPlain (c : Char) : Bool :=
  c != '&' && c != '<' && c != '"'

theorem escapedChar_of_isPlain {c : Char} (h : isPlain c = true) : escapedChar c = [c] := by
  simp only [isPlain, Bool.and_eq_true, bne_iff_ne] at h
  rw [escapedChar, if_neg h.1.1, if_neg h.1.2, if_neg h.2]

/-- What is not plain is written as a reference to it. -/
theorem escapedChar_cases {c : Char} (h : isPlain c = false) :
    (c = '&' ∧ escapedChar c = "&amp;".toList) ∨ (c = '<' ∧ escapedChar c = "&lt;".toList) ∨
      (c = '"' ∧ escapedChar c = "&quot;".toList) := by
  simp only [isPlain, Bool.and_eq_false_iff, bne_eq_false_iff_eq] at h
  rcases h with (rfl | rfl) | rfl
  · exact .inl ⟨rfl, rfl⟩
  · exact .inr (.inl ⟨rfl, rfl⟩)
  · exact .inr (.inr ⟨rfl, rfl⟩)

/-- An escaped text has neither brackets that open a tag nor double quotes. -/
theorem not_mem_escaped {d : Char} (hd : d = '<' ∨ d = '"') (cs : List Char) : d ∉ escaped cs := by
  induction cs with
  | nil => exact List.not_mem_nil
  | cons c cs ih =>
    rw [escaped_cons, List.mem_append, not_or]
    refine ⟨?_, ih⟩
    cases hc : isPlain c with
    | true =>
      rw [escapedChar_of_isPlain hc, List.mem_singleton]
      rintro rfl
      rcases hd with rfl | rfl <;> cases hc
    | false =>
      rcases escapedChar_cases hc with ⟨-, h⟩ | ⟨-, h⟩ | ⟨-, h⟩ <;>
        rcases hd with rfl | rfl <;> rw [h] <;> decide

/-! ## Values -/

/-- One reference in a value. -/
theorem resolveAll?_reference {name : List Char} {c : Char} (hend : ';' ∉ name)
    (hopen : name.contains '&' = false) (hc : attributeReference? name = some c)
    (rest : List Char) (fuel : Nat) :
    resolveAll? (fuel + 1) ('&' :: (name ++ ';' :: rest)) =
      (resolveAll? fuel rest).map (c :: ·) := by
  rw [resolveAll?, Chars.cut?_append hend]
  simp only [Option.bind_eq_bind, Option.bind_some, hopen, hc]
  cases resolveAll? fuel rest <;> rfl

/-- **The value of an escaped text is the text.** -/
theorem resolveAll?_escaped {cs : List Char} {fuel : Nat} (h : (escaped cs).length ≤ fuel) :
    resolveAll? fuel (escaped cs) = some cs := by
  induction cs generalizing fuel with
  | nil => cases fuel <;> rfl
  | cons c cs ih =>
    rw [escaped_cons, List.length_append] at h
    rw [escaped_cons]
    cases hc : isPlain c with
    | true =>
      rw [escapedChar_of_isPlain hc] at h ⊢
      obtain ⟨fuel, rfl⟩ : ∃ n, fuel = n + 1 := ⟨fuel - 1, by simp at h; omega⟩
      have hne : c ≠ '&' := by
        rintro rfl
        cases hc
      rw [List.singleton_append, resolveAll?, ih (by simp at h; omega)]
      · rfl
      · exact hne
    | false =>
      have hreference (name : List Char) (htext : escapedChar c = '&' :: (name ++ [';']))
          (hend : ';' ∉ name) (hopen : name.contains '&' = false)
          (hname : attributeReference? name = some c) :
          resolveAll? fuel (escapedChar c ++ escaped cs) = some (c :: cs) := by
        rw [htext, List.length_cons] at h
        obtain ⟨fuel, rfl⟩ : ∃ n, fuel = n + 1 := ⟨fuel - 1, by omega⟩
        rw [htext, List.cons_append, List.append_assoc, List.singleton_append,
          resolveAll?_reference hend hopen hname, ih (by omega)]
        rfl
      rcases escapedChar_cases hc with ⟨rfl, h⟩ | ⟨rfl, h⟩ | ⟨rfl, h⟩
      · exact hreference "amp".toList h (by decide) (by decide) (by decide)
      · exact hreference "lt".toList h (by decide) (by decide) (by decide)
      · exact hreference "quot".toList h (by decide) (by decide) (by decide)

theorem attributeValue_escaped (cs : List Char) : attributeValue (escaped cs) = cs := by
  rw [attributeValue, resolveAll?_escaped (Nat.le_refl _), Option.getD_some]

/-! ## The end of a tag -/

/-- Puts what stands before a piece in front of it. -/
def inFront (before : List Char) (pieces : List Char × List Char) : List Char × List Char :=
  (before ++ pieces.1, pieces.2)

theorem map_inFront_nil (pieces : Option (List Char × List Char)) :
    pieces.map (inFront []) = pieces := by
  cases pieces <;> rfl

theorem map_inFront (before more : List Char) (pieces : Option (List Char × List Char)) :
    (pieces.map (inFront more)).map (inFront before) = pieces.map (inFront (before ++ more)) := by
  cases pieces with
  | none => rfl
  | some pieces => simp [inFront]

/-- What has no bracket and no quotes does not end a tag. -/
theorem untilClose?_plain {cs : List Char}
    (h : (cs.all fun c => c != '>' && c != '"' && c != '\'') = true) (rest : List Char) :
    untilClose? none (cs ++ rest) = (untilClose? none rest).map (inFront cs) := by
  induction cs with
  | nil => rw [map_inFront_nil, List.nil_append]
  | cons c cs ih =>
    rw [List.all_cons, Bool.and_eq_true] at h
    obtain ⟨hc, hcs⟩ := h
    simp only [Bool.and_eq_true, bne_iff_ne] at hc
    rw [List.cons_append, untilClose?]
    simp only [hc.1.1, hc.1.2, hc.2, if_false, or_self, ih hcs]
    cases untilClose? none rest <;> rfl

/-- What stands between quotes does not end a tag. -/
theorem untilClose?_quoted {cs : List Char} (h : '"' ∉ cs) (rest : List Char) :
    untilClose? (some '"') (cs ++ '"' :: rest) =
      (untilClose? none rest).map (inFront (cs ++ ['"'])) := by
  induction cs with
  | nil =>
    rw [List.nil_append, untilClose?]
    simp only [if_true]
    cases untilClose? none rest <;> rfl
  | cons c cs ih =>
    rw [List.mem_cons, not_or] at h
    rw [List.cons_append, untilClose?]
    simp only [if_neg (Ne.symm h.1), ih h.2]
    cases untilClose? none rest <;> rfl

theorem untilClose?_name {s : String} (h : IsName s) (rest : List Char) :
    untilClose? none (s.toList ++ rest) = (untilClose? none rest).map (inFront s.toList) := by
  refine untilClose?_plain (List.all_eq_true.mpr fun c hc => ?_) rest
  have hclose := Chars.ne_of_holds (h.mem hc) (d := '>') (by decide)
  have hdouble := Chars.ne_of_holds (h.mem hc) (d := '"') (by decide)
  have hsingle := Chars.ne_of_holds (h.mem hc) (d := '\'') (by decide)
  simp [hclose, hdouble, hsingle]

theorem untilClose?_attributesText {attributes : List (String × String)}
    (hkeys : ∀ entry ∈ attributes, IsName entry.1) (rest : List Char) :
    untilClose? none (attributesText attributes ++ rest) =
      (untilClose? none rest).map (inFront (attributesText attributes)) := by
  induction attributes with
  | nil => rw [attributesText, map_inFront_nil, List.nil_append]
  | cons entry more ih =>
    obtain ⟨key, value⟩ := entry
    have hkey : IsName key := hkeys (key, value) List.mem_cons_self
    have hopen (cs : List Char) : untilClose? none ('"' :: cs) =
        (untilClose? (some '"') cs).map (inFront ['"']) := by
      cases hcs : untilClose? (some '"') cs <;> simp [untilClose?, hcs, inFront]
    have htext : attributesText ((key, value) :: more) ++ rest =
        [' '] ++ (key.toList ++ (['='] ++ '"' :: (escaped value.toList ++
          '"' :: (attributesText more ++ rest)))) := by
      simp [attributesText, attributeText]
    rw [htext, untilClose?_plain rfl, untilClose?_name hkey, untilClose?_plain rfl, hopen,
      untilClose?_quoted (not_mem_escaped (.inr rfl) value.toList),
      ih fun e he => hkeys e (List.mem_cons_of_mem _ he)]
    simp only [map_inFront]
    simp [attributesText, attributeText]

/-- **A tag ends at its bracket**, whatever the values of its attributes. -/
theorem untilClose?_tagText {name : String} {attributes : List (String × String)}
    (hname : IsName name) (hkeys : ∀ entry ∈ attributes, IsName entry.1) (rest : List Char) :
    untilClose? none (tagText name attributes ++ rest) =
      (untilClose? none rest).map (inFront (tagText name attributes)) := by
  rw [tagText, List.append_assoc, untilClose?_name hname, untilClose?_attributesText hkeys,
    map_inFront]

/-! ## The parts of a tag -/

theorem attributesText_head (attributes : List (String × String)) :
    ∀ c, (attributesText attributes).head? = some c → isSpace c = true := by
  cases attributes with
  | nil => rintro c ⟨⟩
  | cons entry more =>
    rintro c ⟨⟩
    rfl

theorem takeWhile_name {name : String} {attributes : List (String × String)} (hname : IsName name) :
    (tagText name attributes).takeWhile (fun c => !isSpace c) = name.toList ∧
      (tagText name attributes).dropWhile (fun c => !isSpace c) = attributesText attributes := by
  have hrun : ∀ c ∈ name.toList, (!isSpace c) = true := by
    intro c hc
    rw [isSpace_of_nameChar (hname.mem hc)]
    rfl
  have hstop : ∀ c, (attributesText attributes).head? = some c → (!isSpace c) = false := by
    intro c hc
    rw [attributesText_head attributes c hc]
    rfl
  exact ⟨Chars.takeWhile_run hrun hstop, Chars.dropWhile_run hrun hstop⟩

theorem tagName_tagText {name : String} (hname : IsName name)
    (attributes : List (String × String)) : tagName (tagText name attributes) = name := by
  rw [tagName, (takeWhile_name hname).1, String.ofList_toList]

/-- One attribute with a key that did not come before. -/
theorem readAttributes_attributeText {key : String} (hkey : IsName key) (value : String)
    {keys : List (List Char)} (hnew : key.toList ∉ keys) (fuel : Nat) (rest : List Char) :
    readAttributes (fuel + 1) keys (attributeText key value ++ rest) =
      (key, value) :: readAttributes fuel (key.toList :: keys) rest := by
  obtain ⟨c, cs, hcs⟩ := hkey.exists_cons
  have hc : isSpace c = false :=
    isSpace_of_nameChar (hkey.mem (by rw [hcs]; exact List.mem_cons_self))
  have hkeyChars : ∀ d ∈ cs, (!endsKey d) = true := by
    intro d hd
    rw [endsKey_of_nameChar (hkey.mem (by rw [hcs]; exact List.mem_cons_of_mem _ hd))]
    rfl
  have htext : attributeText key value ++ rest =
      ' ' :: c :: (cs ++ '=' :: '"' :: (escaped value.toList ++ '"' :: rest)) := by
    simp [attributeText, hcs]
  have hstart (cs : List Char) : (' ' :: c :: cs).dropWhile isSpace = c :: cs := by
    rw [List.dropWhile_cons_of_pos rfl, List.dropWhile_cons_of_neg (by simp [hc])]
  have hcontains : keys.contains (c :: cs) = false := by
    rw [← hcs, ← Bool.not_eq_true, List.contains_iff_mem]
    exact hnew
  have hquote (cs : List Char) : ('"' :: cs).dropWhile isSpace = '"' :: cs :=
    List.dropWhile_cons_of_neg (by decide)
  rw [htext, readAttributes, hstart]
  simp only
  rw [List.takeWhile_append_of_pos hkeyChars, List.dropWhile_append_of_pos hkeyChars,
    List.takeWhile_cons_of_neg (by decide), List.dropWhile_cons_of_neg (by decide),
    List.dropWhile_cons_of_neg (by decide), List.append_nil]
  simp only [hcontains, Bool.false_eq_true, if_false, hquote, true_or, if_true,
    Chars.cut?_append (not_mem_escaped (.inr rfl) value.toList), attributeValue_escaped,
    String.ofList_toList]
  rw [← hcs, String.ofList_toList]

/-- **Attributes are read in their order**, each with its value, as long as no key
comes twice. -/
theorem readAttributes_attributesText {attributes : List (String × String)}
    (hkeys : ∀ entry ∈ attributes, IsName entry.1)
    (hdistinct : (attributes.map Prod.fst).Nodup) {keys : List (List Char)}
    (hnew : ∀ entry ∈ attributes, entry.1.toList ∉ keys) {fuel : Nat}
    (hfuel : (attributesText attributes).length ≤ fuel) :
    readAttributes fuel keys (attributesText attributes) = attributes := by
  induction attributes generalizing keys fuel with
  | nil => cases fuel <;> rfl
  | cons entry more ih =>
    obtain ⟨key, value⟩ := entry
    rw [attributesText, List.length_append, attributeText, List.length_cons] at hfuel
    obtain ⟨fuel, rfl⟩ : ∃ n, fuel = n + 1 := ⟨fuel - 1, by omega⟩
    rw [List.map_cons, List.nodup_cons] at hdistinct
    rw [attributesText, readAttributes_attributeText (hkeys (key, value) List.mem_cons_self) value
      (hnew (key, value) List.mem_cons_self)]
    congr 1
    refine ih (fun e he => hkeys e (List.mem_cons_of_mem _ he)) hdistinct.2 ?_ (by omega)
    intro e he
    rw [List.mem_cons, not_or]
    refine ⟨fun hsame => hdistinct.1 ?_, hnew e (List.mem_cons_of_mem _ he)⟩
    rw [← String.toList_inj.mp hsame]
    exact List.mem_map_of_mem he

theorem tagAttributes_tagText {name : String} (hname : IsName name)
    {attributes : List (String × String)} (hkeys : ∀ entry ∈ attributes, IsName entry.1)
    (hdistinct : (attributes.map Prod.fst).Nodup) :
    tagAttributes (tagText name attributes) = attributes := by
  rw [tagAttributes, skipWord, (takeWhile_name hname).2]
  refine readAttributes_attributesText hkeys hdistinct (fun _ _ => List.not_mem_nil) ?_
  rw [tagText, List.length_append]
  exact Nat.le_add_left ..

theorem getLast?_attributesText (entry : String × String) (more : List (String × String)) :
    (attributesText (entry :: more)).getLast? = some '"' := by
  induction more generalizing entry with
  | nil =>
    rw [attributesText, attributesText, List.append_nil, attributeText, List.getLast?_cons,
      List.getLast?_append, List.getLast?_cons, List.getLast?_cons, List.getLast?_append]
    rfl
  | cons next more ih => rw [attributesText, List.getLast?_append, ih next, Option.some_or]

/-- No opening tag ends with a slash. -/
theorem before?_slash_tagText {name : String} (hname : IsName name)
    (attributes : List (String × String)) :
    Chars.before? ['/'] (tagText name attributes) = none := by
  have hlast : (tagText name attributes).getLast? ≠ some '/' := by
    rw [tagText, List.getLast?_append]
    cases attributes with
    | nil =>
      rw [attributesText, List.getLast?_nil, Option.none_or]
      intro hslash
      exact Chars.ne_of_holds (hname.mem (List.mem_of_getLast? hslash)) (d := '/') (by decide) rfl
    | cons entry more =>
      rw [getLast?_attributesText, Option.some_or]
      decide
  rw [Chars.before?_singleton, if_neg hlast]

/-! ## Steps -/

namespace Cursor

variable {cur : Cursor} {name : String} {attributes : List (String × String)} {rest : List Char}

theorem step_of_tagText (hname : IsName name) {more : List Char}
    (hrest : cur.rest = '<' :: (tagText name attributes ++ more)) :
    cur.step = cur.openingTag (tagText name attributes ++ more) := by
  obtain ⟨c, cs, hcs⟩ := hname.exists_cons
  have hc : nameChars.contains c = true := hname.mem (by rw [hcs]; exact List.mem_cons_self)
  have hslash := Chars.ne_of_holds hc (d := '/') (by decide)
  have hmark := Chars.ne_of_holds hc (d := '!') (by decide)
  have hquestion := Chars.ne_of_holds hc (d := '?') (by decide)
  rw [step, hrest, tagText, hcs]
  simp [hslash, hmark, hquestion]

/-- **An opening tag is read with its name and its attributes**, and its name is
open from there on. -/
theorem step_opening (hname : IsName name) (hkeys : ∀ entry ∈ attributes, IsName entry.1)
    (hdistinct : (attributes.map Prod.fst).Nodup)
    (hrest : cur.rest = '<' :: (tagText name attributes ++ '>' :: rest)) :
    ∃ next, cur.step = .event (.opening name attributes) next ∧ next.rest = rest ∧
      next.openNames = name :: cur.openNames := by
  have hclose : untilClose? none (tagText name attributes ++ '>' :: rest) =
      some (tagText name attributes, rest) := by
    rw [untilClose?_tagText hname hkeys]
    simp [untilClose?, inFront]
  rw [step_of_tagText hname hrest, openingTag, hclose]
  simp only [before?_slash_tagText hname, tagName_tagText hname,
    tagAttributes_tagText hname hkeys hdistinct]
  exact ⟨_, rfl, rfl, rfl⟩

/-- A self-closed tag is read like an opening one, and leaves nothing open. -/
theorem step_selfClosed (hname : IsName name) (hkeys : ∀ entry ∈ attributes, IsName entry.1)
    (hdistinct : (attributes.map Prod.fst).Nodup)
    (hrest : cur.rest = '<' :: (tagText name attributes ++ '/' :: '>' :: rest)) :
    ∃ next, cur.step = .event (.selfClosed name attributes) next ∧ next.rest = rest ∧
      next.openNames = cur.openNames := by
  have hclose : untilClose? none (tagText name attributes ++ '/' :: '>' :: rest) =
      some (tagText name attributes ++ ['/'], rest) := by
    rw [untilClose?_tagText hname hkeys]
    simp [untilClose?, inFront]
  have hslash : Chars.before? ['/'] (tagText name attributes ++ ['/']) =
      some (tagText name attributes) := by
    rw [Chars.before?_singleton, List.getLast?_concat, if_pos rfl, List.dropLast_concat]
  rw [step_of_tagText hname hrest, openingTag, hclose]
  simp only [hslash, tagName_tagText hname, tagAttributes_tagText hname hkeys hdistinct]
  exact ⟨_, rfl, rfl, rfl⟩

/-- **A closing tag ends the innermost open element**, if it has its name. -/
theorem step_closing (hname : IsName name) {names : List String}
    (hnames : cur.openNames = name :: names)
    (hrest : cur.rest = '<' :: '/' :: (name.toList ++ '>' :: rest)) :
    ∃ next, cur.step = .event (.closing name) next ∧ next.rest = rest ∧ next.openNames = names := by
  have hclose : untilClose? none (name.toList ++ '>' :: rest) = some (name.toList, rest) := by
    rw [untilClose?_name hname]
    simp [untilClose?, inFront]
  have hfound : closingName name.toList = name := by
    have htrim : Chars.dropEndWhile isSpace name.toList = name.toList := by
      rw [Chars.dropEndWhile_eq, List.rdropWhile_eq_self_iff]
      intro hne
      simp [isSpace_of_nameChar (hname.mem (List.getLast_mem hne))]
    rw [closingName, htrim, ite_self, String.ofList_toList]
  rw [step, hrest]
  simp only [closingTag, hclose, hnames, hfound, if_true]
  exact ⟨_, rfl, rfl, rfl⟩

/-- A reference that is closed is read with its name. -/
theorem step_reference {reference : List Char}
    (hreference : (reference.all fun c => c != ';' && c != '&' && c != '<') = true)
    (hrest : cur.rest = '&' :: (reference ++ ';' :: rest)) :
    ∃ next, cur.step = .event (.reference (.ofList reference)) next ∧ next.rest = rest ∧
      next.openNames = cur.openNames := by
  have hname : (reference ++ ';' :: rest).takeWhile (fun c => c != ';' && c != '&' && c != '<') =
      reference := by
    refine Chars.takeWhile_run (List.all_eq_true.mp hreference) ?_
    rintro c ⟨⟩
    rfl
  rw [step, hrest]
  simp only [Cursor.reference, hname, List.drop_left]
  exact ⟨_, rfl, rfl, rfl⟩

/-- Text is read up to the next tag or reference. -/
theorem step_text {text : List Char} (hne : text ≠ []) (htext : ∀ c ∈ text, c ∉ ['<', '&'])
    (hstop : ∀ c, rest.head? = some c → c ∈ ['<', '&']) (hrest : cur.rest = text ++ rest) :
    ∃ next, cur.step = .event (.text (.ofList text)) next ∧ next.rest = rest ∧
      next.openNames = cur.openNames := by
  have hrun : (text ++ rest).takeWhile (fun c => c != '<' && c != '&') = text := by
    refine Chars.takeWhile_run (fun c hc => by simpa using htext c hc) fun c hc => ?_
    simpa [or_comm, imp_iff_not_or] using hstop c hc
  obtain ⟨c, cs, rfl⟩ := List.exists_cons_of_ne_nil hne
  have hc := htext c List.mem_cons_self
  simp only [List.mem_cons, List.not_mem_nil, or_false, not_or] at hc
  have hstep : cur.step = .event (.text (.ofList (c :: cs))) (cur.advanceTo rest) := by
    have hdrop : (c :: (cs ++ rest)).drop (c :: cs).length = rest := List.drop_left
    rw [List.cons_append] at hrun
    rw [step, hrest, List.cons_append]
    split
    next hnil => cases hnil
    next htag => exact absurd (List.cons.inj htag).1 hc.1
    next hamp => exact absurd (List.cons.inj hamp).1 hc.2
    next => simp only [hrun, hdrop]
  exact ⟨_, hstep, rfl, rfl⟩

end Cursor

end Lineage.Markup
