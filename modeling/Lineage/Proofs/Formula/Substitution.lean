import Lineage.Formula.Substitution
import Lineage.Proofs.Text.Pieces

/-!
# Cutting a text into references

A mark with characters of a name behind it is one piece, up to where the name ends
(`Piece.ofChars_name`); a mark without such a character stands for itself, so that a
text without references is filled in as it is.

> `tokens_of_free`, `lenient_of_free`: a text without references stays as it is,
> whatever the references stand for.
-/

namespace Lineage

namespace Piece

variable {mark : Char} {inName : Char → Bool}

/-! ## Pieces -/

theorem ofChars_cons_of_ne {c : Char} (h : c ≠ mark) (rest : List Char) :
    ofChars mark inName (c :: rest) = plain c :: ofChars mark inName rest := by
  rw [ofChars, if_neg h]

/-- What holds no mark is cut into its characters. -/
theorem ofChars_append {cs : List Char} (h : mark ∉ cs) (rest : List Char) :
    ofChars mark inName (cs ++ rest) = cs.map plain ++ ofChars mark inName rest := by
  induction cs with
  | nil => rfl
  | cons c cs ih =>
    rw [List.mem_cons, not_or] at h
    rw [List.cons_append, ofChars_cons_of_ne (Ne.symm h.1), ih h.2]
    rfl

/-- No name goes on where no character of a name comes first. -/
theorem spanName_ofChars_of_stops {cs : List Char}
    (h : ∀ c, cs.head? = some c → inName c = false) :
    spanName inName (ofChars mark inName cs) = ([], ofChars mark inName cs) := by
  cases cs with
  | nil => rfl
  | cons c rest =>
    have hc : inName c = false := h c rfl
    by_cases heq : c = mark
    · rw [ofChars, if_pos heq]
      split
      · rw [spanName, hc]
        rfl
      · rfl
    · rw [ofChars_cons_of_ne heq, spanName, hc]
      rfl

/-- A name goes up to the first character that is none of a name. -/
theorem spanName_ofChars (hmark : inName mark = false) {n rest : List Char}
    (hn : ∀ c ∈ n, inName c = true) (hrest : ∀ c, rest.head? = some c → inName c = false) :
    spanName inName (ofChars mark inName (n ++ rest)) = (n, ofChars mark inName rest) := by
  induction n with
  | nil => exact spanName_ofChars_of_stops hrest
  | cons c n ih =>
    have hc : inName c = true := hn c List.mem_cons_self
    have hbehind := ih fun d hd => hn d (List.mem_cons_of_mem _ hd)
    rw [List.cons_append, ofChars_cons_of_ne (Chars.ne_of_holds hc hmark), spanName, if_pos hc,
      hbehind]

/-- **A mark and a name are one piece.** -/
theorem ofChars_name (hmark : inName mark = false) {n rest : List Char} (hne : n ≠ [])
    (hn : ∀ c ∈ n, inName c = true) (hrest : ∀ c, rest.head? = some c → inName c = false) :
    ofChars mark inName (mark :: (n ++ rest)) = name n :: ofChars mark inName rest := by
  obtain ⟨c, cs, rfl⟩ := List.exists_cons_of_ne_nil hne
  rw [ofChars, if_pos rfl]
  rw [spanName_ofChars hmark hn hrest]

/-- A character stands for itself unless it is a mark in front of a name. -/
theorem ofChars_plain {c : Char} {rest : List Char}
    (h : c = mark → ∀ d, rest.head? = some d → inName d = false) :
    ofChars mark inName (c :: rest) = plain c :: ofChars mark inName rest := by
  by_cases heq : c = mark
  · have hspan : spanName inName (ofChars mark inName rest) = ([], ofChars mark inName rest) :=
      spanName_ofChars_of_stops (h heq)
    rw [ofChars, if_pos heq]
    rw [hspan]
  · exact ofChars_cons_of_ne heq rest

/-- A text without a mark in front of a name has no references. -/
theorem ofChars_of_forall {cs : List Char}
    (h : ∀ c, inName c = true → ¬ [mark, c] <:+: cs) :
    ofChars mark inName cs = cs.map plain := by
  induction cs with
  | nil => rfl
  | cons c rest ih =>
    rw [ofChars_plain, ih fun d hd hoccurs => h d hd (List.infix_cons hoccurs)]
    · rfl
    · rintro rfl d hd
      by_contra hname
      obtain ⟨tail, rfl⟩ := List.head?_eq_some_iff.mp hd
      exact h d (Bool.not_eq_false _ ▸ hname) ⟨[], tail, rfl⟩

theorem names_plain (c : Char) (pieces : List Piece) : names (plain c :: pieces) = names pieces :=
  rfl

theorem names_name (n : List Char) (pieces : List Piece) :
    names (name n :: pieces) = .ofList n :: names pieces :=
  rfl

/-! ## Filling in -/

theorem fill_plain (value : String → String) (c : Char) (pieces : List Piece) :
    fill value (plain c :: pieces) = String.singleton c ++ fill value pieces :=
  String.join_cons

theorem fill_name (value : String → String) (n : List Char) (pieces : List Piece) :
    fill value (name n :: pieces) = value (.ofList n) ++ fill value pieces :=
  String.join_cons

theorem fill_append (value : String → String) (cs : List Char) (pieces : List Piece) :
    fill value (cs.map plain ++ pieces) = .ofList cs ++ fill value pieces := by
  induction cs with
  | nil => exact (String.empty_append).symm
  | cons c cs ih =>
    rw [List.map_cons, List.cons_append, fill_plain, ih, ← String.append_assoc]
    congr 1
    rw [← String.toList_inj]
    simp

/-- Characters are filled in as they are. -/
theorem fill_map_plain (value : String → String) (cs : List Char) :
    fill value (cs.map plain) = .ofList cs := by
  have h := fill_append value cs []
  rwa [List.append_nil, show fill value [] = "" from rfl, String.append_empty] at h

end Piece

namespace Substitution

/-- Whether a text refers to no variable. -/
def IsVariableFree (s : String) : Prop :=
  ∀ c, Chars.isWord c = true → ¬ ['$', c] <:+: s.toList

/-- Whether a text refers to nothing behind an at sign. -/
def IsTokenFree (s : String) : Prop :=
  ∀ c, isTokenChar c = true → ¬ ['@', c] <:+: s.toList

theorem lenient_of_free (scope : Scope) {s : String} (h : IsVariableFree s) :
    lenient scope s = s := by
  rw [lenient, variablePieces, Piece.ofChars_of_forall h, Piece.fill_map_plain,
    String.ofList_toList]

theorem tokens_of_free (resolve : String → String) {s : String} (h : IsTokenFree s) :
    tokens resolve s = s := by
  rw [tokens, tokenPieces, Piece.ofChars_of_forall h, Piece.fill_map_plain,
    String.ofList_toList]

/-- Whether a text is a name that a dollar sign can refer to. -/
structure IsName (name : String) : Prop where
  nonempty : name.toList ≠ []
  word : ∀ c ∈ name.toList, Chars.isWord c = true

/-- The pieces of a text that starts with a variable. -/
theorem variablePieces_name {name : String} (h : IsName name) {rest : String}
    (hrest : ∀ c, rest.toList.head? = some c → Chars.isWord c = false) :
    variablePieces ("$" ++ name ++ rest) = .name name.toList :: variablePieces rest := by
  have hchars : ("$" ++ name ++ rest).toList = '$' :: (name.toList ++ rest.toList) := by
    simp
  rw [variablePieces, hchars, Piece.ofChars_name (by decide) h.nonempty h.word hrest]
  rfl

/-- Where all variables have values, they are replaced by them in quotes. -/
theorem strictQuoted_eq {scope : Scope} {s : String}
    (h : ∀ name ∈ Piece.names (variablePieces s), ∃ value, scope.get? name = some value) :
    strictQuoted scope s =
      .ok (Piece.fill (fun name => Formula.singleQuoted ((scope.get? name).getD ""))
        (variablePieces s)) := by
  have hnone : (Piece.names (variablePieces s)).find? (fun name => !scope.contains name) =
      none := by
    rw [List.find?_eq_none]
    intro name hname
    obtain ⟨value, hvalue⟩ := h name hname
    rw [Scope.contains, hvalue]
    simp
  rw [strictQuoted]
  simp only [hnone]

/-- **A variable alone is replaced by its value in quotes.** -/
theorem strictQuoted_variable {scope : Scope} {name value : String} (h : IsName name)
    (hvalue : scope.get? name = some value) :
    strictQuoted scope ("$" ++ name) = .ok (Formula.singleQuoted value) := by
  have hpieces : variablePieces ("$" ++ name) = [.name name.toList] := by
    have hname : variablePieces ("$" ++ name ++ "") =
        .name name.toList :: variablePieces "" := variablePieces_name h (by simp)
    rwa [String.append_empty] at hname
  have hname : String.ofList name.toList = name := String.ofList_toList
  rw [strictQuoted_eq, hpieces, Piece.fill_name, hname, hvalue]
  · exact congrArg Except.ok String.append_empty
  · rw [hpieces]
    intro n hn
    rw [show Piece.names [.name name.toList] = [String.ofList name.toList] from rfl, hname,
      List.mem_singleton] at hn
    exact ⟨value, hn ▸ hvalue⟩

end Substitution

end Lineage
