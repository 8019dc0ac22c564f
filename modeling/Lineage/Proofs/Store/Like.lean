import Lineage.Proofs.Pattern.Matching
import Lineage.Proofs.Pattern.Reading
import Lineage.Proofs.Text.CharSet
import Lineage.Store.Filter
import Lineage.Store.Wildcard

/-!
# Texts that match a pattern

A pattern is turned into a regular expression sign by sign. Each sign is written
so that the reader of regular expressions takes it for an item of its own, which
is not repeated unless it stands for any text: what follows never starts with
the sign of a repetition. So the regular expression is never refused for how it
is written, only for its size.

An item takes the pieces of text that its sign allows. In a row, and between the
start and the end of the text, they take just the texts that the pattern yields.
-/

namespace Lineage.Like

/-! ## Signs -/

/-- What a pattern stands for, piece by piece. -/
inductive Sign where
  | anyText
  | anyChar
  | char (c : Char)
deriving DecidableEq, Repr

/-- The signs of a pattern. -/
def signs : List Char → List Sign
  | [] => []
  | '%' :: rest => .anyText :: signs rest
  | '_' :: rest => .anyChar :: signs rest
  | '\\' :: c :: rest => .char c :: signs rest
  | ['\\'] => []
  | c :: rest => .char c :: signs rest

namespace Sign

/-- What a sign is written as. -/
def written : Sign → List Char
  | anyText => ['.', '*']
  | anyChar => ['.']
  | char c => Pattern.literal [c]

/-- What is read for a sign. -/
def part : Sign → PatternPart
  | anyText => { pattern := .repeated (.oneOf .all) 0 none, depth := 1 }
  | anyChar => { pattern := .oneOf .all }
  | char c => { pattern := .oneOf (CharSet.single c).anyCase }

/-- The pieces of text that a sign allows. -/
def Allows : Sign → List Char → Prop
  | anyText, _ => True
  | anyChar, piece => ∃ d, piece = [d]
  | char c, piece => ∃ d, Chars.SameLetter c d ∧ piece = [d]

end Sign

theorem signs_char {c : Char} (h : isSign c = false) (rest : List Char) :
    signs (c :: rest) = .char c :: signs rest := by
  have hne (sign : Char) (hsign : isSign sign = true) : c = sign → False := by
    rintro rfl
    rw [h] at hsign
    cases hsign
  rw [signs]
  · exact hne '%' rfl
  · exact hne '_' rfl
  · exact fun _ _ hc _ => hne _ rfl hc
  · exact fun hc _ => hne _ rfl hc

theorem body_eq_flatMap (pattern : List Char) :
    body pattern = (signs pattern).flatMap Sign.written := by
  induction pattern using body.induct with
  | case1 => rfl
  | case2 rest ih => rw [body, ih]; rfl
  | case3 rest ih => rw [body, ih]; rfl
  | case4 c rest ih => rw [body, ih]; rfl
  | case5 => rfl
  | case6 c rest hany hone hescape hlone ih =>
    rw [body, signs, ih]
    · rfl
    all_goals assumption

/-! ## What a pattern yields -/

/-- Whether a text is made up of pieces that signs allow. -/
def Made : List Sign → List Char → Prop
  | [], text => text = []
  | sign :: signs, text => ∃ piece rest, text = piece ++ rest ∧ sign.Allows piece ∧ Made signs rest

theorem yields_iff_made {pattern text : List Char} :
    Yields pattern text ↔ Made (signs pattern) text := by
  constructor
  · intro h
    induction h with
    | done => rfl
    | anyText piece _ ih => exact ⟨piece, _, rfl, trivial, ih⟩
    | anyChar d _ ih => exact ⟨[d], _, rfl, ⟨d, rfl⟩, ih⟩
    | escaped hsame _ ih => exact ⟨[_], _, rfl, ⟨_, hsame, rfl⟩, ih⟩
    | loneBackslash => rfl
    | @char rest text c d hc hsame _ ih =>
      rw [signs_char hc]
      exact ⟨[d], text, rfl, ⟨d, hsame, rfl⟩, ih⟩
  · intro h
    induction pattern using signs.induct generalizing text with
    | case1 =>
      obtain rfl : text = [] := h
      exact .done
    | case2 rest ih =>
      obtain ⟨piece, text, rfl, -, h⟩ := h
      exact .anyText piece (ih h)
    | case3 rest ih =>
      obtain ⟨_, text, rfl, ⟨d, rfl⟩, h⟩ := h
      exact .anyChar d (ih h)
    | case4 c rest ih =>
      obtain ⟨_, text, rfl, ⟨d, hsame, rfl⟩, h⟩ := h
      exact .escaped hsame (ih h)
    | case5 =>
      obtain rfl : text = [] := h
      exact .loneBackslash
    | case6 c rest hany hone hescape hlone ih =>
      have hbackslash : c ≠ '\\' := by
        intro hc
        cases rest with
        | nil => exact hlone hc rfl
        | cons d rest => exact hescape d rest hc rfl
      have hc : isSign c = false := by
        simp only [isSign, Bool.or_eq_false_iff, beq_eq_false_iff_ne]
        exact ⟨⟨hany, hone⟩, hbackslash⟩
      rw [signs_char hc] at h
      obtain ⟨_, text, rfl, ⟨d, hsame, rfl⟩, h⟩ := h
      exact .char hc hsame (ih h)

/-! ## Reading -/

/-- The flags that a pattern is read with. -/
def flags : PatternFlags :=
  { ignoreCase := true, dotIsAny := true }

theorem standsAlone_signs (signs : List Sign) :
    PatternPart.StandsAlone (signs.flatMap Sign.written ++ ['$']) := by
  rcases signs with _ | ⟨_ | _ | c, signs⟩
  · rintro _ ⟨⟩
    decide
  · rintro _ ⟨⟩
    decide
  · rintro _ ⟨⟩
    decide
  · rw [List.flatMap_cons, List.append_assoc]
    exact PatternPart.standsAlone_literal c _

/-- A sign is read as its part when no repetition follows. -/
theorem content?_sign (sign : Sign) {rest : List Char} (h : PatternPart.StandsAlone rest)
    {last : List PatternPart} {fuel : Nat} :
    PatternPart.content? (fuel + 3) flags [] last (sign.written ++ rest) =
      PatternPart.content? (fuel + 2) flags [] (sign.part :: last) rest := by
  cases sign with
  | anyText =>
    exact PatternPart.content?_of_item? rfl (by decide) rfl (PatternPart.repetitions?_star rfl h)
  | anyChar =>
    exact PatternPart.content?_of_item? rfl (by decide) rfl (PatternPart.repetitions?_eq_self rfl h)
  | char c => exact PatternPart.content?_literal rfl c h

theorem content?_end {last : List PatternPart} {fuel : Nat} :
    PatternPart.content? (fuel + 2) flags [] last ['$'] =
      some (PatternPart.sequence ({ pattern := .at .textEnd } :: last), []) := by
  have hitem : PatternPart.item? flags ['$'] = some ({ pattern := .at .textEnd }, []) := rfl
  have halone : PatternPart.StandsAlone [] := fun _ hc => nomatch hc
  rw [PatternPart.content?_of_item? rfl (by decide) hitem
    (PatternPart.repetitions?_eq_self rfl halone)]
  rfl

/-- Signs are read one by one up to the end of the text. -/
theorem content?_signs (signs : List Sign) (last : List PatternPart) {fuel : Nat}
    (h : signs.length + 2 ≤ fuel) :
    PatternPart.content? fuel flags [] last (signs.flatMap Sign.written ++ ['$']) =
      some (PatternPart.sequence
        ({ pattern := .at .textEnd } :: ((signs.map Sign.part).reverse ++ last)), []) := by
  induction signs generalizing last fuel with
  | nil =>
    obtain ⟨fuel, rfl⟩ := Nat.exists_eq_add_of_le' h
    exact content?_end
  | cons sign signs ih =>
    rw [List.length_cons] at h
    obtain ⟨fuel, rfl⟩ := Nat.exists_eq_add_of_le' (show 3 ≤ fuel by omega)
    rw [List.flatMap_cons, List.append_assoc, content?_sign sign (standsAlone_signs signs),
      ih _ (by omega), List.map_cons, List.reverse_cons, List.append_assoc]
    rfl

theorem length_le_length_written (signs : List Sign) :
    signs.length ≤ (signs.flatMap Sign.written).length := by
  induction signs with
  | nil => exact Nat.le_refl _
  | cons sign signs ih =>
    have hpos : 0 < sign.written.length := by
      cases sign with
      | anyText => exact Nat.zero_lt_succ _
      | anyChar => exact Nat.zero_lt_succ _
      | char c => exact Pattern.length_literal_pos c
    rw [List.flatMap_cons, List.length_append, List.length_cons]
    omega

/-! ## The regular expression -/

/-- The regular expression that signs stand for. -/
def covering (signs : List Sign) : Pattern :=
  .sequence (.at .textStart :: (signs.map (fun sign => sign.part.pattern) ++ [.at .textEnd]))

/-- What is read in front of the first sign, last one first: flags, which are a
part without meaning of its own, and the start of the text. -/
def lead : List PatternPart :=
  [{ pattern := .at .textStart }, {}]

/-- The parts of a regular expression, first one first. -/
def expressionParts (signs : List Sign) : List PatternPart :=
  lead.reverse ++ signs.map Sign.part ++ [{ pattern := .at .textEnd }]

theorem sequence_expressionParts (signs : List Sign) :
    PatternPart.sequence ({ pattern := .at .textEnd } :: ((signs.map Sign.part).reverse ++ lead)) =
      PatternPart.joined Pattern.sequence (expressionParts signs) := by
  rw [PatternPart.sequence, if_neg (by simp), List.reverse_cons, List.reverse_append,
    List.reverse_reverse, expressionParts]

theorem content?_expression (pattern : List Char) :
    PatternPart.content? ((expression pattern).length + 1) {} [] [] (expression pattern) =
      some (PatternPart.joined Pattern.sequence (expressionParts (signs pattern)), []) := by
  -- all that counts of the written signs is their length and how they start
  obtain ⟨written, hwritten⟩ : ∃ written, (signs pattern).flatMap Sign.written = written := ⟨_, rfl⟩
  have hexpression : expression pattern = "(?is)^".toList ++ (written ++ ['$']) := by
    rw [← hwritten, ← body_eq_flatMap]
    rfl
  have hlength : (expression pattern).length = written.length + 7 := by
    simp [hexpression]
  have hfuel : (signs pattern).length + 2 ≤ written.length + 6 := by
    rw [← hwritten]
    exact Nat.add_le_add (length_le_length_written _) (by decide)
  have halone : PatternPart.StandsAlone (written ++ ['$']) := by
    rw [← hwritten]
    exact standsAlone_signs _
  have hopening : PatternPart.content? (written.length + 8) {} [] []
        ("(?is)^".toList ++ (written ++ ['$'])) =
      PatternPart.content? (written.length + 7) flags [] [{}] ('^' :: (written ++ ['$'])) := rfl
  have hstart : PatternPart.content? (written.length + 7) flags [] [{}]
        ('^' :: (written ++ ['$'])) =
      PatternPart.content? (written.length + 6) flags [] lead (written ++ ['$']) :=
    PatternPart.content?_of_item? rfl (by decide) rfl (PatternPart.repetitions?_eq_self rfl halone)
  have hsigns := content?_signs (signs pattern) lead hfuel
  rw [hwritten, sequence_expressionParts] at hsigns
  rw [hlength, hexpression]
  exact (hopening.trans hstart).trans hsigns

theorem joined_expressionParts (signs : List Sign) :
    PatternPart.joined Pattern.sequence (expressionParts signs) =
      { pattern := .sequence ((expressionParts signs).map PatternPart.pattern)
        depth := 1 + (expressionParts signs).foldl (fun deepest part => max deepest part.depth) 0
        names := (expressionParts signs).flatMap PatternPart.names } := rfl

theorem sequence_patterns (signs : List Sign) :
    Pattern.sequence ((expressionParts signs).map PatternPart.pattern) = covering signs := by
  simp only [expressionParts, List.map_append, List.map_map]
  rfl

/-- No part nests deeper than one level or has names in it. -/
theorem flat_of_mem_expressionParts {signs : List Sign} {part : PatternPart}
    (h : part ∈ expressionParts signs) : part.depth ≤ 1 ∧ part.names = [] := by
  rw [expressionParts, List.mem_append, List.mem_append, List.mem_map] at h
  rcases h with (h | ⟨sign, -, rfl⟩) | h
  · have hlead : ∀ part ∈ lead.reverse, part.depth ≤ 1 ∧ part.names = [] := by decide
    exact hlead part h
  · cases sign with
    | anyText => exact ⟨Nat.le_refl _, rfl⟩
    | anyChar => exact ⟨Nat.zero_le _, rfl⟩
    | char c => exact ⟨Nat.zero_le _, rfl⟩
  · obtain rfl := List.mem_singleton.1 h
    exact ⟨Nat.zero_le _, rfl⟩

theorem foldl_depth_le {bound : Nat} (parts : List PatternPart)
    (h : ∀ part ∈ parts, part.depth ≤ bound) {start : Nat} (hstart : start ≤ bound) :
    parts.foldl (fun deepest part => max deepest part.depth) start ≤ bound := by
  induction parts generalizing start with
  | nil => exact hstart
  | cons part parts ih =>
    obtain ⟨hpart, hparts⟩ := List.forall_mem_cons.1 h
    exact ih hparts (Nat.max_le.2 ⟨hstart, hpart⟩)

/-- A pattern is refused only for the size of its regular expression. -/
theorem pattern?_eq (pattern : String) :
    pattern? pattern =
      if (covering (signs pattern.toList)).isLight then some (covering (signs pattern.toList))
      else none := by
  have hdepth : 1 + (expressionParts (signs pattern.toList)).foldl
      (fun deepest part => max deepest part.depth) 0 ≤ Pattern.depthLimit := by
    have := foldl_depth_le (expressionParts (signs pattern.toList))
      (fun part h => (flat_of_mem_expressionParts h).1) (Nat.zero_le 1)
    rw [Pattern.depthLimit]
    omega
  have hnames : (expressionParts (signs pattern.toList)).flatMap PatternPart.names = [] :=
    List.flatMap_eq_nil_iff.2 fun part h => (flat_of_mem_expressionParts h).2
  rw [pattern?, Pattern.ofChars?, content?_expression, joined_expressionParts, sequence_patterns,
    hnames]
  simp [hdepth]

/-! ## Matching -/

theorem Sign.takes (sign : Sign) : sign.part.pattern.Takes sign.Allows := by
  cases sign with
  | anyText => exact (Pattern.takes_repeated .all).congr fun piece => by simp [Allows]
  | anyChar => exact (Pattern.takes_oneOf .all).congr fun piece => by simp [Allows]
  | char c =>
    refine (Pattern.takes_oneOf _).congr fun piece => ?_
    simp only [CharSet.contains_anyCase_single_iff]
    rfl

theorem takes_signs (signs : List Sign) :
    (Pattern.sequence (signs.map fun sign => sign.part.pattern)).Takes (Made signs) := by
  induction signs with
  | nil => exact Pattern.takes_nothing
  | cons sign signs ih => exact sign.takes.sequence_cons ih

/-- The regular expression that signs stand for occurs in the texts that they
make up. -/
theorem occursIn_covering_iff {signs : List Sign} {text : List Char} :
    (covering signs).occursIn text = true ↔ Made signs text :=
  Pattern.occursIn_anchored_iff (takes_signs signs)

end Lineage.Like

namespace Lineage.ListFilter

/-- A record passes the filter when its whole text can be produced from the
pattern. -/
theorem accepts_like_iff_yields (pattern : String) (store : Store) (record : Record)
    (h : (Like.pattern? pattern).isSome = true) :
    (ListFilter.like pattern).accepts store record = true ↔
      Like.Yields pattern.toList record.text.toList := by
  have hlight : (Like.covering (Like.signs pattern.toList)).isLight = true := by
    by_contra hheavy
    rw [Like.pattern?_eq, if_neg hheavy] at h
    cases h
  have hread := Like.pattern?_eq pattern
  rw [if_pos hlight] at hread
  rw [accepts, likeMatches, hread, Like.yields_iff_made]
  exact Like.occursIn_covering_iff

/-- The letter as a capital, behind text with a line break. -/
theorem accepts_like_iff_yields_capital :
    (Like.pattern? "%f").isSome = true ∧
      (ListFilter.like "%f").accepts {} ⟨"@I1@", .individual, "0 @I1@ INDI\n1 SEX F"⟩ = true := by
  have hlight : (Like.covering [.anyText, .char 'f']).isLight = true := by
    have hparts : Like.covering [.anyText, .char 'f'] =
        .sequence [.at .textStart, .repeated (.oneOf .all) 0 none,
          .oneOf ⟨[(70, 70), (102, 102)]⟩, .at .textEnd] := by
      rw [← CharSet.anyCase_single_f]
      rfl
    rw [hparts]
    decide +kernel
  have hsome : (Like.pattern? "%f").isSome = true := by
    have hsigns : Like.signs "%f".toList = [.anyText, .char 'f'] := by decide
    rw [Like.pattern?_eq, hsigns, if_pos hlight]
    rfl
  refine ⟨hsome, (accepts_like_iff_yields "%f" {} ⟨"@I1@", .individual, _⟩ hsome).2 ?_⟩
  have hletter : Like.Yields ['f'] ['F'] := .char rfl (by decide +kernel) .done
  exact .anyText "0 @I1@ INDI\n1 SEX ".toList hletter

end Lineage.ListFilter
