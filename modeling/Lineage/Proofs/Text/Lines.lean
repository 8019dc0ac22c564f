import Mathlib.Data.List.Basic
import Lineage.Text.Split

/-!
# Lines that are joined and cut again

A text is cut at its line breaks, and lines are joined with line feeds between
them. To cut what has been joined gives the lines back, unless a line is empty or
ends with a carriage return: an empty last line is none, and a carriage return
belongs to the line break that follows it.

> `Text.lines_unlines`: texts that end with neither kind of break may be joined,
> and the lines of the whole are the lines of the texts.

`Text.IsLine` says this of a text that is a single line. The first line is looked
at in particular, because the header of a record is read from it.
-/

namespace Lineage

namespace Chars

/-- Whether a text is not empty and does not end with a part of a line break. -/
def EndsPlain (cs : List Char) : Prop :=
  ∃ c, cs.getLast? = some c ∧ c ≠ '\n' ∧ c ≠ '\r'

theorem EndsPlain.ne_nil {cs : List Char} (h : EndsPlain cs) : cs ≠ [] := by
  rintro rfl
  obtain ⟨c, hc, -⟩ := h
  cases hc

theorem endsPlain_append {cs ds : List Char} (h : EndsPlain ds) : EndsPlain (cs ++ ds) := by
  obtain ⟨c, hc, hplain⟩ := h
  exact ⟨c, by rw [List.getLast?_append, hc, Option.some_or], hplain⟩

/-- What ends plainly does so without its first character, if there is another
one. -/
theorem EndsPlain.tail {c : Char} {cs : List Char} (h : EndsPlain (c :: cs)) (hcs : cs ≠ []) :
    EndsPlain cs := by
  obtain ⟨d, hd, hplain⟩ := h
  obtain ⟨a, rest, rfl⟩ := List.exists_cons_of_ne_nil hcs
  exact ⟨d, by rwa [List.getLast?_cons_cons] at hd, hplain⟩

/-- What ends plainly does so without a part of a line break at its start. -/
theorem EndsPlain.of_break {c : Char} {cs : List Char} (h : EndsPlain (c :: cs))
    (hc : c = '\n' ∨ c = '\r') : EndsPlain cs := by
  refine h.tail ?_
  rintro rfl
  obtain ⟨d, hd, hfeed, hreturn⟩ := h
  have hsame : c = d := Option.some.inj hd
  rcases hc with hc | hc
  · exact hfeed (hsame.symm.trans hc)
  · exact hreturn (hsame.symm.trans hc)

/-! ## Cutting -/

/-- A character that is no part of a line break goes to the first line. -/
theorem lines_cons {c : Char} {rest : List Char} (hfeed : c ≠ '\n')
    (hreturn : ∀ after, c = '\r' → rest ≠ '\n' :: after) :
    lines (c :: rest) = consHead c (lines rest) := by
  rw [lines]
  · exact hfeed
  · exact hreturn

/-- A piece in front of a list that has one already only grows the first one. -/
theorem consHead_append {c : Char} {pieces others : List (List Char)} (h : pieces ≠ []) :
    consHead c (pieces ++ others) = consHead c pieces ++ others := by
  cases pieces with
  | nil => exact absurd rfl h
  | cons piece rest => rfl

theorem consHead_ne_nil (c : Char) (pieces : List (List Char)) : consHead c pieces ≠ [] := by
  cases pieces <;> exact List.cons_ne_nil _ _

theorem lines_ne_nil {cs : List Char} (h : cs ≠ []) : lines cs ≠ [] := by
  fun_induction lines cs with
  | case1 => exact absurd rfl h
  | case2 rest _ => exact List.cons_ne_nil _ _
  | case3 rest _ => exact List.cons_ne_nil _ _
  | case4 c rest _ _ _ => exact consHead_ne_nil c _

/-- **A line feed separates the lines of two texts.** -/
theorem lines_append {cs : List Char} (h : EndsPlain cs) (ds : List Char) :
    lines (cs ++ '\n' :: ds) = lines cs ++ lines ds := by
  fun_induction lines cs with
  | case1 => exact absurd rfl h.ne_nil
  | case2 rest ih => rw [List.cons_append, lines, ih (h.of_break (.inl rfl)), List.cons_append]
  | case3 rest ih =>
    have hrest : EndsPlain rest := (h.of_break (.inr rfl)).of_break (.inl rfl)
    rw [List.cons_append, List.cons_append, lines, ih hrest, List.cons_append]
  | case4 c rest hfeed hreturn ih =>
    cases rest with
    | nil =>
      -- the last character of the first text, in front of the line feed
      obtain ⟨d, hd, -, hplain⟩ := h
      have hsame : c = d := Option.some.inj hd
      have hc : c ≠ '\r' := hsame ▸ hplain
      rw [List.singleton_append, lines_cons hfeed (fun _ hr => absurd hr hc), lines, lines]
      rfl
    | cons a rest =>
      have hlines : lines (c :: (a :: rest ++ '\n' :: ds)) =
          consHead c (lines (a :: rest ++ '\n' :: ds)) := by
        refine lines_cons hfeed fun after hc hafter => ?_
        rw [List.cons_append] at hafter
        exact hreturn rest hc (by rw [(List.cons.inj hafter).1])
      rw [List.cons_append, hlines, ih (h.tail (List.cons_ne_nil a rest)),
        consHead_append (lines_ne_nil (List.cons_ne_nil a rest))]

/-- A line without the carriage return at its end, which goes with a line feed behind
it. -/
def withoutReturn (cs : List Char) : List Char :=
  if cs.getLast? = some '\r' then cs.dropLast else cs

theorem withoutReturn_cons {c : Char} {cs : List Char} (h : c = '\r' → cs ≠ []) :
    withoutReturn (c :: cs) = c :: withoutReturn cs := by
  cases cs with
  | nil =>
    have hc : c ≠ '\r' := fun hc => h hc rfl
    simp [withoutReturn, hc]
  | cons d ds =>
    rw [withoutReturn, withoutReturn, List.getLast?_cons_cons, List.dropLast_cons_of_ne_nil
      (List.cons_ne_nil d ds)]
    split <;> rfl

/-- A line has at most the carriage return more. -/
theorem withoutReturn_cases (cs : List Char) :
    cs = withoutReturn cs ∨ cs = withoutReturn cs ++ ['\r'] := by
  unfold withoutReturn
  by_cases h : cs.getLast? = some '\r'
  · rw [if_pos h]
    exact .inr (List.dropLast_append_getLast? _ h).symm
  · rw [if_neg h]
    exact .inl rfl

/-- **What stands in front of a line feed is a line**, without a carriage return at its
end. -/
theorem lines_feed {cs : List Char} (h : '\n' ∉ cs) (rest : List Char) :
    lines (cs ++ '\n' :: rest) = withoutReturn cs :: lines rest := by
  induction cs with
  | nil => exact lines.eq_2 rest
  | cons c cs ih =>
    rw [List.mem_cons, not_or] at h
    by_cases hreturn : c = '\r' ∧ cs = []
    · obtain ⟨rfl, rfl⟩ := hreturn
      exact lines.eq_3 rest
    · rw [List.cons_append, lines_cons (Ne.symm h.1), ih h.2, consHead,
        withoutReturn_cons fun hc hcs => hreturn ⟨hc, hcs⟩]
      intro after hc hafter
      cases cs with
      | nil => exact hreturn ⟨hc, rfl⟩
      | cons d ds =>
        rw [List.cons_append, List.cons.injEq] at hafter
        exact h.2 (hafter.1 ▸ List.mem_cons_self)

/-- **Up to a line feed there are as many lines as line feeds.** -/
theorem length_lines_feed (cs rest : List Char) :
    (lines (cs ++ '\n' :: rest)).length = cs.count '\n' + 1 + (lines rest).length := by
  -- on the length, since the first line may be long
  induction hlength : cs.length using Nat.strongRecOn generalizing cs with
  | _ n ih =>
    by_cases hfeed : '\n' ∈ cs
    · obtain ⟨before, after, rfl, hbefore⟩ := List.eq_append_cons_of_mem hfeed
      rw [List.append_assoc, List.cons_append, lines_feed hbefore, List.length_cons,
        ih after.length (by simp at hlength; omega) after rfl, List.count_append,
        List.count_eq_zero_of_not_mem hbefore, List.count_cons_self]
      omega
    · rw [lines_feed hfeed, List.length_cons, List.count_eq_zero_of_not_mem hfeed]
      omega

/-- No line has a line feed in it. -/
theorem not_mem_of_mem_lines {cs line : List Char} (h : line ∈ lines cs) : '\n' ∉ line := by
  fun_induction lines cs generalizing line with
  | case1 => cases h
  | case2 rest ih | case3 rest ih =>
    rcases List.mem_cons.mp h with rfl | h
    · exact List.not_mem_nil
    · exact ih h
  | case4 c rest hfeed hreturn ih =>
    cases hlines : lines rest with
    | nil =>
      rw [hlines, consHead, List.mem_singleton] at h
      rw [h, List.mem_singleton]
      exact fun hc => hfeed hc.symm
    | cons first others =>
      rw [hlines, consHead] at h
      rw [hlines] at ih
      rcases List.mem_cons.mp h with rfl | h
      · rw [List.mem_cons, not_or]
        exact ⟨fun hc => hfeed hc.symm, ih (List.mem_cons_self ..)⟩
      · exact ih (List.mem_cons_of_mem _ h)

/-- The characters of a line are characters of the text. -/
theorem mem_of_mem_lines {cs line : List Char} (h : line ∈ lines cs) {c : Char} (hc : c ∈ line) :
    c ∈ cs := by
  fun_induction lines cs generalizing line with
  | case1 => cases h
  | case2 rest ih =>
    rcases List.mem_cons.mp h with rfl | h
    · cases hc
    · exact List.mem_cons_of_mem _ (ih h hc)
  | case3 rest ih =>
    rcases List.mem_cons.mp h with rfl | h
    · cases hc
    · exact List.mem_cons_of_mem _ (List.mem_cons_of_mem _ (ih h hc))
  | case4 d rest _ _ ih =>
    cases hlines : lines rest with
    | nil =>
      rw [hlines, consHead, List.mem_singleton] at h
      rw [h, List.mem_singleton] at hc
      exact hc ▸ List.mem_cons_self
    | cons first others =>
      rw [hlines, consHead] at h
      rw [hlines] at ih
      rcases List.mem_cons.mp h with rfl | h
      · rcases List.mem_cons.mp hc with rfl | hc
        · exact List.mem_cons_self
        · exact List.mem_cons_of_mem _ (ih List.mem_cons_self hc)
      · exact List.mem_cons_of_mem _ (ih (List.mem_cons_of_mem _ h) hc)

/-- A text without line feeds is a single line. -/
theorem lines_of_not_mem {cs : List Char} (hne : cs ≠ []) (h : '\n' ∉ cs) : lines cs = [cs] := by
  induction cs with
  | nil => exact absurd rfl hne
  | cons c rest ih =>
    rw [List.mem_cons, not_or] at h
    have hlines : lines (c :: rest) = consHead c (lines rest) := by
      refine lines_cons (Ne.symm h.1) fun after _ hafter => ?_
      rw [hafter] at h
      exact h.2 (List.mem_cons_self ..)
    cases rest with
    | nil => rw [hlines, lines, consHead]
    | cons a rest => rw [hlines, ih (List.cons_ne_nil a rest) h.2, consHead]

/-! ## The first line -/

theorem head?_consHead (c : Char) (pieces : List (List Char)) :
    (consHead c pieces).head? = some (c :: pieces.head?.getD []) := by
  cases pieces <;> rfl

/-- The first line starts as the text does, unless it is empty. -/
theorem head?_of_head?_lines {cs first : List Char} {c : Char} (h : (lines cs).head? = some first)
    (hc : first.head? = some c) : cs.head? = some c := by
  fun_induction lines cs with
  | case1 => cases h
  | case2 rest _ | case3 rest _ =>
    cases h
    cases hc
  | case4 d rest _ _ _ =>
    rw [head?_consHead, Option.some.injEq] at h
    rw [← h] at hc
    exact hc

/-- The text starts as its first line does, unless it starts with a line break. -/
theorem head?_of_starts {cs first : List Char} {c : Char} (h : (lines cs).head? = some first)
    (hc : cs.head? = some c) (hfeed : c ≠ '\n') (hreturn : c ≠ '\r') :
    first.head? = some c := by
  cases cs with
  | nil => cases hc
  | cons d rest =>
    cases hc
    rw [lines_cons hfeed fun _ hr => absurd hr hreturn, head?_consHead] at h
    cases h
    rfl

/-- **The first line of a text is trimmed together with the text**, as long as it
is not blank. -/
theorem head?_lines_trimStart {cs first : List Char} (h : (lines cs).head? = some first)
    (hblank : first.all isBlank = false) :
    (lines (trimStart cs)).head? = some (trimStart first) := by
  fun_induction lines cs generalizing first with
  | case1 => cases h
  | case2 rest _ | case3 rest _ =>
    cases h
    cases hblank
  | case4 c rest hfeed hreturn ih =>
    rw [head?_consHead, Option.some.injEq] at h
    subst h
    cases hc : isBlank c with
    | true =>
      rw [List.all_cons, hc, Bool.true_and] at hblank
      rw [trimStart, trimStart, List.dropWhile_cons_of_pos hc, List.dropWhile_cons_of_pos hc]
      refine ih ?_ hblank
      -- the line goes on, since it is not blank so far
      cases hrest : (lines rest).head? with
      | some line => rfl
      | none =>
        rw [hrest] at hblank
        cases hblank
    | false =>
      have hneg : ¬ isBlank c = true := by rw [hc]; exact Bool.false_ne_true
      rw [trimStart, trimStart, List.dropWhile_cons_of_neg hneg, List.dropWhile_cons_of_neg hneg,
        lines_cons hfeed hreturn, head?_consHead]

end Chars

namespace Text

/-! ## Joining -/

/-- Whether a text is not empty and does not end with a part of a line break. -/
def EndsPlain (s : String) : Prop :=
  Chars.EndsPlain s.toList

theorem unlines_cons_cons (a b : String) (rest : List String) :
    (unlines (a :: b :: rest)).toList = a.toList ++ '\n' :: (unlines (b :: rest)).toList := by
  rw [unlines, String.toList_intercalate, List.map_cons, List.map_cons, List.intercalate_cons_cons,
    unlines, String.toList_intercalate, List.map_cons]
  simp

theorem unlines_singleton (a : String) : unlines [a] = a := by
  rw [← String.toList_inj, unlines, String.toList_intercalate]
  simp

theorem unlines_append {ls ms : List String} (hls : ls ≠ []) (hms : ms ≠ []) :
    (unlines (ls ++ ms)).toList = (unlines ls).toList ++ '\n' :: (unlines ms).toList := by
  obtain ⟨m, ms, rfl⟩ := List.exists_cons_of_ne_nil hms
  induction ls with
  | nil => exact absurd rfl hls
  | cons a rest ih =>
    cases rest with
    | nil => rw [List.singleton_append, unlines_cons_cons, unlines_singleton]
    | cons b rest =>
      rw [List.cons_append, List.cons_append, unlines_cons_cons, unlines_cons_cons,
        ← List.cons_append, ih (List.cons_ne_nil b rest), List.append_assoc, List.cons_append]

/-- **Parts that are joined one by one and then together** are joined at once. -/
theorem unlines_map_unlines {parts : List (List String)} (h : ∀ part ∈ parts, part ≠ []) :
    unlines (parts.map unlines) = unlines parts.flatten := by
  induction parts with
  | nil => rfl
  | cons part rest ih =>
    rw [List.forall_mem_cons] at h
    cases rest with
    | nil => rw [List.map_singleton, unlines_singleton, List.flatten_singleton]
    | cons next rest =>
      have hne : (next :: rest).flatten ≠ [] := by
        rw [List.flatten_cons]
        exact List.append_ne_nil_of_left_ne_nil (h.2 next List.mem_cons_self) _
      have hflatten : (part :: next :: rest).flatten = part ++ (next :: rest).flatten :=
        List.flatten_cons
      rw [← String.toList_inj, hflatten, unlines_append h.1 hne, List.map_cons, List.map_cons,
        unlines_cons_cons, ← List.map_cons, ih h.2]

/-- **A part goes up to the next one**, where `p` holds of its lines and not of the line that
the next part starts with. -/
theorem takeWhile_append_flatten {p : String → Bool} {ls : List String}
    {parts : List (List String)} (hls : ∀ line ∈ ls, p line = true)
    (hparts : ∀ part ∈ parts, ∃ first rest, part = first :: rest ∧ p first = false) :
    (ls ++ parts.flatten).takeWhile p = ls := by
  have hend : parts.flatten.takeWhile p = [] := by
    cases parts with
    | nil => rfl
    | cons part more =>
      obtain ⟨first, rest, rfl, hfirst⟩ := hparts part List.mem_cons_self
      rw [List.flatten_cons, List.cons_append, List.takeWhile_cons, hfirst]
      rfl
  rw [List.takeWhile_append_of_pos hls, hend, List.append_nil]

/-- What is joined ends as the last part does. -/
theorem endsPlain_unlines {texts : List String} (hne : texts ≠ [])
    (h : ∀ s ∈ texts, EndsPlain s) : EndsPlain (unlines texts) := by
  induction texts with
  | nil => exact absurd rfl hne
  | cons a rest ih =>
    cases rest with
    | nil =>
      rw [unlines_singleton]
      exact h a (List.mem_cons_self ..)
    | cons b rest =>
      have hrest := ih (List.cons_ne_nil b rest) fun s hs => h s (List.mem_cons_of_mem _ hs)
      rw [EndsPlain, unlines_cons_cons, ← List.singleton_append, ← List.append_assoc]
      exact Chars.endsPlain_append hrest

/-- **The lines of texts that are joined are the lines of the texts.** -/
theorem lines_unlines {texts : List String} (h : ∀ s ∈ texts, EndsPlain s) :
    lines (unlines texts) = texts.flatMap lines := by
  induction texts with
  | nil => decide
  | cons a rest ih =>
    cases rest with
    | nil => rw [unlines_singleton, List.flatMap_singleton]
    | cons b rest =>
      rw [lines, unlines_cons_cons, Chars.lines_append (h a (List.mem_cons_self ..)),
        List.map_append, List.flatMap_cons, ← ih fun s hs => h s (List.mem_cons_of_mem _ hs)]
      rfl

/-- Whether a text is a single line that ends plainly. -/
structure IsLine (s : String) : Prop where
  ends : EndsPlain s
  single : '\n' ∉ s.toList

/-- The lines of a text are lines, as long as they end plainly. -/
theorem isLine_of_mem_lines {s line : String} (h : line ∈ lines s) (hends : EndsPlain line) :
    IsLine line := by
  obtain ⟨cs, hcs, rfl⟩ := List.mem_map.mp h
  refine ⟨hends, ?_⟩
  rw [String.toList_ofList]
  exact Chars.not_mem_of_mem_lines hcs

/-- A line is its only line. -/
theorem IsLine.lines_eq {line : String} (h : IsLine line) : lines line = [line] := by
  rw [lines, Chars.lines_of_not_mem h.ends.ne_nil h.single, List.map_singleton,
    String.ofList_toList]

/-- **Lines that are joined are found again.** -/
theorem lines_unlines_of_isLine {ls : List String} (h : ∀ line ∈ ls, IsLine line) :
    lines (unlines ls) = ls := by
  have hlines : ls.flatMap lines = ls.flatMap fun line => [line] :=
    List.flatMap_congr fun line hline => (h line hline).lines_eq
  rw [lines_unlines fun line hline => (h line hline).ends, hlines, List.flatMap_singleton']

/-- A line without the carriage return at its end. -/
def withoutReturn (line : String) : String :=
  .ofList (Chars.withoutReturn line.toList)

/-- The lines that joined lines are cut into: a line feed behind a line takes a carriage
return at the end of the line with it, and an empty last line is none. -/
def recut : List String → List String
  | [] => []
  | [line] => if line.isEmpty then [] else [line]
  | line :: next :: rest => withoutReturn line :: recut (next :: rest)

/-- **Lines that are joined and cut again.** -/
theorem lines_unlines_eq_recut {ls : List String} (h : ∀ line ∈ ls, '\n' ∉ line.toList) :
    lines (unlines ls) = recut ls := by
  induction ls with
  | nil => rfl
  | cons line rest ih =>
    have hline := h line List.mem_cons_self
    cases rest with
    | nil =>
      rw [unlines_singleton, recut]
      by_cases hempty : line.isEmpty = true
      · rw [if_pos hempty, String.isEmpty_iff.mp hempty]
        rfl
      · have hne : line.toList ≠ [] := by
          intro hnil
          exact hempty (String.isEmpty_iff.mpr (String.toList_inj.mp hnil))
        rw [if_neg hempty, lines, Chars.lines_of_not_mem hne hline, List.map_singleton,
          String.ofList_toList]
    | cons next rest =>
      have hrest := ih fun l hl => h l (List.mem_cons_of_mem _ hl)
      rw [lines, unlines_cons_cons, Chars.lines_feed hline, List.map_cons, recut, ← hrest]
      rfl

/-- What holds of lines with and without their carriage returns holds of the lines that
they are cut into. -/
theorem forall_mem_recut {P : String → Prop} {ls : List String}
    (h : ∀ line ∈ ls, P line ∧ P (withoutReturn line)) : ∀ line ∈ recut ls, P line := by
  induction ls with
  | nil =>
    intro line hline
    cases hline
  | cons first rest ih =>
    have hfirst := h first List.mem_cons_self
    intro line hline
    cases rest with
    | nil =>
      rw [recut] at hline
      split at hline
      · cases hline
      · rw [List.mem_singleton.mp hline]
        exact hfirst.1
    | cons next rest =>
      rcases List.mem_cons.mp hline with rfl | hline
      · exact hfirst.2
      · exact ih (fun l hl => h l (List.mem_cons_of_mem _ hl)) line hline

/-! ## The first line -/

theorem head?_lines (s : String) : (lines s).head? = (Chars.lines s.toList).head?.map .ofList := by
  rw [lines, List.head?_map]

/-- The first line of a text is trimmed together with the text, as long as it is
not blank. -/
theorem head?_lines_trimStart {s first : String} (h : (lines s).head? = some first)
    (hblank : isAllBlank first = false) :
    (lines (trimStart s)).head? = some (trimStart first) := by
  rw [head?_lines, Option.map_eq_some_iff] at h
  obtain ⟨cs, hcs, rfl⟩ := h
  rw [isAllBlank, String.toList_ofList] at hblank
  rw [head?_lines, trimStart, String.toList_ofList, Chars.head?_lines_trimStart hcs hblank,
    Option.map_some, trimStart, String.toList_ofList]

end Text

end Lineage
