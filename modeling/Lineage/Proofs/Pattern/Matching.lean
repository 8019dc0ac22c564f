import Mathlib.Data.List.Basic
import Lineage.Pattern.Basic

/-!
# The texts that patterns take

The positions of a text are counted in a list of marks. Here they are named by
what follows them: a position is marked when there is a mark as far from the
start as the rest of the text is. Said so, a pattern without conditions takes
some text off that rest wherever it starts: one character of a set, any number
of them, or for a sequence the one text after the other. An anchor takes
nothing, and keeps the positions where its condition holds.
-/

namespace Lineage.Pattern

/-- Whether the position in front of the rest of a text is marked. -/
def Marked (text : List Char) (marks : List Bool) (rest : List Char) : Prop :=
  ∃ before, text = before ++ rest ∧ marks[before.length]? = some true

/-- Whether there is a mark for each position of a text. -/
def Fits (text : List Char) (marks : List Bool) : Prop :=
  marks.length = text.length + 1

/-- Whether a pattern takes the texts of a language and no others, wherever it
starts. -/
structure Takes (p : Pattern) (language : List Char → Prop) : Prop where
  fits : ∀ {text marks}, Fits text marks → Fits text (ends text p marks)
  marked_iff : ∀ {text marks rest}, Fits text marks →
    (Marked text (ends text p marks) rest ↔
      ∃ taken, language taken ∧ Marked text marks (taken ++ rest))

variable {text rest before : List Char} {marks : List Bool} {set : CharSet}

/-! ## Single characters -/

theorem marked_ends_oneOf_iff :
    Marked text (ends text (.oneOf set) marks) rest ↔
      ∃ c, set.contains c = true ∧ Marked text marks (c :: rest) := by
  constructor
  · intro hmarked
    obtain ⟨before, rfl, hmark⟩ := hmarked
    -- the first position is never an end, so a character stands in front
    rcases List.eq_nil_or_concat before with rfl | ⟨before, c, rfl⟩
    · cases hmark
    · rw [ends, List.concat_eq_append, List.length_append, List.length_singleton,
        List.getElem?_cons_succ, List.getElem?_zipWith_eq_some] at hmark
      obtain ⟨mark, d, hmark, hd, hboth⟩ := hmark
      rw [List.append_assoc, List.getElem?_append_right (Nat.le_refl _), Nat.sub_self] at hd
      obtain rfl : c = d := Option.some.inj hd
      obtain ⟨rfl, hset⟩ := (Bool.and_eq_true _ _).mp hboth
      exact ⟨c, hset, before, by simp, hmark⟩
  · intro hsome
    obtain ⟨c, hset, before, rfl, hmark⟩ := hsome
    refine ⟨before ++ [c], by simp, ?_⟩
    rw [ends, List.length_append, List.length_singleton, List.getElem?_cons_succ,
      List.getElem?_zipWith_eq_some]
    refine ⟨true, c, hmark, ?_, by rw [hset]; rfl⟩
    rw [List.getElem?_append_right (Nat.le_refl _), Nat.sub_self]
    rfl

theorem takes_oneOf (set : CharSet) :
    Takes (.oneOf set) fun taken => ∃ c, set.contains c = true ∧ taken = [c] where
  fits := fun h => by
    unfold Fits at *
    simp [ends, h]
  marked_iff := fun _ => by
    rw [marked_ends_oneOf_iff]
    constructor
    · intro hsome
      obtain ⟨c, hset, hmark⟩ := hsome
      exact ⟨[c], ⟨c, hset, rfl⟩, hmark⟩
    · intro htaken
      obtain ⟨_, ⟨c, hset, rfl⟩, hmark⟩ := htaken
      exact ⟨c, hset, hmark⟩

/-! ## Any number of characters -/

theorem length_spread (set : CharSet) (carried : Bool) (marks : List Bool) (text : List Char) :
    (spread set carried marks text).length = marks.length := by
  induction text generalizing carried marks with
  | nil => cases marks <;> simp [spread]
  | cons c text ih =>
    cases marks with
    | nil => rfl
    | cons mark marks =>
      rw [spread, List.length_cons, ih, List.length_cons]

/-- Whether a position is reached from a marked one before it over characters
of a set. -/
def Reached (set : CharSet) (marks : List Bool) (before : List Char) : Prop :=
  ∃ front taken, before = front ++ taken ∧ marks[front.length]? = some true ∧
    ∀ c ∈ taken, set.contains c = true

theorem reached_nil {mark : Bool} : Reached set (mark :: marks) [] ↔ mark = true := by
  constructor
  · intro hreached
    obtain ⟨front, taken, hsplit, hmark, -⟩ := hreached
    obtain ⟨rfl, rfl⟩ := List.nil_eq_append_iff.1 hsplit
    exact Option.some.inj hmark
  · intro hfirst
    subst hfirst
    exact ⟨[], [], rfl, rfl, fun _ hc => nomatch hc⟩

theorem reached_cons {mark : Bool} {c : Char} :
    Reached set (mark :: marks) (c :: before) ↔
      (mark = true ∧ ∀ d ∈ c :: before, set.contains d = true) ∨ Reached set marks before := by
  constructor
  · intro hreached
    obtain ⟨front, taken, hsplit, hmark, hall⟩ := hreached
    rcases List.cons_eq_append_iff.1 hsplit with ⟨rfl, rfl⟩ | ⟨front, rfl, rfl⟩
    · exact .inl ⟨Option.some.inj hmark, hall⟩
    · exact .inr ⟨front, taken, rfl, hmark, hall⟩
  · intro hreached
    rcases hreached with ⟨rfl, hall⟩ | ⟨front, taken, rfl, hmark, hall⟩
    · exact ⟨[], c :: before, rfl, rfl, hall⟩
    · exact ⟨c :: front, taken, rfl, hmark, hall⟩

/-- The positions over which characters are taken are the reached ones. Walking
on, `carried` stands for a mark that was passed, so the induction is on what
stands in front of the position with `carried` left open. -/
theorem getElem?_spread_eq_some_true_iff {carried : Bool} (h : before.length < marks.length) :
    (spread set carried marks (before ++ rest))[before.length]? = some true ↔
      (carried = true ∧ ∀ c ∈ before, set.contains c = true) ∨ Reached set marks before := by
  induction before generalizing carried marks with
  | nil =>
    obtain ⟨mark, marks, rfl⟩ := List.exists_cons_of_length_pos h
    have hhead : (spread set carried (mark :: marks) rest)[0]? = some (carried || mark) := by
      cases rest <;> rfl
    rw [List.nil_append, List.length_nil, hhead, reached_nil]
    simp
  | cons c before ih =>
    obtain ⟨mark, marks, rfl⟩ := List.exists_cons_of_length_pos (Nat.zero_lt_of_lt h)
    rw [List.cons_append, spread, List.length_cons, List.getElem?_cons_succ,
      ih (Nat.lt_of_succ_lt_succ h), reached_cons, ← or_assoc]
    refine or_congr_left ?_
    simp only [Bool.and_eq_true, Bool.or_eq_true, List.forall_mem_cons, and_assoc, or_and_right]

theorem takes_repeated (set : CharSet) :
    Takes (.repeated (.oneOf set) 0 none) fun taken => ∀ c ∈ taken, set.contains c = true where
  fits := fun h => by
    unfold Fits at *
    rw [ends, iterate, length_spread, h]
  marked_iff := fun {text marks rest} hfits => by
    rw [ends, iterate]
    constructor
    · intro hmarked
      obtain ⟨before, rfl, hmark⟩ := hmarked
      have hlength : before.length < marks.length := by
        rw [hfits, List.length_append]
        omega
      rw [getElem?_spread_eq_some_true_iff hlength] at hmark
      rcases hmark with ⟨hfalse, -⟩ | ⟨front, taken, rfl, hmark, hall⟩
      · cases hfalse
      · exact ⟨taken, hall, front, List.append_assoc .., hmark⟩
    · intro htaken
      obtain ⟨taken, hall, front, rfl, hmark⟩ := htaken
      refine ⟨front ++ taken, (List.append_assoc ..).symm, ?_⟩
      have hlength : (front ++ taken).length < marks.length := by
        rw [hfits, List.length_append, List.length_append, List.length_append]
        omega
      rw [← List.append_assoc, getElem?_spread_eq_some_true_iff hlength]
      exact .inr ⟨front, taken, rfl, hmark, hall⟩

/-! ## Sequences -/

theorem takes_nothing : Takes .nothing fun taken => taken = [] where
  fits := fun h => h
  marked_iff := fun _ => by
    constructor
    · exact fun hmark => ⟨[], rfl, hmark⟩
    · intro htaken
      obtain ⟨_, rfl, hmark⟩ := htaken
      exact hmark

theorem ends_followedBy (first second : Pattern) :
    ends text (followedBy first second) marks = ends text second (ends text first marks) := by
  unfold followedBy
  split
  · rename_i h
    rw [h, ends]
  · split
    · rename_i h
      rw [h, ends]
    · rw [ends]

theorem ends_sequence (ps : List Pattern) :
    ends text (sequence ps) marks = ps.foldl (fun marks p => ends text p marks) marks := by
  induction ps generalizing marks with
  | nil => rfl
  | cons p ps ih => rw [sequence, List.foldr_cons, ends_followedBy, List.foldl_cons, ← ih]; rfl

/-- A pattern in front of a sequence takes the start of what the whole takes. -/
theorem Takes.sequence_cons {p : Pattern} {ps : List Pattern} {first more : List Char → Prop}
    (hp : Takes p first) (hps : Takes (sequence ps) more) :
    Takes (sequence (p :: ps)) fun taken => ∃ a b, taken = a ++ b ∧ first a ∧ more b where
  fits := fun h => by
    rw [sequence, List.foldr_cons, ends_followedBy]
    exact hps.fits (hp.fits h)
  marked_iff := fun {text marks rest} h => by
    rw [sequence, List.foldr_cons, ends_followedBy]
    refine (hps.marked_iff (hp.fits h)).trans ?_
    constructor
    · intro hsome
      obtain ⟨b, hb, hmark⟩ := hsome
      obtain ⟨a, ha, hmark⟩ := (hp.marked_iff h).1 hmark
      exact ⟨a ++ b, ⟨a, b, rfl, ha, hb⟩, by rw [List.append_assoc]; exact hmark⟩
    · intro htaken
      obtain ⟨_, ⟨a, b, rfl, ha, hb⟩, hmark⟩ := htaken
      rw [List.append_assoc] at hmark
      exact ⟨b, hb, (hp.marked_iff h).2 ⟨a, ha, hmark⟩⟩

/-- A pattern takes the same texts under another description of them. -/
theorem Takes.congr {p : Pattern} {language other : List Char → Prop} (hp : Takes p language)
    (h : ∀ taken, language taken ↔ other taken) : Takes p other := by
  obtain rfl : language = other := funext fun taken => propext (h taken)
  exact hp

/-! ## Whole texts -/

theorem getElem?_anchored (anchor : Anchor) (previous : Option Char) :
    (anchored anchor previous (before ++ rest))[before.length]? =
      some (anchor.holds (before.getLast?.or previous) rest.head?) := by
  induction before generalizing previous with
  | nil => cases rest <;> rfl
  | cons c before ih =>
    rw [List.cons_append, anchored, List.length_cons, List.getElem?_cons_succ, ih]
    congr 1
    cases before <;> simp [List.getLast?_cons]

/-- An anchor keeps the marked positions between whose neighbours it holds. -/
theorem marked_ends_at_iff {anchor : Anchor} :
    Marked text (ends text (.at anchor) marks) rest ↔
      ∃ before, text = before ++ rest ∧ marks[before.length]? = some true ∧
        anchor.holds before.getLast? rest.head? = true := by
  refine exists_congr fun before => and_congr_right fun htext => ?_
  rw [ends, List.getElem?_zipWith_eq_some, htext]
  simp only [getElem?_anchored, Option.or_none]
  constructor
  · intro hends
    obtain ⟨mark, holds, hmark, hholds, hboth⟩ := hends
    obtain ⟨rfl, rfl⟩ := (Bool.and_eq_true _ _).mp hboth
    exact ⟨hmark, Option.some.inj hholds⟩
  · intro hkept
    obtain ⟨hmark, hholds⟩ := hkept
    exact ⟨true, true, hmark, by rw [hholds], rfl⟩

theorem length_anchored (anchor : Anchor) (previous : Option Char) (text : List Char) :
    (anchored anchor previous text).length = text.length + 1 := by
  induction text generalizing previous with
  | nil => rfl
  | cons c text ih => rw [anchored, List.length_cons, ih, List.length_cons]

theorem fits_ends_at {anchor : Anchor} (h : Fits text marks) :
    Fits text (ends text (.at anchor) marks) := by
  unfold Fits at *
  rw [ends, List.length_zipWith, length_anchored, h, Nat.min_self]

theorem any_eq_true_iff_marked (h : Fits text marks) :
    marks.any id = true ↔ ∃ rest, Marked text marks rest := by
  rw [List.any_eq_true]
  constructor
  · intro hany
    obtain ⟨mark, hmem, rfl⟩ := hany
    obtain ⟨i, hi, hmark⟩ := List.getElem_of_mem hmem
    have hlength : (text.take i).length = i := by
      rw [List.length_take]
      unfold Fits at h
      omega
    refine ⟨text.drop i, text.take i, (List.take_append_drop i text).symm, ?_⟩
    rw [hlength, List.getElem?_eq_some_iff]
    exact ⟨hi, hmark⟩
  · intro hsome
    obtain ⟨rest, before, -, hmark⟩ := hsome
    exact ⟨true, List.mem_of_getElem? hmark, rfl⟩

/-- From all positions, the start of a text keeps the one with all of it
behind. -/
theorem marked_ends_textStart_iff :
    Marked text (ends text (.at .textStart) (List.replicate (text.length + 1) true)) rest ↔
      rest = text := by
  rw [marked_ends_at_iff]
  constructor
  · intro hmarked
    obtain ⟨before, htext, -, hholds⟩ := hmarked
    rw [Anchor.holds, Option.isNone_iff_eq_none, List.getLast?_eq_none_iff] at hholds
    rw [htext, hholds, List.nil_append]
  · intro hrest
    subst hrest
    exact ⟨[], rfl, rfl, rfl⟩

/-- The end of a text keeps the position with nothing behind. -/
theorem marked_ends_textEnd_iff :
    Marked text (ends text (.at .textEnd) marks) rest ↔ rest = [] ∧ Marked text marks [] := by
  rw [marked_ends_at_iff]
  constructor
  · intro hmarked
    obtain ⟨before, htext, hmark, hholds⟩ := hmarked
    rw [Anchor.holds, Option.isNone_iff_eq_none, List.head?_eq_none_iff] at hholds
    exact ⟨hholds, before, by rw [htext, hholds], hmark⟩
  · intro hend
    obtain ⟨rfl, before, htext, hmark⟩ := hend
    exact ⟨before, htext, hmark, rfl⟩

/-- A pattern between the start and the end of a text occurs in the texts that
it takes as a whole. -/
theorem occursIn_anchored_iff {ps : List Pattern} {language : List Char → Prop}
    (h : Takes (sequence ps) language) :
    (sequence (.at .textStart :: (ps ++ [.at .textEnd]))).occursIn text = true ↔
      language text := by
  have hall : Fits text (List.replicate (text.length + 1) true) := List.length_replicate ..
  have hstart : Fits text (ends text (.at .textStart) _) := fits_ends_at hall
  have hends (marks : List Bool) :
      ends text (sequence (.at .textStart :: (ps ++ [.at .textEnd]))) marks =
        ends text (.at .textEnd) (ends text (sequence ps) (ends text (.at .textStart) marks)) := by
    rw [ends_sequence, ends_sequence, List.foldl_cons, List.foldl_append]
    rfl
  rw [occursIn, hends, any_eq_true_iff_marked (fits_ends_at (h.fits hstart))]
  simp only [marked_ends_textEnd_iff, h.marked_iff hstart, marked_ends_textStart_iff,
    List.append_nil]
  constructor
  · intro hmarked
    obtain ⟨_, _, _, htaken, rfl⟩ := hmarked
    exact htaken
  · exact fun htaken => ⟨[], rfl, text, htaken, rfl⟩

end Lineage.Pattern
