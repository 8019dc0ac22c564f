import Lineage.Proofs.Date.Order
import Lineage.Proofs.Listing.Reading
import Lineage.Proofs.Store.Dates

/-!
# Bounds that the store answers and bounds as conditions

Both readers of a bound decide on one date, that of the first fact with the tag: the store
by whether it is valid and where it ends, a condition by the order of dates. Dates that do
not straddle the limit are on the same side of it for both.

> `ListFilter.accepts_iff_holds`
-/

namespace Lineage

/-- A sound date that is ordered by its own days, as all are but those qualified as before or
after. -/
structure Date.Spans (date : Date) : Prop extends date.Sound where
  range_eq : date.range = (date.firstDay, date.lastDay)

/-- **The end of a date and the order of dates decide alike where the date does not straddle the
limit.** -/
theorem DateBound.within_eq_allows_iff (bound : DateBound) {limit date : Date}
    (hlimit : limit.Spans) (hdate : date.Spans) :
    ListFilter.withinBound bound limit date = bound.allows limit date ↔
      ¬ bound.Straddles limit date := by
  have hlt := Date.compare_eq_lt_iff hdate.forward hlimit.forward
  have hgt := Date.compare_eq_gt_iff hdate.forward hlimit.forward
  have hcounted := hlimit.counted
  simp only [Date.Precedes, hlimit.range_eq, hdate.range_eq] at hlt hgt hcounted
  rw [Bool.eq_iff_iff]
  cases bound with
  | notAfter =>
    rw [ListFilter.withinBound, allows, decide_eq_true_eq, bne_iff_ne, Ne, hgt, Straddles]
    omega
  | notBefore =>
    rw [ListFilter.withinBound, allows, decide_eq_true_eq, bne_iff_ne, Ne, hlt, Straddles]
    omega

/-- The order of dates asks for nothing but their ranges. -/
theorem DateBound.allows_congr (bound : DateBound) {limit limit' : Date}
    (h : limit.range = limit'.range) (date : Date) :
    bound.allows limit date = bound.allows limit' date := by
  have hcompare : date.compare limit = date.compare limit' := by
    rw [Date.compare, Date.compare, h]
  unfold allows
  rw [hcompare]

/-- What a condition on a date decides. -/
theorem ListCondition.holds_compare {store : Store} {path text value : String} {bound : DateBound}
    (hlast : (Text.split ':' path).getLastD path = "DATE") :
    holds store text (.compare path bound.comparison value) =
      bound.allows (Date.parse value)
        (Date.parse (Leveled.value path 1 text store.noteText?)) := by
  have hrange : (Date.parse (if value = "''" then "" else value)).range =
      (Date.parse value).range := by
    split
    next hquotes =>
      rw [hquotes]
      decide +kernel
    next => rfl
  have hvalue : valueAt store path "DATE" text = Leveled.value path 1 text store.noteText? := by
    rw [valueAt]
    exact if_neg fun h => absurd h.2 (by decide)
  rw [← bound.allows_congr hrange]
  unfold holds
  dsimp only
  rw [hlast, hvalue, if_pos rfl]
  generalize Date.parse (Leveled.value path 1 text store.noteText?) = date
  generalize Date.parse (if value = "''" then "" else value) = limit
  cases bound <;> rfl

theorem eq_of_length_le_one {α : Type} {as : List α} (h : as.length ≤ 1) {a b : α} (ha : a ∈ as)
    (hb : b ∈ as) : a = b := by
  match as, h with
  | [c], _ => rw [List.mem_singleton.mp ha, List.mem_singleton.mp hb]

/-- **What a filter on a date decides**, as long as there are not two facts with its tag. -/
theorem ListFilter.accepts_factDate {store : Store} {record : Record} {tag : String}
    {bound : DateBound} {limit : Date}
    (hone : (record.facts.filter (·.tag == tag)).length ≤ 1) :
    (factDate tag bound limit).accepts store record =
      ((record.dateOf tag).isValid && withinBound bound limit (record.dateOf tag)) := by
  rw [accepts, Record.dateOf]
  cases hfind : record.facts.find? (·.tag == tag) with
  | none =>
    have hinvalid : (Date.parse "").isValid = false := by decide +kernel
    rw [List.find?_eq_none] at hfind
    dsimp only
    rw [hinvalid, Bool.false_and, List.any_eq_false]
    intro fact hfact
    rw [Bool.not_eq_true, (Bool.not_eq_true _).mp (hfind fact hfact), Bool.false_and,
      Bool.false_and]
  | some found =>
    have hmem : found ∈ record.facts.filter (·.tag == tag) :=
      List.mem_filter.mpr ⟨List.mem_of_find?_eq_some hfind,
        List.find?_some (p := fun fact : Fact => fact.tag == tag) hfind⟩
    have htag := (List.mem_filter.mp hmem).2
    rw [Bool.eq_iff_iff, List.any_eq_true]
    constructor
    · rintro ⟨fact, hfact, hdecides⟩
      rw [Bool.and_assoc, Bool.and_eq_true] at hdecides
      have hfact' : fact ∈ record.facts.filter (·.tag == tag) :=
        List.mem_filter.mpr ⟨hfact, hdecides.1⟩
      rw [eq_of_length_le_one hone hmem hfact']
      exact hdecides.2
    · intro hdecides
      refine ⟨found, (List.mem_filter.mp hmem).1, ?_⟩
      rw [Bool.and_assoc, Bool.and_eq_true]
      exact ⟨htag, hdecides⟩

/-- A tag of capital letters can stand on a line and in a path. -/
theorem exists_tag_of_isUpper {tag : String} (hne : tag.toList ≠ [])
    (htag : ∀ c ∈ tag.toList, c.isUpper = true) : ∃ t : Leveled.Tag, t.text = tag := by
  refine ⟨⟨tag, hne, List.all_eq_true.mpr fun c hc => ?_⟩, rfl⟩
  have hupper := htag c hc
  rw [Bool.and_eq_true, Bool.not_eq_true', bne_iff_ne]
  refine ⟨Chars.isBlank_eq_false_of_isUpper hupper, ?_⟩
  rintro rfl
  cases hupper

/-- **A bound on a date, as the store answers it and as a condition.** Let the tag be one of
capital letters, no variable be referred to, and the record be laid out as in a file, with
nothing hidden, with at most one fact of the tag, and, if that is a title, with no abbreviation in
its place. Then both read the same bound and decide on the same date, that of the fact or the
empty one. The store wants it to be valid and asks for one of its ends, the condition asks for its
place in the order of dates; for a valid date this is the same decision unless the date straddles
the limit. -/
theorem ListFilter.accepts_iff_holds {store : Store} {record : Record} {text tag : String}
    {bound : DateBound} {limit : Date} (hfilter : parse? text = some (.factDate tag bound limit))
    (htag : ∀ c ∈ tag.toList, c.isUpper = true)
    (hvariable : Substitution.firstVariable? text = none) (hlaid : record.LaidOut tag)
    (hshow : store.canShow record = true)
    (hfacts : ∀ fact ∈ record.facts, store.canShowFact fact = true)
    (hone : (record.facts.filter (·.tag == tag)).length ≤ 1)
    (htitle : tag = "TITL" → (∃ fact ∈ record.facts, fact.tag = "TITL") ∨
      ∀ fact ∈ record.facts, fact.tag ≠ "ABBR") (scope : Scope) :
    ∃ condition, ListCondition.parse? text scope = some condition ∧
      (factDate tag bound limit).accepts store record =
        ((record.dateOf tag).isValid && withinBound bound limit (record.dateOf tag)) ∧
      condition.holds store (store.privatize record) = bound.allows limit (record.dateOf tag) ∧
      ((record.dateOf tag).isValid = true → (record.dateOf tag).Spans → limit.Spans →
        ((factDate tag bound limit).accepts store record =
            condition.holds store (store.privatize record) ↔
          ¬ bound.Straddles limit (record.dateOf tag))) := by
  obtain ⟨-, -, hne, -⟩ := exists_of_factDate hfilter
  obtain ⟨value, hcondition, hlimit⟩ :=
    ListCondition.parse?_of_factDate hfilter htag hvariable scope
  obtain ⟨t, rfl⟩ := exists_tag_of_isUpper hne htag
  have haccepts := @accepts_factDate store record t.text bound limit hone
  have hholds : (ListCondition.compare (t.text ++ ":DATE") bound.comparison value).holds store
      (store.privatize record) = bound.allows limit (record.dateOf t.text) := by
    have hlast : (Text.split ':' (t.text ++ ":DATE")).getLastD (t.text ++ ":DATE") = "DATE" := by
      rw [Leveled.split_datePath]
      rfl
    rw [ListCondition.holds_compare hlast,
      Store.parse_value_privatize hlaid hshow hfacts htitle, hlimit]
  -- for a valid date only the end of the date and the order of dates are left to compare
  refine ⟨_, hcondition, haccepts, hholds, fun hvalid hdate hspans => ?_⟩
  rw [haccepts, hholds, hvalid, Bool.true_and]
  exact bound.within_eq_allows_iff hspans hdate

/-- A person that was born in 1900. -/
def Record.bornIn1900 : Record :=
  ⟨"I", .individual, "0 @I@ INDI\n1 BIRT\n2 DATE 1900"⟩

theorem Record.laidOut_bornIn1900 : bornIn1900.LaidOut "BIRT" := by
  have hlines : Text.lines bornIn1900.text = ["0 @I@ INDI", "1 BIRT", "2 DATE 1900"] := by
    decide +kernel
  refine ⟨⟨by decide +kernel, ?_⟩, ?_, ?_⟩
  · rw [hlines]
    simp only [List.forall_mem_cons, List.not_mem_nil, false_imp_iff, implies_true, and_true]
    exact ⟨⟨'I', rfl, by decide⟩, ⟨'T', rfl, by decide⟩, ⟨'0', rfl, by decide⟩⟩
  · rw [hlines]
    simp only [List.drop_succ_cons, List.drop_zero, List.forall_mem_cons, List.not_mem_nil,
      false_imp_iff, implies_true, and_true]
    exact ⟨⟨1, by decide +kernel, by decide⟩, ⟨2, by decide +kernel, by decide⟩⟩
  · rw [hlines]
    decide +kernel

theorem ListFilter.accepts_iff_holds_bornIn1900 :
    (factDate "BIRT" .notAfter (Date.parse "1902")).accepts {} Record.bornIn1900 = true ∧
      (ListCondition.parse? "BIRT:DATE LTE 1902" {}).map
          (·.holds {} (Store.privatize {} Record.bornIn1900)) = some true := by
  have hspans {text : String} (hsingle : (Date.parse text).second = none)
      (hrange : (Date.parse text).range = ((Date.parse text).firstDay, (Date.parse text).lastDay))
      (hcounted : 0 < (Date.parse text).range.2) : (Date.parse text).Spans :=
    ⟨⟨Date.forward_of_single hsingle, hcounted⟩, hrange⟩
  have hdate : Record.bornIn1900.dateOf "BIRT" = Date.parse "1900" := by decide +kernel
  obtain ⟨condition, hcondition, haccepts, -, hagree⟩ :=
    @accepts_iff_holds {} Record.bornIn1900 "BIRT:DATE LTE 1902" "BIRT" .notAfter
      (Date.parse "1902") (by decide +kernel) (List.all_eq_true.mp rfl) (by decide +kernel)
      Record.laidOut_bornIn1900 (by decide +kernel) (by decide +kernel) (by decide +kernel)
      (by decide) {}
  have haccepted :
      (factDate "BIRT" .notAfter (Date.parse "1902")).accepts {} Record.bornIn1900 = true := by
    rw [haccepts]
    decide +kernel
  have hsame := (hagree (by decide +kernel)
    (hdate ▸ hspans (by decide +kernel) (by decide +kernel) (by decide +kernel))
    (hspans (by decide +kernel) (by decide +kernel) (by decide +kernel))).mpr (by decide +kernel)
  rw [hcondition, Option.map_some, ← hsame, haccepted]
  exact ⟨rfl, rfl⟩

/-- Whether a filter and the condition that is read from the same text differ about a record, with
all of its facts to be seen and at most one of them with the tag. -/
def ListFilter.differsIn (scope : Scope) (store : Store) (record : Record) (text : String) :
    Bool :=
  match parse? text, ListCondition.parse? text scope with
  | some (.factDate tag bound limit), some condition =>
    record.facts.all store.canShowFact && (record.facts.filter (·.tag == tag)).length ≤ 1 &&
      (factDate tag bound limit).accepts store record !=
        condition.holds store (store.privatize record)
  | _, _ => false

theorem ListFilter.not_decidesAlike_of_differsIn {scope : Scope} {store : Store} {record : Record}
    {text : String} (h : differsIn scope store record text = true) :
    ¬ DecidesAlike store record text := by
  intro hsame
  unfold differsIn at h
  split at h
  next tag bound limit condition hfilter hcondition =>
    simp only [Bool.and_eq_true, List.all_eq_true, decide_eq_true_eq, bne_iff_ne] at h
    obtain ⟨⟨hfacts, hone⟩, hdiffer⟩ := h
    exact hdiffer (hsame tag bound limit scope condition hfilter hcondition hfacts hone)
  next => cases h

/-- **A filter and a condition do not decide alike where there is no date**, and where a date has
days on both sides of the limit: the store does not let the record pass, the condition does. Nor
do they where they do not decide on the same date: for a tag with other characters than capital
letters, a value with a variable, a hidden record, two spaces in front of a tag, a line of level 0
behind the header, and an abbreviation in the place of a title. -/
theorem ListFilter.not_decidesAlike :
    (¬ DecidesAlike {} ⟨"I", .individual, "0 @I@ INDI\n1 SEX M"⟩ "BIRT:DATE LTE 1902") ∧
    (¬ DecidesAlike {} Record.bornIn1900 "BIRT:DATE LTE 1 MAR 1900") ∧
    (¬ DecidesAlike {} ⟨"I", .individual, "0 @I@ INDI\n1 _T\n2 DATE 1"⟩ "_T:DATE GTE 1") ∧
    (¬ DecidesAlike {} ⟨"I", .individual, "0 @I@ INDI\n1 T\n2 DATE 1"⟩ "T:DATE GTE $x") ∧
    (¬ DecidesAlike {} ⟨"I", .individual, "0 @I@ INDI\n1 RESN privacy\n1 T\n2 DATE 1"⟩
      "T:DATE GTE 1") ∧
    (¬ DecidesAlike {} ⟨"I", .individual, "0 @I@ INDI\n1  T\n2 DATE 1"⟩ "T:DATE GTE 1") ∧
    (¬ DecidesAlike {} ⟨"I", .individual, "0 @I@ INDI\n1 T\n0 X\n2 DATE 1"⟩ "T:DATE GTE 1") ∧
    ¬ DecidesAlike {} ⟨"I", .individual, "0 @I@ INDI\n1 ABBR\n2 DATE 1"⟩ "TITL:DATE GTE 1" := by
  have hdiffers {record : Record} {text : String} (h : differsIn {} {} record text = true) :=
    not_decidesAlike_of_differsIn h
  have hvariable : differsIn ⟨[("x", "2")]⟩ {}
      ⟨"I", .individual, "0 @I@ INDI\n1 T\n2 DATE 1"⟩ "T:DATE GTE $x" = true := by
    decide +kernel
  exact ⟨hdiffers (by decide +kernel), hdiffers (by decide +kernel), hdiffers (by decide +kernel),
    not_decidesAlike_of_differsIn hvariable, hdiffers (by decide +kernel),
    hdiffers (by decide +kernel), hdiffers (by decide +kernel), hdiffers (by decide +kernel)⟩

end Lineage
