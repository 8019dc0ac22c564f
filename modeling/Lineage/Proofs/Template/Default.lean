import Lineage.Command.Execution
import Lineage.Proofs.Date.Calendar
import Lineage.Proofs.Template.Setup

/-!
# The defaults of inputs

A default that starts with `NOW` names a day relative to today. Three limits decide what
becomes of it: the number of days must be one that can be read, the days must be a span of
time, and the calendar must have the day. Where the first or the last does not hold, the
default stays as it is. But nothing is done about the second: between the longest span and
the largest number that can be read, the program breaks down.

> `resolved_of_today`: a default is resolved unless its days lie in that gap, where the
> program breaks down, and so it does over each setup with such an input.

A default in the gap, which should stay as it is, is `not_resolved_of_today`.
-/

namespace Lineage

namespace Decimal

variable {bits : Nat} {digits : List Char} {number : Int}

theorem integer?_plus : integer? bits ('+' :: digits) = some number ↔
    ∃ n : Nat, ofDigits? digits = some n ∧ n < Nat.pow 2 (bits - 1) ∧ number = n := by
  show ((ofDigits? digits).filter (· < Nat.pow 2 (bits - 1))).map Int.ofNat = some number ↔ _
  cases ofDigits? digits with
  | none => simp
  | some n => simp [Option.filter_some, eq_comm]

theorem integer?_minus : integer? bits ('-' :: digits) = some number ↔
    ∃ n : Nat, ofDigits? digits = some n ∧ n ≤ Nat.pow 2 (bits - 1) ∧ number = -n := by
  rw [integer?]
  cases ofDigits? digits with
  | none => simp
  | some n =>
    rw [Option.filter_some]
    split
    next hle => simpa [eq_comm] using fun _ => of_decide_eq_true hle
    next hgt =>
      have hgt' : ¬ n ≤ Nat.pow 2 (bits - 1) := fun hle => hgt (decide_eq_true hle)
      simp [hgt', -Nat.pow_eq]

end Decimal

namespace Template.Setup

open Markup.Fragment (elementsIn)

/-! ## Days relative to today -/

/-- Whether a default names the day so many days away from today: today itself, or a later
or an earlier day by a number in decimal digits. -/
inductive Away : String → Int → Prop
  | today : Away "NOW" 0
  | later {digits : String} {n : Nat} (h : Decimal.ofDigits? digits.toList = some n) :
    Away ("NOW+" ++ digits) n
  | earlier {digits : String} {n : Nat} (h : Decimal.ofDigits? digits.toList = some n) :
    Away ("NOW-" ++ digits) (-n)

/-- Whether a number of days has 63 bits and a sign. -/
def IsReadable (days : Int) : Prop :=
  -9223372036854775808 ≤ days ∧ days < 9223372036854775808

instance (days : Int) : Decidable (IsReadable days) :=
  inferInstanceAs (Decidable (_ ∧ _))

/-- What is read behind `NOW`: a signed number, but only with its sign. -/
theorem dayOffset?_now (sign : Char) (digits : String) :
    dayOffset? ("NOW" ++ (sign.toString ++ digits)) =
      if sign = '+' ∨ sign = '-' then Decimal.integer? 64 (sign :: digits.toList) else none := by
  have hafter := (@Text.after?_eq_some_iff "NOW" _ (sign.toString ++ digits)).mpr rfl
  have hread : (sign.toString ++ digits).toList = sign :: digits.toList := by
    simp
  rw [dayOffset?, hafter]
  split
  next h => cases h
  next h =>
    rw [Option.some_inj] at h
    rw [h] at hread
    cases hread
  next offset hne h =>
    cases h
    rw [hread]

/-- **The days that are read** are those that a default names, as long as their number can
be read. -/
theorem dayOffset?_eq_some_iff {default : String} {days : Int} :
    dayOffset? default = some days ↔ Away default days ∧ IsReadable days := by
  have hpow : Nat.pow 2 (64 - 1) = 9223372036854775808 := rfl
  unfold IsReadable
  constructor
  · intro h
    cases hafter : Text.after? "NOW" default with
    | none =>
      rw [dayOffset?, hafter] at h
      cases h
    | some offset =>
      rw [Text.after?_eq_some_iff] at hafter
      subst hafter
      cases hoffset : offset.toList with
      | nil =>
        have hempty : offset = "" := String.toList_eq_nil_iff.mp hoffset
        subst hempty
        cases h
        exact ⟨.today, by decide⟩
      | cons sign digits =>
        have hsigned : offset = sign.toString ++ .ofList digits := by
          rw [← String.toList_inj, hoffset]
          simp
        rw [hsigned, dayOffset?_now, String.toList_ofList] at h
        subst hsigned
        split at h
        next hsign =>
          rcases hsign with rfl | rfl
          · obtain ⟨n, hn, hlt, rfl⟩ := Decimal.integer?_plus.mp h
            exact ⟨@Away.later (.ofList digits) n (by rwa [String.toList_ofList]), by omega⟩
          · obtain ⟨n, hn, hle, rfl⟩ := Decimal.integer?_minus.mp h
            exact ⟨@Away.earlier (.ofList digits) n (by rwa [String.toList_ofList]), by omega⟩
        next => cases h
  · rintro ⟨haway, hreadable⟩
    cases haway with
    | today => rfl
    | @later digits n hn =>
      exact (dayOffset?_now '+' digits).trans (Decimal.integer?_plus.mpr ⟨n, hn, by omega, rfl⟩)
    | @earlier digits n hn =>
      exact (dayOffset?_now '-' digits).trans (Decimal.integer?_minus.mpr ⟨n, hn, by omega, rfl⟩)

/-! ## Resolved defaults -/

/-- What a default stands for on a day: the date so many days away, if there is such a date,
or itself. -/
inductive Resolved (today : Int) (default : String) : String → Prop
  | dated {days year : Int} {month day : Nat} (haway : Away default days)
    (hdate : Calendar.commonEraDay? year month day = some (today + days)) :
    Resolved today default (Text.upper (Date.written year month day))
  | verbatim (hnone : ∀ days, Away default days → ∀ year month day,
      Calendar.commonEraDay? year month day ≠ some (today + days)) :
    Resolved today default default

/-- Whether the days of a default that can be read are a span of time. -/
def WithinSpan (default : String) : Prop :=
  ∀ days, Away default days → IsReadable days → isSpan days = true

/-- **The program breaks down over days that are no span of time**, and over nothing else. -/
theorem isSome_resolveDefault?_iff {today : Int} {default : String} :
    (resolveDefault? today default).isSome ↔ WithinSpan default := by
  unfold WithinSpan
  unfold resolveDefault?
  cases hread : dayOffset? default with
  | none =>
    refine iff_of_true rfl fun days haway hreadable => ?_
    rw [dayOffset?_eq_some_iff.mpr ⟨haway, hreadable⟩] at hread
    cases hread
  | some days =>
    obtain ⟨haway, hreadable⟩ := dayOffset?_eq_some_iff.mp hread
    dsimp only
    split
    next hspan =>
      refine iff_of_true (by split <;> rfl) fun other hother hreadable' => ?_
      have hsame := hread.symm.trans (dayOffset?_eq_some_iff.mpr ⟨hother, hreadable'⟩)
      cases hsame
      exact hspan
    next hspan => exact iff_of_false Bool.false_ne_true fun h => hspan (h days haway hreadable)

/-- Days between two days of the calendar can be read. -/
theorem isReadable_of_commonEraDay? {today days year year' : Int} {month day month' day' : Nat}
    (htoday : Calendar.commonEraDay? year month day = some today)
    (hdate : Calendar.commonEraDay? year' month' day' = some (today + days)) :
    IsReadable days := by
  have hnear := Calendar.natAbs_lt_of_commonEraDay? htoday
  have hnear' := Calendar.natAbs_lt_of_commonEraDay? hdate
  unfold IsReadable
  omega

/-- **A default that is resolved stands for what it comes to**, on every day of the calendar. -/
theorem resolved_of_resolveDefault? {today : Int} {default text : String}
    {year : Int} {month day : Nat} (htoday : Calendar.commonEraDay? year month day = some today)
    (h : resolveDefault? today default = some text) : Resolved today default text := by
  -- the date of a default, if it has one, is that of the days that are read
  have hverbatim (hdates : ∀ days, dayOffset? default = some days →
      Calendar.ofCommonEraDay? (today + days) = none) : Resolved today default default := by
    refine .verbatim fun days haway y m d hdate => ?_
    have hreadable := isReadable_of_commonEraDay? htoday hdate
    have hnone := hdates days (dayOffset?_eq_some_iff.mpr ⟨haway, hreadable⟩)
    rw [Calendar.ofCommonEraDay?_eq_some_iff.mpr hdate] at hnone
    cases hnone
  unfold resolveDefault? at h
  cases hread : dayOffset? default with
  | none =>
    rw [hread] at h
    rw [← Option.some.inj h]
    refine hverbatim fun days hdays => ?_
    rw [hread] at hdays
    cases hdays
  | some days =>
    obtain ⟨haway, hreadable⟩ := dayOffset?_eq_some_iff.mp hread
    rw [hread] at h
    dsimp only at h
    rw [Option.ite_none_right_eq_some] at h
    obtain ⟨-, h⟩ := h
    cases hdate : Calendar.ofCommonEraDay? (today + days) with
    | none =>
      rw [hdate] at h
      rw [← Option.some.inj h]
      refine hverbatim fun other hother => ?_
      rw [hread, Option.some_inj] at hother
      rw [← hother, hdate]
    | some date =>
      obtain ⟨y, m, d⟩ := date
      rw [hdate] at h
      rw [← Option.some.inj h]
      exact .dated haway (Calendar.ofCommonEraDay?_eq_some_iff.mp hdate)

/-! ## Setups -/

/-- **The reading of a setup breaks down over an input with days that are no span of
time.** -/
theorem read_eq_brokenDown_iff {localizer : Localizer} {today : Int} {source : String} :
    Setup.read localizer today source = .error .brokenDown ↔
      ∃ element ∈ elementsIn "Input" (Markup.outline source),
        ¬ WithinSpan (valueOf "default" element.attributes) := by
  have hbreaks : ((Markup.read source).events.map Markup.Placed.event).any (breaksDown today) =
      true ↔ ∃ element ∈ elementsIn "Input" (Markup.outline source),
        ¬ WithinSpan (valueOf "default" element.attributes) := by
    rw [← Markup.eventsIn_outline, any_breaksDown, List.any_eq_true]
    simp only [← @isSome_resolveDefault?_iff today, Bool.not_eq_true,
      Option.isSome_eq_false_iff]
  rw [← hbreaks]
  unfold Setup.read
  dsimp only
  split
  next h => exact iff_of_true rfl h
  next h =>
    refine iff_of_false ?_ h
    split <;> intro herror <;> cases herror

/-- **What becomes of a default.** If its days are a span of time, it comes to what it stands for:
the date so many days away from today, written out, or itself when there is no such date. If they
are none, the program breaks down, over the default and over every setup with such an input. -/
theorem resolved_of_today {today year : Int} {month day : Nat}
    (htoday : Calendar.commonEraDay? year month day = some today) :
    (∀ default, WithinSpan default →
      ∃ text, resolveDefault? today default = some text ∧ Resolved today default text) ∧
    (∀ default, ¬ WithinSpan default → resolveDefault? today default = none) ∧
    ∀ localizer source, Setup.read localizer today source = .error .brokenDown ↔
      ∃ element ∈ elementsIn "Input" (Markup.outline source),
        ¬ WithinSpan (valueOf "default" element.attributes) := by
  refine ⟨fun default hspan => ?_, fun default hspan => ?_,
    fun _ _ => read_eq_brokenDown_iff⟩
  · have hsome := (@isSome_resolveDefault?_iff today default).mpr hspan
    obtain ⟨text, htext⟩ := Option.isSome_iff_exists.mp hsome
    exact ⟨text, htext, resolved_of_resolveDefault? htoday htext⟩
  · rw [← @isSome_resolveDefault?_iff today, Bool.not_eq_true,
      Option.isSome_eq_false_iff] at hspan
    exact Option.isNone_iff_eq_none.mp hspan

theorem resolved_of_today_leapYear :
    Calendar.commonEraDay? 2024 3 7 = some 738952 ∧ WithinSpan "NOW-7" ∧
      resolveDefault? 738952 "NOW-7" = some "29 FEB 2024" ∧
      Resolved 738952 "NOW-7" "29 FEB 2024" := by
  have htoday : Calendar.commonEraDay? 2024 3 7 = some 738952 := by decide
  have hresolved : resolveDefault? 738952 "NOW-7" = some "29 FEB 2024" := by decide +kernel
  have hspan : WithinSpan "NOW-7" := isSome_resolveDefault?_iff.mp (by rw [hresolved]; rfl)
  obtain ⟨text, htext, hstands⟩ := (resolved_of_today htoday).1 "NOW-7" hspan
  rw [hresolved, Option.some_inj] at htext
  exact ⟨htoday, hspan, hresolved, htext ▸ hstands⟩

/-- A default that is away by a million million days is not resolved, although the calendar
has no such day and it should stay as it is. The setup is not read, and the program ends with
an exit code of its own. -/
theorem not_resolved_of_today :
    resolveDefault? 738952 "NOW+1000000000000" = none ∧
      Resolved 738952 "NOW+1000000000000" "NOW+1000000000000" ∧
      Setup.read {} 738952 "<Input default='NOW+1000000000000'></Input>" = .error .brokenDown ∧
      ((Command.Request.setup {} "t.xml").carryOut
        ⟨fun _ => some "<Input default='NOW+1000000000000'></Input>", 738952, ""⟩).code = 101 := by
  refine ⟨by decide +kernel, ?_, by decide +kernel, by decide +kernel⟩
  have htoday : Calendar.commonEraDay? 2024 3 7 = some 738952 := by decide
  refine .verbatim fun days haway y m d hdate => ?_
  have hreadable := isReadable_of_commonEraDay? htoday hdate
  have hread := dayOffset?_eq_some_iff.mpr ⟨haway, hreadable⟩
  have hdays : dayOffset? "NOW+1000000000000" = some 1000000000000 := by decide +kernel
  have hnear := Calendar.natAbs_lt_of_commonEraDay? hdate
  rw [hdays, Option.some_inj] at hread
  omega

end Template.Setup

end Lineage
