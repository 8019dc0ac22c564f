import Lineage.Proofs.Text.Blank
import Lineage.Proofs.Text.Lines
import Lineage.Record.Basic

/-!
# The header line of a record

What `Record.parse?` reads from a text, it reads from the first line: the
cross-reference and the kind. The lines below may be exchanged for others, and
the text that results is read as the same record with another text.

> `Record.parse?_of_header`: a text with the header line of a record is that
> record again, as long as it does not end with a line break.
-/

namespace Lineage

namespace Chars

theorem splitWhere_of_all {p : Char → Bool} {cs : List Char} (h : cs.all p = true) :
    ∀ piece ∈ splitWhere p cs, piece = [] := by
  induction cs with
  | nil => exact fun piece hpiece => List.mem_singleton.mp hpiece
  | cons c rest ih =>
    obtain ⟨hc, hrest⟩ := (Bool.and_eq_true ..).mp h
    intro piece hpiece
    rw [splitWhere, if_pos hc] at hpiece
    rcases List.mem_cons.mp hpiece with rfl | hpiece
    · rfl
    · exact ih hrest piece hpiece

/-- A blank text has no words. -/
theorem words_of_blank {cs : List Char} (h : cs.all isBlank = true) : words cs = [] := by
  rw [words, List.filter_eq_nil_iff]
  intro piece hpiece
  rw [splitWhere_of_all h piece hpiece]
  exact Bool.false_ne_true

/-- Whether a text does not start with a part of a line break. -/
def StartsPlain (cs : List Char) : Prop :=
  ∀ c, cs.head? = some c → c ≠ '\n' ∧ c ≠ '\r'

/-- A text without parts of line breaks at its ends. -/
def stripBreaks (cs : List Char) : List Char :=
  stripWhile (fun c => c == '\n' || c == '\r') cs

theorem stripBreaks_of_plain {cs : List Char} (hstart : StartsPlain cs) (hend : EndsPlain cs) :
    stripBreaks cs = cs := by
  have hdrop : cs.dropWhile (fun c => c == '\n' || c == '\r') = cs := by
    cases cs with
    | nil => rfl
    | cons c rest =>
      obtain ⟨hfeed, hreturn⟩ := hstart c rfl
      rw [List.dropWhile_cons_of_neg (by simp [hfeed, hreturn])]
  have hrdrop : cs.rdropWhile (fun c => c == '\n' || c == '\r') = cs := by
    rw [List.rdropWhile_eq_self_iff]
    intro hne
    obtain ⟨c, hc, hfeed, hreturn⟩ := hend
    rw [List.getLast?_eq_some_getLast hne, Option.some.injEq] at hc
    simp [hc, hfeed, hreturn]
  rw [stripBreaks, stripWhile, hdrop, dropEndWhile_eq, hrdrop]

theorem startsPlain_stripBreaks (cs : List Char) : StartsPlain (stripBreaks cs) := by
  intro c hc
  have hdrop := dropWhile_stripWhile (fun c => c == '\n' || c == '\r') cs
  change (stripBreaks cs).dropWhile _ = stripBreaks cs at hdrop
  cases hcs : stripBreaks cs with
  | nil =>
    rw [hcs] at hc
    cases hc
  | cons d rest =>
    rw [hcs] at hc hdrop
    cases hc
    rw [List.dropWhile_eq_self_iff] at hdrop
    simpa using hdrop (Nat.succ_pos _)

/-- Texts with the same first line start alike. -/
theorem StartsPlain.congr {cs ds first : List Char} (h : StartsPlain cs)
    (hcs : (lines cs).head? = some first) (hds : (lines ds).head? = some first) :
    StartsPlain ds := by
  cases cs with
  | nil => cases hcs
  | cons c rest =>
    obtain ⟨hfeed, hreturn⟩ := h c rfl
    have hfirst : first.head? = some c := head?_of_starts hcs rfl hfeed hreturn
    intro d hd
    rw [head?_of_head?_lines hds hfirst, Option.some.injEq] at hd
    exact hd ▸ ⟨hfeed, hreturn⟩

end Chars

theorem Text.startsPlain_congr {s t first : String} (h : Chars.StartsPlain s.toList)
    (hs : (Text.lines s).head? = some first) (ht : (Text.lines t).head? = some first) :
    Chars.StartsPlain t.toList := by
  rw [Text.head?_lines, Option.map_eq_some_iff] at hs ht
  obtain ⟨cs, hcs, rfl⟩ := hs
  obtain ⟨ds, hds, hsame⟩ := ht
  rw [String.ofList_inj] at hsame
  exact h.congr hcs (hsame ▸ hds)

namespace Leveled

/-- The cross-reference depends on the first line alone, unless that is blank. -/
theorem headerXref?_congr {s t first : String} (hs : (Text.lines s).head? = some first)
    (ht : (Text.lines t).head? = some first) (hblank : Text.isAllBlank first = false) :
    headerXref? t = headerXref? s := by
  rw [headerXref?, headerXref?, Text.head?_lines_trimStart hs hblank,
    Text.head?_lines_trimStart ht hblank]

end Leveled

namespace Record

/-- What has been read from a text. -/
theorem of_parse? {text : String} {record : Record} (h : parse? text = some record) :
    record.text = .ofList (Chars.stripBreaks text.toList) ∧
      Leveled.headerXref? record.text = some record.xref ∧
      ∃ first kind, (Text.lines record.text).head? = some first ∧
        (Text.words first)[2]? = some kind ∧ record.kind = .ofTag kind := by
  unfold parse? at h
  simp only [Option.bind_eq_bind, Option.bind_eq_some_iff, Option.some.injEq] at h
  obtain ⟨xref, hxref, first, hfirst, kind, hkind, rfl⟩ := h
  exact ⟨rfl, hxref, first, kind, hfirst, hkind, rfl⟩

/-- A text that is not surrounded by line breaks is read as it stands. -/
theorem parse?_of_plain {text : String} (hstart : Chars.StartsPlain text.toList)
    (hend : Text.EndsPlain text) :
    parse? text = (do
      let xref ← Leveled.headerXref? text
      let first ← (Text.lines text).head?
      let kind ← (Text.words first)[2]?
      some ⟨xref, RecordKind.ofTag kind, text⟩) := by
  have hstrip : String.ofList (Chars.stripBreaks text.toList) = text := by
    rw [Chars.stripBreaks_of_plain hstart hend, String.ofList_toList]
  have hread : parse? text = (do
      let xref ← Leveled.headerXref? (String.ofList (Chars.stripBreaks text.toList))
      let first ← (Text.lines (String.ofList (Chars.stripBreaks text.toList))).head?
      let kind ← (Text.words first)[2]?
      some ⟨xref, RecordKind.ofTag kind, String.ofList (Chars.stripBreaks text.toList)⟩) := rfl
  rw [hread, hstrip]

/-- **A text with the header line of a record is read as that record**, with the
other text. -/
theorem parse?_of_header {record : Record} (h : parse? record.text = some record) {text : String}
    (hfirst : (Text.lines text).head? = (Text.lines record.text).head?)
    (hend : Text.EndsPlain text) : parse? text = some { record with text } := by
  obtain ⟨hstripped, hxref, first, kind, hheader, hkind, hofTag⟩ := of_parse? h
  rw [hheader] at hfirst
  have hblank : Text.isAllBlank first = false := by
    cases hall : Text.isAllBlank first with
    | false => rfl
    | true =>
      rw [Text.words, Chars.words_of_blank hall] at hkind
      cases hkind
  have hxref' : Leveled.headerXref? text = some record.xref := by
    rw [Leveled.headerXref?_congr hheader hfirst hblank, hxref]
  have hstart : Chars.StartsPlain text.toList := by
    refine Text.startsPlain_congr ?_ hheader hfirst
    rw [hstripped, String.toList_ofList]
    exact Chars.startsPlain_stripBreaks _
  rw [parse?_of_plain hstart hend, hxref', hfirst, Option.bind_eq_bind, Option.bind_some]
  simp only [Option.bind_some, hkind, hofTag]

end Record

end Lineage
