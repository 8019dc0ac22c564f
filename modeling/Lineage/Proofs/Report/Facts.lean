import Lineage.Proofs.Document.Places
import Lineage.Proofs.Store.Facts
import Lineage.Report.Walk

/-!
# The facts that a block is repeated for

A `Facts` block collects facts of the active record at its start. Without `diff`
these are visible facts of a record of the store: each of them may be seen, and
when the record may be seen as well and no tag is ignored, they are the facts that
are read from its privatized text, in another order.

> `facts_of_beginFacts`

More does not hold (`texts_of_restrictedFacts`). The block finds the record by its
cross-reference, and the header of a hidden record has one: its facts are
collected as far as they have no restriction of their own. And the facts that a
waiting change is about are not looked at for restrictions at all.
-/

namespace Lineage.Report

/-- The tags that a block of facts is to leave out. -/
def ignoredTags (scope : Scope) (attrs : Attributes) : List String :=
  ((Text.split ',' (settingOf scope attrs "ignore" "")).map Text.trim).filter
    fun tag => !tag.isEmpty

variable {store : Store} {scope : Scope} {active : Active} {attrs : Attributes} {record : Record}

/-- Without `diff` a block collects the visible facts of the active record, but
for those with an ignored tag, in some order. -/
theorem perm_factsOf (hactive : active.xref?.bind store.record? = some record)
    (hdiff : attrs.switch "diff" false = false) :
    (factsOf store scope active attrs).Perm
      (((store.visibleFacts record).filter (!(ignoredTags scope attrs).contains ·.tag)).map
        FactItem.ofFact) := by
  unfold factsOf
  rw [hactive, hdiff]
  exact (Fact.perm_sortByDate _).map _

/-- **The facts that are collected** without `diff` belong to the active record,
may be seen, and have no ignored tag. When the record may be seen too and no tag
is ignored, they are those of the text that may be seen of it. -/
theorem facts_of_beginFacts {env : Environment} {s : State}
    (houter : s.suppression.repeats = 0)
    (hactive : s.active.xref?.bind env.store.record? = some record)
    (hdiff : attrs.switch "diff" false = false) :
    ∃ items, (s.beginFacts env attrs).collected = .facts items :: s.collected ∧
      (∀ item ∈ items, ∃ fact ∈ record.facts, item = .ofFact fact ∧
        env.store.canShowFact fact = true ∧ fact.tag ∉ ignoredTags s.scope attrs) ∧
      (record.Regular → env.store.canShow record = true → ignoredTags s.scope attrs = [] →
        ∃ shown, Record.parse? (env.store.privatize record) = some shown ∧
          items.Perm (shown.facts.map .ofFact)) := by
  have hcollected : (s.beginFacts env attrs).collected =
      .facts (factsOf env.store s.scope s.active attrs) :: s.collected := by
    unfold State.beginFacts State.enterRepeat
    dsimp only
    rw [houter]
    rfl
  have hperm : (factsOf env.store s.scope s.active attrs).Perm _ := perm_factsOf hactive hdiff
  refine ⟨_, hcollected, fun item hitem => ?_, fun hregular hshown hnone => ?_⟩
  · obtain ⟨fact, hfact, rfl⟩ := List.mem_map.mp (hperm.mem_iff.mp hitem)
    obtain ⟨hvisible, hkept⟩ := List.mem_filter.mp hfact
    obtain ⟨hmem, hallowed⟩ := List.mem_filter.mp hvisible
    exact ⟨fact, hmem, rfl, hallowed, by simpa using hkept⟩
  · have hread := env.store.facts_privatize hregular
    rw [hshown, if_pos rfl, Option.map_eq_some_iff] at hread
    obtain ⟨shown, hparse, hfacts⟩ := hread
    refine ⟨shown, hparse, ?_⟩
    rw [hfacts]
    simpa [hnone] using hperm

/-- A person with an occupation that visitors may not see. -/
def personWithSecret : Record :=
  ⟨"I1", .individual, "0 @I1@ INDI\n1 SEX F\n1 OCCU Spy\n2 RESN privacy"⟩

theorem regular_personWithSecret : personWithSecret.Regular := by
  have hfile : Record.splitFile personWithSecret.text = .ok [personWithSecret] := by
    decide +kernel
  exact Record.regular_of_splitFile hfile (by decide +kernel) _ (List.mem_singleton_self _)

/-- A visitor reads a file with that person. -/
def fileWithSecret : Environment :=
  { store := { records := [personWithSecret] } }

/-- The state in which what may be seen of the person is the active text. -/
def secretActive : State :=
  { active := { text := fileWithSecret.store.privatize personWithSecret } }

/-- The fact that is collected is the one that is read from the privatized text. -/
theorem facts_of_secretActive :
    ∃ items, (secretActive.beginFacts fileWithSecret ⟨[]⟩).collected = [.facts items] ∧
      ∃ shown, Record.parse? (fileWithSecret.store.privatize personWithSecret) = some shown ∧
        shown.facts.map Fact.tag = ["SEX"] ∧
        items.Perm (shown.facts.map .ofFact) := by
  have hactive : secretActive.active.xref?.bind fileWithSecret.store.record? =
      some personWithSecret := by
    decide +kernel
  have hdiff : Attributes.switch ⟨[]⟩ "diff" false = false := by decide +kernel
  obtain ⟨items, hcollected, -, hread⟩ := facts_of_beginFacts rfl hactive hdiff
  obtain ⟨shown, hparse, hperm⟩ :=
    hread regular_personWithSecret (by decide +kernel) (by decide +kernel)
  have htags : (Record.parse? (fileWithSecret.store.privatize personWithSecret)).map
      (fun shown => shown.facts.map Fact.tag) = some ["SEX"] := by
    decide +kernel
  rw [hparse] at htags
  exact ⟨items, hcollected, shown, hparse, Option.some.inj htags, hperm⟩

/-! ## Facts that should not be seen -/

/-- The values of the facts of a person, those that a waiting change is about if
`diff` is set. -/
def factValues (diff : String) : List Template.Node :=
  [.element ⟨.gedcom, "Gedcom", ⟨[("id", "I1")]⟩, {}⟩
    [.element ⟨.facts, "Facts", ⟨[("diff", diff)]⟩, {}⟩
      [.element ⟨.cell, "Cell", ⟨[]⟩, {}⟩
        [.element ⟨.gedcomValue, "GedcomValue", ⟨[("tag", "@desc")]⟩, {}⟩ []]]]]

/-- A visitor may not see the person, of whom the header is left. -/
def hiddenRecord : Record :=
  ⟨"I1", .individual, "0 @I1@ INDI\n1 SEX F\n1 RESN privacy"⟩

/-- A visitor reads a file with the hidden person. -/
def fileWithHidden : Environment :=
  { store := { records := [hiddenRecord] } }

/-- The person gets a secret occupation when the change is accepted. -/
def fileWithChange : Environment :=
  { store :=
      { records := [⟨"I1", .individual, "0 @I1@ INDI"⟩]
        pending := [⟨"I1", "0 @I1@ INDI", "0 @I1@ INDI\n1 OCCU Spy\n2 RESN privacy"⟩] } }

/-- Through the header of the hidden record the block finds its facts, and they
are printed. With `diff` the occupation is printed, which the visitor would not see
in the record. -/
theorem texts_of_restrictedFacts :
    (fileWithHidden.store.canShow hiddenRecord = false ∧
      fileWithHidden.store.privatize hiddenRecord = "0 @I1@ INDI" ∧
      (run fileWithHidden (factValues "") {} {}).toOption.map
          (·.draft.elements.map Element.text?) =
        some [some "F", some "privacy"]) ∧
    fileWithChange.store.canShowFact ⟨"OCCU", "1 OCCU Spy\n2 RESN privacy"⟩ = false ∧
      (run fileWithChange (factValues "1") {} {}).toOption.map
          (·.draft.elements.map Element.text?) =
        some [some "Spy"] := by
  decide +kernel

end Lineage.Report
