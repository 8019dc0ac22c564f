import Mathlib.Data.List.Basic
import Mathlib.Data.List.Perm.Basic
import Mathlib.Data.List.TakeWhile
import Lineage.Proofs.Order.Insertion
import Lineage.Proofs.Text.Lines
import Lineage.Record.Fact

/-!
# The facts of a record and their lines

`Fact.gather` reads facts line by line. What it amounts to is said by
`Fact.blocks`: a fact consists of a line of level 1 and of all lines up to the
next one. Blocks can be put one behind the other and are found again
(`Fact.blocks_flatten`), which is what makes it possible to leave some of them
out of a text.

Sorting facts by date loses none and adds none: `Fact.perm_sortByDate`.
-/

namespace Lineage

namespace Fact

/-! ## Blocks -/

/-- Whether a line starts a fact. -/
def startsFact (line : String) : Bool :=
  Leveled.level? line == some 1

/-- The lines of each fact in a list of lines. -/
def blocks : List String → List (List String)
  | [] => []
  | line :: rest =>
    if startsFact line then (line :: rest.takeWhile (!startsFact ·)) :: blocks rest
    else blocks rest

/-- The fact with the given lines. -/
def ofLines (lines : List String) : Fact :=
  ⟨(Text.words (lines.headD ""))[1]?.getD "", Text.unlines lines⟩

/-- The fact that is being read goes up to the next line that starts one. -/
theorem gather_some (tag : String) (read lines : List String) :
    gather (some (tag, read)) lines =
      ⟨tag, Text.unlines (read.reverse ++ lines.takeWhile (!startsFact ·))⟩ ::
        (blocks lines).map ofLines := by
  induction lines generalizing tag read with
  | nil => simp [gather, gather.close, blocks]
  | cons line rest ih =>
    rw [gather, blocks]
    by_cases hstart : Leveled.level? line = some 1
    · have hstarts : startsFact line = true := by simp [startsFact, hstart]
      simp only [if_pos hstart, if_pos hstarts, ih]
      simp [gather.close, hstarts, ofLines]
    · have hstarts : startsFact line = false := by simp [startsFact, hstart]
      rw [if_neg hstart, Option.map_some, ih]
      simp [hstarts]

/-- **The facts in a list of lines are those of its blocks.** -/
theorem gather_none (lines : List String) : gather none lines = (blocks lines).map ofLines := by
  induction lines with
  | nil => rfl
  | cons line rest ih =>
    rw [gather, blocks]
    by_cases hstart : Leveled.level? line = some 1
    · have hstarts : startsFact line = true := by simp [startsFact, hstart]
      simp only [if_pos hstart, if_pos hstarts, gather_some]
      simp [gather.close, ofLines]
    · have hstarts : startsFact line = false := by simp [startsFact, hstart]
      rw [if_neg hstart, Option.map_none, ih, hstarts]
      rfl

/-- A block of lines: the first one starts a fact, and no other one does. -/
def IsBlock (lines : List String) : Prop :=
  ∃ first rest, lines = first :: rest ∧ startsFact first = true ∧
    ∀ line ∈ rest, startsFact line = false

theorem isBlock_of_mem_blocks {lines block : List String} (h : block ∈ blocks lines) :
    IsBlock block := by
  induction lines with
  | nil => cases h
  | cons line rest ih =>
    rw [blocks] at h
    split at h
    next hstarts =>
      rcases List.mem_cons.mp h with rfl | h
      · refine ⟨line, _, rfl, hstarts, fun l hl => ?_⟩
        simpa using List.mem_takeWhile_imp hl
      · exact ih h
    next => exact ih h

/-- The lines of a block are lines of the list. -/
theorem mem_of_mem_blocks {lines block : List String} (h : block ∈ blocks lines) {line : String}
    (hline : line ∈ block) : line ∈ lines := by
  induction lines with
  | nil => cases h
  | cons first rest ih =>
    rw [blocks] at h
    split at h
    · rcases List.mem_cons.mp h with rfl | h
      · rcases List.mem_cons.mp hline with rfl | hline
        · exact List.mem_cons_self ..
        · exact List.mem_cons_of_mem _ (List.takeWhile_subset _ hline)
      · exact List.mem_cons_of_mem _ (ih h)
    · exact List.mem_cons_of_mem _ (ih h)

/-- Lines that start no fact in front of blocks belong to none of them. -/
theorem blocks_append {lines : List String} (h : ∀ line ∈ lines, startsFact line = false)
    (more : List String) : blocks (lines ++ more) = blocks more := by
  induction lines with
  | nil => rfl
  | cons line rest ih =>
    rw [List.cons_append, blocks, h line (List.mem_cons_self ..),
      ih fun l hl => h l (List.mem_cons_of_mem _ hl)]
    rfl

/-- **Blocks that are put one behind the other are found again.** -/
theorem blocks_flatten {all : List (List String)} (h : ∀ block ∈ all, IsBlock block) :
    blocks all.flatten = all := by
  induction all with
  | nil => rfl
  | cons block rest ih =>
    obtain ⟨first, others, rfl, hfirst, hothers⟩ := h block (List.mem_cons_self ..)
    have hrest : ∀ b ∈ rest, IsBlock b := fun b hb => h b (List.mem_cons_of_mem _ hb)
    -- the next block starts with a line that ends this one
    have htake : (others ++ rest.flatten).takeWhile (!startsFact ·) = others := by
      refine Text.takeWhile_append_flatten (by simpa using hothers) ?_
      intro next hnext
      obtain ⟨line, tail, hblock, hline, -⟩ := hrest next hnext
      exact ⟨line, tail, hblock, by rw [hline]; rfl⟩
    rw [List.flatten_cons, List.cons_append, blocks, if_pos hfirst, htake,
      blocks_append hothers, ih hrest]

/-- **The lines of all blocks** are those from the first one on that starts a fact. -/
theorem flatten_blocks (lines : List String) :
    (blocks lines).flatten = lines.dropWhile (!startsFact ·) := by
  induction lines with
  | nil => rfl
  | cons line rest ih =>
    rw [blocks]
    by_cases hstarts : startsFact line = true
    · rw [if_pos hstarts, List.flatten_cons, ih, List.cons_append,
        List.takeWhile_append_dropWhile, List.dropWhile_cons_of_neg (by simpa using hstarts)]
    · rw [if_neg hstarts, ih, List.dropWhile_cons_of_pos (by simpa using hstarts)]

/-! ## Order -/

/-- Facts that are put into the places of the dated ones are those that remain,
together with the facts that are put in. -/
theorem perm_refill (facts dated : List Fact)
    (h : dated.length = (facts.filter (·.date.isValid)).length) :
    (refill facts dated).Perm (facts.filter (!·.date.isValid) ++ dated) := by
  induction facts generalizing dated with
  | nil =>
    have hnone : dated = [] := List.length_eq_zero_iff.mp h
    subst hnone
    exact .refl _
  | cons fact rest ih =>
    unfold refill
    split
    next hvalid =>
      -- a dated fact gives its place to the next one that is put in
      rw [List.filter_cons_of_neg (by simpa using hvalid)]
      rw [List.filter_cons_of_pos (by simpa using hvalid)] at h
      cases dated with
      | nil => cases h
      | cons next more => exact ((ih more (Nat.succ.inj h)).cons next).trans List.perm_middle.symm
    next hinvalid =>
      rw [List.filter_cons_of_pos (by simpa using hinvalid)]
      rw [List.filter_cons_of_neg (by simpa using hinvalid)] at h
      exact (ih dated h).cons fact

/-- **Sorting by date loses no fact and adds none.** -/
theorem perm_sortByDate (facts : List Fact) : (sortByDate facts).Perm facts := by
  have hsorted := Order.perm_sortBy
    (fun later earlier : Fact => Order.lexLess later.date.range earlier.date.range)
    (facts.filter (·.date.isValid))
  have hrefilled := perm_refill facts _ hsorted.length_eq
  have hparts : (facts.filter (!·.date.isValid) ++ facts.filter (·.date.isValid)).Perm facts :=
    List.perm_append_comm.trans (List.filter_append_perm _ facts)
  exact (hrefilled.trans (hsorted.append_left _)).trans hparts

end Fact

namespace Record

/-- The lines of each fact of a record. -/
def blocks (record : Record) : List (List String) :=
  Fact.blocks ((Text.lines record.text).drop 1)

theorem facts_eq (record : Record) : record.facts = record.blocks.map .ofLines :=
  Fact.gather_none _

end Record

end Lineage
