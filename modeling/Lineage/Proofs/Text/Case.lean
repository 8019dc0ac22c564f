import Mathlib.Data.List.Chain
import Mathlib.Tactic.ByContra
import Lineage.Text.Case

/-!
# Case folding

The table of case folding has a row for each run of letters. The runs come one
behind the other, so that a letter has one row at most, and the letters that a
run is folded to lie beside all runs: a character that something is folded to is
not folded further. Within ASCII the table says the same as lower case.
-/

namespace Lineage.Chars

namespace Run

variable {r : Run} {runs : List Run} {n t : Nat}

/-- Whether a run has a row for a code point. -/
def Covers (r : Run) (n : Nat) : Prop :=
  r.first ≤ n ∧ n ≤ r.last ∧ (n - r.first) % r.step = 0

/-- The code point that a run moves another one to. -/
def image (r : Run) (n : Nat) : Nat :=
  ((n : Int) + r.offset).toNat

/-- Whether one run lies before another one. -/
def Before (r q : Run) : Prop :=
  r.last < q.first

/-- Whether the letters that one run is moved to lie beside another one: below
it, above it, or at its gaps. -/
def Beside (r q : Run) : Prop :=
  r.image r.last < q.first ∨ q.last < r.image r.first ∨
    q.step = 2 ∧ (r.image r.first + q.first) % 2 = 1 ∧ (r.step = 2 ∨ r.first = r.last)

instance (r q : Run) : Decidable (r.Beside q) :=
  inferInstanceAs (Decidable (_ ∨ _))

theorem exists_covers_of_find?_eq_some (h : find? runs n = some t) :
    ∃ r ∈ runs, r.Covers n ∧ t = r.image n := by
  obtain ⟨r, hr, rfl⟩ := Option.map_eq_some_iff.1 h
  have hcovers := List.find?_some hr
  simp only [Bool.and_eq_true, decide_eq_true_eq, beq_iff_eq] at hcovers
  exact ⟨r, List.mem_of_find?_eq_some hr, ⟨hcovers.1.1, hcovers.1.2, hcovers.2⟩, rfl⟩

theorem find?_cons_of_covers (h : r.Covers n) : find? (r :: runs) n = some (r.image n) := by
  obtain ⟨hfirst, hlast, hstep⟩ := h
  simp [find?, hfirst, hlast, hstep, image]

theorem find?_cons_of_not_covers (h : ¬ r.Covers n) : find? (r :: runs) n = find? runs n := by
  have hfalse : (r.first ≤ n && n ≤ r.last && (n - r.first) % r.step == 0) = false := by
    rw [Bool.eq_false_iff]
    intro htrue
    simp only [Bool.and_eq_true, decide_eq_true_eq, beq_iff_eq] at htrue
    exact h ⟨htrue.1.1, htrue.1.2, htrue.2⟩
  rw [find?, List.find?_cons, hfalse]
  rfl

/-- Among runs one behind the other, the one that covers a code point is the
one found. -/
theorem find?_eq_some_of_covers (hruns : runs.Pairwise Before) (hr : r ∈ runs)
    (h : r.Covers n) : find? runs n = some (r.image n) := by
  induction runs with
  | nil => cases hr
  | cons q rest ih =>
    obtain ⟨hnext, hrest⟩ := List.pairwise_cons.1 hruns
    rcases List.mem_cons.1 hr with rfl | hr
    · exact find?_cons_of_covers h
    · have hq : ¬ q.Covers n := by
        intro hcovers
        obtain ⟨-, hlast, -⟩ := hcovers
        have hbefore : q.last < r.first := hnext r hr
        have := h.1
        omega
      rw [find?_cons_of_not_covers hq]
      exact ih hrest hr

end Run

/-! ## The table -/

theorem foldRuns_pairwise_before : foldRuns.Pairwise Run.Before := by
  -- behind its neighbour, a run that is not empty lies behind all before it
  let follows (r q : Run) : Prop := r.last < q.first ∧ q.first ≤ q.last
  have hchain : foldRuns.IsChain follows := by decide +kernel
  have : Trans follows follows follows :=
    ⟨fun hrq hqp => ⟨hrq.1.trans (hrq.2.trans_lt hqp.1), hqp.2⟩⟩
  exact hchain.pairwise.imp And.left

theorem foldRuns_beside : ∀ r ∈ foldRuns, ∀ q ∈ foldRuns, r.Beside q := by
  decide +kernel

/-- Each run has a letter, and none is moved below zero. -/
theorem foldRuns_nonempty : ∀ r ∈ foldRuns, r.first ≤ r.last ∧ 0 ≤ r.first + r.offset := by
  decide +kernel

/-- Neither the runs nor the letters that they are folded to reach into the
surrogates or beyond the last character. -/
theorem foldRuns_valid : ∀ r ∈ foldRuns,
    (r.last ≤ 0xD7FF ∨ 0xE000 ≤ r.first ∧ r.last ≤ 0x10FFFF) ∧
      (r.image r.last ≤ 0xD7FF ∨ 0xE000 ≤ r.image r.first ∧ r.image r.last ≤ 0x10FFFF) := by
  decide +kernel

/-- A run moves the letters between its ends to letters between their images. -/
theorem Run.image_mem {r : Run} {n : Nat} (hn : r.Covers n) :
    r.image r.first ≤ r.image n ∧ r.image n ≤ r.image r.last := by
  obtain ⟨hfirst, hlast, -⟩ := hn
  unfold Run.image
  omega

/-- What a letter is folded to is not folded further. -/
theorem find?_foldRuns_image {n t : Nat} (h : Run.find? foldRuns n = some t) :
    Run.find? foldRuns t = none := by
  obtain ⟨r, hr, hn, rfl⟩ := Run.exists_covers_of_find?_eq_some h
  by_contra hsome
  obtain ⟨u, hu⟩ := Option.ne_none_iff_exists'.1 hsome
  obtain ⟨q, hq, ⟨hfirst, hlast, hstep⟩, -⟩ := Run.exists_covers_of_find?_eq_some hu
  obtain ⟨hlow, hhigh⟩ := Run.image_mem hn
  obtain ⟨-, hoffset⟩ := foldRuns_nonempty r hr
  rcases foldRuns_beside r hr q hq with hbelow | habove | ⟨htwo, hodd, hgap⟩
  · omega
  · omega
  · -- both runs go in steps of two, and start at different parities
    obtain ⟨hfrom, hto, hsteps⟩ := hn
    have hparity : (n - r.first) % 2 = 0 := by
      rcases hgap with hgap | hgap
      · rwa [hgap] at hsteps
      · omega
    rw [htwo] at hstep
    unfold Run.image at *
    omega

/-! ## Folding a character -/

theorem toNat_ofNat {n : Nat} (h : n.isValidChar) : (Char.ofNat n).toNat = n := by
  rw [Char.ofNat, dif_pos h]
  rfl

/-- Both letters of a row are characters. -/
theorem isValidChar_of_find?_foldRuns {n t : Nat} (h : Run.find? foldRuns n = some t) :
    n.isValidChar ∧ t.isValidChar := by
  obtain ⟨r, hr, hn, rfl⟩ := Run.exists_covers_of_find?_eq_some h
  obtain ⟨hlow, hhigh⟩ := Run.image_mem hn
  obtain ⟨hfrom, hto, -⟩ := hn
  obtain ⟨hsource, himage⟩ := foldRuns_valid r hr
  unfold Nat.isValidChar
  omega

/-- Behind the capital letters of ASCII, the table goes on beyond ASCII. -/
theorem foldRuns_tail : ∀ r ∈ foldRuns.tail, 128 ≤ r.first := by
  decide +kernel

theorem find?_foldRuns_ascii {n : Nat} (h : n < 128) :
    Run.find? foldRuns n = if 65 ≤ n ∧ n ≤ 90 then some (n + 32) else none := by
  obtain ⟨capitals, rest, htable, hcapitals⟩ :
      ∃ r rest, foldRuns = r :: rest ∧ r = ⟨65, 90, 1, 32⟩ := ⟨_, _, rfl, rfl⟩
  split
  · rename_i hn
    have hcovers : capitals.Covers n := by
      rw [hcapitals]
      exact ⟨hn.1, hn.2, Nat.mod_one _⟩
    rw [htable, Run.find?_cons_of_covers hcovers, hcapitals]
    rfl
  · rename_i hn
    by_contra hsome
    obtain ⟨t, ht⟩ := Option.ne_none_iff_exists'.1 hsome
    obtain ⟨r, hr, ⟨hfirst, hlast, -⟩, -⟩ := Run.exists_covers_of_find?_eq_some ht
    rw [htable] at hr
    rcases List.mem_cons.1 hr with rfl | hr
    · rw [hcapitals] at hfirst hlast
      exact hn ⟨hfirst, hlast⟩
    · have := foldRuns_tail r (by rw [htable]; exact hr)
      omega

theorem toNat_toLower (c : Char) :
    c.toLower.toNat = if 65 ≤ c.toNat ∧ c.toNat ≤ 90 then c.toNat + 32 else c.toNat := by
  unfold Char.toLower
  by_cases h : 65 ≤ c.toNat ∧ c.toNat ≤ 90
  · have hval : c.val ≥ 'A'.val ∧ c.val ≤ 'Z'.val := h
    rw [dif_pos hval, if_pos h]
    show (c.val + 32).toNat = c.val.toNat + 32
    rw [UInt32.toNat_add]
    have hsmall : c.val.toNat + 32 < 2 ^ 32 := by
      have : c.val.toNat ≤ 90 := h.2
      omega
    exact Nat.mod_eq_of_lt hsmall
  · have hval : ¬ (c.val ≥ 'A'.val ∧ c.val ≤ 'Z'.val) := h
    rw [dif_neg hval, if_neg h]

/-- Folding says what the table says, within ASCII too. -/
theorem toNat_fold (c : Char) :
    (fold c).toNat = (Run.find? foldRuns c.toNat).getD c.toNat := by
  unfold fold
  split
  · rename_i h
    rw [toNat_toLower, find?_foldRuns_ascii h]
    split <;> rfl
  · cases h : Run.find? foldRuns c.toNat with
    | none => rfl
    | some n => exact toNat_ofNat (isValidChar_of_find?_foldRuns h).2

theorem fold_eq_of_find?_eq_some {c d : Char} (h : Run.find? foldRuns c.toNat = some d.toNat) :
    fold c = d := by
  rw [← Char.toNat_inj, toNat_fold, h]
  rfl

theorem fold_eq_self_of_find?_eq_none {c : Char} (h : Run.find? foldRuns c.toNat = none) :
    fold c = c := by
  rw [← Char.toNat_inj, toNat_fold, h]
  rfl

/-- A character is left as it is, or the table has a row for it. -/
theorem fold_eq_self_or (c : Char) :
    fold c = c ∨ Run.find? foldRuns c.toNat = some (fold c).toNat := by
  rcases h : Run.find? foldRuns c.toNat with _ | n
  · exact .inl (fold_eq_self_of_find?_eq_none h)
  · right
    rw [toNat_fold, h]
    rfl

@[simp] theorem fold_fold (c : Char) : fold (fold c) = fold c := by
  rcases fold_eq_self_or c with h | h
  · rw [h, h]
  · exact fold_eq_self_of_find?_eq_none (find?_foldRuns_image h)

end Lineage.Chars
