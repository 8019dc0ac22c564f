import Lineage.Kin.Kinship

/-!
# Breadth-first search

A search that takes what it found from a queue, looks for what one step leads to, and
lines up behind the queue what is new. Nothing is ever farther away than what stands
behind it, and the queue holds at most two distances next to each other. This is why
whatever is new is exactly one step farther away than the one that led to it
(`Search.distance_of_new`), and why nothing is missing once the queue is empty.
-/

namespace Lineage

namespace Kin

/-! ## What is new -/

section

variable {α : Type} [DecidableEq α]

/-- What is new in a list, each once and in its order. -/
def newIn (found : List α) : List α → List α
  | [] => []
  | a :: rest => if a ∈ found then newIn found rest else a :: newIn (found ++ [a]) rest

theorem newIn_append (found as bs : List α) :
    newIn found (as ++ bs) = newIn found as ++ newIn (found ++ newIn found as) bs := by
  induction as generalizing found with
  | nil => simp [newIn]
  | cons a as ih =>
    by_cases ha : a ∈ found
    · simp [newIn, ha, ih]
    · simp [newIn, ha, ih]

theorem newIn_cons (found : List α) (a : α) (rest : List α) :
    newIn found (a :: rest) = newIn found [a] ++ newIn (found ++ newIn found [a]) rest :=
  newIn_append found [a] rest

/-- What was found and what is new is what was found or is in the list. -/
theorem mem_append_newIn {found as : List α} {b : α} :
    b ∈ found ++ newIn found as ↔ b ∈ found ∨ b ∈ as := by
  induction as generalizing found with
  | nil => simp [newIn]
  | cons a as ih =>
    by_cases ha : a ∈ found
    · rw [newIn, if_pos ha, ih, List.mem_cons]
      constructor
      · rintro (h | h)
        · exact .inl h
        · exact .inr (.inr h)
      · rintro (h | rfl | h)
        · exact .inl h
        · exact .inl ha
        · exact .inr h
    · rw [newIn, if_neg ha, ← List.singleton_append, ← List.append_assoc, ih]
      simp [or_assoc]

theorem nodup_append_newIn {found : List α} (h : found.Nodup) (as : List α) :
    (found ++ newIn found as).Nodup := by
  induction as generalizing found with
  | nil => rwa [newIn, List.append_nil]
  | cons a as ih =>
    by_cases ha : a ∈ found
    · rw [newIn, if_pos ha]
      exact ih h
    · rw [newIn, if_neg ha, ← List.singleton_append, ← List.append_assoc]
      refine ih (List.nodup_append'.mpr ⟨h, List.nodup_singleton a, ?_⟩)
      rwa [List.disjoint_singleton]

end

/-! ## The queue -/

variable {α : Type} (step : α → α → Prop) (start : α)

/-- **A search on its way.** Some of what was found is done with; the rest stands in the
queue. -/
structure Search (done queue : List α) : Prop where
  nodup : (done ++ queue).Nodup
  started : start ∈ done ++ queue
  reached : ∀ a ∈ done ++ queue, ∃ n, Reached step start n a
  closed : ∀ a ∈ done, ∀ b, step a b → b ∈ done ++ queue
  sorted : (done ++ queue).Pairwise fun a b => distance step start a ≤ distance step start b
  near : ∀ first ∈ queue.head?, ∀ a ∈ queue, distance step start a ≤ distance step start first + 1

variable {step start} {done rest : List α} {p : α}

theorem search_start : Search step start [] [start] where
  nodup := List.nodup_singleton start
  started := List.mem_singleton_self start
  reached a ha := by
    rw [List.nil_append, List.mem_singleton] at ha
    exact ⟨0, ha ▸ .start⟩
  closed a ha := absurd ha List.not_mem_nil
  sorted := List.pairwise_singleton _ _
  near first hfirst a ha := by
    rw [List.head?_singleton, Option.mem_some_iff] at hfirst
    rw [List.mem_singleton] at ha
    rw [ha, hfirst]
    exact Nat.le_succ _

namespace Search

/-- What is no farther away than the head of the queue has been found. The induction is on the
number of steps: the last step starts closer than the head, so at something that is done with. -/
theorem mem_of_reached (h : Search step start done (p :: rest)) {n : Nat} {a : α}
    (ha : Reached step start n a) (hn : n ≤ distance step start p) : a ∈ done ++ p :: rest := by
  induction ha with
  | start => exact h.started
  | @next n a b hreached hstep ih =>
    have hclose : distance step start a < distance step start p :=
      Nat.lt_of_le_of_lt (distance_le hreached) hn
    have hdone : a ∈ done := by
      rcases List.mem_append.mp (ih (Nat.le_of_succ_le hn)) with hdone | hqueue
      · exact hdone
      · have hsorted := (List.pairwise_cons.mp (List.pairwise_append.mp h.sorted).2.1).1
        rcases List.mem_cons.mp hqueue with rfl | hrest
        · exact absurd hclose (Nat.lt_irrefl _)
        · exact absurd hclose (Nat.not_lt.mpr (hsorted a hrest))
    exact h.closed a hdone b hstep

/-- **What is new is one step farther away than the head of the queue.** -/
theorem distance_of_new (h : Search step start done (p :: rest)) {a : α} (hstep : step p a)
    (hnew : a ∉ done ++ p :: rest) : distance step start a = distance step start p + 1 := by
  have hp : ∃ n, Reached step start n p :=
    h.reached p (List.mem_append_right _ List.mem_cons_self)
  have ha : ∃ n, Reached step start n a := ⟨_, (reached_distance hp).next hstep⟩
  have hle : distance step start a ≤ distance step start p + 1 := distance_le_succ hp hstep
  have hlt : distance step start p < distance step start a := by
    by_contra hge
    exact hnew (h.mem_of_reached (reached_distance ha) (Nat.not_lt.mp hge))
  omega

/-- Nothing that was found is more than one step farther away than the head of the queue. -/
theorem distance_le_head (h : Search step start done (p :: rest)) {a : α}
    (ha : a ∈ done ++ p :: rest) : distance step start a ≤ distance step start p + 1 := by
  rcases List.mem_append.mp ha with hdone | hqueue
  · have hle := (List.pairwise_append.mp h.sorted).2.2 a hdone p List.mem_cons_self
    omega
  · exact h.near p rfl a hqueue

/-- Something new that the head of the queue leads to. -/
theorem find (h : Search step start done (p :: rest)) {a : α} (hstep : step p a)
    (hnew : a ∉ done ++ p :: rest) : Search step start done (p :: (rest ++ [a])) := by
  have hdistance := h.distance_of_new hstep hnew
  have hfound : done ++ p :: (rest ++ [a]) = (done ++ p :: rest) ++ [a] := by simp
  have hp := h.reached p (List.mem_append_right _ List.mem_cons_self)
  constructor
  · rw [hfound, List.nodup_append']
    exact ⟨h.nodup, List.nodup_singleton a, by rwa [List.disjoint_singleton]⟩
  · rw [hfound]
    exact List.mem_append_left _ h.started
  · rw [hfound, List.forall_mem_append, List.forall_mem_singleton]
    exact ⟨h.reached, _, (reached_distance hp).next hstep⟩
  · intro b hb c hc
    rw [hfound]
    exact List.mem_append_left _ (h.closed b hb c hc)
  · -- what is new goes to the end, and nothing is farther away
    rw [hfound, List.pairwise_append]
    refine ⟨h.sorted, List.pairwise_singleton _ _, fun b hb c hc => ?_⟩
    rw [List.mem_singleton] at hc
    rw [hc, hdistance]
    exact h.distance_le_head hb
  · rintro first ⟨⟩ b hb
    rw [← List.cons_append, List.mem_append, List.mem_singleton] at hb
    rcases hb with hb | rfl
    · exact h.near p rfl b hb
    · exact Nat.le_of_eq hdistance

/-- All that is new of what the head of the queue leads to. -/
theorem findAll [DecidableEq α] (h : Search step start done (p :: rest)) {as : List α}
    (has : ∀ a ∈ as, step p a) :
    Search step start done (p :: (rest ++ newIn (done ++ p :: rest) as)) := by
  induction as generalizing rest with
  | nil => rwa [newIn, List.append_nil]
  | cons a as ih =>
    rw [List.forall_mem_cons] at has
    by_cases ha : a ∈ done ++ p :: rest
    · rw [newIn, if_pos ha]
      exact ih h has.2
    · have hlater := ih (h.find has.1 ha) has.2
      rw [newIn, if_neg ha]
      simpa using hlater

/-- The head of the queue is done with when all that it leads to has been found. -/
theorem next (h : Search step start done (p :: rest))
    (hall : ∀ a, step p a → a ∈ done ++ p :: rest) : Search step start (done ++ [p]) rest := by
  have hfound : done ++ [p] ++ rest = done ++ p :: rest := by simp
  constructor
  · rw [hfound]
    exact h.nodup
  · rw [hfound]
    exact h.started
  · rw [hfound]
    exact h.reached
  · rw [hfound, List.forall_mem_append, List.forall_mem_singleton]
    exact ⟨h.closed, hall⟩
  · rw [hfound]
    exact h.sorted
  · -- the next head is no closer than this one
    intro first hfirst a ha
    have hlater : first ∈ rest := List.mem_of_head? hfirst
    have hnear := h.near p rfl a (List.mem_cons_of_mem _ ha)
    have hsorted := (List.pairwise_cons.mp (List.pairwise_append.mp h.sorted).2.1).1 first hlater
    omega

/-- The start comes first. -/
theorem exists_cons_of_finished (h : Search step start done []) :
    ∃ later, done = start :: later := by
  have hstarted := h.started
  have hreached := h.reached
  have hsorted := h.sorted
  rw [List.append_nil] at hstarted hreached hsorted
  cases done with
  | nil => cases hstarted
  | cons first later =>
    refine ⟨later, ?_⟩
    rcases List.mem_cons.mp hstarted with rfl | hlater
    · rfl
    · have hzero : distance step start start = 0 := Nat.le_zero.mp (distance_le .start)
      have hle := (List.pairwise_cons.mp hsorted).1 start hlater
      rw [hzero, Nat.le_zero] at hle
      have hfirst := reached_distance (hreached first List.mem_cons_self)
      rw [hle] at hfirst
      rw [hfirst.eq_start]

/-- **All has been found once the queue is empty.** -/
theorem mem_iff_of_finished (h : Search step start done []) (a : α) :
    a ∈ done ↔ ∃ n, Reached step start n a := by
  have hclosed := h.closed
  have hstarted := h.started
  have hreached := h.reached
  rw [List.append_nil] at hclosed hstarted hreached
  constructor
  · exact hreached a
  · rintro ⟨n, ha⟩
    induction ha with
    | start => exact hstarted
    | next _ hstep ih => exact hclosed _ ih _ hstep

end Search

end Kin

end Lineage
