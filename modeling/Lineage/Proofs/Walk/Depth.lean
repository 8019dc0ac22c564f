import Lineage.Proofs.Walk.Tallies
import Lineage.Proofs.Walk.Trail

/-!
# How deep replays are nested

The body of a repeated block is carried out for each of its items while the block
ends, and in the body other repeated blocks may end. The state counts how deep this
goes, and a run fails where the limit is reached. This file says what the number
means. `visits` is the history of a walk in which each state comes with the repeated
elements whose bodies are being carried out, innermost first:

> `map_state_visits`: without the elements, the visits of a walk are its history.
> `counts_visits`: at any time the number is that of the elements, and neither is
> greater than the limit or than the nesting in the template allows.

A body is left as deep as it was entered, in success or failure (`keeps_walkAll`).
So the bodies around a repeated block are carried out one inside the other, for
however many items, and the depth that a run needs can be read from the template
(`Node.repeatDepthIn`):

> `fits_walkAll`: from a state with that much room, no walk goes too deep.
-/

namespace Lineage

open Template (Head Node Tag)

namespace Template.Node

mutual

/-- How deep repeated elements are nested at or below a node. -/
def repeatDepth : Node → Nat
  | text _ => 0
  | element head children =>
    if head.tag.isRepeat then repeatDepthIn children + 1 else repeatDepthIn children

/-- How deep repeated elements are nested in a list of nodes. -/
def repeatDepthIn : List Node → Nat
  | [] => 0
  | node :: rest => max (repeatDepth node) (repeatDepthIn rest)

end

/-- What stands behind the first element of a list is nested no deeper than all of
it. -/
theorem repeatDepthIn_rest_le (node : Node) (rest : List Node) :
    repeatDepthIn rest ≤ repeatDepthIn (node :: rest) := by
  rw [repeatDepthIn]
  exact Nat.le_max_right _ _

theorem repeatDepthIn_children_le (head : Head) (children rest : List Node) :
    repeatDepthIn children ≤ repeatDepthIn (.element head children :: rest) := by
  rw [repeatDepthIn, repeatDepth]
  split <;> omega

/-- The content of a repeated element is nested less deep than the element. -/
theorem repeatDepthIn_children_lt {head : Head} (h : head.tag.isRepeat = true)
    (children rest : List Node) :
    repeatDepthIn children < repeatDepthIn (.element head children :: rest) := by
  rw [repeatDepthIn, repeatDepth, if_pos h]
  omega

end Template.Node

namespace Report

variable {env : Environment} {head : Head} {body : State → Outcome}

/-! ## Bodies are left as deep as they were entered -/

namespace State

/-- Making an item the active text counts nothing. -/
theorem tallies_of_takeUp? {s t : State} {item : Item} (h : s.takeUp? env item = some t) :
    t.tallies = s.tallies := by
  cases item with
  | part text | fact fact | relative relative =>
    cases h
    rfl
  | record record =>
    rw [takeUp?] at h
    split at h
    · cases h
      rfl
    · cases h

theorem replayDepth_of_takeUp? {s t : State} {item : Item} (h : s.takeUp? env item = some t) :
    t.replayDepth = s.replayDepth :=
  congrArg Tallies.depth (tallies_of_takeUp? h)

theorem replayDepth_beginItems (s : State) (items : Items) :
    (s.beginItems items).replayDepth = s.replayDepth := by
  cases items <;> rfl

end State

namespace Keeps

theorem replay (h : Keeps Tallies.depth body) : Keeps Tallies.depth (State.replay env body) := by
  intro s
  have hdepth : (body { s with replayDepth := s.replayDepth + 1 }).state.replayDepth =
      s.replayDepth + 1 := h { s with replayDepth := s.replayDepth + 1 }
  unfold State.replay
  split
  · rfl
  · -- the body ends or fails one level deeper, and this level is taken back either way
    split
    next t ht =>
      rw [ht] at hdepth
      show t.replayDepth - 1 = s.replayDepth
      have hdone : t.replayDepth = s.replayDepth + 1 := hdepth
      omega
    next failure hfailure =>
      rw [hfailure] at hdepth
      show failure.state.replayDepth - 1 = s.replayDepth
      have hfailed : failure.state.replayDepth = s.replayDepth + 1 := hdepth
      omega

theorem replayItem (env : Environment) (h : Keeps Tallies.depth body) (item : Item) :
    Keeps Tallies.depth fun s => State.replayItem env body s item := by
  intro s
  dsimp only
  unfold State.replayItem
  split
  next t ht => exact (h.replay t).trans (State.replayDepth_of_takeUp? ht)
  next => rfl

theorem replayItems (env : Environment) (h : Keeps Tallies.depth body) (items : Items) :
    Keeps Tallies.depth fun s => State.replayItems env body s items := by
  intro s
  dsimp only
  rw [State.replayItems_eq]
  have hbegin : (s.beginItems items).tallies.depth = s.tallies.depth :=
    s.replayDepth_beginItems items
  rw [← hbegin]
  exact foldlM (h.replayItem env) items.toList _

theorem endRepeat (h : Keeps Tallies.depth body) :
    Keeps Tallies.depth (State.endRepeat env body) := by
  intro s
  unfold State.endRepeat
  dsimp only
  split
  · rfl
  · split
    · rfl
    next items rest _ =>
      have hitems := h.replayItems env items
        { s with suppression.repeats := s.suppression.repeats - 1, collected := rest }
      dsimp only at hitems
      split
      next done hdone =>
        rw [hdone] at hitems
        exact hitems
      next failure hfailure =>
        rw [hfailure] at hitems
        exact hitems

theorem leave (env : Environment) (head : Head) (h : Keeps Tallies.depth body) :
    Keeps Tallies.depth (leave env head body) := by
  intro s
  unfold Report.leave
  split
  · cases hr : head.tag.isRepeat with
    | false => exact congrArg Tallies.depth (tallies_endElement env hr body s)
    | true =>
      rw [endElement_of_isRepeat hr]
      exact h.endRepeat s
  · rfl

theorem carryOut (env : Environment) (head : Head) (h : Keeps Tallies.depth body) :
    Keeps Tallies.depth (carryOut env head body) :=
  (keeps_enter Tallies.depth env head).bind (h.bind (h.leave env head))

end Keeps

/-- **A walk ends or fails as deep as it has started.** -/
theorem keeps_walkAll (env : Environment) (nodes : List Node) :
    Keeps Tallies.depth (walkAll env nodes) := by
  induction nodes using Node.forest with
  | nil =>
    intro s
    rw [walkAll_nil]
    rfl
  | text text rest ih =>
    intro s
    rw [walkAll_text]
    refine (ih _).trans (congrArg Tallies.depth ?_)
    split
    · exact s.tallies_addText text
    · rfl
  | element head children rest ihChildren ihRest =>
    intro s
    rw [walkAll_element]
    exact (ihChildren.carryOut env head).bind ihRest s

theorem replayDepth_of_walkAll {nodes : List Node} {s t : State}
    (h : walkAll env nodes s = .ok t) : t.replayDepth = s.replayDepth := by
  have hkeeps := keeps_walkAll env nodes s
  rw [h] at hkeeps
  exact hkeeps

/-! ## Visits -/

/-- A state of a walk, with the repeated elements whose bodies are being carried out
for an item, innermost first. -/
structure Visit where
  replayed : List Head
  state : State

namespace State

/-- The visits while a body is carried out for an item, `visits` giving those of the
body. -/
def replayVisits (env : Environment) (visits : State → List Visit) (s : State) (item : Item) :
    List Visit :=
  match s.takeUp? env item with
  | some t =>
    if env.maxReplayDepth ≤ t.replayDepth then []
    else visits { t with replayDepth := t.replayDepth + 1 }
  | none => []

/-- The visits while a body is carried out for one item after the other; between the
items it is being carried out no more. -/
def itemVisits (env : Environment) (replayed : List Head) (body : State → Outcome)
    (visits : State → List Visit) : List Item → State → List Visit
  | [], _ => []
  | item :: rest, s =>
    replayVisits env visits s item ++
    match replayItem env body s item with
    | .ok t => ⟨replayed, t⟩ :: itemVisits env replayed body visits rest t
    | .error failure => [⟨replayed, failure.state⟩]

/-- The visits at the end of a repeated block. -/
def repeatVisits (env : Environment) (replayed : List Head) (body : State → Outcome)
    (visits : State → List Visit) (s : State) : List Visit :=
  let s := { s with suppression.repeats := s.suppression.repeats - 1 }
  if 0 < s.suppression.repeats then []
  else
    match s.collected with
    | [] => []
    | items :: rest =>
      let s := { s with collected := rest }.beginItems items
      ⟨replayed, s⟩ :: itemVisits env replayed body visits items.toList s

end State

/-- The visits at the end of an element. -/
def leaveVisits (env : Environment) (replayed : List Head) (head : Head)
    (body : State → Outcome) (visits : State → List Visit) (s : State) : List Visit :=
  (if s.suppression.allows head.tag && head.tag.isRepeat then
    s.repeatVisits env replayed body visits else []) ++
  match leave env head body s with
  | .ok _ => []
  | .error failure => [⟨replayed, failure.state⟩]

mutual

/-- The visits of the walk of a node inside the bodies of some repeated elements. -/
def nodeVisits (env : Environment) (replayed : List Head) : Node → State → List Visit
  | .text _, _ => []
  | .element head children, s =>
    match enter env head s with
    | .error failure => [⟨replayed, failure.state⟩]
    | .ok t =>
      visits env replayed children t ++
      match walkAll env children t with
      | .ok u =>
        leaveVisits env replayed head (walkAll env children)
          (visits env (head :: replayed) children) u
      | .error _ => []

/-- The visits of the walk of a list of nodes inside the bodies of some repeated
elements, in order. -/
def visits (env : Environment) (replayed : List Head) : List Node → State → List Visit
  | [], s => [⟨replayed, s⟩]
  | node :: rest, s =>
    ⟨replayed, s⟩ :: (nodeVisits env replayed node s ++
      match walk env node s with
      | .ok t => visits env replayed rest t
      | .error _ => [])

end

/-! ## Visits and histories -/

section Erasure

variable {replayed : List Head} {visitsOf : State → List Visit} {states : State → List State}

theorem map_state_replayVisits (h : ∀ s, (visitsOf s).map Visit.state = states s) (s : State)
    (item : Item) :
    (s.replayVisits env visitsOf item).map Visit.state = s.replayStates env states item := by
  unfold State.replayVisits State.replayStates
  cases s.takeUp? env item with
  | none => rfl
  | some t =>
    dsimp only
    by_cases hlimit : env.maxReplayDepth ≤ t.replayDepth
    · rw [if_pos hlimit, if_pos hlimit]
      rfl
    · rw [if_neg hlimit, if_neg hlimit]
      exact h _

theorem map_state_itemVisits (h : ∀ s, (visitsOf s).map Visit.state = states s)
    (items : List Item) (s : State) :
    (State.itemVisits env replayed body visitsOf items s).map Visit.state =
      State.itemStates env body states items s := by
  induction items generalizing s with
  | nil => rfl
  | cons item rest ih =>
    rw [State.itemVisits, State.itemStates, List.map_append, map_state_replayVisits h]
    cases s.replayItem env body item with
    | ok t =>
      dsimp only
      rw [List.map_cons, ih t]
    | error failure => rfl

theorem map_state_repeatVisits (h : ∀ s, (visitsOf s).map Visit.state = states s) (s : State) :
    (s.repeatVisits env replayed body visitsOf).map Visit.state =
      s.repeatStates env body states := by
  unfold State.repeatVisits State.repeatStates
  dsimp only
  by_cases hskipped : 0 < s.suppression.repeats - 1
  · rw [if_pos hskipped, if_pos hskipped]
    rfl
  · rw [if_neg hskipped, if_neg hskipped]
    cases s.collected with
    | nil => rfl
    | cons items rest =>
      dsimp only
      rw [List.map_cons, map_state_itemVisits h]

theorem map_state_leaveVisits (h : ∀ s, (visitsOf s).map Visit.state = states s) (s : State) :
    (leaveVisits env replayed head body visitsOf s).map Visit.state =
      leaveStates env head body states s := by
  unfold leaveVisits leaveStates
  rw [List.map_append]
  congr 1
  · by_cases hrepeat : (s.suppression.allows head.tag && head.tag.isRepeat) = true
    · rw [if_pos hrepeat, if_pos hrepeat]
      exact map_state_repeatVisits h s
    · rw [if_neg hrepeat, if_neg hrepeat]
      rfl
  · cases leave env head body s <;> rfl

end Erasure

/-- **The visits of a walk are its history**, apart from the elements. -/
theorem map_state_visits (env : Environment) (replayed : List Head) (nodes : List Node)
    (s : State) : (visits env replayed nodes s).map Visit.state = history env nodes s := by
  induction nodes using Node.forest generalizing replayed s with
  | nil =>
    rw [visits, history_nil]
    rfl
  | text text rest ih =>
    rw [visits, nodeVisits, walk, history_text, List.nil_append, List.map_cons, ih]
  | element head children rest ihChildren ihRest =>
    rw [visits, history, List.map_cons, List.map_append, nodeVisits, nodeStates]
    congr 2
    · cases enter env head s with
      | error failure => rfl
      | ok t =>
        dsimp only
        rw [List.map_append, ihChildren]
        congr 1
        cases walkAll env children t with
        | ok u => exact map_state_leaveVisits (ihChildren (head :: replayed)) u
        | error failure => rfl
    · cases walk env (.element head children) s with
      | ok t => exact ihRest replayed t
      | error failure => rfl

/-! ## What is counted -/

/-- Whether the number in the state of a visit is that of the repeated elements whose
bodies are being carried out, neither more than the limit nor more than a bound. -/
structure Visit.Counted (env : Environment) (bound : Nat) (v : Visit) : Prop where
  repeats : ∀ head ∈ v.replayed, head.tag.isRepeat = true
  depth : v.state.replayDepth = v.replayed.length
  limit : v.replayed.length ≤ env.maxReplayDepth
  bound : v.replayed.length ≤ bound

/-- Whether a part of a template has counted visits only, from any state in which the
elements around it are counted. -/
def Counts (env : Environment) (bound : Nat) (replayed : List Head)
    (visits : State → List Visit) : Prop :=
  ∀ s, (Visit.mk replayed s).Counted env bound → ∀ v ∈ visits s, v.Counted env bound

/-- The elements stay counted as long as the depth stays the same. -/
theorem Visit.Counted.of_replayDepth {bound : Nat} {replayed : List Head} {s t : State}
    (h : (Visit.mk replayed s).Counted env bound) (ht : t.replayDepth = s.replayDepth) :
    (Visit.mk replayed t).Counted env bound :=
  ⟨h.repeats, ht.trans h.depth, h.limit, h.bound⟩

namespace Counts

variable {bound : Nat} {replayed : List Head} {visitsOf : State → List Visit}

/-- **A body is carried out one level deeper**, and only below the limit. -/
theorem replayVisits (h : Counts env bound (head :: replayed) visitsOf)
    (hrepeat : head.tag.isRepeat = true) (hroom : replayed.length < bound) (item : Item) :
    Counts env bound replayed fun s => s.replayVisits env visitsOf item := by
  intro s hs v hv
  dsimp only at hv
  unfold State.replayVisits at hv
  split at hv
  next t ht =>
    split at hv
    next => cases hv
    next hlimit =>
      refine h { t with replayDepth := t.replayDepth + 1 } ?_ v hv
      have hdepth : t.replayDepth = replayed.length :=
        (State.replayDepth_of_takeUp? ht).trans hs.depth
      refine ⟨List.forall_mem_cons.mpr ⟨hrepeat, hs.repeats⟩, ?_, ?_, ?_⟩
      · show t.replayDepth + 1 = replayed.length + 1
        omega
      · show replayed.length + 1 ≤ env.maxReplayDepth
        omega
      · show replayed.length + 1 ≤ bound
        omega
  next => cases hv

theorem itemVisits (h : Counts env bound (head :: replayed) visitsOf)
    (hrepeat : head.tag.isRepeat = true) (hroom : replayed.length < bound)
    (hbody : Keeps Tallies.depth body) (items : List Item) :
    Counts env bound replayed (State.itemVisits env replayed body visitsOf items) := by
  induction items with
  | nil =>
    intro s hs v hv
    cases hv
  | cons item rest ih =>
    intro s hs v hv
    have hkeeps := hbody.replayItem env item s
    dsimp only at hkeeps
    rw [State.itemVisits, List.mem_append] at hv
    rcases hv with hv | hv
    · exact h.replayVisits hrepeat hroom item s hs v hv
    · -- between two items, or after a failure, the depth is that of the block
      split at hv
      next t ht =>
        rw [ht] at hkeeps
        have hcounted := hs.of_replayDepth (t := t) hkeeps
        rcases List.mem_cons.mp hv with rfl | hv
        · exact hcounted
        · exact ih t hcounted v hv
      next failure hfailure =>
        rw [hfailure] at hkeeps
        rw [List.mem_singleton] at hv
        subst hv
        exact hs.of_replayDepth hkeeps

theorem repeatVisits (h : Counts env bound (head :: replayed) visitsOf)
    (hrepeat : head.tag.isRepeat = true) (hroom : replayed.length < bound)
    (hbody : Keeps Tallies.depth body) :
    Counts env bound replayed (State.repeatVisits env replayed body visitsOf) := by
  intro s hs v hv
  unfold State.repeatVisits at hv
  dsimp only at hv
  split at hv
  · cases hv
  · split at hv
    · cases hv
    next items rest _ =>
      have hcounted := hs.of_replayDepth (State.replayDepth_beginItems
        { s with suppression.repeats := s.suppression.repeats - 1, collected := rest } items)
      rcases List.mem_cons.mp hv with rfl | hv
      · exact hcounted
      · exact h.itemVisits hrepeat hroom hbody items.toList _ hcounted v hv

theorem leaveVisits (hbody : Keeps Tallies.depth body)
    (h : head.tag.isRepeat = true →
      Counts env bound (head :: replayed) visitsOf ∧ replayed.length < bound) :
    Counts env bound replayed (leaveVisits env replayed head body visitsOf) := by
  intro s hs v hv
  have hkeeps := hbody.leave env head s
  unfold Report.leaveVisits at hv
  rcases List.mem_append.mp hv with hv | hv
  · split at hv
    next hallowed =>
      have hrepeat := (Bool.and_eq_true_iff.mp hallowed).2
      obtain ⟨hvisits, hroom⟩ := h hrepeat
      exact hvisits.repeatVisits hrepeat hroom hbody s hs v hv
    next => cases hv
  · split at hv
    next => cases hv
    next failure hfailure =>
      rw [hfailure] at hkeeps
      rw [List.mem_singleton] at hv
      subst hv
      exact hs.of_replayDepth hkeeps

end Counts

/-- **At any time of a walk the number of a state is that of the elements whose bodies
are being carried out.** -/
theorem counts_visits (env : Environment) {bound : Nat} {replayed : List Head}
    {nodes : List Node} (h : replayed.length + Node.repeatDepthIn nodes ≤ bound) :
    Counts env bound replayed (visits env replayed nodes) := by
  induction nodes using Node.forest generalizing replayed with
  | nil =>
    intro s hs v hv
    rw [visits, List.mem_singleton] at hv
    subst hv
    exact hs
  | text text rest ih =>
    intro s hs v hv
    rw [visits, nodeVisits, walk, List.nil_append] at hv
    rcases List.mem_cons.mp hv with rfl | hv
    · exact hs
    · have hrest := Node.repeatDepthIn_rest_le (.text text) rest
      refine ih (by omega) _ (hs.of_replayDepth ?_) v hv
      split
      · exact congrArg Tallies.depth (s.tallies_addText text)
      · rfl
  | element head children rest ihChildren ihRest =>
    intro s hs v hv
    rw [visits] at hv
    rcases List.mem_cons.mp hv with rfl | hv
    · exact hs
    rcases List.mem_append.mp hv with hv | hv
    · -- inside the element
      have hchildren := Node.repeatDepthIn_children_le head children rest
      have henter := keeps_enter Tallies.depth env head s
      rw [nodeVisits] at hv
      split at hv
      next failure hfailure =>
        rw [hfailure] at henter
        rw [List.mem_singleton] at hv
        subst hv
        exact hs.of_replayDepth henter
      next t ht =>
        rw [ht] at henter
        have hcounted := hs.of_replayDepth (t := t) henter
        rcases List.mem_append.mp hv with hv | hv
        · exact ihChildren (by omega) t hcounted v hv
        · split at hv
          next u hu =>
            have hdone := hcounted.of_replayDepth (replayDepth_of_walkAll hu)
            refine Counts.leaveVisits (keeps_walkAll env children) ?_ u hdone v hv
            intro hrepeat
            have hless := Node.repeatDepthIn_children_lt hrepeat children rest
            refine ⟨ihChildren ?_, by omega⟩
            rw [List.length_cons]
            omega
          next => cases hv
    · -- behind the element
      have hrest := Node.repeatDepthIn_rest_le (.element head children) rest
      have hcarried := (keeps_walkAll env children).carryOut env head s
      rw [walk_element] at hv
      split at hv
      next t ht =>
        rw [ht] at hcarried
        exact ihRest (by omega) t (hs.of_replayDepth hcarried) v hv
      next => cases hv

/-! ## Templates that fit -/

/-- Whether a part of a template does not go too deep as long as there is room for
some more levels. -/
def Fits (env : Environment) (levels : Nat) (body : State → Outcome) : Prop :=
  ∀ s, s.replayDepth + levels ≤ env.maxReplayDepth →
    ∀ limit state, body s ≠ .error ⟨.tooDeep limit, state⟩

theorem RunError.ofFormula_ne_tooDeep (location : Location) (cause : FormulaError)
    (limit : Nat) : RunError.ofFormula location cause ≠ .tooDeep limit := by
  cases cause <;> exact nofun

namespace Fits

variable {levels : Nat}

theorem mono {more : Nat} (h : Fits env levels body) (hle : levels ≤ more) :
    Fits env more body :=
  fun s hs => h s (by omega)

/-- Two parts in sequence need as much room as each of them. -/
theorem bind {next : State → Outcome} (hkeeps : Keeps Tallies.depth body)
    (h : Fits env levels body) (hnext : Fits env levels next) :
    Fits env levels fun s => body s >>= next := by
  intro s hs limit state
  dsimp only
  have hdepth := hkeeps s
  cases hrun : body s with
  | ok t =>
    rw [hrun] at hdepth
    have ht : t.replayDepth = s.replayDepth := hdepth
    rw [Outcome.ok_bind]
    exact hnext t (by omega) limit state
  | error failure =>
    rw [Outcome.error_bind, ← hrun]
    exact h s hs limit state

/-- No start of an element goes deeper. -/
theorem enter (env : Environment) (head : Head) : Fits env 0 (enter env head) := by
  intro s _ limit state hfailed
  unfold Report.enter at hfailed
  split at hfailed
  · obtain ⟨tag, name, attributes, location⟩ := head
    cases tag with
    | ifTag =>
      rw [startElement] at hfailed
      unfold State.beginCondition at hfailed
      dsimp only at hfailed
      split at hfailed
      · cases hfailed
      · split at hfailed
        · exact RunError.ofFormula_ne_tooDeep _ _ limit
            (congrArg Failure.error (Except.error.inj hfailed))
        · cases hfailed
        · cases hfailed
    | setVar =>
      rw [startElement] at hfailed
      unfold State.assign at hfailed
      dsimp only at hfailed
      split at hfailed
      · exact RunError.ofFormula_ne_tooDeep _ _ limit
          (congrArg Failure.error (Except.error.inj hfailed))
      · cases hfailed
    | list =>
      rw [startElement] at hfailed
      unfold State.beginList at hfailed
      dsimp only at hfailed
      split at hfailed
      · split at hfailed
        · cases hfailed
        · -- a list with an unknown name
          next e hrecords =>
            cases hfailed
            unfold recordsOf at hrecords
            dsimp only at hrecords
            split at hrecords <;> cases hrecords
      · cases hfailed
    | _ =>
      rw [startElement] at hfailed
      cases hfailed
  · cases hfailed

/-- **A body that is carried out for an item needs one level more.** -/
theorem replay (h : Fits env levels body) : Fits env (levels + 1) (State.replay env body) := by
  intro s hs limit state hfailed
  unfold State.replay at hfailed
  split at hfailed
  next hlimit => omega
  next =>
    split at hfailed
    next => cases hfailed
    next failure hfailure =>
      obtain ⟨error, reached⟩ := failure
      cases hfailed
      have hroom : (s.replayDepth + 1) + levels ≤ env.maxReplayDepth := by omega
      exact h { s with replayDepth := s.replayDepth + 1 } hroom _ _ hfailure

theorem replayItem (h : Fits env levels body) (item : Item) :
    Fits env (levels + 1) fun s => State.replayItem env body s item := by
  intro s hs limit state
  dsimp only
  unfold State.replayItem
  split
  next t ht =>
    have hdepth := State.replayDepth_of_takeUp? ht
    exact h.replay t (by omega) limit state
  next => exact nofun

/-- For any number of items no more room is needed than for one. -/
theorem replayItems (hkeeps : Keeps Tallies.depth body) (h : Fits env levels body)
    (items : Items) : Fits env (levels + 1) fun s => State.replayItems env body s items := by
  intro s hs
  dsimp only
  rw [State.replayItems_eq]
  have hbegin := s.replayDepth_beginItems items
  generalize s.beginItems items = t at hbegin
  have ht : t.replayDepth + (levels + 1) ≤ env.maxReplayDepth := by omega
  clear hbegin hs
  induction items.toList generalizing t with
  | nil => exact fun _ _ => nofun
  | cons item rest ih =>
    rw [List.foldlM_cons]
    exact Fits.bind (hkeeps.replayItem env item) (h.replayItem item) (fun u hu => ih u hu) t ht

theorem endRepeat (hkeeps : Keeps Tallies.depth body) (h : Fits env levels body) :
    Fits env (levels + 1) (State.endRepeat env body) := by
  intro s hs limit state hfailed
  unfold State.endRepeat at hfailed
  dsimp only at hfailed
  split at hfailed
  · cases hfailed
  · split at hfailed
    · cases hfailed
    next items rest _ =>
      split at hfailed
      next => cases hfailed
      next failure hfailure =>
        cases hfailed
        exact h.replayItems hkeeps items
          { s with suppression.repeats := s.suppression.repeats - 1, collected := rest } hs
          limit state hfailure

theorem leave (hkeeps : Keeps Tallies.depth body)
    (h : head.tag.isRepeat = true → ∃ less, less < levels ∧ Fits env less body) :
    Fits env levels (leave env head body) := by
  intro s hs limit state hfailed
  unfold Report.leave at hfailed
  split at hfailed
  · cases hr : head.tag.isRepeat with
    | true =>
      rw [endElement_of_isRepeat hr] at hfailed
      obtain ⟨less, hless, hbody⟩ := h hr
      exact (hbody.endRepeat hkeeps).mono hless s hs limit state hfailed
    | false =>
      obtain ⟨tag, name, attributes, location⟩ := head
      cases tag with
      | repeatTag | facts | list | relatives => cases hr
      | doc =>
        rw [endElement] at hfailed
        unfold State.endDocument at hfailed
        dsimp only at hfailed
        split at hfailed <;> cases hfailed
      | _ =>
        rw [endElement] at hfailed
        cases hfailed
  · cases hfailed

end Fits

/-- **A walk does not go too deep** where there is room for the repeated elements that
are nested in its template. -/
theorem fits_walkAll (env : Environment) (nodes : List Node) :
    Fits env (Node.repeatDepthIn nodes) (walkAll env nodes) := by
  induction nodes using Node.forest with
  | nil =>
    intro s _ limit state
    rw [walkAll_nil]
    exact nofun
  | text text rest ih =>
    intro s hs limit state
    rw [walkAll_text]
    have hrest := Node.repeatDepthIn_rest_le (.text text) rest
    refine ih _ ?_ limit state
    split
    · have hdepth : (s.addText text).replayDepth = s.replayDepth :=
        congrArg Tallies.depth (s.tallies_addText text)
      omega
    · omega
  | element head children rest ihChildren ihRest =>
    intro s hs limit state
    rw [walkAll_element]
    have hkeeps := keeps_walkAll env children
    have hchildren := ihChildren.mono (Node.repeatDepthIn_children_le head children rest)
    have hleave : Fits env (Node.repeatDepthIn (.element head children :: rest))
        (leave env head (walkAll env children)) := by
      refine Fits.leave hkeeps ?_
      intro hrepeat
      exact ⟨_, Node.repeatDepthIn_children_lt hrepeat children rest, ihChildren⟩
    have hcarryOut : Fits env (Node.repeatDepthIn (.element head children :: rest))
        (carryOut env head (walkAll env children)) :=
      ((Fits.enter env head).mono (Nat.zero_le _)).bind (keeps_enter _ env head)
        (Fits.bind hkeeps hchildren hleave)
    have hbehind := ihRest.mono (Node.repeatDepthIn_rest_le (.element head children) rest)
    exact Fits.bind (hkeeps.carryOut env head) hcarryOut hbehind s hs limit state

/-! ## Runs -/

/-- **The depth of replays counts nesting.** At any time of a run it is the number of
repeated elements whose bodies are being carried out, within the limit and within the
nesting of the template; at the end of a run, in success or failure, it is back at
zero. A template whose repeated elements are nested no deeper than the limit never
fails for it, whatever the records are. -/
theorem counted_of_run (env : Environment) (template : List Node) (scope : Scope)
    (output : Output) :
    (visits env [] template (.start scope output)).map Visit.state =
        history env template (.start scope output) ∧
      (∀ v ∈ visits env [] template (.start scope output),
        (∀ head ∈ v.replayed, head.tag.isRepeat = true) ∧
          v.state.replayDepth = v.replayed.length ∧ v.replayed.length ≤ env.maxReplayDepth ∧
          v.replayed.length ≤ Node.repeatDepthIn template) ∧
      (run env template scope output).state.replayDepth = 0 ∧
      ∀ levels, Node.repeatDepthIn template ≤ levels → levels ≤ env.maxReplayDepth →
        ∀ limit state, run env template scope output ≠ .error ⟨.tooDeep limit, state⟩ := by
  have hstart : (Visit.mk [] (.start scope output)).Counted env (Node.repeatDepthIn template) :=
    ⟨nofun, rfl, Nat.zero_le _, Nat.zero_le _⟩
  have hbound : ([] : List Head).length + Node.repeatDepthIn template ≤
      Node.repeatDepthIn template := by
    show 0 + Node.repeatDepthIn template ≤ Node.repeatDepthIn template
    omega
  refine ⟨map_state_visits env [] template _, ?_, keeps_walkAll env template _, ?_⟩
  · intro v hv
    have hcounted := counts_visits env hbound _ hstart v hv
    exact ⟨hcounted.repeats, hcounted.depth, hcounted.limit, hcounted.bound⟩
  · intro levels hlevels hlimit
    have hroom : (State.start scope output).replayDepth + Node.repeatDepthIn template ≤
        env.maxReplayDepth := by
      show 0 + Node.repeatDepthIn template ≤ env.maxReplayDepth
      omega
    exact fits_walkAll env template _ hroom

/-- A list in a list, with a list beside them. -/
def nestedLists : List Node :=
  [.element ⟨.list, "List", {}, {}⟩
      [.element ⟨.cell, "Cell", {}, {}⟩
        [.element ⟨.list, "List", ⟨[("list", "family")]⟩, {}⟩ [.text "family"]]],
    .element ⟨.list, "List", {}, {}⟩ [.text "person"]]

/-- An environment with a limit and the records of a couple. -/
def coupleWithin (limit : Nat) : Environment :=
  { store :=
      { records :=
          [⟨"I1", .individual, "0 @I1@ INDI"⟩, ⟨"I2", .individual, "0 @I2@ INDI"⟩,
            ⟨"F1", .family, "0 @F1@ FAM"⟩] }
    maxReplayDepth := limit }

theorem counted_of_run_nestedLists :
    Node.repeatDepthIn nestedLists ≤ 2 ∧ 2 ≤ (coupleWithin 2).maxReplayDepth ∧
      ∀ limit state,
        run (coupleWithin 2) nestedLists {} {} ≠ .error ⟨.tooDeep limit, state⟩ := by
  have hlevels : Node.repeatDepthIn nestedLists ≤ 2 := by decide
  have hlimit : 2 ≤ (coupleWithin 2).maxReplayDepth := by decide
  exact ⟨hlevels, hlimit,
    (counted_of_run (coupleWithin 2) nestedLists {} {}).2.2.2 2 hlevels hlimit⟩

/-- With one level less there is no room for the inner list. -/
example : (match run (coupleWithin 1) nestedLists {} {} with
    | .ok _ => none
    | .error failure => some failure.error) = some (.tooDeep 1) := by
  decide +kernel

end Report

end Lineage
