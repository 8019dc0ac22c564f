import Lineage.Proofs.Walk.Refinement

/-!
# The states that a walk comes through

A walk gives the state in which it ends, or the one in which it fails. What is
to hold at any time of a run has to be said of the states in between as well.
`history` lists them in order: the state that a walk starts from, the one after
the start of each element, those of its content, those of each time that the
content is carried out for an item, and the one after its end. A failure adds
the state that it has reached, and nothing comes after it.

A block is repeated for items of four kinds. What happens for one of them is
the same for all kinds, and `replayItems_eq` brings it into one form.

> `mem_history_of_ok`, `mem_history_of_error`: the outcome of a walk belongs to
> its history.
-/

namespace Lineage.Report

open Template (Head Node)

/-! ## Items, one at a time -/

/-- One of the items that a block is repeated for. -/
inductive Item where
  | part (text : String)
  | fact (fact : FactItem)
  | record (record : Record)
  | relative (relative : Relative)

/-- The items that a block is repeated for, in order. -/
def Items.toList : Items → List Item
  | .parts texts => texts.map .part
  | .facts items => items.map .fact
  | .records found => found.map .record
  | .relatives found => found.map .relative

namespace State

/-- The state before the first item, with the totals of a list. -/
def beginItems (s : State) : Items → State
  | .parts _ | .facts _ => s
  | .records records => s.startTotals records.length
  | .relatives relatives => s.startTotals relatives.length

/-- Makes an item the active text, unless it is a record that may not be
shown. -/
def takeUp? (env : Environment) (s : State) : Item → Option State
  | .part text => some (s.activate text)
  | .fact fact => some (s.activateFact fact)
  | .record record =>
    if env.store.canShow record then some (s.activate (env.store.privatize record)) else none
  | .relative relative => some (s.activateRelative env.store relative)

/-- Carries out the body of a block for an item; a record that may not be shown
is only counted. -/
def replayItem (env : Environment) (body : State → Outcome) (s : State) (item : Item) : Outcome :=
  match s.takeUp? env item with
  | some t => t.replay env body
  | none => .ok { s with listPrivate := s.listPrivate + 1 }

/-- The body of a block is carried out for one item after the other. -/
theorem replayItems_eq (env : Environment) (body : State → Outcome) (s : State) (items : Items) :
    replayItems env body s items =
      items.toList.foldlM (replayItem env body) (s.beginItems items) := by
  cases items with
  | parts texts =>
    rw [replayItems, Items.toList, List.foldlM_map]
    rfl
  | facts items =>
    rw [replayItems, Items.toList, List.foldlM_map]
    rfl
  | records found =>
    have hrecord : replayRecord env body =
        fun s record => replayItem env body s (.record record) := by
      funext s record
      unfold replayRecord replayItem takeUp?
      dsimp only
      split <;> rfl
    rw [replayItems, hrecord, Items.toList, List.foldlM_map]
    rfl
  | relatives found =>
    rw [replayItems, Items.toList, List.foldlM_map]
    rfl

/-! ## Histories -/

/-- The states that carrying out a body for an item comes through, `states`
giving those of the body. -/
def replayStates (env : Environment) (states : State → List State) (s : State) (item : Item) :
    List State :=
  match s.takeUp? env item with
  | some t =>
    if env.maxReplayDepth ≤ t.replayDepth then []
    else states { t with replayDepth := t.replayDepth + 1 }
  | none => []

/-- The states that carrying out a body for one item after the other comes
through. -/
def itemStates (env : Environment) (body : State → Outcome) (states : State → List State) :
    List Item → State → List State
  | [], _ => []
  | item :: rest, s =>
    replayStates env states s item ++
    match replayItem env body s item with
    | .ok t => t :: itemStates env body states rest t
    | .error failure => [failure.state]

/-- The states that the end of a repeated block comes through. -/
def repeatStates (env : Environment) (body : State → Outcome) (states : State → List State)
    (s : State) : List State :=
  let s := { s with suppression.repeats := s.suppression.repeats - 1 }
  if 0 < s.suppression.repeats then []
  else
    match s.collected with
    | [] => []
    | items :: rest =>
      let s := { s with collected := rest }.beginItems items
      s :: itemStates env body states items.toList s

end State

/-- The states that the end of an element comes through, before the one in
which it ends. -/
def leaveStates (env : Environment) (head : Head) (body : State → Outcome)
    (states : State → List State) (s : State) : List State :=
  (if s.suppression.allows head.tag && head.tag.isRepeat then s.repeatStates env body states
    else []) ++
  match leave env head body s with
  | .ok _ => []
  | .error failure => [failure.state]

mutual

/-- The states that the walk of a node comes through, between the one that it
starts from and the one in which it ends. -/
def nodeStates (env : Environment) : Node → State → List State
  | .text _, _ => []
  | .element head children, s =>
    match enter env head s with
    | .error failure => [failure.state]
    | .ok t =>
      history env children t ++
      match walkAll env children t with
      | .ok u => leaveStates env head (walkAll env children) (history env children) u
      | .error _ => []

/-- The states that the walk of a list of nodes comes through, in order. -/
def history (env : Environment) : List Node → State → List State
  | [], s => [s]
  | node :: rest, s =>
    s :: (nodeStates env node s ++
      match walk env node s with
      | .ok t => history env rest t
      | .error _ => [])

end

theorem history_nil (env : Environment) (s : State) : history env [] s = [s] := by
  rw [history]

theorem history_text (env : Environment) (text : String) (rest : List Node) (s : State) :
    history env (.text text :: rest) s =
      s :: history env rest (if s.printsText then s.addText text else s) := by
  rw [history, nodeStates, walk]
  rfl

theorem history_element (env : Environment) (head : Head) (children rest : List Node)
    (s : State) :
    history env (.element head children :: rest) s =
      s :: (nodeStates env (.element head children) s ++
        match carryOut env head (walkAll env children) s with
        | .ok t => history env rest t
        | .error _ => []) := by
  rw [history, walk_element]

/-- A walk comes through the state that it starts from. -/
theorem start_mem_history (env : Environment) (nodes : List Node) (s : State) :
    s ∈ history env nodes s := by
  cases nodes with
  | nil =>
    rw [history_nil]
    exact List.mem_singleton.mpr rfl
  | cons node rest =>
    rw [history]
    exact List.mem_cons_self ..

/-! ## The outcome of a walk -/

/-- The outcome of carrying out an element, when its start has succeeded. -/
theorem carryOut_of_enter {env : Environment} {head : Head} {body : State → Outcome}
    {s t : State} (h : enter env head s = .ok t) :
    carryOut env head body s = (body t >>= leave env head body) := by
  rw [carryOut, h, Outcome.ok_bind]

/-- **The state in which a walk ends belongs to its history.** -/
theorem mem_history_of_ok {env : Environment} {nodes : List Node} {s t : State}
    (h : walkAll env nodes s = .ok t) : t ∈ history env nodes s := by
  induction nodes using Node.forest generalizing s with
  | nil =>
    rw [walkAll_nil] at h
    cases h
    exact start_mem_history env [] _
  | text text rest ih =>
    rw [walkAll_text] at h
    rw [history_text]
    exact List.mem_cons_of_mem _ (ih h)
  | element head children rest _ ihRest =>
    rw [walkAll_element] at h
    obtain ⟨u, hu, ht⟩ := Outcome.bind_eq_ok.mp h
    rw [history_element, hu]
    exact List.mem_cons_of_mem _ (List.mem_append_right _ (ihRest ht))

/-- **The state that a failure has reached belongs to the history.** -/
theorem mem_history_of_error {env : Environment} {nodes : List Node} {s : State}
    {failure : Failure} (h : walkAll env nodes s = .error failure) :
    failure.state ∈ history env nodes s := by
  induction nodes using Node.forest generalizing s with
  | nil =>
    rw [walkAll_nil] at h
    exact absurd h Outcome.ok_ne_error
  | text text rest ih =>
    rw [walkAll_text] at h
    rw [history_text]
    exact List.mem_cons_of_mem _ (ih h)
  | element head children rest ihChildren ihRest =>
    rw [walkAll_element] at h
    rw [history_element]
    refine List.mem_cons_of_mem _ (List.mem_append.mpr ?_)
    cases hcarried : carryOut env head (walkAll env children) s with
    | ok t =>
      rw [hcarried, Outcome.ok_bind] at h
      exact Or.inr (ihRest h)
    | error reached =>
      rw [hcarried, Outcome.error_bind] at h
      cases h
      left
      -- it was the start that failed, the content, or the end
      cases henter : enter env head s with
      | error failure =>
        rw [carryOut, henter, Outcome.error_bind] at hcarried
        cases hcarried
        rw [nodeStates, henter]
        exact List.mem_singleton.mpr rfl
      | ok t =>
        rw [carryOut_of_enter henter] at hcarried
        rw [nodeStates, henter]
        refine List.mem_append.mpr ?_
        cases hbody : walkAll env children t with
        | error failure =>
          rw [hbody, Outcome.error_bind] at hcarried
          cases hcarried
          exact Or.inl (ihChildren hbody)
        | ok u =>
          rw [hbody, Outcome.ok_bind] at hcarried
          right
          dsimp only
          rw [leaveStates, hcarried]
          exact List.mem_append_right _ (List.mem_singleton.mpr rfl)

end Lineage.Report
