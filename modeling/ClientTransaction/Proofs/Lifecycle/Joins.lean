import ClientTransaction.Lifecycle.Cell
import ClientTransaction.Proofs.Transaction.Growth

/-!
# Lifecycle.Joins — marks add up in any order

A mark raises an open state to its own height and leaves a higher one as it is. So marks leave the
highest of them, whatever their order, and it does not matter how often one of them is made. The
first call that ends a transaction then overrules every mark that comes after it.
-/

namespace ClientTransaction

/-- What can be said of an open transaction. -/
inductive Mark
  | success
  | failure
  | failed
  deriving DecidableEq, Repr

/-- The state of a transaction of which only this has been said. -/
def Mark.state : Mark → State
  | .success => .markedSuccess
  | .failure => .markedFailed
  | .failed => .failed

/-- A statement that failed counts as much as its error. -/
def Error.mark (e : Error) : Mark :=
  if e.isRecoverable then .failure else .failed

namespace State

/-- A mark raises a state that is lower. -/
def raise (s : State) (m : Mark) : State :=
  if s.rank < m.state.rank then m.state else s

theorem markSuccess_eq_raise (s : State) : s.markSuccess = s.raise .success := by
  cases s <;> rfl

theorem markFailure_eq_raise (s : State) : s.markFailure = s.raise .failure := by
  cases s <;> rfl

theorem markFailed_eq_raise (s : State) : s.markFailed = s.raise .failed := by
  cases s <;> rfl

theorem rank_raise (s : State) (m : Mark) : (s.raise m).rank = max s.rank m.state.rank := by
  unfold raise
  split <;> omega

/-- No mark changes a terminal state. -/
theorem raise_of_isTerminal {s : State} (h : s.isTerminal = true) (m : Mark) : s.raise m = s := by
  cases s <;> simp [isTerminal] at h <;> cases m <;> rfl

theorem isTerminal_raise (s : State) (m : Mark) : (s.raise m).isTerminal = s.isTerminal := by
  cases s <;> cases m <;> rfl

theorem isTerminal_finalize {terminal : State} (h : terminal.isTerminal = true) (s : State) :
    (s.finalize terminal).isTerminal = true := by
  unfold finalize
  split
  · assumption
  · exact h

/-- Open states are told apart by their heights. -/
theorem eq_of_rank_eq {s s' : State} (h : s.isTerminal = false) (h' : s'.isTerminal = false)
    (hr : s.rank = s'.rank) : s = s' := by
  cases s <;> cases s' <;> simp [isTerminal, rank] at h h' hr ⊢

/-- What marks leave of a state. -/
def raiseAll (s : State) (ms : List Mark) : State :=
  ms.foldl raise s

section

variable {s : State} {ms ms' : List Mark}

theorem raiseAll_append (s : State) (ms ms' : List Mark) :
    s.raiseAll (ms ++ ms') = (s.raiseAll ms).raiseAll ms' :=
  List.foldl_append

theorem isTerminal_raiseAll (s : State) (ms : List Mark) :
    (s.raiseAll ms).isTerminal = s.isTerminal := by
  induction ms generalizing s with
  | nil => rfl
  | cons m rest ih => exact (ih (s.raise m)).trans (s.isTerminal_raise m)

/-- What marks leave is as high as a given height if the state or one of them is. -/
theorem le_rank_raiseAll {n : Nat} :
    n ≤ (s.raiseAll ms).rank ↔ n ≤ s.rank ∨ ∃ m ∈ ms, n ≤ m.state.rank := by
  -- The induction is on the marks, for every state that they are made of.
  induction ms generalizing s with
  | nil => simp [raiseAll]
  | cons m rest ih =>
      have hrest : n ≤ ((s.raise m).raiseAll rest).rank ↔ _ := ih
      have hmax : n ≤ max s.rank m.state.rank ↔ n ≤ s.rank ∨ n ≤ m.state.rank := by omega
      rw [raiseAll, List.foldl_cons, ← raiseAll, hrest, rank_raise, hmax, or_assoc]
      simp only [List.mem_cons, exists_eq_or_imp]

/-- Neither the order of the marks matters, nor how often one is made. -/
theorem raiseAll_eq_of_mem_iff (h : ∀ m, m ∈ ms ↔ m ∈ ms') (s : State) :
    s.raiseAll ms = s.raiseAll ms' := by
  cases hs : s.isTerminal with
  | true =>
      -- Both terminal states have one height, so heights do not tell them apart.
      have hstays : ∀ ms : List Mark, s.raiseAll ms = s := by
        intro ms
        induction ms with
        | nil => rfl
        | cons m rest ih => rwa [raiseAll, List.foldl_cons, raise_of_isTerminal hs]
      rw [hstays, hstays]
  | false =>
      refine eq_of_rank_eq ((isTerminal_raiseAll s ms).trans hs)
        ((isTerminal_raiseAll s ms').trans hs) (Nat.le_antisymm ?_ ?_)
      · exact le_rank_raiseAll.2 ((le_rank_raiseAll.1 (Nat.le_refl _)).imp_right
          fun ⟨m, hm, hle⟩ => ⟨m, (h m).1 hm, hle⟩)
      · exact le_rank_raiseAll.2 ((le_rank_raiseAll.1 (Nat.le_refl _)).imp_right
          fun ⟨m, hm, hle⟩ => ⟨m, (h m).2 hm, hle⟩)

/-- More marks have been made, among those there were. -/
theorem raiseAll_of_union {new : List Mark} (h : ∀ x, x ∈ ms' ↔ x ∈ ms ∨ x ∈ new) (s : State) :
    s.raiseAll ms' = (s.raiseAll ms).raiseAll new :=
  calc
    s.raiseAll ms' = s.raiseAll (ms ++ new) :=
      raiseAll_eq_of_mem_iff (fun x => by rw [h x, List.mem_append]) s
    _ = (s.raiseAll ms).raiseAll new := raiseAll_append s ms new

/-- The state of an open transaction of which these marks have been made: the highest of them. -/
def joined (ms : List Mark) : State :=
  State.active.raiseAll ms

/-- It is one of them, or there was none. -/
theorem joined_mem (ms : List Mark) : joined ms = .active ∨ ∃ m ∈ ms, joined ms = m.state := by
  rcases le_rank_raiseAll.1 (Nat.le_refl (joined ms).rank) with hle | ⟨m, hm, hle⟩
  · refine Or.inl (eq_of_rank_eq (isTerminal_raiseAll _ ms) rfl ?_)
    exact Nat.le_antisymm hle (Nat.zero_le _)
  · have hopen : m.state.isTerminal = false := by cases m <;> rfl
    exact Or.inr ⟨m, hm, eq_of_rank_eq (isTerminal_raiseAll _ ms) hopen
      (Nat.le_antisymm hle (le_rank_raiseAll.2 (Or.inr ⟨m, hm, Nat.le_refl _⟩)))⟩

/-- None of them is higher. -/
theorem rank_le_joined {m : Mark} (h : m ∈ ms) : m.state.rank ≤ (joined ms).rank :=
  le_rank_raiseAll.2 (Or.inr ⟨m, h, Nat.le_refl _⟩)

end

end State

/-! ## Cells -/

namespace Cell

/-- What a step says of the transaction, if it only says something. -/
def Step.mark? : Step → Option Mark
  | .markSuccess => some .success
  | .markFailure => some .failure
  | .markFailed => some .failed
  | _ => none

/-- The step makes a mark or looks at the state. -/
def Step.isMark : Step → Bool
  | .load | .markSuccess | .markFailure | .markFailed => true
  | .set _ | .finalize _ => false

/-- The step makes a mark, looks at the state, or ends in a terminal state. -/
def Step.isOrderly : Step → Bool
  | .finalize target => target.isTerminal
  | step => step.isMark

/-- What a step answers that comes after the end. -/
def Step.overruled (final : State) : Step → Answer
  | .load => .state final
  | .finalize _ => .finalized (.error final)
  | _ => .transition final final

/-- Performs steps one after the other. -/
def performAll (c : Cell) : List Step → List Answer × Cell
  | [] => ([], c)
  | step :: rest =>
      let (answer, c) := c.perform step
      let (answers, c) := c.performAll rest
      (answer :: answers, c)

theorem performAll_append (c : Cell) (first later : List Step) :
    c.performAll (first ++ later) =
      ((c.performAll first).1 ++ ((c.performAll first).2.performAll later).1,
        ((c.performAll first).2.performAll later).2) := by
  induction first generalizing c with
  | nil => rfl
  | cons step rest ih => simp only [List.cons_append, performAll, ih]

/-- A mark raises the state. -/
theorem state_perform_mark (c : Cell) {step : Step} (h : step.isMark = true) :
    (c.perform step).2.state = c.state.raiseAll step.mark?.toList := by
  cases step with
  | load => rfl
  | markSuccess => exact c.state.markSuccess_eq_raise
  | markFailure => exact c.state.markFailure_eq_raise
  | markFailed => exact c.state.markFailed_eq_raise
  | set target => simp [Step.isMark] at h
  | finalize target => simp [Step.isMark] at h

/-- Marks leave the highest of them and the state before. -/
theorem state_performAll_marks (c : Cell) {steps : List Step}
    (h : ∀ step ∈ steps, step.isMark = true) :
    (c.performAll steps).2.state = c.state.raiseAll (steps.filterMap Step.mark?) := by
  induction steps generalizing c with
  | nil => rfl
  | cons step rest ih =>
      have hfirst := c.state_perform_mark (h step (List.mem_cons_self ..))
      have hrest := ih (c.perform step).2 fun s hs => h s (List.mem_cons_of_mem _ hs)
      rw [performAll, hrest, hfirst, ← State.raiseAll_append]
      cases hm : step.mark? <;> simp [hm]

/-- Once there is a terminal state, every step leaves it and answers so. -/
theorem perform_of_isTerminal {c : Cell} (hc : c.state.isTerminal = true) {step : Step}
    (h : step.isOrderly = true) : c.perform step = (step.overruled c.state, c) := by
  rcases c with ⟨state⟩
  cases state <;> simp [State.isTerminal] at hc <;> cases step <;>
    first | rfl | simp [Step.isOrderly, Step.isMark] at h

theorem performAll_of_isTerminal {c : Cell} (hc : c.state.isTerminal = true) {steps : List Step}
    (h : ∀ step ∈ steps, step.isOrderly = true) :
    c.performAll steps = (steps.map (Step.overruled c.state), c) := by
  induction steps with
  | nil => rfl
  | cons step rest ih =>
      simp only [performAll, perform_of_isTerminal hc (h step (List.mem_cons_self ..)),
        ih fun s hs => h s (List.mem_cons_of_mem _ hs), List.map_cons]

/-- The first call that ends an open cell finds what the marks have left. Every later step leaves
the state that it has set, and answers so. -/
theorem performAll_finalize {c : Cell} (hc : c.state.isTerminal = false) {marks later : List Step}
    (hm : ∀ step ∈ marks, step.isMark = true) {final : State} (hf : final.isTerminal = true)
    (hl : ∀ step ∈ later, step.isOrderly = true) :
    c.performAll (marks ++ .finalize final :: later) =
      ((c.performAll marks).1 ++
          .finalized (.ok (c.state.raiseAll (marks.filterMap Step.mark?))) ::
            later.map (Step.overruled final),
        ⟨final⟩) := by
  have hstate := c.state_performAll_marks hm
  have hopen : (c.performAll marks).2.state.isTerminal = false := by
    rw [hstate, State.isTerminal_raiseAll, hc]
  have hfinal : (c.performAll marks).2.perform (.finalize final) =
      (.finalized (.ok (c.performAll marks).2.state), ⟨final⟩) := by
    simp [perform, finalize, hopen]
  have hlater : (⟨final⟩ : Cell).performAll later = (later.map (Step.overruled final), ⟨final⟩) :=
    performAll_of_isTerminal (c := ⟨final⟩) hf hl
  simp only [performAll_append, performAll, hfinal, hlater, hstate]

/-- How an open cell fares that is marked, looked at and ended, in any order. -/
inductive Decided (c : Cell) : List Step → Prop
  /-- Nobody has ended it, and the highest mark stands. -/
  | marked {marks : List Step} (hm : ∀ step ∈ marks, step.isMark = true)
      (hs : (c.performAll marks).2.state = c.state.raiseAll (marks.filterMap Step.mark?)) :
      Decided c marks
  /-- The first call that ends it has found what the marks before it have left. -/
  | ended {marks later : List Step} {final : State} (hm : ∀ step ∈ marks, step.isMark = true)
      (hf : final.isTerminal = true)
      (hs : c.performAll (marks ++ .finalize final :: later) =
        ((c.performAll marks).1 ++
            .finalized (.ok (c.state.raiseAll (marks.filterMap Step.mark?))) ::
              later.map (Step.overruled final),
          ⟨final⟩)) :
      Decided c (marks ++ .finalize final :: later)

theorem decided_of_orderly {c : Cell} (hc : c.state.isTerminal = false) {steps : List Step}
    (h : ∀ step ∈ steps, step.isOrderly = true) : c.Decided steps := by
  -- The marks are collected until the first call that ends the cell.
  have hfirst : ∀ marks later : List Step, (∀ step ∈ marks, step.isMark = true) →
      (∀ step ∈ later, step.isOrderly = true) → c.Decided (marks ++ later) := by
    intro marks later
    induction later generalizing marks with
    | nil =>
        intro hm _
        rw [List.append_nil]
        exact .marked hm (c.state_performAll_marks hm)
    | cons step rest ih =>
        intro hm hl
        have hrest := fun s hs => hl s (List.mem_cons_of_mem step hs)
        have hstep := hl step (List.mem_cons_self ..)
        by_cases hmark : step.isMark = true
        · have hmarks := ih (marks ++ [step]) (fun s hs => by
            rcases List.mem_append.1 hs with hs | hs
            · exact hm s hs
            · exact List.mem_singleton.1 hs ▸ hmark) hrest
          rwa [List.append_assoc] at hmarks
        · cases step with
          | finalize final => exact .ended hm hstep (performAll_finalize hc hm hstep hrest)
          | set target => simp [Step.isOrderly, Step.isMark] at hstep
          | _ => simp [Step.isMark] at hmark
  exact hfirst [] steps (fun _ hs => absurd hs List.not_mem_nil) h

/-- A failure comes before a wish to commit, and a rollback before a commit. -/
example :
    ({} : Cell).performAll [.markFailure, .markSuccess, .finalize .rolledBack, .finalize .committed] =
      ([.transition .active .markedFailed, .transition .markedFailed .markedFailed,
        .finalized (.ok .markedFailed), .finalized (.error .rolledBack)], ⟨.rolledBack⟩) := by
  rfl

end Cell

end ClientTransaction
