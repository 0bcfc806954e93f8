import ClientTransaction.Proofs.Completion.Chains
import Mathlib.Logic.Relation

/-!
# Completion.Moves — one chain after the other

A step takes at most one chain in hand, and a chain that is fired may put the next one there. What
happens between two steps is told move by move. Only so many moves fit into a step: a chain that
leaves another one in hand has started a fallback, and there are that many fewer to start.
-/

namespace ClientTransaction.Workbench

/-- What happens next: a step is begun if nothing is in hand, and else the chain in hand is
fired. -/
inductive Next : Moment → Moment → Prop
  | step (w : Workbench) (s : Step) : Next { bench := w } (w.start s).2
  | fire (w : Workbench) (c : Chain) (result : Except Error String) :
      Next ⟨w, some (c, result)⟩ (w.fire c result)

/-- One move after the other. -/
def Reaches : Moment → Moment → Prop :=
  Relation.ReflTransGen Next

/-- The workbench after the steps. -/
def after (w : Workbench) (steps : List Step) : Workbench :=
  steps.foldl (fun w step => (w.perform step).2) w

section

variable {w : Workbench} {m : Moment} {c : Chain} {entries : List (String × Chain)} {name : String}

/-! ## Fallbacks that can be started -/

/-- What is found under a name stands between two parts, and the rest is the rest of them. -/
theorem exists_parts_of_lookup (h : entries.lookup name = some c) :
    ∃ earlier later, entries = earlier ++ (name, c) :: later ∧
      remove entries name = remove earlier name ++ remove later name := by
  rcases List.lookup_eq_some_iff.1 h with ⟨earlier, later, rfl, -⟩
  exact ⟨earlier, later, rfl, by simp [remove]⟩

theorem fallbacksOf_append (entries more : List (String × Chain)) :
    fallbacksOf (entries ++ more) = fallbacksOf entries + fallbacksOf more := by
  induction entries with
  | nil => exact (Nat.zero_add _).symm
  | cons entry rest ih => rw [List.cons_append, fallbacksOf, fallbacksOf, ih, Nat.add_assoc]

theorem fallbacksOf_remove (entries : List (String × Chain)) (name : String) :
    fallbacksOf (remove entries name) ≤ fallbacksOf entries := by
  induction entries with
  | nil => exact Nat.le_refl _
  | cons entry rest ih =>
      unfold remove at ih ⊢
      rw [List.filter_cons, fallbacksOf]
      split
      · rw [fallbacksOf]
        omega
      · omega

/-- What is found under a name is not among the rest. -/
theorem fallbacksOf_lookup (h : entries.lookup name = some c) :
    c.fallbacks + fallbacksOf (remove entries name) ≤ fallbacksOf entries := by
  rcases exists_parts_of_lookup h with ⟨earlier, later, rfl, hrest⟩
  have hearlier := fallbacksOf_remove earlier name
  have hlater := fallbacksOf_remove later name
  rw [hrest, fallbacksOf_append, fallbacksOf_append, fallbacksOf]
  omega

/-- A chain begins to wait, and no more fallbacks are added than it has. -/
theorem fallbacks_park (w : Workbench) (name : String) (c : Chain) :
    (w.park name c).fallbacks ≤ c.fallbacks + fallbacksOf w.parked := by
  unfold park Moment.fallbacks
  cases hearlier : w.parked.lookup name with
  | none =>
      have hrest := fallbacksOf_remove w.parked name
      simp only [Option.map_none, fallbacksOf]
      omega
  | some earlier =>
      have hrest := fallbacksOf_lookup hearlier
      simp only [Option.map_some, dropped, fallbacksOf]
      omega

/-- A chain that is fired and leaves another one in hand has started a fallback. -/
theorem fallbacks_fireWith {bound : Nat} {result : Except Error String}
    (hbound : c.fallbacks ≤ bound) (hhand : (fireWith bound w c result).hand ≠ none) :
    (fireWith bound w c result).fallbacks < c.fallbacks + fallbacksOf w.parked := by
  induction c generalizing w bound result with
  | sink target =>
      rw [fireWith, Completion.fire] at hhand
      exact absurd rfl hhand
  | finalizer action done ih =>
      rw [fireWith_finalizer] at hhand ⊢
      exact ih hbound hhand
  | resume e done ih =>
      rw [fireWith_resume] at hhand ⊢
      exact ih hbound hhand
  | fallback secondary done ih =>
      rw [Completion.fallbacks] at hbound ⊢
      cases result with
      | ok value =>
          rw [fireWith_fallback_ok] at hhand ⊢
          have hless := ih (Nat.le_of_succ_le hbound) hhand
          omega
      | error e =>
          rcases Nat.exists_eq_add_of_le' hbound with ⟨rest, rfl⟩
          rw [← Nat.add_assoc, fireWith_fallback_error] at hhand ⊢
          rcases secondary with ⟨name, behaviour⟩
          cases behaviour with
          | park =>
              have hpark := fallbacks_park (w.record (.secondary name)) name (.resume e done)
              exact Nat.lt_of_le_of_lt hpark (by simp only [Completion.fallbacks, record]; omega)
          | _ =>
              -- The operation ends at once, and a shorter chain goes on.
              have hless := ih (Nat.le_add_left _ _) hhand
              simp only [record] at hless ⊢
              omega

theorem Moment.fallbacks_fired {entry : Chain × Except Error String} (h : m.hand = some entry)
    (hhand : m.fired.hand ≠ none) : m.fired.fallbacks < m.fallbacks := by
  rcases m with ⟨w, hand⟩
  cases h
  have hless := fallbacks_fireWith (Nat.le_refl entry.1.fallbacks) hhand
  exact hless

/-! ## Steps as paths -/

theorem Moment.next_fired {entry : Chain × Except Error String} (h : m.hand = some entry) :
    Next m m.fired := by
  rcases m with ⟨w, hand⟩
  cases h
  exact .fire w entry.1 entry.2

/-- Nothing is in hand, and nothing is done. -/
theorem reaches_settleWith_of_none (h : m.hand = none) (bound : Nat) :
    Reaches m { bench := m.settleWith bound } := by
  induction bound with
  | zero =>
      rcases m with ⟨w, hand⟩
      cases h
      exact .refl
  | succ bound ih =>
      have hfired : m.fired = m := by simp [Moment.fired, h]
      rw [Moment.settleWith, hfired]
      exact ih

/-- The bound is not met before nothing is in hand. -/
theorem reaches_settleWith {bound : Nat} (hbound : m.fallbacks < bound) :
    Reaches m { bench := m.settleWith bound } := by
  -- Every firing takes one from the bound, and at least one from the fallbacks.
  induction bound generalizing m with
  | zero => exact absurd hbound (Nat.not_lt_zero _)
  | succ bound ih =>
      cases hhand : m.hand with
      | none => exact reaches_settleWith_of_none hhand _
      | some entry =>
          refine .head (Moment.next_fired hhand) ?_
          change Reaches m.fired { bench := m.fired.settleWith bound }
          by_cases hnext : m.fired.hand = none
          · exact reaches_settleWith_of_none hnext bound
          · have hless := Moment.fallbacks_fired hhand hnext
            exact ih (Nat.lt_of_lt_of_le hless (Nat.le_of_lt_succ hbound))

/-- In the end nothing is in hand. -/
theorem reaches_settled (m : Moment) : Reaches m { bench := m.settled } :=
  reaches_settleWith (Nat.lt_succ_self _)

theorem reaches_perform (w : Workbench) (step : Step) :
    Reaches { bench := w } { bench := (w.perform step).2 } :=
  .head (.step w step) (reaches_settled _)

theorem reaches_after (w : Workbench) (steps : List Step) :
    Reaches { bench := w } { bench := w.after steps } := by
  induction steps generalizing w with
  | nil => exact .refl
  | cons step rest ih => exact (reaches_perform w step).trans (ih _)

end

end ClientTransaction.Workbench
