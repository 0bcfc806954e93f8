import ClientTransaction.Transaction

/-!
# Transaction.Growth — a state only climbs

The open states are ordered by how much is known against a commit, and the terminal states stand
above them. Every transition leaves a state where it is or moves it up, so a terminal state stays.
A transaction grows when its state climbs, its claim is not given back, and its names stay.
-/

namespace ClientTransaction

namespace State

/-- The height of a state; both terminal states are at the top. -/
def rank : State → Nat
  | .active => 0
  | .markedSuccess => 1
  | .markedFailed => 2
  | .failed => 3
  | .committed | .rolledBack => 4

/-- A state is kept or replaced by a higher one. -/
def Climbs (s s' : State) : Prop :=
  s' = s ∨ s.rank < s'.rank

namespace Climbs

theorem refl (s : State) : s.Climbs s :=
  Or.inl rfl

theorem trans {s₁ s₂ s₃ : State} (h₁ : s₁.Climbs s₂) (h₂ : s₂.Climbs s₃) : s₁.Climbs s₃ := by
  rcases h₁ with rfl | h₁
  · exact h₂
  · rcases h₂ with rfl | h₂
    · exact Or.inr h₁
    · exact Or.inr (Nat.lt_trans h₁ h₂)

/-- Nothing is above a terminal state. -/
theorem eq_of_isTerminal {s s' : State} (h : s.Climbs s') (hs : s.isTerminal = true) : s' = s := by
  rcases h with h | h
  · exact h
  · cases s <;> cases s' <;> simp [isTerminal, rank] at hs h

end Climbs

theorem climbs_markSuccess (s : State) : s.Climbs s.markSuccess := by
  cases s <;> simp [Climbs, markSuccess, rank]

theorem climbs_markFailure (s : State) : s.Climbs s.markFailure := by
  cases s <;> simp [Climbs, markFailure, rank]

theorem climbs_markFailed (s : State) : s.Climbs s.markFailed := by
  cases s <;> simp [Climbs, markFailed, isTerminal, rank]

theorem climbs_finalize (s : State) {terminal : State} (h : terminal.isTerminal = true) :
    s.Climbs (s.finalize terminal) := by
  cases terminal <;> simp [isTerminal] at h <;>
    cases s <;> simp [Climbs, finalize, isTerminal, rank]

end State

namespace Transaction

structure Grows (t t' : Transaction) : Prop where
  title : t'.title = t.title
  reported : t'.reported = t.reported
  closing : t.closing = true → t'.closing = true
  state : t.state.Climbs t'.state

theorem Grows.refl (t : Transaction) : t.Grows t :=
  ⟨rfl, rfl, id, State.Climbs.refl _⟩

theorem Grows.trans {t₁ t₂ t₃ : Transaction} (h₁ : t₁.Grows t₂) (h₂ : t₂.Grows t₃) :
    t₁.Grows t₃ where
  title := h₂.title.trans h₁.title
  reported := h₂.reported.trans h₁.reported
  closing := by
    intro h
    exact h₂.closing (h₁.closing h)
  state := h₁.state.trans h₂.state

theorem grows_markSuccess (t : Transaction) : t.Grows t.markSuccess :=
  ⟨rfl, rfl, id, State.climbs_markSuccess _⟩

theorem grows_markFailure (t : Transaction) : t.Grows t.markFailure :=
  ⟨rfl, rfl, id, State.climbs_markFailure _⟩

theorem grows_markFailed (t : Transaction) : t.Grows t.markFailed :=
  ⟨rfl, rfl, id, State.climbs_markFailed _⟩

theorem grows_finalize (terminal : State) (h : terminal.isTerminal = true) (t : Transaction) :
    t.Grows (t.finalize terminal) :=
  ⟨rfl, rfl, id, State.climbs_finalize _ h⟩

theorem grows_claim (t : Transaction) : t.Grows t.claim :=
  ⟨rfl, rfl, fun _ => rfl, State.Climbs.refl _⟩

theorem grows_setBookmark (b : Bookmark) (t : Transaction) : t.Grows (t.setBookmark b) := by
  unfold setBookmark
  split
  · exact Grows.refl t
  · exact ⟨rfl, rfl, id, State.Climbs.refl _⟩

theorem grows_resultFailed (e : Error) (t : Transaction) : t.Grows (t.resultFailed e) := by
  unfold resultFailed
  split
  · exact grows_markFailure t
  · exact grows_markFailed t

theorem grows_hold (name : String) (own : Bool) (t : Transaction) : t.Grows (t.hold name own) :=
  ⟨rfl, rfl, id, State.Climbs.refl _⟩

theorem grows_letGo (name : String) (t : Transaction) : t.Grows (t.letGo name) :=
  ⟨rfl, rfl, id, State.Climbs.refl _⟩

/-! ## Transactions that are over for the server -/

/-- The server has given the transaction up, or it has ended. -/
def IsSpent (t : Transaction) : Prop :=
  t.state = .failed ∨ t.state.isTerminal = true

/-- What is over stays so. -/
theorem Grows.isSpent {t t' : Transaction} (h : t.Grows t') (hs : t.IsSpent) : t'.IsSpent := by
  have hclimbs := h.state
  unfold IsSpent at *
  rcases hs with hs | hs
  · rw [hs] at hclimbs
    cases ht : t'.state <;> simp_all [State.Climbs, State.rank, State.isTerminal]
  · exact Or.inr (by rw [hclimbs.eq_of_isTerminal hs, hs])

/-- No statement is accepted any more. -/
theorem IsSpent.refused {t : Transaction} (h : t.IsSpent) : t.refusal? ≠ none := by
  unfold refusal?
  split
  · simp
  · unfold IsSpent at h
    cases ht : t.state <;> simp_all [State.isTerminal]

theorem IsSpent.failed {t : Transaction} (h : t.IsSpent) (ho : t.isOpen = true) :
    t.state = .failed := by
  refine h.resolve_right fun hterminal => ?_
  simp [isOpen, State.isOpen, hterminal] at ho

end Transaction

end ClientTransaction
