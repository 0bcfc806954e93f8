import ClientTransaction.Proofs.Client.Calm

/-!
# Client.Wakes — who is woken, and when

Whoever polled a handle in vain is woken when its outcome arrives. Most changes wake nobody for a
given handle. At the end of a transaction, its connection is given back and its owner is notified
before anyone is woken, and this order can be read off the history at every moment.
-/

namespace ClientTransaction

namespace Client

/-- Nobody was woken for the handle in between. -/
def Silent (handle : Nat) (s s' : Client) : Prop :=
  ∃ events, s'.history = s.history ++ events ∧ ∀ e ∈ events, e.wake? handle = none

/-- In between, nothing was done to end the transaction after someone was woken for the handle. -/
def Orderly (tx handle : Nat) (s s' : Client) : Prop :=
  ∃ before after, s'.history = s.history ++ (before ++ after) ∧
    (∀ e ∈ before, e.wake? handle = none) ∧ ∀ e ∈ after, e.ending? tx = none

/-- Whenever someone has been woken for the handle, the transaction has been released and its owner
notified. -/
def EndsFirst (tx handle : Nat) (s : Client) : Prop :=
  ∀ events, events <+: s.history → events.filterMap (Event.wake? handle) ≠ [] →
    events.filterMap (Event.ending? tx) = [.released, .notified]

/-! ## Changes that wake nobody -/

namespace Silent

variable {handle : Nat} {s s₁ s₂ : Client}

theorem of_history (h : s₁.history = s.history) : Silent handle s s₁ :=
  ⟨[], by simp [h], by simp⟩

theorem refl (handle : Nat) (s : Client) : Silent handle s s :=
  of_history rfl

theorem trans (h : Silent handle s s₁) (h' : Silent handle s₁ s₂) : Silent handle s s₂ := by
  rcases h with ⟨events, heq, hnone⟩
  rcases h' with ⟨events', heq', hnone'⟩
  refine ⟨events ++ events', by rw [heq', heq, List.append_assoc], ?_⟩
  intro e he
  rcases List.mem_append.1 he with he | he
  · exact hnone e he
  · exact hnone' e he

theorem wakes (h : Silent handle s s₁) : s₁.wakes handle = s.wakes handle := by
  rcases h with ⟨events, heq, hnone⟩
  calc
    s₁.wakes handle = s.wakes handle ++ events.filterMap (Event.wake? handle) :=
      seen_eq_of_history heq
    _ = s.wakes handle ++ [] := by rw [List.filterMap_eq_nil_iff.2 hnone]
    _ = s.wakes handle := List.append_nil _

theorem record (s : Client) {e : Event} (h : e.wake? handle = none) :
    Silent handle s (s.record e) :=
  ⟨[e], rfl, by simpa using h⟩

theorem send (s : Client) (tx : Nat) (exchange : Exchange) (statement : String) (params : Params)
    (onRun onPull : Handler) :
    Silent handle s (s.send tx exchange statement params onRun onPull) :=
  ⟨_, (s.frame_send tx exchange statement params onRun onPull).2.2.2.2, by simp⟩

theorem release (s : Client) (tx : Nat) : Silent handle s (s.release tx) :=
  ⟨_, (s.frame_release tx).2.2.2.2, by simp⟩

/-- Another handle is resolved. -/
theorem resolve (s : Client) {place : Nat} (hp : place ≠ handle) (result : Except Error Payload) :
    Silent handle s (s.resolve place result) := by
  unfold Client.resolve
  split
  · exact refl handle s
  · dsimp only
    split
    · exact ⟨[_], rfl, by simpa using hp⟩
    · exact of_history rfl

/-- Nobody waits for a handle that has just been made. -/
theorem resolve_fresh (s : Client) {place : Nat} {name : Option String}
    (h : s.handles[place]? = some (.fresh name)) (result : Except Error Payload) :
    Silent handle s (s.resolve place result) := by
  unfold Client.resolve
  simp only [h]
  exact of_history rfl

/-- A calm change wakes only those who wait with a result. -/
theorem of_calm (h : s.Calm s₁) (hw : ¬ s.Awaited handle) : Silent handle s s₁ := by
  rcases h.history with ⟨asides, heq, hall⟩
  refine ⟨asides, heq, ?_⟩
  intro e he
  have haside := hall e he
  cases e with
  | wake place name =>
      -- Whoever is woken waits for another handle.
      have hne : place ≠ handle := fun hp => hw (hp ▸ haside)
      simpa using hne
  | _ => rfl

theorem start (s : Client) (r : Option Rollback) : Silent handle s (s.start r) := by
  cases r with
  | none => exact refl handle s
  | some r => exact (send s _ _ _ _ _ _).trans (record _ rfl)

theorem abandon (s : Client) (requests : List Request) (tx : Nat) :
    Silent handle s (s.abandon requests tx).1 := by
  unfold Client.abandon
  split
  · exact refl handle s
  · split
    · exact refl handle s
    · dsimp only
      split
      · exact (of_history rfl).trans (release _ _)
      · exact of_history rfl

theorem orderly (tx : Nat) (h : Silent handle s s₁) : Orderly tx handle s s₁ := by
  rcases h with ⟨events, heq, hnone⟩
  exact ⟨events, [], by simpa using heq, hnone, by simp⟩

theorem trans_orderly {tx : Nat} (h : Silent handle s s₁) (h' : Orderly tx handle s₁ s₂) :
    Orderly tx handle s s₂ := by
  rcases h with ⟨events, heq, hnone⟩
  rcases h' with ⟨before, after, heq', hbefore, hafter⟩
  refine ⟨events ++ before, after, by simp [heq', heq], ?_, hafter⟩
  intro e he
  rcases List.mem_append.1 he with he | he
  · exact hnone e he
  · exact hbefore e he

end Silent

/-- Whoever is woken does not end a transaction. -/
theorem orderly_resolve (s : Client) (tx place handle : Nat) (result : Except Error Payload) :
    Orderly tx handle s (s.resolve place result) := by
  unfold Client.resolve
  split
  · exact (Silent.refl handle s).orderly tx
  · dsimp only
    split
    · exact ⟨[], [_], rfl, by simp, by simp⟩
    · exact (Silent.of_history rfl).orderly tx

/-! ## The order at every moment -/

namespace EndsFirst

variable {tx handle : Nat} {s s' : Client}

/-- Nobody has been woken yet. -/
theorem of_wakes (h : s.wakes handle = []) : EndsFirst tx handle s := by
  intro events hpre hw
  have hnone : events.filterMap (Event.wake? handle) <+: s.wakes handle := hpre.filterMap _
  rw [h] at hnone
  exact absurd (List.prefix_nil.1 hnone) hw

/-- A transaction that has ended does not end again. -/
theorem ended_of_prefix (hends : s.endings tx = [] ∨ s.endings tx = [.released, .notified])
    {events : List Event} (hpre : events <+: s.history)
    (h : [.released, .notified] <+: events.filterMap (Event.ending? tx)) :
    events.filterMap (Event.ending? tx) = [.released, .notified] := by
  have hle : events.filterMap (Event.ending? tx) <+: s.endings tx := hpre.filterMap _
  rcases hends with hends | hends
  · rw [hends, List.prefix_nil] at hle
    rw [hle] at h
    simp at h
  · rw [hends] at hle
    exact (h.eq_of_length_le hle.length_le).symm

/-- Someone was woken before, so the transaction had ended before. -/
theorem of_woken (h : EndsFirst tx handle s)
    (hends : s'.endings tx = [] ∨ s'.endings tx = [.released, .notified]) {events : List Event}
    (hpre : events <+: s'.history) (hle : s.history <+: events) (hw : s.wakes handle ≠ []) :
    events.filterMap (Event.ending? tx) = [.released, .notified] := by
  have hended := h s.history (List.prefix_refl _) hw
  apply ended_of_prefix hends hpre
  rw [← hended]
  exact hle.filterMap _

theorem orderly (h : EndsFirst tx handle s) (ho : Orderly tx handle s s')
    (hends : s'.endings tx = [.released, .notified]) : EndsFirst tx handle s' := by
  rcases ho with ⟨before, after, heq, hbefore, hafter⟩
  intro events hpre hw
  -- The moment is either within the old history or beyond it.
  rcases List.prefix_or_prefix_of_prefix hpre ⟨before ++ after, heq.symm⟩ with hle | hle
  · exact h events hle hw
  · by_cases hwoken : s.wakes handle = []
    · -- Nobody was woken before, so the wake is in the last part, and all endings precede it.
      apply ended_of_prefix (Or.inr hends) hpre
      have hlong : s.history ++ before <+: events := by
        have hpre' : s.history ++ before <+: s'.history := ⟨after, by simp [heq]⟩
        rcases List.prefix_or_prefix_of_prefix hpre hpre' with hshort | hlong
        · -- Too short for anyone to be woken.
          exfalso
          have hwakes := hshort.filterMap (Event.wake? handle)
          have hnone : (s.history ++ before).filterMap (Event.wake? handle) = [] := by
            have hseen : s.history.filterMap (Event.wake? handle) = [] := hwoken
            rw [List.filterMap_append, hseen, List.filterMap_eq_nil_iff.2 hbefore]
            rfl
          rw [hnone, List.prefix_nil] at hwakes
          exact hw hwakes
        · exact hlong
      have hall : (s.history ++ before).filterMap (Event.ending? tx) = s'.endings tx := by
        have hnone : after.filterMap (Event.ending? tx) = [] := List.filterMap_eq_nil_iff.2 hafter
        calc
          (s.history ++ before).filterMap (Event.ending? tx)
              = (s.history ++ before).filterMap (Event.ending? tx) ++
                  after.filterMap (Event.ending? tx) := by rw [hnone, List.append_nil]
          _ = (s.history ++ (before ++ after)).filterMap (Event.ending? tx) := by
                rw [← List.filterMap_append, List.append_assoc]
          _ = s'.endings tx := by rw [← heq, endings, seen]
      rw [← hends, ← hall]
      exact hlong.filterMap _
    · exact h.of_woken (Or.inr hends) hpre hle hwoken

theorem silent (h : EndsFirst tx handle s) (hs : Silent handle s s')
    (hends : s'.endings tx = [] ∨ s'.endings tx = [.released, .notified]) :
    EndsFirst tx handle s' := by
  rcases hs with ⟨new, heq, hnone⟩
  intro events hpre hw
  rcases List.prefix_or_prefix_of_prefix hpre ⟨new, heq.symm⟩ with hle | hle
  · exact h events hle hw
  · -- Nothing new wakes anyone, so the wake is an old one.
    refine h.of_woken hends hpre hle fun hwoken => hw ?_
    have hwakes := hpre.filterMap (Event.wake? handle)
    have hseen : s.history.filterMap (Event.wake? handle) = [] := hwoken
    rw [heq, List.filterMap_append, hseen, List.filterMap_eq_nil_iff.2 hnone] at hwakes
    exact List.prefix_nil.1 hwakes

end EndsFirst

end Client

end ClientTransaction
