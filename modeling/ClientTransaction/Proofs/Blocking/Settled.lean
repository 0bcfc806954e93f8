import ClientTransaction.Proofs.Blocking.Closing
import ClientTransaction.Proofs.Blocking.Turns

/-!
# Blocking.Settled — between two calls that wait

A caller that waits finds every transaction either untouched or ended: a claim is made and settled
within one call. This holds at the start and is kept by every step, so it holds after every run.
-/

namespace ClientTransaction

namespace Blocking

/-- A transaction is not there yet, or is live, or has ended; a claim that is not settled is none of
these. -/
inductive Stands : Option Footing → List Ending → Prop
  | unborn : Stands none []
  | live : Stands (some ⟨false, none⟩) []
  | ended (final : State) : Stands (some ⟨true, some final⟩) [.released, .notified]

namespace Stands

variable {f : Footing} {endings : List Ending}

theorem eq_nil_of_none (h : Stands none endings) : endings = [] := by
  cases h
  rfl

theorem of_unclaimed (h : Stands (some f) endings) (hc : f.claimed = false) :
    f.final? = none ∧ endings = [] := by
  cases h with
  | live => exact ⟨rfl, rfl⟩
  | ended final => simp at hc

theorem of_open (h : Stands (some f) endings) (ho : f.final? = none) : f.claimed = false := by
  cases h with
  | live => rfl
  | ended final => simp at ho

end Stands

structure Settled (s : Client) : Prop where
  stands : ∀ tx, Stands (s.footing? tx) (s.endings tx)
  passive : s.connection.Passive
  /-- A caller that waits gets no handles. -/
  handles : s.handles = []

theorem settled_start : Settled {} :=
  ⟨fun _ => .unborn, by simp [Connection.Passive], rfl⟩

namespace Settled

variable {s s' : Client} {tx : Nat}

theorem made {events : List Event} (h : Settled s) (hm : Made tx events s s') : Settled s' where
  stands := by
    intro place
    rw [hm.footing, hm.endings]
    exact h.stands place
  passive := hm.passive
  handles := by simpa [h.handles] using hm.handles

theorem calm (h : Settled s) (hc : s.Calm s') : Settled s' :=
  h.made (.of_calm 0 h.passive hc)

theorem ran {calls : List Event} {sent : Sent} (h : Settled s) (hr : Ran tx calls s sent) :
    Settled sent.2 := by
  rcases made_of_ran hr with ⟨events, hm⟩
  exact h.made hm

theorem markFailed (h : Settled s) (tx : Nat) :
    Settled (s.updateTransaction tx Transaction.markFailed) :=
  h.calm (.mark s tx Transaction.footing_markFailed fun _ => rfl)

/-- An open transaction has not been claimed. -/
theorem unclaimed {t : Transaction} (h : Settled s) (ht : s.transactions[tx]? = some t)
    (ho : t.isOpen = true) : t.closing = false := by
  have hs := h.stands tx
  rw [footing?_of_getElem? ht] at hs
  exact hs.of_open (t.isOpen_iff_footing.1 ho)

/-- A transaction that has not been claimed is open, and nothing of its end has been seen. -/
theorem live {t : Transaction} (h : Settled s) (ht : s.transactions[tx]? = some t)
    (hc : t.closing = false) : t.isOpen = true ∧ s.endings tx = [] := by
  have hs := h.stands tx
  rw [footing?_of_getElem? ht] at hs
  rw [t.isOpen_iff_footing]
  exact hs.of_unclaimed hc

theorem closed {final : State} {events : List Event} (h : Settled s) (hnone : s.endings tx = [])
    (hc : Closed tx final events s s') : Settled s' where
  stands := by
    intro place
    rw [hc.footing, hc.endings]
    by_cases hp : place = tx
    · subst hp
      simpa [hnone] using Stands.ended final
    · simpa [hp] using h.stands place
  passive := hc.passive
  handles := by simpa [h.handles] using hc.handles

/-- Closing settles the claim that it makes. -/
theorem close (h : Settled s) (tx : Nat) : Settled (close s tx).2 := by
  cases ht : s.transactions[tx]? with
  | none => simpa only [close_of_unborn ht] using h
  | some t =>
      cases hc : t.closing with
      | true => simpa only [close_of_claimed ht hc] using h
      | false =>
          -- Nothing of its end has been seen yet, so what closing adds is all of it.
          rcases h.live ht hc with ⟨ho, hnone⟩
          rcases closing_close h.passive ht hc ho with ⟨final, events, -, hclosed⟩
          exact h.closed hnone hclosed

end Settled

/-! ## Beginning -/

/-- A new transaction is live. -/
theorem settled_addTransaction {s : Client} (h : Settled s) {t : Transaction}
    (ht : t.footing = ⟨false, none⟩) : Settled (s.addTransaction t) := by
  refine ⟨?_, h.passive, h.handles⟩
  intro place
  have hs := h.stands place
  have hendings : (s.addTransaction t).endings place = s.endings place := rfl
  rw [hendings]
  unfold Client.footing? at hs ⊢
  -- Before the new place nothing changes, and beyond it there is still nothing.
  rcases Nat.lt_trichotomy place s.transactions.length with hlt | heq | hgt
  · simpa [Client.addTransaction, List.getElem?_append_left hlt] using hs
  · subst heq
    have hnone : s.endings s.transactions.length = [] := by
      rw [List.getElem?_eq_none (Nat.le_refl _)] at hs
      exact hs.eq_nil_of_none
    simpa [Client.addTransaction, hnone, ht] using Stands.live
  · have hge : s.transactions.length + 1 ≤ place := hgt
    simpa [Client.addTransaction, List.getElem?_eq_none, hge, Nat.le_of_lt hgt] using hs

/-- A live transaction that is marked as failed is closed without a call. -/
theorem closed_of_failed {s s₁ : Client} {tx : Nat} (h : Settled s)
    (hlive : s.footing? tx = some ⟨false, none⟩) {events : List Event} (hm : Made tx events s s₁) :
    Closed tx .rolledBack [] (s₁.updateTransaction tx Transaction.markFailed)
      (close (s₁.updateTransaction tx Transaction.markFailed) tx).2 := by
  have hfoot := (hm.footing tx).trans hlive
  have hmarked : Settled (s₁.updateTransaction tx Transaction.markFailed) :=
    (h.made hm).markFailed tx
  rcases Option.map_eq_some_iff.1 hfoot with ⟨t, ht, hf⟩
  have ho : t.isOpen = true := t.isOpen_iff_footing.2 (congrArg Footing.final? hf)
  -- The mark tells closing that there is nothing to send.
  have hstate : t.markFailed.state = .failed := by
    have hterminal : t.state.isTerminal = false := by
      simpa [Transaction.isOpen, State.isOpen] using ho
    simp [Transaction.markFailed, State.markFailed, hterminal]
  have ht' : (s₁.updateTransaction tx Transaction.markFailed).transactions[tx]? =
      some t.markFailed := by
    simp [ht]
  have hc : t.markFailed.closing = false := congrArg Footing.claimed hf
  rcases closing_close hmarked.passive ht' hc (hmarked.live ht' hc).1 with
    ⟨final, events', hclosing, hclosed⟩
  rw [hstate] at hclosing
  rwa [hclosing.final_of_failed, hclosing.events_of_failed] at hclosed

/-- If BEGIN cannot be sent, or its reply is a failure, the transaction is rolled back. -/
theorem rolledBack_of_failed {s s₁ : Client} {tx : Nat} (h : Settled s)
    (hlive : s.footing? tx = some ⟨false, none⟩) {events : List Event} (hm : Made tx events s s₁) :
    (close (s₁.updateTransaction tx Transaction.markFailed) tx).2.footing? tx =
      some ⟨true, some .rolledBack⟩ := by
  have hplace := (closed_of_failed h hlive hm).footing tx
  rwa [if_pos rfl] at hplace

/-- Beginning either leaves a live transaction or has ended it before the error is answered. -/
theorem settled_begin {s : Client} (h : Settled s) (title : String) (reported : Bool)
    (config : Config) :
    Settled (begin s title reported config).2 ∧
      ((begin s title reported config).1 ≠ none →
        (begin s title reported config).2.footing? s.transactions.length =
          some ⟨true, some .rolledBack⟩) := by
  have hadd : Settled (s.addTransaction { title := title, reported := reported }) :=
    settled_addTransaction h rfl
  have hlive : (s.addTransaction { title := title, reported := reported }).footing?
      s.transactions.length = some ⟨false, none⟩ := by
    simp [Client.footing?, Client.addTransaction]
    rfl
  rcases begin_cases h.passive title reported config with
    ⟨s₁, events, hmade, ⟨hnone, hheld⟩ | hclosed⟩
  · refine ⟨?_, fun hne => absurd hnone hne⟩
    rw [hheld]
    refine ⟨?_, hmade.passive, (hadd.made hmade).handles⟩
    intro place
    rw [Client.footing?_updateTransaction_of_eq _ (Transaction.footing_hold title true)]
    exact (hadd.made hmade).stands place
  · -- The calls have stopped short, and what was begun is closed.
    rw [hclosed]
    exact ⟨((hadd.made hmade).markFailed _).close _,
      fun _ => rolledBack_of_failed hadd hlive hmade⟩

/-! ## Turns and runs -/

/-- Whatever a step comes to, it leaves no claim open. -/
theorem Settled.turn {s s' : Client} {asked : Option Nat} (h : Settled s) (ht : Turn s asked s') :
    Settled s' := by
  cases ht with
  | calm hcalm => exact h.calm hcalm
  | connected f hf => exact ⟨h.stands, fun r hr => h.passive r (hf s.connection ▸ hr), h.handles⟩
  | delivered limit => exact h.made (made_deliver 0 limit h.passive)
  | dropped => exact h.made (made_dropQueue h.passive 0)
  | begun title reported config => exact (settled_begin h title reported config).1
  | ran place statement params name =>
      rcases made_runStatement h.passive place statement params name with ⟨events, hmade⟩
      exact h.made hmade
  | waited cursor =>
      rcases made_wait h.passive cursor with ⟨place, events, hmade⟩
      exact h.made hmade
  | closed hcalm _ place => exact (h.calm hcalm).close place

end Blocking

namespace Scenario

open Blocking (Settled)

theorem settled_perform {s : Client} (h : Settled s) (step : Step) :
    Settled (perform .blocking s step).2 :=
  h.turn (Blocking.turn_perform h.handles step)

theorem settled_after {s : Client} (h : Settled s) (steps : List Step) :
    Settled (after .blocking s steps) := by
  induction steps generalizing s with
  | nil => exact h
  | cons step rest ih => exact ih (settled_perform h step)

end Scenario

end ClientTransaction
