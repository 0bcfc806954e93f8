import ClientTransaction.Proofs.Nonblocking.Deferring
import ClientTransaction.Proofs.Scenario.ExactlyOnce

/-!
# Scenario.Stages — programs whose steps can wait for no reply

A program goes from stage to stage. If each of its steps may be made before a reply comes as well as
after, it makes no difference when replies come meanwhile: two runs of the program come to the same
once all replies have come.
-/

namespace ClientTransaction.Scenario

/-- The step lets replies come, or tells whether they are held back. -/
def Step.isDelivery : Step → Bool
  | .hold _ | .deliver _ => true
  | _ => false

/-- What holds of a client at some point of a program, whatever replies have come. -/
structure Stage (P : Client → Prop) : Prop where
  neat : ∀ {s : Client}, P s → s.Neat
  concurs : ∀ {s s' : Client}, P s → Client.Concurs s s' → P s'
  advance : ∀ {s : Client}, P s → P s.advance

section

variable {P Q : Client → Prop} {s s' : Client} {step : Step} {steps rest : List Step}

/-! ## Replies at one stage -/

namespace Stage

variable (hP : Stage P)

include hP

theorem drainUpTo (count : Nat) (h : P s) : P (Client.drainUpTo count s) := by
  induction count generalizing s with
  | zero => exact h
  | succ count ih =>
      rw [Client.drainUpTo_succ]
      exact ih (hP.advance h)

theorem settle (h : P s) : P s.settle := by
  unfold Client.settle
  split
  · exact h
  · exact hP.drainUpTo _ h

theorem deliverUpTo (count : Nat) (first : Option Error) (h : P s) :
    P (Client.deliverUpTo count first s).2 := by
  induction count generalizing first s with
  | zero => exact h
  | succ count ih =>
      cases hq : s.connection.queue with
      | nil => simpa [Client.deliverUpTo, Client.next?, hq] using h
      | cons r rest =>
          have hadvance := hP.advance h
          rw [Client.advance_cons hq] at hadvance
          rw [Client.deliverUpTo, Client.next?_cons hq]
          apply ih
          rcases Client.follow_cases ((s.updateConnection fun c => { c with queue := rest }).answer
            rest r) with hfollow | hfollow
          · exact hfollow ▸ hadvance
          · exact hfollow ▸ hP.settle hadvance

/-- Deliveries stay at the stage, and come to the same. -/
theorem delivery (h : P s) (hd : step.isDelivery = true) :
    P (perform .nonblocking s step).2 ∧
      Client.Concurs (perform .nonblocking s step).2.drain s.drain := by
  cases step with
  | hold on =>
      have hsame := Client.Concurs.hold s on
      have hstage := hP.concurs h hsame.symm
      exact ⟨hstage, hsame.drain (hP.neat hstage)⟩
  | deliver limit =>
      refine ⟨hP.deliverUpTo _ none h, ?_⟩
      have hdrain := s.drain_deliver limit
      exact hdrain ▸ .refl _
  | _ => cases hd

end Stage

/-! ## Steps from stage to stage -/

/-- The step has this effect, before replies come, and leads to the next stage. It makes no
difference whether the next reply comes before the effect or after it. -/
structure Deferrable (P Q : Client → Prop) (step : Step) (effect : Client → Client) : Prop where
  perform : ∀ {s : Client}, P s → (perform .nonblocking s step).2 = effect s ∨
    (Scenario.perform .nonblocking s step).2 = (effect s).settle
  leads : ∀ {s : Client}, P s → Q (effect s)
  congr : ∀ {s s' : Client}, P s → Client.Concurs s s' → Client.Concurs (effect s) (effect s')
  advance : ∀ {s : Client} {r : Request} {rest : List Request}, P s →
    s.connection.queue = r :: rest → Client.Concurs (effect s).advance (effect s.advance)

namespace Deferrable

variable {effect : Client → Client} (hd : Deferrable P Q step effect)

include hd

theorem stage (hQ : Stage Q) (h : P s) : Q (Scenario.perform .nonblocking s step).2 := by
  rcases hd.perform h with heq | heq <;> rw [heq]
  · exact hd.leads h
  · exact hQ.settle (hd.leads h)

variable (hP : Stage P) (hQ : Stage Q)

include hP hQ

/-- Some replies may come first. -/
theorem drainUpTo (count : Nat) (h : P s) :
    Client.Concurs (effect s).drain (effect (Client.drainUpTo count s)).drain := by
  induction count generalizing s with
  | zero => exact .refl _
  | succ count ih =>
      rw [Client.drainUpTo_succ]
      cases hq : s.connection.queue with
      | nil =>
          rw [Client.advance_of_empty hq]
          exact ih h
      | cons r rest =>
          have hadvance := hP.advance h
          have hneat := (hQ.neat (hd.leads h)).advance
          have hsame := (hd.advance h hq).drain hneat
          rw [Client.drain_advance] at hsame
          calc
            Client.Concurs (effect s).drain (effect s.advance).drain := hsame
            Client.Concurs _ (effect (Client.drainUpTo count s.advance)).drain := ih hadvance

/-- All replies that are due may come first. -/
theorem drain (h : P s) :
    Client.Concurs (Scenario.perform .nonblocking s step).2.drain (effect s.drain).drain := by
  have heffect : (Scenario.perform .nonblocking s step).2.drain = (effect s).drain := by
    rcases hd.perform h with heq | heq <;> rw [heq]
    exact Client.drain_settle _
  rw [heffect]
  exact hd.drainUpTo hP hQ s.connection.load h

/-- Clients that come to the same do so after the step too. -/
theorem meets (h : P s) (h' : P s') (hm : Client.Concurs s.drain s'.drain) :
    Client.Concurs (Scenario.perform .nonblocking s step).2.drain
      (Scenario.perform .nonblocking s' step).2.drain := by
  have hdrained : P s.drain := hP.drainUpTo _ h
  have hsame := (hd.congr hdrained hm).drain (hQ.neat (hd.leads hdrained))
  -- Either client may as well have all its replies before the step.
  calc
    Client.Concurs (Scenario.perform .nonblocking s step).2.drain (effect s.drain).drain :=
      hd.drain hP hQ h
    Client.Concurs _ (effect s'.drain).drain := hsame
    Client.Concurs _ (Scenario.perform .nonblocking s' step).2.drain := (hd.drain hP hQ h').symm

end Deferrable

/-! ## Programs -/

/-- Every step leads from one stage to the next. -/
inductive Plan : (Client → Prop) → List Step → Prop
  | done {P : Client → Prop} (hP : Stage P) : Plan P []
  | step {P Q : Client → Prop} {step : Step} {rest : List Step} {effect : Client → Client}
      (hP : Stage P) (hd : Deferrable P Q step effect) (hrest : Plan Q rest) :
      Plan P (step :: rest)

theorem Plan.stage (h : Plan P rest) : Stage P := by
  cases h with
  | done hP => exact hP
  | step hP => exact hP

/-- A run with deliveries comes to the same as one without. -/
theorem Plan.meets (hplan : Plan P rest)
    (hsteps : (steps.filter fun step => !step.isDelivery) = rest) (h : P s) (h' : P s')
    (hm : Client.Concurs s.drain s'.drain) :
    Client.Concurs (after .nonblocking s steps).drain (after .nonblocking s' rest).drain := by
  -- By induction on the steps; a delivery leaves the program where it is.
  induction steps generalizing P rest s s' with
  | nil =>
      subst hsteps
      exact hm
  | cons step later ih =>
      cases hd : step.isDelivery with
      | true =>
          rcases hplan.stage.delivery h hd with ⟨hstage, hsame⟩
          exact ih hplan (by simpa [hd] using hsteps) hstage h' (hsame.trans hm)
      | false =>
          rw [List.filter_cons_of_pos (by simp [hd])] at hsteps
          subst hsteps
          cases hplan with
          | step hP hstep hrest =>
              have hQ := hrest.stage
              have hmeets := hstep.meets hP hQ h h' hm
              show Client.Concurs (after .nonblocking (perform .nonblocking s step).2 later).drain
                (after .nonblocking (perform .nonblocking s' step).2
                  (later.filter fun step => !step.isDelivery)).drain
              exact ih hrest rfl (hstep.stage hQ h) (hstep.stage hQ h') hmeets

end

end ClientTransaction.Scenario
