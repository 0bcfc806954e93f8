import ClientTransaction.Proofs.Client.Alike
import ClientTransaction.Proofs.Nonblocking.Abandoned
import ClientTransaction.Proofs.Nonblocking.Grammar

/-!
# Nonblocking.Silenced — what is still sent for a transaction that was given up

For a transaction that the server has given up no statement is accepted, and whoever ends it or lets
it go sends nothing. One thing is left: a COMMIT that was under way by then may be lost, and if a
close had sent it, it is followed by a ROLLBACK all the same.
-/

namespace ClientTransaction

/-- The RUNs and PULL_ALLs that were sent for a transaction. -/
def Client.sentFor (s : Client) (tx : Nat) : List Event :=
  (s.calls tx).filterMap Event.request?

/-- The requests of a ROLLBACK. -/
def rollbackRequests (tx : Nat) : List Event :=
  [.run tx .rollback Message.rollback [], .pullAll tx .rollback]

/-- A COMMIT that is followed by a ROLLBACK if it is lost. -/
def Request.fallsBack (r : Request) : Bool :=
  match r.handler with
  | .committed (.fallback .rollback _) => true
  | _ => false

/-- Such a COMMIT is under way for the transaction. -/
def Client.mayFallBack (s : Client) (tx : Nat) : Bool :=
  s.connection.queue.any fun r => r.owner == tx && r.fallsBack

def Outcome.isLoss : Outcome → Bool
  | .success _ => false
  | _ => true

namespace Nonblocking

open Scenario (Step after perform transaction? beginConfig)

/-! ## Requests -/

section

variable {tx : Nat} {s s' : Client}

/-- The requests that go with a RUN. -/
def requestsOf (e : Event) : List Event :=
  e.calls.filterMap Event.request?

/-- The requests of a transaction are those of its statements, and then of its end. -/
theorem sentFor_eq (hw : Whole s) (ho : Ordered tx s) (hc : Closes tx s) :
    s.sentFor tx = (s.seen (Event.opening? tx)).flatMap requestsOf ++
      (s.terminalExchanges tx).flatMap fun exchange =>
        requestsOf (Event.close tx (some exchange)) := by
  have hwire : s.sentFor tx = (s.wire tx).filterMap Event.request? := by
    unfold Client.sentFor Client.calls Client.wire Client.seen
    rw [List.filterMap_filterMap, List.filterMap_filterMap]
    refine List.filterMap_congr fun e _ => ?_
    cases e with
    | release owner => by_cases ho : owner = tx <;> simp [Event.wire?, ho]
    | _ => rfl
  have hrelease : requestsOf (Event.close tx none) = [] := rfl
  calc
    s.sentFor tx = (s.seen (Event.stroke? tx)).flatMap requestsOf := by
      rw [hwire, hw.wire, List.filterMap_flatMap]
      rfl
    _ = (s.seen (Event.opening? tx)).flatMap requestsOf ++
        ((s.seen (Event.closing? tx)).map (Event.close tx)).flatMap requestsOf := by
      rw [ho, List.flatMap_append]
    _ = _ := by
      rw [hc]
      split <;> simp [List.flatMap_map, hrelease]

/-- If no statement is added, only the exchanges of the end can be. -/
theorem sentFor_append (steps later : List Step)
    (hopenings : startsFor tx (after .nonblocking {} steps) later = [])
    {exchanges : List Exchange}
    (hexchanges : (after .nonblocking (after .nonblocking {} steps) later).terminalExchanges tx =
      (after .nonblocking {} steps).terminalExchanges tx ++ exchanges) :
    (after .nonblocking (after .nonblocking {} steps) later).sentFor tx =
      (after .nonblocking {} steps).sentFor tx ++
        exchanges.flatMap fun exchange => requestsOf (Event.close tx (some exchange)) := by
  have hboth := Scenario.after_append .nonblocking {} steps later
  have hlater := sentFor_eq (whole_after (steps ++ later)) (ordered_after (steps ++ later) tx)
    (closes_after (steps ++ later) tx)
  rw [hboth, openings_after, hopenings, hexchanges, List.map_nil, List.append_nil,
    List.flatMap_append] at hlater
  rw [hlater, sentFor_eq (whole_after steps) (ordered_after steps tx) (closes_after steps tx),
    List.append_assoc]

end

/-! ## Phases -/

namespace Phase

/-- COMMIT is to be answered, and a ROLLBACK follows if it is lost. -/
def fallsBack : Phase → Bool
  | .committing fallback _ => fallback
  | _ => false

/-- What may become of a transaction that the server has given up. -/
inductive Leaves : Phase → Phase → Prop
  | same {p : Phase} (h : p.isHidden = false) : Leaves p p
  | finished (result : Except Error Unit) (l : Listener) :
      Leaves .running (.ended (.finished result l))
  | committed (fallback : Bool) (metadata : Params) (l : Listener) :
      Leaves (.committing fallback l) (.ended (.committed fallback metadata l))
  | lost (loss : Loss) (l : Listener) :
      Leaves (.committing false l) (.ended (.lost loss l))
  | fallsBack (loss : Loss) (l : Listener) : Leaves (.committing true l) (.fallingBack loss l)
  | fellBack (loss : Loss) (answer : Outcome) (l : Listener) :
      Leaves (.committing true l) (.ended (.fellBack loss answer l))
  | endsBack (loss : Loss) (answer : Outcome) (l : Listener) :
      Leaves (.fallingBack loss l) (.ended (.fellBack loss answer l))
  | rolledBack (answer : Outcome) (l : Listener) :
      Leaves (.rollingBack l) (.ended (.rolledBack answer l))

variable {tx : Nat} {p p₁ p₂ : Phase} {effect : Option (Nat × Except Error Payload)}

/-- Once it is claimed, there is no other way. -/
theorem Leaves.passage (h : Leaves p p₁) (hne : p₁ ≠ .running) (hpass : Passage tx p₁ effect p₂) :
    Leaves p p₂ := by
  cases h with
  | same hh =>
      cases hpass with
      | stay => exact .same hh
      | born | starts | acknowledged | unwanted | unwantedFailed | refused =>
          simp [isHidden] at hh
      | claimed => exact absurd rfl hne
      | committed => exact .committed ..
      | lost => exact .lost ..
      | fallsBack => exact .fallsBack ..
      | fellBack => exact .endsBack ..
      | rolledBack => exact .rolledBack ..
  | fallsBack loss l =>
      cases hpass with
      | stay => exact .fallsBack loss l
      | fellBack _ answer => exact .fellBack loss answer l
  | finished => cases hpass; exact .finished ..
  | committed => cases hpass; exact .committed ..
  | lost => cases hpass; exact .lost ..
  | fellBack => cases hpass; exact .fellBack ..
  | endsBack => cases hpass; exact .endsBack ..
  | rolledBack => cases hpass; exact .rolledBack ..

/-- A ROLLBACK is sent exactly if a COMMIT that falls back is lost. -/
theorem Leaves.exchanges (h : Leaves p p₁) :
    p₁.account.exchanges =
      p.account.exchanges ++
        if p.fallsBack && p₁.account.commits.any Outcome.isLoss then [.rollback] else [] := by
  cases h with
  | @same p hh => cases p <;> simp [Phase.fallsBack, account]
  | fallsBack loss l | fellBack loss answer l =>
      cases loss <;>
        simp [Phase.fallsBack, account, Conclusion.exchanges, Conclusion.commits, Outcome.isLoss,
          Loss.outcome]
  | _ =>
      simp [Phase.fallsBack, account, Conclusion.exchanges, Conclusion.commits, Outcome.isLoss]

end Phase

section

variable {tx : Nat} {p p₁ : Phase} {s : Client} {σ σ' : Situation}

/-- The queue tells whether a COMMIT that falls back is under way. -/
theorem mayFallBack_eq (hp : Standing tx p (.of s)) : s.mayFallBack tx = p.fallsBack := by
  have hdue : due tx s.connection.queue = p.account.due := congrArg Account.due hp.account
  -- Of the requests that decide anything the phase knows all, and a COMMIT that falls back is one.
  rw [Bool.eq_iff_iff, Client.mayFallBack, List.any_eq_true]
  constructor
  · rintro ⟨r, hr, hfalls⟩
    simp only [Bool.and_eq_true, beq_iff_eq] at hfalls
    rcases hfalls with ⟨howner, hfalls⟩
    unfold Request.fallsBack at hfalls
    split at hfalls
    · rename_i done hhandler
      have hmem : (r.exchange, r.part, r.handler) ∈ p.account.due := by
        rw [← hdue]
        exact List.mem_filterMap.2 ⟨r, hr, by simp [role?, howner, decides, hhandler,
          Handler.ownsCompletion]⟩
      cases p with
      | committing fallback l =>
          cases fallback <;> simp [Phase.account, hhandler, commitChain, ending] at hmem
          rfl
      | _ => simp [Phase.account, hhandler] at hmem
    · simp at hfalls
  · intro hfalls
    cases p <;> simp [Phase.fallsBack] at hfalls
    rename_i fallback l
    subst hfalls
    have hmem : (Exchange.commit, Part.pullAll, Handler.committed (commitChain true l)) ∈
        due tx s.connection.queue := by
      rw [hdue]
      exact List.mem_singleton_self _
    rcases List.mem_filterMap.1 hmem with ⟨r, hr, hrole⟩
    simp only [role?, Option.ite_none_right_eq_some, Option.some.injEq, Prod.mk.injEq] at hrole
    exact ⟨r, hr, by simp [Request.fallsBack, hrole, commitChain]⟩

/-! ## Steps -/

/-- Whoever claims a transaction that was given up, or lets it go, ends it at once. -/
theorem exists_standing_of_act {t : Transaction} (ht : s.transactions[tx]? = some t)
    (hspent : t.IsSpent) (hp : Standing tx p (.of s)) (ha : Act s tx σ) :
    ∃ p₁, Standing tx p₁ σ ∧
      (p₁ = p ∨ p = .running ∧ ∃ result l, p₁ = .ended (.finished result l)) := by
  have hfailed : p = .running → t.state = .failed := by
    rintro rfl
    have hfoot : s.footing? tx = some ⟨false, none⟩ := congrArg Account.footing? hp.account
    have hf : t.footing = ⟨false, none⟩ := by simpa [Client.footing?, ht] using hfoot
    exact hspent.failed (t.isOpen_iff_footing.2 (congrArg Footing.final? hf))
  cases ha with
  | minds hm => exact ⟨p, hm.standing hp, Or.inl rfl⟩
  | begins => simp at ht
  | beginsAwaited => simp at ht
  | claims ht' hc hk name terminal =>
      cases ht.symm.trans ht'
      cases running_of_kept hp ht hc hk
      refine ⟨_, standing_taken hp name _, Or.inr ⟨rfl, ?_⟩⟩
      rw [hfailed rfl]
      cases terminal <;> exact ⟨_, _, rfl⟩
  | @letsGo _ s₁ hgo =>
      have hp₁ := hgo.standing hp
      unfold Situation.of at hp₁
      rw [hgo.connection] at hp₁
      rcases hgo.transaction t ht with ⟨holdings, ht₁⟩
      by_cases hrunning : p = .running
      · subst hrunning
        -- A request that holds the transaction keeps it from being abandoned.
        cases hheld : s₁.holdsTransaction s.connection.queue tx with
        | true =>
            have hsame := abandon_of_held ht₁ (Or.inr hheld)
            exact ⟨.running, by simpa [abandoned, hsame, Client.opening, Client.start] using hp₁,
              Or.inl rfl⟩
        | false =>
            have hgone := (abandon_running hp₁.account ht₁ hheld).2
            rw [Phase.forsaken, if_pos (hfailed rfl)] at hgone
            exact ⟨_, hgone, Or.inr ⟨rfl, _, _, rfl⟩⟩
      · have hsame := abandon_of_not_running hp₁ hrunning
        exact ⟨p, by simpa [abandoned, hsame, Client.opening, Client.start] using hp₁, Or.inl rfl⟩

/-- No reply takes a running transaction anywhere. -/
theorem running_of_delivery (hs : Sound σ) (hp : Standing tx .running σ) (hd : Delivery σ σ') :
    Standing tx .running σ' := by
  cases hd with
  | connect f => exact hp.untouched (.updateConnection tx _ f) rfl
  | flush place => exact hp.untouched (.record _ ⟨rfl, rfl, rfl, rfl⟩) rfl
  | answer before after r reply others _ =>
      have hnot : ¬ (r.owner = tx ∧ decides r = true) := by
        rintro ⟨howner, hdecides⟩
        have hnone : due tx (before ++ r :: after) = [] := congrArg Account.due hp.account
        simp [due, role?, howner, hdecides] at hnone
      rcases untouched_answer reply others hs.phases hnot with ⟨hu, hdue, -⟩
      exact hp.untouched hu hdue

theorem Phase.Leaves.deliveries (h : Leaves p p₁) (hs : Sound σ) (hp : Standing tx p₁ σ)
    (hd : Deliveries σ σ') : ∃ p₂, Standing tx p₂ σ' ∧ Leaves p p₂ := by
  induction hd with
  | refl => exact ⟨p₁, hp, h⟩
  | @tail σ₁ σ₂ hds hd ih =>
      rcases ih with ⟨p₂, hp₂, h₂⟩
      have hs₁ := hs.moves (Deliveries.moves hds)
      by_cases hrunning : p₂ = .running
      · subst hrunning
        exact ⟨.running, running_of_delivery hs₁ hp₂ hd, h₂⟩
      · rcases exists_turned hs₁.phases hd.move hp₂ with ⟨effect, p₃, hturned⟩
        exact ⟨p₃, hturned.standing, h₂.passage hrunning hturned.passage⟩

theorem Phase.Leaves.perform {t : Transaction} (h : Leaves p p₁) (hs : Sound (.of s))
    (ht : s.transactions[tx]? = some t) (hspent : t.IsSpent) (hp : Standing tx p₁ (.of s))
    (step : Step) : ∃ p₂, Standing tx p₂ (.of (perform .nonblocking s step).2) ∧ Leaves p p₂ := by
  rcases Scenario.acts_perform s step with ⟨σ, hmoves, hact, hdeliveries⟩
  rcases exists_standing_of_act ht hspent hp (hact tx) with ⟨p₂, hp₂, hsame | ⟨rfl, result, l, rfl⟩⟩
  · exact (hsame ▸ h : Leaves p p₂).deliveries (hs.moves hmoves) hp₂ hdeliveries
  · cases h
    exact (Leaves.finished result l).deliveries (hs.moves hmoves) hp₂ hdeliveries

end

/-! ## Runs -/

section

variable (before : List Step) {s : Client} (hs : after .nonblocking {} before = s) {tx : Nat}
  {t : Transaction} (ht : s.transactions[tx]? = some t)

include hs ht

/-- A transaction that was given up, or has ended, has been acknowledged before. -/
theorem not_hidden_of_spent (hspent : t.IsSpent) {p : Phase} (hp : Standing tx p (.of s)) :
    p.isHidden = false := by
  have hfoot : s.footing? tx = p.account.footing? := congrArg Account.footing? hp.account
  cases p with
  | unborn => simp [Client.footing?, ht, Phase.account] at hfoot
  | starting handle =>
      -- BEGIN is still to be answered, and the request for it holds a transaction that is active.
      have htended : Tended tx (.of s) := hs ▸ tended_after before tx
      have hmem : (Exchange.begin, Part.pullAll, Handler.begun handle) ∈
          due tx (Situation.of s).outstanding := by
        have hdue : due tx (Situation.of s).outstanding =
            (Phase.starting handle).account.due := congrArg Account.due hp.account
        rw [hdue]
        exact List.mem_singleton_self _
      rcases List.mem_filterMap.1 hmem with ⟨r, hr, hrole⟩
      simp only [role?, Option.ite_none_right_eq_some, Option.some.injEq, Prod.mk.injEq] at hrole
      have hactive := (htended.idle r hr (by simp [Request.holdsTransaction, hrole])).1 t ht
      simp [Transaction.IsSpent, hactive, State.isTerminal] at hspent
  | _ => rfl

theorem exists_leaves_after (hspent : t.IsSpent) {p : Phase} (hp : Standing tx p (.of s))
    (later : List Step) :
    ∃ p', Standing tx p' (.of (after .nonblocking s later)) ∧ Phase.Leaves p p' := by
  have hsound : Sound (.of s) := hs ▸ sound_after before
  -- The phase at the start stays what all is compared with, so the last step is split off.
  induction later using List.reverseRecOn with
  | nil => exact ⟨p, hp, .same (not_hidden_of_spent before hs ht hspent hp)⟩
  | append_singleton later step ih =>
      rcases ih with ⟨p₁, hp₁, h₁⟩
      rcases (Scenario.grows_after .nonblocking s later).transactions tx t ht with ⟨t', ht', hg⟩
      rw [Scenario.after_append]
      have hlater := hsound.moves (Scenario.leads_after s later)
      exact h₁.perform hlater ht' (hg.isSpent hspent) hp₁ step

omit hs in
/-- Nothing is started for a transaction that was given up. -/
theorem startsFor_of_spent (hspent : t.IsSpent) (later : List Step) :
    startsFor tx s later = [] := by
  induction later generalizing s t with
  | nil => rfl
  | cons step rest ih =>
      rcases (Scenario.grows_perform .nonblocking s step).transactions tx t ht with ⟨t', ht', hg⟩
      rw [startsFor, ih ht' (hg.isSpent hspent), List.append_nil,
        startedFor_eq (List.getElem?_eq_some_iff.1 ht).1]
      cases step with
      | run name statement params result =>
          cases hr : t.refusal? with
          | none => exact absurd hr hspent.refused
          | some e =>
              cases hname : transaction? s name with
              | none => simp [accepted?, Scenario.perform, Scenario.onTransaction, hname]
              | some place =>
                  by_cases hplace : place = tx
                  · subst hplace
                    simp [accepted?, Scenario.perform, Scenario.onTransaction, Scenario.run, hname,
                      ht, runStatement, hr, Scenario.Answer.ofFailure]
                  · simp only [accepted?, hname, Option.some.injEq, hplace, if_false]
                    split <;> rfl
      | _ => rfl

omit ht in
/-- Nothing but the ROLLBACK after a COMMIT that was lost is sent for a transaction that was given
up. -/
theorem sentFor_after (ht : s.transactions[tx]? = some t) (hspent : t.IsSpent) (later : List Step) :
    (after .nonblocking s later).sentFor tx =
      s.sentFor tx ++
        if s.mayFallBack tx && ((after .nonblocking s later).answers tx .commit).any Outcome.isLoss
        then rollbackRequests tx else [] := by
  have hsound : Sound (.of s) := hs ▸ sound_after before
  rcases hsound.phases tx with ⟨p, hp⟩
  rcases exists_leaves_after before hs ht hspent hp later with ⟨p', hp', hleaves⟩
  have hexchanges : (after .nonblocking s later).terminalExchanges tx =
      s.terminalExchanges tx ++
        if s.mayFallBack tx && ((after .nonblocking s later).answers tx .commit).any Outcome.isLoss
        then [.rollback] else [] := by
    have hbefore : s.terminalExchanges tx = p.account.exchanges :=
      congrArg Account.exchanges hp.account
    have hafter : (after .nonblocking s later).terminalExchanges tx = p'.account.exchanges :=
      congrArg Account.exchanges hp'.account
    have hanswers : (after .nonblocking s later).answers tx .commit = p'.account.commits :=
      congrArg Account.commits hp'.account
    rw [hbefore, hafter, hanswers, mayFallBack_eq hp]
    exact hleaves.exchanges
  subst hs
  rw [sentFor_append before later (startsFor_of_spent ht hspent later) hexchanges]
  split <;> rfl

end

end Nonblocking

end ClientTransaction
