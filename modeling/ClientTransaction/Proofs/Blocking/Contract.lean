import Mathlib.Data.List.Forall2
import ClientTransaction.Proofs.Blocking.Commit
import ClientTransaction.Proofs.Blocking.Deliveries

/-!
# Blocking.Contract — what closing promises

The calls of an exchange are made in turn, as long as none fails, so what they answer is a list that
stops at its first error. Which exchanges a close makes, how the transaction ends and what the close
answers follow from these lists, from the connection, and from the state at the claim. Replies that
come meanwhile may change the state, and it does not matter.
-/

namespace ClientTransaction

/-- The event notes that a call has failed. -/
def Event.isRefusal : Event → Bool
  | .refused _ => true
  | _ => false

/-- The calls on the connection that were tried for a transaction, whether they failed or not. -/
def Client.attempts (s : Client) (tx : Nat) : List Event :=
  (s.calls tx).filter fun e => !e.isRefusal

namespace Blocking

open Scenario

/-! ## Calls in turn -/

/-- Makes calls one after the other, as long as none fails: what they answer, and the client after
the last one that is made. -/
def inTurn : List (Client → Sent) → Client → List (Option Error) × Client
  | [], s => ([], s)
  | step :: rest, s =>
      match step s with
      | (some e, s) => ([some e], s)
      | (none, s) => (none :: (inTurn rest s).1, (inTurn rest s).2)

/-- The calls of an exchange that ends a transaction. -/
def exchangeSteps (tx : Nat) (exchange : Exchange) (statement : String) : List (Client → Sent) :=
  [run tx exchange statement [] .ignore, pullAll tx exchange .bookmark, sync tx]

def firstError (answers : List (Option Error)) : Option Error :=
  answers.findSome? id

theorem exists_error_iff (answers : List (Option Error)) :
    (∃ e, some e ∈ answers) ↔ firstError answers ≠ none := by
  simp [firstError, Option.ne_none_iff_exists', List.findSome?_eq_none_iff]

/-- What `count` calls answer that are made in turn: they succeed, or the last one that is made
fails. -/
def StopsAtFirst (count : Nat) (answers : List (Option Error)) : Prop :=
  answers = List.replicate count none ∨
    ∃ made < count, ∃ e, answers = List.replicate made none ++ [some e]

theorem stopsAtFirst_inTurn (steps : List (Client → Sent)) (s : Client) :
    StopsAtFirst steps.length (inTurn steps s).1 := by
  induction steps generalizing s with
  | nil => exact Or.inl rfl
  | cons step rest ih =>
      rcases hstep : step s with ⟨failure, s₁⟩
      cases failure with
      | some e => exact Or.inr ⟨0, by simp, e, by simp [inTurn, hstep]⟩
      | none =>
          rcases ih s₁ with hall | ⟨made, hlt, e, hstop⟩
          · exact Or.inl (by simp [inTurn, hstep, hall, List.replicate_succ])
          · refine Or.inr ⟨made + 1, by simpa using hlt, e, ?_⟩
            simp [inTurn, hstep, hstop, List.replicate_succ]

namespace StopsAtFirst

variable {count : Nat} {answers : List (Option Error)}

/-- The first error is the only one. -/
theorem firstError_eq_none_iff (h : StopsAtFirst count answers) :
    firstError answers = none ↔ answers = List.replicate count none := by
  rcases h with rfl | ⟨made, hlt, e, rfl⟩
  · simp [firstError]
  · constructor
    · intro hnone
      simp [firstError] at hnone
    · intro hall
      have hmem : some e ∈ List.replicate count (none : Option Error) := hall ▸ by simp
      simp at hmem

theorem ne_nil (h : StopsAtFirst (count + 1) answers) : answers ≠ [] := by
  rcases h with rfl | ⟨made, hlt, e, rfl⟩
  · simp
  · simp

end StopsAtFirst

/-- An exchange makes its calls in turn. It sets the terminal state if all of them succeed. -/
theorem finish_eq (tx : Nat) (exchange : Exchange) (statement : String) (terminal : State)
    (s : Client) :
    finish tx exchange statement terminal s =
      (firstError (inTurn (exchangeSteps tx exchange statement) s).1,
        if firstError (inTurn (exchangeSteps tx exchange statement) s).1 = none then
          (inTurn (exchangeSteps tx exchange statement) s).2.updateTransaction tx
            (Transaction.finalize terminal)
        else (inTurn (exchangeSteps tx exchange statement) s).2) := by
  unfold finish exchangeSteps
  rcases hrun : run tx exchange statement [] .ignore s with ⟨failure, s₁⟩
  cases failure with
  | some e => simp [inTurn, hrun, Sent.andThen, firstError]
  | none =>
      rcases hpull : pullAll tx exchange .bookmark s₁ with ⟨failure, s₂⟩
      cases failure with
      | some e => simp [inTurn, hrun, hpull, Sent.andThen, firstError]
      | none =>
          rcases hsync : sync tx s₂ with ⟨failure, s₃⟩
          cases failure with
          | some e => simp [inTurn, hrun, hpull, hsync, Sent.andThen, firstError]
          | none => simp [inTurn, hrun, hpull, hsync, Sent.andThen, firstError]

/-! ## Calls whose end is laid down -/

/-- Answers up to the first error. -/
def upToError : List (Option Error) → List (Option Error)
  | [] => []
  | none :: rest => none :: upToError rest
  | some e :: _ => [some e]

/-- The step makes one call, which ends as the next verdict says. -/
def Obeys (step : Client → Sent) : Prop :=
  ∀ (s : Client) (verdict : Verdict) (rest : List Verdict), s.connection.Passive →
    s.connection.verdicts = verdict :: rest →
      (step s).1 = verdict.failure ∧ (step s).2.connection.Passive ∧
        (step s).2.connection.verdicts = rest

theorem obeys_call (tx : Nat) (kind : Call) {event : Event} (h : event.call? tx = some event) :
    Obeys (call tx kind event) := by
  intro s verdict rest hp hv
  have hattempt : s.connection.attempt kind =
      (verdict, { s.connection with verdicts := rest }) := by
    simp [Connection.attempt, hv]
  rcases delivered_call tx kind event hp with ⟨hanswer, s₁, hdelivered, hcall⟩
  rw [hattempt] at hanswer hdelivered hcall
  have hverdicts : s₁.connection.verdicts = rest := congrArg Connection.verdicts hdelivered.connection
  refine ⟨hanswer, (made_call kind (isCall_of_own h) hp).passive, ?_⟩
  rw [hcall]
  split <;> exact hverdicts

/-- A request that is queued after the call does not matter for the calls to come. -/
theorem Obeys.push {step : Client → Sent} (h : Obeys step) {f : Connection → Connection}
    (hf : ∀ c : Connection, c.Passive → (f c).Passive)
    (hv : ∀ c : Connection, (f c).verdicts = c.verdicts) :
    Obeys fun s => (step s).andThen fun s => (none, s.updateConnection f) := by
  intro s verdict rest hp hverdicts
  rcases h s verdict rest hp hverdicts with ⟨hanswer, hpassive, hrest⟩
  rcases hs : step s with ⟨failure, s₁⟩
  rw [hs] at hanswer hpassive hrest
  dsimp only
  rw [hs]
  cases failure with
  | none => exact ⟨hanswer, hf _ hpassive, (hv _).trans hrest⟩
  | some e => exact ⟨hanswer, hpassive, hrest⟩

theorem obeys_exchange (tx : Nat) (exchange : Exchange) (statement : String) :
    ∀ step ∈ exchangeSteps tx exchange statement, Obeys step := by
  have hrun : Obeys (run tx exchange statement [] .ignore) :=
    (obeys_call tx .run (by simp)).push (f := fun c => c.run tx exchange statement .ignore)
      (fun c hp => passive_push hp rfl rfl) fun _ => rfl
  have hpull : Obeys (pullAll tx exchange .bookmark) :=
    (obeys_call tx .pullAll (by simp)).push (f := fun c => c.pullAll tx exchange .bookmark)
      (fun c hp => passive_push hp rfl rfl) fun _ => rfl
  have hsync : Obeys (sync tx) := by
    intro s verdict rest hp hv
    have hcall : sync tx s = call tx .sync (.sync tx) s := by simp [sync, hv]
    rw [hcall]
    exact obeys_call tx .sync (by simp) s verdict rest hp hv
  simp [exchangeSteps, hrun, hpull, hsync]

/-- Every way for the calls to end is met: what they answer is what was laid down for them, up to
the first error. -/
theorem inTurn_laidDown {steps : List (Client → Sent)} (h : ∀ step ∈ steps, Obeys step) {s : Client}
    (hp : s.connection.Passive) (hlen : steps.length ≤ s.connection.verdicts.length) :
    (inTurn steps s).1 =
      upToError ((s.connection.verdicts.take steps.length).map Verdict.failure) := by
  induction steps generalizing s with
  | nil => simp [inTurn, upToError]
  | cons step rest ih =>
      rcases hv : s.connection.verdicts with _ | ⟨verdict, verdicts⟩
      · simp [hv] at hlen
      · rcases h step (by simp) s verdict verdicts hp hv with ⟨hanswer, hpassive, hverdicts⟩
        rcases hs : step s with ⟨failure, s₁⟩
        rw [hs] at hanswer hpassive hverdicts
        have hfailure : verdict.failure = failure := hanswer.symm
        cases failure with
        | some e => simp [inTurn, hs, hfailure, upToError]
        | none =>
            have hlen' : rest.length ≤ s₁.connection.verdicts.length := by
              rw [hverdicts]
              simpa [hv] using hlen
            have hrest := ih (fun step' hmem => h step' (List.mem_cons_of_mem _ hmem)) hpassive hlen'
            rw [hverdicts] at hrest
            simp [inTurn, hs, hfailure, upToError, hrest]

/-- The exchange at the end of a transaction may go in every way that three calls can. -/
theorem exchange_laidDown (tx : Nat) (exchange : Exchange) (statement : String) {s : Client}
    (hp : s.connection.Passive) (hlen : 3 ≤ s.connection.verdicts.length) :
    (inTurn (exchangeSteps tx exchange statement) s).1 =
      upToError ((s.connection.verdicts.take 3).map Verdict.failure) :=
  inTurn_laidDown (obeys_exchange tx exchange statement) hp hlen

/-! ## What is tried -/

/-- The step tries one call, which is the event. -/
structure Tries (tx : Nat) (step : Client → Sent) (event : Event) : Prop where
  call : event.isRefusal = false
  ran : ∀ s : Client, s.connection.Passive → Ran tx [event] s (step s)

theorem tries_exchange (tx : Nat) (exchange : Exchange) (statement : String) :
    List.Forall₂ (Tries tx) (exchangeSteps tx exchange statement)
      (exchangeCalls tx exchange statement) := by
  have hrun : Tries tx (run tx exchange statement [] .ignore) (.run tx exchange statement []) :=
    ⟨rfl, fun _ hp => ran_run tx exchange statement [] .ignore rfl hp⟩
  have hpull : Tries tx (pullAll tx exchange .bookmark) (.pullAll tx exchange) :=
    ⟨rfl, fun _ hp => ran_pullAll tx exchange .bookmark rfl hp⟩
  have hsync : Tries tx (sync tx) (.sync tx) := ⟨rfl, fun _ hp => ran_sync tx hp⟩
  exact .cons hrun (.cons hpull (.cons hsync .nil))

theorem Tries.made {tx : Nat} {step : Client → Sent} {event : Event} (h : Tries tx step event)
    {s : Client} (hp : s.connection.Passive) :
    ∃ events, events.filter (fun e => !e.isRefusal) = [event] ∧ Made tx events s (step s).2 := by
  have hran := h.ran s hp
  generalize step s = sent at hran
  rcases sent with ⟨failure, s₁⟩
  cases failure with
  | none => exact ⟨[event], by simp [h.call], hran⟩
  | some e =>
      rcases hran with ⟨events, ⟨made, tail, hne, hpre, htail, rfl⟩, hmade⟩
      have hone : made = [event] := by
        rcases made with _ | ⟨first, rest⟩
        · exact absurd rfl hne
        · rcases hpre with ⟨later, hlater⟩
          simp at hlater
          simp [hlater]
      have hrefused : (Event.refused tx).isRefusal = true := rfl
      refine ⟨made ++ tail, ?_, hmade⟩
      rcases htail with rfl | rfl <;> simp [hone, h.call, hrefused]

/-- Of the calls in turn just those are tried that answer. -/
theorem made_inTurn {tx : Nat} {steps : List (Client → Sent)} {calls : List Event}
    (h : List.Forall₂ (Tries tx) steps calls) {s : Client} (hp : s.connection.Passive) :
    ∃ events, events.filter (fun e => !e.isRefusal) = calls.take (inTurn steps s).1.length ∧
      Made tx events s (inTurn steps s).2 := by
  induction h generalizing s with
  | nil => exact ⟨[], by simp, .refl tx hp⟩
  | @cons step event rest calls hstep _ ih =>
      rcases hstep.made hp with ⟨events, hevents, hmade⟩
      rcases hs : step s with ⟨failure, s₁⟩
      rw [hs] at hmade
      cases failure with
      | some e => exact ⟨events, by simp [inTurn, hs, hevents], by simpa [inTurn, hs] using hmade⟩
      | none =>
          rcases ih hmade.passive with ⟨later, hlater, hmade'⟩
          refine ⟨events ++ later, ?_, ?_⟩
          · simp [inTurn, hs, hevents, hlater]
          · simpa [inTurn, hs] using hmade.trans hmade'

/-! ## The contract -/

section

variable (tx : Nat) (state : State) (s : Client)

/-- The COMMIT exchange of a close that finds `state`: what its calls answer, and the client after
it. There is none unless the transaction is marked for it and the connection is open. -/
def commitPart : List (Option Error) × Client :=
  if s.connection.isOpen = true ∧ state = .markedSuccess then
    inTurn (exchangeSteps tx .commit Message.commit) (s.updateTransaction tx Transaction.claim)
  else ([], s.updateTransaction tx Transaction.claim)

/-- The ROLLBACK exchange, by itself or after a COMMIT that failed. -/
def rollbackPart : List (Option Error) × Client :=
  if s.connection.isOpen = true ∧
      (state = .active ∨ state = .markedFailed ∨ firstError (commitPart tx state s).1 ≠ none) then
    inTurn (exchangeSteps tx .rollback Message.rollback) (commitPart tx state s).2
  else ([], (commitPart tx state s).2)

end

section

variable {tx : Nat} {state : State} {s : Client}

theorem commitPart_of_ne (h : s.connection.isOpen = false ∨ state ≠ .markedSuccess) :
    commitPart tx state s = ([], s.updateTransaction tx Transaction.claim) := by
  unfold commitPart
  rw [if_neg]
  rintro ⟨honline, hstate⟩
  rcases h with h | h
  · simp [h] at honline
  · exact h hstate

theorem commitPart_of_marked (h : s.connection.isOpen = true) :
    commitPart tx .markedSuccess s = inTurn (exchangeSteps tx .commit Message.commit)
      (s.updateTransaction tx Transaction.claim) := by
  simp [commitPart, h]

theorem rollbackPart_of_unsent (h : s.connection.isOpen = false ∨ state = .failed) :
    (rollbackPart tx state s).1 = [] := by
  unfold rollbackPart
  rcases h with h | rfl
  · simp [h]
  · have hcommit : commitPart tx .failed s = ([], s.updateTransaction tx Transaction.claim) :=
      commitPart_of_ne (Or.inr (by simp))
    rw [hcommit]
    simp [firstError]

theorem rollbackPart_of_unmarked (h : s.connection.isOpen = true)
    (hstate : state = .active ∨ state = .markedFailed) :
    rollbackPart tx state s = inTurn (exchangeSteps tx .rollback Message.rollback)
      (s.updateTransaction tx Transaction.claim) := by
  have hcommit : commitPart tx state s = ([], s.updateTransaction tx Transaction.claim) := by
    apply commitPart_of_ne
    rcases hstate with rfl | rfl <;> simp
  unfold rollbackPart
  rw [hcommit, if_pos ⟨h, by tauto⟩]

theorem rollbackPart_of_marked (h : s.connection.isOpen = true) :
    rollbackPart tx .markedSuccess s =
      if firstError (commitPart tx .markedSuccess s).1 = none then
        ([], (commitPart tx .markedSuccess s).2)
      else inTurn (exchangeSteps tx .rollback Message.rollback)
        (commitPart tx .markedSuccess s).2 := by
  unfold rollbackPart
  cases hfirst : firstError (commitPart tx .markedSuccess s).1 <;> simp [h]

end

section

variable {s : Client} {tx : Nat} {t : Transaction}

/-- A ROLLBACK exchange after which the connection is released. -/
theorem closed_rollback (ht : s.transactions[tx]? = some t) (ho : t.isOpen = true) {c : Client}
    {events : List Event} (hm : Made tx events (s.updateTransaction tx Transaction.claim) c) :
    ∃ later, later.filter (fun e => !e.isRefusal) = (rollbackCalls tx).take
        (inTurn (exchangeSteps tx .rollback Message.rollback) c).1.length ∧
      Closed tx .rolledBack (events ++ later) s ((rollbackExchange tx c).2.release tx) ∧
      (rollbackExchange tx c).1 =
        firstError (inTurn (exchangeSteps tx .rollback Message.rollback) c).1 := by
  rcases made_inTurn (tries_exchange tx .rollback Message.rollback) hm.passive with
    ⟨later, hlater, hmade⟩
  have heq := finish_eq tx .rollback Message.rollback .rolledBack c
  refine ⟨later, hlater, ?_, congrArg Prod.fst heq⟩
  unfold rollbackExchange
  rw [heq]
  -- The release sets the terminal state that the exchange would have set.
  split
  · exact closed_of_finalized rfl ht ho (hm.trans hmade)
  · exact closed_of_made ht ho (hm.trans hmade)

/-- A COMMIT exchange after which the connection is released, with a ROLLBACK between if the COMMIT
fails. -/
theorem closed_commitOrRollback (hp : s.connection.Passive) (ht : s.transactions[tx]? = some t)
    (ho : t.isOpen = true) {answers : List (Option Error)} {c : Client}
    (hin : inTurn (exchangeSteps tx .commit Message.commit)
      (s.updateTransaction tx Transaction.claim) = (answers, c)) :
    (commitOrRollback tx (s.updateTransaction tx Transaction.claim)).1 = firstError answers ∧
      ∃ events, events.filter (fun e => !e.isRefusal) =
          (commitCalls tx).take answers.length ++
            (if firstError answers = none then [] else (rollbackCalls tx).take
              (inTurn (exchangeSteps tx .rollback Message.rollback) c).1.length) ∧
        Closed tx (if firstError answers = none then .committed else .rolledBack) events s
          ((commitOrRollback tx (s.updateTransaction tx Transaction.claim)).2.release tx) := by
  have hclaim : (s.updateTransaction tx Transaction.claim).connection.Passive := hp
  rcases made_inTurn (tries_exchange tx .commit Message.commit) hclaim with
    ⟨events, hevents, hmade⟩
  have heq := finish_eq tx .commit Message.commit .committed
    (s.updateTransaction tx Transaction.claim)
  rw [hin] at hevents hmade heq
  unfold commitOrRollback commitExchange
  rw [heq]
  cases hfirst : firstError answers with
  | none => exact ⟨rfl, events, by simpa [commitCalls] using hevents, closed_of_finalized rfl ht ho hmade⟩
  | some e =>
      rcases closed_rollback ht ho hmade with ⟨later, hlater, hclosed, -⟩
      refine ⟨rfl, events ++ later, ?_, hclosed⟩
      rw [List.filter_append, hevents, hlater]
      rfl

/-- A close that finds the transaction in `state` answers `answer` and ends it as `final`; just the
calls that have answered are tried. -/
structure Ends (s : Client) (tx : Nat) (state final : State) (answer : Option Error) : Prop where
  answer : (close s tx).1 = answer
  closed : ∃ events, Closed tx final events s (close s tx).2 ∧
    events.filter (fun e => !e.isRefusal) =
      (commitCalls tx).take (commitPart tx state s).1.length ++
        (rollbackCalls tx).take (rollbackPart tx state s).1.length

/-- Nothing is sent on a closed connection or for what the server has given up. -/
theorem ends_unsent (hs : Settled s) (ht : s.transactions[tx]? = some t) (ho : t.isOpen = true)
    (h : s.connection.isOpen = false ∨ t.state = .failed) :
    (∀ place, (close s tx).2.calls place = s.calls place) ∧
      Ends s tx t.state .rolledBack
        (if t.state = .markedSuccess then some .closedBeforeCommit else none) := by
  have hclosed : Closed tx .rolledBack [] s
      ((s.updateTransaction tx Transaction.claim).release tx) :=
    closed_of_made ht ho (Made.refl tx hs.passive)
  have hconclude : conclude tx t.state (s.updateTransaction tx Transaction.claim) =
      (if t.state = .markedSuccess then some .closedBeforeCommit else none,
        s.updateTransaction tx Transaction.claim) := by
    rcases h with honline | hfailed
    · unfold conclude
      rw [if_neg (by simp [honline])]
      cases t.state <;> rfl
    · simp [conclude, hfailed]
  have hclose : close s tx = (if t.state = .markedSuccess then some .closedBeforeCommit else none,
      (s.updateTransaction tx Transaction.claim).release tx) := by
    rw [close_of_unclaimed ht (hs.unclaimed ht ho), hconclude]
  have hcommit : commitPart tx t.state s = ([], s.updateTransaction tx Transaction.claim) := by
    apply commitPart_of_ne
    rcases h with honline | hfailed
    · exact Or.inl honline
    · exact Or.inr (by simp [hfailed])
  refine ⟨?_, congrArg Prod.fst hclose, [], ?_, ?_⟩
  · intro place
    rw [hclose]
    simpa using hclosed.calls place
  · rw [hclose]
    exact hclosed
  · rw [hcommit, rollbackPart_of_unsent h]
    simp

/-- A transaction that is not marked for commit is rolled back, and the error is that of the
ROLLBACK. -/
theorem ends_unmarked (hs : Settled s) (ht : s.transactions[tx]? = some t) (ho : t.isOpen = true)
    (honline : s.connection.isOpen = true) (h : t.state = .active ∨ t.state = .markedFailed) :
    Ends s tx t.state .rolledBack (firstError (rollbackPart tx t.state s).1) := by
  have hclaim : Made tx [] (s.updateTransaction tx Transaction.claim)
      (s.updateTransaction tx Transaction.claim) := Made.refl tx hs.passive
  rcases closed_rollback ht ho hclaim with ⟨events, hevents, hclosed, hanswer⟩
  have hconclude : conclude tx t.state (s.updateTransaction tx Transaction.claim) =
      rollbackExchange tx (s.updateTransaction tx Transaction.claim) := by
    have hclaimed : (s.updateTransaction tx Transaction.claim).connection.isOpen = true := honline
    unfold conclude
    rw [if_pos hclaimed]
    rcases h with h | h <;> rw [h]
  have hclose : close s tx =
      ((rollbackExchange tx (s.updateTransaction tx Transaction.claim)).1,
        (rollbackExchange tx (s.updateTransaction tx Transaction.claim)).2.release tx) := by
    rw [close_of_unclaimed ht (hs.unclaimed ht ho), hconclude]
  have hcommit : commitPart tx t.state s = ([], s.updateTransaction tx Transaction.claim) := by
    apply commitPart_of_ne
    rcases h with h | h <;> simp [h]
  refine ⟨?_, events, ?_, ?_⟩
  · rw [hclose, hanswer, rollbackPart_of_unmarked honline h]
  · rw [hclose]
    exact hclosed
  · rw [hcommit, rollbackPart_of_unmarked honline h, hevents]
    simp

/-- A transaction that is marked for commit is committed if no call of the COMMIT fails, and the
error is that of the COMMIT. -/
theorem ends_marked (hs : Settled s) (ht : s.transactions[tx]? = some t) (ho : t.isOpen = true)
    (honline : s.connection.isOpen = true) (h : t.state = .markedSuccess) :
    Ends s tx t.state
      (if firstError (commitPart tx t.state s).1 = none then .committed else .rolledBack)
      (firstError (commitPart tx t.state s).1) := by
  rw [h]
  rcases hcommit : inTurn (exchangeSteps tx .commit Message.commit)
    (s.updateTransaction tx Transaction.claim) with ⟨answers, c⟩
  rcases closed_commitOrRollback hs.passive ht ho hcommit with ⟨hanswer, events, hevents, hclosed⟩
  have hclose : close s tx =
      ((commitOrRollback tx (s.updateTransaction tx Transaction.claim)).1,
        (commitOrRollback tx (s.updateTransaction tx Transaction.claim)).2.release tx) := by
    have hclaimed : (s.updateTransaction tx Transaction.claim).connection.isOpen = true := honline
    rw [close_of_unclaimed ht (hs.unclaimed ht ho), h]
    unfold conclude
    rw [if_pos hclaimed]
  have hpart : commitPart tx .markedSuccess s = (answers, c) :=
    (commitPart_of_marked honline).trans hcommit
  rw [hpart]
  refine ⟨?_, events, ?_, ?_⟩
  · rw [hclose, hanswer]
  · rw [hclose]
    exact hclosed
  · rw [rollbackPart_of_marked honline, hpart, hevents]
    cases firstError answers <;> simp

end

section

variable (tx : Nat) (state : State) (s : Client)

/-- What is promised of a close that finds the transaction open, not claimed, and in `state`. -/
structure CloseContract : Prop where
  unsent : s.connection.isOpen = false ∨ state = .failed →
    ∀ place, (close s tx).2.calls place = s.calls place
  commits : (commitPart tx state s).1 ≠ [] ↔ s.connection.isOpen = true ∧ state = .markedSuccess
  rollsBack : (rollbackPart tx state s).1 ≠ [] ↔
    s.connection.isOpen = true ∧ (state = .active ∨ state = .markedFailed ∨
      ∃ e, some e ∈ (commitPart tx state s).1)
  /-- An exchange that is started stops at its first failing call. -/
  stops : ((commitPart tx state s).1 ≠ [] → StopsAtFirst 3 (commitPart tx state s).1) ∧
    ((rollbackPart tx state s).1 ≠ [] → StopsAtFirst 3 (rollbackPart tx state s).1)
  /-- Just the calls that have answered are tried, those of the COMMIT first. -/
  attempts : ∀ place, (close s tx).2.attempts place = s.attempts place ++
    if place = tx then
      (commitCalls tx).take (commitPart tx state s).1.length ++
        (rollbackCalls tx).take (rollbackPart tx state s).1.length
    else []
  final : (close s tx).2.final? tx =
    if state = .markedSuccess ∧ s.connection.isOpen = true ∧
        (commitPart tx state s).1 = [none, none, none] then some .committed
    else some .rolledBack
  /-- The error of the COMMIT is answered, whatever comes of the ROLLBACK after it. -/
  answer : (close s tx).1 =
    if s.connection.isOpen = true then
      if state = .markedSuccess then firstError (commitPart tx state s).1
      else firstError (rollbackPart tx state s).1
    else if state = .markedSuccess then some .closedBeforeCommit else none
  ended : (close s tx).2.endings tx = [.released, .notified]

end

section

variable {s : Client} {tx : Nat} {t : Transaction}

theorem stops_commitPart (state : State) (h : (commitPart tx state s).1 ≠ []) :
    StopsAtFirst 3 (commitPart tx state s).1 := by
  unfold commitPart at h ⊢
  split
  · exact stopsAtFirst_inTurn (exchangeSteps tx .commit Message.commit) _
  · rename_i hnot
    simp [hnot] at h

theorem stops_rollbackPart (state : State) (h : (rollbackPart tx state s).1 ≠ []) :
    StopsAtFirst 3 (rollbackPart tx state s).1 := by
  unfold rollbackPart at h ⊢
  split
  · exact stopsAtFirst_inTurn (exchangeSteps tx .rollback Message.rollback) _
  · rename_i hnot
    simp [hnot] at h

theorem commitPart_ne_nil_iff (state : State) :
    (commitPart tx state s).1 ≠ [] ↔ s.connection.isOpen = true ∧ state = .markedSuccess := by
  have hmade := (stopsAtFirst_inTurn (exchangeSteps tx .commit Message.commit)
    (s.updateTransaction tx Transaction.claim)).ne_nil
  unfold commitPart
  split <;> rename_i h
  · exact ⟨fun _ => h, fun _ => hmade⟩
  · exact ⟨fun hne => absurd rfl hne, fun hsent => absurd hsent h⟩

theorem rollbackPart_ne_nil_iff (state : State) :
    (rollbackPart tx state s).1 ≠ [] ↔ s.connection.isOpen = true ∧
      (state = .active ∨ state = .markedFailed ∨ ∃ e, some e ∈ (commitPart tx state s).1) := by
  have hmade := (stopsAtFirst_inTurn (exchangeSteps tx .rollback Message.rollback)
    (commitPart tx state s).2).ne_nil
  rw [exists_error_iff]
  unfold rollbackPart
  split <;> rename_i h
  · exact ⟨fun _ => h, fun _ => hmade⟩
  · exact ⟨fun hne => absurd rfl hne, fun hsent => absurd hsent h⟩

/-- No call of a COMMIT failed just if all three succeeded. -/
theorem firstError_commitPart (state : State) (h : (commitPart tx state s).1 ≠ []) :
    firstError (commitPart tx state s).1 = none ↔
      (commitPart tx state s).1 = [none, none, none] :=
  (stops_commitPart state h).firstError_eq_none_iff

/-- The contract, once it is known how the close ends. -/
theorem contract_of_ends {state final : State} {answer : Option Error}
    (hn : s.endings tx = []) (he : Ends s tx state final answer)
    (hunsent : s.connection.isOpen = false ∨ state = .failed →
      ∀ place, (close s tx).2.calls place = s.calls place)
    (hfinal : final = if state = .markedSuccess ∧ s.connection.isOpen = true ∧
        (commitPart tx state s).1 = [none, none, none] then .committed else .rolledBack)
    (hanswer : answer = if s.connection.isOpen = true then
        if state = .markedSuccess then firstError (commitPart tx state s).1
        else firstError (rollbackPart tx state s).1
      else if state = .markedSuccess then some .closedBeforeCommit else none) :
    CloseContract tx state s := by
  rcases he.closed with ⟨events, hclosed, hevents⟩
  exact {
    unsent := hunsent
    commits := commitPart_ne_nil_iff state
    rollsBack := rollbackPart_ne_nil_iff state
    stops := ⟨stops_commitPart state, stops_rollbackPart state⟩
    attempts := by
      intro place
      unfold Client.attempts
      rw [hclosed.calls, List.filter_append, ← hevents]
      split <;> rfl
    final := by
      rw [final?_of_closed hclosed, hfinal]
      split <;> rfl
    answer := he.answer.trans hanswer
    ended := by
      rw [hclosed.endings, hn, if_pos rfl]
      rfl }

/-- Closing an open transaction that any run has led to keeps the contract, whatever the connection
does. -/
theorem close_contract (steps : List Step) {s : Client} (hs : after .blocking {} steps = s)
    (tx : Nat) {t : Transaction} (ht : s.transactions[tx]? = some t) (ho : t.isOpen = true) :
    CloseContract tx t.state s := by
  have hsettled : Settled s := hs ▸ settled_after settled_start steps
  have hn : s.endings tx = [] := (hsettled.live ht (hsettled.unclaimed ht ho)).2
  have hunsent : s.connection.isOpen = false ∨ t.state = .failed →
      ∀ place, (close s tx).2.calls place = s.calls place :=
    fun h => (ends_unsent hsettled ht ho h).1
  cases honline : s.connection.isOpen with
  | false =>
      have hends := (ends_unsent hsettled ht ho (Or.inl honline)).2
      exact contract_of_ends hn hends hunsent (by simp [honline]) (by simp [honline])
  | true =>
      cases hstate : t.state with
      | active =>
          have hends := ends_unmarked hsettled ht ho honline (Or.inl hstate)
          rw [hstate] at hends hunsent
          exact contract_of_ends hn hends hunsent (by simp) (by simp [honline])
      | markedFailed =>
          have hends := ends_unmarked hsettled ht ho honline (Or.inr hstate)
          rw [hstate] at hends hunsent
          exact contract_of_ends hn hends hunsent (by simp) (by simp [honline])
      | markedSuccess =>
          have hends := ends_marked hsettled ht ho honline hstate
          rw [hstate] at hends hunsent
          have hstarted : (commitPart tx .markedSuccess s).1 ≠ [] :=
            (commitPart_ne_nil_iff _).2 ⟨honline, rfl⟩
          refine contract_of_ends hn hends hunsent ?_ (by simp [honline])
          simp [honline, firstError_commitPart _ hstarted]
      | failed =>
          have hends := (ends_unsent hsettled ht ho (Or.inr hstate)).2
          rw [hstate] at hends hunsent
          have hnone : (rollbackPart tx .failed s).1 = [] := rollbackPart_of_unsent (Or.inr rfl)
          refine contract_of_ends hn hends hunsent (by simp) ?_
          simp [hnone, firstError]
      | committed => simp [Transaction.isOpen, State.isOpen, State.isTerminal, hstate] at ho
      | rolledBack => simp [Transaction.isOpen, State.isOpen, State.isTerminal, hstate] at ho

end

/-- A transaction that is marked for commit, on a connection that will refuse the second call of its
COMMIT and the first of the ROLLBACK after it. -/
def refusing : List Step :=
  begun ++ [.success "t", .layDown [{}, { failure := some (.connection "commit") },
    { failure := some (.connection "rollback") }]]

theorem close_contract_of_refusing :
    CloseContract 0 .markedSuccess (after .blocking {} refusing) :=
  close_contract refusing rfl 0
    (t := { title := "t", reported := true, state := .markedSuccess, holdings := [⟨"t", true⟩] })
    rfl rfl

end Blocking

end ClientTransaction
