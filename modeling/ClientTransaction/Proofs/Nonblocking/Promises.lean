import ClientTransaction.Proofs.Nonblocking.Outcomes
import ClientTransaction.Proofs.Scenario.Growth

/-!
# Nonblocking.Promises — no pending operation is lost

A claim is a promise that the transaction will end, and the handle of BEGIN or of a terminal
operation is a promise of an outcome. Between two steps each promise that has not been kept rests on
a request in the queue: a claimed transaction that is open has exactly one request whose completion
ends it, and an unresolved handle is fed by a request of its transaction. So when the queue is empty
every promise has been kept.
-/

namespace ClientTransaction

/-- The chain closes the transaction when it is fired with a success, and at last with a failure. -/
def Completion.closes {β σ : Type} : Completion β Finalizer σ → Bool
  | .sink _ => false
  | .finalizer .close _ => true
  | .fallback _ done | .resume _ done => done.closes

/-- The handler has a completion that closes the transaction. -/
def Handler.closes : Handler → Bool
  | .committed done | .rolledBack done => done.closes
  | _ => false

/-- Someone can still ask for the outcome, and there is none yet. -/
def Handle.isAwaited {α : Type} (h : Handle α) : Bool :=
  h.isHeld && !h.isResolved

namespace Nonblocking

open Scenario

/-! ## What was promised -/

/-- A handle that was returned for a transaction. -/
structure Promise where
  tx : Nat
  handle : Nat
  deriving DecidableEq, Repr

/-- The handle that a step returns, if it begins a transaction or asks for a terminal operation. -/
def promise? (s : Client) : Step → Option Promise
  | .begin b =>
      match beginConfig s b with
      | .ok _ => some ⟨s.transactions.length, s.handles.length⟩
      | .error _ => none
  | step =>
      (terminalCall? step).bind fun (name, _, _) =>
        (transaction? s name).map fun tx => ⟨tx, s.handles.length⟩

/-- The handles that were returned in a run. -/
def promises (s : Client) : List Step → List Promise
  | [] => []
  | step :: rest => (promise? s step).toList ++ promises (perform .nonblocking s step).2 rest

/-- The handle has an outcome, unless a queued request of its transaction is to give it one. -/
def Promise.Rests (p : Promise) (s : Client) : Prop :=
  ∃ h, s.handles[p.handle]? = some h ∧
    (h.isAwaited = true → ∃ r ∈ s.connection.queue, r.owner = p.tx ∧
      r.handler.ownsCompletion = true ∧ feeds? r.handler = some p.handle)

/-- Whatever is still to come rests on a queued request. -/
structure NothingLost (promised : List Promise) (s : Client) : Prop where
  claims : ∀ (tx : Nat) (t : Transaction), s.transactions[tx]? = some t → t.closing = true →
    t.isOpen = true →
    ∃ r, s.connection.queue.filter (fun r => r.owner == tx && r.handler.ownsCompletion) = [r] ∧
      r.handler.closes = true
  handles : ∀ p ∈ promised, p.Rests s

/-! ## Claims -/

section

variable {tx : Nat} {rs : List Request}

/-- A request that decides about a transaction, and the only one, is the only one with a completion
for it. -/
theorem filter_of_due {role : Exchange × Part × Handler} (h : due tx rs = [role])
    (ho : role.2.2.ownsCompletion = true) :
    ∃ r, rs.filter (fun r => r.owner == tx && r.handler.ownsCompletion) = [r] ∧
      r.handler = role.2.2 := by
  -- A request that decides nothing about the transaction has no completion for it.
  have hskip : ∀ r : Request, role? tx r = none →
      (r.owner == tx && r.handler.ownsCompletion) = false := by
    intro r hr
    simp only [role?, ite_eq_right_iff, reduceCtorEq, imp_false, not_and] at hr
    by_cases htx : r.owner = tx
    · have hd := hr htx
      simp only [decides, Bool.or_eq_true, not_or, Bool.not_eq_true] at hd
      simp [hd.1]
    · simp [htx]
  -- The first request that decides something is the one, and none after it does.
  induction rs with
  | nil => simp [due] at h
  | cons r rest ih =>
      cases hr : role? tx r with
      | none =>
          have hrest : due tx rest = [role] := by simpa [due, hr] using h
          rcases ih hrest with ⟨r', hr', hhandler⟩
          exact ⟨r', by simpa [List.filter_cons, hskip r hr] using hr', hhandler⟩
      | some role' =>
          have hsplit : role' = role ∧ due tx rest = [] := by simpa [due, hr] using h
          have hnone : rest.filter (fun r => r.owner == tx && r.handler.ownsCompletion) = [] := by
            apply List.filter_eq_nil_iff.2
            intro q hq
            simpa using hskip q (List.filterMap_eq_nil_iff.1 hsplit.2 q hq)
          have hrole : (r.owner = tx ∧ decides r = true) ∧
              (r.exchange, r.part, r.handler) = role := by
            simpa [role?, hsplit.1] using hr
          have hhandler : r.handler = role.2.2 := congrArg (fun role => role.2.2) hrole.2
          refine ⟨r, ?_, hhandler⟩
          simp [hrole.1.1, hhandler, ho, hnone]

end

/-- What is due for a claimed transaction that is open ends it. -/
theorem Phase.due_of_claimed {p : Phase} (h : p.account.footing? = some ⟨true, none⟩) :
    ∃ role, p.account.due = [role] ∧ role.2.2.ownsCompletion = true ∧ role.2.2.closes = true := by
  cases p with
  | committing fallback l => cases fallback <;> exact ⟨_, rfl, rfl, rfl⟩
  | fallingBack loss l => exact ⟨_, rfl, rfl, rfl⟩
  | rollingBack l => exact ⟨_, rfl, rfl, rfl⟩
  | _ => simp [Phase.account] at h

theorem claims_of_sound {s : Client} (hs : Sound (.of s)) {tx : Nat} {t : Transaction}
    (ht : s.transactions[tx]? = some t) (hc : t.closing = true) (ho : t.isOpen = true) :
    ∃ r, s.connection.queue.filter (fun r => r.owner == tx && r.handler.ownsCompletion) = [r] ∧
      r.handler.closes = true := by
  rcases hs.phases tx with ⟨p, hp⟩
  have hfoot : p.account.footing? = some ⟨true, none⟩ := by
    have hplace : s.footing? tx = p.account.footing? := congrArg Account.footing? hp.account
    have hfinal : t.footing.final? = none := t.isOpen_iff_footing.1 ho
    rw [← hplace, Client.footing?, ht, ← hc, ← hfinal]
    rfl
  rcases Phase.due_of_claimed hfoot with ⟨role, hdue, howns, hcloses⟩
  have hqueue : due tx s.connection.queue = [role] := by
    calc
      due tx s.connection.queue = p.account.due := congrArg Account.due hp.account
      _ = [role] := hdue
  rcases filter_of_due hqueue howns with ⟨r, hr, hhandler⟩
  exact ⟨r, hr, hhandler ▸ hcloses⟩

/-! ## Handles -/

theorem rests_of_tracked {tx handle : Nat} {Q : Phase → Option (Except Error Payload) → Prop}
    {s : Client} (h : Tracked tx handle Q (.of s))
    (hQ : ∀ p, Q p none → ∃ role ∈ p.account.due,
      role.2.2.ownsCompletion = true ∧ feeds? role.2.2 = some handle) :
    (Promise.mk tx handle).Rests s := by
  rcases h.shown with ⟨p, x, h, hp, hq, hh, hshows, -⟩
  refine ⟨h, hh, ?_⟩
  intro hawaited
  simp only [Handle.isAwaited, Bool.and_eq_true, Bool.not_eq_true'] at hawaited
  cases x with
  | some result =>
      rcases hshows hawaited.1 with hr | hr <;> simp [Handle.isResolved, hr] at hawaited
  | none =>
      -- What is due for the transaction is in the queue.
      rcases hQ p hq with ⟨role, hrole, howns, hfeeds⟩
      have hdue : due tx s.connection.queue = p.account.due := congrArg Account.due hp.account
      rw [← hdue] at hrole
      rcases List.mem_filterMap.1 hrole with ⟨r, hr, hrole⟩
      simp only [role?, Option.ite_none_right_eq_some, Option.some.injEq] at hrole
      rcases hrole with ⟨⟨howner, -⟩, rfl⟩
      exact ⟨r, hr, howner, howns, hfeeds⟩

/-- Until BEGIN is answered, its reply feeds the handle. -/
theorem feeds_of_yields {tx handle : Nat} {p : Phase} (h : Yields tx handle p none) :
    ∃ role ∈ p.account.due, role.2.2.ownsCompletion = true ∧ feeds? role.2.2 = some handle := by
  cases h with
  | starting => exact ⟨_, List.mem_singleton_self _, rfl, rfl⟩

/-- Until the operation is settled, the reply that is due feeds its handle. -/
theorem feeds_of_reports {handle : Nat} {course : Course} {p : Phase}
    (h : Reports handle course p none) :
    ∃ role ∈ p.account.due, role.2.2.ownsCompletion = true ∧ feeds? role.2.2 = some handle := by
  rcases h with ⟨y, hy, hnone⟩
  have hy' : y = none := by simpa using hnone.symm
  subst hy'
  cases hy with
  | committing => exact ⟨_, List.mem_singleton_self _, rfl, rfl⟩
  | committingOr => exact ⟨_, List.mem_singleton_self _, rfl, rfl⟩
  | fallingBack loss => exact ⟨_, List.mem_singleton_self _, rfl, rfl⟩
  | rollingBack => exact ⟨_, List.mem_singleton_self _, rfl, rfl⟩

/-- The handle of an operation that finds the transaction claimed has its outcome at once. -/
theorem rests_of_ready {s : Client} (tx : Nat) (name : Option String)
    (result : Except Error Payload) (later : List Step) :
    (Promise.mk tx s.handles.length).Rests
      (after .nonblocking (s.addHandle (.ready name result)) later) := by
  have hready : (s.addHandle (.ready name result)).handles[s.handles.length]? =
      some (.ready name result) := by
    simp
  -- A resolved handle stays so, whatever follows.
  rcases (grows_after .nonblocking _ later).handles _ _ hready with ⟨h, hh, hgrows⟩
  refine ⟨h, hh, ?_⟩
  intro hawaited
  simp [Handle.isAwaited, hgrows.resolved rfl] at hawaited

/-- A promise rests on a request from the step on that gives it. -/
theorem rests_of_promise {s : Client} (hs : Sound (.of s)) {step : Step} {p : Promise}
    (hp : promise? s step = some p) (later : List Step) :
    p.Rests (after .nonblocking (perform .nonblocking s step).2 later) := by
  have hsound : Sound (.of (perform .nonblocking s step).2) := hs.moves (leads_perform s step)
  have hlater := leads_after (perform .nonblocking s step).2 later
  have hterminal : ∀ {name : String} {terminal : Terminal} {handle : Option String},
      terminalCall? step = some (name, terminal, handle) →
      (transaction? s name).map (fun tx => Promise.mk tx s.handles.length) = some p →
      p.Rests (after .nonblocking (perform .nonblocking s step).2 later) := by
    intro name terminal handle hstep hpromise
    rcases Option.map_eq_some_iff.1 hpromise with ⟨tx, hname, rfl⟩
    rcases exists_of_transaction? hname with ⟨t, ht, -⟩
    have hperform := perform_terminalCall hstep hname ht
    cases hc : t.closing with
    | true =>
        rw [hperform, terminate_of_claimed ht hc]
        exact rests_of_ready tx handle _ later
    | false =>
        have htracked := tracked_terminate hs (kept_of_transaction? hname) ht hc terminal handle
        rw [← hperform] at htracked
        exact rests_of_tracked (htracked.moves (follows_reports tx _ _) hsound hlater)
          fun p => feeds_of_reports
  cases step with
  | begin b =>
      cases hconfig : beginConfig s b with
      | error answer => simp [promise?, hconfig] at hp
      | ok config =>
          have hpromise : Promise.mk s.transactions.length s.handles.length = p := by
            simpa [promise?, hconfig] using hp
          subst hpromise
          have htracked := tracked_begin hs b.tx b.reported config b.handle
          have hperform : (perform .nonblocking s (.begin b)).2 =
              begin s b.tx b.reported config b.handle := by
            simp [perform, Scenario.begin, hconfig]
          rw [← hperform] at htracked
          exact rests_of_tracked (htracked.moves (follows_yields _ _) hsound hlater)
            fun p => feeds_of_yields
  | close tx handle => exact hterminal rfl hp
  | commit tx handle => exact hterminal rfl hp
  | rollback tx handle => exact hterminal rfl hp
  | _ => simp [promise?, terminalCall?] at hp

theorem rests_of_promises {s : Client} (hs : Sound (.of s)) (steps : List Step) :
    ∀ p ∈ promises s steps, p.Rests (after .nonblocking s steps) := by
  induction steps generalizing s with
  | nil => simp [promises]
  | cons step rest ih =>
      intro p hp
      -- A promise is given by this step or by a later one.
      rcases List.mem_append.1 hp with hp | hp
      · exact rests_of_promise hs (Option.mem_toList.1 hp) rest
      · exact ih (hs.moves (leads_perform s step)) p hp

/-! ## Runs -/

/-- When the queue is empty, every claimed transaction has ended and every handle is answered. -/
theorem NothingLost.kept {promised : List Promise} {s : Client} (h : NothingLost promised s)
    (hq : s.connection.queue = []) :
    (∀ (tx : Nat) (t : Transaction), s.transactions[tx]? = some t → t.closing = true →
      t.isOpen = false) ∧
    ∀ p ∈ promised, ∃ h, s.handles[p.handle]? = some h ∧ h.isAwaited = false := by
  constructor
  · intro tx t ht hc
    cases ho : t.isOpen with
    | false => rfl
    | true =>
        rcases h.claims tx t ht hc ho with ⟨r, hr, -⟩
        simp [hq] at hr
  · intro p hp
    rcases h.handles p hp with ⟨h, hh, hawaited⟩
    refine ⟨h, hh, ?_⟩
    cases ha : h.isAwaited with
    | false => rfl
    | true =>
        rcases hawaited ha with ⟨r, hr, -⟩
        simp [hq] at hr

/-- After every run nothing is lost: what was promised rests on a queued request or has been kept,
and with an empty queue all of it has been kept. -/
theorem nothingLost_after (steps : List Step) :
    NothingLost (promises {} steps) (after .nonblocking {} steps) ∧
      ((after .nonblocking {} steps).connection.queue = [] →
        (∀ (tx : Nat) (t : Transaction), (after .nonblocking {} steps).transactions[tx]? = some t →
          t.closing = true → t.isOpen = false) ∧
        ∀ p ∈ promises {} steps, ∃ h,
          (after .nonblocking {} steps).handles[p.handle]? = some h ∧ h.isAwaited = false) := by
  have hlost : NothingLost (promises {} steps) (after .nonblocking {} steps) :=
    ⟨fun _ _ => claims_of_sound (sound_after steps), rests_of_promises sound_start steps⟩
  exact ⟨hlost, hlost.kept⟩

/-- Two promises are given while replies are held back: the handle of BEGIN and that of a commit. -/
example : promises {} (held ++ [.commit "t" (some "c")]) = [⟨0, 0⟩, ⟨0, 1⟩] := by
  rfl

end Nonblocking

end ClientTransaction
