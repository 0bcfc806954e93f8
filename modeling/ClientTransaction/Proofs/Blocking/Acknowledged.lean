import ClientTransaction.Proofs.Blocking.Commit
import ClientTransaction.Proofs.Blocking.Deliveries
import ClientTransaction.Proofs.Blocking.Turns
import ClientTransaction.Proofs.Scenario.ExactlyOnce

/-!
# Blocking.Acknowledged — what a commit that waited has heard

Until a transaction is claimed, no COMMIT of it is answered or owed an answer. Its COMMIT exchange
then asks for one outcome, and waits for it. So a transaction that ends committed has heard one
outcome of its COMMIT before the closing call returned, and that was no failure. But a handler that
the connection gives up is no failure either: such a COMMIT counts as one that succeeded.
-/

namespace ClientTransaction

/-- A terminal operation has claimed the transaction. -/
def Client.Claimed (s : Client) (tx : Nat) : Prop :=
  ∃ t : Transaction, s.transactions[tx]? = some t ∧ t.closing = true

/-- A claim is not given back. -/
theorem Client.Grows.claimed {s s' : Client} (h : s.Grows s') {tx : Nat} (hc : s.Claimed tx) :
    s'.Claimed tx := by
  rcases hc with ⟨t, ht, hclosing⟩
  rcases h.transactions tx t ht with ⟨t', ht', hgrows⟩
  exact ⟨t', ht', hgrows.closing hclosing⟩

namespace Blocking

open Scenario

/-! ## COMMITs that nobody asked for -/

section

variable {tx place : Nat} {exchange : Exchange} {s : Client}

/-- Neither the connection nor the history changes. -/
theorem Keeps.of_same (hp : s.connection.Passive) {s' : Client}
    (hc : s'.connection = s.connection) (hh : s'.history = s.history) :
    Keeps tx exchange s s' where
  passive := by
    rw [hc]
    exact hp
  owed := by simp [Client.owed, Client.due, Client.answers, Client.seen, hc, hh]

theorem keeps_release (place : Nat) (hp : s.connection.Passive) :
    Keeps tx exchange s (s.release place) := by
  have hfinal : Keeps tx exchange s
      (s.updateTransaction place (Transaction.finalize .rolledBack)) := .of_same hp rfl rfl
  have hrelease := hfinal.trans (.of_record hfinal.passive (e := .release place) rfl)
  exact hrelease.trans (.of_record hrelease.passive rfl)

/-- The exchanges that end another transaction, or this one in another way. -/
theorem keeps_finish {other : Exchange} (hne : place ≠ tx ∨ other ≠ exchange) (statement : String)
    (terminal : State) (hp : s.connection.Passive) :
    Keeps tx exchange s (finish place other statement terminal s).2 := by
  have hsent : Keeps tx exchange s
      ((run place other statement [] .ignore s).andThen (pullAll place other .bookmark)).2 :=
    keeps_request hne rfl rfl statement [] hp
  have hsync := hsent.andThen fun s' hs' => keeps_sync place hs'
  exact hsync.andThen fun s' hs' => .of_same hs' rfl rfl

theorem keeps_commitOrRollback (hne : place ≠ tx) (hp : s.connection.Passive) :
    Keeps tx exchange s (commitOrRollback place s).2 := by
  have hcommit : Keeps tx exchange s (commitExchange place s).2 :=
    keeps_finish (Or.inl hne) _ _ hp
  unfold commitOrRollback
  generalize commitExchange place s = sent at hcommit
  rcases sent with ⟨failure, s₁⟩
  cases failure with
  | none => exact hcommit
  | some e => exact hcommit.trans (keeps_finish (Or.inl hne) _ _ hcommit.passive)

theorem keeps_conclude (hne : place ≠ tx) (state : State) (hp : s.connection.Passive) :
    Keeps tx exchange s (conclude place state s).2 := by
  have hrollback : Keeps tx exchange s (rollbackExchange place s).2 :=
    keeps_finish (Or.inl hne) _ _ hp
  unfold conclude
  split
  · cases state with
    | markedSuccess => exact keeps_commitOrRollback hne hp
    | active => exact hrollback
    | markedFailed => exact hrollback
    | failed => exact .refl hp
    | committed => exact .refl hp
    | rolledBack => exact .refl hp
  · split <;> exact .refl hp

theorem keeps_close (hne : place ≠ tx) (hp : s.connection.Passive) :
    Keeps tx exchange s (close s place).2 := by
  unfold close
  split
  · exact .refl hp
  · rename_i t _
    split
    · exact .refl hp
    · have hclaim : Keeps tx exchange s (s.updateTransaction place Transaction.claim) :=
        .of_same hp rfl rfl
      have hconclude := hclaim.trans (keeps_conclude hne t.state hclaim.passive)
      exact hconclude.trans (keeps_release place hconclude.passive)

end

section

variable {tx : Nat} {s : Client}

/-- Requests of no COMMIT are given up. -/
theorem owed_giveUp {exchange : Exchange} {requests : List Request}
    (hr : ∀ r ∈ requests, r.handler.ownsCompletion = false)
    (hdue : ∀ r ∈ requests, r.due? tx exchange = none) (hp : s.connection.Passive) :
    Keeps tx exchange s (Client.giveUp requests s) := by
  induction requests generalizing s with
  | nil => exact .refl hp
  | cons r rest ih =>
      rcases s.calm_answer (s.connection.queue ++ rest)
        (r := { r with reply := { outcome := .dropped } }) (hr r (by simp)) with ⟨hcalm, hnone⟩
      -- Which answers count for an exchange does not depend on the outcome.
      have hother : ({ r with reply := { outcome := .dropped } } : Request).ended.answer? tx
          exchange = none := by
        have hr := hdue r (by simp)
        rcases r with ⟨owner, e, part, handler, reply⟩
        cases part with
        | run => rfl
        | pullAll => simpa [Request.due?, Request.ended] using hr
      have hnoted : Keeps tx exchange s
          (s.record ({ r with reply := { outcome := .dropped } } : Request).ended) :=
        .of_record hp hother
      have hanswered := hnoted.trans (.of_calm hnoted.passive hcalm)
      unfold Client.giveUp
      dsimp only
      rw [follow_of_none hnone]
      exact hanswered.trans (ih (fun r' hr' => hr r' (List.mem_cons_of_mem _ hr'))
        (fun r' hr' => hdue r' (List.mem_cons_of_mem _ hr')) hanswered.passive)

/-- What is owed nothing before is owed nothing after the queue is dropped. -/
theorem owed_dropQueue {exchange : Exchange} (hp : s.connection.Passive)
    (h : s.owed tx exchange = []) : s.dropQueue.owed tx exchange = [] := by
  rcases List.append_eq_nil_iff.1 h with ⟨hcome, hdue⟩
  have hqueue : ∀ r ∈ s.connection.queue, r.due? tx exchange = none := by
    simpa [Client.due] using hdue
  have hempty : (s.updateConnection fun c => { c with queue := [] }).owed tx exchange = [] :=
    List.append_eq_nil_iff.2 ⟨hcome, rfl⟩
  exact (owed_giveUp hp hqueue (by simp [Connection.Passive])).owed.trans hempty

/-- Only closing asks for the outcome of `exchange` for `tx`, and if it does then `P` holds. -/
structure AsksInClosing (tx : Nat) (exchange : Exchange) (P : Client → Prop) : Prop where
  noBegin : exchange ≠ .begin
  noStatement : ∀ cursor, exchange ≠ .statement cursor
  close : ∀ s : Client, Settled s → s.owed tx exchange = [] → ∀ place,
    (close s place).2.owed tx exchange = [] ∨ P (close s place).2

theorem keeps_sendBegin {exchange : Exchange} (hx : exchange ≠ .begin) (place : Nat)
    (config : Config) (hp : s.connection.Passive) :
    Keeps tx exchange s (sendBegin place config s).2 := by
  have hsent : Keeps tx exchange s
      ((run place .begin Message.begin config.beginParameters .ignore s).andThen
        (pullAll place .begin .ignore)).2 :=
    keeps_request (Or.inr hx.symm) rfl rfl Message.begin config.beginParameters hp
  unfold sendBegin
  dsimp only
  split
  · exact hsent
  · exact hsent.andThen fun s' hs' => keeps_sync place hs'

theorem keeps_runStatement {exchange : Exchange} (hx : ∀ cursor, exchange ≠ .statement cursor)
    (place : Nat) (statement : String) (params : Params) (name : Option String)
    (hp : s.connection.Passive) :
    Keeps tx exchange s (runStatement s place statement params name).2 := by
  unfold runStatement
  split
  · exact .refl hp
  · have hadd : Keeps tx exchange s (s.addCursor { statement := statement, owner := place }) :=
      .of_same hp rfl rfl
    have hsent : Keeps tx exchange (s.addCursor { statement := statement, owner := place })
        ((run place (.statement s.cursors.length) statement params (.columns s.cursors.length)
          (s.addCursor { statement := statement, owner := place })).andThen
            (pullAll place (.statement s.cursors.length) (.rows s.cursors.length))).2 :=
      keeps_request (Or.inr (hx _).symm) rfl rfl statement params hadd.passive
    have hflush := (hadd.trans hsent).andThen fun s' hs' => keeps_flush place hs'
    dsimp only
    split <;> rename_i heq <;> rw [heq] at hflush
    · exact hflush.trans (.of_same hflush.passive rfl rfl)
    · exact hflush.trans (.of_same hflush.passive rfl rfl)

theorem keeps_wait {exchange : Exchange} (cursor : Nat) (hp : s.connection.Passive) :
    Keeps tx exchange s (wait s cursor).2 := by
  unfold wait
  cases s.cursors[cursor]? with
  | none => exact .refl hp
  | some c =>
      have hsync : Keeps tx exchange s (sync c.owner s).2 := keeps_sync c.owner hp
      dsimp only
      split
      · exact .refl hp
      · split <;> exact hsync

section

variable {exchange : Exchange} {P : Client → Prop}

theorem AsksInClosing.begin (hx : AsksInClosing tx exchange P) (hs : Settled s)
    (h : s.owed tx exchange = []) (title : String) (reported : Bool) (config : Config) :
    (begin s title reported config).2.owed tx exchange = [] ∨
      P (begin s title reported config).2 := by
  have hadd : Settled (s.addTransaction { title := title, reported := reported }) :=
    settled_addTransaction hs rfl
  have hnew : Keeps tx exchange s (s.addTransaction { title := title, reported := reported }) :=
    .of_same hs.passive rfl rfl
  have hkeeps := hnew.trans (keeps_sendBegin hx.noBegin s.transactions.length config hnew.passive)
  rcases ran_sendBegin s.transactions.length config hadd.passive with ⟨calls, hran⟩
  have hsent := hadd.ran hran
  unfold Blocking.begin
  dsimp only
  generalize sendBegin s.transactions.length config
    (s.addTransaction { title := title, reported := reported }) = sent at hkeeps hsent
  rcases sent with ⟨failure, s₁⟩
  cases failure with
  | none => exact Or.inl (hkeeps.owed.trans h)
  | some e =>
      -- The transaction that could not be begun is closed.
      exact hx.close _ (hsent.markFailed s.transactions.length) (hkeeps.owed.trans h)
        s.transactions.length

/-- Whatever else happens in a step asks for nothing. -/
theorem AsksInClosing.turn (hx : AsksInClosing tx exchange P) {asked : Option Nat} {s' : Client}
    (hs : Settled s) (h : s.owed tx exchange = []) (ht : Turn s asked s') :
    s'.owed tx exchange = [] ∨ P s' := by
  cases ht with
  | calm hcalm => exact Or.inl ((Keeps.of_calm hs.passive hcalm).owed.trans h)
  | connected f hf => exact Or.inl ((Keeps.of_queue hs.passive (hf _)).owed.trans h)
  | delivered limit => exact Or.inl ((keeps_deliver limit hs.passive).owed.trans h)
  | dropped => exact Or.inl (owed_dropQueue hs.passive h)
  | begun title reported config => exact hx.begin hs h title reported config
  | ran place statement params name =>
      exact Or.inl
        ((keeps_runStatement hx.noStatement place statement params name hs.passive).owed.trans h)
  | waited cursor => exact Or.inl ((keeps_wait cursor hs.passive).owed.trans h)
  | closed hcalm _ place =>
      exact hx.close _ (hs.calm hcalm) ((Keeps.of_calm hs.passive hcalm).owed.trans h) place

/-- After every run no outcome of the exchange is owed, unless `P` holds, which then stays. -/
theorem AsksInClosing.after (hx : AsksInClosing tx exchange P)
    (hP : ∀ s s' : Client, s.Grows s' → P s → P s') (steps : List Step) :
    (Scenario.after .blocking {} steps).owed tx exchange = [] ∨
      P (Scenario.after .blocking {} steps) := by
  have hrun : ∀ s : Client, Settled s → s.owed tx exchange = [] ∨ P s →
      (Scenario.after .blocking s steps).owed tx exchange = [] ∨
        P (Scenario.after .blocking s steps) := by
    induction steps with
    | nil => exact fun _ _ h => h
    | cons step rest ih =>
        intro s hs h
        apply ih _ (settled_perform hs step)
        rcases h with h | h
        · exact hx.turn hs h (turn_perform hs.handles step)
        · exact Or.inr (hP _ _ (grows_perform .blocking s step) h)
  exact hrun {} settled_start (Or.inl rfl)

end

/-- Closing asks for the outcome of a COMMIT only for the transaction that it claims. -/
theorem asksInClosing_commit (tx : Nat) :
    AsksInClosing tx .commit fun s => s.Claimed tx := by
  refine ⟨by simp, by simp, fun s hs h place => ?_⟩
  by_cases hp : place = tx
  · subst hp
    cases ht : s.transactions[place]? with
    | none => exact Or.inl (by rwa [close_of_unborn ht])
    | some t =>
        cases hc : t.closing with
        | true => exact Or.inl (by rwa [close_of_claimed ht hc])
        | false =>
            rcases closing_close hs.passive ht hc (hs.live ht hc).1 with ⟨final, events, -, hclosed⟩
            have hfoot := hclosed.footing place
            rw [if_pos rfl] at hfoot
            rcases Option.map_eq_some_iff.1 hfoot with ⟨t', ht', hf⟩
            exact Or.inr ⟨t', ht', congrArg Footing.claimed hf⟩
  · exact Or.inl ((keeps_close hp hs.passive).owed.trans h)

end

/-- After every run, a transaction that nobody has claimed is owed no outcome of a COMMIT. -/
theorem unasked_after (steps : List Step) (tx : Nat) :
    (after .blocking {} steps).owed tx .commit = [] ∨ (after .blocking {} steps).Claimed tx :=
  (asksInClosing_commit tx).after (fun _ _ hgrows => hgrows.claimed) steps

/-! ## The COMMIT exchange -/

/-- What COMMIT sends before it waits. -/
def sendCommit (tx : Nat) (s : Client) : Sent :=
  (run tx .commit Message.commit [] .ignore s).andThen (pullAll tx .commit .bookmark)

/-- A `sync` of `tx` that would succeed in `s` waits for every reply, and finds no failure. -/
def Truthful (tx : Nat) (s : Client) : Prop :=
  (sync tx s).1 = none →
    (sync tx s).2.connection.queue = [] ∧
      ∀ r ∈ s.connection.queue, r.reply.outcome.failure? = none

section

variable {tx : Nat} {s s' : Client}

theorem andThen_eq_none {sent : Sent} {next : Client → Sent}
    (h : sent.andThen next = (none, s')) : ∃ s₁, sent = (none, s₁) ∧ next s₁ = (none, s') := by
  rcases sent with ⟨failure, s₁⟩
  cases failure with
  | none => exact ⟨s₁, rfl, h⟩
  | some e => simp [Sent.andThen] at h

/-- Where nothing is laid down for the calls to come, `sync` can be trusted. -/
theorem truthful_of_unlaid (tx : Nat) (hp : s.connection.Passive)
    (h : s.connection.verdicts = []) : Truthful tx s := by
  intro hsync
  rcases sync_of_unlaid tx hp h with ⟨e, he, -⟩ | ⟨hempty, -, hfailure⟩
  · rw [hsync] at he
    cases he
  · rw [hsync, eq_comm, List.findSome?_eq_none_iff] at hfailure
    exact ⟨hempty, hfailure⟩

/-- A COMMIT that is sent and waited for has heard one outcome, which is no failure. -/
theorem heard_of_exchange (hp : s.connection.Passive) (h : s.owed tx .commit = [])
    (htrue : Truthful tx (sendCommit tx s).2) (hexchange : commitExchange tx s = (none, s')) :
    ∃ outcome, outcome.failure? = none ∧ s'.answers tx .commit = [outcome] := by
  rcases andThen_eq_none hexchange with ⟨s₃, hsynced, hfinal⟩
  rcases andThen_eq_none hsynced with ⟨s₂, hsent, hsync⟩
  rcases andThen_eq_none hsent with ⟨s₁, hrun, hpull⟩
  have hsend : sendCommit tx s = (none, s₂) := hsent
  have hran : Keeps tx .commit s (run tx .commit Message.commit [] .ignore s).2 :=
    keeps_run tx .commit Message.commit [] rfl hp
  rw [hrun] at hran
  rcases owed_pullAll hran.passive rfl hpull with ⟨hpassive, r, hr, -, howed⟩
  rw [hsend] at htrue
  rcases htrue (congrArg Prod.fst hsync) with ⟨hsynced, hnofailure⟩
  have hkeeps : Keeps tx .commit s₂ (sync tx s₂).2 := keeps_sync tx hpassive
  rw [hsync] at hsynced hkeeps
  have hempty : s₃.connection.queue = [] := hsynced
  -- Nothing is queued any more, so what is owed has come.
  have hcome : s₃.answers tx .commit = [r.reply.outcome] := by
    calc
      s₃.answers tx .commit = s₃.owed tx .commit := by simp [Client.owed, Client.due, hempty]
      _ = s₂.owed tx .commit := hkeeps.owed
      _ = s.owed tx .commit ++ [r.reply.outcome] := howed.trans (by rw [hran.owed])
      _ = [r.reply.outcome] := by rw [h, List.nil_append]
  cases hfinal
  exact ⟨r.reply.outcome, hnofailure r hr, hcome⟩

/-- Closing that commits has got through the COMMIT exchange, and only releases after it. -/
theorem exchange_of_close {t : Transaction} (hs : Settled s) (ht : s.transactions[tx]? = some t)
    (hc : t.closing = false) (hfinal : (close s tx).2.final? tx = some .committed) :
    ∃ s₁, commitExchange tx (s.updateTransaction tx Transaction.claim) = (none, s₁) ∧
      (close s tx).2 = s₁.release tx := by
  rcases closing_close hs.passive ht hc (hs.live ht hc).1 with ⟨final, events, hclosing, hclosed⟩
  have hcommitted : final = .committed := by
    simpa [final?_of_closed hclosed] using hfinal
  subst hcommitted
  generalize hopen : s.connection.isOpen = online at hclosing
  generalize hstate : t.state = state at hclosing
  generalize hanswer : (close s tx).1 = failure at hclosing
  cases hclosing with
  | committed =>
      have hclose : close s tx =
          ((commitOrRollback tx (s.updateTransaction tx Transaction.claim)).1,
            (commitOrRollback tx (s.updateTransaction tx Transaction.claim)).2.release tx) := by
        rw [close_of_unclaimed ht hc]
        simp [hstate, conclude, hopen]
      rw [hclose] at hanswer ⊢
      rcases hexchange : commitExchange tx (s.updateTransaction tx Transaction.claim) with
        ⟨failure, s₁⟩
      cases failure with
      | some e => simp [commitOrRollback, hexchange] at hanswer
      | none => exact ⟨s₁, rfl, by simp [commitOrRollback, hexchange]⟩

/-- Closing that commits has heard one outcome of COMMIT, which is no failure. -/
theorem heard_of_close {t : Transaction} (hs : Settled s) (ht : s.transactions[tx]? = some t)
    (hc : t.closing = false) (h : s.owed tx .commit = [])
    (htrue : Truthful tx (sendCommit tx (s.updateTransaction tx Transaction.claim)).2)
    (hfinal : (close s tx).2.final? tx = some .committed) :
    ∃ outcome, outcome.failure? = none ∧ (close s tx).2.answers tx .commit = [outcome] := by
  rcases exchange_of_close hs ht hc hfinal with ⟨s₁, hexchange, hclose⟩
  rcases heard_of_exchange (s := s.updateTransaction tx Transaction.claim) hs.passive h htrue
    hexchange with ⟨outcome, hnofailure, hcome⟩
  refine ⟨outcome, hnofailure, ?_⟩
  -- Releasing the connection is no answer.
  rw [hclose]
  simpa [Client.answers, Client.release] using hcome

end

/-! ## The step of the application -/

/-- The transaction that a step closes, and the client at the moment of the claim. -/
def closing? (s : Client) : Step → Option (Nat × Client)
  | .close name _ => (transaction? s name).map fun tx => (tx, s)
  | .commit name _ => (transaction? s name).map fun tx => (tx, committing s name tx)
  | .rollback name _ => (transaction? s name).map fun tx =>
      (tx, (s.updateTransaction tx (Transaction.letGo name)).updateTransaction tx
        Transaction.markFailure)
  | .drop name => (transaction? s name).map fun tx =>
      (tx, s.updateTransaction tx (Transaction.letGo name))
  | _ => none

theorem perform_of_closing {s s₁ : Client} {step : Step} {tx : Nat}
    (h : closing? s step = some (tx, s₁)) :
    s.Calm s₁ ∧ (perform .blocking s step).2 = (close s₁ tx).2 := by
  cases step with
  | close name handle =>
      rcases Option.map_eq_some_iff.1 h with ⟨place, hname, hplace⟩
      cases hplace
      rcases Nonblocking.exists_of_transaction? hname with ⟨t, ht, -⟩
      exact ⟨.refl s, by simp [perform, terminate, onTransaction, hname, ht]⟩
  | commit name handle =>
      rcases Option.map_eq_some_iff.1 h with ⟨place, hname, hplace⟩
      cases hplace
      rcases Nonblocking.exists_of_transaction? hname with ⟨t, ht, -⟩
      exact ⟨calm_committing s name tx, by rw [perform_commit handle hname ht]⟩
  | rollback name handle =>
      rcases Option.map_eq_some_iff.1 h with ⟨place, hname, hplace⟩
      cases hplace
      rcases Nonblocking.exists_of_transaction? hname with ⟨t, ht, -⟩
      exact ⟨(Client.Calm.letGo s tx name).trans
        (.mark _ tx Transaction.footing_markFailure fun _ => rfl),
        by simp [perform, terminate, onTransaction, hname, ht, rollback]⟩
  | drop name =>
      rcases Option.map_eq_some_iff.1 h with ⟨place, hname, hplace⟩
      cases hplace
      rcases Nonblocking.exists_of_transaction? hname with ⟨t, ht, -⟩
      exact ⟨.letGo s tx name,
        by simp [perform, Scenario.drop, onTransaction, hname, ht, drop]⟩
  | _ => simp [closing?] at h

/-- Closing within a run: what ends committed has heard one outcome of its COMMIT when the closing
call returns, and that was no failure. -/
theorem heard_of_perform (earlier : List Step) {s : Client} (hs : after .blocking {} earlier = s)
    {step : Step} {tx : Nat} {s₁ : Client} (hstep : closing? s step = some (tx, s₁))
    {t : Transaction} (ht : s₁.transactions[tx]? = some t) (hc : t.closing = false)
    (hsync : Truthful tx (sendCommit tx (s₁.updateTransaction tx Transaction.claim)).2)
    (hfinal : (perform .blocking s step).2.final? tx = some .committed) :
    ∃ outcome, outcome.failure? = none ∧
      (perform .blocking s step).2.answers tx .commit = [outcome] := by
  have hsettled : Settled s := hs ▸ settled_after settled_start earlier
  rcases perform_of_closing hstep with ⟨hcalm, hperform⟩
  have hunclaimed : ¬ s.Claimed tx := by
    rintro ⟨t', ht', hc'⟩
    have hfoot := hcalm.footing? tx
    rw [footing?_of_getElem? ht, footing?_of_getElem? ht', Option.some.injEq] at hfoot
    have hclaim : t.closing = t'.closing := congrArg Footing.claimed hfoot
    simp [hc, hc'] at hclaim
  have howed : s.owed tx .commit = [] := by
    have h := unasked_after earlier tx
    rw [hs] at h
    exact h.resolve_right hunclaimed
  rw [hperform] at hfinal ⊢
  exact heard_of_close (hsettled.calm hcalm) ht hc
    ((Keeps.of_calm hsettled.passive hcalm).owed.trans howed) hsync hfinal

/-- What ends committed had its COMMIT acknowledged before the closing call returned, exactly when
the connection did not give the handler of the acknowledgement up. -/
theorem acknowledged_iff_of_committed (earlier later : List Step) {s : Client}
    (hs : after .blocking {} earlier = s) (step : Step) (tx : Nat) {s₁ : Client}
    (hstep : closing? s step = some (tx, s₁)) {t : Transaction}
    (ht : s₁.transactions[tx]? = some t) (ho : t.isOpen = true)
    (hsync : Truthful tx (sendCommit tx (s₁.updateTransaction tx Transaction.claim)).2)
    (hfinal : (after .blocking {} (earlier ++ step :: later)).final? tx = some .committed) :
    (∃ metadata, (perform .blocking s step).2.answers tx .commit = [.success metadata]) ↔
      (perform .blocking s step).2.answers tx .commit ≠ [.dropped] := by
  have hsettled : Settled s := hs ▸ settled_after settled_start earlier
  rcases perform_of_closing hstep with ⟨hcalm, hperform⟩
  have hc : t.closing = false := (hsettled.calm hcalm).unclaimed ht ho
  have hcommitted : (perform .blocking s step).2.final? tx = some .committed := by
    rcases closing_close (hsettled.calm hcalm).passive ht hc ho with ⟨final, events, -, hclosed⟩
    have hclose : (perform .blocking s step).2.final? tx = some final := by
      rw [hperform]
      exact final?_of_closed hclosed
    -- A terminal state stays, so the last one is the first.
    have hlast := (grows_after .blocking (perform .blocking s step).2 later).final? hclose
    have hafter : after .blocking {} (earlier ++ step :: later) =
        after .blocking (perform .blocking s step).2 later := by
      rw [after_append, hs]
      rfl
    rw [hafter, hlast] at hfinal
    rwa [hfinal] at hclose
  rcases heard_of_perform earlier hs hstep ht hc hsync hcommitted with ⟨outcome, hnofailure, hcome⟩
  rw [hcome]
  cases outcome with
  | success metadata => simp
  | failure e => simp [Outcome.failure?] at hnofailure
  | dropped => simp

/-- A transaction is marked for commit. -/
def marked : List Step :=
  begun ++ [.success "t"]

theorem acknowledged_of_marked :
    (∃ metadata, (perform .blocking (after .blocking {} marked) (.close "t" none)).2.answers 0
        .commit = [.success metadata]) ↔
      (perform .blocking (after .blocking {} marked) (.close "t" none)).2.answers 0 .commit ≠
        [.dropped] :=
  acknowledged_iff_of_committed marked [] rfl (.close "t" none) 0 rfl
    (t := { title := "t", reported := true, state := .markedSuccess, holdings := [⟨"t", true⟩] })
    rfl rfl (truthful_of_unlaid 0 (by decide) rfl) rfl

/-- The connection will give up the handler of the acknowledgement of COMMIT. -/
def unheard : List Step :=
  begun ++ [.script ⟨Message.commit, none, some { outcome := .dropped }⟩, .success "t"]

/-- What ends committed may have heard of no success. -/
theorem exists_committed_unacknowledged :
    ¬ ∀ (earlier later : List Step) (step : Step) (tx : Nat) (s₁ : Client) (t : Transaction),
      closing? (after .blocking {} earlier) step = some (tx, s₁) →
      s₁.transactions[tx]? = some t → t.isOpen = true →
      Truthful tx (sendCommit tx (s₁.updateTransaction tx Transaction.claim)).2 →
      (after .blocking {} (earlier ++ step :: later)).final? tx = some .committed →
      ∃ metadata, (perform .blocking (after .blocking {} earlier) step).2.answers tx .commit =
        [.success metadata] := by
  intro hall
  -- The close succeeds, although the only thing that came of COMMIT is the end of its handler.
  have hclose := hall unheard [] (.close "t" none) 0 _
    { title := "t", reported := true, state := .markedSuccess, holdings := [⟨"t", true⟩] } rfl rfl
    rfl (truthful_of_unlaid 0 (by decide) rfl) rfl
  have hdropped : (perform .blocking (after .blocking {} unheard) (.close "t" none)).2.answers 0
      .commit = [.dropped] := rfl
  rcases hclose with ⟨metadata, hsuccess⟩
  rw [hdropped] at hsuccess
  simp at hsuccess

end Blocking

end ClientTransaction
