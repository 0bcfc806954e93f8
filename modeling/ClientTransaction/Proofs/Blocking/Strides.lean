import ClientTransaction.Proofs.Scenario.Strides

/-!
# Blocking.Strides — the strides of a step that waits

Replies may come during every call, so they come between the RUN of a statement and its PULL_ALL
too. Closing concerns neither results nor the marks and the bookmark of a transaction; only a
statement adds to a ledger, and only a statement that cannot be sent leaves a mark.
-/

namespace ClientTransaction.Blocking

open Scenario
open Nonblocking (Situation answered exists_of_transaction?)

/-- From `s` to `s'` nothing is said, and nothing is sent for a statement. -/
structure Goes (s s' : Client) : Prop where
  passing : Passing .blocking (.of s) (.of s')
  passive : s'.connection.Passive

section

variable {s s₁ s₂ : Client}

namespace Goes

theorem refl (h : s.connection.Passive) : Goes s s :=
  ⟨.refl _, h⟩

theorem trans (h : Goes s s₁) (h' : Goes s₁ s₂) : Goes s s₂ :=
  ⟨h.passing.trans h'.passing, h'.passive⟩

/-- Something happens apart, and the queue stays as it is. -/
theorem of_apart (hp : s.connection.Passive) (hq : s₁.connection.queue = s.connection.queue)
    (h : Apart .blocking ⟨s.connection.queue, s⟩ ⟨s.connection.queue, s₁⟩) : Goes s s₁ where
  passing := by
    unfold Situation.of
    rw [hq]
    exact .of_apart h
  passive := by
    intro r hr
    exact hp r (hq ▸ hr)

theorem record (hp : s.connection.Passive) {e : Event} (he : e.receipt? = none)
    (hn : e.tiding? = none) : Goes s (s.record e) :=
  of_apart hp rfl (.record _ s he hn)

theorem updateTransaction (hp : s.connection.Passive) (tx : Nat) {f : Transaction → Transaction}
    (hstate : ∀ t : Transaction, (f t).state = t.state)
    (hbookmark : ∀ t : Transaction, (f t).bookmark = t.bookmark) :
    Goes s (s.updateTransaction tx f) :=
  of_apart hp rfl (.updateTransaction _ s tx hstate hbookmark)

theorem finalize (hp : s.connection.Passive) (tx : Nat) {terminal : State}
    (ht : terminal.isTerminal = true) :
    Goes s (s.updateTransaction tx (Transaction.finalize terminal)) := by
  have heases : s.Eases (s.updateTransaction tx (Transaction.finalize terminal)) :=
    .finalize s tx fun t => State.isTerminal_finalize ht t.state
  have hbookmark : Nonblocking.Spares s
      (s.updateTransaction tx (Transaction.finalize terminal)) :=
    .updateTransaction s tx fun _ => rfl
  exact of_apart hp rfl (.of_client rfl rfl rfl hbookmark.bookmark heases (by simp))

theorem release (hp : s.connection.Passive) (tx : Nat) : Goes s (s.release tx) :=
  of_apart hp rfl (.release _ s tx)

theorem born (h : Goes s s₁) {tx : Nat} (ht : tx < s.transactions.length) :
    tx < s₁.transactions.length :=
  Nat.lt_of_lt_of_le ht h.passing.born

/-- One part after the other, unless the first one fails. -/
theorem andThen {sent : Sent} {next : Client → Sent} (h : Goes s sent.2)
    (hnext : ∀ s' : Client, Goes s s' → Goes s' (next s').2) : Goes s (sent.andThen next).2 := by
  rcases sent with ⟨failure, s₁⟩
  cases failure with
  | none => exact h.trans (hnext s₁ h)
  | some e => exact h

end Goes

/-! ## Replies -/

theorem goes_of_arrives (hp : s.connection.Passive) (h : Arrives [] s s₁) : Goes s s₁ := by
  -- No request that waits has a completion, so nothing is sent because of a reply.
  have hkept : ∀ σ σ' : Situation, (∀ r ∈ σ.outstanding, r.handler.ownsCompletion = false) →
      Arrival σ σ' → ∀ r ∈ σ'.outstanding, r.handler.ownsCompletion = false := by
    intro σ σ' hσ ha
    cases ha with
    | connect f => exact hσ
    | flush tx => exact hσ
    | @answer s before after r reply others _ _ =>
        have hnone := (s.calm_answer others (r := { r with reply := reply })
          (hσ r (List.mem_append_right _ (List.mem_cons_self ..)))).2
        intro q hq
        simp only [answered, hnone, Client.opening, List.append_nil] at hq
        rcases List.mem_append.1 hq with hq | hq
        · exact hσ q (List.mem_append_left _ hq)
        · exact hσ q (List.mem_append_right _ (List.mem_cons_of_mem _ hq))
  have hnone : ∀ σ : Situation, (∀ r ∈ σ.outstanding, r.handler.ownsCompletion = false) →
      ∀ r ∈ σ.outstanding, ∀ handle, r.handler = .begun handle → ¬ σ.client.Claimed r.owner := by
    intro σ hσ r hr handle hh
    have howns := hσ r hr
    simp [hh, Handler.ownsCompletion] at howns
  have hpassive : ∀ r ∈ (Situation.of s).outstanding, r.handler.ownsCompletion = false := hp
  rcases passing_arrivals hkept hnone hpassive h.arrivals with ⟨hpassing, hpassive'⟩
  exact ⟨hpassing, hpassive'⟩

theorem goes_deliver (hp : s.connection.Passive) (limit : Option Nat) :
    Goes s (s.deliver limit).2 :=
  goes_of_arrives hp (.deliver limit)

theorem goes_dropQueue (hp : s.connection.Passive) : Goes s s.dropQueue :=
  goes_of_arrives hp (.dropQueue s)

/-! ## Calls -/

theorem goes_call (tx : Nat) (kind : Call) {event : Event} (he : event.receipt? = none)
    (hn : event.tiding? = none) (hp : s.connection.Passive) : Goes s (call tx kind event s).2 := by
  have hnoted : Goes s (s.record event) := .record hp he hn
  have hattempt : Goes (s.record event)
      ((s.record event).updateConnection fun _ => ((s.record event).connection.attempt kind).2) :=
    .of_apart hnoted.passive (attempt_queue _ kind) (.updateConnection _ _ _)
  have hcome := (hnoted.trans hattempt).trans (goes_deliver hattempt.passive
    (some ((s.record event).connection.attempt kind).1.replies))
  unfold call
  dsimp only
  split
  · exact hcome.trans (.record hcome.passive rfl rfl)
  · exact hcome

theorem goes_sync (tx : Nat) (hp : s.connection.Passive) : Goes s (sync tx s).2 := by
  have hcall : Goes s (call tx .sync (.sync tx) s).2 := goes_call tx .sync rfl rfl hp
  unfold sync
  dsimp only
  split
  · exact hcall.andThen fun s' hs' => goes_deliver hs'.passive none
  · exact hcall

/-- A request is queued that is for no statement. -/
theorem goes_push (hp : s.connection.Passive) {f : Connection → Connection} {r : Request}
    (hq : (f s.connection).queue = s.connection.queue ++ [r]) (hs : r.Suits .blocking)
    (hr : r.exchange.cursor? = none) (ho : r.owner < s.transactions.length)
    (hh : r.handler.ownsCompletion = false) : Goes s (s.updateConnection f) where
  passing := by
    have hpushed : Apart .blocking ⟨s.connection.queue, s⟩ ⟨s.connection.queue ++ [r], s⟩ := by
      refine .of_sent fun q hmem => ?_
      rw [List.mem_singleton.1 hmem]
      exact ⟨hs, hr, ho⟩
    have hsent := hpushed.trans (.updateConnection _ s f)
    rw [← hq] at hsent
    exact .of_apart hsent
  passive := passive_push hp hh hq

theorem goes_run {tx : Nat} {exchange : Exchange} (hx : exchange.cursor? = none)
    (statement : String) (params : Params) (hp : s.connection.Passive)
    (ht : tx < s.transactions.length) :
    Goes s (run tx exchange statement params .ignore s).2 := by
  refine (goes_call tx .run rfl rfl hp).andThen fun s' hs' => ?_
  exact goes_push (f := fun c => c.run tx exchange statement .ignore)
    (r := ⟨tx, exchange, .run, .ignore, s'.connection.runReply statement⟩) hs'.passive rfl
    (Request.suits_ignored hx) hx (hs'.born ht) rfl

theorem goes_pullAll {tx : Nat} {exchange : Exchange} {handler : Handler}
    (hx : exchange.cursor? = none)
    (hs : ∀ reply : Reply, Request.Suits .blocking ⟨tx, exchange, .pullAll, handler, reply⟩)
    (hh : handler.ownsCompletion = false) (hp : s.connection.Passive)
    (ht : tx < s.transactions.length) : Goes s (pullAll tx exchange handler s).2 := by
  refine (goes_call tx .pullAll rfl rfl hp).andThen fun s' hs' => ?_
  exact goes_push (f := fun c => c.pullAll tx exchange handler)
    (r := ⟨tx, exchange, .pullAll, handler, s'.connection.pullReply⟩) hs'.passive rfl
    (hs _) hx (hs'.born ht) hh

/-! ## The end of a transaction -/

theorem goes_finish {tx : Nat} {exchange : Exchange}
    (hx : exchange = .commit ∨ exchange = .rollback) (statement : String) {terminal : State}
    (hf : terminal.isTerminal = true) (hp : s.connection.Passive)
    (ht : tx < s.transactions.length) :
    Goes s (finish tx exchange statement terminal s).2 := by
  -- The handler that captures a bookmark suits both exchanges.
  have hother : exchange.cursor? = none := by rcases hx with rfl | rfl <;> rfl
  have hsuits : ∀ reply : Reply,
      Request.Suits .blocking ⟨tx, exchange, .pullAll, .bookmark, reply⟩ :=
    fun _ => ⟨Or.inr ⟨rfl, rfl, rfl, hx⟩, fun _ => rfl⟩
  have hrun := goes_run hother statement [] hp ht
  have hpull := hrun.andThen fun s' hs' => goes_pullAll hother hsuits rfl hs'.passive (hs'.born ht)
  have hsync := hpull.andThen fun s' hs' => goes_sync tx hs'.passive
  exact hsync.andThen fun s' hs' => .finalize hs'.passive tx hf

theorem goes_rollbackExchange {tx : Nat} (hp : s.connection.Passive)
    (ht : tx < s.transactions.length) : Goes s (rollbackExchange tx s).2 :=
  goes_finish (Or.inr rfl) Message.rollback rfl hp ht

theorem goes_commitOrRollback {tx : Nat} (hp : s.connection.Passive)
    (ht : tx < s.transactions.length) : Goes s (commitOrRollback tx s).2 := by
  have hcommit : Goes s (commitExchange tx s).2 := goes_finish (Or.inl rfl) Message.commit rfl hp ht
  unfold commitOrRollback
  generalize commitExchange tx s = sent at hcommit
  rcases sent with ⟨failure, s₁⟩
  cases failure with
  | none => exact hcommit
  | some e =>
      -- What is left of COMMIT may be answered while ROLLBACK is sent.
      exact hcommit.trans (goes_rollbackExchange hcommit.passive (hcommit.born ht))

theorem goes_conclude {tx : Nat} (state : State) (hp : s.connection.Passive)
    (ht : tx < s.transactions.length) : Goes s (conclude tx state s).2 := by
  unfold conclude
  split
  · cases state with
    | markedSuccess => exact goes_commitOrRollback hp ht
    | active => exact goes_rollbackExchange hp ht
    | markedFailed => exact goes_rollbackExchange hp ht
    | failed => exact .refl hp
    | committed => exact .refl hp
    | rolledBack => exact .refl hp
  · split <;> exact .refl hp

theorem goes_close (tx : Nat) (hp : s.connection.Passive) : Goes s (close s tx).2 := by
  cases ht : s.transactions[tx]? with
  | none => simpa only [close_of_unborn ht] using Goes.refl hp
  | some t =>
      cases hc : t.closing with
      | true => simpa only [close_of_claimed ht hc] using Goes.refl hp
      | false =>
          have hclaim : Goes s (s.updateTransaction tx Transaction.claim) :=
            .updateTransaction hp tx (fun _ => rfl) fun _ => rfl
          have hconclude := hclaim.trans (goes_conclude t.state hclaim.passive
            (hclaim.born (List.getElem?_eq_some_iff.1 ht).1))
          rw [close_of_unclaimed ht hc]
          exact hconclude.trans (.release hconclude.passive tx)

/-! ## Beginning -/

theorem goes_sendBegin {tx : Nat} (config : Config) (hp : s.connection.Passive)
    (ht : tx < s.transactions.length) : Goes s (sendBegin tx config s).2 := by
  have hrun : Goes s (run tx .begin Message.begin config.beginParameters .ignore s).2 :=
    goes_run rfl _ _ hp ht
  have hpull : ∀ s', Goes s s' → Goes s' (pullAll tx .begin .ignore s').2 := fun s' hs' =>
    goes_pullAll rfl (fun _ => ⟨Or.inl .begin, fun _ => rfl⟩) rfl hs'.passive (hs'.born ht)
  have hsent := hrun.andThen hpull
  unfold sendBegin
  dsimp only
  split
  · exact hsent
  · exact hsent.andThen fun s' hs' => goes_sync tx hs'.passive

/-- What could not be begun is closed, and nothing is sent for it. The mark that says so does not
outlast the call. -/
theorem goes_close_failed {tx : Nat} (hp : s.connection.Passive)
    (hlive : s.footing? tx = some ⟨false, none⟩) :
    Goes s (close (s.updateTransaction tx Transaction.markFailed) tx).2 := by
  rcases Option.map_eq_some_iff.1 hlive with ⟨t, ht, hf⟩
  have hopen : t.state.isTerminal = false := by
    simpa [Transaction.isOpen, State.isOpen] using
      t.isOpen_iff_footing.2 (congrArg Footing.final? hf)
  have hstate : t.markFailed.state = .failed := by
    simp [Transaction.markFailed, State.markFailed, hopen]
  have ht' : (s.updateTransaction tx Transaction.markFailed).transactions[tx]? =
      some t.markFailed := by
    simp [ht]
  have hclose : (close (s.updateTransaction tx Transaction.markFailed) tx).2 =
      ((s.updateTransaction tx Transaction.markFailed).updateTransaction tx
        Transaction.claim).release tx := by
    rw [close_of_unclaimed ht' (congrArg Footing.claimed hf), hstate]
    unfold conclude
    split <;> rfl
  -- Mark, claim and release come to one change of the transaction, which ends it.
  have heases : s.Eases (((s.updateTransaction tx Transaction.markFailed).updateTransaction tx
      Transaction.claim).release tx) := by
    have hended : s.Eases (s.updateTransaction tx fun t =>
        Transaction.finalize .rolledBack t.markFailed.claim) := by
      refine .finalize s tx fun t => ?_
      simp only [Transaction.finalize, State.finalize]
      split
      · assumption
      · rfl
    refine hended.trans (.of_transactions ?_)
    simp [Client.release, List.modify_modify_eq, Function.comp_def]
  have hbookmark : Nonblocking.Spares s (((s.updateTransaction tx
      Transaction.markFailed).updateTransaction tx Transaction.claim).release tx) := by
    have hmark : Nonblocking.Spares s (s.updateTransaction tx Transaction.markFailed) :=
      .updateTransaction s tx fun _ => rfl
    have hclaim := hmark.trans (.updateTransaction _ tx (f := Transaction.claim) fun _ => rfl)
    exact hclaim.trans (.release _ tx)
  rw [hclose]
  exact .of_apart hp rfl (.of_client rfl hbookmark.receipts hbookmark.tidings
    hbookmark.bookmark heases (by simp [Client.release]))

theorem goes_begin (hp : s.connection.Passive) (title : String) (reported : Bool)
    (config : Config) : Goes s (begin s title reported config).2 := by
  have hadd : Goes s (s.addTransaction { title := title, reported := reported }) :=
    .of_apart hp rfl (.of_client rfl rfl rfl (Nonblocking.Spares.addTransaction s rfl).bookmark
      (.addTransaction s rfl) (by simp))
  have hlive : (s.addTransaction { title := title, reported := reported }).footing?
      s.transactions.length = some ⟨false, none⟩ := by
    simp [Client.footing?, Client.addTransaction]
    rfl
  have hnew : s.transactions.length <
      (s.addTransaction { title := title, reported := reported }).transactions.length := by simp
  have hsent := hadd.trans (goes_sendBegin config hadd.passive hnew)
  rcases ran_sendBegin s.transactions.length config hadd.passive with ⟨calls, hran⟩
  rcases made_of_ran hran with ⟨events, hmade⟩
  unfold begin
  dsimp only
  generalize sendBegin s.transactions.length config
    (s.addTransaction { title := title, reported := reported }) = sent at hsent hmade
  rcases sent with ⟨failure, s₁⟩
  cases failure with
  | none =>
      exact hsent.trans (.updateTransaction hsent.passive _ (fun _ => rfl) fun _ => rfl)
  | some e =>
      exact hsent.trans (goes_close_failed hsent.passive ((hmade.footing _).trans hlive))

/-! ## Statements -/

/-- A part of the statement `cursor` may be sent, and other statements keep their ledgers. -/
structure Asks (s s' : Client) : Prop where
  strides : Strides .blocking [] (.of s) (.of s')
  passive : s'.connection.Passive
  size : s'.cursors.length = s.cursors.length
  born : s.transactions.length ≤ s'.transactions.length

theorem Goes.asks (h : Goes s s₁) : Asks s s₁ :=
  ⟨h.passing.strides, h.passive, h.passing.size, h.passing.born⟩

theorem Asks.trans (h : Asks s s₁) (h' : Asks s₁ s₂) : Asks s s₂ :=
  ⟨h.strides.trans h'.strides, h'.passive, h'.size.trans h.size, Nat.le_trans h.born h'.born⟩

/-- A request for a statement is queued. -/
theorem asks_push {f : Connection → Connection} {r : Request} {cursor : Nat}
    (hp : s.connection.Passive) (hq : (f s.connection).queue = s.connection.queue ++ [r])
    (hs : r.Suits .blocking) (he : r.exchange = .statement cursor) (hc : cursor < s.cursors.length)
    (ho : r.owner < s.transactions.length) (hh : r.handler.ownsCompletion = false)
    (hnext : ledger (.of s) cursor ++ [r.part] <+: [.run, .pullAll]) :
    Asks s (s.updateConnection f) ∧
      ledger (.of (s.updateConnection f)) cursor = ledger (.of s) cursor ++ [r.part] := by
  have hqueued : Strides .blocking [] (.of s) ⟨s.connection.queue ++ [r], s⟩ :=
    .single (.sends hs he hc ho hnext)
  have hsent := hqueued.trans (.apart (.updateConnection _ s f))
  rw [← hq] at hsent
  refine ⟨⟨hsent, passive_push hp hh hq, rfl, Nat.le_refl _⟩, ?_⟩
  have hreplies : (s.updateConnection f).replies cursor = s.replies cursor := rfl
  simp [ledger, Situation.of, hq, he, hreplies]

theorem asks_run {tx cursor : Nat} (statement : String) (params : Params)
    (hp : s.connection.Passive) (hc : cursor < s.cursors.length) (ht : tx < s.transactions.length)
    (hl : ledger (.of s) cursor = []) {failure : Option Error}
    (h : run tx (.statement cursor) statement params (.columns cursor) s = (failure, s₁)) :
    Asks s s₁ ∧ (failure = none → ledger (.of s₁) cursor = [.run]) := by
  have hcall : Goes s
      (call tx .run (.run tx (.statement cursor) statement params) s).2 :=
    goes_call tx .run rfl rfl hp
  unfold run at h
  generalize call tx .run (.run tx (.statement cursor) statement params) s = sent at h hcall
  rcases sent with ⟨refused, s₀⟩
  cases refused with
  | some e =>
      -- The call has failed, and no request is queued.
      cases h
      exact ⟨hcall.asks, fun hnone => absurd hnone (by simp)⟩
  | none =>
      cases h
      have hl₀ : ledger (.of s₀) cursor = [] := (hcall.passing.ledger cursor).trans hl
      rcases asks_push (f := fun c => c.run tx (.statement cursor) statement (.columns cursor))
        (r := ⟨tx, .statement cursor, .run, .columns cursor, s₀.connection.runReply statement⟩)
        hcall.passive rfl ⟨Or.inl (.columns cursor), fun _ => rfl⟩ rfl (hcall.asks.size ▸ hc)
        (hcall.born ht) rfl (by simp [hl₀]) with ⟨hasks, hledger⟩
      exact ⟨hcall.asks.trans hasks, fun _ => by rw [hledger, hl₀]; rfl⟩

theorem asks_pullAll {tx cursor : Nat} (hp : s.connection.Passive) (hc : cursor < s.cursors.length)
    (ht : tx < s.transactions.length) (hl : ledger (.of s) cursor = [.run])
    {failure : Option Error} (h : pullAll tx (.statement cursor) (.rows cursor) s = (failure, s₁)) :
    Asks s s₁ ∧ (failure = none → ledger (.of s₁) cursor = [.run, .pullAll]) := by
  have hcall : Goes s (call tx .pullAll (.pullAll tx (.statement cursor)) s).2 :=
    goes_call tx .pullAll rfl rfl hp
  unfold pullAll at h
  generalize call tx .pullAll (.pullAll tx (.statement cursor)) s = sent at h hcall
  rcases sent with ⟨refused, s₀⟩
  cases refused with
  | some e =>
      cases h
      exact ⟨hcall.asks, fun hnone => absurd hnone (by simp)⟩
  | none =>
      cases h
      have hl₀ : ledger (.of s₀) cursor = [.run] := (hcall.passing.ledger cursor).trans hl
      rcases asks_push (f := fun c => c.pullAll tx (.statement cursor) (.rows cursor))
        (r := ⟨tx, .statement cursor, .pullAll, .rows cursor, s₀.connection.pullReply⟩)
        hcall.passive rfl ⟨Or.inl (.rows cursor), fun _ => rfl⟩ rfl (hcall.asks.size ▸ hc)
        (hcall.born ht) rfl (by simp [hl₀]) with ⟨hasks, hledger⟩
      exact ⟨hcall.asks.trans hasks, fun _ => by rw [hledger, hl₀]; rfl⟩

/-- Both parts of a statement, and a flush after them. If nothing of it fails, both are sent. -/
theorem asks_statement {tx cursor : Nat} (statement : String) (params : Params)
    (hp : s.connection.Passive) (hc : cursor < s.cursors.length) (ht : tx < s.transactions.length)
    (hl : ledger (.of s) cursor = []) {failure : Option Error}
    (h : ((run tx (.statement cursor) statement params (.columns cursor) s).andThen
      (pullAll tx (.statement cursor) (.rows cursor))).andThen (flush tx) = (failure, s₁)) :
    Asks s s₁ ∧ (failure = none → ledger (.of s₁) cursor = [.run, .pullAll]) := by
  rcases hrun : run tx (.statement cursor) statement params (.columns cursor) s with ⟨refused, s₂⟩
  rcases asks_run statement params hp hc ht hl hrun with ⟨hasked, hledger⟩
  rw [hrun] at h
  cases refused with
  | some e =>
      cases h
      exact ⟨hasked, fun hnone => absurd hnone (by simp)⟩
  | none =>
      rcases hpull : pullAll tx (.statement cursor) (.rows cursor) s₂ with ⟨refused, s₃⟩
      rcases asks_pullAll hasked.passive (hasked.size ▸ hc) (Nat.lt_of_lt_of_le ht hasked.born)
        (hledger rfl) hpull with ⟨hpulled, hfull⟩
      simp only [Sent.andThen, hpull] at h
      cases refused with
      | some e =>
          cases h
          exact ⟨hasked.trans hpulled, fun hnone => absurd hnone (by simp)⟩
      | none =>
          -- A flush sends nothing more.
          have hflush : Goes s₃ (flush tx s₃).2 := goes_call tx .flush rfl rfl hpulled.passive
          rw [show flush tx s₃ = (failure, s₁) from h] at hflush
          exact ⟨(hasked.trans hpulled).trans hflush.asks,
            fun _ => (hflush.passing.ledger cursor).trans (hfull rfl)⟩

end

/-- A statement that is not refused is sent, and if that fails the transaction has failed. -/
theorem strides_runStatement {s : Client} {tx : Nat} (hp : s.connection.Passive)
    (ht : tx < s.transactions.length) (hl : ledger (.of s) s.cursors.length = [])
    (hr : s.transactions[tx]?.bind Transaction.refusal? = none) (statement : String)
    (params : Params) (name : Option String) :
    Strides .blocking
      ((runStatement s tx statement params name).1.toList.map fun _ => (tx, .mark .failed)) (.of s)
      (.of (runStatement s tx statement params name).2) := by
  have hbegun : Strides .blocking [] (.of s)
      (.of (s.addCursor { statement := statement, owner := tx })) :=
    .single (.begins tx statement none)
  have hnew : s.cursors.length <
      (s.addCursor { statement := statement, owner := tx }).cursors.length := by simp
  unfold runStatement
  rw [hr]
  dsimp only
  rcases hsent : ((run tx (.statement s.cursors.length) statement params
    (.columns s.cursors.length) (s.addCursor { statement := statement, owner := tx })).andThen
    (pullAll tx (.statement s.cursors.length) (.rows s.cursors.length))).andThen (flush tx) with
    ⟨failure, s₁⟩
  have hasks : Asks (s.addCursor { statement := statement, owner := tx }) s₁ :=
    (asks_statement (s := s.addCursor { statement := statement, owner := tx }) statement params hp
      hnew ht hl hsent).1
  cases failure with
  | none =>
      have hnamed : Apart .blocking (.of s₁)
          (.of (s₁.updateCursor s.cursors.length fun c => { c with name := name })) :=
        .of_client (s₁.results_updateCursor _ fun _ => rfl) rfl rfl (fun _ => rfl)
          (.of_transactions rfl) (Nat.le_refl _)
      exact (hbegun.trans hasks.strides).trans (.apart hnamed)
  | some e =>
      -- Whatever has been queued stays queued, and the transaction is given up.
      have hmarked := Strides.speaks .blocking (Nat.lt_of_lt_of_le ht hasks.born) (.mark .failed)
      rw [apply_mark_failed] at hmarked
      exact (hbegun.trans hasks.strides).trans hmarked

/-! ## Steps -/

section

variable {s : Client} {name : String}

theorem goes_wait (hp : s.connection.Passive) (cursor : Nat) : Goes s (wait s cursor).2 := by
  cases hc : s.cursors[cursor]? with
  | none => simpa [wait, hc] using Goes.refl hp
  | some c =>
      cases hcomplete : c.isComplete with
      | true => simpa [wait, hc, hcomplete] using Goes.refl hp
      | false =>
          rw [wait_of_unfinished hc hcomplete]
          exact goes_sync c.owner hp

theorem strides_read (hp : s.connection.Passive) (view : Cursor → Answer) :
    Strides .blocking [] (.of s) (.of (Scenario.read .blocking s name view).2) :=
  strides_onCursor fun cursor _ _ => (goes_wait hp cursor).passing.strides

/-- One who holds a transaction lets it go. -/
theorem goes_letGo (hp : s.connection.Passive) (tx : Nat) (name : String) :
    Goes s (s.updateTransaction tx (Transaction.letGo name)) :=
  .updateTransaction hp tx (fun _ => rfl) fun _ => rfl

/-- A transaction is let go, marked and closed. -/
theorem strides_marked (hp : s.connection.Passive) {tx : Nat} {t : Transaction}
    (hname : transaction? s name = some tx) (ht : s.transactions[tx]? = some t) (m : Mark) :
    Strides .blocking (said s name (.mark m)) (.of s)
      (.of (close ((s.updateTransaction tx (Transaction.letGo name)).updateTransaction tx
        (Deed.mark m).apply) tx).2) := by
  have hgone := goes_letGo hp tx name
  have hmarked := Strides.speaks .blocking (hgone.born (List.getElem?_eq_some_iff.1 ht).1) (.mark m)
  have hclosed := goes_close (s := (s.updateTransaction tx
    (Transaction.letGo name)).updateTransaction tx (Deed.mark m).apply) tx hp
  have hall := (hgone.passing.strides.trans hmarked).trans hclosed.passing.strides
  rw [said_of_transaction? hname]
  simpa using hall

theorem strides_run (hp : s.connection.Passive) (hl : ledger (.of s) s.cursors.length = [])
    (statement : String) (params : Params) (result : Option String) :
    Strides .blocking (deeds .blocking s (.run name statement params result)) (.of s)
      (.of (perform .blocking s (.run name statement params result)).2) := by
  cases hname : transaction? s name with
  | none =>
      have hmissing : perform .blocking s (.run name statement params result) = (.missing, s) := by
        simp [perform, onTransaction, hname]
      have hnothing : deeds .blocking s (.run name statement params result) = [] := by
        simp [deeds, said_of_none hname]
      rw [hmissing, hnothing]
      exact .refl _
  | some tx =>
      rcases exists_of_transaction? hname with ⟨t, ht, -⟩
      have hperform : perform .blocking s (.run name statement params result) =
          (.ofFailure .done (runStatement s tx statement params result).1,
            (runStatement s tx statement params result).2) := by
        simp [perform, onTransaction, hname, ht, Scenario.run]
      cases hrefusal : s.transactions[tx]?.bind Transaction.refusal? with
      | some e =>
          have hnothing : deeds .blocking s (.run name statement params result) = [] := by
            simp [deeds, unsent, hperform, hname, hrefusal, runStatement, Answer.ofFailure]
          have hsame : (runStatement s tx statement params result).2 = s := by
            simp [runStatement, hrefusal]
          rw [hnothing, hperform, hsame]
          exact .refl _
      | none =>
          have hdeeds : deeds .blocking s (.run name statement params result) =
              (runStatement s tx statement params result).1.toList.map
                fun _ => (tx, .mark .failed) := by
            simp only [deeds, unsent, hperform, hname, said_of_transaction? hname]
            cases (runStatement s tx statement params result).1 <;>
              simp [Answer.ofFailure, hrefusal]
          rw [hdeeds, hperform]
          exact strides_runStatement hp (List.getElem?_eq_some_iff.1 ht).1 hl hrefusal statement
            params result

end

/-- A step of an application whose calls wait is made of strides. -/
theorem strides_perform {s : Client} (h : Settled s) (hl : ledger (.of s) s.cursors.length = [])
    (step : Step) :
    Strides .blocking (deeds .blocking s step) (.of s) (.of (perform .blocking s step).2) := by
  have hp := h.passive
  -- Calls that wait hand out no handles.
  have hhandle : ∀ (name : String) (act : Nat → Answer × Client),
      Strides .blocking [] (.of s) (.of (onHandle s name act).2) := by
    intro name act
    simp only [onHandle, handle?, Handle.find?, h.handles, List.findIdx?_nil]
    exact .refl _
  cases step with
  | script script => exact strides_connect _ rfl
  | failSends fault => exact strides_connect _ rfl
  | heal => exact strides_connect _ rfl
  | layDown verdicts => exact strides_connect _ rfl
  | hold on => exact strides_connect _ rfl
  | disconnect => exact strides_connect _ rfl
  | reconnect => exact strides_connect _ rfl
  | deliver limit => exact (goes_deliver hp limit).passing.strides
  | dropQueue => exact (goes_dropQueue hp).passing.strides
  | begin b =>
      show Strides .blocking [] (.of s) (.of (Scenario.begin .blocking s b).2)
      unfold Scenario.begin
      split
      · exact .refl _
      · exact (goes_begin hp _ _ _).passing.strides
  | success name => exact strides_change _ apply_mark_success.symm
  | failure name => exact strides_change _ apply_mark_failure.symm
  | resultFetched name =>
      refine strides_onTransaction (fun _ => rfl) fun tx t _ ht => ?_
      exact (Goes.updateTransaction hp tx (f := id) (fun _ => rfl) fun _ => rfl).passing.strides
  | resultFailed name e => exact strides_change _ (apply_mark_error e).symm
  | setBookmark name source => exact strides_setBookmark name source
  | bookmark name => exact strides_look fun _ _ => rfl
  | observe name => exact strides_look fun _ _ => rfl
  | describe name => exact strides_look fun _ _ => rfl
  | sameId name other =>
      exact strides_onTransaction (fun _ => rfl) fun _ _ _ _ => strides_look fun _ _ => rfl
  | run name statement params result => exact strides_run hp hl statement params result
  | close name handle =>
      exact strides_onTransaction (fun _ => rfl) fun tx _ _ _ =>
        (goes_close tx hp).passing.strides
  | commit name handle =>
      refine strides_onTransaction (said_of_none · _) fun tx t hname ht => ?_
      have hmarked := strides_marked hp hname ht .success
      rwa [apply_mark_success] at hmarked
  | rollback name handle =>
      refine strides_onTransaction (said_of_none · _) fun tx t hname ht => ?_
      have hmarked := strides_marked hp hname ht .failure
      rwa [apply_mark_failure] at hmarked
  | clone name other => exact strides_look fun _ _ => rfl
  | drop name =>
      refine strides_onTransaction (fun _ => rfl) fun tx t _ _ => ?_
      have hgone := goes_letGo hp tx name
      exact (hgone.trans (goes_close tx hgone.passive)).passing.strides
  | keys name => exact strides_read hp _
  | records name => exact strides_read hp _
  | consume name handle => exact strides_read hp _
  | cursor name => exact strides_onCursor fun _ _ _ => .refl _
  | get name index key =>
      refine strides_onCursor fun _ c _ => ?_
      split <;> exact .refl _
  | dropResult name =>
      refine strides_onCursor fun cursor c _ => ?_
      have hqueue := congrArg Connection.queue (Client.Calm.dropCursor s cursor).connection
      exact (Goes.of_apart hp hqueue (.dropCursor _ s cursor)).passing.strides
  | take name => exact hhandle name _
  | poll name => exact hhandle name _
  | dropHandle name => exact hhandle name _

end ClientTransaction.Blocking
