import ClientTransaction.Scenario
import ClientTransaction.Proofs.Client.Growth

/-!
# Scenario.Growth — every step only adds to a client

The operations of both flavors are made of operations of the client, so a client grows with every
step of a scenario, and with every run.
-/

namespace ClientTransaction

open Client

/-! ## Calls that wait -/

namespace Blocking

theorem grows_andThen {s : Client} {sent : Sent} {next : Client → Sent} (h : s.Grows sent.2)
    (hnext : ∀ s' : Client, s'.Grows (next s').2) : s.Grows (sent.andThen next).2 := by
  rcases sent with ⟨failure, s'⟩
  cases failure with
  | none => exact h.trans (hnext s')
  | some e => exact h

theorem grows_call (tx : Nat) (kind : Call) (event : Event) (s : Client) :
    s.Grows (call tx kind event s).2 := by
  unfold call
  dsimp only
  have hd := (s.grows_record event).trans ((grows_updateConnection _ fun _ =>
    ((s.record event).connection.attempt kind).2).trans
      (grows_deliver _ (some ((s.record event).connection.attempt kind).1.replies)))
  split
  · exact hd.trans (grows_record _ _)
  · exact hd

theorem grows_run (tx : Nat) (exchange : Exchange) (statement : String) (params : Params)
    (handler : Handler) (s : Client) :
    s.Grows (run tx exchange statement params handler s).2 :=
  grows_andThen (grows_call _ _ _ _) fun s' =>
    s'.grows_updateConnection fun c => c.run tx exchange statement handler

theorem grows_pullAll (tx : Nat) (exchange : Exchange) (handler : Handler) (s : Client) :
    s.Grows (pullAll tx exchange handler s).2 :=
  grows_andThen (grows_call _ _ _ _) fun s' =>
    s'.grows_updateConnection fun c => c.pullAll tx exchange handler

theorem grows_sync (tx : Nat) (s : Client) : s.Grows (sync tx s).2 := by
  unfold sync
  dsimp only
  split
  · exact grows_andThen (grows_call _ _ _ _) fun s' => s'.grows_deliver none
  · exact grows_call _ _ _ _

theorem grows_finish (tx : Nat) (exchange : Exchange) (statement : String) {terminal : State}
    (h : terminal.isTerminal = true) (s : Client) :
    s.Grows (finish tx exchange statement terminal s).2 := by
  refine grows_andThen (grows_andThen (grows_andThen (grows_run _ _ _ _ _ _) ?_) ?_) ?_
  · exact grows_pullAll _ _ _
  · exact grows_sync _
  · intro s'
    exact s'.grows_updateTransaction tx (Transaction.grows_finalize terminal h)

theorem grows_commitOrRollback (tx : Nat) (s : Client) :
    s.Grows (commitOrRollback tx s).2 := by
  have hc : s.Grows (commitExchange tx s).2 := grows_finish _ _ _ rfl s
  unfold commitOrRollback
  split <;> rename_i heq <;> rw [heq] at hc
  · exact hc
  · exact hc.trans (grows_finish _ _ _ rfl _)

theorem grows_conclude (tx : Nat) (state : State) (s : Client) :
    s.Grows (conclude tx state s).2 := by
  unfold conclude
  split
  · cases state with
    | markedSuccess => exact grows_commitOrRollback tx s
    | active => exact grows_finish _ _ _ rfl s
    | markedFailed => exact grows_finish _ _ _ rfl s
    | failed => exact Grows.refl s
    | committed => exact Grows.refl s
    | rolledBack => exact Grows.refl s
  · split <;> exact Grows.refl s

theorem grows_close (s : Client) (tx : Nat) : s.Grows (close s tx).2 := by
  unfold close
  split
  · exact Grows.refl s
  · split
    · exact Grows.refl s
    · exact (s.grows_updateTransaction tx Transaction.grows_claim).trans
        ((grows_conclude _ _ _).trans (grows_release _ _))

theorem grows_commit (s : Client) (tx : Nat) : s.Grows (commit s tx).2 :=
  (s.grows_updateTransaction tx Transaction.grows_markSuccess).trans (grows_close _ _)

theorem grows_rollback (s : Client) (tx : Nat) : s.Grows (rollback s tx).2 :=
  (s.grows_updateTransaction tx Transaction.grows_markFailure).trans (grows_close _ _)

theorem grows_sendBegin (tx : Nat) (config : Config) (s : Client) :
    s.Grows (sendBegin tx config s).2 := by
  have h := grows_andThen (grows_run tx .begin Message.begin config.beginParameters .ignore s)
    (grows_pullAll tx .begin .ignore)
  unfold sendBegin
  dsimp only
  split
  · exact h
  · exact grows_andThen h (grows_sync tx)

theorem grows_begin (s : Client) (title : String) (reported : Bool) (config : Config) :
    s.Grows (begin s title reported config).2 := by
  have h := (s.grows_addTransaction { title := title, reported := reported }).trans
    (grows_sendBegin s.transactions.length config _)
  unfold begin
  dsimp only
  split <;> rename_i heq <;> rw [heq] at h
  · exact h.trans (grows_updateTransaction _ _ (Transaction.grows_hold title true))
  · exact (h.trans (grows_updateTransaction _ _ Transaction.grows_markFailed)).trans
      (grows_close _ _)

theorem grows_runStatement (s : Client) (tx : Nat) (statement : String) (params : Params)
    (name : Option String) : s.Grows (runStatement s tx statement params name).2 := by
  unfold runStatement
  split
  · exact Grows.refl s
  · have h : s.Grows (((run tx (.statement s.cursors.length) statement params
        (.columns s.cursors.length)
        (s.addCursor { statement := statement, owner := tx })).andThen
        (pullAll tx (.statement s.cursors.length) (.rows s.cursors.length))).andThen (flush tx)).2 :=
      (s.grows_addCursor _).trans (grows_andThen (grows_andThen (grows_run _ _ _ _ _ _)
        (grows_pullAll _ _ _)) (grows_call _ _ _))
    dsimp only
    split <;> rename_i heq <;> rw [heq] at h
    · exact h.trans (grows_updateCursor _ _ _)
    · exact h.trans (grows_updateTransaction _ _ Transaction.grows_markFailed)

theorem grows_wait (s : Client) (cursor : Nat) : s.Grows (wait s cursor).2 := by
  unfold wait
  split
  · exact Grows.refl s
  · rename_i c _
    split
    · exact Grows.refl s
    · have h := grows_sync c.owner s
      dsimp only
      split <;> exact h

end Blocking

/-! ## Calls that return handles -/

namespace Nonblocking

theorem grows_begin (s : Client) (title : String) (reported : Bool) (config : Config)
    (name : String) : s.Grows (begin s title reported config name) := by
  have h := s.grows_addTransaction { title := title, reported := reported }
  unfold begin
  dsimp only
  split
  · exact (h.trans (grows_send _ _ _ _ _ _ _)).trans (grows_addHandle _ _)
  · exact ((h.trans (grows_addHandle _ _)).trans (grows_send _ _ _ _ _ _ _)).trans
      (grows_flush _ _)

theorem grows_runStatement (s : Client) (tx : Nat) (statement : String) (params : Params)
    (name : Option String) : s.Grows (runStatement s tx statement params name).2 := by
  unfold runStatement
  split
  · exact Grows.refl s
  · exact ((s.grows_addCursor _).trans (grows_send _ _ _ _ _ _ _)).trans (grows_flush _ _)

theorem grows_consume (s : Client) (cursor : Nat) (name : Option String) :
    s.Grows (consume s cursor name) := by
  unfold consume
  split
  · exact Grows.refl s
  · split
    · exact grows_addHandle _ _
    · exact (grows_updateCursor _ _ _).trans (grows_addHandle _ _)

theorem grows_sendTerminal (s : Client) (tx : Nat) (course : Course) (done : TerminalChain) :
    s.Grows (sendTerminal s tx course done) := by
  cases course with
  | finish result => exact (s.grows_fire tx done result).trans (grows_follow _ _)
  | commit => exact (grows_send _ _ _ _ _ _ _).trans (grows_flush _ _)
  | commitOrRollback => exact (grows_send _ _ _ _ _ _ _).trans (grows_flush _ _)
  | rollback => exact (grows_send _ _ _ _ _ _ _).trans (grows_flush _ _)

theorem grows_terminate (s : Client) (tx : Nat) (terminal : Terminal) (name : Option String) :
    s.Grows (terminate s tx terminal name) := by
  unfold terminate
  split
  · exact Grows.refl s
  · split
    · exact grows_addHandle _ _
    · exact ((s.grows_updateTransaction tx Transaction.grows_claim).trans
        (grows_addHandle _ _)).trans (grows_sendTerminal _ _ _ _)

theorem grows_drop (s : Client) (tx : Nat) (name : String) : s.Grows (drop s tx name) :=
  (s.grows_updateTransaction tx (Transaction.grows_letGo name)).trans
    ((grows_abandon _ _ _).trans (grows_follow _ _))

theorem grows_adopt (s : Client) (outcome : Option (Except Error Payload)) :
    s.Grows (adopt s outcome) := by
  unfold adopt
  split
  · split
    · exact grows_updateTransaction _ _ (Transaction.grows_hold _ true)
    · exact Grows.refl s
  · exact Grows.refl s

theorem grows_ask (s : Client) (handle : Nat)
    {question : Handle Payload → Option (Except Error Payload) × Handle Payload}
    (hq : ∀ h : Handle Payload, h.Grows (question h).2) : s.Grows (ask s handle question).2 := by
  unfold ask
  split
  · exact Grows.refl s
  · rename_i h hh
    exact (s.grows_setHandle hh (hq h)).trans (grows_adopt _ _)

theorem grows_dropHandle (s : Client) (handle : Nat) : s.Grows (dropHandle s handle) := by
  unfold dropHandle
  split
  · exact Grows.refl s
  · rename_i h hh
    have hset := s.grows_setHandle hh h.grows_drop
    dsimp only
    split
    · exact hset.trans ((grows_abandon _ _ _).trans (grows_follow _ _))
    · exact hset

end Nonblocking

/-! ## Steps -/

namespace Scenario

theorem grows_onTransaction {s : Client} {name : String} {act : Nat → Transaction → Answer × Client}
    (h : ∀ tx t, s.Grows (act tx t).2) : s.Grows (onTransaction s name act).2 := by
  unfold onTransaction
  split
  · exact Grows.refl s
  · split
    · exact Grows.refl s
    · exact h _ _

theorem grows_onCursor {s : Client} {name : String} {act : Nat → Cursor → Answer × Client}
    (h : ∀ cursor c, s.Grows (act cursor c).2) : s.Grows (onCursor s name act).2 := by
  unfold onCursor
  split
  · exact Grows.refl s
  · split
    · exact Grows.refl s
    · exact h _ _

theorem grows_onHandle {s : Client} {name : String} {act : Nat → Answer × Client}
    (h : ∀ handle, s.Grows (act handle).2) : s.Grows (onHandle s name act).2 := by
  unfold onHandle
  split
  · exact Grows.refl s
  · exact h _

theorem grows_connect (s : Client) (f : Connection → Connection) : s.Grows (connect s f).2 :=
  s.grows_updateConnection f

theorem grows_change (s : Client) (name : String) {f : Transaction → Transaction}
    (hf : ∀ t : Transaction, t.Grows (f t)) : s.Grows (change s name f).2 :=
  grows_onTransaction fun tx _ => s.grows_updateTransaction tx hf

theorem grows_begin (flavor : Flavor) (s : Client) (b : Begin) :
    s.Grows (begin flavor s b).2 := by
  unfold begin
  split
  · exact Grows.refl s
  · cases flavor with
    | blocking => exact Blocking.grows_begin _ _ _ _
    | nonblocking => exact Nonblocking.grows_begin _ _ _ _ _

theorem grows_run (flavor : Flavor) (s : Client) (tx : Nat) (statement : String) (params : Params)
    (result : Option String) : s.Grows (run flavor s tx statement params result).2 := by
  cases flavor with
  | blocking => exact Blocking.grows_runStatement _ _ _ _ _
  | nonblocking => exact Nonblocking.grows_runStatement _ _ _ _ _

theorem grows_terminate (flavor : Flavor) (s : Client) (name : String)
    (terminal : Nonblocking.Terminal) (handle : Option String) :
    s.Grows (terminate flavor s name terminal handle).2 := by
  apply grows_onTransaction
  intro tx _
  cases flavor with
  | nonblocking => exact Nonblocking.grows_terminate _ _ _ _
  | blocking =>
      have hlet := s.grows_updateTransaction tx (Transaction.grows_letGo name)
      cases terminal with
      | close => exact Blocking.grows_close s tx
      | commit => exact hlet.trans (Blocking.grows_commit _ tx)
      | rollback => exact hlet.trans (Blocking.grows_rollback _ tx)

theorem grows_drop (flavor : Flavor) (s : Client) (name : String) :
    s.Grows (drop flavor s name).2 := by
  apply grows_onTransaction
  intro tx _
  cases flavor with
  | nonblocking => exact Nonblocking.grows_drop _ _ _
  | blocking =>
      exact (s.grows_updateTransaction tx (Transaction.grows_letGo name)).trans
        (Blocking.grows_close _ tx)

theorem grows_read (flavor : Flavor) (s : Client) (name : String) (view : Cursor → Answer) :
    s.Grows (read flavor s name view).2 := by
  apply grows_onCursor
  intro cursor _
  cases flavor with
  | nonblocking => exact Grows.refl s
  | blocking => exact Blocking.grows_wait s cursor

theorem grows_consume (flavor : Flavor) (s : Client) (name : String) (handle : Option String) :
    s.Grows (consume flavor s name handle).2 := by
  cases flavor with
  | blocking => exact grows_read _ _ _ _
  | nonblocking => exact grows_onCursor fun _ _ => Nonblocking.grows_consume _ _ _

theorem grows_ask (s : Client) (name : String)
    {question : Handle Payload → Option (Except Error Payload) × Handle Payload}
    (hq : ∀ h : Handle Payload, h.Grows (question h).2) : s.Grows (ask s name question).2 :=
  grows_onHandle fun handle => Nonblocking.grows_ask s handle hq

theorem grows_perform (flavor : Flavor) (s : Client) (step : Step) :
    s.Grows (perform flavor s step).2 := by
  cases step with
  | script | failSends | heal | layDown | hold | disconnect | reconnect =>
      exact grows_connect s _
  | deliver limit => exact s.grows_deliver limit
  | dropQueue => exact s.grows_dropQueue
  | begin b => exact grows_begin flavor s b
  | success tx => exact grows_change s tx Transaction.grows_markSuccess
  | failure tx => exact grows_change s tx Transaction.grows_markFailure
  | resultFetched tx => exact grows_change s tx Transaction.Grows.refl
  | resultFailed tx e => exact grows_change s tx (Transaction.grows_resultFailed e)
  | setBookmark tx source =>
      apply grows_onTransaction
      intro place _
      split
      · exact s.grows_updateTransaction place (Transaction.grows_setBookmark _)
      · exact Grows.refl s
  | bookmark | observe => exact grows_onTransaction fun _ _ => Grows.refl s
  | describe tx =>
      apply grows_onTransaction
      intro _ _
      cases flavor <;> exact Grows.refl s
  | sameId tx other =>
      exact grows_onTransaction fun _ _ => grows_onTransaction fun _ _ => Grows.refl s
  | run tx statement params result =>
      exact grows_onTransaction fun tx _ => grows_run flavor s tx statement params result
  | close tx handle => exact grows_terminate flavor s tx .close handle
  | commit tx handle => exact grows_terminate flavor s tx .commit handle
  | rollback tx handle => exact grows_terminate flavor s tx .rollback handle
  | clone tx name =>
      apply grows_onTransaction
      intro tx _
      cases flavor with
      | nonblocking => exact s.grows_updateTransaction tx (Transaction.grows_hold name false)
      | blocking => exact Grows.refl s
  | drop tx => exact grows_drop flavor s tx
  | keys | records => exact grows_read _ _ _ _
  | consume result handle => exact grows_consume flavor s result handle
  | cursor => exact grows_onCursor fun _ _ => Grows.refl s
  | get result index key =>
      apply grows_onCursor
      intro _ c
      split <;> exact Grows.refl s
  | dropResult => exact grows_onCursor fun _ _ => s.grows_dropCursor _
  | take handle => exact grows_ask s handle Handle.grows_take
  | poll handle => exact grows_ask s handle Handle.grows_poll
  | dropHandle => exact grows_onHandle fun _ => Nonblocking.grows_dropHandle _ _

theorem grows_after (flavor : Flavor) (s : Client) (steps : List Step) :
    s.Grows (after flavor s steps) := by
  induction steps generalizing s with
  | nil => exact Grows.refl s
  | cons step rest ih => exact (grows_perform flavor s step).trans (ih _)

end Scenario

end ClientTransaction
