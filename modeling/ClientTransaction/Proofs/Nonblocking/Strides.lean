import ClientTransaction.Proofs.Scenario.Strides

/-!
# Nonblocking.Strides — the strides of a step that does not wait

A step does one thing of its own, and then replies may come. A statement sends both of its requests
at once. Whoever waits for the acknowledgement of a BEGIN has not got the transaction yet, so it has
not been claimed when the acknowledgement comes.
-/

namespace ClientTransaction.Nonblocking

open Scenario

/-- A transaction has not been claimed as long as its BEGIN is to be acknowledged. -/
theorem unclaimed_of_begun {σ : Situation} (hs : Sound σ) {r : Request} (hr : r ∈ σ.outstanding)
    {handle : Nat} (hh : r.handler = .begun handle) : ¬ σ.client.Claimed r.owner := by
  rcases hs.phases r.owner with ⟨p, hp⟩
  have hdecides : decides r = true := by simp [decides, hh, Handler.ownsCompletion]
  have hdue : (r.exchange, r.part, r.handler) ∈ p.account.due := by
    rw [← hp.account]
    exact List.mem_filterMap.2 ⟨r, hr, role_of_decides hdecides⟩
  have hfoot : σ.client.footing? r.owner = p.account.footing? :=
    congrArg Account.footing? hp.account
  -- In no other phase is an acknowledgement due.
  rw [hh] at hdue
  cases p with
  | starting place =>
      rintro ⟨t, ht, hclosing⟩
      rw [Client.footing?, ht] at hfoot
      have hclaimed := congrArg Footing.claimed (Option.some.inj hfoot)
      exact absurd (hclosing.symm.trans hclaimed) (by simp)
  | _ => simp [Phase.account] at hdue

theorem passing_of_arrivals {σ σ' : Situation} (hs : Sound σ) (h : Arrivals σ σ') :
    Passing .nonblocking σ σ' :=
  (passing_arrivals (P := Sound) (fun _ _ hs ha => hs.move ha.delivery.move)
    (fun _ hs _ hr _ hh => unclaimed_of_begun hs hr hh) hs h).1

/-! ## What a step does of its own -/

section

variable {s s₁ s' : Client}

/-- Only results, bookmarks and replies are spared. -/
theorem apart_of_spares {rs : List Request} (h : Spares s s') (heases : s.Eases s')
    (hborn : s.transactions.length ≤ s'.transactions.length) :
    Apart .nonblocking ⟨rs, s⟩ ⟨rs, s'⟩ :=
  .of_client (congrArg (List.map Cursor.bare) h.cursors) h.receipts h.tidings h.bookmark heases
    hborn

/-- An exchange is sent that is no statement. -/
theorem apart_requests {rs : List Request} (h : Spares s s') (heases : s.Eases s')
    (hborn : s.transactions.length ≤ s'.transactions.length) {tx : Nat} {exchange : Exchange}
    (hx : exchange.cursor? = none) {statement : String} {onPull : Handler}
    (hpull : onPull.Fits exchange .pullAll) (ht : tx < s'.transactions.length) :
    Apart .nonblocking ⟨rs, s⟩ ⟨rs ++ s₁.requests tx exchange statement .ignore onPull, s'⟩ := by
  refine (apart_of_spares h heases hborn).trans (.of_sent fun r hr => ?_)
  have hne : ∀ cursor, exchange ≠ .statement cursor := by
    rintro cursor rfl
    cases hx
  refine ⟨(fits_requests (.ignore hne) hpull hr).suits, ?_, ?_⟩
  · rw [(mem_requests hr).2.1]
    exact hx
  · rw [(mem_requests hr).1]
    exact ht

theorem eases_claimed (s : Client) (tx : Nat) (name : Option String) :
    s.Eases (claimed s tx name) := by
  have hclaim : s.Eases (s.updateTransaction tx Transaction.claim) :=
    .updateTransaction s tx fun _ => rfl
  exact hclaim.trans (.of_transactions rfl)

/-- A terminal operation claims a transaction and takes a course. -/
theorem apart_taken {tx : Nat} {t : Transaction} (ht : s.transactions[tx]? = some t)
    (name : Option String) (course : Course) :
    Apart .nonblocking (.of s) (taken s.connection.queue s tx name course) := by
  have hspares := (Elsewhere.taken s tx name course).spares
  have heases := eases_claimed s tx name
  have hlt : tx < (claimed s tx name).transactions.length := by
    simpa [claimed] using (List.getElem?_eq_some_iff.1 ht).1
  have hborn : s.transactions.length ≤ (claimed s tx name).transactions.length := by
    simp [claimed]
  cases course with
  | finish result =>
      -- Nothing is sent, and the handle is resolved at once.
      have hended : s.Eases (tell ((claimed s tx name).release tx) result
          (.handle s.handles.length)) :=
        (heases.trans (.release _ tx)).trans (.resolve _ _ _)
      refine apart_of_spares hspares hended ?_
      have hsame := (Client.Alike.resolve ((claimed s tx name).release tx) s.handles.length
        (result.map fun _ => Payload.unit)).transactions
      simp only [tell, ← hsame]
      simpa [Client.release] using hborn
  | commit =>
      exact apart_requests hspares (heases.trans (.of_transactions rfl)) hborn rfl (.committed _)
        hlt
  | commitOrRollback =>
      exact apart_requests hspares (heases.trans (.of_transactions rfl)) hborn rfl (.committed _)
        hlt
  | rollback =>
      exact apart_requests hspares (heases.trans (.of_transactions rfl)) hborn rfl (.rolledBack _)
        hlt

/-- A transaction that someone has let go is looked at. -/
theorem apart_abandoned (rs : List Request) (s : Client) (tx : Nat) :
    Apart .nonblocking ⟨rs, s⟩ (abandoned rs s tx) := by
  have hspares := Spares.abandon s rs tx
  have heases := Client.Eases.abandon s rs tx
  unfold abandoned
  rcases abandon_cases s rs tx with h | ⟨t, ht, -, -, h | h⟩ <;> rw [h] at hspares heases ⊢
  · simpa [Client.opening, Client.start] using Apart.refl ⟨rs, s⟩
  · have hended : Apart .nonblocking ⟨rs, s⟩
        ⟨rs, (s.updateTransaction tx Transaction.claim).release tx⟩ :=
      apart_of_spares hspares heases (by simp [Client.release])
    simpa [Client.opening, Client.start] using hended
  · exact apart_requests (hspares.trans (.start _ _)) (heases.trans (.of_transactions rfl))
      (by simp [Client.start, Client.startRollback, Client.send]) rfl (.rolledBack _)
      (by simpa [Client.start, Client.startRollback, Client.send] using
        (List.getElem?_eq_some_iff.1 ht).1)

/-! ## Operations -/

theorem strides_begin (hs : Sound (.of s)) (title : String) (reported : Bool) (config : Config)
    (name : String) :
    Strides .nonblocking [] (.of s) (.of (begin s title reported config name)) := by
  have hadd : Spares s (s.addTransaction { title := title, reported := reported }) :=
    .addTransaction s rfl
  have heases : s.Eases (s.addTransaction { title := title, reported := reported }) :=
    .addTransaction s rfl
  have hfresh : Transaction.isFresh { title := title, reported := reported } := ⟨rfl, rfl⟩
  unfold begin
  dsimp only
  split
  · have hbegun : Apart .nonblocking (.of s) (begunAtOnce s.connection.queue s
        { title := title, reported := reported } config.beginParameters (some name)) :=
      apart_requests ((hadd.trans (.send _ _ _ _ _ _ _)).trans (.addHandle _ _))
        (heases.trans (.of_transactions rfl)) (by simp) rfl .begin (by simp)
    have hdone := Strides.apart hbegun
    unfold begunAtOnce at hdone
    unfold Situation.of
    rw [(Client.frame_addHandle _ _).2.2.2.1, (Client.frame_send _ _ _ _ _ _ _).2.2.2.1]
    exact hdone
  · have hbegun : Apart .nonblocking (.of s) (begunAwaited s.connection.queue s
        { title := title, reported := reported } config.beginParameters (some name)) :=
      apart_requests ((hadd.trans (.addHandle _ _)).trans (.send _ _ _ _ _ _ _))
        (heases.trans (.of_transactions rfl)) (by simp) rfl (.begun _) (by simp)
    have hsound : Sound (begunAwaited s.connection.queue s
        { title := title, reported := reported } config.beginParameters (some name)) :=
      hs.move (.beginAwaited _ hfresh _ _)
    -- BEGIN is flushed after the handle has been made.
    have hflush := (Arrives.flush (.nil _) (s := ((s.addTransaction
      { title := title, reported := reported }).addHandle (.fresh (some name))).send
        s.transactions.length .begin Message.begin config.beginParameters .ignore
        (.begun s.handles.length)) s.transactions.length).arrivals
    rw [(Client.frame_send _ _ _ _ _ _ _).2.2.2.1] at hflush
    exact (Strides.apart hbegun).trans (passing_of_arrivals hsound hflush).strides

/-- The two requests of a statement are sent, one after the other. -/
theorem strides_pair {rs : List Request} {tx cursor : Nat} (hc : cursor < s.cursors.length)
    (ht : tx < s.transactions.length) (hl : ledger ⟨rs, s⟩ cursor = []) (first second : Reply) :
    Strides .nonblocking [] ⟨rs, s⟩ ⟨rs ++ [⟨tx, .statement cursor, .run, .columns cursor, first⟩,
      ⟨tx, .statement cursor, .pullAll, .rows cursor, second⟩], s⟩ := by
  have hrun : Strides .nonblocking [] ⟨rs, s⟩
      ⟨rs ++ [⟨tx, .statement cursor, .run, .columns cursor, first⟩], s⟩ :=
    .single (.sends (r := ⟨tx, .statement cursor, .run, .columns cursor, first⟩)
      (Request.Fits.suits (.columns cursor)) rfl hc ht (by simp [hl]))
  have hpull : Strides .nonblocking []
      ⟨rs ++ [⟨tx, .statement cursor, .run, .columns cursor, first⟩], s⟩
      ⟨rs ++ [⟨tx, .statement cursor, .run, .columns cursor, first⟩] ++
        [⟨tx, .statement cursor, .pullAll, .rows cursor, second⟩], s⟩ := by
    have hnone := List.append_eq_nil_iff.1 hl
    simp only [List.map_eq_nil_iff] at hnone
    exact .single (.sends (r := ⟨tx, .statement cursor, .pullAll, .rows cursor, second⟩)
      (Request.Fits.suits (.rows cursor)) rfl hc ht (by simp [ledger, hnone.1, hnone.2]))
  have hboth := hrun.trans hpull
  rwa [List.append_assoc] at hboth

/-- Both requests of a statement are sent for a new cursor. -/
theorem strides_asked {tx : Nat} (ht : tx < s.transactions.length)
    (hl : ledger (.of s) s.cursors.length = []) (statement : String) (params : Params)
    (name : Option String) :
    Strides .nonblocking [] (.of s) (asked s tx statement params name) := by
  have hbegun : Strides .nonblocking [] (.of s)
      (.of (s.addCursor { statement := statement, owner := tx, name := name })) :=
    .single (.begins tx statement name)
  have hspares := Spares.send (s.addCursor { statement := statement, owner := tx, name := name }) tx
    (.statement s.cursors.length) statement params (.columns s.cursors.length)
    (.rows s.cursors.length)
  have hnew : s.cursors.length <
      (s.addCursor { statement := statement, owner := tx, name := name }).cursors.length := by simp
  exact (hbegun.trans (strides_pair hnew ht hl _ _)).trans
    (.apart (apart_of_spares hspares (.of_transactions rfl) (Nat.le_refl _)))

theorem strides_runStatement (hs : Sound (.of s)) {tx : Nat} (ht : tx < s.transactions.length)
    (hl : ledger (.of s) s.cursors.length = []) (statement : String) (params : Params)
    (name : Option String) :
    Strides .nonblocking [] (.of s) (.of (runStatement s tx statement params name).2) := by
  unfold runStatement
  split
  · exact .refl _
  · -- The requests are outstanding before the flush lets replies in.
    have hsound : Sound (asked s tx statement params name) :=
      (hs.move (.calm (.addCursor s rfl))).move
        (.send tx s.cursors.length statement params)
    have hflush := (Arrives.flush (.nil _) (s := (s.addCursor
      { statement := statement, owner := tx, name := name }).send tx (.statement s.cursors.length)
        statement params (.columns s.cursors.length) (.rows s.cursors.length)) tx).arrivals
    rw [(Client.frame_send _ _ _ _ _ _ _).2.2.2.1] at hflush
    exact (strides_asked ht hl statement params name).trans
      (passing_of_arrivals hsound hflush).strides

theorem strides_consume (s : Client) (cursor : Nat) (name : Option String) :
    Strides .nonblocking [] (.of s) (.of (consume s cursor name)) := by
  have hhandle : ∀ (s : Client) (h : Handle Payload),
      Apart .nonblocking (.of s) (.of (s.addHandle h)) :=
    fun _ _ => .of_same rfl rfl rfl rfl
  unfold consume
  split
  · exact .refl _
  · split
    · exact .apart (hhandle s _)
    · have hawait : Apart .nonblocking (.of s)
          (.of (s.updateCursor cursor fun c => c.await s.handles.length)) :=
        .of_client (s.results_updateCursor cursor fun _ => rfl) rfl rfl (fun _ => rfl)
          (.of_transactions rfl) (Nat.le_refl _)
      exact .apart (hawait.trans (hhandle _ _))

theorem strides_terminate (hs : Sound (.of s)) {tx : Nat} {t : Transaction} (hk : s.Kept tx)
    (ht : s.transactions[tx]? = some t) (terminal : Terminal) (name : Option String) :
    Strides .nonblocking [] (.of s) (.of (terminate s tx terminal name)) := by
  cases hc : t.closing with
  | true =>
      rw [terminate_of_claimed ht hc]
      exact .apart (.of_same rfl rfl rfl rfl)
  | false =>
      have hsound := hs.move (.claim ht hc hk name terminal)
      -- After the claim an exchange is flushed, and nothing else is done.
      have hsent : ∀ (exchange : Exchange) (statement : String) (handler : Handler),
          Sound (sent s.connection.queue (claimed s tx name) tx exchange statement handler) →
          Strides .nonblocking []
            (sent s.connection.queue (claimed s tx name) tx exchange statement handler)
            (.of (((claimed s tx name).send tx exchange statement [] .ignore handler).flush tx)) := by
        intro exchange statement handler hsound
        have hflush := (Arrives.flush (.nil _)
          (s := (claimed s tx name).send tx exchange statement [] .ignore handler) tx).arrivals
        rw [((claimed s tx name).frame_send tx exchange statement [] .ignore handler).2.2.2.1]
          at hflush
        exact (passing_of_arrivals hsound hflush).strides
      have htaken := Strides.apart (apart_taken ht name (terminal.course t.state))
      rw [terminate_of_unclaimed ht hc]
      generalize terminal.course t.state = course at hsound htaken ⊢
      cases course with
      | finish result =>
          have hqueue := (Frame.resolve ((claimed s tx name).release tx) s.handles.length
            (result.map fun _ => Payload.unit)).connection
          simp only [sendTerminal, Situation.of, fire_ending, Client.follow, tell, hqueue]
          exact htaken
      | commit => exact htaken.trans (hsent _ _ _ hsound)
      | commitOrRollback => exact htaken.trans (hsent _ _ _ hsound)
      | rollback => exact htaken.trans (hsent _ _ _ hsound)

/-- Someone lets a transaction go, and the queue is settled. -/
theorem strides_abandon (hs : Sound (.of s)) (hcalm : s.Calm s₁)
    (happart : Apart .nonblocking ⟨s.connection.queue, s⟩ ⟨s.connection.queue, s₁⟩) (tx : Nat) :
    Strides .nonblocking [] (.of s) (.of (Client.follow (s₁.abandon s₁.connection.queue tx))) := by
  have hsound : Sound (abandoned s.connection.queue s₁ tx) :=
    (hs.move (.calm hcalm)).move (.abandon tx)
  have hfollow := (Arrives.follow (s₁.abandon s₁.connection.queue tx) (.nil _)).arrivals
  rw [queue_start, (Frame.abandon s₁ s₁.connection.queue tx).connection, hcalm.connection]
    at hfollow
  rw [hcalm.connection]
  exact (Strides.apart (happart.trans (apart_abandoned _ s₁ tx))).trans
    (passing_of_arrivals hsound hfollow).strides

theorem strides_dropHandle (hs : Sound (.of s)) (handle : Nat) :
    Strides .nonblocking [] (.of s) (.of (dropHandle s handle)) := by
  unfold dropHandle
  cases hh : s.handles[handle]? with
  | none => exact .refl _
  | some h =>
      have hdropped : ∀ rs, Apart .nonblocking ⟨rs, s⟩
          ⟨rs, { s with handles := s.handles.set handle h.drop }⟩ := fun _ => .of_same rfl rfl rfl rfl
      dsimp only
      split
      · exact strides_abandon hs (.setHandle s hh (.dropped h)) (hdropped _) _
      · exact .apart (hdropped _)

theorem strides_ask (s : Client) (handle : Nat)
    (question : Handle Payload → Option (Except Error Payload) × Handle Payload) :
    Strides .nonblocking [] (.of s) (.of (ask s handle question).2) := by
  unfold ask
  cases hh : s.handles[handle]? with
  | none => exact .refl _
  | some h =>
      have hset : Apart .nonblocking (.of s)
          (.of { s with handles := s.handles.set handle (question h).2 }) := .of_same rfl rfl rfl rfl
      dsimp only
      unfold adopt
      split
      · split
        · exact .apart (hset.trans (.updateTransaction _ _ _ (fun _ => rfl) fun _ => rfl))
        · exact .apart hset
      · exact .apart hset

end

/-! ## Steps -/

section

variable {s : Client} {name : String}

theorem strides_onHandle {act : Nat → Answer × Client}
    (h : ∀ handle, Strides .nonblocking [] (.of s) (.of (act handle).2)) :
    Strides .nonblocking [] (.of s) (.of (onHandle s name act).2) := by
  unfold onHandle
  split
  · exact .refl _
  · exact h _

theorem strides_terminate_name (hs : Sound (.of s)) (terminal : Terminal)
    (handle : Option String) :
    Strides .nonblocking [] (.of s)
      (.of (Scenario.terminate .nonblocking s name terminal handle).2) :=
  strides_onTransaction (fun _ => rfl) fun _ _ hname ht =>
    strides_terminate hs (kept_of_transaction? hname) ht terminal handle

/-- No call that returns at once fails to send a statement. -/
theorem deeds_run (s : Client) (name statement : String) (params : Params)
    (result : Option String) : deeds .nonblocking s (.run name statement params result) = [] := by
  have hsent : unsent .nonblocking s name statement params result = false := by
    unfold unsent
    cases hname : transaction? s name with
    | none => simp [perform, onTransaction, hname]
    | some tx =>
        rcases exists_of_transaction? hname with ⟨t, ht, -⟩
        cases hrefusal : t.refusal? <;>
          simp [perform, onTransaction, hname, ht, Scenario.run, runStatement, hrefusal,
            Answer.ofFailure]
  simp [deeds, hsent]

end

/-- A step of an application whose calls do not wait is made of strides. -/
theorem strides_perform {s : Client} (hs : Sound (.of s))
    (hl : ledger (.of s) s.cursors.length = []) (step : Step) :
    Strides .nonblocking (deeds .nonblocking s step) (.of s)
      (.of (perform .nonblocking s step).2) := by
  cases step with
  | script script => exact strides_connect _ rfl
  | failSends fault => exact strides_connect _ rfl
  | heal => exact strides_connect _ rfl
  | layDown verdicts => exact strides_connect _ rfl
  | hold on => exact strides_connect _ rfl
  | disconnect => exact strides_connect _ rfl
  | reconnect => exact strides_connect _ rfl
  | deliver limit => exact (passing_of_arrivals hs (Arrives.deliver limit).arrivals).strides
  | dropQueue => exact (passing_of_arrivals hs (Arrives.dropQueue s).arrivals).strides
  | begin b =>
      show Strides .nonblocking [] (.of s) (.of (Scenario.begin .nonblocking s b).2)
      unfold Scenario.begin
      split
      · exact .refl _
      · exact strides_begin hs _ _ _ _
  | success name => exact strides_change _ apply_mark_success.symm
  | failure name => exact strides_change _ apply_mark_failure.symm
  | resultFetched name =>
      exact strides_onTransaction (fun _ => rfl) fun tx t _ _ =>
        .apart (.updateTransaction _ s tx (fun _ => rfl) fun _ => rfl)
  | resultFailed name e => exact strides_change _ (apply_mark_error e).symm
  | setBookmark name source => exact strides_setBookmark name source
  | bookmark name => exact strides_look fun _ _ => rfl
  | observe name => exact strides_look fun _ _ => rfl
  | describe name => exact strides_look fun _ _ => rfl
  | sameId name other =>
      exact strides_onTransaction (fun _ => rfl) fun _ _ _ _ => strides_look fun _ _ => rfl
  | run name statement params result =>
      rw [deeds_run]
      exact strides_onTransaction (fun _ => rfl) fun tx t _ ht =>
        strides_runStatement hs (List.getElem?_eq_some_iff.1 ht).1 hl statement params result
  | close name handle => exact strides_terminate_name hs .close handle
  | commit name handle => exact strides_terminate_name hs .commit handle
  | rollback name handle => exact strides_terminate_name hs .rollback handle
  | clone name other =>
      exact strides_onTransaction (fun _ => rfl) fun tx _ _ _ =>
        .apart (.updateTransaction _ s tx (fun _ => rfl) fun _ => rfl)
  | drop name =>
      exact strides_onTransaction (fun _ => rfl) fun tx _ _ _ =>
        strides_abandon hs (.letGo s tx name)
          (.updateTransaction _ s tx (fun _ => rfl) fun _ => rfl) tx
  | keys name => exact strides_onCursor fun _ _ _ => .refl _
  | records name => exact strides_onCursor fun _ _ _ => .refl _
  | consume name handle => exact strides_onCursor fun cursor _ _ => strides_consume s cursor handle
  | cursor name => exact strides_onCursor fun _ _ _ => .refl _
  | get name index key =>
      refine strides_onCursor fun _ c _ => ?_
      split <;> exact .refl _
  | dropResult name =>
      refine strides_onCursor fun cursor c _ => ?_
      have hdropped : Apart .nonblocking (.of s) ⟨s.connection.queue, s.dropCursor cursor⟩ :=
        .dropCursor s.connection.queue s cursor
      unfold Situation.of
      rw [show (s.dropCursor cursor).connection = s.connection from
        (Client.Calm.dropCursor s cursor).connection]
      exact .apart hdropped
  | take name => exact strides_onHandle fun handle => strides_ask s handle _
  | poll name => exact strides_onHandle fun handle => strides_ask s handle _
  | dropHandle name => exact strides_onHandle fun handle => strides_dropHandle hs handle

end ClientTransaction.Nonblocking
