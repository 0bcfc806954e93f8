import ClientTransaction.Proofs.Nonblocking.Dealings

/-!
# Nonblocking.Openings — how a step opens

A step does one thing of its own, and then replies may come. What it does of its own is told in full:
by the moves that it consists of, by what it means to each transaction, and by what it does with
results and bookmarks. Nothing has left the queue by then.
-/

namespace ClientTransaction.Nonblocking

open Client (Serves)
open Scenario

/-- What a step does of its own leads from `s` to the situation. -/
structure Opening (s : Client) (step : Step) (σ : Situation) : Prop where
  moves : Moves (.of s) σ
  act : ∀ tx, Act s tx σ
  dealing : Dealing s step σ
  queue : σ.outstanding = σ.client.connection.queue

/-- A step leads from `s` to `s'` by its opening and the replies that come after it. -/
def Opens (s : Client) (step : Step) (s' : Client) : Prop :=
  ∃ σ : Situation, Opening s step σ ∧ σ.client.Hears s'

section

variable {s s₁ s' : Client} {step : Step} {tx : Nat}

theorem Opening.deliveries {σ : Situation} (h : Opening s step σ) (hh : σ.client.Hears s') :
    Deliveries σ (.of s') := by
  have hdelivers := Delivers.hears hh
  unfold Delivers at hdelivers
  rw [List.nil_append, ← h.queue] at hdelivers
  exact hdelivers

namespace Opens

theorem acts (h : Opens s step s₁) : Acts s s₁ := by
  rcases h with ⟨σ, ho, hh⟩
  exact ⟨σ, ho.moves, ho.act, ho.deliveries hh⟩

theorem deals (h : Opens s step s₁) : Deals s step s₁ := by
  rcases h with ⟨σ, ho, hh⟩
  exact ⟨σ, ho.dealing, ho.deliveries hh⟩

/-! ## Openings that send nothing -/

theorem of_minds (hm : Leads [] s s₁) (h : ∀ tx, Minds tx s (.of s₁))
    (hd : Dealing s step (.of s₁)) : Opens s step s₁ :=
  ⟨.of s₁, ⟨hm, fun tx => .minds (h tx), hd, rfl⟩, .nothing⟩

theorem of_hears (hset : setting? s step = none) (h : s.Hears s₁) : Opens s step s₁ :=
  ⟨.of s, ⟨.refl, fun tx => .minds (.refl tx s), .elsewhere hset (.of_queue (.refl s) rfl), rfl⟩, h⟩

theorem refl (s : Client) (hset : setting? s step = none) : Opens s step s :=
  of_hears hset .nothing

theorem connect (hset : setting? s step = none) {f : Connection → Connection}
    (hq : (f s.connection).queue = s.connection.queue) : Opens s step (Scenario.connect s f).2 :=
  of_minds (.connect [] s f hq)
    (fun tx => .of_still (.updateConnection tx s f) (s.grows_updateConnection f) rfl
      (fun _ hmem _ => hmem) hq)
    (.elsewhere hset (.of_queue (.updateConnection s f) hq))

/-- A new handle waits for an outcome, or has one that is no transaction. -/
theorem addHandle (s : Client) (hset : setting? s step = none) {h : Handle Payload}
    (hh : ∀ tx, h.state ≠ .resolved (.ok (.transaction tx)))
    (hm : Leads [] s (s.addHandle h)) : Opens s step (s.addHandle h) :=
  of_minds hm
    (fun tx => .of_still (.addHandle s (hh tx)) (s.grows_addHandle h) rfl
      (fun _ hmem _ => List.mem_append_left _ hmem) rfl)
    (.elsewhere hset (.of_queue (.addHandle s h) rfl))

/-- Someone who holds a transaction changes it. -/
theorem change {place : Nat} (hk : s.Kept place) {f : Transaction → Transaction}
    (hf : ∀ t : Transaction, (f t).footing = t.footing) (hg : ∀ t : Transaction, t.Grows (f t))
    (hh : ∀ t : Transaction, t.holdings ≠ [] → (f t).holdings ≠ [])
    (hd : Dealing s step (.of (s.updateTransaction place f))) :
    Opens s step (s.updateTransaction place f) :=
  of_minds (.calm [] (.updateTransaction s place hf fun _ _ _ => hk))
    (fun _ => .change hk hf hg hh) hd

/-- Someone lets a transaction go, and the queue is settled. -/
theorem abandon (hset : setting? s step = none) {place : Nat} (hm : Leads [] s s₁)
    (h : LetsGo place s s₁) (hothers : ∀ tx, tx ≠ place → Minds tx s (.of s₁))
    (hspares : Spares s s₁) :
    Opens s step (Client.follow (s₁.abandon s₁.connection.queue place)) := by
  refine ⟨abandoned s.connection.queue s₁ place, ⟨?_, ?_, .elsewhere hset (.abandoned hspares _),
    ?_⟩, ?_⟩
  · rw [← h.connection]
    exact hm.tail (.abandon place)
  · intro tx
    by_cases hp : tx = place
    · subst hp
      exact .letsGo h
    · have hminds := hothers tx hp
      unfold Situation.of at hminds
      rw [h.connection] at hminds
      exact .minds (hminds.abandon hp)
  · unfold abandoned
    rw [queue_start, (Frame.abandon s₁ s.connection.queue place).connection, h.connection]
  · rw [← h.connection]
    exact Client.hears_follow _

end Opens

/-! ## Operations -/

theorem opens_begin (hset : setting? s step = none) (title : String) (reported : Bool)
    (config : Config) (name : String) : Opens s step (begin s title reported config name) := by
  have hgrows := s.grows_addTransaction { title := title, reported := reported }
  have hspares : Spares s (s.addTransaction { title := title, reported := reported }) :=
    .addTransaction s rfl
  unfold begin
  dsimp only
  split
  · refine ⟨begunAtOnce s.connection.queue s { title := title, reported := reported }
      config.beginParameters (some name), ⟨.single (.begin _ ⟨rfl, rfl⟩ _ _), ?_, ?_, ?_⟩, .nothing⟩
    · intro tx
      by_cases hp : tx = s.transactions.length
      · subst hp
        exact .begins title reported _ _
      · refine .minds ((Minds.refl tx s).serves hp (untouched_begunAtOnce hp _ _ _ _)
          ((hgrows.trans (Client.grows_send _ _ _ _ _ _ _)).trans (Client.grows_addHandle _ _))
          (((Serves.addTransaction s _).trans (.send _ _ _ _ _ _ _)).trans (.addHandle _ _))
          ⟨_, rfl, ?_⟩)
        intro r hr
        exact (mem_requests hr).1
    · exact .elsewhere hset (.requests ((hspares.trans (.send _ _ _ _ _ _ _)).trans (.addHandle _ _))
        (by simp) .begin (by simp [feeds?]))
    · unfold begunAtOnce
      rw [(Client.frame_addHandle _ _).2.2.2.1, (Client.frame_send _ _ _ _ _ _ _).2.2.2.1]
      rfl
  · -- BEGIN is flushed after the handle has been made.
    refine ⟨begunAwaited s.connection.queue s { title := title, reported := reported }
      config.beginParameters (some name), ⟨.single (.beginAwaited _ ⟨rfl, rfl⟩ _ _), ?_, ?_, ?_⟩,
      .flush s.transactions.length⟩
    · intro tx
      by_cases hp : tx = s.transactions.length
      · subst hp
        exact .beginsAwaited title reported _ _
      · refine .minds ((Minds.refl tx s).serves hp
          ((Untouched.addTransaction s _ (Ne.symm hp)).trans (untouched_begunAwaited _ s _ _ _ tx))
          ((hgrows.trans (Client.grows_addHandle _ _)).trans (Client.grows_send _ _ _ _ _ _ _))
          (((Serves.addTransaction s _).trans (.addHandle _ _)).trans (.send _ _ _ _ _ _ _))
          ⟨_, rfl, ?_⟩)
        intro r hr
        exact (mem_requests hr).1
    · exact .elsewhere hset (.requests ((hspares.trans (.addHandle _ _)).trans (.send _ _ _ _ _ _ _))
        (by simp) (.begun _) fun handle h => (Option.some.inj h).symm)
    · unfold begunAwaited
      rw [(Client.frame_send _ _ _ _ _ _ _).2.2.2.1]
      rfl

theorem opens_runStatement (hk : s.Kept tx) (text statement : String) (params : Params)
    (name : Option String) :
    Opens s (.run text statement params name) (runStatement s tx statement params name).2 := by
  unfold runStatement
  split
  · exact .refl s rfl
  · rename_i haccepted
    have hadd : Leads [] s (s.addCursor { statement := statement, owner := tx, name := name }) :=
      .calm [] (.addCursor s rfl)
    have hsent := ((s.addCursor { statement := statement, owner := tx, name := name }).frame_send tx
      (.statement s.cursors.length) statement params (.columns s.cursors.length)
      (.rows s.cursors.length)).2.2.2.1
    refine ⟨asked s tx statement params name,
      ⟨hadd.tail (.send tx s.cursors.length statement params), fun other => .minds ?_,
        .run text statement params name tx, hsent.symm⟩, .flush tx⟩
    refine ⟨?_, ?_, fun _ => id, fun _ => rfl, ⟨_, rfl, ?_⟩⟩
    · exact (Untouched.of_calm other (.addCursor s rfl)).trans (.send _ (fun _ => by simp) _ _ _ _)
    · exact (s.grows_addCursor _).trans (Client.grows_send _ _ _ _ _ _ _)
    · intro r hr howner
      rcases mem_requests hr with ⟨htx, hexchange, hhandler⟩
      refine ⟨htx ▸ hk, htx ▸ haccepted, ?_, _, hexchange⟩
      -- The requests of a statement decide about nothing.
      rcases hhandler with hhandler | hhandler <;>
        simp [decides, hhandler, hexchange, Handler.ownsCompletion]

theorem opens_consume {result : String} {cursor : Nat} (hname : cursor? s result = some cursor)
    (name : Option String) : Opens s (.consume result name) (consume s cursor name) := by
  unfold consume
  cases hc : s.cursors[cursor]? with
  | none => exact .refl s rfl
  | some c =>
      cases hn : c.outcome with
      | none =>
          have hawait : Leads [] s (awaiting s cursor name) := .of_move_same rfl (.await cursor name)
          have hminds : ∀ tx, Minds tx s (.of (awaiting s cursor name)) := by
            intro tx
            exact .of_still ((Untouched.updateCursor tx s _ _).trans
              (.addHandle _ (by simp [Handle.fresh])))
              ((s.grows_updateCursor _ _).trans (Client.grows_addHandle _ _)) rfl
              (fun _ hmem _ => List.mem_append_left _ hmem) rfl
          simpa [hn, awaiting] using Opens.of_minds hawait hminds (.consume result name hname hc hn)
      | some outcome =>
          have hsummary : ∀ tx, outcome.map Payload.summary ≠ .ok (.transaction tx) := by
            intro tx h
            cases outcome <;> simp [Except.map] at h
          have hready : Opens s (.consume result name)
              (s.addHandle (.ready name (outcome.map Payload.summary))) :=
            .addHandle s rfl (fun tx => by simpa [Handle.ready] using hsummary tx)
              (.of_move_same rfl (.answered name _ hsummary))
          simpa [hn] using hready

theorem opens_terminate (hset : setting? s step = none) (hk : s.Kept tx) (terminal : Terminal)
    (name : Option String) : Opens s step (terminate s tx terminal name) := by
  cases ht : s.transactions[tx]? with
  | none => simpa [terminate, ht] using Opens.refl s hset
  | some t =>
      cases hc : t.closing with
      | true =>
          rw [terminate_of_claimed ht hc]
          -- Refused or done, the answer is no transaction.
          have hanswer : ∀ other, (if t.isOpen then .error .alreadyClosing else .ok .unit :
              Except Error Payload) ≠ .ok (.transaction other) := by
            intro other h
            split at h <;> simp at h
          exact .addHandle s hset (fun other => by simpa [Handle.ready] using hanswer other)
            (.of_move_same rfl (.answered name _ hanswer))
      | false =>
          rw [terminate_of_unclaimed ht hc]
          refine ⟨_, ⟨.single (.claim ht hc hk name terminal), ?_,
            .elsewhere hset (.taken s tx name (terminal.course t.state)), queue_taken s tx name _⟩,
            hears_sendTerminal s tx name _⟩
          intro other
          by_cases hp : other = tx
          · subst hp
            exact .claims ht hc hk name terminal
          · exact .minds ((Minds.refl other s).serves hp (untouched_taken (Ne.symm hp) name _).1
              (grows_taken _ s tx name _) (serves_taken _ s tx name _)
              (outstanding_taken _ s tx name _))

theorem opens_drop (hset : setting? s step = none) (hk : s.Kept tx) (name : String) :
    Opens s step (drop s tx name) := by
  have hcalm : s.Calm (s.updateTransaction tx (Transaction.letGo name)) := .letGo s tx name
  refine .abandon hset (.calm [] hcalm) ⟨hk, .of_calm tx hcalm, rfl, rfl, ?_⟩ ?_
    (.updateTransaction s tx fun _ => rfl)
  · intro t ht
    exact ⟨_, by simp only [Client.frame_updateTransaction, List.getElem?_modify_eq, ht]; rfl⟩
  · intro other hp
    exact .of_still (.of_calm other hcalm)
      (s.grows_updateTransaction tx (Transaction.grows_letGo name))
      ((Serves.updateTransaction s tx _).others other hp) (fun _ hmem _ => hmem) rfl

theorem opens_dropHandle (hset : setting? s step = none) (handle : Nat) :
    Opens s step (dropHandle s handle) := by
  unfold dropHandle
  cases hh : s.handles[handle]? with
  | none => exact .refl s hset
  | some h =>
      have hcalm : s.Calm { s with handles := s.handles.set handle h.drop } :=
        .setHandle s hh (.dropped h)
      have hspares : Spares s { s with handles := s.handles.set handle h.drop } :=
        .setHandle s hh (.dropped h)
      dsimp only
      split
      · rename_i tx hyields
        refine .abandon hset (.calm [] hcalm)
          ⟨Or.inr ⟨h, List.mem_of_getElem? hh, hyields⟩, .of_calm tx hcalm, rfl, rfl, ?_⟩ ?_ hspares
        · intro t ht
          exact ⟨t.holdings, ht⟩
        · intro other hp
          exact .setHandle hh (.dropped h) h.grows_drop (by simpa [hyields] using Ne.symm hp)
      · rename_i hnot
        exact .of_minds (.calm [] hcalm)
          (fun tx => .setHandle hh (.dropped h) h.grows_drop fun hyields => hnot tx hyields)
          (.elsewhere hset (.of_queue hspares rfl))

/-- Whoever asks a handle gets a transaction exactly if the handle yields it. -/
theorem opens_ask (hset : setting? s step = none) {handle : Nat}
    {question : Handle Payload → Option (Except Error Payload) × Handle Payload}
    (hages : ∀ h : Handle Payload, h.Ages (question h).2)
    (hgrows : ∀ h : Handle Payload, h.Grows (question h).2)
    (hyields : ∀ (h : Handle Payload) (tx : Nat),
      (question h).1 = some (.ok (.transaction tx)) ↔
        h.state = .resolved (.ok (.transaction tx))) :
    Opens s step (ask s handle question).2 := by
  unfold ask
  cases hh : s.handles[handle]? with
  | none => exact .refl s hset
  | some h =>
      have hspares : Spares s { s with handles := s.handles.set handle (question h).2 } :=
        .setHandle s hh (hages h)
      dsimp only
      by_cases hgiven : ∃ tx, (question h).1 = some (.ok (.transaction tx))
      · rcases hgiven with ⟨asked, houtcome⟩
        have hstate := (hyields h asked).1 houtcome
        rw [houtcome]
        exact .of_minds (leads_adopt hh (hages h) hstate)
          (fun _ => .adopt hh (hages h) (hgrows h) hstate)
          (.elsewhere hset (.of_queue (hspares.trans (.adopt _ _)) (queue_adopt _ _)))
      · rw [adopt_eq_self hgiven]
        exact .of_minds (.calm [] (.setHandle s hh (hages h)))
          (fun tx =>
            .setHandle hh (hages h) (hgrows h) fun hstate => hgiven ⟨tx, (hyields h tx).2 hstate⟩)
          (.elsewhere hset (.of_queue hspares rfl))

theorem opens_dropCursor (s : Client) (result : String) (cursor : Nat) :
    Opens s (.dropResult result) (s.dropCursor cursor) := by
  have hcalm : s.Calm (s.dropCursor cursor) := .dropCursor s cursor
  refine .of_minds (.calm [] hcalm) (fun tx => ?_) (.dropResult result cursor)
  -- On whose behalf it is done is no matter, if it is another transaction.
  have hserves : Serves (tx + 1) s (s.dropCursor cursor) :=
    (Serves.updateCursor s _ _).trans (.releaseCursor _ _ _)
  exact .of_still (.of_calm tx hcalm) (s.grows_dropCursor cursor)
    (hserves.others tx (Nat.ne_of_lt (Nat.lt_succ_self tx)))
    (fun _ hmem hyields => hserves.yielding hmem hyields) (by rw [hcalm.connection])

/-! ## Steps -/

section

variable {name : String}

theorem opens_onTransaction {act : Nat → Transaction → Answer × Client}
    (hset : transaction? s name = none → setting? s step = none)
    (hact : ∀ (tx : Nat) (t : Transaction), transaction? s name = some tx → s.Kept tx →
      Opens s step (act tx t).2) :
    Opens s step (onTransaction s name act).2 := by
  unfold onTransaction
  cases hname : transaction? s name with
  | none => exact .refl s (hset hname)
  | some tx =>
      -- A name stands for a transaction that is there, and is held.
      rcases exists_of_transaction? hname with ⟨t, ht, -⟩
      simpa [ht] using hact tx t hname (kept_of_transaction? hname)

theorem opens_onCursor (hset : setting? s step = none) {act : Nat → Cursor → Answer × Client}
    (hact : ∀ (cursor : Nat) (c : Cursor), cursor? s name = some cursor →
      Opens s step (act cursor c).2) :
    Opens s step (onCursor s name act).2 := by
  unfold onCursor
  cases hname : cursor? s name with
  | none => exact .refl s hset
  | some cursor =>
      cases hc : s.cursors[cursor]? with
      | none => simpa [hc] using Opens.refl s hset
      | some c => simpa [hc] using hact cursor c hname

theorem opens_onHandle (hset : setting? s step = none) {act : Nat → Answer × Client}
    (hact : ∀ handle : Nat, Opens s step (act handle).2) :
    Opens s step (onHandle s name act).2 := by
  unfold onHandle
  cases handle? s name with
  | none => exact .refl s hset
  | some handle => exact hact handle

theorem opens_change (hset : setting? s step = none) {f : Transaction → Transaction}
    (hf : ∀ t : Transaction, (f t).footing = t.footing) (hg : ∀ t : Transaction, t.Grows (f t))
    (hh : ∀ t : Transaction, (f t).holdings = t.holdings)
    (hb : ∀ t : Transaction, (f t).bookmark = t.bookmark) : Opens s step (change s name f).2 :=
  opens_onTransaction (fun _ => hset) fun tx _ _ hk =>
    .change hk hf hg (fun t hheld => (hh t).symm ▸ hheld)
      (.elsewhere hset (.of_queue (.updateTransaction s tx hb) rfl))

theorem opens_take (hset : setting? s step = none) :
    Opens s step (Scenario.ask s name Handle.take).2 := by
  refine opens_onHandle hset fun handle => opens_ask hset Handle.ages_take Handle.grows_take ?_
  rintro ⟨_, _ | _ | _⟩ tx <;> simp [Handle.take]

theorem opens_poll (hset : setting? s step = none) :
    Opens s step (Scenario.ask s name Handle.poll).2 := by
  refine opens_onHandle hset fun handle => opens_ask hset Handle.ages_poll Handle.grows_poll ?_
  rintro ⟨_, _ | _ | _⟩ tx <;> simp [Handle.poll]

end

end

theorem opens_perform (s : Client) (step : Step) :
    Opens s step (perform .nonblocking s step).2 := by
  cases step with
  | script script => exact .connect rfl rfl
  | failSends fault => exact .connect rfl rfl
  | heal => exact .connect rfl rfl
  | layDown verdicts => exact .connect rfl rfl
  | hold on => exact .connect rfl rfl
  | disconnect => exact .connect rfl rfl
  | reconnect => exact .connect rfl rfl
  | deliver limit => exact .of_hears rfl (.deliver _)
  | dropQueue => exact .of_hears rfl .dropQueue
  | begin b =>
      unfold perform Scenario.begin
      dsimp only
      split
      · exact .refl s rfl
      · exact opens_begin rfl b.tx b.reported _ b.handle
  | success tx =>
      exact opens_change rfl Transaction.footing_markSuccess Transaction.grows_markSuccess
        (fun _ => rfl) fun _ => rfl
  | failure tx =>
      exact opens_change rfl Transaction.footing_markFailure Transaction.grows_markFailure
        (fun _ => rfl) fun _ => rfl
  | resultFetched tx =>
      exact opens_change rfl (fun _ => rfl) Transaction.Grows.refl (fun _ => rfl) fun _ => rfl
  | resultFailed tx e =>
      refine opens_change rfl (Transaction.footing_resultFailed e) (Transaction.grows_resultFailed e)
        (Client.Calm.holdings_resultFailed e) fun t => ?_
      unfold Transaction.resultFailed
      split <;> rfl
  | setBookmark name source =>
      refine opens_onTransaction (fun hname => by simp [setting?, hname]) fun tx _ hname hk => ?_
      cases hsource : Bookmark.ofSource? source with
      | none => exact .refl s (by simp [setting?, hname, hsource])
      | some b =>
          exact .change hk (Transaction.footing_setBookmark b) (Transaction.grows_setBookmark b)
            (fun t hheld => (Client.Calm.holdings_setBookmark b t).symm ▸ hheld)
            (.setBookmark (by simp [setting?, hname, hsource]))
  | bookmark tx => exact opens_onTransaction (fun _ => rfl) fun _ _ _ _ => .refl s rfl
  | observe tx => exact opens_onTransaction (fun _ => rfl) fun _ _ _ _ => .refl s rfl
  | describe tx => exact opens_onTransaction (fun _ => rfl) fun _ _ _ _ => .refl s rfl
  | sameId tx other =>
      exact opens_onTransaction (fun _ => rfl) fun _ _ _ _ =>
        opens_onTransaction (fun _ => rfl) fun _ _ _ _ => .refl s rfl
  | run name statement params result =>
      exact opens_onTransaction (fun _ => rfl) fun _ _ _ hk =>
        opens_runStatement hk name statement params result
  | close tx handle =>
      exact opens_onTransaction (fun _ => rfl) fun _ _ _ hk => opens_terminate rfl hk .close handle
  | commit tx handle =>
      exact opens_onTransaction (fun _ => rfl) fun _ _ _ hk => opens_terminate rfl hk .commit handle
  | rollback tx handle =>
      exact opens_onTransaction (fun _ => rfl) fun _ _ _ hk => opens_terminate rfl hk .rollback handle
  | clone tx name =>
      exact opens_onTransaction (fun _ => rfl) fun place _ _ hk =>
        .change hk (Transaction.footing_hold name false) (Transaction.grows_hold name false)
          (fun t _ => by simp [Transaction.hold])
          (.elsewhere rfl (.of_queue (.updateTransaction s place fun _ => rfl) rfl))
  | drop tx => exact opens_onTransaction (fun _ => rfl) fun _ _ _ hk => opens_drop rfl hk tx
  | keys result => exact opens_onCursor rfl fun _ _ _ => .refl s rfl
  | records result => exact opens_onCursor rfl fun _ _ _ => .refl s rfl
  | consume result handle => exact opens_onCursor rfl fun _ _ hname => opens_consume hname handle
  | cursor result => exact opens_onCursor rfl fun _ _ _ => .refl s rfl
  | get result index key =>
      refine opens_onCursor rfl fun _ c _ => ?_
      split <;> exact .refl s rfl
  | dropResult result => exact opens_onCursor rfl fun cursor _ _ => opens_dropCursor s result cursor
  | take handle => exact opens_take rfl
  | poll handle => exact opens_poll rfl
  | dropHandle handle => exact opens_onHandle rfl fun handle => opens_dropHandle rfl handle

theorem deals_perform (s : Client) (step : Step) :
    Deals s step (perform .nonblocking s step).2 :=
  (opens_perform s step).deals

theorem acts_terminate {s : Client} {tx : Nat} (hk : s.Kept tx) (terminal : Terminal)
    (name : Option String) : Acts s (terminate s tx terminal name) :=
  (opens_terminate (show setting? s .dropQueue = none from rfl) hk terminal name).acts

end ClientTransaction.Nonblocking

/-! ## Runs -/

namespace ClientTransaction.Scenario

open Nonblocking (Acts Leads)

theorem acts_perform (s : Client) (step : Step) : Acts s (perform .nonblocking s step).2 :=
  (Nonblocking.opens_perform s step).acts

theorem leads_perform (s : Client) (step : Step) :
    Leads [] s (perform .nonblocking s step).2 :=
  (acts_perform s step).leads

theorem leads_after (s : Client) (steps : List Step) : Leads [] s (after .nonblocking s steps) := by
  induction steps generalizing s with
  | nil => exact .refl [] s
  | cons step rest ih => exact (leads_perform s step).trans (ih _)

end ClientTransaction.Scenario

namespace ClientTransaction.Nonblocking

theorem sound_after (steps : List Scenario.Step) :
    Sound (.of (Scenario.after .nonblocking {} steps)) :=
  sound_start.moves (Scenario.leads_after {} steps)

/-- After every run all queued requests have the handlers of their parts. -/
theorem fits_after (steps : List Scenario.Step) :
    Situation.Fits (.of (Scenario.after .nonblocking {} steps)) := by
  have hstart : Situation.Fits (.of {}) := by simp [Situation.Fits, Situation.of]
  exact hstart.moves (Scenario.leads_after {} steps)

end ClientTransaction.Nonblocking
