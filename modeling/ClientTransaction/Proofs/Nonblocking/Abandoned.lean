import ClientTransaction.Proofs.Nonblocking.Custody
import ClientTransaction.Proofs.Nonblocking.Wire

/-!
# Nonblocking.Abandoned — transactions that nobody holds any more

A transaction that nobody has claimed is rolled back when the last one who holds it lets it go. That
is the application, which drops a name or a handle, or the request that waited for BEGIN, whose
handle had been dropped. At that moment one ROLLBACK exchange is started, however the transaction is
marked; for one that the server has given up nothing is sent. The transaction ends when that
exchange does, and in no other way.
-/

namespace ClientTransaction

theorem Handle.eq_of_sleeper? {α : Type} {h : Handle α} {name : String}
    (hs : h.sleeper? = some name) : h = ⟨some name, .pending true⟩ := by
  rcases h with ⟨held, state⟩
  unfold sleeper? at hs
  split at hs
  · rename_i hpending
    cases hpending
    cases hs
    rfl
  · cases hs

namespace Nonblocking

open Scenario (Step after perform transaction? handle?)
open Client (Serves)

/-- What happens at once to a transaction that nobody holds any more. -/
def farewell (tx : Nat) (t : Transaction) : List Event :=
  if t.state = .failed then [.release tx, .closed tx t.session?]
  else Exchange.rollback.calls tx Message.rollback []

/-- The phase in which that leaves it. -/
def Phase.forsaken (t : Transaction) : Phase :=
  if t.state = .failed then .ended (.finished (.ok ()) .nobody) else .rollingBack .nobody

section

variable {tx : Nat} {rs before later others : List Request} {s s' : Client} {σ σ' : Situation}

/-! ## The moment -/

/-- A running transaction that nobody holds is sent off. -/
theorem abandon_running {t : Transaction}
    (ha : Situation.account ⟨rs, s⟩ tx = Phase.running.account)
    (ht : s.transactions[tx]? = some t) (hh : s.holdsTransaction others tx = false) :
    ((s.abandon others tx).1.start (s.abandon others tx).2).history =
        s.history ++ farewell tx t ∧
      Standing tx (.forsaken t) ⟨rs ++ (s.abandon others tx).1.opening (s.abandon others tx).2,
        (s.abandon others tx).1.start (s.abandon others tx).2⟩ := by
  have hf : t.footing = ⟨false, none⟩ := by
    have hfoot : s.footing? tx = some ⟨false, none⟩ := congrArg Account.footing? ha
    simpa [Client.footing?, ht] using hfoot
  rw [abandon_of_unheld ht hf hh]
  unfold farewell Phase.forsaken
  by_cases hfailed : t.state = .failed
  · simp only [hfailed, if_true, Client.opening, Client.start, List.append_nil]
    refine ⟨?_, standing_released ha⟩
    rw [(Client.frame_release _ _).2.2.2.2]
    simp [ht, Transaction.session?, Transaction.claim]
  · simp only [hfailed, if_false]
    refine ⟨?_, standing_sentBack ha⟩
    simp [Client.start, Client.startRollback, Exchange.calls, Exchange.flushes]

theorem transactions_resolve (s : Client) (handle : Nat) (result : Except Error Payload) :
    (s.resolve handle result).transactions = s.transactions := by
  unfold Client.resolve
  split
  · rfl
  · dsimp only
    split <;> rfl

/-- Nobody is woken for a handle that does not yield what it is resolved with. -/
theorem history_resolve {handle : Nat}
    (h : ¬ (s.resolve handle (.ok (.transaction tx))).Kept tx) :
    (s.resolve handle (.ok (.transaction tx))).history = s.history := by
  unfold Client.resolve at h ⊢
  cases hh : s.handles[handle]? with
  | none => rfl
  | some hd =>
      simp only [hh] at h ⊢
      cases hsleeper : hd.sleeper? with
      | none => rfl
      | some name =>
          -- Whoever sleeps holds the handle, and it yields the transaction.
          refine absurd (Or.inr ⟨hd.resolve (.ok (.transaction tx)), ?_, ?_⟩) h
          · simp only [hsleeper]
            exact List.mem_set (List.getElem?_eq_some_iff.1 hh).1 _
          · rw [hd.eq_of_sleeper? hsleeper]
            rfl

/-- What has been seen is not forgotten. -/
theorem mem_seen {α : Type} {view : Event → Option α} (h : s.history <+: s'.history) {x : α}
    (hx : x ∈ s.seen view) : x ∈ s'.seen view :=
  (h.filterMap view).subset hx

/-- A success of BEGIN for a transaction that nobody wants, or its failure. -/
theorem forsaken_of_begun {handle : Nat} {old reply : Reply} {t : Transaction}
    (ha : Situation.account
        ⟨before ++ ⟨tx, .begin, .pullAll, .begun handle, old⟩ :: later, s⟩ tx =
      (Phase.starting handle).account)
    (ht : s.transactions[tx]? = some t) (ho : others ⊆ before ++ later)
    (hnot : ¬ (answered before later s others
      ⟨tx, .begin, .pullAll, .begun handle, reply⟩).Holds tx) :
    (∃ loss : Loss, loss.outcome ∈ (answered before later s others
        ⟨tx, .begin, .pullAll, .begun handle, reply⟩).client.answers tx .begin) ∨
      (∃ metadata, reply.outcome = .success metadata) ∧
        (answered before later s others
          ⟨tx, .begin, .pullAll, .begun handle, reply⟩).client.history =
            s.history ++ .reply tx .begin .pullAll reply :: farewell tx t ∧
        Standing tx (.forsaken t) (answered before later s others
          ⟨tx, .begin, .pullAll, .begun handle, reply⟩) := by
  rcases account_answered ha rfl rfl rfl reply with ⟨-, ha'⟩
  rcases reply with ⟨records, outcome⟩
  rcases outcome.success_or_loss with ⟨metadata, rfl⟩ | ⟨loss, rfl⟩
  · refine Or.inr ⟨⟨metadata, rfl⟩, ?_⟩
    have hanswered : answered before later s others
        ⟨tx, .begin, .pullAll, .begun handle, ⟨records, .success metadata⟩⟩ =
        ⟨before ++ later ++
          ((yielded s tx handle ⟨records, .success metadata⟩).abandon others tx).1.opening
            ((yielded s tx handle ⟨records, .success metadata⟩).abandon others tx).2,
          ((yielded s tx handle ⟨records, .success metadata⟩).abandon others tx).1.start
            ((yielded s tx handle ⟨records, .success metadata⟩).abandon others tx).2⟩ := rfl
    rw [hanswered, Situation.holds_iff] at hnot
    have hunkept : ¬ (yielded s tx handle ⟨records, .success metadata⟩).Kept tx := by
      intro hk
      refine hnot (Or.inl (((Serves.abandon _ others tx).trans (.start _ _)).kept ?_ hk))
      exact (Client.names_start _ _).trans (Client.names_abandon _ _ _)
    have hunheld : (yielded s tx handle ⟨records, .success metadata⟩).holdsTransaction others tx =
        false := by
      rw [Bool.eq_false_iff, ne_eq, Client.holdsTransaction_iff]
      rintro (hk | ⟨q, hq, hh⟩)
      · exact hunkept hk
      · exact hnot (Or.inr ⟨q, List.mem_append_left _ (ho hq), hh⟩)
    have hplace : (yielded s tx handle ⟨records, .success metadata⟩).transactions[tx]? =
        some t := by
      rw [yielded, transactions_resolve]
      exact ht
    have hrun : Situation.account
        ⟨before ++ later, yielded s tx handle ⟨records, .success metadata⟩⟩ tx =
          Phase.running.account :=
      (account_resolve _ _ _ _ _).trans ha'
    have hhistory : (yielded s tx handle ⟨records, .success metadata⟩).history =
        s.history ++ [.reply tx .begin .pullAll ⟨records, .success metadata⟩] :=
      history_resolve hunkept
    rcases abandon_running hrun hplace hunheld with ⟨hgone, hstanding⟩
    rw [hanswered]
    refine ⟨?_, hstanding⟩
    rw [hgone, hhistory, List.append_assoc]
    rfl
  · refine Or.inl ⟨loss, ?_⟩
    have hgrows : (s.record (.reply tx .begin .pullAll ⟨records, loss.outcome⟩)).Grows
        (answered before later s others
          ⟨tx, .begin, .pullAll, .begun handle, ⟨records, loss.outcome⟩⟩).client := by
      cases loss <;> exact Client.grows_refuse _ _ _ _
    refine mem_seen hgrows.history ?_
    simp

/-- In the course of deliveries a transaction that only a request holds is taken up, or BEGIN is
refused to it, or it is sent off. -/
theorem forsaken_of_delivery {r : Request} {t : Transaction} (hs : Sound σ) (hd : Delivery σ σ')
    (hr : r ∈ σ.outstanding) (hh : r.holdsTransaction tx = true)
    (ht : σ.client.transactions[tx]? = some t) (hnot : ¬ σ'.Holds tx) :
    (∃ loss : Loss, loss.outcome ∈ σ'.client.answers tx .begin) ∨
      ∃ (reply : Reply) (metadata : Params), reply.outcome = .success metadata ∧
        σ'.client.history = σ.client.history ++ .reply tx .begin .pullAll reply :: farewell tx t ∧
        Standing tx (.forsaken t) σ' := by
  rw [Situation.holds_iff] at hnot
  cases hd with
  | connect f => exact absurd (Or.inr ⟨r, hr, hh⟩) hnot
  | flush place => exact absurd (Or.inr ⟨r, hr, hh⟩) hnot
  | @answer s before later q reply others ho =>
      -- It is the reply to the request that holds the transaction.
      have hsame : r = q := by
        have hr' : r = q ∨ r ∈ before ++ later := by simpa [or_left_comm] using hr
        refine hr'.resolve_right fun hr' => ?_
        exact hnot (Or.inr ⟨r, List.mem_append_left _ hr', hh⟩)
      subst hsame
      rcases hs.phases tx with ⟨p, hp⟩
      rcases starting_of_holds hp hr hh with ⟨handle, rfl⟩
      rcases r.exists_begun hh with ⟨rfl, place, hhandler⟩
      have hdecides : decides r = true := by simp [decides, hhandler, Handler.ownsCompletion]
      rcases r with ⟨owner, exchange, part, handler, old⟩
      obtain ⟨rfl, rfl, rfl⟩ : exchange = .begin ∧ part = .pullAll ∧ handler = .begun handle := by
        simpa using (account_answered hp.account rfl rfl hdecides reply).1
      rcases forsaken_of_begun hp.account ht ho (by rwa [Situation.holds_iff]) with
        hloss | ⟨⟨metadata, hsuccess⟩, hhistory, hstanding⟩
      · exact Or.inl hloss
      · exact Or.inr ⟨reply, metadata, hsuccess, hhistory, hstanding⟩

/-- The transaction was sent off after `past`, and nothing has stopped it since. -/
def SentOff (tx : Nat) (t : Transaction) (past : List Event) (σ' : Situation) : Prop :=
  ∃ σ : Situation, Sound σ ∧ σ.client.history = past ++ farewell tx t ∧
    Standing tx (.forsaken t) σ ∧ Moves σ σ'

/-- Where the reply to BEGIN is the last that there was. -/
def Acknowledged (tx : Nat) (past : List Event) : Prop :=
  ∃ (earlier : List Event) (reply : Reply) (metadata : Params),
    reply.outcome = .success metadata ∧ past = earlier ++ [.reply tx .begin .pullAll reply]

/-- BEGIN has got some other reply than a success. -/
def Denied (tx : Nat) (s : Client) : Prop :=
  ∃ loss : Loss, loss.outcome ∈ s.answers tx .begin

theorem exists_of_starting {handle : Nat} (hp : Standing tx (.starting handle) σ) :
    ∃ t : Transaction, σ.client.transactions[tx]? = some t := by
  have hfoot : σ.client.footing? tx = some ⟨false, none⟩ := congrArg Account.footing? hp.account
  rcases Option.map_eq_some_iff.1 hfoot with ⟨t, ht, -⟩
  exact ⟨t, ht⟩

theorem history_moves (hm : Moves σ σ') : σ.client.history <+: σ'.client.history := by
  induction hm with
  | refl => exact List.prefix_refl _
  | tail _ hm ih => exact ih.trans hm.history

/-- A transaction that only a request holds stays with it until BEGIN is answered. -/
theorem sentOff_of_deliveries {t : Transaction} (hactive : t.state = .active)
    (hd : Deliveries σ σ') (hnot : ¬ σ'.Holds tx) (hs : Sound σ) (ht : Tended tx σ) {r : Request}
    (hr : r ∈ σ.outstanding) (hh : r.holdsTransaction tx = true) :
    Denied tx σ'.client ∨ ∃ past : List Event, σ.client.history <+: past ∧ Acknowledged tx past ∧
      SentOff tx t past σ' := by
  induction hd using Relation.ReflTransGen.head_induction_on generalizing r with
  | refl => exact absurd ((Situation.holds_iff _ tx).2 (Or.inr ⟨r, hr, hh⟩)) hnot
  | @head σ σ₁ hd hds ih =>
      have hs₁ := hs.move hd.move
      by_cases hholds : σ₁.Holds tx
      · rcases (Situation.holds_iff _ tx).1 hholds with hkept | ⟨r₁, hr₁, hh₁⟩
        · exact absurd ((Situation.holds_iff _ tx).2 (Or.inl (Deliveries.kept hds hkept))) hnot
        · rcases ih hs₁ (ht.delivery hs hd) hr₁ hh₁ with hdenied | ⟨past, hpast, hrest⟩
          · exact Or.inl hdenied
          · exact Or.inr ⟨past, hd.move.history.trans hpast, hrest⟩
      · rcases hs.phases tx with ⟨p, hp⟩
        rcases starting_of_holds hp hr hh with ⟨handle, rfl⟩
        rcases exists_of_starting hp with ⟨t₀, ht₀⟩
        have hsame : farewell tx t₀ = farewell tx t ∧ Phase.forsaken t₀ = .forsaken t := by
          have hactive₀ := (ht.idle r hr hh).1 t₀ ht₀
          simp [farewell, Phase.forsaken, hactive, hactive₀]
        rcases forsaken_of_delivery hs hd hr hh ht₀ hholds with
          ⟨loss, hloss⟩ | ⟨reply, metadata, hsuccess, hhistory, hstanding⟩
        · exact Or.inl ⟨loss, mem_seen (history_moves (Deliveries.moves hds)) hloss⟩
        · refine Or.inr ⟨σ.client.history ++ [.reply tx .begin .pullAll reply],
            List.prefix_append _ _, ⟨_, reply, metadata, hsuccess, rfl⟩, σ₁, hs₁, ?_, ?_,
            Deliveries.moves hds⟩
          · rw [hhistory, hsame.1, List.append_assoc]
            rfl
          · exact hsame.2 ▸ hstanding

/-! ## Steps -/

theorem kept_taken (name : Option String) (course : Course) (hk : s.Kept tx) :
    (taken rs s tx name course).client.Kept tx := by
  have hclaimed : (claimed s tx name).Kept tx := by
    rcases hk with ⟨t, ht, hheld⟩ | ⟨h, hmem, hyields⟩
    · exact Or.inl ⟨t.claim, by simp [claimed, ht], hheld⟩
    · exact Or.inr ⟨h, List.mem_append_left _ hmem, hyields⟩
  cases course with
  | finish result =>
      exact ((Serves.release _ tx).trans (.resolve _ _ _)).kept
        ((Client.names_resolve _ _ _).trans (Client.names_release _ tx)) hclaimed
  | commit => exact hclaimed
  | commitOrRollback => exact hclaimed
  | rollback => exact hclaimed

/-- The transaction waits for BEGIN, and BEGIN is denied to it. -/
def Refused (tx : Nat) (s s' : Client) : Prop :=
  (∃ r ∈ s.connection.queue, r.holdsTransaction tx = true) ∧ Denied tx s'

/-- A step after which nobody holds an open transaction any more has sent it off, unless BEGIN was
denied to it. -/
theorem sentOff_of_acts {t : Transaction} (hs : Sound (.of s)) (hc : Tended tx (.of s))
    (ht : s.transactions[tx]? = some t) (hf : t.footing = ⟨false, none⟩) (ha : Acts s s')
    (hnot : ¬ (Situation.of s').Holds tx) :
    Refused tx s s' ∨ ∃ past : List Event, s.history <+: past ∧
      (past = s.history ∨ Acknowledged tx past) ∧ SentOff tx t past (.of s') := by
  rcases ha with ⟨σ, hmoves, hact, hdeliveries⟩
  have hunkept : ¬ σ.client.Kept tx := fun hk =>
    hnot ((Situation.holds_iff _ tx).2 (Or.inl (Deliveries.kept hdeliveries hk)))
  cases hact tx with
  | minds hm =>
      have hloose : (Situation.of s).client.footing? tx = some ⟨false, none⟩ := by
        simp [Situation.of, Client.footing?, ht, hf]
      rcases (Situation.holds_iff _ tx).1 (hc.holds hloose) with hk | ⟨r, hr, hh⟩
      · exact absurd (hm.kept (lt_of_kept hs hk) hk) hunkept
      · have hr' : r ∈ σ.outstanding := by
          rcases hm.sent with ⟨new, heq, -⟩
          exact heq ▸ List.mem_append_left new hr
        rcases sentOff_of_deliveries ((hc.idle r hr hh).1 t ht) hdeliveries hnot (hs.moves hmoves)
          (hc.minds hs hm) hr' hh with hdenied | ⟨past, hpast, hacknowledged, hsent⟩
        · exact Or.inl ⟨⟨r, hr, hh⟩, hdenied⟩
        · exact Or.inr ⟨past, hm.grows.history.trans hpast, Or.inr hacknowledged, hsent⟩
  | begins => simp at ht
  | beginsAwaited => simp at ht
  | claims _ _ hk name terminal => exact absurd (kept_taken name _ hk) hunkept
  | @letsGo _ s₁ hgo =>
      rcases hs.phases tx with ⟨p, hp⟩
      cases running_of_kept hp ht (congrArg Footing.claimed hf) hgo.kept
      rcases hgo.transaction t ht with ⟨holdings, ht₁⟩
      have hrun := (hgo.standing hp).account
      unfold Situation.of at hrun
      rw [hgo.connection] at hrun
      have hunheld : s₁.holdsTransaction s.connection.queue tx = false := by
        rw [Bool.eq_false_iff, ne_eq, Client.holdsTransaction_iff]
        rintro (hk | ⟨q, hq, hh⟩)
        · refine hunkept (((Serves.abandon s₁ _ tx).trans (.start _ _)).kept ?_ hk)
          exact (Client.names_start _ _).trans (Client.names_abandon _ _ _)
        · exact not_kept_of_holds hs hq hh hgo.kept
      rcases abandon_running hrun ht₁ hunheld with ⟨hhistory, hstanding⟩
      refine Or.inr ⟨s.history, List.prefix_refl _, Or.inl rfl, _, hs.moves hmoves, ?_, hstanding,
        Deliveries.moves hdeliveries⟩
      rw [← hgo.history]
      exact hhistory

/-! ## Afterwards -/

/-- The phases of a transaction that was sent off. -/
def Phase.IsForsaken (t : Transaction) (p : Phase) : Prop :=
  p = .forsaken t ∨ (t.state ≠ .failed ∧ ∃ answer, p = .ended (.rolledBack answer .nobody))

theorem Phase.IsForsaken.passage {t : Transaction} {p p' : Phase}
    {effect : Option (Nat × Except Error Payload)} (h : p.IsForsaken t)
    (hpass : Passage tx p effect p') : p'.IsForsaken t := by
  rcases h with rfl | ⟨hstate, answer, rfl⟩
  · unfold forsaken at hpass
    by_cases hfailed : t.state = .failed
    · simp only [hfailed, if_true] at hpass
      cases hpass
      exact Or.inl (by simp [forsaken, hfailed])
    · simp only [hfailed, if_false] at hpass
      cases hpass with
      | stay => exact Or.inl (by simp [forsaken, hfailed])
      | rolledBack answer => exact Or.inr ⟨hfailed, answer, rfl⟩
  · cases hpass
    exact Or.inr ⟨hstate, answer, rfl⟩

theorem forsaken_moves {t : Transaction} (hs : Sound σ) {p : Phase} (hp : Standing tx p σ)
    (h : p.IsForsaken t) (hm : Moves σ σ') : ∃ p', Standing tx p' σ' ∧ p'.IsForsaken t := by
  induction hm with
  | refl => exact ⟨p, hp, h⟩
  | tail hms hm ih =>
      rcases ih with ⟨p₁, hp₁, h₁⟩
      rcases exists_turned (hs.moves hms).phases hm hp₁ with ⟨effect, p', hturned⟩
      exact ⟨p', hturned.standing, h₁.passage hturned.passage⟩

/-- What is left of a transaction that was sent off: its ROLLBACK, and its end when that is answered
in some way or given up. One that the server had given up has nothing but its end. -/
def Outlived (tx : Nat) (t : Transaction) (s : Client) : Prop :=
  if t.state = .failed then
    s.terminalExchanges tx = [] ∧ s.endings tx = [.released, .notified] ∧
      s.final? tx = some .rolledBack
  else
    s.terminalExchanges tx = [.rollback] ∧
      ((s.answers tx .rollback = [] ∧ s.endings tx = [] ∧ s.final? tx = none) ∨
        ∃ answer, s.answers tx .rollback = [answer] ∧ s.endings tx = [.released, .notified] ∧
          s.final? tx = some .rolledBack)

theorem outlived_of_standing {t : Transaction} {p : Phase} (hp : Standing tx p σ)
    (h : p.IsForsaken t) : Outlived tx t σ.client := by
  have hexchanges : σ.client.terminalExchanges tx = p.account.exchanges :=
    congrArg Account.exchanges hp.account
  have hendings : σ.client.endings tx = p.account.endings := congrArg Account.endings hp.account
  have hrollbacks : σ.client.answers tx .rollback = p.account.rollbacks :=
    congrArg Account.rollbacks hp.account
  unfold Outlived
  rw [hexchanges, hendings, hrollbacks, hp.final?_eq]
  rcases h with rfl | ⟨hstate, answer, rfl⟩
  · by_cases hfailed : t.state = .failed <;>
      simp [Phase.forsaken, hfailed, Phase.account, Conclusion.exchanges, Conclusion.final]
  · simp [hstate, Phase.account, Conclusion.exchanges, Conclusion.final, Conclusion.rollbacks]

end

/-! ## Letting go -/

/-- A step by which someone lets a transaction go, and what becomes of his name or handle. -/
inductive LettingGo (s : Client) (tx : Nat) : Step → Client → Prop
  | name {name : String} (h : transaction? s name = some tx) :
      LettingGo s tx (.drop name) (s.updateTransaction tx (Transaction.letGo name))
  /-- The handle yields the transaction, and was never taken. -/
  | yielding {name : String} {place : Nat} {h : Handle Payload} (hname : handle? s name = some place)
      (hh : s.handles[place]? = some h) (hyields : h.state = .resolved (.ok (.transaction tx))) :
      LettingGo s tx (.dropHandle name) { s with handles := s.handles.set place h.drop }
  /-- BEGIN is to be acknowledged. -/
  | waiting {name : String} {place : Nat} {watched : Bool} (hname : handle? s name = some place)
      (hh : s.handles[place]? = some ⟨some name, .pending watched⟩)
      (hr : ∃ r ∈ s.connection.queue, r.owner = tx ∧ r.handler = .begun place) :
      LettingGo s tx (.dropHandle name)
        { s with handles := s.handles.set place ⟨none, .spent⟩ }

theorem abandon_of_held {s : Client} {others : List Request} {tx : Nat} {t : Transaction}
    (ht : s.transactions[tx]? = some t)
    (h : t.closing = true ∨ s.holdsTransaction others tx = true) :
    s.abandon others tx = (s, none) := by
  unfold Client.abandon
  rw [ht]
  dsimp only
  rw [if_pos]
  rcases h with h | h <;> simp [h]

/-- Whoever lets a transaction go that is still held, or has been claimed, does nothing else. -/
theorem LettingGo.perform_eq {s s' : Client} {tx : Nat} {step : Step} {t : Transaction}
    (hgo : LettingGo s tx step s') (ht : s.transactions[tx]? = some t)
    (h : t.closing = true ∨ s'.holdsTransaction s.connection.queue tx = true) :
    (perform .nonblocking s step).2 = s' := by
  cases hgo with
  | @name name hname =>
      have hplace : (s.updateTransaction tx (Transaction.letGo name)).transactions[tx]? =
          some (t.letGo name) := by
        simp [ht]
      have hsame := abandon_of_held hplace h
      simp [perform, Scenario.drop, Scenario.onTransaction, hname, ht, drop, hsame, Client.follow]
  | @yielding name place hd hname hh hyields =>
      have hsame := abandon_of_held (s := { s with handles := s.handles.set place hd.drop }) ht h
      simp [perform, Scenario.onHandle, hname, dropHandle, hh, hyields, hsame, Client.follow]
  | waiting hname hh _ =>
      simp [perform, Scenario.onHandle, hname, dropHandle, hh, Handle.drop]

/-- After every run an open transaction that nobody has claimed is held. The step after which nobody
holds it any more sends it off, at once or when BEGIN has been acknowledged, unless BEGIN is denied;
and from then on nothing but its end is left of it. Whoever lets a transaction go that is still held,
or has been claimed, gives up his name or handle, and that is all. -/
theorem forsaken_once (before : List Step) {s : Client} (hs : after .nonblocking {} before = s)
    {tx : Nat} {t : Transaction} (ht : s.transactions[tx]? = some t) :
    (t.isOpen = true → t.closing = false →
      s.holdsTransaction s.connection.queue tx = true ∧
      ∀ (step : Step) (s' : Client), (perform .nonblocking s step).2 = s' →
        s'.holdsTransaction s'.connection.queue tx = false →
        Refused tx s s' ∨
          (∃ past : List Event, s.history <+: past ∧ (past = s.history ∨ Acknowledged tx past) ∧
            past ++ farewell tx t <+: s'.history) ∧
          ∀ later : List Step, Outlived tx t (after .nonblocking s' later)) ∧
    ∀ (step : Step) (s' : Client), LettingGo s tx step s' →
      t.closing = true ∨ s'.holdsTransaction s.connection.queue tx = true →
      (perform .nonblocking s step).2 = s' := by
  have hsound : Sound (.of s) := hs ▸ sound_after before
  have hcustody : Tended tx (.of s) := hs ▸ tended_after before tx
  refine ⟨fun ho hc => ?_, fun step s' hgo h => hgo.perform_eq ht h⟩
  have hf : t.footing = ⟨false, none⟩ := congrArg₂ Footing.mk hc (t.isOpen_iff_footing.1 ho)
  refine ⟨hcustody.holds (by simp [Situation.of, Client.footing?, ht, hf]), ?_⟩
  rintro step s' rfl hnot
  rcases sentOff_of_acts hsound hcustody ht hf (Scenario.acts_perform s step) (by
    simpa [Situation.Holds, Situation.of] using hnot) with
    hrefused | ⟨past, hpast, hmoment, σ, hσ, hhistory, hstanding, hmoves⟩
  · exact Or.inl hrefused
  · refine Or.inr ⟨⟨past, hpast, hmoment, ?_⟩, fun later => ?_⟩
    · rw [← hhistory]
      exact history_moves hmoves
    · have hlater := Scenario.leads_after (perform .nonblocking s step).2 later
      rcases forsaken_moves hσ hstanding (Or.inl rfl) (hmoves.trans hlater) with ⟨p, hp, hgone⟩
      exact outlived_of_standing hp hgone

/-- A transaction is held under two names and marked for commit, and one of the names is given up. -/
def shared : List Step :=
  [.hold true,
    .begin { tx := "t", config := .settings [], reported := true, bookmarkOf := none
             handle := "b" },
    .take "b", .clone "t" "u", .success "t", .drop "t"]

def sharedTransaction : Transaction :=
  { title := "t", reported := true, state := .markedSuccess, holdings := [⟨"u", false⟩] }

/-- The other name is given up too. -/
theorem forsaken_once_of_shared :
    (∃ past : List Event, (after .nonblocking {} shared).history <+: past ∧
      (past = (after .nonblocking {} shared).history ∨ Acknowledged 0 past) ∧
      past ++ farewell 0 sharedTransaction <+:
        (perform .nonblocking (after .nonblocking {} shared) (.drop "u")).2.history) ∧
    ∀ later : List Step, Outlived 0 sharedTransaction
      (after .nonblocking (perform .nonblocking (after .nonblocking {} shared) (.drop "u")).2
        later) := by
  refine (((forsaken_once shared rfl (t := sharedTransaction) rfl).1 rfl rfl).2 (.drop "u") _ rfl
    rfl).resolve_left ?_
  rintro ⟨⟨r, hr, hh⟩, -⟩
  -- BEGIN had no bookmark, so nobody waits for it.
  have hnone : ((after .nonblocking {} shared).connection.queue.any fun r =>
      r.holdsTransaction 0) = false := rfl
  exact List.any_eq_false.1 hnone r hr hh

end Nonblocking

end ClientTransaction
