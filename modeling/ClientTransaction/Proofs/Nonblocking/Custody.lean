import ClientTransaction.Proofs.Nonblocking.Openings
import ClientTransaction.Proofs.Scenario.ExactlyOnce
import Mathlib.Data.List.Induction

/-!
# Nonblocking.Custody — in whose hands a transaction is

Until it is claimed a transaction is in somebody's hands: the application holds it, or has a handle
that yields it, or BEGIN is to be acknowledged, and the request that waits for that holds it. Of a
transaction that only such a request holds, nothing is known yet but that it was begun: it is active,
and no reply to it can change that.
-/

namespace ClientTransaction

open Client (Serves)

theorem Client.holdsTransaction_iff (s : Client) (rs : List Request) (tx : Nat) :
    s.holdsTransaction rs tx = true ↔ s.Kept tx ∨ ∃ r ∈ rs, r.holdsTransaction tx = true := by
  have hnamed : (s.transactions[tx]?.any fun t => !t.holdings.isEmpty) = true ↔
      ∃ t : Transaction, s.transactions[tx]? = some t ∧ t.holdings ≠ [] := by
    cases s.transactions[tx]? <;> simp
  rw [holdsTransaction, Bool.or_eq_true, Bool.or_eq_true]
  refine or_congr (or_congr hnamed ?_) List.any_eq_true
  rw [List.any_eq_true]
  refine exists_congr fun h => and_congr_right fun _ => ?_
  split
  · rename_i other hstate
    simp [hstate]
  · rename_i hnot
    simp only [Bool.false_eq_true, false_iff]
    exact hnot tx

/-- Only one that waits for the acknowledgement of BEGIN holds a transaction. -/
theorem Request.exists_begun {r : Request} {tx : Nat} (h : r.holdsTransaction tx = true) :
    r.owner = tx ∧ ∃ handle, r.handler = .begun handle := by
  unfold holdsTransaction at h
  split at h
  · rename_i handle heq
    exact ⟨by simpa using h, handle, heq⟩
  · simp at h

theorem Request.not_holds {r : Request} {tx : Nat} (h : ∀ handle, r.handler ≠ .begun handle) :
    r.holdsTransaction tx = false := by
  unfold holdsTransaction
  split
  · rename_i handle heq
    exact absurd heq (h handle)
  · rfl

/-- A transaction that is open and unclaimed has always been so. -/
theorem Transaction.Grows.isLoose {t t' : Transaction} (h : t.Grows t')
    (hf : t'.footing = ⟨false, none⟩) : t.footing = ⟨false, none⟩ := by
  have hclosing : t.closing = false := by
    cases hc : t.closing with
    | false => rfl
    | true =>
        have hclaimed : t'.closing = false := congrArg Footing.claimed hf
        exact absurd (h.closing hc) (by simp [hclaimed])
  have hfinal : t.footing.final? = none := by
    refine t.isOpen_iff_footing.1 ?_
    have ho : t'.state.isOpen = true := t'.isOpen_iff_footing.2 (congrArg Footing.final? hf)
    cases hterminal : t.state.isTerminal with
    | false => simp [isOpen, State.isOpen, hterminal]
    | true =>
        rw [h.state.eq_of_isTerminal hterminal] at ho
        simp [State.isOpen, hterminal] at ho
  exact congrArg₂ Footing.mk hclosing hfinal

namespace Nonblocking

/-- Somebody holds the transaction. -/
def Situation.Holds (σ : Situation) (tx : Nat) : Prop :=
  σ.client.holdsTransaction σ.outstanding tx = true

theorem Situation.holds_iff (σ : Situation) (tx : Nat) :
    σ.Holds tx ↔ σ.client.Kept tx ∨ ∃ r ∈ σ.outstanding, r.holdsTransaction tx = true :=
  σ.client.holdsTransaction_iff σ.outstanding tx

/-- The transaction is taken care of. -/
structure Tended (tx : Nat) (σ : Situation) : Prop where
  /-- Until it is claimed, or ends, somebody holds it. -/
  holds : σ.client.footing? tx = some ⟨false, none⟩ → σ.Holds tx
  born : ∀ r ∈ σ.outstanding, r.owner = tx → tx < σ.client.transactions.length
  /-- While BEGIN is to be acknowledged, nothing else can be learned. -/
  idle : ∀ r ∈ σ.outstanding, r.holdsTransaction tx = true →
    (∀ t : Transaction, σ.client.transactions[tx]? = some t → t.state = .active) ∧
      ∀ r' ∈ σ.outstanding, r'.owner = tx →
        r'.handler = .ignore ∨ r'.holdsTransaction tx = true

section

variable {tx : Nat} {p : Phase} {rs before after : List Request} {s s' : Client} {σ σ' : Situation}

/-! ## Requests that hold a transaction -/

/-- A transaction that a request holds is starting. -/
theorem starting_of_holds (hp : Standing tx p σ) {r : Request} (hr : r ∈ σ.outstanding)
    (hh : r.holdsTransaction tx = true) : ∃ handle, p = .starting handle := by
  rcases r.exists_begun hh with ⟨howner, handle, hhandler⟩
  have hmem : (r.exchange, r.part, r.handler) ∈ p.account.due := by
    have hdue : due tx σ.outstanding = p.account.due := congrArg Account.due hp.account
    rw [← hdue]
    exact List.mem_filterMap.2 ⟨r, hr, by simp [role?, howner, decides, hhandler,
      Handler.ownsCompletion]⟩
  cases p with
  | starting handle => exact ⟨handle, rfl⟩
  | _ => simp [Phase.account, hhandler] at hmem

theorem not_kept_of_holds (hs : Sound σ) {r : Request} (hr : r ∈ σ.outstanding)
    (hh : r.holdsTransaction tx = true) : ¬ σ.client.Kept tx := by
  rcases hs.phases tx with ⟨p, hp⟩
  rcases starting_of_holds hp hr hh with ⟨handle, rfl⟩
  exact hp.hidden rfl

/-- No more than one request holds a transaction. -/
theorem holds_alone {r r' : Request} (hs : Sound ⟨before ++ r :: after, s⟩)
    (hh : r.holdsTransaction tx = true) (hr' : r' ∈ before ++ after) :
    r'.holdsTransaction tx = false := by
  rcases hs.phases tx with ⟨p, hp⟩
  have hdecides : ∀ {q : Request}, q.holdsTransaction tx = true →
      role? tx q = some (q.exchange, q.part, q.handler) := by
    intro q hq
    rcases q.exists_begun hq with ⟨howner, handle, hhandler⟩
    simp [role?, howner, decides, hhandler, Handler.ownsCompletion]
  rcases starting_of_holds hp (List.mem_append_right before (List.mem_cons_self ..)) hh with
    ⟨handle, rfl⟩
  have hnil := (due_split (congrArg Account.due hp.account) (hdecides hh)).2
  cases hother : r'.holdsTransaction tx with
  | false => rfl
  | true =>
      have hmem : (r'.exchange, r'.part, r'.handler) ∈ due tx (before ++ after) :=
        List.mem_filterMap.2 ⟨r', hr', hdecides hother⟩
      rw [hnil] at hmem
      exact absurd hmem (List.not_mem_nil)

/-- What follows from a reply is sent for its transaction, and holds none. -/
theorem mem_opening_answer {others : List Request} {r q : Request}
    (hq : q ∈ (s.answer others r).1.opening (s.answer others r).2) :
    q.owner = r.owner ∧ ∀ tx, q.holdsTransaction tx = false := by
  cases hrb : (s.answer others r).2 with
  | none => simp [hrb, Client.opening] at hq
  | some rb =>
      rw [hrb] at hq
      rcases mem_requests hq with ⟨howner, -, hhandler⟩
      refine ⟨howner.trans (answer_rollback s others hrb).1, fun tx => ?_⟩
      apply Request.not_holds
      intro handle h
      rcases hhandler with hh | hh <;> simp [hh] at h

/-! ## What keeps a transaction in somebody's hands -/

/-- After a request has ended, whoever held a transaction holds it still. -/
theorem kept_answer (others : List Request) (r : Request) (hk : s.Kept tx) :
    ((s.answer others r).1.start (s.answer others r).2).Kept tx :=
  ((Serves.answer s others r).trans (.start _ _)).kept
    ((Client.names_start _ _).trans (s.names_answer others r)) hk

theorem Delivery.kept (h : Delivery σ σ') (hk : σ.client.Kept tx) : σ'.client.Kept tx := by
  cases h with
  | connect f => exact hk
  | flush place => exact hk
  | answer before after r reply others ho => exact kept_answer others { r with reply := reply } hk

theorem Deliveries.kept (h : Deliveries σ σ') (hk : σ.client.Kept tx) : σ'.client.Kept tx := by
  induction h with
  | refl => exact hk
  | tail _ hd ih => exact hd.kept ih

/-- Names stay with their transactions. -/
theorem exists_of_names (h : s'.names = s.names) {t' : Transaction}
    (ht' : s'.transactions[tx]? = some t') :
    ∃ t : Transaction, s.transactions[tx]? = some t ∧ t.holdings = t'.holdings := by
  have hholdings := congrArg (fun names => names.1[tx]?) h
  simp only [Client.names, List.getElem?_map, ht', Option.map_some] at hholdings
  exact Option.map_eq_some_iff.1 hholdings.symm

theorem footing?_of_grows (hg : s.Grows s') {t : Transaction} (ht : s.transactions[tx]? = some t)
    (h : s'.footing? tx = some ⟨false, none⟩) : s.footing? tx = some ⟨false, none⟩ := by
  rcases hg.transactions tx t ht with ⟨t', ht', hgrows⟩
  simp only [Client.footing?, ht, ht', Option.map_some, Option.some.injEq] at h ⊢
  exact hgrows.isLoose h

theorem abandon_of_unheld {others : List Request} {t : Transaction}
    (ht : s.transactions[tx]? = some t) (hf : t.footing = ⟨false, none⟩)
    (hh : s.holdsTransaction others tx = false) :
    s.abandon others tx =
      if t.state = .failed then ((s.updateTransaction tx Transaction.claim).release tx, none)
      else (s.updateTransaction tx Transaction.claim, some ⟨tx, ending .nobody⟩) := by
  have ho : t.isOpen = true := t.isOpen_iff_footing.2 (congrArg Footing.final? hf)
  have hc : t.closing = false := congrArg Footing.claimed hf
  simp [Client.abandon, ht, hh, ho, hc, ending]

/-- Whoever looks at a transaction that nobody holds sees to its end. -/
theorem holds_of_abandon {others : List Request}
    (hf : (s.abandon others tx).1.footing? tx = some ⟨false, none⟩) :
    s.holdsTransaction others tx = true := by
  apply Classical.byContradiction
  intro hnot
  have hh : s.holdsTransaction others tx = false := by simpa using hnot
  cases ht : s.transactions[tx]? with
  | none => simp [Client.abandon, ht, Client.footing?] at hf
  | some t =>
      have hfoot := footing?_of_grows (s.grows_abandon others tx) ht hf
      have ht' : t.footing = ⟨false, none⟩ := by simpa [Client.footing?, ht] using hfoot
      rw [abandon_of_unheld ht ht' hh] at hf
      split at hf
      · simp [Client.footing?_release, Client.footing?_claim, hfoot] at hf
      · simp [Client.footing?_claim, hfoot] at hf

/-! ## Deliveries -/

/-- A transaction that BEGIN is refused to is claimed. -/
theorem not_loose_of_refuse (handle : Nat) (e : Error) :
    (s.refuse tx handle e).footing? tx ≠ some ⟨false, none⟩ := by
  intro hf
  have hgrown : (s.updateTransaction tx fun t => t.markFailed.claim).Grows
      (s.refuse tx handle e) := by
    unfold Client.refuse
    dsimp only
    split
    · exact Client.grows_resolve _ _ _
    · exact (Client.grows_release _ tx).trans (Client.grows_resolve _ _ _)
  cases ht : s.transactions[tx]? with
  | none =>
      rcases Option.map_eq_some_iff.1 hf with ⟨t', ht', -⟩
      have hnames := s.names_refuse tx handle e
      rcases exists_of_names hnames ht' with ⟨t, ht'', -⟩
      simp [ht] at ht''
  | some t =>
      have hmarked : (s.updateTransaction tx fun t => t.markFailed.claim).transactions[tx]? =
          some t.markFailed.claim := by
        simp [ht]
      have hloose := footing?_of_grows hgrown hmarked hf
      simp [Client.footing?, ht] at hloose

theorem transactions_start (s : Client) (rb : Option Rollback) :
    (s.start rb).transactions = s.transactions := by
  cases rb <;> rfl

theorem names_answered (others : List Request) (r : Request) :
    (answered before after s others r).client.names = s.names :=
  (Client.names_start _ _).trans (s.names_answer others r)

/-- The request that a transaction waits for ends, and nobody else looks after it. -/
theorem holds_of_begun {handle : Nat} {exchange : Exchange} {part : Part} {reply : Reply}
    {others : List Request} (ho : others ⊆ before ++ after)
    (hf : (s.answer others ⟨tx, exchange, part, .begun handle, reply⟩).1.footing? tx =
      some ⟨false, none⟩) :
    (answered before after s others ⟨tx, exchange, part, .begun handle, reply⟩).Holds tx := by
  rcases reply with ⟨records, outcome⟩
  cases outcome with
  | success metadata =>
      have hholds := holds_of_abandon (s := (s.record (.reply tx exchange part
        ⟨records, .success metadata⟩)).resolve handle (.ok (.transaction tx))) hf
      rw [Client.holdsTransaction_iff] at hholds
      rw [Situation.holds_iff]
      rcases hholds with hkept | ⟨q, hq, hh⟩
      · refine Or.inl (((Serves.abandon _ others tx).trans (.start _ _)).kept ?_ hkept)
        exact (Client.names_start _ _).trans (Client.names_abandon _ _ _)
      · exact Or.inr ⟨q, List.mem_append_left _ (ho hq), hh⟩
  | failure e => exact absurd hf (not_loose_of_refuse _ _)
  | dropped => exact absurd hf (not_loose_of_refuse _ _)

theorem mem_outstanding {q r : Request} :
    q ∈ before ++ r :: after ↔ q = r ∨ q ∈ before ++ after := by
  simp [or_left_comm]

theorem Tended.holds_answer {r : Request} (h : Tended tx ⟨before ++ r :: after, s⟩) (reply : Reply)
    {others : List Request} (ho : others ⊆ before ++ after)
    (hf : (answered before after s others { r with reply := reply }).client.footing? tx =
      some ⟨false, none⟩) :
    (answered before after s others { r with reply := reply }).Holds tx := by
  rcases Option.map_eq_some_iff.1 hf with ⟨t', ht', -⟩
  rcases exists_of_names (names_answered others _) ht' with ⟨t, ht, -⟩
  have hloose := footing?_of_grows ((s.grows_answer others { r with reply := reply }).trans
    (Client.grows_start _ _)) ht hf
  rcases (Situation.holds_iff _ tx).1 (h.holds hloose) with hkept | ⟨q, hq, hh⟩
  · exact (Situation.holds_iff _ tx).2 (Or.inl (kept_answer others _ hkept))
  · rcases mem_outstanding.1 hq with rfl | hq
    · -- The request that held it has ended, so whoever asked for it must have it now.
      rcases q.exists_begun hh with ⟨rfl, handle, hhandler⟩
      rcases q with ⟨owner, exchange, part, handler, old⟩
      cases hhandler
      refine holds_of_begun ho ?_
      rw [← hf]
      exact (Client.footing?_eq_of_transactions (transactions_start _ _) _).symm
    · exact (Situation.holds_iff _ tx).2 (Or.inr ⟨q, List.mem_append_left _ hq, hh⟩)

/-- While a request holds a transaction, any other reply for it is one that nobody looks at. -/
theorem Tended.ignored {q r : Request} (h : Tended tx ⟨before ++ r :: after, s⟩)
    (hs : Sound ⟨before ++ r :: after, s⟩) (hq : q ∈ before ++ after)
    (hh : q.holdsTransaction tx = true) (howner : r.owner = tx) : r.handler = .ignore := by
  have hidle := (h.idle q (mem_outstanding.2 (Or.inr hq)) hh).2
  refine (hidle r (mem_outstanding.2 (Or.inl rfl)) howner).resolve_right ?_
  intro hr
  have halone := holds_alone hs hr hq
  simp [hh] at halone

theorem Tended.idle_answer {q r : Request} (h : Tended tx ⟨before ++ r :: after, s⟩)
    (hs : Sound ⟨before ++ r :: after, s⟩) (reply : Reply) (others : List Request)
    (hq : q ∈ before ++ after) (hh : q.holdsTransaction tx = true) :
    (∀ t : Transaction, (answered before after s others { r with reply := reply }
        ).client.transactions[tx]? = some t → t.state = .active) ∧
      ∀ r' ∈ (answered before after s others { r with reply := reply }).outstanding,
        r'.owner = tx → r'.handler = .ignore ∨ r'.holdsTransaction tx = true := by
  rcases h.idle q (mem_outstanding.2 (Or.inr hq)) hh with ⟨hactive, hidle⟩
  have hignored := h.ignored hs hq hh
  constructor
  · intro t ht
    have hplace : (s.answer others { r with reply := reply }).1.transactions[tx]? = some t := by
      rwa [answered, transactions_start] at ht
    by_cases hown : tx = r.owner
    · -- The reply is to BEGIN, and nobody looks at it.
      rcases r with ⟨owner, exchange, part, handler, old⟩
      cases hignored hown.symm
      exact hactive t hplace
    · have hserves := Serves.answer s others { r with reply := reply }
      exact hactive t ((hserves.others tx hown).symm.trans hplace)
  · intro q' hq' howner
    rcases List.mem_append.1 hq' with hq' | hq'
    · exact hidle q' (mem_outstanding.2 (Or.inr hq')) howner
    · -- An ignored reply is followed by nothing.
      rcases r with ⟨owner, exchange, part, handler, old⟩
      cases hignored ((mem_opening_answer hq').1.symm.trans howner)
      simp [Client.answer, Client.opening] at hq'

theorem Tended.answer {r : Request} (h : Tended tx ⟨before ++ r :: after, s⟩)
    (hs : Sound ⟨before ++ r :: after, s⟩) (reply : Reply) {others : List Request}
    (ho : others ⊆ before ++ after) :
    Tended tx (answered before after s others { r with reply := reply }) := by
  refine ⟨h.holds_answer reply ho, ?_, ?_⟩
  · intro q hq howner
    have hnames : (answered before after s others { r with reply := reply }).client.names =
        s.names := names_answered others _
    have hsize : (answered before after s others { r with reply := reply }
        ).client.transactions.length = s.transactions.length := by
      simpa [Client.names] using congrArg (fun names => names.1.length) hnames
    rw [hsize]
    rcases List.mem_append.1 hq with hq | hq
    · exact h.born q (mem_outstanding.2 (Or.inr hq)) howner
    · exact h.born r (mem_outstanding.2 (Or.inl rfl)) ((mem_opening_answer hq).1.symm.trans howner)
  · intro q hq hh
    rcases List.mem_append.1 hq with hq | hq
    · exact h.idle_answer hs reply others hq hh
    · simp [(mem_opening_answer hq).2 tx] at hh

theorem Tended.delivery (h : Tended tx σ) (hs : Sound σ) (hd : Delivery σ σ') : Tended tx σ' := by
  cases hd with
  | connect f => exact ⟨h.holds, h.born, h.idle⟩
  | flush place => exact ⟨h.holds, h.born, h.idle⟩
  | answer before after r reply others ho => exact h.answer hs reply ho

theorem Tended.deliveries (h : Tended tx σ) (hs : Sound σ) (hd : Deliveries σ σ') :
    Tended tx σ' := by
  induction hd with
  | refl => exact h
  | tail hds hd ih => exact ih.delivery (hs.moves (Deliveries.moves hds)) hd

/-! ## Acts -/

theorem lt_of_grows (hg : s.Grows s') (hlt : tx < s.transactions.length) :
    tx < s'.transactions.length := by
  rcases hg.transactions tx _ (List.getElem?_eq_getElem hlt) with ⟨t', ht', -⟩
  exact (List.getElem?_eq_some_iff.1 ht').1

/-- Only a transaction that is there is held. -/
theorem lt_of_kept (hs : Sound σ) (hk : σ.client.Kept tx) : tx < σ.client.transactions.length := by
  rcases hs.phases tx with ⟨p, hp⟩
  have hfoot : σ.client.footing? tx = p.account.footing? := congrArg Account.footing? hp.account
  cases ht : σ.client.transactions[tx]? with
  | some t => exact (List.getElem?_eq_some_iff.1 ht).1
  | none =>
      rw [Client.footing?, ht] at hfoot
      cases p with
      | unborn => exact absurd hk (hp.hidden rfl)
      | _ => simp [Phase.account] at hfoot

theorem Tended.minds (h : Tended tx (.of s)) (hs : Sound (.of s)) (hm : Minds tx s σ) :
    Tended tx σ := by
  rcases hm.sent with ⟨new, hnew, hall⟩
  have hsent : ∀ q ∈ σ.outstanding, q.owner = tx →
      q ∈ s.connection.queue ∨ s.Kept tx ∧ decides q = false := by
    intro q hq howner
    rw [hnew] at hq
    refine (List.mem_append.1 hq).imp id fun hq => ?_
    have haccepted := hall q hq howner
    exact ⟨howner ▸ haccepted.kept, haccepted.decides⟩
  refine ⟨?_, ?_, ?_⟩
  · intro hf
    rw [hm.untouched.footing?] at hf
    rw [Situation.holds_iff]
    rcases (Situation.holds_iff _ tx).1 (h.holds hf) with hkept | ⟨q, hq, hh⟩
    · exact Or.inl (hm.kept (lt_of_kept hs hkept) hkept)
    · exact Or.inr ⟨q, hnew ▸ List.mem_append_left new hq, hh⟩
  · intro q hq howner
    refine lt_of_grows hm.grows ?_
    rcases hsent q hq howner with hq | ⟨hkept, -⟩
    · exact h.born q hq howner
    · exact lt_of_kept hs hkept
  · intro q hq hh
    rcases q.exists_begun hh with ⟨howner, handle, hhandler⟩
    rcases hsent q hq howner with hq | ⟨-, hnot⟩
    · -- Nobody else holds it, so it is left alone.
      have hhidden := not_kept_of_holds hs hq hh
      rcases h.idle q hq hh with ⟨hactive, hidle⟩
      refine ⟨fun t ht => hactive t ((hm.hidden hhidden).symm.trans ht), ?_⟩
      intro q' hq' howner'
      rcases hsent q' hq' howner' with hq' | ⟨hkept, -⟩
      · exact hidle q' hq' howner'
      · exact absurd hkept hhidden
    · simp [decides, hhandler, Handler.ownsCompletion] at hnot

/-- Whoever lets a transaction go sees to it that it is held, or that it ends. -/
theorem tended_abandoned (hs : Sound (.of s)) (hgo : LetsGo tx s s') :
    Tended tx (abandoned s.connection.queue s' tx) := by
  have hunheld : ∀ q ∈ (abandoned s.connection.queue s' tx).outstanding,
      q.holdsTransaction tx = false := by
    intro q hq
    rcases List.mem_append.1 hq with hq | hq
    · cases hh : q.holdsTransaction tx with
      | false => rfl
      | true => exact absurd hgo.kept (not_kept_of_holds hs hq hh)
    · rcases abandon_cases s' s.connection.queue tx with ha | ⟨t, -, -, -, ha | ha⟩ <;> rw [ha] at hq
      · simp [Client.opening] at hq
      · simp [Client.opening] at hq
      · apply Request.not_holds
        intro handle hhandler
        rcases (mem_requests hq).2.2 with hq | hq <;> simp [hq] at hhandler
  refine ⟨?_, ?_, ?_⟩
  · intro hf
    have hfoot : (s'.abandon s.connection.queue tx).1.footing? tx = some ⟨false, none⟩ := by
      rw [← hf]
      exact (Client.footing?_eq_of_transactions (transactions_start _ _) _).symm
    rw [Situation.holds_iff]
    rcases (Client.holdsTransaction_iff _ _ _).1 (holds_of_abandon hfoot) with hkept | ⟨q, hq, hh⟩
    · refine Or.inl (((Serves.abandon s' _ tx).trans (.start _ _)).kept ?_ hkept)
      exact (Client.names_start _ _).trans (Client.names_abandon _ _ _)
    · exact Or.inr ⟨q, List.mem_append_left _ hq, hh⟩
  · intro q hq howner
    rcases hgo.transaction _ (List.getElem?_eq_getElem (lt_of_kept hs hgo.kept)) with
      ⟨holdings, ht'⟩
    exact lt_of_grows ((s'.grows_abandon s.connection.queue tx).trans (Client.grows_start _ _))
      (List.getElem?_eq_some_iff.1 ht').1
  · intro q hq hh
    rw [hunheld q hq] at hh
    cases hh

theorem Tended.act (h : Tended tx (.of s)) (hs : Sound (.of s)) (ha : Act s tx σ) :
    Tended tx σ := by
  cases ha with
  | minds hm => exact h.minds hs hm
  | letsGo hgo => exact tended_abandoned hs hgo
  | begins title reported params name =>
      refine ⟨fun _ => ?_, fun _ _ _ => ?_, ?_⟩
      · rw [Situation.holds_iff]
        exact Or.inl (Or.inr ⟨_, List.mem_append_right _ (List.mem_singleton_self _), rfl⟩)
      · simp [begunAtOnce]
      · intro q hq hh
        rcases q.exists_begun hh with ⟨howner, handle, hhandler⟩
        rcases List.mem_append.1 hq with hq | hq
        · exact absurd (h.born q hq howner) (Nat.lt_irrefl _)
        · rcases (mem_requests hq).2.2 with hq | hq <;> simp [hq] at hhandler
  | beginsAwaited title reported params name =>
      have hbegun : ∀ q ∈ (begunAwaited s.connection.queue s
          { title := title, reported := reported } params name).outstanding,
          q.owner = s.transactions.length → q.handler = .ignore ∨
            q.holdsTransaction s.transactions.length = true := by
        intro q hq howner
        rcases List.mem_append.1 hq with hq | hq
        · exact absurd (h.born q hq howner) (Nat.lt_irrefl _)
        · refine (mem_requests hq).2.2.imp id fun hhandler => ?_
          simp [Request.holdsTransaction, hhandler, howner]
      refine ⟨fun _ => ?_, fun _ _ _ => ?_, fun q hq hh => ⟨?_, hbegun⟩⟩
      · rw [Situation.holds_iff]
        refine Or.inr ⟨_, List.mem_append_right _ (List.mem_cons_of_mem _
          (List.mem_singleton_self _)), ?_⟩
        simp [Request.holdsTransaction]
      · simp [begunAwaited]
      · intro t ht
        have heq : some { title := title, reported := reported } = some t := by
          simpa [begunAwaited] using ht
        cases heq
        rfl
  | @claims tx t ht hc hk name terminal =>
      rcases hs.phases tx with ⟨p, hp⟩
      cases running_of_kept hp ht hc hk
      have hstanding := standing_taken hp name (terminal.course t.state)
      refine ⟨?_, ?_, ?_⟩
      · intro hf
        have hfoot := (congrArg Account.footing? hstanding.account).symm.trans hf
        cases hcourse : terminal.course t.state <;>
          simp [hcourse, Course.phase, Phase.account] at hfoot
      · intro q hq howner
        exact lt_of_grows (grows_taken _ _ _ _ _) (List.getElem?_eq_some_iff.1 ht).1
      · intro q hq hh
        rcases starting_of_holds hstanding hq hh with ⟨handle, hphase⟩
        cases hcourse : terminal.course t.state <;> simp [hcourse, Course.phase] at hphase

theorem Tended.perform (h : Tended tx (.of s)) (hs : Sound (.of s)) (step : Scenario.Step) :
    Tended tx (.of (Scenario.perform .nonblocking s step).2) := by
  rcases Scenario.acts_perform s step with ⟨σ, hmoves, hact, hdeliveries⟩
  exact (h.act hs (hact tx)).deliveries (hs.moves hmoves) hdeliveries

theorem tended_start (tx : Nat) : Tended tx (.of {}) := by
  refine ⟨?_, ?_, ?_⟩
  · intro hf
    simp [Situation.of, Client.footing?] at hf
  · intro q hq
    simp [Situation.of] at hq
  · intro q hq
    simp [Situation.of] at hq

end

theorem tended_after (steps : List Scenario.Step) (tx : Nat) :
    Tended tx (.of (Scenario.after .nonblocking {} steps)) := by
  induction steps using List.reverseRecOn with
  | nil => exact tended_start tx
  | append_singleton steps step ih =>
      rw [Scenario.after_append]
      exact ih.perform (sound_after steps) step

end Nonblocking

end ClientTransaction
