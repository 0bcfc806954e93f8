import ClientTransaction.Proofs.Nonblocking.Custody
import ClientTransaction.Proofs.Nonblocking.Openings
import ClientTransaction.Proofs.Nonblocking.Tracking

/-!
# Nonblocking.Replied — the reply to BEGIN

A transaction that begins with a bookmark has one request that acknowledges its BEGIN. As long as
that is outstanding no reply to BEGIN has come and the handle shows nothing; the one reply that comes
decides what the handle shows and whether the transaction is ever begun.
-/

namespace ClientTransaction.Nonblocking

/-! ## The reply to BEGIN -/

/-- The requests whose replies acknowledge the BEGIN of the transaction. -/
def begins (tx : Nat) (rs : List Request) : List Request :=
  rs.filter fun r => r.owner = tx ∧ r.exchange = .begin ∧ r.part = .pullAll

/-- What the reply to BEGIN has to do with the phase of the transaction and with what its handle
shows. -/
inductive Replied (tx handle : Nat) :
    Phase → Option (Except Error Payload) → List Request → List Outcome → Prop
  | waiting (old : Reply) :
      Replied tx handle (.starting handle) none [⟨tx, .begin, .pullAll, .begun handle, old⟩] []
  | granted {p : Phase} (h : p.isBegun = true) (metadata : Params) :
      Replied tx handle p (some (.ok (.transaction tx))) [] [.success metadata]
  | denied (loss : Loss) :
      Replied tx handle (.ended (.refused loss.error)) (some (.error loss.error)) [] [loss.outcome]

section

variable {tx handle : Nat} {rs before later others : List Request} {s s' : Client}
  {σ σ' : Situation} {p p' : Phase} {x : Option (Except Error Payload)} {answers : List Outcome}
  {effect : Option (Nat × Except Error Payload)}

theorem Replied.yields (h : Replied tx handle p x rs answers) : Yields tx handle p x := by
  cases h with
  | waiting => exact .starting
  | granted h => exact .begun h
  | denied loss => exact .refused _

theorem isBegun_of_yields (h : Yields tx handle p (some (.ok (.transaction tx)))) :
    p.isBegun = true := by
  cases h with
  | begun h => exact h

/-- Only after a success of BEGIN a transaction is running. -/
theorem Replied.answers_of_running (h : Replied tx handle p x rs answers)
    (hp : p.account = Phase.running.account) : ∃ metadata, answers = [.success metadata] := by
  cases h with
  | waiting => simp [Phase.account] at hp
  | granted hbegun metadata => exact ⟨metadata, rfl⟩
  | denied => simp [Phase.account] at hp

/-- Something else happens: as long as the reply is awaited, the transaction waits for it. -/
theorem Replied.passage (h : Replied tx handle p x rs answers) (hpass : Passage tx p effect p')
    (hwaits : rs ≠ [] → ∃ place, p' = .starting place) :
    Replied tx handle p' (x <|> effectOn handle effect) rs answers := by
  have hyields := h.yields.passage hpass
  cases h with
  | waiting old =>
      -- No passage but the one that changes nothing leads back to waiting.
      rcases hwaits (List.cons_ne_nil _ _) with ⟨place, rfl⟩
      cases hpass
      exact .waiting old
  | granted hbegun metadata => exact .granted (isBegun_of_yields hyields) metadata
  | denied loss =>
      cases hpass
      exact .denied loss

/-! ### Moves that are no reply to BEGIN -/

theorem begins_append (tx : Nat) (rs rs' : List Request) :
    begins tx (rs ++ rs') = begins tx rs ++ begins tx rs' :=
  List.filter_append _ _

theorem begins_requests (s : Client) {place : Nat} {exchange : Exchange}
    (h : place ≠ tx ∨ exchange ≠ .begin) (statement : String) (onRun onPull : Handler) :
    begins tx (s.requests place exchange statement onRun onPull) = [] := by
  refine List.filter_eq_nil_iff.2 fun r hr hbegins => ?_
  rcases mem_requests hr with ⟨howner, hexchange, -⟩
  simp only [decide_eq_true_eq] at hbegins
  rcases h with h | h
  · exact h (howner.symm.trans hbegins.1)
  · exact h (hexchange.symm.trans hbegins.2.1)

theorem begins_opening (tx : Nat) (s : Client) (rollback : Option Rollback) :
    begins tx (s.opening rollback) = [] := by
  cases rollback with
  | none => rfl
  | some r => exact begins_requests s (Or.inr (by simp)) _ _ _

theorem begins_taken (tx : Nat) (rs : List Request) (s : Client) (place : Nat)
    (name : Option String) (course : Course) :
    begins tx (taken rs s place name course).outstanding = begins tx rs := by
  cases course with
  | finish result => rfl
  | commit | commitOrRollback | rollback =>
      simp only [taken, sent]
      rw [begins_append, begins_requests _ (Or.inr (by simp)), List.append_nil]

theorem receipts_taken (rs : List Request) (s : Client) (place : Nat) (name : Option String)
    (course : Course) : (taken rs s place name course).client.receipts = s.receipts := by
  cases course with
  | finish result =>
      exact (Client.receipts_resolve _ _ _).trans (Client.receipts_release _ _)
  | commit | commitOrRollback | rollback => exact Client.receipts_send _ _ _ _ _ _ _

/-- The reply to a request is an answer to its exchange, if it is one to a PULL_ALL. -/
theorem answers_answered (before later : List Request) (s : Client) (others : List Request)
    (r : Request) (exchange : Exchange) :
    (answered before later s others r).client.answers tx exchange =
      s.answers tx exchange ++ (r.receipt.answer? tx exchange).toList := by
  rw [Client.answers_eq_receipts, Client.answers_eq_receipts, receipts_answered,
    List.filterMap_append]
  cases h : r.receipt.answer? tx exchange <;> simp [h]

/-- No reply to BEGIN comes, and none is asked for. -/
structure Unheard (tx : Nat) (σ σ' : Situation) : Prop where
  begins : begins tx σ'.outstanding = begins tx σ.outstanding
  answers : σ'.client.answers tx .begin = σ.client.answers tx .begin

theorem Unheard.of_receipts (hb : Nonblocking.begins tx σ'.outstanding =
      Nonblocking.begins tx σ.outstanding)
    (hr : σ'.client.receipts = σ.client.receipts) : Unheard tx σ σ' :=
  ⟨hb, by rw [Client.answers_eq_receipts, Client.answers_eq_receipts, hr]⟩

/-- More requests are sent, and none of them is a BEGIN of this transaction. -/
theorem Unheard.of_sent {new : List Request} (hnew : Nonblocking.begins tx new = [])
    (hr : s'.receipts = s.receipts) : Unheard tx ⟨rs, s⟩ ⟨rs ++ new, s'⟩ :=
  .of_receipts (by rw [begins_append, hnew, List.append_nil]) hr

/-- A request gets a reply that is none to BEGIN. -/
theorem unheard_answer {r : Request} (reply : Reply)
    (hr : ¬ (r.owner = tx ∧ r.exchange = .begin ∧ r.part = .pullAll)) :
    Unheard tx ⟨before ++ r :: later, s⟩
      (answered before later s others { r with reply := reply }) := by
  constructor
  · unfold answered
    rw [begins_append, begins_opening, List.append_nil]
    simp [begins, List.filter_append, hr]
  · rw [answers_answered]
    simp [Receipt.answer?, Request.receipt, hr]

/-- A move is the reply to a BEGIN, or has nothing to do with it. -/
theorem heard_or_unheard (hlt : tx < σ.client.transactions.length) (hm : Move σ σ') :
    Unheard tx σ σ' ∨ ∃ (before later : List Request) (s : Client) (others : List Request)
      (r : Request) (reply : Reply), r.owner = tx ∧ r.exchange = .begin ∧ r.part = .pullAll ∧
        σ = ⟨before ++ r :: later, s⟩ ∧
        σ' = answered before later s others { r with reply := reply } := by
  cases hm with
  | calm h => exact Or.inl (.of_receipts rfl (Client.receipts_calm h))
  | connect f => exact Or.inl (.of_receipts rfl rfl)
  | flush place => exact Or.inl (.of_receipts rfl (Client.receipts_record _ rfl))
  | send place cursor statement params =>
      exact Or.inl (.of_sent (begins_requests _ (Or.inr (by simp)) _ _ _)
        (Client.receipts_send _ _ _ _ _ _ _))
  | await cursor name => exact Or.inl (.of_receipts rfl rfl)
  | answered name result h => exact Or.inl (.of_receipts rfl rfl)
  | begin t ht params name =>
      exact Or.inl (.of_sent (begins_requests _ (Or.inl (Nat.ne_of_gt hlt)) _ _ _)
        ((Client.receipts_addHandle _ _).trans (Client.receipts_send _ _ _ _ _ _ _)))
  | beginAwaited t ht params name =>
      exact Or.inl (.of_sent (begins_requests _ (Or.inl (Nat.ne_of_gt hlt)) _ _ _)
        (Client.receipts_send _ _ _ _ _ _ _))
  | claim ht hc hk name terminal =>
      exact Or.inl (.of_receipts (begins_taken tx _ _ _ name _) (receipts_taken _ _ _ name _))
  | answer before later r reply others =>
      by_cases hr : r.owner = tx ∧ r.exchange = .begin ∧ r.part = .pullAll
      · exact Or.inr ⟨before, later, _, others, r, reply, hr.1, hr.2.1, hr.2.2, rfl, rfl⟩
      · exact Or.inl (unheard_answer reply hr)
  | abandon place =>
      exact Or.inl (.of_sent (begins_opening tx _ _)
        ((Client.receipts_start _ _).trans (Client.receipts_abandon _ _ _)))

/-! ### The reply -/

theorem Carried.turned (h : Carried tx effect p p' σ σ') : Turned tx effect p p' σ σ' :=
  ⟨h.passage, h.standing, fun handle _ => h.handled handle⟩

/-- BEGIN is answered: the transaction is given to whoever holds the handle, or is denied. -/
theorem exists_replied_of_begun {old : Reply}
    (ha : Situation.account
        ⟨before ++ ⟨tx, .begin, .pullAll, .begun handle, old⟩ :: later, s⟩ tx =
      (Phase.starting handle).account)
    (hnone : s.answers tx .begin = []) (hothers : begins tx (before ++ later) = []) (reply : Reply)
    (others : List Request) :
    ∃ effect p', Turned tx effect (.starting handle) p'
        ⟨before ++ ⟨tx, .begin, .pullAll, .begun handle, old⟩ :: later, s⟩
        (answered before later s others ⟨tx, .begin, .pullAll, .begun handle, reply⟩) ∧
      Replied tx handle p' (effectOn handle effect)
        (begins tx (answered before later s others
          ⟨tx, .begin, .pullAll, .begun handle, reply⟩).outstanding)
        ((answered before later s others
          ⟨tx, .begin, .pullAll, .begun handle, reply⟩).client.answers tx .begin) := by
  rcases account_answered ha rfl rfl rfl reply with ⟨-, ha'⟩
  have hbegins : begins tx (answered before later s others
      ⟨tx, .begin, .pullAll, .begun handle, reply⟩).outstanding = [] := by
    unfold answered
    rw [begins_append, hothers, begins_opening]
    rfl
  have hanswers : (answered before later s others
      ⟨tx, .begin, .pullAll, .begun handle, reply⟩).client.answers tx .begin = [reply.outcome] := by
    rw [answers_answered, hnone]
    simp [Receipt.answer?, Request.receipt]
  rw [hbegins, hanswers]
  rcases reply with ⟨records, outcome⟩
  rcases outcome.success_or_loss with ⟨metadata, rfl⟩ | ⟨loss, rfl⟩
  · -- Running, or on its way back: in any case the transaction has begun.
    rcases carried_acknowledged ha' others with ⟨p', hcarried⟩
    have hyields : Yields tx handle p' _ := Yields.starting.passage hcarried.passage
    rw [effectOn_self] at hyields
    refine ⟨_, p', hcarried.turned, ?_⟩
    rw [effectOn_self]
    exact .granted (isBegun_of_yields hyields) metadata
  · refine ⟨_, _, (carried_refused ha' others).turned, ?_⟩
    rw [effectOn_self]
    exact .denied loss

theorem mem_begins {r : Request} {rs : List Request} :
    r ∈ begins tx rs ↔ r ∈ rs ∧ r.owner = tx ∧ r.exchange = .begin ∧ r.part = .pullAll := by
  simp [begins]

theorem begins_cons_of_mem {r : Request} (hr : r.owner = tx ∧ r.exchange = .begin ∧
      r.part = .pullAll) :
    begins tx (before ++ r :: later) = begins tx before ++ r :: begins tx later := by
  simp [begins, List.filter_append, hr]

/-- Whatever happens, the reply to BEGIN goes with the phase and with what the handle shows. -/
theorem Replied.exists_turned (h : Replied tx handle p x rs answers)
    (hrs : begins tx σ.outstanding = rs) (hanswers : σ.client.answers tx .begin = answers)
    (hp : Standing tx p σ) (hs : Sound σ) (hm : Move σ σ') :
    ∃ effect p', Turned tx effect p p' σ σ' ∧
      Replied tx handle p' (x <|> effectOn handle effect) (begins tx σ'.outstanding)
        (σ'.client.answers tx .begin) := by
  rcases heard_or_unheard (h.yields.lt hp) hm with hunheard |
    ⟨before, later, s, others, r, reply, howner, hexchange, hpart, rfl, rfl⟩
  · rcases Nonblocking.exists_turned hs.phases hm hp with ⟨effect, p', hturned⟩
    refine ⟨effect, p', hturned, ?_⟩
    rw [hunheard.begins, hunheard.answers, hrs, hanswers]
    refine h.passage hturned.passage fun hwaits => ?_
    have hsame := hunheard.begins.trans hrs
    cases h with
    | waiting old =>
        -- The request is outstanding still.
        have hmem : (⟨tx, .begin, .pullAll, .begun handle, old⟩ : Request) ∈
            begins tx σ'.outstanding := by
          rw [hsame]
          exact List.mem_singleton_self _
        exact starting_of_holds hturned.standing (mem_begins.1 hmem).1
          (by simp [Request.holdsTransaction])
    | granted => exact absurd rfl hwaits
    | denied => exact absurd rfl hwaits
  · rw [begins_cons_of_mem ⟨howner, hexchange, hpart⟩] at hrs
    -- It is the one request that the transaction waits for.
    cases h with
    | waiting old =>
        obtain ⟨hbefore, rfl, hlater⟩ : begins tx before = [] ∧
            r = ⟨tx, .begin, .pullAll, .begun handle, old⟩ ∧ begins tx later = [] := by
          cases hb : begins tx before with
          | nil => simpa [hb] using hrs
          | cons q rest => simp [hb] at hrs
        have hothers : begins tx (before ++ later) = [] := by
          rw [begins_append, hbefore, hlater]
          rfl
        exact exists_replied_of_begun hp.account hanswers hothers reply others
    | granted => simp at hrs
    | denied => simp at hrs

/-! ## The handle of BEGIN -/

/-- The handle shows what the reply to BEGIN has brought. -/
def Watched (tx handle : Nat) (σ : Situation) : Prop :=
  Tracked tx handle (fun p x =>
    Replied tx handle p x (begins tx σ.outstanding) (σ.client.answers tx .begin)) σ

theorem Watched.tracked (h : Watched tx handle σ) : Tracked tx handle (Yields tx handle) σ := by
  rcases h.shown with ⟨p, x, hd, hp, hreplied, hh, hshows, horder⟩
  exact ⟨h.owned, p, x, hd, hp, hreplied.yields, hh, hshows, horder⟩

theorem Watched.move (h : Watched tx handle σ) (hs : Sound σ) (hm : Move σ σ') :
    Watched tx handle σ' := by
  rcases h.shown with ⟨p, x, hd, hp, hreplied, hh, hshows, horder⟩
  rcases hreplied.exists_turned rfl rfl hp hs hm with ⟨effect, p', hturned, hreplied'⟩
  rcases hshows.handled hh (hturned.handled handle h.owned) with ⟨hd', hh', hshows'⟩
  exact ⟨h.owned.linked (linked_move hm), p', _, hd', hturned.standing, hreplied', hh', hshows',
    horder.turned (follows_yields tx handle) hreplied.yields h.owned hturned⟩

theorem Watched.moves (h : Watched tx handle σ) (hs : Sound σ) (hm : Moves σ σ') :
    Watched tx handle σ' := by
  induction hm with
  | refl => exact h
  | tail hms hm ih => exact ih.move (hs.moves hms) hm

/-- A transaction whose BEGIN has been sent just now. -/
theorem watched_begunAwaited {s : Client} {rs : List Request} (hs : Sound ⟨rs, s⟩)
    (hrs : begins s.transactions.length rs = [])
    (hanswers : s.answers s.transactions.length .begin = []) {t : Transaction} (ht : t.isFresh)
    (params : Params) (name : Option String) :
    Watched s.transactions.length s.handles.length (begunAwaited rs s t params name) := by
  refine tracked_begunAwaited hs ht params name ?_
  have hreceipts : (begunAwaited rs s t params name).client.receipts = s.receipts :=
    Client.receipts_send _ _ _ _ _ _ _
  have hnone : (begunAwaited rs s t params name).client.answers s.transactions.length .begin =
      [] := by
    rw [Client.answers_eq_receipts, hreceipts, ← Client.answers_eq_receipts, hanswers]
  have hone : ∃ old, begins s.transactions.length (begunAwaited rs s t params name).outstanding =
      [⟨s.transactions.length, .begin, .pullAll, .begun s.handles.length, old⟩] := by
    unfold begunAwaited
    rw [begins_append, hrs]
    simp [begins, Client.requests]
  rcases hone with ⟨old, hone⟩
  rw [hnone, hone]
  exact .waiting old

end

end ClientTransaction.Nonblocking
