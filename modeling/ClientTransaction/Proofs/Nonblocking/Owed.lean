import ClientTransaction.Proofs.Client.Starts
import ClientTransaction.Proofs.Nonblocking.Custody

/-!
# Nonblocking.Owed — what a transaction is still to hear

Every request that was sent has come to its end or is outstanding. A transaction that has sent a
request which decides about it sends nothing more before that one is answered; and since replies come
in the order of the requests, nothing else is outstanding for the transaction by then. This is so
although replies come while others are given up: those that are still to be given up are for other
transactions.
-/

namespace ClientTransaction

/-- A request, by what it was sent for. -/
structure Inquiry where
  owner : Nat
  exchange : Exchange
  part : Part
  deriving DecidableEq, Repr

def Request.inquiry (r : Request) : Inquiry :=
  ⟨r.owner, r.exchange, r.part⟩

def Receipt.inquiry (r : Receipt) : Inquiry :=
  ⟨r.owner, r.exchange, r.part⟩

@[simp]
def Event.inquiry? : Event → Option Inquiry
  | .run tx exchange _ _ => some ⟨tx, exchange, .run⟩
  | .pullAll tx exchange => some ⟨tx, exchange, .pullAll⟩
  | _ => none

/-- The requests that were sent. -/
def inquiries (events : List Event) : List Inquiry :=
  events.filterMap Event.inquiry?

/-- The requests that came to their end, with a reply or without one. -/
def fulfilments (events : List Event) : List Inquiry :=
  (events.filterMap Event.receipt?).map Receipt.inquiry

theorem inquiries_append (events events' : List Event) :
    inquiries (events ++ events') = inquiries events ++ inquiries events' :=
  List.filterMap_append

theorem fulfilments_append (events events' : List Event) :
    fulfilments (events ++ events') = fulfilments events ++ fulfilments events' := by
  simp [fulfilments]

theorem fulfilments_history (s : Client) :
    fulfilments s.history = s.receipts.map Receipt.inquiry :=
  rfl

namespace Client

variable {s s' : Client}

theorem inquiries_requests (s : Client) (tx : Nat) (exchange : Exchange) (statement : String)
    (onRun onPull : Handler) :
    (s.requests tx exchange statement onRun onPull).map Request.inquiry =
      [⟨tx, exchange, .run⟩, ⟨tx, exchange, .pullAll⟩] :=
  rfl

theorem inquiries_record (s : Client) {e : Event} (he : e.inquiry? = none) :
    inquiries (s.record e).history = inquiries s.history := by
  have hnone : inquiries [e] = [] := List.filterMap_eq_nil_iff.2 fun e' he' =>
    List.mem_singleton.1 he' ▸ he
  rw [(frame_record s e).2.2.2.2, inquiries_append, hnone, List.append_nil]

/-- Where no exchange is started, nothing is sent. -/
theorem inquiries_of_starts (h : Starts (fun _ _ => False) s s') :
    inquiries s'.history = inquiries s.history := by
  rcases h with ⟨blocks, heq, hall⟩
  have hnone : inquiries (blocks.flatMap Block.events) = [] := by
    refine List.filterMap_eq_nil_iff.2 fun e he => ?_
    rcases List.mem_flatMap.1 he with ⟨b, hb, he⟩
    cases b with
    | note e' hcall =>
        rw [List.mem_singleton.1 he]
        cases e' with
        | run | pullAll => simp [Event.isCall] at hcall
        | _ => rfl
    | start tx exchange statement params hw => exact (hall _ hb tx exchange rfl).elim
  rw [heq, inquiries_append, hnone, List.append_nil]

theorem inquiries_send (s : Client) (tx : Nat) (exchange : Exchange) (statement : String)
    (params : Params) (onRun onPull : Handler) :
    inquiries (s.send tx exchange statement params onRun onPull).history =
      inquiries s.history ++ [⟨tx, exchange, .run⟩, ⟨tx, exchange, .pullAll⟩] := by
  rw [(s.frame_send tx exchange statement params onRun onPull).2.2.2.2, inquiries_append]
  rfl

end Client

namespace Nonblocking

open Client (Starts)
open Scenario

/-! ## What is outstanding -/

/-- Each request that was sent came to its end once, or is outstanding. -/
def Situation.Balanced (σ : Situation) : Prop :=
  (inquiries σ.client.history).Perm
    (fulfilments σ.client.history ++ σ.outstanding.map Request.inquiry)

namespace Situation.Balanced

variable {rs : List Request} {s s' : Client}

/-- Nothing is sent, and nothing comes to its end. -/
theorem still (h : Situation.Balanced ⟨rs, s⟩) (hi : inquiries s'.history = inquiries s.history)
    (hr : s'.receipts = s.receipts) : Situation.Balanced ⟨rs, s'⟩ := by
  unfold Situation.Balanced at h ⊢
  rw [hi, fulfilments_history, hr]
  exact h

theorem record (h : Situation.Balanced ⟨rs, s⟩) {e : Event} (hi : e.inquiry? = none)
    (hr : e.receipt? = none) : Situation.Balanced ⟨rs, s.record e⟩ :=
  h.still (s.inquiries_record hi) (s.receipts_record hr)

/-- Something happens that starts no exchange. -/
theorem starts (h : Situation.Balanced ⟨rs, s⟩) (hs : Starts (fun _ _ => False) s s')
    (hr : s'.receipts = s.receipts) : Situation.Balanced ⟨rs, s'⟩ :=
  h.still (Client.inquiries_of_starts hs) hr

theorem send (h : Situation.Balanced ⟨rs, s⟩) (s₁ : Client) (tx : Nat) (exchange : Exchange)
    (statement : String) (params : Params) (onRun onPull : Handler) :
    Situation.Balanced ⟨rs ++ s₁.requests tx exchange statement onRun onPull,
      s.send tx exchange statement params onRun onPull⟩ := by
  unfold Situation.Balanced at h ⊢
  rw [s.inquiries_send, fulfilments_history, s.receipts_send, List.map_append,
    s₁.inquiries_requests, ← List.append_assoc]
  exact h.append_right _

theorem start (h : Situation.Balanced ⟨rs, s⟩) (rollback : Option Rollback) :
    Situation.Balanced ⟨rs ++ s.opening rollback, s.start rollback⟩ := by
  cases rollback with
  | none => simpa [Client.opening, Client.start] using h
  | some rb =>
      have hsent := h.send s rb.tx .rollback Message.rollback [] .ignore (.rolledBack rb.done)
      exact hsent.record rfl rfl

theorem answer {before after : List Request} {r : Request}
    (h : Situation.Balanced ⟨before ++ r :: after, s⟩) (reply : Reply) (others : List Request) :
    (answered before after s others { r with reply := reply }).Balanced := by
  refine start ?_ _
  unfold Situation.Balanced at h ⊢
  have hstarts : Starts (fun _ _ => False) s (s.answer others { r with reply := reply }).1 :=
    .answer s others _
  rw [Client.inquiries_of_starts hstarts, fulfilments_history, s.receipts_answer, List.map_append,
    List.append_assoc]
  refine h.trans (List.Perm.append_left _ ?_)
  rw [List.map_append, List.map_append]
  exact List.perm_middle

theorem taken (h : Situation.Balanced ⟨rs, s⟩) (tx : Nat) (name : Option String)
    (course : Course) : (taken rs s tx name course).Balanced := by
  have hclaimed : Situation.Balanced ⟨rs, claimed s tx name⟩ := h
  cases course with
  | finish result =>
      have hreleased : Situation.Balanced ⟨rs, (claimed s tx name).release tx⟩ :=
        hclaimed.starts (.release _ tx) (Client.receipts_release _ tx)
      exact hreleased.starts (.resolve _ _ _) (Client.receipts_resolve _ _ _)
  | commit => exact hclaimed.send _ _ _ _ _ _ _
  | commitOrRollback => exact hclaimed.send _ _ _ _ _ _ _
  | rollback => exact hclaimed.send _ _ _ _ _ _ _

theorem move {σ σ' : Situation} (h : σ.Balanced) (hm : Move σ σ') : σ'.Balanced := by
  cases hm with
  | calm hcalm => exact h.starts (.calm hcalm) (Client.receipts_calm hcalm)
  | connect f => exact h
  | flush tx => exact h.record rfl rfl
  | send tx cursor statement params => exact h.send _ _ _ _ _ _ _
  | await cursor name => exact h
  | answered name result hresult => exact h
  | @begin rs s t ht params name =>
      have hadded : Situation.Balanced ⟨rs, s.addTransaction t⟩ := h
      exact hadded.send (s.addTransaction t) _ _ _ params _ _
  | @beginAwaited rs s t ht params name =>
      have hadded : Situation.Balanced ⟨rs, (s.addTransaction t).addHandle (.fresh name)⟩ := h
      exact hadded.send ((s.addTransaction t).addHandle (.fresh name)) _ _ _ params _ _
  | claim ht hc hk name terminal => exact h.taken _ name _
  | answer before after r reply others => exact h.answer reply others
  | @abandon rs s tx =>
      exact (h.starts (.abandon s rs tx) (Client.receipts_abandon s rs tx)).start _

theorem moves {σ σ' : Situation} (h : σ.Balanced) (hm : Moves σ σ') : σ'.Balanced := by
  induction hm with
  | refl => exact h
  | tail _ hm ih => exact ih.move hm

end Situation.Balanced

/-- After every run each request that was sent has come to its end, or is queued. -/
theorem balanced_after (steps : List Step) :
    (Situation.of (after .nonblocking {} steps)).Balanced := by
  have hstart : (Situation.of {}).Balanced := List.Perm.refl _
  exact hstart.moves (leads_after {} steps)

/-! ## Requests that decide -/

/-- A request that decides about the transaction is the last one for it. -/
def LastWord (tx : Nat) (rs : List Request) : Prop :=
  rs.Pairwise fun r q => r.owner = tx → decides r = true → q.owner ≠ tx

section

variable {tx : Nat} {rs new before after : List Request} {s : Client} {r : Request}

theorem decides_of_due (h : due tx rs = []) (hr : r ∈ rs) (ho : r.owner = tx) :
    decides r = false := by
  have hrole := List.filterMap_eq_nil_iff.1 h r hr
  simpa [role?, ho] using hrole

theorem lastWord_of_undecided (h : ∀ r ∈ rs, r.owner = tx → decides r = false) :
    LastWord tx rs := by
  refine List.pairwise_of_forall_mem_list fun r hr q _ ho hd => ?_
  simp [h r hr ho] at hd

theorem LastWord.append (h : LastWord tx rs) (hnew : LastWord tx new)
    (hfree : due tx rs = [] ∨ ∀ q ∈ new, q.owner ≠ tx) : LastWord tx (rs ++ new) := by
  refine List.pairwise_append.2 ⟨h, hnew, fun r hr q hq ho hd => ?_⟩
  rcases hfree with hdue | hothers
  · simp [decides_of_due hdue hr ho] at hd
  · exact hothers q hq

/-- Only the PULL_ALL of an exchange decides, and it is sent last. -/
theorem lastWord_requests (s : Client) (tx place : Nat) (exchange : Exchange) (statement : String)
    (onPull : Handler) : LastWord tx (s.requests place exchange statement .ignore onPull) := by
  simp [LastWord, Client.requests, decides, Handler.ownsCompletion]

theorem lastWord_opening (s : Client) (tx : Nat) (rollback : Option Rollback) :
    LastWord tx (s.opening rollback) := by
  cases rollback with
  | none => exact List.Pairwise.nil
  | some rb => exact lastWord_requests s tx _ _ _ _

/-- Nothing else is due for a transaction but the request that decides about it. -/
theorem due_of_decides {p : Phase} (hp : Standing r.owner p ⟨before ++ r :: after, s⟩)
    (hd : decides r = true) : due r.owner (before ++ after) = [] := by
  have hdue : due r.owner (before ++ r :: after) = p.account.due := congrArg Account.due hp.account
  have hrole := role_of_decides hd
  have hone : ∀ role, p.account.due = [role] → due r.owner (before ++ after) = [] :=
    fun role h => (due_split (hdue.trans h) hrole).2
  have hnil : p.account.due ≠ [] := by
    rw [← hdue, due_append]
    simp [due, hrole]
  cases p with
  | unborn => simp [Phase.account] at hnil
  | running => simp [Phase.account] at hnil
  | ended c => simp [Phase.account] at hnil
  | starting handle => exact hone _ rfl
  | committing fallback l => exact hone _ rfl
  | fallingBack loss l => exact hone _ rfl
  | rollingBack l => exact hone _ rfl

/-- What follows from an answer is for the transaction that was decided about. -/
theorem of_mem_opening_answer {others : List Request} {q : Request}
    (hq : q ∈ (s.answer others r).1.opening (s.answer others r).2) :
    q.owner = r.owner ∧ decides r = true := by
  cases hrb : (s.answer others r).2 with
  | none => simp [hrb, Client.opening] at hq
  | some rb =>
      rw [hrb] at hq
      refine ⟨(mem_requests hq).1.trans (answer_rollback s others hrb).1, ?_⟩
      cases hown : r.handler.ownsCompletion with
      | true => simp [decides, hown]
      | false => simp [(s.calm_answer others hown).2] at hrb

theorem LastWord.answer (h : LastWord tx (before ++ r :: after))
    (hall : ∀ tx, ∃ p, Standing tx p ⟨before ++ r :: after, s⟩) (reply : Reply)
    (others : List Request) :
    LastWord tx (answered before after s others { r with reply := reply }).outstanding := by
  have hrest : LastWord tx (before ++ after) :=
    List.Pairwise.sublist (List.Sublist.append_left (List.sublist_cons_self r after) before) h
  refine hrest.append (lastWord_opening _ tx _) ?_
  by_cases hfree : r.owner = tx ∧ decides r = true
  · rcases hfree with ⟨rfl, hd⟩
    rcases hall r.owner with ⟨p, hp⟩
    exact Or.inl (due_of_decides hp hd)
  · refine Or.inr fun q hq ho => hfree ?_
    rcases of_mem_opening_answer hq with ⟨howner, hd⟩
    exact ⟨howner.symm.trans ho, hd⟩

theorem LastWord.delivery {σ σ' : Situation} (h : LastWord tx σ.outstanding) (hs : Sound σ)
    (hd : Delivery σ σ') : LastWord tx σ'.outstanding := by
  cases hd with
  | connect f => exact h
  | flush place => exact h
  | answer before after r reply others _ => exact h.answer hs.phases reply others

theorem LastWord.deliveries {σ σ' : Situation} (h : LastWord tx σ.outstanding) (hs : Sound σ)
    (hd : Deliveries σ σ') : LastWord tx σ'.outstanding := by
  have hboth : LastWord tx σ'.outstanding ∧ Sound σ' := by
    induction hd with
    | refl => exact ⟨h, hs⟩
    | tail _ hd ih => exact ⟨ih.1.delivery ih.2 hd, ih.2.move hd.move⟩
  exact hboth.1

/-! ### What a step does of its own -/

/-- A transaction that accepts a statement has nothing decided about it. -/
theorem Accepted.due (h : Accepted s r) (hs : Sound (.of s)) :
    Nonblocking.due r.owner s.connection.queue = [] := by
  rcases hs.phases r.owner with ⟨p, hp⟩
  cases ht : s.transactions[r.owner]? with
  | none =>
      -- Who is held is there.
      exact absurd (List.getElem?_eq_none_iff.1 ht) (Nat.not_le.2 (lt_of_kept hs h.kept))
  | some t =>
      have hclosing : t.closing = false := by
        have haccepts := h.accepts
        cases hc : t.closing with
        | false => rfl
        | true => simp [ht, Transaction.refusal?, hc] at haccepts
      cases running_of_kept hp ht hclosing h.kept
      exact congrArg Account.due hp.account

theorem Act.lastWord {σ : Situation} (h : Act s tx σ) (hs : Sound (.of s))
    (hl : LastWord tx s.connection.queue) : LastWord tx σ.outstanding := by
  cases h with
  | minds hm =>
      rcases hm.sent with ⟨new, heq, hall⟩
      rw [heq]
      refine hl.append (lastWord_of_undecided fun q hq ho => (hall q hq ho).decides) ?_
      by_cases hany : ∃ q ∈ new, q.owner = tx
      · rcases hany with ⟨q, hq, rfl⟩
        exact Or.inl ((hall q hq rfl).due hs)
      · exact Or.inr fun q hq ho => hany ⟨q, hq, ho⟩
  | begins title reported params name =>
      rcases hs.phases s.transactions.length with ⟨p, hp⟩
      cases unborn_of_length hp
      exact hl.append (lastWord_requests _ _ _ _ _ _) (Or.inl (congrArg Account.due hp.account))
  | beginsAwaited title reported params name =>
      rcases hs.phases s.transactions.length with ⟨p, hp⟩
      cases unborn_of_length hp
      exact hl.append (lastWord_requests _ _ _ _ _ _) (Or.inl (congrArg Account.due hp.account))
  | @claims tx t ht hc hk name terminal =>
      rcases hs.phases tx with ⟨p, hp⟩
      cases running_of_kept hp ht hc hk
      have hfree : due tx s.connection.queue = [] := congrArg Account.due hp.account
      cases terminal.course t.state with
      | finish result => exact hl
      | commit => exact hl.append (lastWord_requests _ _ _ _ _ _) (Or.inl hfree)
      | commitOrRollback => exact hl.append (lastWord_requests _ _ _ _ _ _) (Or.inl hfree)
      | rollback => exact hl.append (lastWord_requests _ _ _ _ _ _) (Or.inl hfree)
  | @letsGo tx s₁ hgo =>
      rcases hs.phases tx with ⟨p, hp⟩
      refine hl.append (lastWord_opening _ tx _) ?_
      by_cases hrunning : p = .running
      · subst hrunning
        exact Or.inl (congrArg Account.due hp.account)
      · -- Only a running transaction can be abandoned.
        have hstanding := hgo.standing hp
        unfold Situation.of at hstanding
        rw [hgo.connection] at hstanding
        rw [abandon_of_not_running hstanding hrunning]
        exact Or.inr (by simp [Client.opening])

end

/-! ## The order of replies -/

/-- The requests that are outstanding at a position. -/
def situated (x : Client.Position) : Situation :=
  ⟨x.before ++ x.client.connection.queue, x.client⟩

/-- What is still to be heard at a position comes in such an order that a request which decides about
a transaction is its last. -/
structure InTurn (x : Client.Position) : Prop where
  sound : Sound (situated x)
  lastWord : ∀ tx, LastWord tx (situated x).outstanding
  /-- What is still to be given up is for other transactions than what is queued. -/
  apart : ∀ q ∈ x.client.connection.queue, ∀ p ∈ x.before, p.owner ≠ q.owner

section

variable {x y : Client.Position} {before rest : List Request} {s : Client} {r : Request}

theorem deliveries_turn (ht : Client.Turn x y) : Deliveries (situated x) (situated y) :=
  (Delivers.lasting (situated x)).turn ht .refl

theorem deliveries_turns (ht : Client.Turns x y) : Deliveries (situated x) (situated y) := by
  induction ht with
  | refl => exact .refl
  | tail _ ht ih => exact Relation.ReflTransGen.trans ih (deliveries_turn ht)

/-- A request that decides is answered when nothing else is outstanding for its transaction. -/
theorem InTurn.alone (h : InTurn ⟨before, s⟩) (hq : s.connection.queue = r :: rest)
    (hd : decides r = true) : ∀ q ∈ before ++ rest, q.owner ≠ r.owner := by
  intro q hmem
  rcases List.mem_append.1 hmem with hmem | hmem
  · exact h.apart r (by simp [hq]) q hmem
  · have hlast := h.lastWord r.owner
    simp only [situated, hq] at hlast
    have hrest := (List.pairwise_append.1 hlast).2.1
    exact (List.pairwise_cons.1 hrest).1 q hmem rfl hd

/-- So it is with one that is given up. -/
theorem InTurn.alone_givenUp (h : InTurn ⟨r :: before, s⟩) (hd : decides r = true) :
    ∀ q ∈ before ++ s.connection.queue, q.owner ≠ r.owner := by
  intro q hmem
  have hlast := h.lastWord r.owner
  simp only [situated, List.cons_append] at hlast
  exact (List.pairwise_cons.1 hlast).1 q hmem rfl hd

theorem InTurn.turn (h : InTurn x) (ht : Client.Turn x y) : InTurn y where
  sound := h.sound.moves (Deliveries.moves (deliveries_turn ht))
  lastWord := by
    intro tx
    exact (h.lastWord tx).deliveries h.sound (deliveries_turn ht)
  apart := by
    cases ht with
    | flush tx => exact h.apart
    | @next before s r rest hq =>
        intro q hmem
        rw [queue_start, connection_answer] at hmem
        rcases List.mem_append.1 hmem with hmem | hmem
        · exact h.apart q (by simp [hq, show q ∈ rest from hmem])
        · -- What follows is for the transaction of the request that was answered.
          rw [(of_mem_opening_answer hmem).1]
          exact h.apart r (by simp [hq])
    | take =>
        intro q hmem
        simp at hmem
    | @giveUp before s r =>
        intro q hmem p hp
        rw [queue_start, connection_answer] at hmem
        rcases List.mem_append.1 hmem with hmem | hmem
        · exact h.apart q hmem p (List.mem_cons_of_mem r hp)
        · rcases of_mem_opening_answer hmem with ⟨howner, hd⟩
          rw [howner]
          exact h.alone_givenUp hd p (List.mem_append_left _ hp)

theorem InTurn.turns (h : InTurn x) (ht : Client.Turns x y) : InTurn y := by
  induction ht with
  | refl => exact h
  | tail _ ht ih => exact ih.turn ht

theorem situated_opening {step : Step} {σ : Situation} (ho : Opening s step σ) :
    situated ⟨[], σ.client⟩ = σ := by
  rcases σ with ⟨outstanding, client⟩
  exact congrArg (Situation.mk · client) ho.queue.symm

/-- What a step does of its own keeps the order. -/
theorem InTurn.opening (h : InTurn ⟨[], s⟩) {step : Step} {σ : Situation}
    (ho : Opening s step σ) : InTurn ⟨[], σ.client⟩ := by
  refine ⟨?_, fun tx => ?_, by simp⟩
  · rw [situated_opening ho]
    exact h.sound.moves ho.moves
  · rw [situated_opening ho]
    exact (ho.act tx).lastWord h.sound (h.lastWord tx)

/-- After every run all is in order. -/
theorem inTurn_after (steps : List Step) : InTurn ⟨[], after .nonblocking {} steps⟩ := by
  have hrun : ∀ s, InTurn ⟨[], s⟩ → InTurn ⟨[], after .nonblocking s steps⟩ := by
    induction steps with
    | nil => exact fun _ h => h
    | cons step rest ih =>
        intro s h
        rcases opens_perform s step with ⟨σ, ho, hh⟩
        exact ih _ ((h.opening ho).turns hh.turns)
  exact hrun {} ⟨sound_start, fun _ => List.Pairwise.nil, by simp⟩

end

end Nonblocking

end ClientTransaction
