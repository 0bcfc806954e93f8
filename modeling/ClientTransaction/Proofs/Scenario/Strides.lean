import ClientTransaction.Proofs.Blocking.Acknowledged
import ClientTransaction.Proofs.Lifecycle.Joins
import ClientTransaction.Proofs.Nonblocking.Bookmarks
import ClientTransaction.Proofs.Scenario.Arrivals

/-!
# Scenario.Strides — what a step is made of

Whether calls wait or not, a step of an application is a sequence of strides of a few kinds. The
application says something of a transaction; a statement is begun, and its RUN and its PULL_ALL are
sent; a reply comes; or something happens that concerns neither results nor the marks and the
bookmark of a transaction. For each statement the requests that were answered and those that are
outstanding make up a ledger, and only sending adds to it.
-/

namespace ClientTransaction

/-! ## Requests -/

/-- The request has a handler of its part of the exchange. Where calls wait, COMMIT and ROLLBACK
both have one that captures a bookmark, and no handler owns a completion. -/
structure Request.Suits (flavor : Flavor) (r : Request) : Prop where
  fits : r.Fits ∨ flavor = .blocking ∧ r.handler = .bookmark ∧ r.part = .pullAll ∧
    (r.exchange = .commit ∨ r.exchange = .rollback)
  passive : flavor = .blocking → r.handler.ownsCompletion = false

section

variable {flavor : Flavor}

/-- The handler of a request for a statement tells the part. -/
theorem Request.Suits.of_statement {r : Request} (h : r.Suits flavor) {cursor : Nat}
    (hr : r.exchange = .statement cursor) :
    (r.part = .run ∧ r.handler = .columns cursor) ∨
      (r.part = .pullAll ∧ r.handler = .rows cursor) := by
  rcases h.fits with h | ⟨-, -, -, h | h⟩
  · rcases r with ⟨owner, exchange, part, handler, reply⟩
    dsimp only at hr
    subst hr
    cases h with
    | columns => exact Or.inl ⟨rfl, rfl⟩
    | rows => exact Or.inr ⟨rfl, rfl⟩
    | ignore hne => exact absurd rfl (hne cursor)
  · rw [hr] at h
    cases h
  · rw [hr] at h
    cases h

theorem Request.Suits.withReply {r : Request} (h : r.Suits flavor) (reply : Reply) :
    ({ r with reply := reply } : Request).Suits flavor :=
  ⟨h.fits, h.passive⟩

/-- Nobody waits for the RUN of an exchange that is no statement. -/
theorem Request.suits_ignored {owner : Nat} {exchange : Exchange} {reply : Reply}
    (h : exchange.cursor? = none) :
    Request.Suits flavor ⟨owner, exchange, .run, .ignore, reply⟩ := by
  refine ⟨Or.inl (.ignore fun cursor heq => ?_), fun _ => rfl⟩
  dsimp only at heq
  rw [heq] at h
  cases h

/-- Where calls do not wait, all requests have the handlers of their parts. -/
theorem Request.Fits.suits {r : Request} (h : r.Fits) : r.Suits .nonblocking :=
  ⟨Or.inl h, nofun⟩

end

/-! ## Results without those who hold them -/

/-- What a cursor holds, whoever has it and waits for it. -/
def Cursor.bare (c : Cursor) : Cursor :=
  { c with name := none, waiters := [] }

namespace Client

/-- What all cursors hold. -/
def results (s : Client) : List Cursor :=
  s.cursors.map Cursor.bare

theorem results_updateCursor (s : Client) (cursor : Nat) {f : Cursor → Cursor}
    (hf : ∀ c : Cursor, (f c).bare = c.bare) : (s.updateCursor cursor f).results = s.results := by
  unfold results
  rw [(s.frame_updateCursor cursor f).2.1]
  exact map_modify_of_eq Cursor.bare hf s.cursors cursor

theorem length_results (s : Client) : s.results.length = s.cursors.length :=
  List.length_map _

theorem results_resolveAll (s : Client) (handles : List Nat) (result : Except Error Payload) :
    (s.resolveAll handles result).results = s.results :=
  congrArg (List.map Cursor.bare) (Alike.resolveAll s handles result).cursors.symm

theorem results_releaseCursor (s : Client) (requests : List Request) (cursor : Nat) :
    (s.releaseCursor requests cursor).results = s.results := by
  unfold releaseCursor
  split
  · rfl
  · split
    · rfl
    · exact (results_resolveAll _ _ _).trans (s.results_updateCursor cursor fun _ => rfl)

/-! ## States -/

/-- The state of a transaction; one that has not been begun counts as active. -/
def stateOf (s : Client) (tx : Nat) : State :=
  (s.transactions[tx]?.map Transaction.state).getD .active

theorem stateOf_of_getElem? {s : Client} {tx : Nat} {t : Transaction}
    (ht : s.transactions[tx]? = some t) : s.stateOf tx = t.state := by
  simp [stateOf, ht]

theorem stateOf_updateTransaction (s : Client) (place tx : Nat) (f : Transaction → Transaction) :
    (s.updateTransaction place f).stateOf tx =
      if place = tx then (s.transactions[tx]?.map fun t => (f t).state).getD .active
      else s.stateOf tx := by
  unfold stateOf
  by_cases h : place = tx
  · subst h
    simp [Function.comp_def]
  · simp [h]

/-- Nothing is said of an open transaction, but it may be ended. -/
def Eases (s s' : Client) : Prop :=
  ∀ tx, s'.stateOf tx = s.stateOf tx ∨ (s'.stateOf tx).isTerminal = true

namespace Eases

variable {s s₁ s₂ : Client}

theorem refl (s : Client) : s.Eases s :=
  fun _ => Or.inl rfl

theorem trans (h : s.Eases s₁) (h' : s₁.Eases s₂) : s.Eases s₂ := by
  intro tx
  rcases h' tx with heq | hterminal
  · rw [heq]
    exact h tx
  · exact Or.inr hterminal

theorem of_transactions (h : s₁.transactions = s.transactions) : s.Eases s₁ :=
  fun tx => Or.inl (congrArg
    (fun ts : List Transaction => (ts[tx]?.map Transaction.state).getD .active) h)

/-- A transaction changes, but not its state. -/
theorem updateTransaction (s : Client) (place : Nat) {f : Transaction → Transaction}
    (hf : ∀ t : Transaction, (f t).state = t.state) : s.Eases (s.updateTransaction place f) := by
  intro tx
  refine Or.inl ?_
  rw [stateOf_updateTransaction]
  split
  · simp only [hf]
    rfl
  · rfl

/-- A transaction ends. -/
theorem finalize (s : Client) (place : Nat) {f : Transaction → Transaction}
    (hf : ∀ t : Transaction, (f t).state.isTerminal = true) :
    s.Eases (s.updateTransaction place f) := by
  intro tx
  rw [stateOf_updateTransaction]
  split
  · cases ht : s.transactions[tx]? with
    | none => exact Or.inl (by simp [stateOf, ht])
    | some t => exact Or.inr (by simpa [ht] using hf t)
  · exact Or.inl rfl

theorem release (s : Client) (tx : Nat) : s.Eases (s.release tx) := by
  have hfinal : s.Eases (s.updateTransaction tx (Transaction.finalize .rolledBack)) :=
    .finalize s tx fun t => State.isTerminal_finalize rfl t.state
  exact hfinal.trans (.of_transactions rfl)

/-- A new transaction is active. -/
theorem addTransaction (s : Client) {t : Transaction} (ht : t.state = .active) :
    s.Eases (s.addTransaction t) := by
  intro tx
  refine Or.inl ?_
  unfold stateOf
  rcases Nat.lt_trichotomy tx s.transactions.length with hlt | rfl | hgt
  · simp [List.getElem?_append_left hlt]
  · simp [ht]
  · have hnone : (s.transactions ++ [t])[tx]? = none := by
      rw [List.getElem?_eq_none_iff, List.length_append]
      exact hgt
    simp [hnone, Nat.le_of_lt hgt]

theorem resolve (s : Client) (handle : Nat) (result : Except Error Payload) :
    s.Eases (s.resolve handle result) :=
  .of_transactions (Alike.resolve s handle result).transactions.symm

theorem abandon (s : Client) (requests : List Request) (tx : Nat) :
    s.Eases (s.abandon requests tx).1 := by
  have hclaim : s.Eases (s.updateTransaction tx Transaction.claim) :=
    .updateTransaction s tx fun _ => rfl
  rcases Nonblocking.abandon_cases s requests tx with h | ⟨t, -, -, -, h | h⟩ <;> rw [h]
  · exact .refl s
  · exact hclaim.trans (.release _ tx)
  · exact hclaim

end Eases

/-! ## Statements -/

/-- The replies that have come for a statement. -/
def replies (s : Client) (cursor : Nat) : List Receipt :=
  s.receipts.filter fun r => r.exchange = .statement cursor

end Client

namespace Scenario

open Nonblocking (Situation answered Elsewhere Spares)

/-- The parts of a statement that were sent, in the order in which they are answered: first those
that were answered, and then those that are outstanding. -/
def ledger (σ : Situation) (cursor : Nat) : List Part :=
  (σ.client.replies cursor).map Receipt.part ++
    (σ.outstanding.filter fun r => r.exchange = .statement cursor).map Request.part

/-! ## Strides -/

/-- What an application says of a transaction. -/
inductive Deed
  | mark (m : Mark)
  | bookmark (b : Bookmark)
  deriving Repr

def Deed.apply : Deed → Transaction → Transaction
  | .mark m => fun t => { t with state := t.state.raise m }
  | .bookmark b => Transaction.setBookmark b

/-- Nothing happens to results, marks and bookmarks, and nothing is told of results. What is sent is
for no statement, and for a transaction that is there. -/
structure Apart (flavor : Flavor) (σ σ' : Situation) : Prop where
  results : σ'.client.results = σ.client.results
  receipts : σ'.client.receipts = σ.client.receipts
  tidings : σ'.client.tidings = σ.client.tidings
  bookmark : ∀ tx, σ'.client.bookmark tx = σ.client.bookmark tx
  eases : σ.client.Eases σ'.client
  born : σ.client.transactions.length ≤ σ'.client.transactions.length
  sent : ∃ new : List Request, σ'.outstanding = σ.outstanding ++ new ∧ ∀ r ∈ new,
    r.Suits flavor ∧ r.exchange.cursor? = none ∧ r.owner < σ'.client.transactions.length

/-- One thing that happens, with what the application says of a transaction. -/
inductive Stride (flavor : Flavor) : Option (Nat × Deed) → Situation → Situation → Prop
  | apart {σ σ' : Situation} (h : Apart flavor σ σ') : Stride flavor none σ σ'
  | tells {rs : List Request} {s : Client} {tx : Nat} (ht : tx < s.transactions.length) (d : Deed) :
      Stride flavor (some (tx, d)) ⟨rs, s⟩ ⟨rs, s.updateTransaction tx d.apply⟩
  /-- A statement is begun. -/
  | begins {rs : List Request} {s : Client} (tx : Nat) (statement : String)
      (name : Option String) :
      Stride flavor none ⟨rs, s⟩
        ⟨rs, s.addCursor { statement := statement, owner := tx, name := name }⟩
  /-- The RUN or the PULL_ALL of a statement is sent. -/
  | sends {rs : List Request} {s : Client} {r : Request} {cursor : Nat} (hs : r.Suits flavor)
      (he : r.exchange = .statement cursor) (hc : cursor < s.cursors.length)
      (ho : r.owner < s.transactions.length)
      (hnext : ledger ⟨rs, s⟩ cursor ++ [r.part] <+: [.run, .pullAll]) :
      Stride flavor none ⟨rs, s⟩ ⟨rs ++ [r], s⟩
  /-- A reply comes. A transaction whose BEGIN is to be acknowledged has not been claimed. -/
  | answers {s : Client} {before after : List Request} {r : Request} (reply : Reply)
      (others : List Request) (ht : InTurn before r)
      (hb : ∀ handle, r.handler = .begun handle → ¬ s.Claimed r.owner) :
      Stride flavor none ⟨before ++ r :: after, s⟩
        (answered before after s others { r with reply := reply })

/-- Strides one after the other, with what the application says meanwhile. -/
inductive Strides (flavor : Flavor) : List (Nat × Deed) → Situation → Situation → Prop
  | refl (σ : Situation) : Strides flavor [] σ σ
  | tail {ds : List (Nat × Deed)} {d : Option (Nat × Deed)} {σ σ₁ σ₂ : Situation}
      (h : Strides flavor ds σ σ₁) (h' : Stride flavor d σ₁ σ₂) :
      Strides flavor (ds ++ d.toList) σ σ₂

variable {flavor : Flavor}

namespace Strides

variable {ds ds' : List (Nat × Deed)} {σ σ₁ σ₂ : Situation}

theorem single {d : Option (Nat × Deed)} (h : Stride flavor d σ σ₁) :
    Strides flavor d.toList σ σ₁ := by
  have hsingle := (Strides.refl σ).tail h
  rwa [List.nil_append] at hsingle

theorem trans (h : Strides flavor ds σ σ₁) (h' : Strides flavor ds' σ₁ σ₂) :
    Strides flavor (ds ++ ds') σ σ₂ := by
  -- Strides are added at the end, so the second sequence is taken apart.
  induction h' with
  | refl => simpa using h
  | tail _ hd ih =>
      rw [← List.append_assoc]
      exact (ih h).tail hd

theorem apart (h : Apart flavor σ σ₁) : Strides flavor [] σ σ₁ :=
  single (.apart h)

/-- The application speaks while nothing has left the queue. -/
theorem speaks (flavor : Flavor) {s : Client} {tx : Nat} (ht : tx < s.transactions.length)
    (d : Deed) :
    Strides flavor [(tx, d)] (.of s) (.of (s.updateTransaction tx d.apply)) :=
  single (.tells ht d)

end Strides

/-! ## Changes apart -/

namespace Apart

variable {σ σ₁ σ₂ : Situation} {rs : List Request} {s s₁ : Client}

/-- Nothing is sent. -/
theorem of_client (hresults : s₁.results = s.results) (hreceipts : s₁.receipts = s.receipts)
    (htidings : s₁.tidings = s.tidings) (hbookmark : ∀ tx, s₁.bookmark tx = s.bookmark tx)
    (heases : s.Eases s₁) (hborn : s.transactions.length ≤ s₁.transactions.length) :
    Apart flavor ⟨rs, s⟩ ⟨rs, s₁⟩ :=
  ⟨hresults, hreceipts, htidings, hbookmark, heases, hborn, [], by simp, by simp⟩

theorem refl (σ : Situation) : Apart flavor σ σ :=
  of_client rfl rfl rfl (fun _ => rfl) (.refl _) (Nat.le_refl _)

theorem trans (h : Apart flavor σ σ₁) (h' : Apart flavor σ₁ σ₂) : Apart flavor σ σ₂ where
  results := h'.results.trans h.results
  receipts := h'.receipts.trans h.receipts
  tidings := h'.tidings.trans h.tidings
  bookmark := fun tx => (h'.bookmark tx).trans (h.bookmark tx)
  eases := h.eases.trans h'.eases
  born := Nat.le_trans h.born h'.born
  sent := by
    rcases h.sent with ⟨new, heq, hnew⟩
    rcases h'.sent with ⟨new', heq', hnew'⟩
    refine ⟨new ++ new', by rw [heq', heq, List.append_assoc], fun r hr => ?_⟩
    rcases List.mem_append.1 hr with hr | hr
    · -- The owner was there before, and transactions stay.
      rcases hnew r hr with ⟨hsuits, hother, howner⟩
      exact ⟨hsuits, hother, Nat.lt_of_lt_of_le howner h'.born⟩
    · exact hnew' r hr

/-- Of the client only the connection, the handles and the history have changed, and neither a reply
nor a tiding has come. -/
theorem of_same (hcursors : s₁.cursors = s.cursors)
    (htransactions : s₁.transactions = s.transactions)
    (hreceipts : s₁.receipts = s.receipts) (htidings : s₁.tidings = s.tidings) :
    Apart flavor ⟨rs, s⟩ ⟨rs, s₁⟩ :=
  of_client (congrArg (List.map Cursor.bare) hcursors) hreceipts htidings
    (Client.bookmark_of_transactions htransactions) (.of_transactions htransactions)
    (Nat.le_of_eq (congrArg List.length htransactions).symm)

theorem updateConnection (rs : List Request) (s : Client) (f : Connection → Connection) :
    Apart flavor ⟨rs, s⟩ ⟨rs, s.updateConnection f⟩ :=
  of_same rfl rfl rfl rfl

theorem record (rs : List Request) (s : Client) {e : Event} (he : e.receipt? = none)
    (hn : e.tiding? = none) : Apart flavor ⟨rs, s⟩ ⟨rs, s.record e⟩ :=
  of_same rfl rfl (s.receipts_record he) (s.tidings_record hn)

/-- A transaction changes, but neither its state nor its bookmark. -/
theorem updateTransaction (rs : List Request) (s : Client) (tx : Nat)
    {f : Transaction → Transaction} (hstate : ∀ t : Transaction, (f t).state = t.state)
    (hbookmark : ∀ t : Transaction, (f t).bookmark = t.bookmark) :
    Apart flavor ⟨rs, s⟩ ⟨rs, s.updateTransaction tx f⟩ :=
  of_client rfl rfl rfl (Spares.updateTransaction s tx hbookmark).bookmark
    (.updateTransaction s tx hstate) (by simp)

theorem release (rs : List Request) (s : Client) (tx : Nat) :
    Apart flavor ⟨rs, s⟩ ⟨rs, s.release tx⟩ :=
  of_client rfl (s.receipts_release tx) (s.tidings_release tx) (Spares.release s tx).bookmark
    (.release s tx) (by simp [Client.release])

/-- The application lets a result go. -/
theorem dropCursor (rs : List Request) (s : Client) (cursor : Nat) :
    Apart flavor ⟨rs, s⟩ ⟨rs, s.dropCursor cursor⟩ := by
  have htransactions : (s.dropCursor cursor).transactions = s.transactions :=
    Client.transactions_releaseCursor _ _ _
  exact of_client ((Client.results_releaseCursor _ _ _).trans
      (s.results_updateCursor cursor fun _ => rfl)) (Client.receipts_calm (.dropCursor s cursor))
    (s.tidings_dropCursor cursor) (Client.bookmark_of_transactions htransactions)
    (.of_transactions htransactions) (Nat.le_of_eq (congrArg List.length htransactions).symm)

/-- More requests are sent, for no statement. -/
theorem of_sent {new : List Request}
    (hnew : ∀ r ∈ new, r.Suits flavor ∧ r.exchange.cursor? = none ∧
      r.owner < s.transactions.length) :
    Apart flavor ⟨rs, s⟩ ⟨rs ++ new, s⟩ where
  results := rfl
  receipts := rfl
  tidings := rfl
  bookmark := fun _ => rfl
  eases := .refl s
  born := Nat.le_refl _
  sent := ⟨new, rfl, hnew⟩

/-- A statement keeps its ledger. -/
theorem ledger_eq (h : Apart flavor σ σ₁) (cursor : Nat) : ledger σ₁ cursor = ledger σ cursor := by
  rcases h.sent with ⟨new, heq, hnew⟩
  have hnone : (new.filter fun r => r.exchange = .statement cursor) = [] := by
    refine List.filter_eq_nil_iff.2 fun r hr => ?_
    have hother := (hnew r hr).2.1
    intro he
    rw [of_decide_eq_true he] at hother
    cases hother
  simp [ledger, Client.replies, h.receipts, heq, hnone]

end Apart

/-! ## Ledgers under replies -/

section

variable {s : Client} {before after others : List Request} {r : Request} {cursor : Nat}

/-- One more reply has come. -/
theorem replies_answered (before after : List Request) (s : Client) (others : List Request)
    (r : Request) (cursor : Nat) :
    (answered before after s others r).client.replies cursor =
      s.replies cursor ++ if r.exchange = .statement cursor then [r.receipt] else [] := by
  unfold Client.replies
  rw [Nonblocking.receipts_answered, List.filter_append]
  congr 1
  by_cases h : r.exchange = .statement cursor <;> simp [Request.receipt, h]

/-- What is left outstanding for a statement after a reply. -/
theorem filter_outstanding_answered (cursor : Nat) :
    ((answered before after s others r).outstanding.filter
        fun q => q.exchange = .statement cursor) =
      (before ++ after).filter fun q => q.exchange = .statement cursor := by
  have hnone : (((s.answer others r).1.opening (s.answer others r).2).filter
      fun q => q.exchange = .statement cursor) = [] := by
    refine List.filter_eq_nil_iff.2 fun q hq he => ?_
    have hother := Client.cursor?_opening hq
    rw [of_decide_eq_true he] at hother
    cases hother
  rw [answered, List.filter_append, hnone, List.append_nil]

/-- Nothing stands before a request whose turn has come. -/
theorem InTurn.filter_eq_nil (h : InTurn before r) (hr : r.exchange = .statement cursor)
    (place : Nat) : (before.filter fun q => q.exchange = .statement place) = [] := by
  refine List.filter_eq_nil_iff.2 fun q hq he => ?_
  have hnone := h (by rw [hr]; simp [Exchange.cursor?]) q hq
  rw [of_decide_eq_true he] at hnone
  cases hnone

/-- A reply that comes in turn leaves every ledger as it is. -/
theorem ledger_answered (h : InTurn before r) (reply : Reply) (others : List Request)
    (cursor : Nat) :
    ledger (answered before after s others { r with reply := reply }) cursor =
      ledger ⟨before ++ r :: after, s⟩ cursor := by
  unfold ledger
  rw [replies_answered, filter_outstanding_answered]
  by_cases hr : r.exchange = .statement cursor
  · -- The part moves from the first outstanding to the last answered one.
    simp [hr, h.filter_eq_nil hr, Request.receipt]
  · simp [hr]

end

/-! ## Strides that leave statements as they are -/

/-- Nothing is said, no statement is begun, and nothing is sent for one. -/
structure Passing (flavor : Flavor) (σ σ' : Situation) : Prop where
  strides : Strides flavor [] σ σ'
  ledger : ∀ cursor, ledger σ' cursor = ledger σ cursor
  size : σ'.client.cursors.length = σ.client.cursors.length
  born : σ.client.transactions.length ≤ σ'.client.transactions.length

namespace Passing

variable {σ σ₁ σ₂ : Situation}

theorem refl (σ : Situation) : Passing flavor σ σ :=
  ⟨.refl σ, fun _ => rfl, rfl, Nat.le_refl _⟩

theorem trans (h : Passing flavor σ σ₁) (h' : Passing flavor σ₁ σ₂) : Passing flavor σ σ₂ where
  strides := h.strides.trans h'.strides
  ledger := fun cursor => (h'.ledger cursor).trans (h.ledger cursor)
  size := h'.size.trans h.size
  born := Nat.le_trans h.born h'.born

theorem of_apart (h : Apart flavor σ σ₁) : Passing flavor σ σ₁ where
  strides := .apart h
  ledger := h.ledger_eq
  size := by simpa [Client.length_results] using congrArg List.length h.results
  born := h.born

end Passing

/-- A reply that comes in turn is passed by. -/
theorem passing_answered {s : Client} {before after : List Request} {r : Request}
    (h : InTurn before r) (reply : Reply) (others : List Request)
    (hb : ∀ handle, r.handler = .begun handle → ¬ s.Claimed r.owner) :
    Passing flavor ⟨before ++ r :: after, s⟩
      (answered before after s others { r with reply := reply }) := by
  have hnames : (answered before after s others { r with reply := reply }).client.names = s.names :=
    Nonblocking.names_answered others _
  refine ⟨.single (.answers reply others h hb), ledger_answered h reply others, ?_, ?_⟩
  · simpa [Client.names] using congrArg (fun n => n.2.1.length) hnames
  · exact Nat.le_of_eq (by simpa [Client.names] using
      (congrArg (fun n => n.1.length) hnames).symm)

/-- Replies come while something holds that makes sure that no transaction is claimed before its
BEGIN has been acknowledged. -/
theorem passing_arrivals {P : Situation → Prop} (hkept : ∀ σ σ', P σ → Arrival σ σ' → P σ')
    (hunclaimed : ∀ σ, P σ → ∀ r ∈ σ.outstanding, ∀ handle, r.handler = .begun handle →
      ¬ σ.client.Claimed r.owner) {σ σ' : Situation} (h : P σ) (ha : Arrivals σ σ') :
    Passing flavor σ σ' ∧ P σ' := by
  -- What holds has to be carried along, for it is asked for at every arrival.
  induction ha with
  | refl => exact ⟨.refl σ, h⟩
  | @tail σ₁ σ₂ _ ha ih =>
      rcases ih with ⟨hpassing, hp⟩
      refine ⟨hpassing.trans ?_, hkept _ _ hp ha⟩
      cases ha with
      | connect f => exact .of_apart (.updateConnection _ _ f)
      | flush tx => exact .of_apart (.record _ _ rfl rfl)
      | answer before after r reply others _ ht =>
          exact passing_answered ht reply others
            (hunclaimed _ hp r (List.mem_append_right _ (List.mem_cons_self ..)))

/-! ## What the application says -/

/-- It is said of the transaction that is held under a name. -/
def said (s : Client) (name : String) (d : Deed) : List (Nat × Deed) :=
  (transaction? s name).toList.map fun tx => (tx, d)

/-- A statement was not refused, but it could not be sent. -/
def unsent (flavor : Flavor) (s : Client) (name statement : String) (params : Params)
    (result : Option String) : Bool :=
  match (perform flavor s (.run name statement params result)).1 with
  | .failed _ => (transaction? s name).any fun tx =>
      (s.transactions[tx]?.bind Transaction.refusal?).isNone
  | _ => false

/-- What the application says with a step. A commit or rollback that waits marks the transaction
first, and a statement that cannot be sent counts as a failure. -/
def deeds (flavor : Flavor) (s : Client) : Step → List (Nat × Deed)
  | .success name => said s name (.mark .success)
  | .failure name => said s name (.mark .failure)
  | .resultFailed name e => said s name (.mark e.mark)
  | .setBookmark name source =>
      ((Bookmark.ofSource? source).toList.map Deed.bookmark).flatMap (said s name)
  | .commit name _ => if flavor = .blocking then said s name (.mark .success) else []
  | .rollback name _ => if flavor = .blocking then said s name (.mark .failure) else []
  | .run name statement params result =>
      if unsent flavor s name statement params result then said s name (.mark .failed) else []
  | _ => []

/-! ## Steps on names -/

section

variable {s : Client} {name : String} {ds : List (Nat × Deed)}

theorem said_of_transaction? {tx : Nat} (h : transaction? s name = some tx) (d : Deed) :
    said s name d = [(tx, d)] := by
  simp [said, h]

theorem said_of_none (h : transaction? s name = none) (d : Deed) : said s name d = [] := by
  simp [said, h]

/-- A name stands for a transaction that is there. -/
theorem strides_onTransaction {act : Nat → Transaction → Answer × Client}
    (hnone : transaction? s name = none → ds = [])
    (h : ∀ (tx : Nat) (t : Transaction), transaction? s name = some tx →
      s.transactions[tx]? = some t → Strides flavor ds (.of s) (.of (act tx t).2)) :
    Strides flavor ds (.of s) (.of (onTransaction s name act).2) := by
  unfold onTransaction
  cases hname : transaction? s name with
  | none =>
      rw [hnone hname]
      exact .refl _
  | some tx =>
      rcases Nonblocking.exists_of_transaction? hname with ⟨t, ht, -⟩
      simpa [ht] using h tx t hname ht

/-- Whoever only looks at a transaction does nothing. -/
theorem strides_look {act : Nat → Transaction → Answer × Client}
    (hact : ∀ tx t, (act tx t).2 = s) :
    Strides flavor [] (.of s) (.of (onTransaction s name act).2) := by
  refine strides_onTransaction (fun _ => rfl) fun tx t _ _ => ?_
  rw [hact]
  exact .refl _

/-- The connection changes, and its queue stays as it is. -/
theorem strides_connect (f : Connection → Connection)
    (hq : (f s.connection).queue = s.connection.queue) :
    Strides flavor [] (.of s) (.of (s.updateConnection f)) := by
  have hchanged : Apart flavor (.of s) ⟨s.connection.queue, s.updateConnection f⟩ :=
    .updateConnection s.connection.queue s f
  unfold Situation.of
  rw [show (s.updateConnection f).connection.queue = s.connection.queue from hq]
  exact .apart hchanged

/-- The application says something of a transaction, and nothing else happens. -/
theorem strides_change (d : Deed) {f : Transaction → Transaction} (hf : f = d.apply) :
    Strides flavor (said s name d) (.of s) (.of (change s name f).2) := by
  refine strides_onTransaction (said_of_none · d) fun tx t hname ht => ?_
  rw [said_of_transaction? hname, hf]
  exact .single (.tells (List.getElem?_eq_some_iff.1 ht).1 d)

theorem strides_onCursor {act : Nat → Cursor → Answer × Client}
    (h : ∀ (cursor : Nat) (c : Cursor), s.cursors[cursor]? = some c →
      Strides flavor [] (.of s) (.of (act cursor c).2)) :
    Strides flavor [] (.of s) (.of (onCursor s name act).2) := by
  unfold onCursor
  split
  · exact .refl _
  · split
    · exact .refl _
    · exact h _ _ ‹_›

theorem apply_mark_success : (Deed.mark .success).apply = Transaction.markSuccess := by
  funext t
  simp [Deed.apply, Transaction.markSuccess, State.markSuccess_eq_raise]

theorem apply_mark_failure : (Deed.mark .failure).apply = Transaction.markFailure := by
  funext t
  simp [Deed.apply, Transaction.markFailure, State.markFailure_eq_raise]

theorem apply_mark_failed : (Deed.mark .failed).apply = Transaction.markFailed := by
  funext t
  simp [Deed.apply, Transaction.markFailed, State.markFailed_eq_raise]

theorem apply_mark_error (e : Error) : (Deed.mark e.mark).apply = Transaction.resultFailed e := by
  funext t
  unfold Error.mark Transaction.resultFailed
  split
  · rw [apply_mark_failure]
  · rw [apply_mark_failed]

theorem strides_setBookmark (name : String) (source : Bookmark.Source) :
    Strides flavor (((Bookmark.ofSource? source).toList.map Deed.bookmark).flatMap (said s name))
      (.of s) (.of (perform .blocking s (.setBookmark name source)).2) := by
  refine strides_onTransaction (fun hname => ?_) fun tx t hname ht => ?_
  · cases Bookmark.ofSource? source <;> simp [said_of_none hname]
  · cases hsource : Bookmark.ofSource? source with
    | none => exact .refl _
    | some b =>
        have hset := Strides.speaks flavor (List.getElem?_eq_some_iff.1 ht).1 (.bookmark b)
        simp only [Option.toList_some, List.map_cons, List.map_nil, List.flatMap_cons,
          List.flatMap_nil, List.append_nil, said_of_transaction? hname]
        exact hset

end

end Scenario

end ClientTransaction
