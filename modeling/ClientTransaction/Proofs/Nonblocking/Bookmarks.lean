import ClientTransaction.Proofs.Nonblocking.Custody
import ClientTransaction.Proofs.Nonblocking.Failed
import ClientTransaction.Proofs.Nonblocking.Statements

/-!
# Nonblocking.Bookmarks — where the bookmark of a transaction comes from

The application sets the bookmark of a transaction, and the success of its COMMIT brings one. Of all
these bookmarks the last stands that is not empty. No other reply touches the bookmark, and the
reply that changes it has committed the transaction before anyone learns of it.
-/

namespace ClientTransaction

/-! ## Bookmarks one after another -/

namespace Bookmark

variable (b : Bookmark)

/-- Of the bookmarks that come after `b` the last stands that is not empty. -/
def latest (bs : List Bookmark) : Bookmark :=
  ((bs.filter fun new => !new.isEmpty).getLast?).getD b

theorem latest_append (bs bs' : List Bookmark) :
    b.latest (bs ++ bs') = (b.latest bs).latest bs' := by
  unfold latest
  rw [List.filter_append, List.getLast?_append]
  cases (bs'.filter fun new => !new.isEmpty).getLast? <;> rfl

/-- A bookmark that is known is not forgotten. -/
theorem isEmpty_latest (h : b.isEmpty = false) (bs : List Bookmark) :
    (b.latest bs).isEmpty = false := by
  unfold latest
  cases hlast : (bs.filter fun new => !new.isEmpty).getLast? with
  | none => exact h
  | some new => simpa using (List.mem_filter.1 (List.mem_of_getLast? hlast)).2

theorem latest_of_not_isEmpty {new : Bookmark} (h : new.isEmpty = false) :
    b.latest [new] = new := by
  simp [latest, h]

end Bookmark

theorem Transaction.bookmark_setBookmark (b : Bookmark) (t : Transaction) :
    (t.setBookmark b).bookmark = t.bookmark.latest [b] := by
  unfold Transaction.setBookmark Bookmark.latest
  cases h : b.isEmpty <;> simp [h]

theorem Transaction.bookmark_resultFailed (e : Error) (t : Transaction) :
    (t.resultFailed e).bookmark = t.bookmark := by
  unfold Transaction.resultFailed
  split <;> rfl

/-- The bookmark that a reply carries: a text that is not empty. -/
def Message.carried? (metadata : Params) : Option Bookmark :=
  match metadata.get? "bookmark" with
  | some (.string value) => if value = "" then none else some ⟨[value]⟩
  | _ => none

theorem Message.isEmpty_of_carried? {metadata : Params} {b : Bookmark}
    (h : Message.carried? metadata = some b) : b.isEmpty = false := by
  unfold Message.carried? at h
  split at h
  · simp only [Option.ite_none_left_eq_some, Option.some.injEq] at h
    rw [← h.2]
    rfl
  · simp at h

/-- Whatever else stands in a reply leaves the bookmark as it is. -/
theorem Message.latest_bookmark (b : Bookmark) (metadata : Params) :
    b.latest [Message.bookmark metadata] = b.latest (Message.carried? metadata).toList := by
  unfold Message.bookmark Message.carried?
  cases metadata.get? "bookmark" with
  | none => rfl
  | some entry =>
      cases entry with
      | string value =>
          by_cases hvalue : value = ""
          · simp [hvalue, Bookmark.latest, Bookmark.ofString, Bookmark.ofValues, Bookmark.isEmpty]
          · simp [hvalue, Bookmark.ofString, Bookmark.ofValues]
      | _ => rfl

/-- The bookmark that a reply brings to a transaction: one that its COMMIT carries. -/
def Receipt.carried? (tx : Nat) (r : Receipt) : Option Bookmark :=
  match r.reply.outcome with
  | .success metadata =>
      if r.owner = tx ∧ r.exchange = .commit ∧ r.part = .pullAll then Message.carried? metadata
      else none
  | _ => none

theorem Receipt.of_carried? {tx : Nat} {r : Receipt} {b : Bookmark} (h : r.carried? tx = some b) :
    ∃ metadata, r.owner = tx ∧ r.exchange = .commit ∧ r.part = .pullAll ∧
      r.reply.outcome = .success metadata ∧ Message.carried? metadata = some b := by
  unfold Receipt.carried? at h
  split at h
  · rename_i metadata houtcome
    simp only [Option.ite_none_right_eq_some] at h
    rcases h with ⟨⟨howner, hexchange, hpart⟩, hcarried⟩
    exact ⟨metadata, howner, hexchange, hpart, houtcome, hcarried⟩
  · simp at h

namespace Client

variable {s s' : Client} {tx : Nat}

theorem bookmark_of_transactions (h : s'.transactions = s.transactions) (tx : Nat) :
    s'.bookmark tx = s.bookmark tx :=
  congrArg (fun ts : List Transaction =>
    (ts[tx]?.map Transaction.bookmark).getD Bookmark.empty) h

theorem bookmark_of_none (ht : s.transactions[tx]? = none) : s.bookmark tx = Bookmark.empty := by
  simp [bookmark, ht]

theorem bookmark_of_getElem? {t : Transaction} (ht : s.transactions[tx]? = some t) :
    s.bookmark tx = t.bookmark := by
  simp [bookmark, ht]

/-! ## What leaves bookmarks alone -/

theorem bookmark_resolve (s : Client) (handle : Nat) (result : Except Error Payload) (tx : Nat) :
    (s.resolve handle result).bookmark tx = s.bookmark tx :=
  bookmark_of_transactions (Alike.resolve s handle result).transactions.symm tx

theorem bookmark_completeCursor (s : Client) (cursor : Nat) (outcome : Except Error Params)
    (tx : Nat) : (s.completeCursor cursor outcome).2.bookmark tx = s.bookmark tx := by
  unfold completeCursor
  split
  · rfl
  · split
    · rfl
    · exact bookmark_of_transactions (Alike.resolveAll _ _ _).transactions.symm tx

theorem bookmark_failCursor (s : Client) (owner cursor : Nat) (e : Error) (tx : Nat) :
    (s.failCursor owner cursor e).bookmark tx = s.bookmark tx := by
  have hcomplete := s.bookmark_completeCursor cursor (.error e) tx
  unfold failCursor
  split <;> rename_i heq <;> rw [heq] at hcomplete
  · have hmark := (Nonblocking.Spares.updateTransaction (s.completeCursor cursor (.error e)).2 owner
      (Transaction.bookmark_resultFailed e)).bookmark tx
    rw [heq] at hmark
    exact hmark.trans hcomplete
  · exact hcomplete

theorem bookmark_releaseCursor (s : Client) (requests : List Request) (cursor tx : Nat) :
    (s.releaseCursor requests cursor).bookmark tx = s.bookmark tx := by
  unfold releaseCursor
  split
  · rfl
  · split
    · rfl
    · exact bookmark_of_transactions (Alike.resolveAll _ _ _).transactions.symm tx

theorem bookmark_fire (s : Client) (owner : Nat) (done : TerminalChain)
    (result : Except Error Unit) (tx : Nat) :
    (s.fire owner done result).1.bookmark tx = s.bookmark tx := by
  have hactions : ∀ (actions : List (Finalizer × Except Error Unit)) (s : Client),
      (s.runFinalizers owner actions).bookmark tx = s.bookmark tx := by
    intro actions
    induction actions with
    | nil => exact fun _ => rfl
    | cons action rest ih =>
        rcases action with ⟨⟨⟩, shown⟩
        intro s
        exact (ih _).trans ((Nonblocking.Spares.release s owner).bookmark tx)
  unfold fire
  dsimp only
  split
  · exact (bookmark_resolve _ _ _ tx).trans (hactions _ s)
  · exact hactions _ s
  · exact hactions _ s

theorem bookmark_refuse (s : Client) (owner handle : Nat) (e : Error) (tx : Nat) :
    (s.refuse owner handle e).bookmark tx = s.bookmark tx := by
  have hclaim : (s.updateTransaction owner fun t => t.markFailed.claim).bookmark tx =
      s.bookmark tx :=
    (Nonblocking.Spares.updateTransaction s owner
      (f := fun t => t.markFailed.claim) fun _ => rfl).bookmark tx
  unfold refuse
  refine (bookmark_resolve _ _ _ tx).trans ?_
  split
  · exact hclaim
  · exact ((Nonblocking.Spares.release _ owner).bookmark tx).trans hclaim

end Client

namespace Nonblocking

open Scenario

section

variable {s : Client} {σ σ' : Situation} {r : Request} {tx : Nat}

/-! ## Replies -/

/-- Only the success of a COMMIT concerns a bookmark. -/
theorem bookmark_answer_of_other (others : List Request) (hf : r.Fits)
    (h : ∀ done, r.handler ≠ .committed done) :
    (s.answer others r).1.bookmark tx = s.bookmark tx := by
  rcases r with ⟨owner, exchange, part, handler, ⟨records, outcome⟩⟩
  cases hf with
  | columns cursor =>
      cases outcome with
      | success metadata => exact Client.bookmark_releaseCursor _ _ _ tx
      | failure e =>
          exact (Client.bookmark_releaseCursor _ _ _ tx).trans
            (Client.bookmark_failCursor _ _ _ _ tx)
      | dropped => exact Client.bookmark_releaseCursor _ _ _ tx
  | rows cursor =>
      cases outcome with
      | success metadata =>
          exact (Client.bookmark_releaseCursor _ _ _ tx).trans
            (Client.bookmark_completeCursor _ _ _ tx)
      | failure e =>
          exact (Client.bookmark_releaseCursor _ _ _ tx).trans
            (Client.bookmark_failCursor _ _ _ _ tx)
      | dropped => exact Client.bookmark_releaseCursor _ _ _ tx
  | ignore => rfl
  | begin => rfl
  | begun handle =>
      cases outcome with
      | success metadata =>
          exact ((Spares.abandon _ others owner).bookmark tx).trans
            (Client.bookmark_resolve _ _ _ tx)
      | failure e => exact Client.bookmark_refuse _ _ _ _ tx
      | dropped => exact Client.bookmark_refuse _ _ _ _ tx
  | committed done => exact absurd rfl (h done)
  | rolledBack done =>
      cases outcome with
      | success metadata =>
          exact (Client.bookmark_fire _ _ _ _ tx).trans
            ((Spares.updateTransaction _ owner (f := Transaction.finalize .rolledBack)
              fun _ => rfl).bookmark tx)
      | failure e => exact Client.bookmark_fire _ _ _ _ tx
      | dropped => exact Client.bookmark_fire _ _ _ _ tx

/-- Exactly the PULL_ALL of a COMMIT has the handler that heeds a bookmark. -/
theorem committed_of_fits (hf : r.Fits) :
    (r.exchange = .commit ∧ r.part = .pullAll) ↔ ∃ done, r.handler = .committed done := by
  rcases r with ⟨owner, exchange, part, handler, reply⟩
  cases hf <;> simp

/-- The client when the COMMIT of `tx` has succeeded, before anyone is told. -/
def sealed (s : Client) (tx : Nat) (reply : Reply) (metadata : Params) : Client :=
  (s.record (.reply tx .commit .pullAll reply)).updateTransaction tx fun t =>
    (t.setBookmark (Message.bookmark metadata)).finalize .committed

theorem bookmark_sealed {t : Transaction} (ht : s.transactions[tx]? = some t) (owner : Nat)
    (reply : Reply) (metadata : Params) :
    (sealed s owner reply metadata).bookmark tx =
      if owner = tx then (s.bookmark tx).latest (Message.carried? metadata).toList
      else s.bookmark tx := by
  by_cases htx : owner = tx
  · subst htx
    calc
      (sealed s owner reply metadata).bookmark owner
          = (t.setBookmark (Message.bookmark metadata)).bookmark := by
            simp [sealed, Client.bookmark, ht, Transaction.finalize]
      _ = t.bookmark.latest [Message.bookmark metadata] := Transaction.bookmark_setBookmark _ t
      _ = t.bookmark.latest (Message.carried? metadata).toList :=
            Message.latest_bookmark _ metadata
      _ = _ := by simp [Client.bookmark_of_getElem? ht]
  · simp [sealed, Client.bookmark, htx]

/-- A reply adds to the bookmarks of a transaction what it carries to it. -/
theorem bookmark_answer (hf : r.Fits) (others : List Request) {t : Transaction}
    (ht : s.transactions[tx]? = some t) :
    (s.answer others r).1.bookmark tx =
      (s.bookmark tx).latest (r.receipt.carried? tx).toList := by
  by_cases hcommitted : ∃ done, r.handler = .committed done
  · rcases (committed_of_fits hf).2 hcommitted with ⟨hexchange, hpart⟩
    rcases hcommitted with ⟨done, hdone⟩
    rcases r with ⟨owner, exchange, part, handler, ⟨records, outcome⟩⟩
    obtain ⟨rfl, rfl, rfl⟩ : exchange = .commit ∧ part = .pullAll ∧ handler = .committed done :=
      ⟨hexchange, hpart, hdone⟩
    cases outcome with
    | success metadata =>
        have hfire := Client.bookmark_fire (sealed s owner ⟨records, .success metadata⟩ metadata)
          owner done (.ok ()) tx
        refine hfire.trans ((bookmark_sealed ht owner _ metadata).trans ?_)
        by_cases htx : owner = tx
        · simp [htx, Receipt.carried?, Request.receipt]
        · simp [htx, Receipt.carried?, Request.receipt, Bookmark.latest]
    | failure e => exact Client.bookmark_fire _ _ _ _ tx
    | dropped => exact Client.bookmark_fire _ _ _ _ tx
  · have hnone : r.receipt.carried? tx = none := by
      unfold Receipt.carried? Request.receipt
      split
      · exact if_neg fun h => hcommitted ((committed_of_fits hf).1 h.2)
      · rfl
    rw [hnone]
    exact bookmark_answer_of_other others hf fun done hdone => hcommitted ⟨done, hdone⟩

theorem bookmark_answered (hf : r.Fits) (before rest others : List Request) {t : Transaction}
    (ht : s.transactions[tx]? = some t) :
    (answered before rest s others r).client.bookmark tx =
      (s.bookmark tx).latest (r.receipt.carried? tx).toList :=
  ((Spares.start _ _).bookmark tx).trans (bookmark_answer hf others ht)

/-! ## Deliveries -/

/-- Replies come, and of the bookmarks that they bring to `tx` the last one stands. -/
structure Learns (tx : Nat) (s s' : Client) : Prop where
  names : s'.names = s.names
  bookmark : ∃ new : List Receipt, s'.receipts = s.receipts ++ new ∧
    ∀ t : Transaction, s.transactions[tx]? = some t →
      s'.bookmark tx = (s.bookmark tx).latest (new.filterMap (Receipt.carried? tx))

theorem Learns.of_eq {s' : Client} (hnames : s'.names = s.names)
    (hreceipts : s'.receipts = s.receipts) (hbookmark : s'.bookmark tx = s.bookmark tx) :
    Learns tx s s' :=
  ⟨hnames, [], by simpa using hreceipts, fun _ _ => hbookmark⟩

theorem Learns.trans {s₁ s₂ : Client} (h : Learns tx s s₁) (h' : Learns tx s₁ s₂) :
    Learns tx s s₂ := by
  rcases h.bookmark with ⟨new, hreceipts, hbookmark⟩
  rcases h'.bookmark with ⟨new', hreceipts', hbookmark'⟩
  refine ⟨h'.names.trans h.names, new ++ new', ?_, fun t ht => ?_⟩
  · rw [hreceipts', hreceipts, List.append_assoc]
  · rcases exists_of_names h.names.symm ht with ⟨t₁, ht₁, -⟩
    calc
      s₂.bookmark tx
          = (s₁.bookmark tx).latest (new'.filterMap (Receipt.carried? tx)) := hbookmark' t₁ ht₁
      _ = ((s.bookmark tx).latest (new.filterMap (Receipt.carried? tx))).latest
            (new'.filterMap (Receipt.carried? tx)) := by rw [hbookmark t ht]
      _ = (s.bookmark tx).latest ((new ++ new').filterMap (Receipt.carried? tx)) := by
            rw [List.filterMap_append, Bookmark.latest_append]

/-- Replies begin no transaction. -/
theorem unborn_of_names {s' : Client} (h : s'.names = s.names)
    (ht : s.transactions[tx]? = none) : s'.transactions[tx]? = none := by
  cases hplace : s'.transactions[tx]? with
  | none => rfl
  | some t' =>
      rcases exists_of_names h hplace with ⟨t, hsome, -⟩
      exact absurd (hsome.symm.trans ht) (by simp)

theorem learns_delivery (hf : σ.Fits) (hd : Delivery σ σ') (tx : Nat) :
    Learns tx σ.client σ'.client := by
  cases hd with
  | connect f => exact .of_eq rfl rfl rfl
  | flush place => exact .of_eq rfl (Client.receipts_record _ rfl) rfl
  | @answer s before after r reply others ho =>
      have hfits : ({ r with reply := reply } : Request).Fits :=
        hf r (List.mem_append_right _ (List.mem_cons_self ..))
      refine ⟨names_answered others _, [({ r with reply := reply } : Request).receipt],
        receipts_answered _ _ _ _ _, ?_⟩
      intro t ht
      refine (bookmark_answered hfits before after others ht).trans ?_
      cases hcarried : ({ r with reply := reply } : Request).receipt.carried? tx <;>
        simp [hcarried]

theorem learns_deliveries (hf : σ.Fits) (hd : Deliveries σ σ') (tx : Nat) :
    Learns tx σ.client σ'.client := by
  induction hd with
  | refl => exact .of_eq rfl rfl rfl
  | tail hfirst hd ih =>
      exact ih.trans (learns_delivery (hf.moves (Deliveries.moves hfirst)) hd tx)

/-! ## Steps -/

/-- The bookmark that a step sets for a transaction. -/
def set? (tx : Nat) (s : Client) (step : Step) : Option Bookmark :=
  (setting? s step).bind fun (place, b) => if place = tx then some b else none

/-- The bookmarks that the replies between two clients bring to a transaction, in order. -/
def brought (tx : Nat) (s s' : Client) : List Bookmark :=
  (s'.receipts.drop s.receipts.length).filterMap (Receipt.carried? tx)

/-- The bookmarks that a run gives to a transaction, in order: the application sets them, or replies
bring them. -/
def bookmarks (tx : Nat) (s : Client) : List Step → List Bookmark
  | [] => []
  | step :: rest =>
      (set? tx s step).toList ++ brought tx s (perform .nonblocking s step).2 ++
        bookmarks tx (perform .nonblocking s step).2 rest

/-- Of its own a step gives no bookmark but the one that it sets. -/
theorem bookmark_dealing {step : Step} (h : Dealing s step σ) (tx : Nat) :
    σ.client.receipts = s.receipts ∧
      σ.client.bookmark tx = (s.bookmark tx).latest (set? tx s step).toList := by
  cases h with
  | elsewhere hset h =>
      have hnone : set? tx s step = none := by simp [set?, hset]
      rw [hnone]
      exact ⟨h.spares.receipts, h.spares.bookmark tx⟩
  | run name statement params result place =>
      exact ⟨Client.receipts_send _ _ _ _ _ _ _, rfl⟩
  | consume result name hname hc hn => exact ⟨rfl, rfl⟩
  | dropResult result cursor =>
      exact ⟨Client.receipts_calm (.dropCursor s cursor), Client.bookmark_releaseCursor _ _ _ tx⟩
  | @setBookmark name source place b h =>
      refine ⟨rfl, (s.bookmark_updateTransaction place tx _).trans ?_⟩
      have hset : set? tx s (.setBookmark name source) = if place = tx then some b else none := by
        simp [set?, h]
      have hname : transaction? s name = some place := by
        simp only [setting?, Option.bind_eq_some_iff, Option.map_eq_some_iff] at h
        rcases h with ⟨place', hname, b', -, heq⟩
        cases heq
        exact hname
      rcases exists_of_transaction? hname with ⟨t, ht, -⟩
      rw [hset]
      by_cases htx : place = tx
      · subst htx
        simpa [ht, Client.bookmark_of_getElem? ht] using Transaction.bookmark_setBookmark b t
      · simp only [htx, if_false]
        rfl

/-- Nothing is brought to a transaction that has not been begun. -/
theorem brought_of_unborn {s' : Client} (hs : Sound (.of s')) (h : s'.transactions[tx]? = none) :
    brought tx s s' = [] := by
  rcases hs.phases tx with ⟨p, hp⟩
  have hfoot : p.account.footing? = none := by
    have hplace : s'.footing? tx = p.account.footing? := congrArg Account.footing? hp.account
    rw [← hplace, Client.footing?, h]
    rfl
  have hcommits : s'.answers tx .commit = [] := by
    have hanswers : s'.answers tx .commit = p.account.commits := congrArg Account.commits hp.account
    rw [hanswers]
    cases p with
    | unborn => rfl
    | _ => simp [Phase.account] at hfoot
  -- Whatever is brought is the answer to a COMMIT.
  refine List.filterMap_eq_nil_iff.2 fun r hr => ?_
  rcases List.mem_filterMap.1 (List.mem_of_mem_drop hr) with ⟨e, he, hreceipt⟩
  have hsilent := List.filterMap_eq_nil_iff.1 hcommits e he
  cases e with
  | reply owner exchange part reply =>
      cases hreceipt
      unfold Receipt.carried?
      split
      · rw [if_neg]
        rintro ⟨rfl, rfl, rfl⟩
        simp at hsilent
      · rfl
  | _ => simp at hreceipt

theorem bookmark_perform (hs : Sound (.of s)) (ha : Attended (.of s)) (step : Step) (tx : Nat) :
    (perform .nonblocking s step).2.bookmark tx =
      (s.bookmark tx).latest
        ((set? tx s step).toList ++ brought tx s (perform .nonblocking s step).2) := by
  have hs' : Sound (.of (perform .nonblocking s step).2) := hs.moves (leads_perform s step)
  rcases deals_perform s step with ⟨σ, hdealing, hdeliveries⟩
  rcases bookmark_dealing hdealing tx with ⟨hreceipts, hset⟩
  have hlearns := learns_deliveries (ha.dealing hdealing).fits hdeliveries tx
  generalize (perform .nonblocking s step).2 = s' at hs' hdeliveries hlearns ⊢
  rw [Bookmark.latest_append, ← hset]
  cases ht : σ.client.transactions[tx]? with
  | some t =>
      rcases hlearns.bookmark with ⟨new, hnew, hbookmark⟩
      have hbrought : brought tx s s' = new.filterMap (Receipt.carried? tx) := by
        have hsplit : s'.receipts = s.receipts ++ new := hnew.trans (by rw [hreceipts])
        rw [brought, hsplit, List.drop_left]
      rw [hbrought]
      exact hbookmark t ht
  | none =>
      have ht' : s'.transactions[tx]? = none := unborn_of_names hlearns.names ht
      rw [brought_of_unborn hs' ht', Client.bookmark_of_none ht, Client.bookmark_of_none ht']
      rfl

/-! ## Runs -/

theorem bookmark_after (hs : Sound (.of s)) (ha : Attended (.of s)) (steps : List Step)
    (tx : Nat) :
    (after .nonblocking s steps).bookmark tx = (s.bookmark tx).latest (bookmarks tx s steps) := by
  induction steps generalizing s with
  | nil => rfl
  | cons step rest ih =>
      have hrest := ih (hs.moves (leads_perform s step)) (ha.perform step)
      calc
        (after .nonblocking s (step :: rest)).bookmark tx
            = ((perform .nonblocking s step).2.bookmark tx).latest
                (bookmarks tx (perform .nonblocking s step).2 rest) := hrest
        _ = (s.bookmark tx).latest (bookmarks tx s (step :: rest)) := by
              rw [bookmark_perform hs ha step tx, bookmarks, Bookmark.latest_append _ (_ ++ _)]

/-! ## The COMMIT that brings a bookmark -/

/-- A terminal state stays, whatever happens. -/
theorem final?_moves (hs : Sound σ) (hm : Moves σ σ') {final : State}
    (h : σ.client.final? tx = some final) : σ'.client.final? tx = some final := by
  induction hm with
  | refl => exact h
  | @tail σ₁ σ₂ hfirst hm ih =>
      rcases (hs.moves hfirst).phases tx with ⟨p, hp⟩
      rcases exists_turned (hs.moves hfirst).phases hm hp with ⟨effect, p', hturned⟩
      rw [hp.final?_eq] at ih
      rw [hturned.standing.final?_eq]
      -- No passage leads out of the phase of a transaction that has ended.
      cases hturned.passage with
      | stay => exact ih
      | _ => simp [Phase.account] at ih

/-- Whoever has got the success of a COMMIT is committed. -/
theorem committed_of_mem (hs : Sound (.of s)) {metadata : Params}
    (h : .success metadata ∈ s.answers tx .commit) : s.final? tx = some .committed := by
  refine (committed_iff hs tx).2 ⟨metadata, ?_⟩
  rcases hs.phases tx with ⟨p, hp⟩
  have hanswers : s.answers tx .commit = p.account.commits := congrArg Account.commits hp.account
  have hlength : p.account.commits.length ≤ 1 := by
    cases p with
    | ended c => exact c.commits_length
    | _ => simp [Phase.account]
  rw [hanswers] at h ⊢
  rcases List.mem_iff_append.1 h with ⟨earlier, later, heq⟩
  rw [heq] at hlength ⊢
  have hnone : earlier = [] ∧ later = [] := by
    simp only [List.length_append, List.length_cons] at hlength
    exact ⟨List.eq_nil_of_length_eq_zero (by omega), List.eq_nil_of_length_eq_zero (by omega)⟩
  rw [hnone.1, hnone.2]
  rfl

/-- A transaction that a reply has brought a bookmark is committed. -/
theorem committed_of_brought {s' : Client} (hs : Sound (.of s')) (h : brought tx s s' ≠ []) :
    s'.final? tx = some .committed := by
  rcases List.exists_mem_of_ne_nil _ h with ⟨b, hb⟩
  rcases List.mem_filterMap.1 hb with ⟨⟨owner, exchange, part, reply⟩, hr, hcarried⟩
  rcases Receipt.of_carried? hcarried with ⟨metadata, rfl, rfl, rfl, houtcome, -⟩
  rcases List.mem_filterMap.1 (List.mem_of_mem_drop hr) with ⟨e, he, hreceipt⟩
  have hmem : .success metadata ∈ s'.answers owner .commit := by
    refine List.mem_filterMap.2 ⟨e, he, ?_⟩
    cases e with
    | reply =>
        cases hreceipt
        simpa using houtcome
    | _ => simp at hreceipt
  exact committed_of_mem hs hmem

/-- The COMMIT of `tx` succeeds and brings a bookmark. First the transaction has the bookmark and is
committed, and only then the completion is fired that resolves the handle. -/
inductive Seals (tx : Nat) : Situation → Situation → Prop
  | commit {s : Client} (before after : List Request) (done : TerminalChain) (old reply : Reply)
      {metadata : Params} (hreply : reply.outcome = .success metadata)
      (hcarried : Message.carried? metadata = some ((sealed s tx reply metadata).bookmark tx))
      (hfinal : (sealed s tx reply metadata).final? tx = some .committed)
      (hwaiting : (sealed s tx reply metadata).handles = s.handles) :
      Seals tx ⟨before ++ ⟨tx, .commit, .pullAll, .committed done, old⟩ :: after, s⟩
        ⟨before ++ after, ((sealed s tx reply metadata).fire tx done (.ok ())).1⟩

theorem final?_sealed (hf : s.footing? tx = some ⟨true, none⟩) (reply : Reply)
    (metadata : Params) : (sealed s tx reply metadata).final? tx = some .committed := by
  rcases Option.map_eq_some_iff.1 hf with ⟨t, ht, hfooting⟩
  have hplace : (sealed s tx reply metadata).footing? tx =
      some ((t.setBookmark (Message.bookmark metadata)).finalize .committed).footing := by
    simp [sealed, Client.footing?, ht]
  rw [Client.final?_eq, hplace, Transaction.footing_finalize rfl, Transaction.footing_setBookmark,
    hfooting]
  rfl

/-- As long as its COMMIT is outstanding, a transaction is committing. -/
theorem committing_of_outstanding {before rest : List Request} {done : TerminalChain} {old : Reply}
    (hs : Sound ⟨before ++ ⟨tx, .commit, .pullAll, .committed done, old⟩ :: rest, s⟩) :
    ∃ fallback l, done = commitChain fallback l ∧ s.footing? tx = some ⟨true, none⟩ := by
  rcases hs.phases tx with ⟨p, hp⟩
  have hdue : due tx (before ++ ⟨tx, .commit, .pullAll, .committed done, old⟩ :: rest) =
      p.account.due := congrArg Account.due hp.account
  have hfoot : s.footing? tx = p.account.footing? := congrArg Account.footing? hp.account
  have hmem : (Exchange.commit, Part.pullAll, Handler.committed done) ∈ p.account.due := by
    rw [← hdue]
    exact List.mem_filterMap.2 ⟨_, List.mem_append_right _ (List.mem_cons_self ..),
      by simp [role?, decides]⟩
  -- In no other phase is a COMMIT due.
  cases p with
  | committing fallback l =>
      simp only [Phase.account, List.mem_singleton, Prod.mk.injEq, Handler.committed.injEq,
        true_and] at hmem
      exact ⟨fallback, l, hmem, hfoot⟩
  | _ => simp [Phase.account] at hmem

/-- The COMMIT of a transaction succeeds, and its reply carries a bookmark. -/
theorem seals_answered {before rest : List Request} {done : TerminalChain} {old reply : Reply}
    (hs : Sound ⟨before ++ ⟨tx, .commit, .pullAll, .committed done, old⟩ :: rest, s⟩)
    (others : List Request) {metadata : Params} {b : Bookmark}
    (hreply : reply.outcome = .success metadata) (hb : Message.carried? metadata = some b) :
    Seals tx ⟨before ++ ⟨tx, .commit, .pullAll, .committed done, old⟩ :: rest, s⟩
      (answered before rest s others ⟨tx, .commit, .pullAll, .committed done, reply⟩) := by
  rcases committing_of_outstanding hs with ⟨fallback, l, rfl, hfoot⟩
  rcases Option.map_eq_some_iff.1 hfoot with ⟨t, ht, -⟩
  rcases reply with ⟨records, outcome⟩
  dsimp only at hreply
  subst hreply
  have hsealed : (sealed s tx ⟨records, .success metadata⟩ metadata).bookmark tx = b := by
    rw [bookmark_sealed ht, if_pos rfl, hb, Option.toList_some,
      Bookmark.latest_of_not_isEmpty _ (Message.isEmpty_of_carried? hb)]
  -- A completion that succeeds starts no rollback.
  have hanswered : answered before rest s others
      ⟨tx, .commit, .pullAll, .committed (commitChain fallback l), ⟨records, .success metadata⟩⟩ =
        ⟨before ++ rest, ((sealed s tx ⟨records, .success metadata⟩ metadata).fire tx
          (commitChain fallback l) (.ok ())).1⟩ := by
    cases fallback <;> cases l <;>
      exact congrArg (fun rs => Situation.mk rs _) (List.append_nil (before ++ rest))
  rw [hanswered]
  exact .commit before rest _ old _ rfl (by rw [hb, hsealed]) (final?_sealed hfoot _ metadata) rfl

/-- Only the COMMIT of a transaction changes its bookmark. -/
theorem seals_delivery (hs : Sound σ) (hf : σ.Fits) (hd : Delivery σ σ')
    (hne : σ'.client.bookmark tx ≠ σ.client.bookmark tx) : Seals tx σ σ' := by
  cases hd with
  | connect f => exact absurd rfl hne
  | flush place => exact absurd rfl hne
  | @answer s before after r reply others ho =>
      have hfits : ({ r with reply := reply } : Request).Fits :=
        hf r (List.mem_append_right _ (List.mem_cons_self ..))
      -- The transaction is there, and the reply carries a bookmark to it.
      cases ht : s.transactions[tx]? with
      | none =>
          have hnames : (answered before after s others { r with reply := reply }).client.names =
              s.names := names_answered others _
          have hnone := unborn_of_names hnames ht
          exact absurd ((Client.bookmark_of_none hnone).trans (Client.bookmark_of_none ht).symm) hne
      | some t =>
          have hbookmark := bookmark_answered hfits before after others ht
          cases hcarried : ({ r with reply := reply } : Request).receipt.carried? tx with
          | none =>
              rw [hcarried] at hbookmark
              exact absurd hbookmark hne
          | some b =>
              rcases Receipt.of_carried? hcarried with ⟨metadata, rfl, hexchange, hpart, hreply, hb⟩
              rcases (committed_of_fits hfits).1 ⟨hexchange, hpart⟩ with ⟨done, hdone⟩
              rcases r with ⟨tx, exchange, part, handler, old⟩
              obtain ⟨rfl, rfl, rfl⟩ : exchange = .commit ∧ part = .pullAll ∧
                  handler = .committed done := ⟨hexchange, hpart, hdone⟩
              exact seals_answered hs others hreply hb

end

/-! ## Every run -/

/-- Where the bookmark of a transaction comes from, up to the end of a run and after it. -/
structure Bookmarked (tx : Nat) (steps : List Step) : Prop where
  /-- The last bookmark stands that is not empty. -/
  latest : (after .nonblocking {} steps).bookmark tx = Bookmark.empty.latest (bookmarks tx {} steps)
  /-- This is what the application is told. -/
  told : ∀ name, transaction? (after .nonblocking {} steps) name = some tx →
    (perform .nonblocking (after .nonblocking {} steps) (.bookmark name)).1 =
      .bookmark (Bookmark.empty.latest (bookmarks tx {} steps))
  /-- A bookmark is never forgotten. -/
  kept : ((after .nonblocking {} steps).bookmark tx).isEmpty = false → ∀ later,
    ((after .nonblocking {} (steps ++ later)).bookmark tx).isEmpty = false
  /-- The reply that changes the bookmark is that to the COMMIT, and it commits the transaction
  before the handle is resolved. -/
  seals : ∀ σ σ', Moves (.of (after .nonblocking {} steps)) σ → Delivery σ σ' →
    σ'.client.bookmark tx ≠ σ.client.bookmark tx →
      Seals tx σ σ' ∧ ∀ σ'', Moves σ' σ'' → σ''.client.final? tx = some .committed
  /-- From the step on in which a reply brought a bookmark the transaction is committed. -/
  committed : ∀ step, brought tx (after .nonblocking {} steps)
      (after .nonblocking {} (steps ++ [step])) ≠ [] → ∀ later,
    (after .nonblocking {} (steps ++ step :: later)).final? tx = some .committed

/-- After every run the bookmark of every transaction is the application's or that of its COMMIT. -/
theorem bookmarked_after (steps : List Step) (tx : Nat) : Bookmarked tx steps := by
  have hs := sound_after steps
  have ha := attended_after steps
  have hlatest : (after .nonblocking {} steps).bookmark tx =
      Bookmark.empty.latest (bookmarks tx {} steps) :=
    bookmark_after sound_start attended_start steps tx
  refine ⟨hlatest, ?_, ?_, ?_, ?_⟩
  · intro name hname
    rcases exists_of_transaction? hname with ⟨t, ht, -⟩
    rw [← hlatest, Client.bookmark_of_getElem? ht]
    simp [perform, onTransaction, hname, ht]
  · intro hknown later
    rw [after_append, bookmark_after hs ha]
    exact Bookmark.isEmpty_latest _ hknown _
  · intro σ σ' hm hd hne
    have hseals := seals_delivery (hs.moves hm) ((fits_after steps).moves hm) hd hne
    have hcommitted : σ'.client.final? tx = some .committed := by
      cases hseals with
      | commit before rest done old reply hreply hcarried hfinal hwaiting =>
          exact (Client.grows_fire _ _ _ _).final? hfinal
    exact ⟨hseals, fun σ'' hm' => final?_moves ((hs.moves hm).move hd.move) hm' hcommitted⟩
  · intro step hbrought later
    rw [after_append] at hbrought ⊢
    have hcommitted := committed_of_brought (hs.moves (leads_perform _ step)) hbrought
    exact (grows_after .nonblocking _ later).final? hcommitted

/-- A bookmark is set while the COMMIT that brings another one is outstanding. -/
example :
    bookmarks 0 {}
      [.begin { tx := "t", config := .settings [], reported := true, bookmarkOf := none
                handle := "b" },
        .take "b",
        .script ⟨"COMMIT", none, some { outcome := .success [("bookmark", .string "new")] }⟩,
        .hold true, .commit "t" (some "c"), .setBookmark "t" (.values ["old"]), .deliver none] =
      [⟨["old"]⟩, ⟨["new"]⟩] := by
  rfl

end Nonblocking

end ClientTransaction
