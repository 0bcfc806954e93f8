import ClientTransaction.Proofs.Client.Tidings
import ClientTransaction.Proofs.Nonblocking.Requests
import ClientTransaction.Proofs.Scenario.Replies

/-!
# Nonblocking.Dealings — what a step does with results and bookmarks

Before replies come, a step does one thing of its own. A statement is run, someone asks for the
summary of a result or lets a result go, or a bookmark is set; every other step spares results and
bookmarks, resolves no handle that was there before, and sends nothing for a statement.
-/

namespace ClientTransaction

/-- The bookmark of a transaction; one that has not been begun has none. -/
def Client.bookmark (s : Client) (tx : Nat) : Bookmark :=
  (s.transactions[tx]?.map Transaction.bookmark).getD Bookmark.empty

theorem Client.bookmark_updateTransaction (s : Client) (place tx : Nat)
    (f : Transaction → Transaction) :
    (s.updateTransaction place f).bookmark tx =
      if place = tx then (s.transactions[tx]?.map fun t => (f t).bookmark).getD Bookmark.empty
      else s.bookmark tx := by
  unfold bookmark
  by_cases h : place = tx
  · subst h
    simp [Function.comp_def]
  · simp [h]

namespace Nonblocking

open Scenario

/-- One more reply has come, whatever has followed from it. -/
theorem receipts_answered (before after : List Request) (s : Client) (others : List Request)
    (r : Request) : (answered before after s others r).client.receipts = s.receipts ++ [r.receipt] :=
  (Client.receipts_start _ _).trans (s.receipts_answer others r)

/-! ## What is spared -/

/-- Results, the replies that came, the tidings of them and the bookmarks are left alone, and handles
only age. -/
structure Spares (s s' : Client) : Prop where
  cursors : s'.cursors = s.cursors
  receipts : s'.receipts = s.receipts
  tidings : s'.tidings = s.tidings
  bookmark : ∀ tx, s'.bookmark tx = s.bookmark tx
  handles : ∀ (place : Nat) (h : Handle Payload), s.handles[place]? = some h →
    ∃ h' : Handle Payload, s'.handles[place]? = some h' ∧ h.Ages h'

namespace Spares

variable {s s₁ s₂ : Client}

theorem of_handles (hcursors : s₁.cursors = s.cursors) (hreceipts : s₁.receipts = s.receipts)
    (htidings : s₁.tidings = s.tidings) (hbookmark : ∀ tx, s₁.bookmark tx = s.bookmark tx)
    (hhandles : s₁.handles = s.handles) : Spares s s₁ :=
  ⟨hcursors, hreceipts, htidings, hbookmark, fun _ h hh => ⟨h, hhandles ▸ hh, .same h⟩⟩

theorem refl (s : Client) : Spares s s :=
  of_handles rfl rfl rfl (fun _ => rfl) rfl

theorem trans (h : Spares s s₁) (h' : Spares s₁ s₂) : Spares s s₂ where
  cursors := h'.cursors.trans h.cursors
  receipts := h'.receipts.trans h.receipts
  tidings := h'.tidings.trans h.tidings
  bookmark := fun tx => (h'.bookmark tx).trans (h.bookmark tx)
  handles := by
    intro place hd hh
    rcases h.handles place hd hh with ⟨hd₁, hh₁, ha⟩
    rcases h'.handles place hd₁ hh₁ with ⟨hd₂, hh₂, ha'⟩
    exact ⟨hd₂, hh₂, ha.trans ha'⟩

theorem updateConnection (s : Client) (f : Connection → Connection) :
    Spares s (s.updateConnection f) :=
  of_handles rfl rfl rfl (fun _ => rfl) rfl

theorem record (s : Client) {e : Event} (he : e.receipt? = none) (hn : e.tiding? = none) :
    Spares s (s.record e) :=
  of_handles rfl (s.receipts_record he) (s.tidings_record hn) (fun _ => rfl) rfl

theorem updateTransaction (s : Client) (place : Nat) {f : Transaction → Transaction}
    (hf : ∀ t : Transaction, (f t).bookmark = t.bookmark) :
    Spares s (s.updateTransaction place f) := by
  refine of_handles rfl rfl rfl (fun tx => ?_) rfl
  rw [s.bookmark_updateTransaction]
  split
  · simp only [hf]
    rfl
  · rfl

/-- A new transaction has no bookmark. -/
theorem addTransaction (s : Client) {t : Transaction} (ht : t.bookmark = Bookmark.empty) :
    Spares s (s.addTransaction t) := by
  refine of_handles rfl rfl rfl (fun tx => ?_) rfl
  unfold Client.bookmark
  rcases Nat.lt_trichotomy tx s.transactions.length with hlt | rfl | hgt
  · simp [List.getElem?_append_left hlt]
  · simp [ht]
  · have hnone : (s.transactions ++ [t])[tx]? = none := by
      rw [List.getElem?_eq_none_iff, List.length_append]
      exact hgt
    simp [hnone, Nat.le_of_lt hgt]

theorem addHandle (s : Client) (h : Handle Payload) : Spares s (s.addHandle h) where
  cursors := rfl
  receipts := rfl
  tidings := rfl
  bookmark := fun _ => rfl
  handles := by
    intro place hd hh
    exact ⟨hd, List.getElem?_append_left (List.getElem?_eq_some_iff.1 hh).1 ▸ hh, .same hd⟩

theorem setHandle (s : Client) {place : Nat} {h h' : Handle Payload}
    (hh : s.handles[place]? = some h) (ha : h.Ages h') :
    Spares s { s with handles := s.handles.set place h' } where
  cursors := rfl
  receipts := rfl
  tidings := rfl
  bookmark := fun _ => rfl
  handles := by
    intro other hd hhd
    by_cases hp : place = other
    · subst hp
      cases hh.symm.trans hhd
      exact ⟨h', by simp [(List.getElem?_eq_some_iff.1 hh).1], ha⟩
    · exact ⟨hd, by simpa [hp] using hhd, .same hd⟩

theorem send (s : Client) (tx : Nat) (exchange : Exchange) (statement : String) (params : Params)
    (onRun onPull : Handler) : Spares s (s.send tx exchange statement params onRun onPull) :=
  of_handles rfl (s.receipts_send _ _ _ _ _ _) (s.tidings_send _ _ _ _ _ _) (fun _ => rfl) rfl

theorem release (s : Client) (tx : Nat) : Spares s (s.release tx) := by
  have hfinal : Spares s (s.updateTransaction tx (Transaction.finalize .rolledBack)) :=
    updateTransaction s tx fun _ => rfl
  exact (hfinal.trans (record _ rfl rfl)).trans (record _ rfl rfl)

/-- A handle that was not there is resolved. -/
theorem resolve (h : Spares s s₁) {place : Nat} (hp : s.handles.length ≤ place)
    (result : Except Error Payload) : Spares s (s₁.resolve place result) where
  cursors := (Client.Alike.resolve s₁ place result).cursors.symm.trans h.cursors
  receipts := (s₁.receipts_resolve place result).trans h.receipts
  tidings := (s₁.tidings_resolve place result).trans h.tidings
  bookmark := by
    intro tx
    have hsame := (Client.Alike.resolve s₁ place result).transactions
    rw [← h.bookmark tx, Client.bookmark, Client.bookmark, hsame]
  handles := by
    intro other hd hh
    have hne : place ≠ other := by
      rintro rfl
      exact absurd (List.getElem?_eq_some_iff.1 hh).1 (Nat.not_lt.2 hp)
    rcases h.handles other hd hh with ⟨hd', hh', ha⟩
    refine ⟨hd', ?_, ha⟩
    rw [Client.handles_resolve, List.getElem?_modify, hh']
    simp [hne]

theorem abandon (s : Client) (requests : List Request) (tx : Nat) :
    Spares s (s.abandon requests tx).1 := by
  have hclaim : Spares s (s.updateTransaction tx Transaction.claim) :=
    updateTransaction s tx fun _ => rfl
  rcases abandon_cases s requests tx with h | ⟨t, -, -, -, h | h⟩ <;> rw [h]
  · exact refl s
  · exact hclaim.trans (release _ tx)
  · exact hclaim

theorem start (s : Client) (rollback : Option Rollback) : Spares s (s.start rollback) := by
  cases rollback with
  | none => exact refl s
  | some r => exact (send s _ _ _ _ _ _).trans (record _ rfl rfl)

theorem adopt (s : Client) (given : Option (Except Error Payload)) :
    Spares s (adopt s given) := by
  unfold Nonblocking.adopt
  split
  · split
    · exact updateTransaction s _ fun _ => rfl
    · exact refl s
  · exact refl s

theorem claimed (s : Client) (tx : Nat) (name : Option String) :
    Spares s (claimed s tx name) := by
  have hclaim : Spares s (s.updateTransaction tx Transaction.claim) :=
    updateTransaction s tx fun _ => rfl
  exact hclaim.trans (addHandle _ _)

end Spares

/-! ## What a step does -/

/-- A step does something else: what it sends is for no statement, and feeds at most a new
handle. -/
structure Elsewhere (s : Client) (σ : Situation) : Prop where
  spares : Spares s σ.client
  sent : ∃ new : List Request, σ.outstanding = s.connection.queue ++ new ∧ ∀ r ∈ new,
    r.Fits ∧ (∀ cursor, r.exchange ≠ .statement cursor) ∧
      ∀ handle, feeds? r.handler = some handle → handle = s.handles.length

/-- The bookmark that a step sets, with the transaction that gets it. -/
def setting? (s : Client) : Step → Option (Nat × Bookmark)
  | .setBookmark name source =>
      (transaction? s name).bind fun tx => (Bookmark.ofSource? source).map fun b => (tx, b)
  | _ => none

/-- The situation after a statement has been sent for a new cursor. -/
def asked (s : Client) (tx : Nat) (statement : String) (params : Params)
    (name : Option String) : Situation :=
  ⟨s.connection.queue ++ (s.addCursor { statement := statement, owner := tx, name := name }).requests
      tx (.statement s.cursors.length) statement (.columns s.cursors.length)
      (.rows s.cursors.length),
    (s.addCursor { statement := statement, owner := tx, name := name }).send tx
      (.statement s.cursors.length) statement params (.columns s.cursors.length)
      (.rows s.cursors.length)⟩

/-- A client after someone has asked for a summary that is not there yet. -/
def awaiting (s : Client) (cursor : Nat) (name : Option String) : Client :=
  (s.updateCursor cursor fun c => c.await s.handles.length).addHandle (.fresh name)

section

variable {s : Client} {place : Nat} {c : Cursor}

theorem consume_of_outcome (hc : s.cursors[place]? = some c) {outcome : Except Error Params}
    (ho : c.outcome = some outcome) (name : Option String) :
    consume s place name = s.addHandle (.ready name (outcome.map Payload.summary)) := by
  simp [consume, hc, ho]

theorem consume_of_open (hc : s.cursors[place]? = some c) (ho : c.outcome = none)
    (name : Option String) : consume s place name = awaiting s place name := by
  simp [consume, awaiting, hc, ho]

theorem frame_consume (s : Client) (place : Nat) (name : Option String) :
    (consume s place name).transactions = s.transactions ∧
      (consume s place name).connection = s.connection ∧
      (consume s place name).cursors.length = s.cursors.length := by
  unfold consume
  split
  · exact ⟨rfl, rfl, rfl⟩
  · split
    · exact ⟨rfl, rfl, rfl⟩
    · exact ⟨rfl, rfl, by simp⟩

end

/-- What a step does of its own. -/
inductive Dealing (s : Client) : Step → Situation → Prop
  | elsewhere {step : Step} {σ : Situation} (hset : setting? s step = none) (h : Elsewhere s σ) :
      Dealing s step σ
  | run (name statement : String) (params : Params) (result : Option String) (tx : Nat) :
      Dealing s (.run name statement params result) (asked s tx statement params result)
  | consume (result : String) (name : Option String) {cursor : Nat} {c : Cursor}
      (hname : cursor? s result = some cursor) (hc : s.cursors[cursor]? = some c)
      (hn : c.outcome = none) : Dealing s (.consume result name) (.of (awaiting s cursor name))
  | dropResult (result : String) (cursor : Nat) :
      Dealing s (.dropResult result) (.of (s.dropCursor cursor))
  | setBookmark {name : String} {source : Bookmark.Source} {tx : Nat} {b : Bookmark}
      (h : setting? s (.setBookmark name source) = some (tx, b)) :
      Dealing s (.setBookmark name source) (.of (s.updateTransaction tx (Transaction.setBookmark b)))

/-- A step leads from `s` to `s'` by what it does of its own and the replies that come after it. -/
def Deals (s : Client) (step : Step) (s' : Client) : Prop :=
  ∃ σ : Situation, Dealing s step σ ∧ Deliveries σ (.of s')

/-! ## Steps that do something else -/

section

variable {s s₁ : Client}

namespace Elsewhere

theorem of_queue (h : Spares s s₁) (hq : s₁.connection.queue = s.connection.queue) :
    Elsewhere s (.of s₁) :=
  ⟨h, [], by simp [Situation.of, hq], by simp⟩

/-- An exchange is sent that is no statement. -/
theorem requests {s₁ s' : Client} (h : Spares s s') {tx : Nat} {exchange : Exchange}
    (hne : ∀ cursor, exchange ≠ .statement cursor) {statement : String} {onPull : Handler}
    (hpull : onPull.Fits exchange .pullAll)
    (hfeeds : ∀ handle, feeds? onPull = some handle → handle = s.handles.length) :
    Elsewhere s ⟨s.connection.queue ++ s₁.requests tx exchange statement .ignore onPull, s'⟩ := by
  refine ⟨h, _, rfl, fun r hr => ⟨fits_requests (.ignore hne) hpull hr, ?_, fun handle hf => ?_⟩⟩
  · rw [(mem_requests hr).2.1]
    exact hne
  · exact hfeeds handle (feeds?_requests rfl hr hf).2

theorem taken (s : Client) (tx : Nat) (name : Option String) (course : Course) :
    Elsewhere s (taken s.connection.queue s tx name course) := by
  have hclaimed := Spares.claimed s tx name
  have hself : ∀ handle, some s.handles.length = some handle → handle = s.handles.length :=
    fun _ h => (Option.some.inj h).symm
  cases course with
  | finish result =>
      refine ⟨(hclaimed.trans (.release _ tx)).resolve (Nat.le_refl _) _, [], ?_, by simp⟩
      simp [Nonblocking.taken]
  | commit =>
      exact requests (hclaimed.trans (.send _ _ _ _ _ _ _)) (by simp) (.committed _) hself
  | commitOrRollback =>
      exact requests (hclaimed.trans (.send _ _ _ _ _ _ _)) (by simp) (.committed _) hself
  | rollback =>
      exact requests (hclaimed.trans (.send _ _ _ _ _ _ _)) (by simp) (.rolledBack _) hself

/-- A transaction that has been let go is looked at. -/
theorem abandoned (h : Spares s s₁) (tx : Nat) :
    Elsewhere s (abandoned s.connection.queue s₁ tx) := by
  refine ⟨(h.trans (.abandon _ _ tx)).trans (.start _ _), _, rfl, fun r hr => ?_⟩
  rcases abandon_cases s₁ s.connection.queue tx with hsame | ⟨t, -, -, -, hsame | hsame⟩ <;>
    rw [hsame] at hr
  · simp [Client.opening] at hr
  · simp [Client.opening] at hr
  · refine ⟨fits_requests (.ignore (by simp)) (.rolledBack _) hr, ?_, fun handle hf => ?_⟩
    · rw [(mem_requests hr).2.1]
      simp
    · -- The ROLLBACK is for nobody.
      have hnobody := (feeds?_requests rfl hr hf).2
      simp [feeds?, ending, Completion.target] at hnobody

end Elsewhere

end

end Nonblocking

end ClientTransaction
