import ClientTransaction.Proofs.Scenario.Filing

/-!
# Blocking.Bookmarks — which replies move the bookmark

The application sets the bookmark of a transaction, and a reply may bring one. Where calls wait, the
handler that captures a bookmark is that of COMMIT and that of ROLLBACK, and it does not ask how the
transaction ends: a success of either brings the bookmark that it carries. As long as a transaction
is open no reply has brought it a bookmark, and to what is committed only its COMMIT has. What is
rolled back may have got one, from its ROLLBACK, or from a COMMIT that succeeded in a `sync` that
failed.
-/

namespace ClientTransaction

/-! ## What replies bring -/

/-- The bookmark that a reply brings to a transaction: one that its COMMIT or ROLLBACK carries. -/
def Receipt.captured? (tx : Nat) (r : Receipt) : Option Bookmark :=
  match r.reply.outcome with
  | .success metadata =>
      if r.owner = tx ∧ r.part = .pullAll ∧ (r.exchange = .commit ∨ r.exchange = .rollback) then
        Message.carried? metadata
      else none
  | _ => none

theorem Receipt.of_captured? {tx : Nat} {r : Receipt} {b : Bookmark}
    (h : r.captured? tx = some b) :
    ∃ metadata, r.owner = tx ∧ r.part = .pullAll ∧
      (r.exchange = .commit ∨ r.exchange = .rollback) ∧ r.reply.outcome = .success metadata ∧
        Message.carried? metadata = some b := by
  unfold Receipt.captured? at h
  split at h
  · rename_i metadata houtcome
    simp only [Option.ite_none_right_eq_some] at h
    rcases h with ⟨⟨howner, hpart, hexchange⟩, hcarried⟩
    exact ⟨metadata, howner, hpart, hexchange, houtcome, hcarried⟩
  · simp at h

/-- What a COMMIT brings is what its success carries. -/
theorem Receipt.carried?_of_captured? {tx : Nat} {r : Receipt} {b : Bookmark}
    (h : r.captured? tx = some b) (hx : r.exchange = .commit) : r.carried? tx = some b := by
  rcases Receipt.of_captured? h with ⟨metadata, howner, hpart, -, houtcome, hcarried⟩
  simp [Receipt.carried?, howner, hpart, hx, houtcome, hcarried]

/-- A reply that brings a bookmark is an answer to its exchange. -/
theorem Client.answers_ne_nil_of_captured? {s : Client} {tx : Nat} {r : Receipt} {b : Bookmark}
    (hr : r ∈ s.receipts) (h : r.captured? tx = some b) : s.answers tx r.exchange ≠ [] := by
  rcases Receipt.of_captured? h with ⟨metadata, howner, hpart, -, houtcome, -⟩
  rcases r with ⟨owner, exchange, part, reply⟩
  dsimp only at howner hpart houtcome
  subst howner hpart
  rcases List.mem_filterMap.1 hr with ⟨e, he, hreceipt⟩
  refine List.ne_nil_of_mem (a := .success metadata) (List.mem_filterMap.2 ⟨e, he, ?_⟩)
  cases e with
  | reply =>
      cases hreceipt
      simpa using houtcome
  | _ => simp at hreceipt

namespace Blocking

open Scenario
open Nonblocking (Situation Spares answered set?)

/-- Something that gives a transaction a bookmark. -/
inductive Grant
  | set (b : Bookmark)
  | brought (r : Receipt) (b : Bookmark)

namespace Grant

def bookmark : Grant → Bookmark
  | set b => b
  | brought _ b => b

/-- The bookmark that the application sets. -/
def set? : Grant → Option Bookmark
  | set b => some b
  | brought _ _ => none

end Grant

/-- The bookmark after all of this. -/
def known (gs : List Grant) : Bookmark :=
  Bookmark.empty.latest (gs.map Grant.bookmark)

/-- What a reply gives to a transaction. -/
def grant? (tx : Nat) (r : Receipt) : Option Grant :=
  (r.captured? tx).map (.brought r)

/-- What the replies between two clients give to a transaction, in order. -/
def brought (tx : Nat) (s s' : Client) : List Grant :=
  (s'.receipts.drop s.receipts.length).filterMap (grant? tx)

/-- What a run gives to a transaction, in order. -/
def grants (tx : Nat) (s : Client) : List Step → List Grant
  | [] => []
  | step :: rest =>
      (set? tx s step).toList.map .set ++ brought tx s (perform .blocking s step).2 ++
        grants tx (perform .blocking s step).2 rest

section

variable {s s' : Client} {σ σ' : Situation} {tx : Nat}

/-! ## Replies -/

theorem bookmark_set {place : Nat} (h : place < s.transactions.length) (b : Bookmark) (tx : Nat) :
    (s.updateTransaction place (Transaction.setBookmark b)).bookmark tx =
      (s.bookmark tx).latest (if place = tx then [b] else []) := by
  rw [s.bookmark_updateTransaction]
  by_cases hp : place = tx
  · subst hp
    simpa [Client.bookmark, h] using Transaction.bookmark_setBookmark b s.transactions[place]
  · simp [hp, Bookmark.latest]

/-- A reply adds to the bookmarks of a transaction what it brings to it. -/
theorem bookmark_answer {r : Request} (hs : r.Suits .blocking)
    (ho : r.owner < s.transactions.length) (others : List Request) (tx : Nat) :
    (s.answer others r).1.bookmark tx =
      (s.bookmark tx).latest (r.receipt.captured? tx).toList := by
  rcases hs.fits with hf | ⟨-, hh, hp, hx⟩
  · -- No handler that heeds a bookmark owns a completion.
    have hpassive := hs.passive rfl
    have hother : ∀ done, r.handler ≠ .committed done := by
      intro done hdone
      simp [hdone, Handler.ownsCompletion] at hpassive
    have hnone : r.receipt.captured? tx = none := by
      cases hcaptured : r.receipt.captured? tx with
      | none => rfl
      | some b =>
          rcases Receipt.of_captured? hcaptured with ⟨metadata, -, hpart, hexchange, -, -⟩
          rcases r with ⟨owner, exchange, part, handler, reply⟩
          dsimp only [Request.receipt] at hpart hexchange
          subst hpart
          rcases hexchange with rfl | rfl <;> cases hf <;> simp [Handler.ownsCompletion] at hpassive
    rw [hnone]
    exact Nonblocking.bookmark_answer_of_other others hf hother
  · rcases r with ⟨owner, exchange, part, handler, ⟨rows, outcome⟩⟩
    dsimp only at hh hp hx ho
    subst hh hp
    cases outcome with
    | success metadata =>
        have hset := bookmark_set (s := s.record (.reply owner exchange .pullAll
          ⟨rows, .success metadata⟩)) ho (Message.bookmark metadata) tx
        refine hset.trans ?_
        by_cases htx : owner = tx
        · simp only [htx, hx, Receipt.captured?, Request.receipt, and_self, if_true]
          exact Message.latest_bookmark (s.bookmark tx) metadata
        · simp [htx, Receipt.captured?, Request.receipt]
          rfl
    | failure e => rfl
    | dropped => rfl

/-! ## Strides -/

/-- Replies come, and of the bookmarks that they bring to `tx` the last one stands. -/
def Hears (tx : Nat) (s s' : Client) : Prop :=
  ∃ new : List Receipt, s'.receipts = s.receipts ++ new ∧
    s'.bookmark tx = (s.bookmark tx).latest (new.filterMap (Receipt.captured? tx))

theorem Hears.of_eq (hreceipts : s'.receipts = s.receipts)
    (hbookmark : s'.bookmark tx = s.bookmark tx) : Hears tx s s' :=
  ⟨[], by simpa using hreceipts, hbookmark⟩

theorem Hears.trans {s₁ s₂ : Client} (h : Hears tx s s₁) (h' : Hears tx s₁ s₂) :
    Hears tx s s₂ := by
  rcases h with ⟨new, hreceipts, hbookmark⟩
  rcases h' with ⟨new', hreceipts', hbookmark'⟩
  refine ⟨new ++ new', ?_, ?_⟩
  · rw [hreceipts', hreceipts, List.append_assoc]
  · rw [hbookmark', hbookmark, List.filterMap_append, Bookmark.latest_append]

/-- The application sets no bookmark. -/
def IsMark (d : Deed) : Prop :=
  ∃ m, d = .mark m

theorem hears_stride (h : Filed .blocking σ) {d : Option (Nat × Deed)}
    (hd : Stride .blocking d σ σ') (hmarks : ∀ p ∈ d, IsMark p.2) (tx : Nat) :
    Hears tx σ.client σ'.client := by
  cases hd with
  | apart ha => exact .of_eq ha.receipts (ha.bookmark tx)
  | @tells rs s place ht d =>
      rcases hmarks (place, d) rfl with ⟨m, rfl⟩
      exact .of_eq rfl
        ((Spares.updateTransaction s place (f := (Deed.mark m).apply) fun _ => rfl).bookmark tx)
  | begins place statement name => exact .of_eq rfl rfl
  | sends => exact .of_eq rfl rfl
  | @answers s before after r reply others ht hb =>
      have hmem : r ∈ before ++ r :: after := List.mem_append_right _ (List.mem_cons_self ..)
      refine ⟨[({ r with reply := reply } : Request).receipt],
        Nonblocking.receipts_answered _ _ _ _ _, ?_⟩
      refine ((Spares.start _ _).bookmark tx).trans ?_
      rw [bookmark_answer ((h.suits r hmem).withReply reply) (h.owners r hmem) others tx]
      cases hcaptured : ({ r with reply := reply } : Request).receipt.captured? tx <;>
        simp [hcaptured]

theorem hears_strides (h : Filed .blocking σ) {ds : List (Nat × Deed)}
    (hd : Strides .blocking ds σ σ') (hmarks : ∀ p ∈ ds, IsMark p.2) (tx : Nat) :
    Hears tx σ.client σ'.client := by
  induction hd with
  | refl => exact .of_eq rfl rfl
  | tail hfirst hd ih =>
      have hbefore := ih h fun p hp => hmarks p (List.mem_append_left _ hp)
      exact hbefore.trans (hears_stride (h.strides hfirst) hd
        (fun p hp => hmarks p (List.mem_append_right _ (by simpa using hp))) tx)

/-! ## ROLLBACKs that nobody asked for -/

/-- Closing asks for the outcome of a ROLLBACK only for a transaction that it rolls back. -/
theorem asksInClosing_rollback (tx : Nat) :
    AsksInClosing tx .rollback fun s => s.final? tx = some .rolledBack := by
  refine ⟨by simp, by simp, fun s hs h place => ?_⟩
  by_cases hp : place = tx
  · subst hp
    cases ht : s.transactions[place]? with
    | none => exact Or.inl (by rwa [close_of_unborn ht])
    | some t =>
        cases hc : t.closing with
        | true => exact Or.inl (by rwa [close_of_claimed ht hc])
        | false =>
            rcases closing_close hs.passive ht hc (hs.live ht hc).1 with
              ⟨final, events, hclosing, hclosed⟩
            have hfinal := final?_of_closed hclosed
            rcases hclosing.final_eq with rfl | rfl
            · -- Nothing was sent but COMMIT.
              rcases exchange_of_close hs ht hc hfinal with ⟨s₁, hexchange, hclose⟩
              have hclaim : Keeps place .rollback s (s.updateTransaction place Transaction.claim) :=
                .of_same hs.passive rfl rfl
              have hcommit : Keeps place .rollback (s.updateTransaction place Transaction.claim)
                  (commitExchange place (s.updateTransaction place Transaction.claim)).2 :=
                keeps_finish (Or.inr (by simp)) _ _ hclaim.passive
              rw [hexchange] at hcommit
              have hkept := (hclaim.trans hcommit).trans (keeps_release place hcommit.passive)
              exact Or.inl (by rw [hclose, hkept.owed, h])
            · exact Or.inr hfinal
  · exact Or.inl ((keeps_close hp hs.passive).owed.trans h)

end

/-- A transaction that a reply has brought a bookmark has ended; if it is committed, the reply was
that to its COMMIT. -/
theorem ended_of_captured {steps : List Step} {tx : Nat} {r : Receipt} {b : Bookmark}
    (hr : r ∈ (after .blocking {} steps).receipts) (hb : r.captured? tx = some b) :
    ((after .blocking {} steps).final? tx = some .committed ∧ r.exchange = .commit) ∨
      (after .blocking {} steps).final? tx = some .rolledBack := by
  -- A reply that has come counts among those that were asked for.
  have howed : (after .blocking {} steps).owed tx r.exchange ≠ [] := fun hnone =>
    Client.answers_ne_nil_of_captured? hr hb (List.append_eq_nil_iff.1 hnone).1
  rcases Receipt.of_captured? hb with ⟨metadata, -, -, hexchange, -, -⟩
  rcases hexchange with hexchange | hexchange <;> rw [hexchange] at howed ⊢
  · rcases (unasked_after steps tx).resolve_left howed with ⟨t, ht, hclaimed⟩
    -- Only what is open has not been claimed.
    have hended : t.state.isTerminal = true := by
      apply Classical.byContradiction
      intro hopen
      have hunclaimed := (settled_after settled_start steps).unclaimed ht
        (by simpa [Transaction.isOpen, State.isOpen] using hopen)
      exact absurd (hclaimed.symm.trans hunclaimed) (by simp)
    have hfinal : (after .blocking {} steps).final? tx = some t.state := by
      simp [Client.final?, ht, Transaction.final?, hended]
    rw [hfinal]
    cases hstate : t.state <;> simp [hstate, State.isTerminal] at hended ⊢
  · have hrolledBack := (asksInClosing_rollback tx).after
      (fun _ _ hgrows => hgrows.final?) steps
    exact Or.inr (hrolledBack.resolve_left howed)

/-! ## Runs -/

section

variable {s : Client}

theorem bookmark_perform_setBookmark (name : String) (source : Bookmark.Source) (tx : Nat) :
    (perform .blocking s (.setBookmark name source)).2.receipts = s.receipts ∧
      (perform .blocking s (.setBookmark name source)).2.bookmark tx =
        (s.bookmark tx).latest (set? tx s (.setBookmark name source)).toList := by
  cases hname : transaction? s name with
  | none =>
      have hsame : (perform .blocking s (.setBookmark name source)).2 = s := by
        simp [perform, onTransaction, hname]
      have hnone : set? tx s (.setBookmark name source) = none := by
        simp [set?, Nonblocking.setting?, hname]
      rw [hsame, hnone]
      exact ⟨rfl, rfl⟩
  | some place =>
      rcases Nonblocking.exists_of_transaction? hname with ⟨t, ht, -⟩
      cases hsource : Bookmark.ofSource? source with
      | none =>
          have hsame : (perform .blocking s (.setBookmark name source)).2 = s := by
            simp [perform, onTransaction, hname, ht, hsource]
          have hnone : set? tx s (.setBookmark name source) = none := by
            simp [set?, Nonblocking.setting?, hname, hsource]
          rw [hsame, hnone]
          exact ⟨rfl, rfl⟩
      | some b =>
          have hset : (perform .blocking s (.setBookmark name source)).2 =
              s.updateTransaction place (Transaction.setBookmark b) := by
            simp [perform, onTransaction, hname, ht, hsource]
          have hsome : set? tx s (.setBookmark name source) =
              if place = tx then some b else none := by
            simp [set?, Nonblocking.setting?, hname, hsource]
          rw [hset, hsome, bookmark_set (List.getElem?_eq_some_iff.1 ht).1]
          refine ⟨rfl, ?_⟩
          split <;> rfl

theorem isMark_of_said {name : String} {m : Mark} {p : Nat × Deed}
    (h : p ∈ said s name (.mark m)) : IsMark p.2 := by
  rcases List.mem_map.1 h with ⟨place, -, rfl⟩
  exact ⟨m, rfl⟩

/-- In every other step the application only marks transactions. -/
theorem isMark_of_deeds {step : Step} (h : ∀ name source, step ≠ .setBookmark name source) :
    (∀ p ∈ deeds .blocking s step, IsMark p.2) ∧ ∀ tx, set? tx s step = none := by
  cases step with
  | setBookmark name source => exact absurd rfl (h name source)
  | success name => exact ⟨fun p => isMark_of_said, fun _ => rfl⟩
  | failure name => exact ⟨fun p => isMark_of_said, fun _ => rfl⟩
  | resultFailed name e => exact ⟨fun p => isMark_of_said, fun _ => rfl⟩
  | commit name handle => exact ⟨fun p => isMark_of_said, fun _ => rfl⟩
  | rollback name handle => exact ⟨fun p => isMark_of_said, fun _ => rfl⟩
  | run name statement params result =>
      refine ⟨fun p hp => ?_, fun _ => rfl⟩
      simp only [deeds] at hp
      split at hp
      · exact isMark_of_said hp
      · exact absurd hp List.not_mem_nil
  | _ => exact ⟨fun p hp => absurd hp List.not_mem_nil, fun _ => rfl⟩

/-- A step adds replies, and of the bookmarks that it gives to `tx` the last one stands. -/
theorem bookmark_perform (hs : Settled s) (hf : Filed .blocking (.of s)) (step : Step) (tx : Nat) :
    s.receipts <+: (perform .blocking s step).2.receipts ∧
      (perform .blocking s step).2.bookmark tx = (s.bookmark tx).latest
        (((set? tx s step).toList.map Grant.set ++
          brought tx s (perform .blocking s step).2).map Grant.bookmark) := by
  by_cases hstep : ∃ name source, step = .setBookmark name source
  · rcases hstep with ⟨name, source, rfl⟩
    rcases bookmark_perform_setBookmark (s := s) name source tx with ⟨hreceipts, hbookmark⟩
    refine ⟨hreceipts ▸ List.prefix_refl _, ?_⟩
    have hnone : brought tx s (perform .blocking s (.setBookmark name source)).2 = [] := by
      simp [brought, hreceipts]
    rw [hnone, hbookmark]
    cases set? tx s (.setBookmark name source) <;> rfl
  · have hmarks : (∀ p ∈ deeds .blocking s step, IsMark p.2) ∧ ∀ tx, set? tx s step = none :=
      isMark_of_deeds fun name source heq => hstep ⟨name, source, heq⟩
    have hnew := hf.unborn _ (Nat.le_refl _)
    rcases hears_strides hf (strides_perform hs hnew step) hmarks.1 tx with
      ⟨new, hreceipts, hbookmark⟩
    refine ⟨⟨new, hreceipts.symm⟩, hbookmark.trans ?_⟩
    have hbrought : brought tx s (perform .blocking s step).2 = new.filterMap (grant? tx) := by
      rw [brought, show (perform .blocking s step).2.receipts = s.receipts ++ new from hreceipts,
        List.drop_left]
    have hgiven : (new.filterMap (grant? tx)).map Grant.bookmark =
        new.filterMap (Receipt.captured? tx) := by
      rw [List.map_filterMap]
      congr 1
      funext r
      simp [grant?, Function.comp_def, Grant.bookmark]
    rw [hmarks.2, hbrought, Option.toList_none, List.map_nil, List.nil_append, hgiven]
    rfl

/-- After a run the last bookmark stands, and what was brought has come with a reply. -/
theorem bookmark_after (hs : Settled s) (hf : Filed .blocking (.of s)) (steps : List Step)
    (tx : Nat) :
    s.receipts <+: (after .blocking s steps).receipts ∧
      (after .blocking s steps).bookmark tx =
        (s.bookmark tx).latest ((grants tx s steps).map Grant.bookmark) ∧
      ∀ r b, Grant.brought r b ∈ grants tx s steps →
        r ∈ (after .blocking s steps).receipts ∧ r.captured? tx = some b := by
  induction steps generalizing s with
  | nil => exact ⟨List.prefix_refl _, rfl, fun r b h => absurd h List.not_mem_nil⟩
  | cons step rest ih =>
      rcases bookmark_perform hs hf step tx with ⟨hgrown, hstep⟩
      have hnext := hf.strides (strides_perform hs (hf.unborn _ (Nat.le_refl _)) step)
      rcases ih (settled_perform hs step) hnext with ⟨hkept, hrest, hbrought⟩
      refine ⟨hgrown.trans hkept, ?_, fun r b h => ?_⟩
      · rw [grants, List.map_append, Bookmark.latest_append, ← hstep]
        exact hrest
      · rcases List.mem_append.1 h with h | h
        · rcases List.mem_append.1 h with h | h
          · rcases List.mem_map.1 h with ⟨b', -, heq⟩
            cases heq
          · rcases List.mem_filterMap.1 h with ⟨r', hr', hgrant⟩
            rcases Option.map_eq_some_iff.1 hgrant with ⟨b', hb', heq⟩
            cases heq
            exact ⟨hkept.subset (List.mem_of_mem_drop hr'), hb'⟩
        · exact hbrought r b h

end

/-! ## Bookmarks that move with a commit -/

/-- Up to the end of a run the bookmark of `tx` moves only with a successful commit. -/
structure MovesWithCommit (tx : Nat) (steps : List Step) : Prop where
  /-- A reply that changes the bookmark is the success of COMMIT, and the transaction is
  committed. -/
  changed : ∀ before r b later, grants tx {} steps = before ++ .brought r b :: later →
    b ≠ known before →
      r.carried? tx = some b ∧ (after .blocking {} steps).final? tx = some .committed
  /-- What is rolled back has the last bookmark that the application set. -/
  kept : (after .blocking {} steps).final? tx = some .rolledBack →
    (after .blocking {} steps).bookmark tx =
      Bookmark.empty.latest ((grants tx {} steps).filterMap Grant.set?)

/-- No reply brings another bookmark than the one that is known. -/
def Idle (gs : List Grant) : Prop :=
  ∀ before r b later, gs = before ++ .brought r b :: later → b = known before

/-- Only what the application sets counts if replies bring nothing new. -/
theorem known_of_idle {gs : List Grant} (h : Idle gs) :
    known gs = Bookmark.empty.latest (gs.filterMap Grant.set?) := by
  -- What is known depends on what came last, so the induction is from the end.
  induction gs using List.reverseRecOn with
  | nil => rfl
  | append_singleton gs g ih =>
      have hbefore : Idle gs := by
        intro before r b later heq
        exact h before r b (later ++ [g]) (by rw [heq]; simp)
      have hknown : known (gs ++ [g]) = (known gs).latest [g.bookmark] := by
        rw [known, List.map_append, Bookmark.latest_append]
        rfl
      rw [hknown, List.filterMap_append, Bookmark.latest_append, ← ih hbefore]
      cases g with
      | set b => rfl
      | brought r b =>
          have hb : b = known gs := h gs r b [] rfl
          subst hb
          show (known gs).latest [known gs] = known gs
          cases hempty : (known gs).isEmpty <;> simp [Bookmark.latest, hempty]

/-- Where the bookmark of a transaction comes from when calls wait, and when it moves with the
commit. -/
structure Bookmarked (tx : Nat) (steps : List Step) : Prop where
  /-- The last bookmark stands that is not empty. -/
  latest : (after .blocking {} steps).bookmark tx = known (grants tx {} steps)
  /-- This is what the application is told. -/
  told : ∀ name, transaction? (after .blocking {} steps) name = some tx →
    (perform .blocking (after .blocking {} steps) (.bookmark name)).1 =
      .bookmark (known (grants tx {} steps))
  /-- A reply brings a bookmark to no open transaction, and to a committed one only with the
  success of its COMMIT. To one that is rolled back its ROLLBACK may bring one too. -/
  brought : ∀ r b, Grant.brought r b ∈ grants tx {} steps →
    ((after .blocking {} steps).final? tx = some .committed ∧ r.carried? tx = some b) ∨
      ((after .blocking {} steps).final? tx = some .rolledBack ∧ r.captured? tx = some b)
  /-- The bookmark moves only with a commit exactly if no reply brings another bookmark to what is
  rolled back. -/
  moves : MovesWithCommit tx steps ↔
    ((after .blocking {} steps).final? tx = some .rolledBack → Idle (grants tx {} steps))

/-- The bookmark of every transaction in every run, over any replies, faults and deliveries. -/
theorem bookmarked_waiting (steps : List Step) (tx : Nat) : Bookmarked tx steps := by
  rcases bookmark_after settled_start Filed.start steps tx with ⟨-, hlatest, hmem⟩
  have hknown : (after .blocking {} steps).bookmark tx = known (grants tx {} steps) := hlatest
  have hbrought : ∀ r b, Grant.brought r b ∈ grants tx {} steps →
      ((after .blocking {} steps).final? tx = some .committed ∧ r.carried? tx = some b) ∨
        ((after .blocking {} steps).final? tx = some .rolledBack ∧ r.captured? tx = some b) := by
    intro r b h
    rcases hmem r b h with ⟨hr, hb⟩
    rcases ended_of_captured hr hb with ⟨hcommitted, hexchange⟩ | hrolledBack
    · exact Or.inl ⟨hcommitted, Receipt.carried?_of_captured? hb hexchange⟩
    · exact Or.inr ⟨hrolledBack, hb⟩
  refine ⟨hknown, fun name hname => ?_, hbrought, ⟨fun h hrolledBack => ?_, fun hidle => ?_⟩⟩
  · rcases Nonblocking.exists_of_transaction? hname with ⟨t, ht, -⟩
    rw [← hknown, Client.bookmark_of_getElem? ht]
    simp [perform, onTransaction, hname, ht]
  · -- What changed the bookmark would have committed the transaction.
    intro before r b later heq
    apply Classical.byContradiction
    intro hne
    have hcommitted := (h.changed before r b later heq hne).2
    exact absurd (hcommitted.symm.trans hrolledBack) (by simp)
  · refine ⟨fun before r b later heq hne => ?_, fun hrolledBack => ?_⟩
    · rcases hbrought r b (by rw [heq]; simp) with ⟨hcommitted, hcarried⟩ | ⟨hrolledBack, -⟩
      · exact ⟨hcarried, hcommitted⟩
      · exact absurd (hidle hrolledBack before r b later heq) hne
    · exact hknown.trans (known_of_idle (hidle hrolledBack))

/-- The server acknowledges a ROLLBACK with a bookmark. -/
def rewarded : List Step :=
  begun ++ [.script ⟨Message.rollback, none,
      some { outcome := .success [("bookmark", .string "new")] }⟩,
    .setBookmark "t" (.values ["old"]), .close "t" none]

/-- What is rolled back may have another bookmark than the last one that was set. -/
theorem exists_moved_by_rollback :
    ¬ ∀ (steps : List Step) (tx : Nat), MovesWithCommit tx steps := by
  intro hall
  have hkept := (hall rewarded 0).kept rfl
  have hnew : (after .blocking {} rewarded).bookmark 0 = ⟨["new"]⟩ := rfl
  have hold : Bookmark.empty.latest ((grants 0 {} rewarded).filterMap Grant.set?) = ⟨["old"]⟩ := rfl
  rw [hnew, hold] at hkept
  exact absurd hkept (by decide)

end Blocking

end ClientTransaction
