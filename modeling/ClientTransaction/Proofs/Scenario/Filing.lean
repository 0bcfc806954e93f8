import ClientTransaction.Proofs.Blocking.Strides
import ClientTransaction.Proofs.Nonblocking.Strides
import ClientTransaction.Proofs.Scenario.Replies

/-!
# Scenario.Filing — what comes for a statement is filed under it

Many statements may be under way on one connection. The RUN and the PULL_ALL of a statement are
answered in this order, and its cursor holds what their replies have brought and nothing else. This
is kept by every stride, whatever other replies come in between, and so it holds after every run.
-/

namespace ClientTransaction

/-! ## What replies bring -/

namespace Cursor

/-- What a reply to a part of the statement means to the cursor. -/
def enter (c : Cursor) : Part × Reply → Cursor
  | (.run, ⟨_, .success metadata⟩) => c.setKeys (Message.fields metadata)
  | (.run, ⟨_, .failure e⟩) => c.settle (.error e)
  | (.run, ⟨_, .dropped⟩) => c
  | (.pullAll, ⟨rows, .success metadata⟩) => (rows.foldl push c).settle (.ok metadata)
  | (.pullAll, ⟨rows, .failure e⟩) => (rows.foldl push c).settle (.error e)
  | (.pullAll, ⟨rows, .dropped⟩) => rows.foldl push c

/-- A cursor to which nothing has come. -/
def blank (c : Cursor) : Cursor :=
  { statement := c.statement, owner := c.owner }

theorem keys_settle (c : Cursor) (outcome : Except Error Params) :
    (c.settle outcome).keys = c.keys := by
  unfold settle
  split <;> rfl

theorem records_settle (c : Cursor) (outcome : Except Error Params) :
    (c.settle outcome).records = c.records := by
  unfold settle
  split <;> rfl

theorem outcome_settle_eq (c : Cursor) (outcome : Except Error Params) :
    (c.settle outcome).outcome = (c.outcome <|> some outcome) := by
  cases hc : c.outcome <;> simp [settle, isComplete, complete, hc]

theorem bare_settle (c : Cursor) (outcome : Except Error Params) :
    (c.settle outcome).bare = c.bare.settle outcome := by
  cases hc : c.outcome <;> simp [settle, isComplete, bare, complete, hc]

theorem bare_pushAll (rows : List (List Value)) (c : Cursor) :
    (rows.foldl push c).bare = rows.foldl push c.bare := by
  induction rows generalizing c with
  | nil => rfl
  | cons row rest ih => exact ih (c.push row)

theorem keys_pushAll (rows : List (List Value)) (c : Cursor) :
    (rows.foldl push c).keys = c.keys := by
  induction rows generalizing c with
  | nil => rfl
  | cons row rest ih => exact ih (c.push row)

/-- Rows are added in their order, under the present columns. -/
theorem records_pushAll (rows : List (List Value)) (c : Cursor) :
    (rows.foldl push c).records = c.records ++ rows.map (Record.mk c.keys) := by
  induction rows generalizing c with
  | nil => simp
  | cons row rest ih =>
      rw [List.foldl_cons, ih]
      simp [push]

end Cursor

/-- The part of a statement that the request is for, with its reply. -/
def Receipt.entry (r : Receipt) : Part × Reply :=
  (r.part, r.reply)

/-- A request for a statement means to the cursor what its reply means. -/
theorem Request.Suits.receive_eq_enter {flavor : Flavor} {r : Request} (h : r.Suits flavor)
    {cursor : Nat} (hr : r.exchange = .statement cursor) (c : Cursor) :
    c.receive r = c.enter r.receipt.entry := by
  rcases r with ⟨owner, exchange, part, handler, ⟨rows, outcome⟩⟩
  rcases h.of_statement hr with ⟨hp, hh⟩ | ⟨hp, hh⟩
  · dsimp only at hp hh
    subst hp hh
    cases outcome <;> rfl
  · dsimp only at hp hh
    subst hp hh
    cases outcome <;> rfl

namespace Cursor

theorem bare_enter (c : Cursor) (entry : Part × Reply) :
    (c.enter entry).bare = c.bare.enter entry := by
  rcases entry with ⟨part, ⟨rows, outcome⟩⟩
  cases part with
  | run =>
      cases outcome with
      | success metadata => rfl
      | failure e => exact c.bare_settle _
      | dropped => rfl
  | pullAll => cases outcome <;> simp only [enter, bare_settle, bare_pushAll]

theorem blank_settle (c : Cursor) (outcome : Except Error Params) :
    (c.settle outcome).blank = c.blank := by
  unfold settle
  split <;> rfl

theorem blank_pushAll (rows : List (List Value)) (c : Cursor) :
    (rows.foldl push c).blank = c.blank := by
  induction rows generalizing c with
  | nil => rfl
  | cons row rest ih => exact ih (c.push row)

/-- Rows have come under columns that were told before, and then the stream has ended. -/
theorem of_told {c : Cursor} {columns : List String} {rows : List (List Value)}
    {outcome : Except Error Params}
    (h : c.bare = (rows.foldl push (c.blank.setKeys columns)).settle outcome) :
    c.keys = columns ∧ c.records = rows.map (Record.mk columns) ∧ c.outcome = some outcome := by
  have hkeys := congrArg keys h
  have hrecords := congrArg records h
  have houtcome := congrArg Cursor.outcome h
  rw [keys_settle, keys_pushAll] at hkeys
  rw [records_settle, records_pushAll] at hrecords
  rw [outcome_settle_eq, outcome_pushAll] at houtcome
  exact ⟨hkeys, hrecords, houtcome⟩

/-- A cursor stays that of its statement. -/
theorem blank_enter (c : Cursor) (entry : Part × Reply) : (c.enter entry).blank = c.blank := by
  rcases entry with ⟨part, ⟨rows, outcome⟩⟩
  cases part with
  | run =>
      cases outcome with
      | success metadata => rfl
      | failure e => exact c.blank_settle _
      | dropped => rfl
  | pullAll => cases outcome <;> simp only [enter, blank_settle, blank_pushAll]

end Cursor

/-! ## The results after a reply -/

namespace Client

variable {flavor : Flavor} {s s' : Client} {cursor : Nat}

/-- A cursor is changed, whoever has it and waits for it. -/
theorem results_of_modify {f g : Cursor → Cursor} (h : s'.cursors = s.cursors.modify cursor f)
    (hf : ∀ c : Cursor, (f c).bare = g c.bare) : s'.results = s.results.modify cursor g := by
  unfold results
  rw [h]
  apply List.ext_getElem?
  intro i
  simp only [List.getElem?_map, List.getElem?_modify]
  cases s.cursors[i]? with
  | none => rfl
  | some c => by_cases hi : cursor = i <;> simp [hi, hf]

/-- A reply to a statement changes what its cursor holds, and nothing else. -/
theorem results_answer {r : Request} (hs : r.Suits flavor) (hr : r.exchange = .statement cursor)
    (hc : cursor < s.cursors.length) (others : List Request) :
    (s.answer others r).1.results = s.results.modify cursor fun c => c.enter r.receipt.entry := by
  obtain ⟨c, hplace⟩ : ∃ c, s.cursors[cursor]? = some c := ⟨_, List.getElem?_eq_getElem hc⟩
  have hreceived : ∀ {s₁ : Client}, s₁.cursors = s.cursors.modify cursor (Cursor.receive r) →
      (s₁.releaseCursor others cursor).results =
        s.results.modify cursor fun c => c.enter r.receipt.entry := by
    intro s₁ h
    rw [results_releaseCursor]
    exact results_of_modify h fun c => by rw [hs.receive_eq_enter hr, Cursor.bare_enter]
  -- The rows of a PULL_ALL come before its outcome.
  have hrows := fun rows : List (List Value) =>
    getElem?_modify_self hplace fun c => rows.foldl Cursor.push c
  have hsettled : ∀ {s₁ : Client} {rows : List (List Value)} {outcome : Except Error Params},
      s₁.cursors = (s.cursors.modify cursor fun c => rows.foldl Cursor.push c).modify cursor
        (Cursor.settle outcome) →
      s₁.cursors = s.cursors.modify cursor fun c => (rows.foldl Cursor.push c).settle outcome :=
    fun h => h.trans (List.modify_modify_eq ..)
  rcases r with ⟨owner, exchange, part, handler, ⟨rows, outcome⟩⟩
  rcases hs.of_statement hr with ⟨-, hh⟩ | ⟨-, hh⟩ <;> dsimp only at hh <;> subst hh
  · cases outcome with
    | success metadata => exact hreceived rfl
    | failure e => exact hreceived (cursors_failCursor (s := s.record _) hplace owner e)
    | dropped => exact hreceived (modify_of_eq hplace rfl).symm
  · cases outcome with
    | success metadata =>
        exact hreceived (hsettled (cursors_completeCursor
          (s := (s.updateCursor cursor _).record _) (hrows rows) (.ok metadata)))
    | failure e =>
        exact hreceived (hsettled (cursors_failCursor
          (s := (s.updateCursor cursor _).record _) (hrows rows) owner e))
    | dropped => exact hreceived rfl

/-- Other replies are for no cursor. -/
theorem cursors_answer_of_other {r : Request} (hs : r.Suits flavor)
    (hr : ∀ cursor, r.exchange ≠ .statement cursor) (others : List Request) :
    (s.answer others r).1.cursors = s.cursors := by
  rcases hs.fits with hf | ⟨-, hh, -, -⟩
  · have hanswered : (Nonblocking.answered [] [] s others r).client.cursors = s.cursors :=
      Nonblocking.cursors_answered_of_other others hf hr
    exact (Nonblocking.cursors_start _ _).symm.trans hanswered
  · rcases r with ⟨owner, exchange, part, handler, ⟨rows, outcome⟩⟩
    dsimp only at hh
    subst hh
    cases outcome <;> rfl

end Client

namespace Scenario

open Nonblocking (Situation answered cursors_start)

/-- What has come for a statement. -/
def entries (s : Client) (cursor : Nat) : List (Part × Reply) :=
  (s.replies cursor).map Receipt.entry

theorem entries_eq_of_receipts {s s' : Client} (h : s'.receipts = s.receipts) (cursor : Nat) :
    entries s' cursor = entries s cursor := by
  unfold entries Client.replies
  rw [h]

/-! ## Everything is filed under its own statement -/

/-- Each statement is sent and answered part by part, and its cursor holds what has come for it. -/
structure Filed (flavor : Flavor) (σ : Situation) : Prop where
  suits : ∀ r ∈ σ.outstanding, r.Suits flavor
  owners : ∀ r ∈ σ.outstanding, r.owner < σ.client.transactions.length
  /-- What has come was for a transaction that is there. -/
  known : ∀ r ∈ σ.client.receipts, r.owner < σ.client.transactions.length
  order : ∀ cursor, ledger σ cursor <+: [.run, .pullAll]
  unborn : ∀ cursor, σ.client.cursors.length ≤ cursor → ledger σ cursor = []
  content : ∀ cursor c, σ.client.results[cursor]? = some c →
    c = (entries σ.client cursor).foldl Cursor.enter c.blank

namespace Filed

variable {flavor : Flavor} {σ σ' : Situation} {rs : List Request} {s : Client}

theorem start : Filed flavor (.of {}) where
  suits := by simp [Situation.of]
  owners := by simp [Situation.of]
  known := by simp [Client.receipts, Client.seen, Situation.of]
  order := by simp [ledger, Client.replies, Client.receipts, Client.seen, Situation.of]
  unborn := by simp [ledger, Client.replies, Client.receipts, Client.seen, Situation.of]
  content := by simp [Client.results, Situation.of]

theorem own (h : Filed flavor σ) {cursor : Nat} {c : Cursor}
    (hc : σ.client.cursors[cursor]? = some c) :
    c.bare = (entries σ.client cursor).foldl Cursor.enter c.blank :=
  h.content cursor c.bare (by simp [Client.results, hc])

/-- Nothing has come for a statement that has not been begun. -/
theorem entries_eq_nil (h : Filed flavor σ) {cursor : Nat} (hc : σ.client.cursors.length ≤ cursor) :
    entries σ.client cursor = [] := by
  have hparts := (List.append_eq_nil_iff.1 (h.unborn cursor hc)).1
  rw [entries, List.map_eq_nil_iff.1 hparts, List.map_nil]

theorem apart (h : Filed flavor σ) (ha : Apart flavor σ σ') : Filed flavor σ' := by
  have hreplies := entries_eq_of_receipts ha.receipts
  have hsize : σ'.client.cursors.length = σ.client.cursors.length := by
    simpa [Client.length_results] using congrArg List.length ha.results
  rcases ha.sent with ⟨new, hout, hnew⟩
  refine ⟨fun r hr => ?_, fun r hr => ?_, fun r hr => ?_, fun cursor => ?_, fun cursor hc => ?_,
    fun cursor c hc => ?_⟩
  · rcases List.mem_append.1 (hout ▸ hr) with hr | hr
    · exact h.suits r hr
    · exact (hnew r hr).1
  · rcases List.mem_append.1 (hout ▸ hr) with hr | hr
    · exact Nat.lt_of_lt_of_le (h.owners r hr) ha.born
    · exact (hnew r hr).2.2
  · exact Nat.lt_of_lt_of_le (h.known r (ha.receipts ▸ hr)) ha.born
  · rw [ha.ledger_eq]
    exact h.order cursor
  · rw [ha.ledger_eq]
    exact h.unborn cursor (hsize ▸ hc)
  · rw [hreplies]
    exact h.content cursor c (ha.results ▸ hc)

theorem tells (h : Filed flavor ⟨rs, s⟩) (tx : Nat) (f : Transaction → Transaction) :
    Filed flavor ⟨rs, s.updateTransaction tx f⟩ where
  suits := h.suits
  owners := fun r hr => by simpa using h.owners r hr
  known := fun r hr => by simpa using h.known r hr
  order := h.order
  unborn := h.unborn
  content := h.content

/-- A new cursor is blank. -/
theorem begins (h : Filed flavor ⟨rs, s⟩) (tx : Nat) (statement : String) (name : Option String) :
    Filed flavor ⟨rs, s.addCursor { statement := statement, owner := tx, name := name }⟩ where
  suits := h.suits
  owners := h.owners
  known := h.known
  order := h.order
  unborn := by
    intro cursor hc
    refine h.unborn cursor (Nat.le_trans (Nat.le_succ _) ?_)
    simpa [Client.addCursor] using hc
  content := by
    intro cursor c hc
    have hresults : (s.addCursor { statement := statement, owner := tx, name := name }).results =
        s.results ++ [{ statement := statement, owner := tx }] := by
      simp [Client.results, Client.addCursor, Cursor.bare]
    rcases getElem?_concat_cases (hresults ▸ hc) with ⟨hplace, rfl⟩ | hold
    · have hentries : entries (s.addCursor { statement := statement, owner := tx, name := name })
          cursor = [] := h.entries_eq_nil (Nat.le_of_eq (by rw [hplace, s.length_results]))
      rw [hentries]
      rfl
    · exact h.content cursor c hold

theorem sends (h : Filed flavor ⟨rs, s⟩) {r : Request} {cursor : Nat}
    (hs : r.Suits flavor) (he : r.exchange = .statement cursor) (hc : cursor < s.cursors.length)
    (ho : r.owner < s.transactions.length)
    (hnext : ledger ⟨rs, s⟩ cursor ++ [r.part] <+: [.run, .pullAll]) :
    Filed flavor ⟨rs ++ [r], s⟩ := by
  have hledger : ∀ place, ledger ⟨rs ++ [r], s⟩ place =
      ledger ⟨rs, s⟩ place ++ if cursor = place then [r.part] else [] := by
    intro place
    unfold ledger
    by_cases hp : cursor = place <;> simp [he, hp]
  refine ⟨fun q hq => ?_, fun q hq => ?_, h.known, fun place => ?_, fun place hp => ?_, h.content⟩
  · rcases List.mem_append.1 hq with hq | hq
    · exact h.suits q hq
    · exact List.mem_singleton.1 hq ▸ hs
  · rcases List.mem_append.1 hq with hq | hq
    · exact h.owners q hq
    · exact List.mem_singleton.1 hq ▸ ho
  · rw [hledger]
    by_cases hp : cursor = place
    · rw [if_pos hp, ← hp]
      exact hnext
    · rw [if_neg hp, List.append_nil]
      exact h.order place
  · have hne : cursor ≠ place := fun heq => Nat.not_le.2 hc (heq ▸ hp)
    rw [hledger, if_neg hne, List.append_nil]
    exact h.unborn place hp

section

variable {before after : List Request} {r : Request} {cursor : Nat}

/-- A request for a statement is for one that has been begun. -/
theorem lt_of_mem (h : Filed flavor σ) (hr : r ∈ σ.outstanding)
    (he : r.exchange = .statement cursor) :
    cursor < σ.client.cursors.length := by
  apply Classical.byContradiction
  intro hnot
  -- Otherwise its ledger would have an entry.
  have hnone := (List.append_eq_nil_iff.1 (h.unborn cursor (Nat.not_lt.1 hnot))).2
  have hmem : r ∈ σ.outstanding.filter fun q => q.exchange = .statement cursor :=
    List.mem_filter.2 ⟨hr, by simp [he]⟩
  rw [List.map_eq_nil_iff.1 hnone] at hmem
  exact absurd hmem List.not_mem_nil

/-- A reply is filed under its statement. -/
theorem entries_answered (before after : List Request) (s : Client) (others : List Request)
    (r : Request) (cursor : Nat) :
    entries (answered before after s others r).client cursor =
      entries s cursor ++ if r.exchange = .statement cursor then [r.receipt.entry] else [] := by
  unfold entries
  rw [replies_answered, List.map_append]
  by_cases hr : r.exchange = .statement cursor <;> simp [hr]

/-- A reply gets to the cursor of its statement, and to no other. -/
theorem results_answered (h : Filed flavor ⟨before ++ r :: after, s⟩) (reply : Reply)
    (others : List Request) (cursor : Nat) :
    (answered before after s others { r with reply := reply }).client.results[cursor]? =
      if r.exchange = .statement cursor then
        s.results[cursor]?.map fun c => c.enter (r.part, reply)
      else s.results[cursor]? := by
  have hmem : r ∈ before ++ r :: after := List.mem_append_right _ (List.mem_cons_self ..)
  have hsuits : ({ r with reply := reply } : Request).Suits flavor :=
    (h.suits r hmem).withReply reply
  have hstart : (answered before after s others { r with reply := reply }).client.results =
      (s.answer others { r with reply := reply }).1.results :=
    congrArg (List.map Cursor.bare) (cursors_start _ _)
  -- Only the cursor of its own statement is looked at by a handler.
  by_cases hother : ∀ place, r.exchange ≠ .statement place
  · have hsame : (s.answer others { r with reply := reply }).1.results = s.results :=
      congrArg (List.map Cursor.bare) (Client.cursors_answer_of_other hsuits hother others)
    rw [hstart, hsame, if_neg (hother cursor)]
  · obtain ⟨place, hplace⟩ : ∃ place, r.exchange = .statement place := by
      simpa using hother
    rw [hstart, Client.results_answer hsuits hplace (h.lt_of_mem hmem hplace) others,
      List.getElem?_modify, hplace]
    by_cases hp : place = cursor <;> simp [hp, Request.receipt, Receipt.entry]

theorem answers (h : Filed flavor ⟨before ++ r :: after, s⟩) (ht : InTurn before r) (reply : Reply)
    (others : List Request) :
    Filed flavor (answered before after s others { r with reply := reply }) := by
  have hsuits : ({ r with reply := reply } : Request).Suits flavor :=
    (h.suits r (List.mem_append_right _ (List.mem_cons_self ..))).withReply reply
  have hnames : (answered before after s others { r with reply := reply }).client.names = s.names :=
    Nonblocking.names_answered others _
  have hborn : (answered before after s others
      { r with reply := reply }).client.transactions.length = s.transactions.length := by
    simpa [Client.names] using congrArg (fun n => n.1.length) hnames
  have hsize : (answered before after s others { r with reply := reply }).client.cursors.length =
      s.cursors.length := by
    simpa [Client.names] using congrArg (fun n => n.2.1.length) hnames
  -- What is left of the queue was there before; what follows from the handler is no statement.
  have hleft : ∀ q ∈ (answered before after s others { r with reply := reply }).outstanding,
      q ∈ before ++ r :: after ∨ (q.Suits flavor ∧ q.owner = r.owner) := by
    intro q hq
    rcases List.mem_append.1 hq with hq | hq
    · refine Or.inl (List.mem_append.2 ((List.mem_append.1 hq).imp_right ?_))
      exact List.mem_cons_of_mem r
    · refine Or.inr ⟨⟨Or.inl (Nonblocking.fits_opening _ hq), fun hblocking => ?_⟩,
        (Nonblocking.mem_opening_answer hq).1⟩
      -- Where calls wait nobody owns a completion, and nothing follows from a reply.
      have hnone := (s.calm_answer others (r := { r with reply := reply })
        (hsuits.passive hblocking)).2
      rw [hnone] at hq
      exact absurd hq List.not_mem_nil
  have howner : r.owner < s.transactions.length :=
    h.owners r (List.mem_append_right _ (List.mem_cons_self ..))
  refine ⟨fun q hq => ?_, fun q hq => ?_, fun q hq => ?_, fun cursor => ?_, fun cursor hc => ?_,
    fun cursor c hc => ?_⟩
  · exact (hleft q hq).elim (h.suits q) fun hq => hq.1
  · rw [hborn]
    rcases hleft q hq with hq | ⟨-, hsame⟩
    · exact h.owners q hq
    · exact hsame ▸ howner
  · rw [hborn]
    rw [Nonblocking.receipts_answered] at hq
    rcases List.mem_append.1 hq with hq | hq
    · exact h.known q hq
    · exact List.mem_singleton.1 hq ▸ howner
  · rw [ledger_answered ht]
    exact h.order cursor
  · rw [ledger_answered ht]
    exact h.unborn cursor (hsize ▸ hc)
  · rw [h.results_answered] at hc
    rw [entries_answered]
    by_cases hr : r.exchange = .statement cursor
    · simp only [hr, if_true] at hc ⊢
      rcases Option.map_eq_some_iff.1 hc with ⟨c₀, hc₀, rfl⟩
      rw [List.foldl_append, Cursor.blank_enter, ← h.content cursor c₀ hc₀]
      rfl
    · simp only [hr, if_false, List.append_nil] at hc ⊢
      exact h.content cursor c hc

end

theorem stride (h : Filed flavor σ) {d : Option (Nat × Deed)} (hd : Stride flavor d σ σ') :
    Filed flavor σ' := by
  cases hd with
  | apart ha => exact h.apart ha
  | tells ht d => exact h.tells _ _
  | begins tx statement name => exact h.begins tx statement name
  | sends hs he hc ho hnext => exact h.sends hs he hc ho hnext
  | answers reply others ht hb => exact h.answers ht reply others

theorem strides (h : Filed flavor σ) {ds : List (Nat × Deed)} (hd : Strides flavor ds σ σ') :
    Filed flavor σ' := by
  induction hd with
  | refl => exact h
  | tail _ hd ih => exact (ih h).stride hd

end Filed

/-! ## Runs -/

/-- What the application says in a run. -/
def deedsOf (flavor : Flavor) : Client → List Step → List (Nat × Deed)
  | _, [] => []
  | s, step :: rest => deeds flavor s step ++ deedsOf flavor (perform flavor s step).2 rest

theorem deedsOf_concat (flavor : Flavor) (s : Client) (steps : List Step) (step : Step) :
    deedsOf flavor s (steps ++ [step]) =
      deedsOf flavor s steps ++ deeds flavor (after flavor s steps) step := by
  induction steps generalizing s with
  | nil => simp [deedsOf, after]
  | cons first rest ih =>
      rw [List.cons_append, deedsOf, ih, deedsOf, List.append_assoc]
      rfl

/-- A step of an application is made of strides. -/
theorem strides_step (flavor : Flavor) (steps : List Step)
    (h : Filed flavor (.of (after flavor {} steps))) (step : Step) :
    Strides flavor (deeds flavor (after flavor {} steps) step) (.of (after flavor {} steps))
      (.of (perform flavor (after flavor {} steps) step).2) := by
  have hnew := h.unborn _ (Nat.le_refl _)
  cases flavor with
  | blocking =>
      exact Blocking.strides_perform (settled_after Blocking.settled_start steps) hnew step
  | nonblocking => exact Nonblocking.strides_perform (Nonblocking.sound_after steps) hnew step

theorem strides_after (flavor : Flavor) (steps : List Step) :
    Strides flavor (deedsOf flavor {} steps) (.of {}) (.of (after flavor {} steps)) := by
  induction steps using List.reverseRecOn with
  | nil => exact .refl _
  | append_singleton steps step ih =>
      rw [deedsOf_concat, after_append]
      exact ih.trans (strides_step flavor steps (Filed.start.strides ih) step)

/-- After every run everything is filed under its own statement. -/
theorem filed_after (flavor : Flavor) (steps : List Step) :
    Filed flavor (.of (after flavor {} steps)) :=
  Filed.start.strides (strides_after flavor steps)

/-! ## How a stream ends -/

/-- How a reply to a part of a statement ends its stream, if it does. -/
def conclusion? : Part × Reply → Option (Except Error Params)
  | (_, ⟨_, .failure e⟩) => some (.error e)
  | (.pullAll, ⟨_, .success metadata⟩) => some (.ok metadata)
  | _ => none

theorem outcome_enter (c : Cursor) (entry : Part × Reply) :
    (c.enter entry).outcome = (c.outcome <|> conclusion? entry) := by
  rcases entry with ⟨part, ⟨rows, outcome⟩⟩
  cases part <;> cases outcome <;>
    simp [Cursor.enter, Cursor.setKeys, Cursor.outcome_settle_eq, Cursor.outcome_pushAll,
      conclusion?]

theorem outcome_entered (received : List (Part × Reply)) (c : Cursor) :
    (received.foldl Cursor.enter c).outcome = (c.outcome <|> received.findSome? conclusion?) := by
  induction received generalizing c with
  | nil => simp
  | cons entry rest ih =>
      rw [List.foldl_cons, ih, outcome_enter, List.findSome?_cons]
      cases c.outcome <;> cases conclusion? entry <;> rfl

/-- A RUN and then a PULL_ALL, or not both of them yet. -/
theorem cases_of_parts {received : List (Part × Reply)}
    (h : received.map Prod.fst <+: [.run, .pullAll]) :
    received = [] ∨ (∃ run, received = [(.run, run)]) ∨
      ∃ run pull, received = [(.run, run), (.pullAll, pull)] := by
  rcases received with - | ⟨⟨part, run⟩, - | ⟨⟨part', pull⟩, rest⟩⟩
  · exact Or.inl rfl
  · obtain rfl : part = .run := by simpa using h
    exact Or.inr (Or.inl ⟨run, rfl⟩)
  · simp only [List.map_cons, List.cons_prefix_cons, List.prefix_nil, List.map_eq_nil_iff] at h
    rcases h with ⟨rfl, rfl, rfl⟩
    exact Or.inr (Or.inr ⟨run, pull, rfl⟩)

theorem eq_pair_of_parts {received : List (Part × Reply)}
    (h : received.map Prod.fst = [.run, .pullAll]) :
    ∃ run pull, received = [(.run, run), (.pullAll, pull)] := by
  have horder : received.map Prod.fst <+: [.run, .pullAll] := by simp [h]
  rcases cases_of_parts horder with rfl | ⟨run, rfl⟩ | hboth
  · cases h
  · cases h
  · exact hboth

/-- A stream that has ended well has got both replies, and neither of them is a failure. -/
theorem of_ended_well {received : List (Part × Reply)} {metadata : Params}
    (horder : received.map Prod.fst <+: [.run, .pullAll])
    (h : received.findSome? conclusion? = some (.ok metadata)) :
    received.map Prod.fst = [.run, .pullAll] ∧
      ∀ entry ∈ received, entry.2.outcome.failure? = none := by
  rcases cases_of_parts horder with rfl | ⟨⟨rows, outcome⟩, rfl⟩ |
    ⟨⟨rows, outcome⟩, ⟨rows', outcome'⟩, rfl⟩
  · cases h
  · cases outcome <;> simp [conclusion?] at h
  · cases outcome <;> cases outcome' <;> simp [List.findSome?_cons, conclusion?] at h <;>
      simp [Outcome.failure?]

namespace Filed

variable {flavor : Flavor} {σ : Situation} {cursor : Nat} {c : Cursor}

theorem parts (h : Filed flavor σ) (cursor : Nat) :
    (entries σ.client cursor).map Prod.fst <+: [.run, .pullAll] := by
  have hparts : (entries σ.client cursor).map Prod.fst =
      (σ.client.replies cursor).map Receipt.part := by
    simp [entries, Receipt.entry, Function.comp_def]
  rw [hparts]
  exact (List.prefix_append _ _).trans (h.order cursor)

/-- The first reply that ends the stream is its outcome. -/
theorem outcome_eq (h : Filed flavor σ) (hc : σ.client.cursors[cursor]? = some c) :
    c.outcome = (entries σ.client cursor).findSome? conclusion? := by
  have hown := congrArg Cursor.outcome (h.own hc)
  rw [outcome_entered] at hown
  exact hown

end Filed

/-- What has come for a statement stays. -/
theorem entries_grows {s s' : Client} (h : s.Grows s') (cursor : Nat) :
    entries s cursor <+: entries s' cursor := by
  have hreceipts : s.receipts <+: s'.receipts := h.history.filterMap _
  exact (hreceipts.filter _).map _

/-- The outcome of a stream is there for good. -/
theorem outcome_after (flavor : Flavor) (steps later : List Step) {cursor : Nat} {c c' : Cursor}
    (hc : (after flavor {} steps).cursors[cursor]? = some c) (hcomplete : c.isComplete = true)
    (hc' : (after flavor {} (steps ++ later)).cursors[cursor]? = some c') :
    c'.outcome = c.outcome := by
  have hgrows : (after flavor {} steps).Grows (after flavor {} (steps ++ later)) := by
    rw [after_append]
    exact grows_after flavor _ later
  rcases entries_grows hgrows cursor with ⟨more, hmore⟩
  have hbefore := (filed_after flavor steps).outcome_eq hc
  have hafter := (filed_after flavor (steps ++ later)).outcome_eq hc'
  dsimp only [Situation.of] at hbefore hafter
  rcases Option.isSome_iff_exists.1 hcomplete with ⟨outcome, houtcome⟩
  rw [hafter, ← hmore, List.findSome?_append, ← hbefore, houtcome]
  rfl

end Scenario

end ClientTransaction
