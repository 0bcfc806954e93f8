import ClientTransaction.Proofs.Scenario.Filing

/-!
# Scenario.Marks — the state of an open transaction is the highest of its marks

The application marks a transaction, and so does the first failure that comes for each of its
statements. As long as the transaction is open its state is the highest of these marks, whatever
their order was: every stride either makes a mark, or leaves the state, or ends the transaction.
-/

namespace ClientTransaction

namespace Client

variable {flavor : Flavor} {s : Client} {cursor : Nat} {c : Cursor}

/-! ## Replies to statements -/

/-- A failure marks the transaction, unless the stream of the statement had ended. -/
theorem transactions_failCursor (hc : s.cursors[cursor]? = some c) (tx : Nat) (e : Error) :
    (s.failCursor tx cursor e).transactions =
      if c.isComplete then s.transactions
      else s.transactions.modify tx (Transaction.resultFailed e) := by
  have hsame := s.transactions_completeCursor cursor (.error e)
  have hended : (s.completeCursor cursor (.error e)).1 = !c.isComplete := by
    cases hcomplete : c.isComplete <;> simp [completeCursor, hc, hcomplete]
  unfold failCursor
  rcases hcompleted : s.completeCursor cursor (.error e) with ⟨ended, s₁⟩
  rw [hcompleted] at hsame hended
  dsimp only at hsame hended
  cases hcomplete : c.isComplete <;> rw [hcomplete] at hended <;> subst hended
  · simp [updateTransaction, record, hsame]
  · simpa using hsame

/-- The failure of a statement marks its transaction once; no other reply to it does. -/
theorem transactions_answer_of_statement {r : Request} (hs : r.Suits flavor)
    (hr : r.exchange = .statement cursor) (hc : s.cursors[cursor]? = some c)
    (others : List Request) :
    (s.answer others r).1.transactions =
      match r.reply.outcome with
      | .failure e =>
          if c.isComplete then s.transactions
          else s.transactions.modify r.owner (Transaction.resultFailed e)
      | _ => s.transactions := by
  rcases r with ⟨owner, exchange, part, handler, ⟨rows, outcome⟩⟩
  rcases hs.of_statement hr with ⟨-, hh⟩ | ⟨-, hh⟩ <;> dsimp only at hh <;> subst hh
  -- RUN first, and then PULL_ALL, whose rows come before its outcome.
  · cases outcome with
    | success metadata => exact transactions_releaseCursor _ _ _
    | failure e =>
        exact (transactions_releaseCursor _ _ _).trans
          (transactions_failCursor (s := s.record _) hc owner e)
    | dropped => exact transactions_releaseCursor _ _ _
  · cases outcome with
    | success metadata =>
        exact (transactions_releaseCursor _ _ _).trans (transactions_completeCursor _ _ _)
    | failure e =>
        have hpushed : (rows.foldl Cursor.push c).isComplete = c.isComplete := by
          simp [Cursor.isComplete, Cursor.outcome_pushAll]
        have hfailed := transactions_failCursor (s := (s.updateCursor cursor
          fun c => rows.foldl Cursor.push c).record (.reply owner exchange part
            ⟨rows, .failure e⟩)) (getElem?_modify_self hc _) owner e
        rw [hpushed] at hfailed
        exact (transactions_releaseCursor _ _ _).trans hfailed
    | dropped => exact transactions_releaseCursor _ _ _

/-! ## Other replies -/

namespace Eases

theorem runFinalizers (s : Client) (tx : Nat) (actions : List (Finalizer × Except Error Unit)) :
    s.Eases (s.runFinalizers tx actions) := by
  induction actions generalizing s with
  | nil => exact .refl s
  | cons action rest ih =>
      rcases action with ⟨⟨⟩, shown⟩
      exact (release s tx).trans (ih _)

theorem fire (s : Client) (tx : Nat) (done : TerminalChain) (result : Except Error Unit) :
    s.Eases (s.fire tx done result).1 := by
  have hactions := runFinalizers s tx (done.fire result).1
  unfold Client.fire
  dsimp only
  split
  · exact hactions.trans (.resolve _ _ _)
  · exact hactions
  · exact hactions

/-- A transaction that nobody has claimed ends when its BEGIN fails. -/
theorem refuse {s : Client} {tx : Nat} (h : ¬ s.Claimed tx) (handle : Nat) (e : Error) :
    s.Eases (s.refuse tx handle e) := by
  have hunclaimed : (s.transactions[tx]?.any fun t => t.closing) = false := by
    cases ht : s.transactions[tx]? with
    | none => rfl
    | some t => simpa using fun hc : t.closing = true => h ⟨t, ht, hc⟩
  -- The mark does not outlast the release, so both are one change that ends the transaction.
  have hended : s.Eases ((s.updateTransaction tx fun t => t.markFailed.claim).release tx) := by
    have hfinal : s.Eases (s.updateTransaction tx fun t =>
        (t.markFailed.claim).finalize .rolledBack) :=
      .finalize s tx fun t => State.isTerminal_finalize rfl t.markFailed.state
    refine hfinal.trans (.of_transactions ?_)
    simp [Client.release, record, List.modify_modify_eq, Function.comp_def]
  unfold Client.refuse
  rw [hunclaimed]
  exact hended.trans (.resolve _ _ _)

/-- A reply that is for no statement marks nothing. -/
theorem answer (others : List Request) {r : Request} (hs : r.Suits flavor)
    (hr : ∀ cursor, r.exchange ≠ .statement cursor)
    (hb : ∀ handle, r.handler = .begun handle → ¬ s.Claimed r.owner) :
    s.Eases (s.answer others r).1 := by
  rcases r with ⟨owner, exchange, part, handler, ⟨rows, outcome⟩⟩
  rcases hs.fits with hf | ⟨-, hh, -, -⟩
  · cases hf with
    | columns cursor => exact absurd rfl (hr cursor)
    | rows cursor => exact absurd rfl (hr cursor)
    | ignore => exact .of_transactions rfl
    | begin => exact .of_transactions rfl
    | begun handle =>
        have hnoted : s.Eases (s.record (.reply owner .begin .pullAll ⟨rows, outcome⟩)) :=
          .of_transactions rfl
        have hunclaimed :
            ¬ (s.record (.reply owner .begin .pullAll ⟨rows, outcome⟩)).Claimed owner :=
          hb handle rfl
        cases outcome with
        | success metadata => exact hnoted.trans ((Eases.resolve _ _ _).trans (.abandon _ _ _))
        | failure e => exact hnoted.trans (.refuse hunclaimed handle e)
        | dropped => exact hnoted.trans (.refuse hunclaimed handle _)
    | committed done =>
        have hnoted : s.Eases (s.record (.reply owner .commit .pullAll ⟨rows, outcome⟩)) :=
          .of_transactions rfl
        cases outcome with
        | success metadata =>
            have hended : ∀ t : Transaction, ((t.setBookmark (Message.bookmark metadata)).finalize
                .committed).state.isTerminal = true :=
              fun t => State.isTerminal_finalize rfl (t.setBookmark _).state
            exact hnoted.trans ((Eases.finalize _ owner hended).trans (.fire _ _ _ _))
        | failure e => exact hnoted.trans (.fire _ _ _ _)
        | dropped => exact hnoted.trans (.fire _ _ _ _)
    | rolledBack done =>
        have hnoted : s.Eases (s.record (.reply owner .rollback .pullAll ⟨rows, outcome⟩)) :=
          .of_transactions rfl
        cases outcome with
        | success metadata =>
            have hended : ∀ t : Transaction, (t.finalize .rolledBack).state.isTerminal = true :=
              fun t => State.isTerminal_finalize rfl t.state
            exact hnoted.trans ((Eases.finalize _ owner hended).trans (.fire _ _ _ _))
        | failure e => exact hnoted.trans (.fire _ _ _ _)
        | dropped => exact hnoted.trans (.fire _ _ _ _)
  · dsimp only at hh
    subst hh
    cases outcome with
    | success metadata =>
        exact (Eases.of_transactions rfl).trans (.updateTransaction (s.record _) owner fun t => by
          unfold Transaction.setBookmark
          split <;> rfl)
    | failure e => exact .of_transactions rfl
    | dropped => exact .of_transactions rfl

theorem start (s : Client) (rollback : Option Rollback) : s.Eases (s.start rollback) :=
  .of_transactions (Nonblocking.transactions_start s rollback)

end Eases

/-! ## Failures -/

/-- The first failure that has come for a statement, with the transaction that sent it. -/
def firstFailure? (s : Client) (cursor : Nat) : Option (Nat × Error) :=
  (s.replies cursor).findSome? fun r => r.reply.outcome.failure?.map fun e => (r.owner, e)

end Client

namespace Scenario

open Nonblocking (Situation answered)

/-- The marks that statements of a transaction have made by failing. -/
def failureMarks (s : Client) (tx : Nat) : List Mark :=
  (List.range s.cursors.length).filterMap fun cursor =>
    (s.firstFailure? cursor).bind fun failure =>
      if failure.1 = tx then some failure.2.mark else none

/-- The marks that the application has made. -/
def saidMarks (tx : Nat) (ds : List (Nat × Deed)) : List Mark :=
  ds.filterMap fun
    | (place, .mark m) => if place = tx then some m else none
    | (_, .bookmark _) => none

theorem mem_failureMarks {s : Client} {tx : Nat} {m : Mark} :
    m ∈ failureMarks s tx ↔
      ∃ cursor < s.cursors.length, ∃ e, s.firstFailure? cursor = some (tx, e) ∧ m = e.mark := by
  simp only [failureMarks, List.mem_filterMap, List.mem_range, Option.bind_eq_some_iff,
    Option.ite_none_right_eq_some, Option.some.injEq, Prod.exists]
  constructor
  · rintro ⟨cursor, hc, owner, e, hfirst, rfl, rfl⟩
    exact ⟨cursor, hc, e, hfirst, rfl⟩
  · rintro ⟨cursor, hc, e, hfirst, rfl⟩
    exact ⟨cursor, hc, tx, e, hfirst, rfl, rfl⟩

/-! ## The first failure of a statement -/

section

variable {flavor : Flavor} {before after : List Request} {s : Client} {r : Request}
  {cursor : Nat} {c : Cursor}

theorem firstFailure?_answered (before after : List Request) (s : Client) (others : List Request)
    (r : Request) (cursor : Nat) :
    (answered before after s others r).client.firstFailure? cursor =
      ((s.firstFailure? cursor) <|> if r.exchange = .statement cursor then
        r.reply.outcome.failure?.map fun e => (r.owner, e) else none) := by
  unfold Client.firstFailure?
  rw [replies_answered, List.findSome?_append]
  by_cases hr : r.exchange = .statement cursor <;> simp [hr, Request.receipt]

/-- Before a request for a statement is answered, its stream has ended only if it has failed. -/
theorem Filed.isComplete_eq (h : Filed flavor ⟨before ++ r :: after, s⟩)
    (hr : r.exchange = .statement cursor) (hc : s.cursors[cursor]? = some c) :
    c.isComplete = (s.firstFailure? cursor).isSome := by
  have hown : c.bare = (entries s cursor).foldl Cursor.enter c.blank := h.own hc
  have hcomplete : c.isComplete = ((entries s cursor).foldl Cursor.enter c.blank).isComplete := by
    rw [← hown]
    rfl
  have horder := h.order cursor
  -- What is outstanding was sent after what has been answered.
  have hlater : r.part ∈ ((before ++ r :: after).filter
      fun q => q.exchange = .statement cursor).map Request.part :=
    List.mem_map_of_mem (List.mem_filter.2
      ⟨List.mem_append_right _ (List.mem_cons_self ..), by simp [hr]⟩)
  unfold ledger at horder
  unfold entries at hcomplete
  unfold Client.firstFailure?
  generalize ((before ++ r :: after).filter fun q => q.exchange = .statement cursor).map
    Request.part = outstanding at horder hlater
  dsimp only at horder
  rw [hcomplete]
  cases hreplies : s.replies cursor with
  | nil => rfl
  | cons first rest =>
      rw [hreplies] at horder
      simp only [List.map_cons, List.cons_append, List.cons_prefix_cons] at horder
      -- The RUN has been answered, and nothing else.
      have hrest : rest = [] := by
        cases rest with
        | nil => rfl
        | cons second rest =>
            have hlength := horder.2.length_le
            have hpositive := List.length_pos_of_mem hlater
            simp only [List.map_cons, List.length_append, List.length_cons, List.length_nil]
              at hlength
            omega
      rcases first with ⟨owner, exchange, part, ⟨rows, outcome⟩⟩
      obtain rfl : part = .run := horder.1
      subst hrest
      cases outcome <;> rfl

end

/-! ## Marks along the way -/

/-- A statement that has not been begun has not failed. -/
theorem Filed.mem_failureMarks {flavor : Flavor} {σ : Situation} (h : Filed flavor σ) {tx : Nat}
    {m : Mark} :
    m ∈ failureMarks σ.client tx ↔
      ∃ cursor e, σ.client.firstFailure? cursor = some (tx, e) ∧ m = e.mark := by
  rw [Scenario.mem_failureMarks]
  refine exists_congr fun cursor => ⟨fun ⟨_, e, he⟩ => ⟨e, he⟩, fun ⟨e, hfirst, hm⟩ => ?_⟩
  refine ⟨Nat.lt_of_not_le fun hc => ?_, e, hfirst, hm⟩
  have hnone := List.map_eq_nil_iff.1 (h.entries_eq_nil hc)
  rw [Client.firstFailure?, hnone] at hfirst
  cases hfirst

/-- As long as a transaction is open its state is the highest of its marks. -/
def Marked (ds : List (Nat × Deed)) (s : Client) : Prop :=
  ∀ tx, (s.stateOf tx).isTerminal = true ∨
    s.stateOf tx = State.joined (saidMarks tx ds ++ failureMarks s tx)

namespace Marked

variable {flavor : Flavor} {σ σ' : Situation} {ds : List (Nat × Deed)} {s : Client}
  {rs : List Request}

theorem start : Marked [] {} := by
  intro tx
  exact Or.inr (by simp [Client.stateOf, saidMarks, failureMarks, State.joined, State.raiseAll])

/-- Nothing is marked. -/
theorem eases (h : Marked ds σ.client) (hf : Filed flavor σ) (hf' : Filed flavor σ')
    (he : σ.client.Eases σ'.client)
    (hsame : ∀ cursor, σ'.client.firstFailure? cursor = σ.client.firstFailure? cursor) :
    Marked ds σ'.client := by
  intro tx
  -- The same statements have failed, though there may be more cursors now.
  have hjoined : State.joined (saidMarks tx ds ++ failureMarks σ'.client tx) =
      State.joined (saidMarks tx ds ++ failureMarks σ.client tx) := by
    refine State.raiseAll_eq_of_mem_iff (fun m => ?_) .active
    simp only [List.mem_append, hf.mem_failureMarks, hf'.mem_failureMarks, hsame]
  rcases he tx with heq | hterminal
  · rw [heq, hjoined]
    exact h tx
  · exact Or.inl hterminal

/-- More marks are made. -/
theorem raises {state state' : State} {ms ms' new : List Mark}
    (h : state.isTerminal = true ∨ state = State.joined ms) (hs : state' = state.raiseAll new)
    (hm : ∀ x, x ∈ ms' ↔ x ∈ ms ∨ x ∈ new) :
    state'.isTerminal = true ∨ state' = State.joined ms' := by
  rw [hs]
  rcases h with hterminal | rfl
  · exact Or.inl (by rwa [State.isTerminal_raiseAll])
  · exact Or.inr (State.raiseAll_of_union hm .active).symm

/-- What the application says of a transaction shows in its own state. -/
theorem stateOf_apply {place : Nat} (ht : place < s.transactions.length) (d : Deed) (tx : Nat) :
    (s.updateTransaction place d.apply).stateOf tx =
      (s.stateOf tx).raiseAll (saidMarks tx [(place, d)]) := by
  obtain ⟨t, hplace⟩ : ∃ t, s.transactions[place]? = some t := ⟨_, List.getElem?_eq_getElem ht⟩
  rw [Client.stateOf_updateTransaction]
  by_cases hp : place = tx
  · subst hp
    rw [Client.stateOf_of_getElem? hplace]
    cases d with
    | mark m => simp [hplace, saidMarks, Deed.apply, State.raiseAll]
    | bookmark b =>
        have hkept : (t.setBookmark b).state = t.state := by
          unfold Transaction.setBookmark
          split <;> rfl
        simp [hplace, saidMarks, Deed.apply, State.raiseAll, hkept]
  · cases d <;> simp [hp, saidMarks, State.raiseAll]

theorem tells (h : Marked ds s) {place : Nat} (ht : place < s.transactions.length) (d : Deed) :
    Marked (ds ++ [(place, d)]) (s.updateTransaction place d.apply) := by
  intro tx
  refine raises (h tx) (stateOf_apply ht d tx) fun m => ?_
  have hfailures : failureMarks (s.updateTransaction place d.apply) tx = failureMarks s tx := rfl
  rw [hfailures, saidMarks, List.filterMap_append]
  simp only [List.mem_append, saidMarks]
  tauto

section

variable {before after : List Request} {r : Request} {cursor : Nat}

/-- A reply that is for no statement marks nothing. -/
theorem answers_of_other (h : Marked ds s) (hf : Filed flavor ⟨before ++ r :: after, s⟩)
    (reply : Reply) (others : List Request) (ht : InTurn before r)
    (hr : ∀ cursor, r.exchange ≠ .statement cursor)
    (hb : ∀ handle, r.handler = .begun handle → ¬ s.Claimed r.owner) :
    Marked ds (answered before after s others { r with reply := reply }).client := by
  have hsuits : ({ r with reply := reply } : Request).Suits flavor :=
    (hf.suits r (List.mem_append_right _ (List.mem_cons_self ..))).withReply reply
  have heases : s.Eases (answered before after s others { r with reply := reply }).client :=
    (Client.Eases.answer others hsuits hr hb).trans (.start _ _)
  refine h.eases hf (hf.answers ht reply others) heases fun cursor => ?_
  simp [firstFailure?_answered, hr cursor]

/-- The first failure of a statement counts as if it had been said of its transaction. -/
def heard (s : Client) (cursor : Nat) (r : Request) : List (Nat × Deed) :=
  match s.firstFailure? cursor, r.reply.outcome with
  | none, .failure e => [(r.owner, .mark e.mark)]
  | _, _ => []

theorem stateOf_answered (hf : Filed flavor ⟨before ++ r :: after, s⟩)
    (hr : r.exchange = .statement cursor) (reply : Reply) (others : List Request) (tx : Nat) :
    (answered before after s others { r with reply := reply }).client.stateOf tx =
      (s.stateOf tx).raiseAll (saidMarks tx (heard s cursor { r with reply := reply })) := by
  have hmem : r ∈ before ++ r :: after := List.mem_append_right _ (List.mem_cons_self ..)
  obtain ⟨c, hc⟩ : ∃ c, s.cursors[cursor]? = some c :=
    ⟨_, List.getElem?_eq_getElem (hf.lt_of_mem hmem hr)⟩
  have hcomplete := hf.isComplete_eq hr hc
  have hstarted : (answered before after s others { r with reply := reply }).client.transactions =
      (s.answer others { r with reply := reply }).1.transactions :=
    Nonblocking.transactions_start _ _
  have htransactions := hstarted.trans
    (Client.transactions_answer_of_statement ((hf.suits r hmem).withReply reply) hr hc others)
  have hsame : (answered before after s others { r with reply := reply }).client.transactions =
      s.transactions → (answered before after s others { r with reply := reply }).client.stateOf tx =
        s.stateOf tx :=
    congrArg fun ts : List Transaction => (ts[tx]?.map Transaction.state).getD .active
  rcases reply with ⟨rows, outcome⟩
  unfold heard
  cases hfirst : s.firstFailure? cursor with
  | some failure =>
      -- The stream has ended with that failure, and a later one is lost.
      rw [hfirst] at hcomplete
      exact hsame (htransactions.trans (by cases outcome <;> simp [hcomplete]))
  | none =>
      rw [hfirst] at hcomplete
      cases outcome with
      | success metadata => exact hsame htransactions
      | dropped => exact hsame htransactions
      | failure e =>
          simp only [hcomplete, Option.isSome_none, Bool.false_eq_true, if_false] at htransactions
          have hmarked : (answered before after s others
              { r with reply := ⟨rows, .failure e⟩ }).client.stateOf tx =
                (s.updateTransaction r.owner (Transaction.resultFailed e)).stateOf tx :=
            congrArg (fun ts : List Transaction => (ts[tx]?.map Transaction.state).getD .active)
              htransactions
          rw [hmarked, ← apply_mark_error, stateOf_apply (hf.owners r hmem)]

theorem mem_failureMarks_answered (hf : Filed flavor ⟨before ++ r :: after, s⟩)
    (ht : InTurn before r) (hr : r.exchange = .statement cursor) (reply : Reply)
    (others : List Request) (tx : Nat) (m : Mark) :
    m ∈ failureMarks (answered before after s others { r with reply := reply }).client tx ↔
      m ∈ failureMarks s tx ∨ m ∈ saidMarks tx (heard s cursor { r with reply := reply }) := by
  rw [(hf.answers ht reply others).mem_failureMarks, hf.mem_failureMarks]
  simp only [firstFailure?_answered, hr]
  rcases reply with ⟨rows, outcome⟩
  constructor
  · rintro ⟨place, e, hfirst, rfl⟩
    cases hold : s.firstFailure? place with
    | some failure =>
        rw [hold] at hfirst
        exact Or.inl ⟨place, e, hold.trans hfirst, rfl⟩
    | none =>
        rw [hold] at hfirst
        by_cases hp : cursor = place
        · subst hp
          cases outcome <;> simp [Outcome.failure?] at hfirst
          rcases hfirst with ⟨rfl, rfl⟩
          exact Or.inr (by simp [heard, hold, saidMarks])
        · simp [hp] at hfirst
  · rintro (⟨place, e, hfirst, rfl⟩ | hheard)
    · exact ⟨place, e, by simp [hfirst], rfl⟩
    · unfold heard at hheard
      cases hold : s.firstFailure? cursor with
      | some failure => simp [hold, saidMarks] at hheard
      | none =>
          cases outcome <;> simp [hold, saidMarks] at hheard
          rcases hheard with ⟨rfl, rfl⟩
          exact ⟨cursor, _, by simp [hold, Outcome.failure?], rfl⟩

theorem answers (h : Marked ds s) (hf : Filed flavor ⟨before ++ r :: after, s⟩) (reply : Reply)
    (others : List Request) (ht : InTurn before r)
    (hb : ∀ handle, r.handler = .begun handle → ¬ s.Claimed r.owner) :
    Marked ds (answered before after s others { r with reply := reply }).client := by
  by_cases hother : ∀ cursor, r.exchange ≠ .statement cursor
  · exact h.answers_of_other hf reply others ht hother hb
  · obtain ⟨cursor, hr⟩ : ∃ cursor, r.exchange = .statement cursor := by simpa using hother
    intro tx
    refine raises (h tx) (stateOf_answered hf hr reply others tx) fun m => ?_
    rw [List.mem_append, List.mem_append, mem_failureMarks_answered hf ht hr, or_assoc]

end

theorem stride (h : Marked ds σ.client) (hf : Filed flavor σ) {d : Option (Nat × Deed)}
    (hd : Stride flavor d σ σ') : Marked (ds ++ d.toList) σ'.client := by
  have hf' := hf.stride hd
  cases hd with
  | apart ha =>
      rw [Option.toList_none, List.append_nil]
      refine h.eases hf hf' ha.eases fun cursor => ?_
      unfold Client.firstFailure? Client.replies
      rw [ha.receipts]
  | tells ht d => exact h.tells ht d
  | begins tx statement name =>
      rw [Option.toList_none, List.append_nil]
      exact h.eases hf hf' (.of_transactions rfl) fun _ => rfl
  | sends hs he hc ho hnext =>
      rw [Option.toList_none, List.append_nil]
      exact h
  | answers reply others ht hb =>
      rw [Option.toList_none, List.append_nil]
      exact h.answers hf reply others ht hb

theorem strides (h : Marked ds σ.client) (hf : Filed flavor σ) {ds' : List (Nat × Deed)}
    (hd : Strides flavor ds' σ σ') : Marked (ds ++ ds') σ'.client := by
  induction hd with
  | refl => simpa using h
  | tail hds hd ih =>
      rw [← List.append_assoc]
      exact (ih h hf).stride (hf.strides hds) hd

end Marked

/-! ## Every run -/

/-- All the marks that have been made of a transaction in a run. -/
def marksOf (flavor : Flavor) (steps : List Step) (tx : Nat) : List Mark :=
  saidMarks tx (deedsOf flavor {} steps) ++ failureMarks (after flavor {} steps) tx

theorem marked_after (flavor : Flavor) (steps : List Step) :
    Marked (deedsOf flavor {} steps) (after flavor {} steps) :=
  Marked.start.strides Filed.start (strides_after flavor steps)

/-- An open transaction is as the marks have left it, whatever their order was. -/
structure Joins (flavor : Flavor) (steps : List Step) (tx : Nat) (t : Transaction) : Prop where
  joined : t.state = State.joined (marksOf flavor steps tx)
  /-- It is the highest of them, or there were none. -/
  among : t.state = .active ∨ ∃ m ∈ marksOf flavor steps tx, t.state = m.state
  highest : ∀ m ∈ marksOf flavor steps tx, m.state.rank ≤ t.state.rank
  /-- The same marks leave the same state, in whatever run they were made. -/
  same : ∀ (flavor' : Flavor) (steps' : List Step) (tx' : Nat) (t' : Transaction),
    (after flavor' {} steps').transactions[tx']? = some t' → t'.isOpen = true →
    (∀ m, m ∈ marksOf flavor' steps' tx' ↔ m ∈ marksOf flavor steps tx) → t'.state = t.state
  climbs : ∀ later : List Step, ∃ t' : Transaction,
    (after flavor {} (steps ++ later)).transactions[tx]? = some t' ∧ t.state.Climbs t'.state

theorem state_of_open {flavor : Flavor} {steps : List Step} {tx : Nat} {t : Transaction}
    (ht : (after flavor {} steps).transactions[tx]? = some t) (ho : t.isOpen = true) :
    t.state = State.joined (marksOf flavor steps tx) := by
  have hstate := Client.stateOf_of_getElem? ht
  rw [← hstate]
  refine (marked_after flavor steps tx).resolve_left fun hterminal => ?_
  rw [hstate] at hterminal
  simp [Transaction.isOpen, State.isOpen, hterminal] at ho

/-- In every run an open transaction is in the highest state of its marks; and a cell that is marked
and ended in any order keeps what the first call that ended it has set. -/
theorem open_state_joined (flavor : Flavor) (steps : List Step) {tx : Nat} {t : Transaction}
    (ht : (after flavor {} steps).transactions[tx]? = some t) (ho : t.isOpen = true) :
    Joins flavor steps tx t ∧
      ∀ (c : Cell) (calls : List Cell.Step), c.state.isTerminal = false →
        (∀ call ∈ calls, call.isOrderly = true) → c.Decided calls := by
  have hjoined := state_of_open ht ho
  refine ⟨⟨hjoined, ?_, ?_, ?_, ?_⟩, fun c calls hc hcalls => Cell.decided_of_orderly hc hcalls⟩
  · rw [hjoined]
    exact State.joined_mem _
  · intro m hm
    rw [hjoined]
    exact State.rank_le_joined hm
  · intro flavor' steps' tx' t' ht' ho' hsame
    rw [state_of_open ht' ho', hjoined]
    exact State.raiseAll_eq_of_mem_iff hsame .active
  · intro later
    rw [after_append]
    rcases (grows_after flavor _ later).transactions tx t ht with ⟨t', ht', hgrows⟩
    exact ⟨t', ht', hgrows.state⟩

/-- A statement is under way, the application is content, and another statement cannot be sent. Then
the failure of the first one comes, too late to make a difference. -/
def racing : List Step :=
  [.script ⟨"A", some { outcome := .failure (.server "Neo.ClientError.Statement.SyntaxError" "no") },
      none⟩,
    .begin { tx := "t", config := .settings [], reported := true, bookmarkOf := none
             handle := "b" },
    .run "t" "A" [] (some "first"), .success "t",
    .failSends { error := .connection "gone" }, .run "t" "B" [] none, .deliver none]

theorem open_state_joined_of_racing :
    ∃ t : Transaction, (after .blocking {} racing).transactions[0]? = some t ∧ t.isOpen = true ∧
      Joins .blocking racing 0 t ∧ marksOf .blocking racing 0 = [.success, .failed, .failure] ∧
      t.state = .failed ∧
      Cell.Decided {} [.markFailure, .finalize .rolledBack, .markFailed, .finalize .committed] :=
  have hplace : (after .blocking {} racing).transactions[0]? = some _ := rfl
  have h := open_state_joined .blocking racing hplace rfl
  ⟨_, hplace, rfl, h.1, rfl, rfl, h.2 {} _ rfl (by decide)⟩

end Scenario

end ClientTransaction
