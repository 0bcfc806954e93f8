import ClientTransaction.Proofs.Nonblocking.Openings

/-!
# Nonblocking.Statements — a statement and its two replies

Every statement has one RUN and one PULL_ALL, and each of them is outstanding or has come to its
end, with a reply or without one. The stream of a statement has an outcome exactly if one of the
replies that came has ended it: a failure of either, or a success of the PULL_ALL. Whoever waits for
the outcome waits as long as there is none, and as long as the application or an outstanding request
holds the cursor.
-/

namespace ClientTransaction

/-- Whether a reply to a part of a statement ends the stream. -/
def Outcome.ends : Part → Outcome → Bool
  | _, .failure _ => true
  | .pullAll, .success _ => true
  | _, _ => false

/-- How the request for a part of a statement came to its end. -/
def Receipt.fate? (cursor : Nat) (part : Part) (r : Receipt) : Option Outcome :=
  if r.exchange = .statement cursor ∧ r.part = part then some r.reply.outcome else none

/-- How the requests for a part of a statement came to their ends. -/
def Client.fates (s : Client) (cursor : Nat) (part : Part) : List Outcome :=
  s.receipts.filterMap (Receipt.fate? cursor part)

/-- No reply has ended the stream of a statement. -/
def Client.GoesOn (s : Client) (cursor : Nat) : Prop :=
  ∀ part, ∀ outcome ∈ s.fates cursor part, outcome.ends part = false

/-- The number of requests for a part of a statement. -/
def askedFor (cursor : Nat) (part : Part) (rs : List Request) : Nat :=
  rs.countP fun r => r.exchange = .statement cursor ∧ r.part = part

/-! ## Cursors that get replies -/

namespace Cursor

variable {c : Cursor}

theorem outcome_settle (outcome : Except Error Params) (c : Cursor) :
    (c.settle outcome).outcome ≠ none := by
  unfold settle
  cases hcomplete : c.isComplete with
  | true => simpa [isComplete, Option.isSome_iff_ne_none] using hcomplete
  | false => simp [complete]

/-- The stream goes on after a reply if it went on before and the reply does not end it. -/
theorem outcome_receive {r : Request} {cursor : Nat} {part : Part}
    (h : r.handler.Fits (.statement cursor) part) (c : Cursor) :
    (c.receive r).outcome = none ↔ c.outcome = none ∧ r.reply.outcome.ends part = false := by
  rcases r with ⟨owner, exchange, part', handler, ⟨records, outcome⟩⟩
  cases h with
  | columns =>
      cases outcome with
      | success metadata => simp [receive, setKeys, Outcome.ends]
      | failure e => simp [receive, outcome_settle, Outcome.ends]
      | dropped => simp [receive, Outcome.ends]
  | rows =>
      cases outcome with
      | success metadata => simp [receive, outcome_settle, Outcome.ends]
      | failure e => simp [receive, outcome_settle, Outcome.ends]
      | dropped => simp [receive, outcome_pushAll, Outcome.ends]
  | ignore hne => exact absurd rfl (hne cursor)

@[simp]
theorem outcome_dismiss (held : Bool) (c : Cursor) : (c.dismiss held).outcome = c.outcome := by
  unfold dismiss
  split <;> rfl

@[simp]
theorem name_dismiss (held : Bool) (c : Cursor) : (c.dismiss held).name = c.name := by
  unfold dismiss
  split <;> rfl

/-- Whoever still waits has learned nothing, because somebody holds the cursor. -/
theorem of_mem_dismiss {held : Bool} {handle : Nat} (h : handle ∈ (c.dismiss held).waiters) :
    handle ∈ c.waiters ∧ c.verdict? held = none := by
  unfold dismiss at h
  cases hverdict : c.verdict? held with
  | none => simpa [hverdict] using h
  | some result => simp [hverdict] at h

theorem verdict?_eq_none {held : Bool} :
    c.verdict? held = none ↔ c.outcome = none ∧ (c.name.isSome = true ∨ held = true) := by
  unfold verdict?
  cases c.outcome with
  | some outcome => simp
  | none => cases c.name <;> cases held <;> simp

/-- A verdict tells an outcome, or that nobody holds the cursor. -/
theorem of_verdict? {held : Bool} {result : Except Error Payload}
    (h : c.verdict? held = some result) : c.outcome ≠ none ∨ c.name = none := by
  cases hout : c.outcome with
  | some outcome => exact Or.inl (by simp)
  | none =>
      have hnot : ¬ (c.name.isSome = true ∨ held = true) := fun hheld => by
        simp [verdict?_eq_none.2 ⟨hout, hheld⟩] at h
      exact Or.inr (by simpa using fun hname => hnot (Or.inl hname))

theorem mem_waiters_receive (h : c.Tidy) {r : Request} {handle : Nat}
    (hw : handle ∈ (c.receive r).waiters) : handle ∈ c.waiters := by
  have hgoes := (h.receive r).outcome_eq_none (List.ne_nil_of_mem hw)
  rwa [waiters_receive hgoes] at hw

end Cursor

namespace Nonblocking

open Scenario

/-! ## Statements under each operation -/

/-- Each statement has one request for each of its parts, outstanding or ended, and its cursor is as
the replies have left it. -/
structure Attended (σ : Situation) : Prop where
  fits : σ.Fits
  once : ∀ cursor part,
    (σ.client.fates cursor part).length + askedFor cursor part σ.outstanding =
      if cursor < σ.client.cursors.length then 1 else 0
  tidy : ∀ (cursor : Nat) (c : Cursor), σ.client.cursors[cursor]? = some c → c.Tidy
  outcome : ∀ (cursor : Nat) (c : Cursor), σ.client.cursors[cursor]? = some c →
    (c.outcome = none ↔ σ.client.GoesOn cursor)
  /-- Nobody waits for a cursor that nobody holds. -/
  held : ∀ (cursor : Nat) (c : Cursor), σ.client.cursors[cursor]? = some c → c.waiters ≠ [] →
    c.name.isSome = true ∨ ∃ part, 0 < askedFor cursor part σ.outstanding

section

variable {σ σ' : Situation} {s s' : Client} {rs new before after : List Request} {r : Request}

theorem askedFor_append (cursor : Nat) (part : Part) (rs new : List Request) :
    askedFor cursor part (rs ++ new) = askedFor cursor part rs + askedFor cursor part new :=
  List.countP_append

/-- Nothing is asked for by requests that are sent for no statement. -/
theorem askedFor_eq_zero (h : ∀ r ∈ new, ∀ cursor, r.exchange ≠ .statement cursor) (cursor : Nat)
    (part : Part) : askedFor cursor part new = 0 := by
  refine List.countP_eq_zero.2 fun r hr => ?_
  simp [h r hr cursor]

theorem askedFor_pos (hf : r.Fits) (hr : r ∈ rs) {cursor : Nat}
    (hh : r.holdsCursor cursor = true) : ∃ part, 0 < askedFor cursor part rs :=
  ⟨r.part, List.countP_pos_iff.2 ⟨r, hr, by simp [(hf.holdsCursor_iff cursor).1 hh]⟩⟩

theorem fates_eq_of_receipts (h : s'.receipts = s.receipts) (cursor : Nat) (part : Part) :
    s'.fates cursor part = s.fates cursor part := by
  rw [Client.fates, Client.fates, h]

theorem goesOn_iff_of_fates (h : ∀ cursor part, s'.fates cursor part = s.fates cursor part)
    (cursor : Nat) : s'.GoesOn cursor ↔ s.GoesOn cursor := by
  simp only [Client.GoesOn, h]

/-- Results and what is asked for are left alone. -/
theorem Attended.spared (h : Attended σ) (hf : σ'.Fits)
    (hcursors : σ'.client.cursors = σ.client.cursors)
    (hfates : ∀ cursor part, σ'.client.fates cursor part = σ.client.fates cursor part)
    (hasked : ∀ cursor part,
      askedFor cursor part σ'.outstanding = askedFor cursor part σ.outstanding) :
    Attended σ' where
  fits := hf
  once := by
    intro cursor part
    rw [hfates, hasked, hcursors, h.once]
  tidy := by
    rw [hcursors]
    exact h.tidy
  outcome := by
    intro cursor c hc
    rw [hcursors] at hc
    rw [h.outcome cursor c hc, goesOn_iff_of_fates hfates]
  held := by
    intro cursor c hc hw
    rw [hcursors] at hc
    simpa only [hasked] using h.held cursor c hc hw

theorem Attended.elsewhere (h : Attended (.of s)) (he : Elsewhere s σ) : Attended σ := by
  rcases he.sent with ⟨new, heq, hnew⟩
  have hfits : σ.Fits := by
    intro r hr
    exact fits_append h.fits (fun r hr => (hnew r hr).1) r (heq ▸ hr)
  refine h.spared hfits he.spares.cursors (fates_eq_of_receipts he.spares.receipts) ?_
  intro cursor part
  rw [heq, askedFor_append, askedFor_eq_zero fun r hr => (hnew r hr).2.1]
  rfl

/-! ### Replies -/

/-- One more reply has come. -/
theorem fates_answered (others : List Request) (cursor : Nat) (part : Part) :
    (answered before after s others r).client.fates cursor part =
      s.fates cursor part ++ (r.receipt.fate? cursor part).toList := by
  rw [Client.fates, receipts_answered, List.filterMap_append]
  cases hfate : r.receipt.fate? cursor part <;> simp [Client.fates, hfate]

theorem askedFor_answered (others : List Request) (cursor : Nat) (part : Part) :
    askedFor cursor part (answered before after s others r).outstanding =
      askedFor cursor part (before ++ after) := by
  have hopening : askedFor cursor part
      ((s.answer others r).1.opening (s.answer others r).2) = 0 := by
    refine askedFor_eq_zero (fun q hq other => ?_) cursor part
    cases hrollback : (s.answer others r).2 with
    | none => simp [hrollback, Client.opening] at hq
    | some rb =>
        rw [hrollback] at hq
        rw [(mem_requests hq).2.1]
        simp
  rw [answered, askedFor_append, hopening, Nat.add_zero]

/-- The request that is answered is one of those that were asked for. -/
theorem askedFor_split (cursor : Nat) (part : Part) (reply : Reply) :
    askedFor cursor part (before ++ r :: after) = askedFor cursor part (before ++ after) +
      (({ r with reply := reply } : Request).receipt.fate? cursor part).toList.length := by
  simp only [askedFor, List.countP_append, List.countP_cons, Receipt.fate?, Request.receipt]
  by_cases h : r.exchange = .statement cursor ∧ r.part = part
  · simp [h, Nat.add_assoc]
  · simp [h]

/-- A reply tells nothing of another statement. -/
theorem fate?_of_ne {cursor : Nat} (h : r.exchange ≠ .statement cursor) (part : Part) :
    r.receipt.fate? cursor part = none := by
  simp [Receipt.fate?, Request.receipt, h]

theorem fate?_eq_some {cursor : Nat} (h : r.exchange = .statement cursor) {part : Part}
    {outcome : Outcome} :
    r.receipt.fate? cursor part = some outcome ↔ r.part = part ∧ r.reply.outcome = outcome := by
  simp [Receipt.fate?, Request.receipt, h]

/-- The stream of a statement goes on after a reply to it if the reply does not end it. -/
theorem goesOn_answered (others : List Request) {cursor : Nat}
    (h : r.exchange = .statement cursor) :
    (answered before after s others r).client.GoesOn cursor ↔
      s.GoesOn cursor ∧ r.reply.outcome.ends r.part = false := by
  -- The new reply is the only one that was not there before.
  simp only [Client.GoesOn, fates_answered, List.mem_append, Option.mem_toList, fate?_eq_some h]
  constructor
  · intro hon
    exact ⟨fun part outcome ho => hon part outcome (Or.inl ho),
      hon r.part r.reply.outcome (Or.inr ⟨rfl, rfl⟩)⟩
  · rintro ⟨hon, hends⟩ part outcome (ho | ⟨rfl, rfl⟩)
    · exact hon part outcome ho
    · exact hends

theorem goesOn_answered_of_ne (others : List Request) {cursor : Nat}
    (h : r.exchange ≠ .statement cursor) :
    (answered before after s others r).client.GoesOn cursor ↔ s.GoesOn cursor := by
  simp only [Client.GoesOn, fates_answered, fate?_of_ne h, Option.toList_none, List.append_nil]

theorem cursors_start (s : Client) (rollback : Option Rollback) :
    (s.start rollback).cursors = s.cursors := by
  cases rollback <;> rfl

/-- A reply to something else than a statement leaves results alone. -/
theorem cursors_answered_of_other (others : List Request) (hf : r.Fits)
    (h : ∀ cursor, r.exchange ≠ .statement cursor) :
    (answered before after s others r).client.cursors = s.cursors := by
  refine (cursors_start _ _).trans ?_
  rcases r with ⟨owner, exchange, part, handler, reply⟩
  cases hf with
  | columns cursor => exact absurd rfl (h cursor)
  | rows cursor => exact absurd rfl (h cursor)
  | ignore => rfl
  | begin => rfl
  | begun handle => exact (Frame.answer s others rfl).cursors
  | committed done => exact (Frame.answer s others rfl).cursors
  | rolledBack done => exact (Frame.answer s others rfl).cursors

/-- The request for a part of a statement has a handler for its cursor. -/
theorem handler_of_statement (hf : r.Fits) {cursor : Nat} (h : r.exchange = .statement cursor) :
    r.handler = .columns cursor ∨ r.handler = .rows cursor := by
  rcases r with ⟨owner, exchange, part, handler, reply⟩
  dsimp only at h
  subst h
  cases hf with
  | columns => exact Or.inl rfl
  | rows => exact Or.inr rfl
  | ignore hne => exact absurd rfl (hne cursor)

/-- What a reply to a statement comes to. -/
theorem served_answered (h : Attended ⟨before ++ r :: after, s⟩) (reply : Reply)
    (others : List Request) {cursor : Nat} (hr : r.exchange = .statement cursor) :
    ∃ c, s.cursors[cursor]? = some c ∧ Client.Served cursor c
      (fun c => (c.receive { r with reply := reply }).dismiss
        (others.any fun q => q.holdsCursor cursor))
      ((c.receive { r with reply := reply }).verdict? (others.any fun q => q.holdsCursor cursor))
      s (answered before after s others { r with reply := reply }).client := by
  have hmem : r ∈ before ++ r :: after := List.mem_append_right _ (List.mem_cons_self ..)
  have hlt : cursor < s.cursors.length := by
    -- What is outstanding is asked for a statement that was run.
    have hasked : 0 < askedFor cursor r.part (before ++ r :: after) :=
      List.countP_pos_iff.2 ⟨r, hmem, by simp [hr]⟩
    have honce : (s.fates cursor r.part).length + askedFor cursor r.part (before ++ r :: after) =
        if cursor < s.cursors.length then 1 else 0 := h.once cursor r.part
    split at honce
    · assumption
    · omega
  have hc := List.getElem?_eq_getElem hlt
  have hserved := Client.served_answer others (r := { r with reply := reply })
    (handler_of_statement (h.fits r hmem) hr) hc (h.tidy cursor _ hc)
  exact ⟨_, hc, (cursors_start _ _).trans hserved.cursors, fun i => by
    rw [answered, handles_start, hserved.handles]⟩

/-- A reply to a statement. -/
theorem Attended.answer_statement (h : Attended ⟨before ++ r :: after, s⟩) (reply : Reply)
    {others : List Request} (ho : others ⊆ before ++ after) {cursor : Nat}
    (hr : r.exchange = .statement cursor) :
    Attended (answered before after s others { r with reply := reply }) := by
  have hmem : r ∈ before ++ r :: after := List.mem_append_right _ (List.mem_cons_self ..)
  rcases served_answered h reply others hr with ⟨c, hc, hserved⟩
  have hfit : r.handler.Fits (.statement cursor) r.part := hr ▸ h.fits r hmem
  have hlength : (answered before after s others { r with reply := reply }).client.cursors.length =
      s.cursors.length := by
    rw [hserved.cursors, List.length_modify]
  have hother : ∀ {place}, place ≠ cursor → r.exchange ≠ .statement place := by
    intro place hp heq
    exact hp (Exchange.statement.inj (heq.symm.trans hr))
  refine ⟨h.fits.move (.answer before after r reply others), ?_, ?_, ?_, ?_⟩
  · intro place part
    have honce : (s.fates place part).length + askedFor place part (before ++ r :: after) =
        if place < s.cursors.length then 1 else 0 := h.once place part
    rw [askedFor_split place part reply] at honce
    rw [fates_answered, askedFor_answered, List.length_append, hlength, ← honce]
    omega
  · intro place c' hc'
    rcases hserved.cases_of_getElem? hc hc' with ⟨rfl, rfl⟩ | ⟨hp, hc'⟩
    · exact ((h.tidy _ c hc).receive _).dismiss _
    · exact h.tidy place c' hc'
  · intro place c' hc'
    rcases hserved.cases_of_getElem? hc hc' with ⟨rfl, rfl⟩ | ⟨hp, hc'⟩
    · rw [Cursor.outcome_dismiss, Cursor.outcome_receive (r := { r with reply := reply }) hfit,
        h.outcome _ c hc]
      exact (goesOn_answered (r := { r with reply := reply }) others hr).symm
    · rw [h.outcome place c' hc']
      exact (goesOn_answered_of_ne (r := { r with reply := reply }) others (hother hp)).symm
  · intro place c' hc' hw
    simp only [askedFor_answered]
    rcases hserved.cases_of_getElem? hc hc' with ⟨rfl, rfl⟩ | ⟨hp, hc'⟩
    · -- Whoever still waits does so because the application or a request holds the cursor.
      rcases List.exists_mem_of_ne_nil _ hw with ⟨handle, hw⟩
      rcases Cursor.verdict?_eq_none.1 (Cursor.of_mem_dismiss hw).2 with ⟨-, hname | hheld⟩
      · exact Or.inl (by rw [Cursor.name_dismiss]; exact hname)
      · rcases List.any_eq_true.1 hheld with ⟨q, hq, hholds⟩
        have hq' : q ∈ before ++ r :: after := by
          rcases List.mem_append.1 (ho hq) with hq | hq
          · exact List.mem_append_left _ hq
          · exact List.mem_append_right _ (List.mem_cons_of_mem _ hq)
        exact Or.inr (askedFor_pos (h.fits q hq') (ho hq) hholds)
    · rcases h.held place c' hc' hw with hname | ⟨part, hpos⟩
      · exact Or.inl hname
      · refine Or.inr ⟨part, ?_⟩
        rwa [askedFor_split place part reply,
          fate?_of_ne (r := { r with reply := reply }) (hother hp)] at hpos

theorem Attended.answer (h : Attended ⟨before ++ r :: after, s⟩) (reply : Reply)
    {others : List Request} (ho : others ⊆ before ++ after) :
    Attended (answered before after s others { r with reply := reply }) := by
  by_cases hstatement : ∃ cursor, r.exchange = .statement cursor
  · rcases hstatement with ⟨cursor, hr⟩
    exact h.answer_statement reply ho hr
  · -- A reply to something else changes nothing for statements.
    have hmem : r ∈ before ++ r :: after := List.mem_append_right _ (List.mem_cons_self ..)
    have hne : ∀ cursor, r.exchange ≠ .statement cursor := by
      intro cursor hr
      exact hstatement ⟨cursor, hr⟩
    have hnone : ∀ cursor part,
        ({ r with reply := reply } : Request).receipt.fate? cursor part = none :=
      fun cursor => fate?_of_ne (hne cursor)
    refine h.spared (h.fits.move (.answer before after r reply others))
      (cursors_answered_of_other others (h.fits r hmem) hne) ?_ ?_
    · intro cursor part
      rw [fates_answered, hnone, Option.toList_none, List.append_nil]
    · intro cursor part
      rw [askedFor_answered, askedFor_split cursor part reply, hnone]
      rfl

theorem Attended.delivery (h : Attended σ) (hd : Delivery σ σ') : Attended σ' := by
  cases hd with
  | connect f => exact h.spared h.fits rfl (fun _ _ => rfl) fun _ _ => rfl
  | flush tx =>
      exact h.spared h.fits rfl (fates_eq_of_receipts (Client.receipts_record _ rfl)) fun _ _ => rfl
  | answer before after r reply others ho => exact h.answer reply ho

/-! ### Steps -/

/-- A statement is run: its two requests are outstanding. -/
theorem attended_asked (h : Attended (.of s)) (tx : Nat) (statement : String) (params : Params)
    (name : Option String) : Attended (asked s tx statement params name) := by
  have hfates : ∀ cursor part, (asked s tx statement params name).client.fates cursor part =
      s.fates cursor part :=
    fates_eq_of_receipts (Client.receipts_send _ _ _ _ _ _ _)
  have hasked : ∀ cursor part,
      askedFor cursor part (asked s tx statement params name).outstanding =
        askedFor cursor part s.connection.queue + if s.cursors.length = cursor then 1 else 0 := by
    intro cursor part
    rw [asked, askedFor_append]
    cases part <;> by_cases hp : s.cursors.length = cursor <;>
      simp [askedFor, Client.requests, hp]
  have honce := h.once
  simp only [Situation.of] at honce
  have hcursors : (asked s tx statement params name).client.cursors =
      s.cursors ++ [{ statement := statement, owner := tx, name := name }] := rfl
  refine ⟨fits_append h.fits fun _ => fits_requests (.columns _) (.rows _), ?_, ?_, ?_, ?_⟩
  · intro cursor part
    rw [hfates, hasked, hcursors, List.length_append, List.length_singleton, ← Nat.add_assoc,
      honce cursor part]
    -- It was run before, or is run now, or has not been run yet.
    rcases Nat.lt_trichotomy cursor s.cursors.length with hlt | rfl | hgt
    · simp [hlt, Nat.ne_of_gt hlt, Nat.lt_succ_of_lt hlt]
    · simp
    · have hle := Nat.succ_le_of_lt hgt
      simp [Nat.not_lt.2 hle, Nat.not_lt.2 (Nat.le_of_lt hgt), Nat.ne_of_lt hgt]
  · intro place c hc
    rcases getElem?_concat_cases (hcursors ▸ hc) with ⟨-, rfl⟩ | hc
    · exact fun _ => rfl
    · exact h.tidy place c hc
  · intro place c hc
    rw [goesOn_iff_of_fates hfates]
    rcases getElem?_concat_cases (hcursors ▸ hc) with ⟨rfl, rfl⟩ | hc
    · -- Nothing has been heard of a statement that had not been run.
      have hnone : ∀ part, s.fates s.cursors.length part = [] := by
        intro part
        have hold := honce s.cursors.length part
        simp only [Nat.lt_irrefl, if_false] at hold
        exact List.eq_nil_of_length_eq_zero (Nat.eq_zero_of_add_eq_zero_right hold)
      simp [Client.GoesOn, hnone]
    · exact h.outcome place c hc
  · intro place c hc hw
    rcases getElem?_concat_cases (hcursors ▸ hc) with ⟨-, rfl⟩ | hc
    · simp at hw
    · rcases h.held place c hc hw with hname | ⟨part, hpos⟩
      · exact Or.inl hname
      · refine Or.inr ⟨part, ?_⟩
        rw [hasked]
        exact Nat.lt_of_lt_of_le hpos (Nat.le_add_right _ _)

/-- A name stands for a cursor that the application holds. -/
theorem isSome_name_of_cursor? {result : String} {cursor : Nat} {c : Cursor}
    (hname : cursor? s result = some cursor) (hc : s.cursors[cursor]? = some c) :
    c.name.isSome = true := by
  rcases List.findIdx?_eq_some_iff_getElem.1 hname with ⟨hlt, hnamed, -⟩
  cases (List.getElem?_eq_getElem hlt).symm.trans hc
  simp [of_decide_eq_true hnamed]

/-- Someone begins to wait for a result that the application holds. -/
theorem attended_awaiting (h : Attended ⟨rs, s⟩) {cursor : Nat} {c : Cursor}
    (hc : s.cursors[cursor]? = some c) (hheld : c.name.isSome = true) (hn : c.outcome = none)
    (name : Option String) : Attended ⟨rs, awaiting s cursor name⟩ := by
  refine ⟨h.fits, ?_, ?_, ?_, ?_⟩
  · intro place part
    have hlength : (awaiting s cursor name).cursors.length = s.cursors.length := by
      simp [awaiting]
    simp only [hlength]
    exact h.once place part
  · intro place c' hc'
    rcases getElem?_modify_of_eq hc hc' with ⟨rfl, rfl⟩ | ⟨-, hc'⟩
    · intro hcomplete
      simp [Cursor.isComplete, Cursor.await, hn] at hcomplete
    · exact h.tidy place c' hc'
  · intro place c' hc'
    rcases getElem?_modify_of_eq hc hc' with ⟨rfl, rfl⟩ | ⟨-, hc'⟩
    · exact h.outcome _ c hc
    · exact h.outcome place c' hc'
  · intro place c' hc' hw
    rcases getElem?_modify_of_eq hc hc' with ⟨rfl, rfl⟩ | ⟨-, hc'⟩
    · exact Or.inl hheld
    · exact h.held place c' hc' hw

/-- The application lets a cursor go. -/
theorem served_dropCursor (h : Attended (.of s)) {cursor : Nat} {c : Cursor}
    (hc : s.cursors[cursor]? = some c) :
    Client.Served cursor c
      (fun c => ({ c with name := none } : Cursor).dismiss
        (s.connection.queue.any fun q => q.holdsCursor cursor))
      (({ c with name := none } : Cursor).verdict?
        (s.connection.queue.any fun q => q.holdsCursor cursor))
      s (s.dropCursor cursor) := by
  have hplace : (s.updateCursor cursor fun c => { c with name := none }).cursors[cursor]? =
      some { c with name := none } := by
    simp [hc]
  have hserved := Client.served_releaseCursor hplace (h.tidy cursor c hc) s.connection.queue
  refine ⟨?_, hserved.handles⟩
  rw [Client.dropCursor, hserved.cursors, (s.frame_updateCursor cursor _).2.1,
    List.modify_modify_eq]
  rfl

/-- Nothing happens to a cursor that is not there. -/
theorem dropCursor_of_none {cursor : Nat} (hc : s.cursors[cursor]? = none) :
    (s.dropCursor cursor).cursors = s.cursors ∧ (s.dropCursor cursor).handles = s.handles := by
  have hsame : s.cursors.modify cursor (fun c => { c with name := none }) = s.cursors :=
    List.modify_eq_self (List.getElem?_eq_none_iff.1 hc)
  have hnone :
      (s.updateCursor cursor fun c => { c with name := none }).cursors[cursor]? = none := by
    simp [hc]
  unfold Client.dropCursor Client.releaseCursor
  rw [hnone]
  split <;> exact ⟨hsame, rfl⟩

theorem attended_dropCursor (h : Attended (.of s)) (cursor : Nat) :
    Attended (.of (s.dropCursor cursor)) := by
  have hcalm := Client.Calm.dropCursor s cursor
  have hqueue : (s.dropCursor cursor).connection.queue = s.connection.queue := by
    rw [hcalm.connection]
  have hfates : ∀ place part, (s.dropCursor cursor).fates place part = s.fates place part :=
    fates_eq_of_receipts (Client.receipts_calm hcalm)
  cases hc : s.cursors[cursor]? with
  | none =>
      exact h.spared (by simpa only [Situation.of, Situation.Fits, hqueue] using h.fits)
        (dropCursor_of_none hc).1 hfates fun _ _ => by simp only [Situation.of, hqueue]
  | some c =>
      have hserved := served_dropCursor h hc
      have htidy : ({ c with name := none } : Cursor).Tidy := h.tidy cursor c hc
      refine ⟨by simpa only [Situation.of, Situation.Fits, hqueue] using h.fits, ?_, ?_, ?_, ?_⟩
      · intro place part
        simp only [Situation.of, hqueue, hfates, hserved.cursors, List.length_modify]
        exact h.once place part
      · intro place c' hc'
        rcases hserved.cases_of_getElem? hc hc' with ⟨rfl, rfl⟩ | ⟨-, hc'⟩
        · exact htidy.dismiss _
        · exact h.tidy place c' hc'
      · intro place c' hc'
        simp only [Situation.of, goesOn_iff_of_fates hfates]
        rcases hserved.cases_of_getElem? hc hc' with ⟨rfl, rfl⟩ | ⟨-, hc'⟩
        · rw [Cursor.outcome_dismiss]
          exact h.outcome _ c hc
        · exact h.outcome place c' hc'
      · intro place c' hc' hw
        simp only [Situation.of, hqueue]
        rcases hserved.cases_of_getElem? hc hc' with ⟨rfl, rfl⟩ | ⟨-, hc'⟩
        · -- Without a name, whoever waits waits for a request that holds the cursor.
          rcases List.exists_mem_of_ne_nil _ hw with ⟨handle, hw⟩
          rcases Cursor.verdict?_eq_none.1 (Cursor.of_mem_dismiss hw).2 with ⟨-, hname | hheld⟩
          · simp at hname
          · rcases List.any_eq_true.1 hheld with ⟨q, hq, hholds⟩
            exact Or.inr (askedFor_pos (h.fits q hq) hq hholds)
        · exact h.held place c' hc' hw

theorem Attended.dealing (h : Attended (.of s)) {step : Step} (hd : Dealing s step σ) :
    Attended σ := by
  cases hd with
  | elsewhere _ he => exact h.elsewhere he
  | run name statement params result tx => exact attended_asked h tx statement params result
  | consume result name hname hc hn =>
      exact attended_awaiting h hc (isSome_name_of_cursor? hname hc) hn name
  | dropResult result cursor => exact attended_dropCursor h cursor
  | setBookmark hset =>
      exact h.spared h.fits rfl (fun _ _ => rfl) fun _ _ => rfl

theorem Attended.deliveries (h : Attended σ) (hd : Deliveries σ σ') : Attended σ' := by
  induction hd with
  | refl => exact h
  | tail _ hd ih => exact ih.delivery hd

theorem Attended.perform (h : Attended (.of s)) (step : Step) :
    Attended (.of (perform .nonblocking s step).2) := by
  rcases deals_perform s step with ⟨σ, hdealing, hdeliveries⟩
  exact (h.dealing hdealing).deliveries hdeliveries

/-! ### Statements that nothing is outstanding for -/

/-- A request that is not outstanding has come to its end. -/
theorem Attended.exists_fate (h : Attended σ) {cursor : Nat}
    (hlt : cursor < σ.client.cursors.length) {part : Part}
    (hnone : askedFor cursor part σ.outstanding = 0) :
    ∃ outcome, σ.client.fates cursor part = [outcome] := by
  have honce := h.once cursor part
  simp only [hnone, hlt, if_true] at honce
  exact List.length_eq_one_iff.1 honce

/-- The stream goes on for good if the RUN did not fail and the PULL_ALL was given up. -/
theorem goesOn_iff_of_fates_eq {cursor : Nat} {run pull : Outcome}
    (hrun : s.fates cursor .run = [run]) (hpull : s.fates cursor .pullAll = [pull]) :
    s.GoesOn cursor ↔ run.failure? = none ∧ pull = .dropped := by
  constructor
  · intro hon
    have hends := hon .run run (by simp [hrun])
    have hends' := hon .pullAll pull (by simp [hpull])
    cases run <;> cases pull <;> simp [Outcome.ends, Outcome.failure?] at hends hends' ⊢
  · rintro ⟨hnofailure, rfl⟩ part outcome ho
    cases part with
    | run =>
        rw [hrun, List.mem_singleton] at ho
        subst ho
        cases outcome <;> simp [Outcome.ends, Outcome.failure?] at hnofailure ⊢
    | pullAll =>
        rw [hpull, List.mem_singleton] at ho
        subst ho
        rfl

end

/-! ## Runs -/

theorem attended_start : Attended (.of {}) where
  fits := by simp [Situation.Fits, Situation.of]
  once := by simp [Situation.of, Client.fates, Client.receipts, Client.seen, askedFor]
  tidy := by simp [Situation.of]
  outcome := by simp [Situation.of]
  held := by simp [Situation.of]

/-- After every run each statement is attended to. -/
theorem attended_after (steps : List Step) : Attended (.of (after .nonblocking {} steps)) := by
  have hrun : ∀ s, Attended (.of s) → Attended (.of (after .nonblocking s steps)) := by
    induction steps with
    | nil => exact fun _ h => h
    | cons step rest ih => exact fun s h => ih _ (h.perform step)
  exact hrun {} attended_start

end Nonblocking

end ClientTransaction
