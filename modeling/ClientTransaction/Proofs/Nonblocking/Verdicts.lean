import ClientTransaction.Proofs.Nonblocking.Advances
import ClientTransaction.Proofs.Scenario.Filing

/-!
# Nonblocking.Verdicts — what there is to learn of a stream

There is something to learn of a stream when a reply has ended it, or when nobody holds its cursor
any more, so that it will have no outcome. An advance concerns one cursor at most, and what there is
to learn stands.
-/

namespace ClientTransaction

/-! ## What there is to learn -/

namespace Cursor

variable {c : Cursor} {held : Bool}

@[simp]
theorem verdict?_dismiss (held held' : Bool) (c : Cursor) :
    (c.dismiss held).verdict? held' = c.verdict? held' := by
  simp [verdict?]

theorem verdict?_of_outcome {outcome : Except Error Params} (h : c.outcome = some outcome)
    (held : Bool) : c.verdict? held = some (outcome.map Payload.summary) := by
  simp [verdict?, h]

/-- What there is to learn is the outcome, or that there will be none. -/
theorem verdict?_eq_some {result : Except Error Payload} :
    c.verdict? held = some result ↔
      (∃ outcome, c.outcome = some outcome ∧ result = outcome.map Payload.summary) ∨
        c.outcome = none ∧ c.name = none ∧ held = false ∧ result = .error .completionDropped := by
  unfold verdict?
  cases c.outcome with
  | some outcome => simp [eq_comm]
  | none => cases c.name <;> cases held <;> simp [eq_comm]

end Cursor

namespace Nonblocking

open Scenario

/-- A request that is outstanding holds the cursor. -/
def Situation.holds (σ : Situation) (cursor : Nat) : Bool :=
  σ.outstanding.any fun r => r.holdsCursor cursor

/-- What there is to learn of a cursor. -/
def Situation.verdict? (σ : Situation) (cursor : Nat) : Option (Except Error Payload) :=
  σ.client.cursors[cursor]?.bind (Cursor.verdict? (σ.holds cursor))

/-! ## Who is concerned -/

section

variable {σ σ' : Situation} {rs new before after : List Request} {s s' : Client} {r : Request}
  {cursor place : Nat} {c : Cursor}

theorem Situation.Fits.holds_iff (hf : σ.Fits) :
    σ.holds cursor = true ↔ ∃ r ∈ σ.outstanding, r.exchange = .statement cursor := by
  simp only [Situation.holds, List.any_eq_true]
  constructor
  · rintro ⟨r, hr, hholds⟩
    exact ⟨r, hr, ((hf r hr).holdsCursor_iff cursor).1 hholds⟩
  · rintro ⟨r, hr, hstatement⟩
    exact ⟨r, hr, ((hf r hr).holdsCursor_iff cursor).2 hstatement⟩

theorem Situation.verdict?_eq (hc : σ.client.cursors[cursor]? = some c) :
    σ.verdict? cursor = c.verdict? (σ.holds cursor) := by
  simp [Situation.verdict?, hc]

/-- As long as someone waits for a cursor, there is nothing to learn. -/
theorem Attended.verdict?_eq_none (ha : Attended σ) (hc : σ.client.cursors[cursor]? = some c)
    (hw : c.waiters ≠ []) : σ.verdict? cursor = none := by
  rw [Situation.verdict?_eq hc, Cursor.verdict?_eq_none]
  refine ⟨(ha.tidy cursor c hc).outcome_eq_none hw, (ha.held cursor c hc hw).imp_right ?_⟩
  rintro ⟨part, hpos⟩
  rcases List.countP_pos_iff.1 hpos with ⟨r, hr, hstatement⟩
  exact ha.fits.holds_iff.2 ⟨r, hr, (of_decide_eq_true hstatement).1⟩

/-- No stream is heard of, no cursor is let go, and no handle is told anything of a stream. -/
structure Undisturbed (σ σ' : Situation) : Prop where
  cursors : ∀ (place : Nat) (c : Cursor), σ.client.cursors[place]? = some c →
    ∃ c' : Cursor, σ'.client.cursors[place]? = some c' ∧ c'.outcome = c.outcome ∧
      c'.name = c.name ∧ c.waiters ⊆ c'.waiters
  /-- Nothing has come for a new cursor. -/
  born : ∀ (place : Nat) (c' : Cursor), σ.client.cursors.length ≤ place →
    σ'.client.cursors[place]? = some c' → c'.outcome = none
  holds : ∀ place, place < σ.client.cursors.length → σ'.holds place = σ.holds place
  entries : ∀ place, entries σ'.client place = entries σ.client place
  handles : ∀ (handle : Nat) (h : Handle Payload),
    (∀ r ∈ σ.outstanding, feeds? r.handler ≠ some handle) → σ.client.handles[handle]? = some h →
      ∃ h' : Handle Payload, σ'.client.handles[handle]? = some h' ∧ h.Ages h'

/-- One cursor changes, and whoever waits for it learns what there is to learn. -/
structure Concerns (cursor : Nat) (c : Cursor) (f : Cursor → Cursor) (σ σ' : Situation) : Prop where
  here : σ.client.cursors[cursor]? = some c
  served : Client.Served cursor c (fun c => (f c).dismiss (σ'.holds cursor))
    ((f c).verdict? (σ'.holds cursor)) σ.client σ'.client
  waiters : (f c).outcome = none → (f c).waiters = c.waiters
  stands : ∀ result, σ.verdict? cursor = some result →
    (f c).verdict? (σ'.holds cursor) = some result
  entries : ∃ new, entries σ'.client cursor = entries σ.client cursor ++ new ∧
    (f c).outcome = (c.outcome <|> new.findSome? conclusion?)
  apart : ∀ place, place ≠ cursor → σ'.holds place = σ.holds place ∧
    Scenario.entries σ'.client place = Scenario.entries σ.client place

/-! ### Things that concern no stream -/

/-- Cursors are as they were, and what is sent is for no statement. -/
theorem Undisturbed.of_cursors (hcursors : σ'.client.cursors = σ.client.cursors)
    (hholds : ∀ place, place < σ.client.cursors.length → σ'.holds place = σ.holds place)
    (hentries : ∀ place, Scenario.entries σ'.client place = Scenario.entries σ.client place)
    (hhandles : ∀ (handle : Nat) (h : Handle Payload),
      (∀ r ∈ σ.outstanding, feeds? r.handler ≠ some handle) → σ.client.handles[handle]? = some h →
        ∃ h' : Handle Payload, σ'.client.handles[handle]? = some h' ∧ h.Ages h') :
    Undisturbed σ σ' where
  cursors := by
    intro place c hc
    exact ⟨c, hcursors ▸ hc, rfl, rfl, fun _ => id⟩
  born := by
    intro place c' hle hc'
    rw [hcursors] at hc'
    exact absurd (List.getElem?_eq_some_iff.1 hc').1 (Nat.not_lt.2 hle)
  holds := hholds
  entries := hentries
  handles := hhandles

/-- Only the client changes. -/
theorem Undisturbed.of_client (hcursors : s'.cursors = s.cursors)
    (hreceipts : s'.receipts = s.receipts)
    (hhandles : ∀ (handle : Nat) (h : Handle Payload), s.handles[handle]? = some h →
      ∃ h' : Handle Payload, s'.handles[handle]? = some h' ∧ h.Ages h') :
    Undisturbed ⟨rs, s⟩ ⟨rs, s'⟩ :=
  .of_cursors hcursors (fun _ _ => rfl) (entries_eq_of_receipts hreceipts)
    fun handle h _ => hhandles handle h

/-- What is sent for no statement holds no cursor. -/
theorem holds_append (hnew : ∀ r ∈ new, r.holdsCursor place = false) :
    (rs ++ new).any (fun r => r.holdsCursor place) = rs.any fun r => r.holdsCursor place := by
  have hnone : new.any (fun r => r.holdsCursor place) = false := by
    simpa using hnew
  rw [List.any_append, hnone, Bool.or_false]

theorem Elsewhere.undisturbed (he : Elsewhere s σ) : Undisturbed (.of s) σ := by
  rcases he.sent with ⟨new, heq, hnew⟩
  refine .of_cursors he.spares.cursors (fun place _ => ?_)
    (entries_eq_of_receipts he.spares.receipts) fun handle h _ => he.spares.handles handle h
  rw [Situation.holds, heq]
  refine holds_append fun r hr => ?_
  rcases hnew r hr with ⟨hfits, hne, -⟩
  exact Bool.eq_false_iff.2 fun hholds => hne place ((hfits.holdsCursor_iff place).1 hholds)

/-- A statement is run: its cursor is a new one. -/
theorem undisturbed_asked (s : Client) (tx : Nat) (statement : String) (params : Params)
    (name : Option String) : Undisturbed (.of s) (asked s tx statement params name) where
  cursors := by
    intro place c hc
    exact ⟨c, (List.getElem?_append_left (List.getElem?_eq_some_iff.1 hc).1).trans hc, rfl, rfl,
      fun _ => id⟩
  born := by
    intro place c' hle hc'
    rcases getElem?_concat_cases hc' with ⟨-, rfl⟩ | hold
    · rfl
    · exact absurd (List.getElem?_eq_some_iff.1 hold).1 (Nat.not_lt.2 hle)
  holds := by
    intro place hlt
    refine holds_append fun r hr => ?_
    have hne : s.cursors.length ≠ place := fun heq => Nat.lt_irrefl _ (heq ▸ hlt)
    rcases (mem_requests hr).2.2 with hh | hh <;> simp [Request.holdsCursor, hh, hne]
  entries := entries_eq_of_receipts (Client.receipts_send _ _ _ _ _ _ _)
  handles := by
    intro handle h _ hh
    exact ⟨h, hh, .same h⟩

/-- A new handle is returned. -/
theorem undisturbed_consume (hc : s.cursors[cursor]? = some c) (name : Option String) :
    Undisturbed ⟨rs, s⟩ ⟨rs, consume s cursor name⟩ := by
  have hold : ∀ (handle : Nat) (h added : Handle Payload), s.handles[handle]? = some h →
      ∃ h' : Handle Payload, (s.handles ++ [added])[handle]? = some h' ∧ h.Ages h' := by
    intro handle h added hh
    exact ⟨h, (List.getElem?_append_left (List.getElem?_eq_some_iff.1 hh).1).trans hh, .same h⟩
  cases hout : c.outcome with
  | some outcome =>
      rw [consume_of_outcome hc hout]
      exact .of_client rfl rfl fun handle h => hold handle h _
  | none =>
      rw [consume_of_open hc hout]
      refine ⟨?_, ?_, fun _ _ => rfl, fun _ => rfl, fun handle h _ => hold handle h _⟩
      · intro place c₀ hc₀
        refine ⟨if cursor = place then c₀.await s.handles.length else c₀, ?_, ?_⟩
        · simp only [awaiting, Client.updateCursor, Client.addHandle, List.getElem?_modify]
          rw [hc₀]
          split <;> rfl
        · split
          · exact ⟨rfl, rfl, List.subset_append_left _ _⟩
          · exact ⟨rfl, rfl, fun _ => id⟩
      · intro place c' hle hc'
        have hlength : (awaiting s cursor name).cursors.length = s.cursors.length := by
          simp [awaiting]
        exact absurd (List.getElem?_eq_some_iff.1 hc').1 (Nat.not_lt.2 (hlength ▸ hle))

/-! ### Replies -/

/-- What follows from a handler holds no cursor. -/
theorem holdsCursor_opening (rollback : Option Rollback) (hr : r ∈ s.opening rollback) :
    r.holdsCursor place = false := by
  refine Bool.eq_false_iff.2 fun hholds => ?_
  have hnone := Client.cursor?_opening hr
  rw [((fits_opening rollback hr).holdsCursor_iff place).1 hholds] at hnone
  cases hnone

theorem holds_answered_of_ne (hf : r.Fits) (reply : Reply) (others : List Request)
    (hne : r.exchange ≠ .statement place) :
    (answered before after s others { r with reply := reply }).holds place =
      Situation.holds ⟨before ++ r :: after, s⟩ place := by
  have hother : r.holdsCursor place = false :=
    Bool.eq_false_iff.2 fun hholds => hne ((hf.holdsCursor_iff place).1 hholds)
  unfold Situation.holds
  rw [answered, holds_append fun q hq => holdsCursor_opening _ hq]
  simp [hother]

/-- The handler of a reply sees whether another request holds the cursor. -/
theorem holds_answered (hf : Situation.Fits ⟨before ++ r :: after, s⟩) (reply : Reply)
    {others : List Request} (ho : others ⊆ before ++ after)
    (hall : ∀ q ∈ before ++ after, q.exchange = .statement cursor → q ∈ others) :
    (answered before after s others { r with reply := reply }).holds cursor =
      others.any fun q => q.holdsCursor cursor := by
  unfold Situation.holds
  rw [answered, holds_append fun q hq => holdsCursor_opening _ hq, Bool.eq_iff_iff]
  simp only [List.any_eq_true]
  constructor
  · rintro ⟨q, hq, hholds⟩
    have hmem : q ∈ before ++ r :: after :=
      List.mem_append.2 ((List.mem_append.1 hq).imp_right (List.mem_cons_of_mem r))
    exact ⟨q, hall q hq (((hf q hmem).holdsCursor_iff cursor).1 hholds), hholds⟩
  · rintro ⟨q, hq, hholds⟩
    exact ⟨q, ho hq, hholds⟩

/-- A reply to something else than a statement. -/
theorem undisturbed_answered (ha : Attended ⟨before ++ r :: after, s⟩) (reply : Reply)
    (others : List Request) (hne : ∀ cursor, r.exchange ≠ .statement cursor) :
    Undisturbed ⟨before ++ r :: after, s⟩
      (answered before after s others { r with reply := reply }) := by
  have hmem : r ∈ before ++ r :: after := List.mem_append_right _ (List.mem_cons_self ..)
  have hfits : r.Fits := ha.fits r hmem
  refine .of_cursors (cursors_answered_of_other others hfits hne)
    (fun place _ => holds_answered_of_ne hfits reply others (hne place)) (fun place => ?_) ?_
  · rw [Filed.entries_answered, if_neg (hne place), List.append_nil]
  · intro handle h hfed hh
    have hsame : (answered before after s others { r with reply := reply }).client.handles[
        handle]? = s.handles[handle]? := handles_answered others hfits hne (hfed r hmem)
    exact ⟨h, hsame.trans hh, .same h⟩

/-- A reply to a statement. As long as it was outstanding, its cursor was held. -/
theorem concerns_answered (ha : Attended ⟨before ++ r :: after, s⟩) (reply : Reply)
    {others : List Request} (ho : others ⊆ before ++ after)
    (hall : ∀ q ∈ before ++ after, q.exchange = .statement cursor → q ∈ others)
    (hr : r.exchange = .statement cursor) :
    ∃ c, Concerns cursor c (Cursor.receive { r with reply := reply }) ⟨before ++ r :: after, s⟩
      (answered before after s others { r with reply := reply }) := by
  have hmem : r ∈ before ++ r :: after := List.mem_append_right _ (List.mem_cons_self ..)
  have hsuits : r.Suits .nonblocking := ⟨Or.inl (ha.fits r hmem), fun h => by cases h⟩
  rcases served_answered ha reply others hr with ⟨c, hc, hserved⟩
  have houtcome : ∀ c : Cursor, (c.receive { r with reply := reply }).outcome =
      (c.outcome <|> conclusion? (r.part, reply)) := by
    intro c
    rw [(hsuits.withReply reply).receive_eq_enter hr]
    exact outcome_enter c _
  have hheld := holds_answered (s := s) ha.fits reply ho hall
  refine ⟨c, hc, ?_, Cursor.waiters_receive, ?_, ⟨[(r.part, reply)], ?_, ?_⟩, ?_⟩
  · rw [hheld]
    exact hserved
  · intro result hverdict
    rw [Situation.verdict?_eq hc, ha.fits.holds_iff.2 ⟨r, hmem, hr⟩, Cursor.verdict?_eq_some]
      at hverdict
    rcases hverdict with ⟨outcome, hout, rfl⟩ | ⟨-, -, hnot, -⟩
    · exact Cursor.verdict?_of_outcome (by rw [houtcome, hout]; rfl) _
    · cases hnot
  · rw [Filed.entries_answered, if_pos hr]
    rfl
  · rw [houtcome]
    simp only [List.findSome?_cons, List.findSome?_nil]
    cases conclusion? (r.part, reply) <;> rfl
  · intro place hp
    have hne : r.exchange ≠ .statement place := fun heq =>
      hp (Exchange.statement.inj (heq.symm.trans hr))
    refine ⟨holds_answered_of_ne (ha.fits r hmem) reply others hne, ?_⟩
    rw [Filed.entries_answered, if_neg hne, List.append_nil]

/-! ### Cursors that are let go -/

theorem concerns_dropCursor (ha : Attended (.of s)) (hc : s.cursors[cursor]? = some c) :
    Concerns cursor c (fun c => { c with name := none }) (.of s) (.of (s.dropCursor cursor)) := by
  have hcalm := Client.Calm.dropCursor s cursor
  have hholds : ∀ place, (Situation.of (s.dropCursor cursor)).holds place =
      (Situation.of s).holds place := by
    intro place
    simp only [Situation.holds, Situation.of, hcalm.connection]
  have hentries := entries_eq_of_receipts (Client.receipts_calm hcalm)
  refine ⟨hc, ?_, fun _ => rfl, ?_, ⟨[], ?_, by simp⟩, fun place _ => ⟨hholds place,
    hentries place⟩⟩
  · rw [hholds]
    exact served_dropCursor ha hc
  · intro result hverdict
    rw [Situation.verdict?_eq hc, Cursor.verdict?_eq_some] at hverdict
    rw [hholds, Cursor.verdict?_eq_some]
    rcases hverdict with hout | ⟨hout, -, hheld, hresult⟩
    · exact Or.inl hout
    · exact Or.inr ⟨hout, rfl, hheld, hresult⟩
  · rw [List.append_nil]
    exact hentries cursor

theorem undisturbed_dropCursor (hc : s.cursors[cursor]? = none) :
    Undisturbed (.of s) (.of (s.dropCursor cursor)) := by
  have hcalm := Client.Calm.dropCursor s cursor
  have hsame := dropCursor_of_none hc
  refine .of_cursors hsame.1 (fun place _ => ?_)
    (entries_eq_of_receipts (Client.receipts_calm hcalm)) fun handle h _ hh =>
      ⟨h, (congrArg (·[handle]?) hsame.2).trans hh, .same h⟩
  simp only [Situation.holds, Situation.of, hcalm.connection]

/-! ### Advances -/

theorem Advance.undisturbed_or_concerns {qs : List Consumption} (h : Advance qs σ σ')
    (ha : Attended σ) : Undisturbed σ σ' ∨ ∃ cursor c f, Concerns cursor c f σ σ' := by
  cases h with
  | @opens s step σ ho hq =>
      cases ho.dealing with
      | elsewhere _ he => exact Or.inl he.undisturbed
      | run name statement params result tx =>
          exact Or.inl (undisturbed_asked s tx statement params result)
      | consume result name hname hc hn =>
          -- A summary is asked for in the other way.
          rw [consumption?, hname] at hq
          cases hq
      | dropResult result cursor =>
          cases hc : s.cursors[cursor]? with
          | none => exact Or.inl (undisturbed_dropCursor hc)
          | some c => exact Or.inr ⟨cursor, c, _, concerns_dropCursor ha hc⟩
      | setBookmark hset => exact Or.inl (.of_client rfl rfl fun _ h hh => ⟨h, hh, .same h⟩)
  | asks hc hheld name => exact Or.inl (undisturbed_consume hc name)
  | connect f => exact Or.inl (.of_client rfl rfl fun _ h hh => ⟨h, hh, .same h⟩)
  | flush tx =>
      exact Or.inl (.of_client rfl (Client.receipts_record _ rfl) fun _ h hh => ⟨h, hh, .same h⟩)
  | answer before after r reply others ho hall =>
      by_cases hstatement : ∃ cursor, r.exchange = .statement cursor
      · rcases hstatement with ⟨cursor, hr⟩
        rcases concerns_answered ha reply ho (hall cursor hr) hr with ⟨c, hconcerns⟩
        exact Or.inr ⟨cursor, c, _, hconcerns⟩
      · exact Or.inl (undisturbed_answered ha reply others fun cursor hr => hstatement ⟨cursor, hr⟩)

/-! ## What there is to learn, and when -/

variable {qs : List Consumption} {f : Cursor → Cursor}
  {result : Except Error Payload}

theorem Situation.lt_of_verdict? (h : σ.verdict? place = some result) :
    place < σ.client.cursors.length := by
  rcases Option.bind_eq_some_iff.1 h with ⟨c, hc, -⟩
  exact (List.getElem?_eq_some_iff.1 hc).1

theorem Undisturbed.verdict?_eq (h : Undisturbed σ σ') (hlt : place < σ.client.cursors.length) :
    σ'.verdict? place = σ.verdict? place := by
  have hc := List.getElem?_eq_getElem hlt
  rcases h.cursors place _ hc with ⟨c', hc', houtcome, hname, -⟩
  rw [Situation.verdict?_eq hc, Situation.verdict?_eq hc', h.holds place hlt]
  simp only [Cursor.verdict?, houtcome, hname]

theorem Concerns.getElem?_self (h : Concerns cursor c f σ σ') :
    σ'.client.cursors[cursor]? = some ((f c).dismiss (σ'.holds cursor)) := by
  rw [h.served.cursors, Client.getElem?_modify_self h.here]

theorem Concerns.getElem?_of_ne (h : Concerns cursor c f σ σ') (hne : place ≠ cursor) :
    σ'.client.cursors[place]? = σ.client.cursors[place]? := by
  rw [h.served.cursors, List.getElem?_modify]
  simp [Ne.symm hne]

theorem Concerns.verdict?_self (h : Concerns cursor c f σ σ') :
    σ'.verdict? cursor = (f c).verdict? (σ'.holds cursor) := by
  rw [Situation.verdict?_eq h.getElem?_self, Cursor.verdict?_dismiss]

theorem Concerns.verdict?_of_ne (h : Concerns cursor c f σ σ') (hne : place ≠ cursor) :
    σ'.verdict? place = σ.verdict? place := by
  unfold Situation.verdict?
  rw [h.getElem?_of_ne hne, (h.apart place hne).1]

/-- What there is to learn stands. -/
theorem Advance.verdict_stands (h : Advance qs σ σ') (ha : Attended σ)
    (hv : σ.verdict? place = some result) : σ'.verdict? place = some result := by
  rcases h.undisturbed_or_concerns ha with hu | ⟨cursor, c, f, hc⟩
  · rw [hu.verdict?_eq (Situation.lt_of_verdict? hv), hv]
  · by_cases hp : place = cursor
    · subst hp
      rw [hc.verdict?_self, hc.stands result hv]
    · rw [hc.verdict?_of_ne hp, hv]

/-- The outcome of a stream stands. -/
theorem Advance.outcome_stands (h : Advance qs σ σ') (ha : Attended σ)
    (hc : σ.client.cursors[place]? = some c) {outcome : Except Error Params}
    (ho : c.outcome = some outcome) :
    ∃ c' : Cursor, σ'.client.cursors[place]? = some c' ∧ c'.outcome = some outcome := by
  rcases h.undisturbed_or_concerns ha with hu | ⟨cursor, c₁, f, hconcerns⟩
  · rcases hu.cursors place c hc with ⟨c', hc', houtcome, -⟩
    exact ⟨c', hc', houtcome.trans ho⟩
  · by_cases hp : place = cursor
    · subst hp
      cases hconcerns.here.symm.trans hc
      rcases hconcerns.entries with ⟨new, -, houtcome⟩
      refine ⟨_, hconcerns.getElem?_self, ?_⟩
      rw [Cursor.outcome_dismiss, houtcome, ho]
      rfl
    · exact ⟨c, (hconcerns.getElem?_of_ne hp).trans hc, ho⟩

/-! ### The reply that ends a stream -/

/-- Each cursor has the outcome that the first reply brought which ended its stream. -/
def Situation.Concluded (σ : Situation) : Prop :=
  ∀ (cursor : Nat) (c : Cursor), σ.client.cursors[cursor]? = some c →
    c.outcome = (entries σ.client cursor).findSome? conclusion?

/-- Nothing has come for a statement that has not been run. -/
theorem Attended.entries_eq_nil (ha : Attended σ) (hle : σ.client.cursors.length ≤ cursor) :
    entries σ.client cursor = [] := by
  refine List.map_eq_nil_iff.2 (List.filter_eq_nil_iff.2 fun receipt hmem hstatement => ?_)
  have hfate : receipt.reply.outcome ∈ σ.client.fates cursor receipt.part :=
    List.mem_filterMap.2 ⟨receipt, hmem, by simp [Receipt.fate?, of_decide_eq_true hstatement]⟩
  have honce := ha.once cursor receipt.part
  rw [if_neg (Nat.not_lt.2 hle)] at honce
  rw [List.eq_nil_of_length_eq_zero (Nat.eq_zero_of_add_eq_zero_right honce)] at hfate
  cases hfate

theorem Undisturbed.concluded (h : Undisturbed σ σ') (ha : Attended σ) (hc : σ.Concluded) :
    σ'.Concluded := by
  intro place c' hc'
  rw [h.entries]
  by_cases hlt : place < σ.client.cursors.length
  · have hplace := List.getElem?_eq_getElem hlt
    rcases h.cursors place _ hplace with ⟨c₁, hc₁, houtcome, -⟩
    cases hc₁.symm.trans hc'
    rw [houtcome, hc place _ hplace]
  · have hle := Nat.not_lt.1 hlt
    rw [h.born place c' hle hc', ha.entries_eq_nil hle]
    rfl

theorem Concerns.concluded (h : Concerns cursor c f σ σ') (hc : σ.Concluded) : σ'.Concluded := by
  intro place c' hc'
  by_cases hp : place = cursor
  · subst hp
    cases h.getElem?_self.symm.trans hc'
    rcases h.entries with ⟨new, hnew, houtcome⟩
    rw [Cursor.outcome_dismiss, houtcome, hnew, List.findSome?_append, ← hc place c h.here]
    cases c.outcome <;> rfl
  · rw [h.getElem?_of_ne hp] at hc'
    rw [(h.apart place hp).2]
    exact hc place c' hc'

end

end Nonblocking

end ClientTransaction
