import ClientTransaction.Proofs.Client.Tidings
import ClientTransaction.Proofs.Scenario.Filing

/-!
# Scenario.Overruns — replies to a stream that has ended

A stream ends with the first reply that is a failure or a success of the PULL_ALL. Its columns and
its outcome are those of that moment for good. But where the RUN has failed the PULL_ALL is still to
be answered, and that reply is not looked at any differently from others: its rows are added, and if
it is a success the transaction is told that the results have come, although it was told of the
failure.
-/

namespace ClientTransaction

namespace Client

/-- What was told of a statement, in order. -/
def told (s : Client) (cursor : Nat) : List Tiding :=
  s.tidings.filterMap fun t => if t.1 = cursor then some t.2 else none

end Client

namespace Scenario

open Nonblocking (Situation answered)

/-! ## What is told of replies -/

/-- What is told of a reply to a part of a statement; `ended` tells whether the stream had ended. -/
def heralds (ended : Bool) : Part × Reply → List Tiding
  | (.pullAll, ⟨_, .success _⟩) => [.fetched]
  | (_, ⟨_, .failure e⟩) => if ended then [] else [.failed e]
  | _ => []

/-- What is told of replies that come one after the other. -/
def heralded : Bool → List (Part × Reply) → List Tiding
  | _, [] => []
  | ended, entry :: rest =>
      heralds ended entry ++ heralded (ended || (conclusion? entry).isSome) rest

theorem heralded_append (ended : Bool) (received more : List (Part × Reply)) :
    heralded ended (received ++ more) =
      heralded ended received ++
        heralded (ended || (received.findSome? conclusion?).isSome) more := by
  induction received generalizing ended with
  | nil => simp [heralded]
  | cons entry rest ih =>
      rw [List.cons_append, heralded, ih, heralded, List.append_assoc, List.findSome?_cons]
      cases ended <;> cases conclusion? entry <;> rfl

section

variable {flavor : Flavor} {before after : List Request} {s : Client} {r : Request}

/-- A request for a statement tells what its reply says of it. -/
theorem tidingsOf_of_statement (h : r.Suits flavor) {cursor : Nat}
    (hr : r.exchange = .statement cursor) (s : Client) :
    s.tidingsOf r =
      (heralds (!s.streams cursor) r.receipt.entry).map fun tiding => (cursor, tiding) := by
  rcases r with ⟨owner, exchange, part, handler, ⟨rows, outcome⟩⟩
  rcases h.of_statement hr with ⟨hp, hh⟩ | ⟨hp, hh⟩
  · dsimp only at hp hh
    subst hp hh
    cases hs : s.streams cursor <;> cases outcome <;>
      simp [Client.tidingsOf, heralds, Receipt.entry, Request.receipt, hs]
  · dsimp only at hp hh
    subst hp hh
    cases hs : s.streams cursor <;> cases outcome <;>
      simp [Client.tidingsOf, heralds, Receipt.entry, Request.receipt, hs]

/-- Other requests tell nothing. -/
theorem tidingsOf_of_other (h : r.Suits flavor) (hr : ∀ cursor, r.exchange ≠ .statement cursor)
    (s : Client) : s.tidingsOf r = [] := by
  rcases h.fits with hf | ⟨-, hh, -, -⟩
  · rcases r with ⟨owner, exchange, part, handler, reply⟩
    cases hf with
    | columns cursor => exact absurd rfl (hr cursor)
    | rows cursor => exact absurd rfl (hr cursor)
    | _ => rfl
  · simp [Client.tidingsOf, hh]

/-- A reply tells of its statement what it says, and of no other statement anything. -/
theorem told_answered (h : r.Suits flavor) (others : List Request) (cursor : Nat) :
    (answered before after s others r).client.told cursor = s.told cursor ++
      if r.exchange = .statement cursor then heralds (!s.streams cursor) r.receipt.entry
      else [] := by
  have htidings : (answered before after s others r).client.tidings =
      s.tidings ++ s.tidingsOf r := (Client.tidings_start _ _).trans (s.tidings_answer others r)
  rw [Client.told, htidings, List.filterMap_append]
  congr 1
  by_cases hother : ∀ place, r.exchange ≠ .statement place
  · rw [tidingsOf_of_other h hother, if_neg (hother cursor)]
    rfl
  · obtain ⟨place, hplace⟩ : ∃ place, r.exchange = .statement place := by simpa using hother
    rw [tidingsOf_of_statement h hplace, hplace, List.filterMap_map]
    by_cases hp : place = cursor
    · subst hp
      simp only [Function.comp_def, ↓reduceIte, List.filterMap_some]
    · simp [hp]

end

/-- The stream of a statement has not ended as long as no reply ends it. -/
theorem Filed.streams_eq {flavor : Flavor} {σ : Situation} (h : Filed flavor σ) {cursor : Nat}
    (hc : cursor < σ.client.cursors.length) :
    σ.client.streams cursor = !((entries σ.client cursor).findSome? conclusion?).isSome := by
  have hplace := List.getElem?_eq_getElem hc
  rw [Client.streams, hplace, ← h.outcome_eq hplace]
  rfl

/-! ## What has been told -/

/-- After every run, of each statement that was told which its replies say. -/
theorem told_of_strides {flavor : Flavor} {ds : List (Nat × Deed)} {σ : Situation}
    (h : Strides flavor ds (.of {}) σ) (cursor : Nat) :
    σ.client.told cursor = heralded false (entries σ.client cursor) := by
  generalize hstart : Situation.of {} = start at h
  induction h with
  | refl => subst hstart; rfl
  | @tail ds d σ σ₁ σ₂ h hd ih =>
      have hf : Filed flavor σ₁ := Filed.start.strides (hstart ▸ h)
      have hbefore := ih hstart
      cases hd with
      | apart ha =>
          have htold : σ₂.client.told cursor = σ₁.client.told cursor := by
            rw [Client.told, ha.tidings, Client.told]
          have hentries : entries σ₂.client cursor = entries σ₁.client cursor := by
            rw [entries, Client.replies, ha.receipts, ← Client.replies, ← entries]
          rw [htold, hentries, hbefore]
      | tells | begins | sends => exact hbefore
      | @answers s before after r reply others =>
          have hmem : r ∈ before ++ r :: after := List.mem_append_right _ (List.mem_cons_self ..)
          rw [told_answered ((hf.suits r hmem).withReply reply), Filed.entries_answered,
            heralded_append, hbefore]
          by_cases hr : r.exchange = .statement cursor
          · simp only [hr, if_true, hf.streams_eq (hf.lt_of_mem hmem hr), Bool.not_not,
              Bool.false_or, heralded, List.append_nil]
          · simp only [hr, if_false, heralded]

/-- A cursor stays, and it gets what further replies bring and nothing else. -/
theorem entered_of_strides {flavor : Flavor} {ds : List (Nat × Deed)} {σ σ' : Situation}
    (hf : Filed flavor σ) (h : Strides flavor ds σ σ') {cursor : Nat} {c : Cursor}
    (hc : σ.client.results[cursor]? = some c) :
    ∃ late, entries σ'.client cursor = entries σ.client cursor ++ late ∧
      σ'.client.results[cursor]? = some (late.foldl Cursor.enter c) := by
  induction h with
  | refl => exact ⟨[], (List.append_nil _).symm, hc⟩
  | @tail ds d σ σ₁ σ₂ h hd ih =>
      obtain ⟨late, hentries, hresult⟩ := ih hf hc
      have hf₁ : Filed flavor σ₁ := hf.strides h
      cases hd with
      | apart ha =>
          refine ⟨late, ?_, ha.results ▸ hresult⟩
          rw [← hentries, entries, Client.replies, ha.receipts, ← Client.replies, ← entries]
      | tells | sends => exact ⟨late, hentries, hresult⟩
      | begins tx statement name =>
          refine ⟨late, hentries, ?_⟩
          have hlt := (List.getElem?_eq_some_iff.1 hresult).1
          simp only [Client.results, Client.addCursor, List.map_append] at hresult hlt ⊢
          rw [List.getElem?_append_left hlt]
          exact hresult
      | @answers s before after r reply others =>
          rw [hf₁.results_answered, Filed.entries_answered, hentries, hresult]
          by_cases hr : r.exchange = .statement cursor
          · refine ⟨late ++ [(r.part, reply)], ?_, ?_⟩
            · simp [hr, Receipt.entry, Request.receipt]
            · simp [hr]
          · exact ⟨late, by simp [hr], by simp [hr]⟩

/-! ## Replies to a stream that has ended -/

/-- The reply brings neither rows nor the end of the results. -/
def Vain (reply : Reply) : Prop :=
  reply.records = [] ∧ ∀ metadata, reply.outcome ≠ .success metadata

/-- What later replies do to a stream that has ended: `c` is its cursor at a moment after the end,
and `c'` at one after the replies. -/
structure Overrun (s s' : Client) (cursor : Nat) (c c' : Cursor) (late : List (Part × Reply)) :
    Prop where
  received : entries s' cursor = entries s cursor ++ late
  /-- Only a PULL_ALL comes late, and only where the RUN has failed. -/
  cause : late = [] ∨ ∃ run e pull, entries s cursor = [(.run, run)] ∧ run.outcome = .failure e ∧
    late = [(.pullAll, pull)]
  keys : c'.keys = c.keys
  outcome : c'.outcome = c.outcome
  records : c'.records =
    c.records ++ (late.flatMap fun entry => entry.2.records).map (Record.mk c.keys)
  told : s'.told cursor = s.told cursor ++ late.flatMap fun entry =>
    match entry.2.outcome with
    | .success _ => [.fetched]
    | _ => []

namespace Overrun

variable {s s' : Client} {cursor : Nat} {c c' : Cursor} {late : List (Part × Reply)}

/-- Nothing at all has changed exactly if what came late was in vain. -/
theorem frozen_iff (h : Overrun s s' cursor c c' late) :
    (c'.keys = c.keys ∧ c'.records = c.records ∧ c'.outcome = c.outcome ∧
      s'.told cursor = s.told cursor) ↔ ∀ entry ∈ late, Vain entry.2 := by
  simp only [h.keys, h.outcome, h.records, h.told, List.append_right_eq_self, true_and,
    List.map_eq_nil_iff, List.flatMap_eq_nil_iff]
  rw [← forall₂_and]
  refine forall₂_congr fun entry _ => and_congr_right fun _ => ?_
  cases entry.2.outcome <;> simp

end Overrun

/-- A stream that has ended gets at most one more reply, that to the PULL_ALL where the RUN has
failed. -/
theorem late_cases {received late : List (Part × Reply)}
    (hparts : (received ++ late).map Prod.fst <+: [.run, .pullAll])
    (hended : (received.findSome? conclusion?).isSome = true) :
    late = [] ∨ ∃ run e pull, received = [(.run, run)] ∧ run.outcome = .failure e ∧
      late = [(.pullAll, pull)] := by
  have hreceived : received.map Prod.fst <+: [.run, .pullAll] := by
    rw [List.map_append] at hparts
    exact (List.prefix_append _ _).trans hparts
  rcases cases_of_parts hreceived with rfl | ⟨⟨rows, outcome⟩, rfl⟩ | ⟨run, pull, rfl⟩
  · cases hended
  · rcases cases_of_parts hparts with h | ⟨run, h⟩ | ⟨run, pull, h⟩
    · cases h
    · exact .inl (List.cons.inj h).2
    · obtain ⟨rfl, rfl⟩ : ⟨rows, outcome⟩ = run ∧ late = [(.pullAll, pull)] := by simpa using h
      cases outcome with
      | failure e => exact .inr ⟨_, e, pull, rfl, rfl, rfl⟩
      | success | dropped => cases hended
  · have hlength := hparts.length_le
    simp only [List.map_append, List.length_append, List.length_map, List.length_cons,
      List.length_nil] at hlength
    exact .inl (List.eq_nil_of_length_eq_zero (by omega))

theorem pushAll_eq (rows : List (List Value)) (c : Cursor) :
    rows.foldl Cursor.push c = { c with records := c.records ++ rows.map (Record.mk c.keys) } := by
  induction rows generalizing c with
  | nil => simp
  | cons row rest ih =>
      rw [List.foldl_cons, ih]
      simp [Cursor.push]

/-- Replies to the PULL_ALL add rows to a stream that has ended, and nothing else. -/
theorem entered_ended {c : Cursor} (hdone : c.isComplete = true) {late : List (Part × Reply)}
    (hlate : ∀ entry ∈ late, entry.1 = .pullAll) :
    late.foldl Cursor.enter c =
      { c with records := c.records ++
          (late.flatMap fun entry => entry.2.records).map (Record.mk c.keys) } := by
  induction late generalizing c with
  | nil => simp
  | cons entry rest ih =>
      rcases entry with ⟨part, ⟨rows, outcome⟩⟩
      obtain rfl : part = .pullAll := hlate _ (List.mem_cons_self ..)
      have hentered : c.enter (.pullAll, ⟨rows, outcome⟩) = rows.foldl Cursor.push c := by
        have hfixed : ∀ given, (rows.foldl Cursor.push c).settle given = rows.foldl Cursor.push c :=
          fun given => if_pos (by rw [pushAll_eq]; exact hdone)
        cases outcome <;> simp only [Cursor.enter, hfixed]
      have hrest := ih (c := { c with records := c.records ++ rows.map (Record.mk c.keys) }) hdone
        fun entry he => hlate entry (List.mem_cons_of_mem _ he)
      rw [List.foldl_cons, hentered, pushAll_eq, hrest]
      simp [List.append_assoc]

/-- Of replies to the PULL_ALL only the successes are told where the stream has ended. -/
theorem heralded_ended {late : List (Part × Reply)} (hlate : ∀ entry ∈ late, entry.1 = .pullAll) :
    heralded true late = late.flatMap fun entry =>
      match entry.2.outcome with
      | .success _ => [.fetched]
      | _ => [] := by
  induction late with
  | nil => rfl
  | cons entry rest ih =>
      rcases entry with ⟨part, ⟨rows, outcome⟩⟩
      obtain rfl : part = .pullAll := hlate _ (List.mem_cons_self ..)
      rw [heralded, Bool.true_or, ih fun entry he => hlate entry (List.mem_cons_of_mem _ he),
        List.flatMap_cons]
      cases outcome <;> rfl

theorem overrun_of_strides {flavor : Flavor} {ds ds' : List (Nat × Deed)} {σ σ' : Situation}
    (hreached : Strides flavor ds (.of {}) σ) (hlater : Strides flavor ds' σ σ') {cursor : Nat}
    {c : Cursor} (hc : σ.client.cursors[cursor]? = some c) (hdone : c.isComplete = true) :
    ∃ c' late, σ'.client.cursors[cursor]? = some c' ∧
      Overrun σ.client σ'.client cursor c c' late := by
  have hf := Filed.start.strides hreached
  have hbare : σ.client.results[cursor]? = some c.bare := by simp [Client.results, hc]
  obtain ⟨late, hreceived, hresult⟩ := entered_of_strides hf hlater hbare
  obtain ⟨c', hc', hsame⟩ : ∃ c', σ'.client.cursors[cursor]? = some c' ∧
      c'.bare = late.foldl Cursor.enter c.bare := by
    simpa [Client.results] using hresult
  have hended : ((entries σ.client cursor).findSome? conclusion?).isSome = true :=
    hf.outcome_eq hc ▸ hdone
  have hcause := late_cases (hreceived ▸ (hf.strides hlater).parts cursor) hended
  have hlate : ∀ entry ∈ late, entry.1 = .pullAll := by
    rcases hcause with rfl | ⟨-, -, pull, -, -, rfl⟩ <;> simp
  rw [entered_ended (c := c.bare) hdone hlate] at hsame
  have htold := told_of_strides (hreached.trans hlater) cursor
  rw [hreceived, heralded_append, ← told_of_strides hreached cursor, hended, Bool.false_or,
    heralded_ended hlate] at htold
  have hkeys := congrArg Cursor.keys hsame
  have houtcome := congrArg Cursor.outcome hsame
  have hrecords := congrArg Cursor.records hsame
  exact ⟨c', late, hc', hreceived, hcause, hkeys, houtcome, hrecords, htold⟩

/-- A statement is told of at most twice, and twice exactly if its RUN fails and its PULL_ALL
succeeds. -/
theorem told_twice_iff {flavor : Flavor} {ds : List (Nat × Deed)} {σ : Situation}
    (hreached : Strides flavor ds (.of {}) σ) (cursor : Nat) :
    (σ.client.told cursor).length ≤ 2 ∧
      (1 < (σ.client.told cursor).length ↔ ∃ run e pull metadata,
        entries σ.client cursor = [(.run, run), (.pullAll, pull)] ∧ run.outcome = .failure e ∧
          pull.outcome = .success metadata) := by
  have hparts := (Filed.start.strides hreached).parts cursor
  rw [told_of_strides hreached]
  rcases cases_of_parts hparts with h | ⟨⟨rows, outcome⟩, h⟩ |
    ⟨⟨rows, outcome⟩, ⟨rows', outcome'⟩, h⟩
  · simp [h, heralded]
  · rw [h]
    cases outcome <;> simp [heralded, heralds]
  · rw [h]
    cases outcome <;> cases outcome' <;> simp [heralded, heralds, conclusion?]

/-- At any two moments of a run, one after the other, of which the first comes after the end of a
stream: the columns and the outcome are the same, only a PULL_ALL that is answered where the RUN has
failed can bring anything, and nothing at all is changed exactly if it brings no rows and no
success. A statement is told of at most twice, and twice exactly if its RUN fails and its PULL_ALL
succeeds. Every run is made of strides, by `strides_after`. -/
theorem frozen_unless_overrun {flavor : Flavor} {ds ds' : List (Nat × Deed)} {σ σ' : Situation}
    (hreached : Strides flavor ds (.of {}) σ) (hlater : Strides flavor ds' σ σ') {cursor : Nat}
    {c : Cursor} (hc : σ.client.cursors[cursor]? = some c) (hdone : c.isComplete = true) :
    ∃ c' late, σ'.client.cursors[cursor]? = some c' ∧
      Overrun σ.client σ'.client cursor c c' late ∧
      ((c'.keys = c.keys ∧ c'.records = c.records ∧ c'.outcome = c.outcome ∧
        σ'.client.told cursor = σ.client.told cursor) ↔ ∀ entry ∈ late, Vain entry.2) ∧
      (σ'.client.told cursor).length ≤ 2 ∧
      (1 < (σ'.client.told cursor).length ↔ ∃ run e pull metadata,
        entries σ'.client cursor = [(.run, run), (.pullAll, pull)] ∧ run.outcome = .failure e ∧
          pull.outcome = .success metadata) := by
  obtain ⟨c', late, hc', hoverrun⟩ := overrun_of_strides hreached hlater hc hdone
  exact ⟨c', late, hc', hoverrun, hoverrun.frozen_iff,
    told_twice_iff (hreached.trans hlater) cursor⟩

/-- The RUN of a statement fails, and its PULL_ALL is still to be answered, with a row. -/
def overrun : List Step :=
  [.begin { tx := "t", config := .settings [], reported := true, bookmarkOf := none
            handle := "b" },
    .take "b", .hold true,
    .script ⟨"S",
      some { outcome :=
        .failure (.server "Neo.ClientError.Statement.SyntaxError" "invalid input") },
      some { records := [[.int 1]], outcome := .success [] }⟩,
    .run "t" "S" [] (some "r"), .deliver (some 3)]

/-- The cursor of that statement when the RUN has failed. -/
def failedStream : Cursor :=
  { statement := "S", owner := 0, name := some "r"
    outcome := some (.error (.server "Neo.ClientError.Statement.SyntaxError" "invalid input")) }

/-- The client when the PULL_ALL has been answered too. -/
def overran : Client :=
  (perform .nonblocking (after .nonblocking {} overrun) (.deliver none)).2

theorem frozen_unless_of_overrun :
    ∃ c' late, overran.cursors[0]? = some c' ∧
      Overrun (after .nonblocking {} overrun) overran 0 failedStream c' late ∧
      ((c'.keys = failedStream.keys ∧ c'.records = failedStream.records ∧
        c'.outcome = failedStream.outcome ∧
        overran.told 0 = (after .nonblocking {} overrun).told 0) ↔
          ∀ entry ∈ late, Vain entry.2) ∧
      (overran.told 0).length ≤ 2 ∧
      (1 < (overran.told 0).length ↔ ∃ run e pull metadata,
        entries overran 0 = [(.run, run), (.pullAll, pull)] ∧ run.outcome = .failure e ∧
          pull.outcome = .success metadata) :=
  frozen_unless_overrun (strides_after .nonblocking overrun)
    (strides_step .nonblocking overrun (filed_after .nonblocking overrun) (.deliver none)) rfl rfl

/-- A result may get rows after its stream has failed, and its transaction may be told both that the
statement has failed and that the results have come. -/
theorem exists_overrun :
    ¬ ∀ (steps later : List Step) (cursor : Nat) (c c' : Cursor),
      (after .nonblocking {} steps).cursors[cursor]? = some c → c.isComplete = true →
      (after .nonblocking {} (steps ++ later)).cursors[cursor]? = some c' →
      c'.records = c.records ∧
        ((after .nonblocking {} (steps ++ later)).told cursor).length ≤ 1 := by
  intro hall
  have hfrozen := hall overrun [.deliver none] 0 failedStream
    { failedStream with records := [⟨[], [.int 1]⟩] } rfl rfl rfl
  exact absurd hfrozen.1 (List.cons_ne_nil _ _)

end Scenario

end ClientTransaction
