import ClientTransaction.Proofs.Blocking.Acknowledged
import ClientTransaction.Proofs.Blocking.Statements

/-!
# Blocking.Results — what a result tells when it is asked

Whoever asks a result for its columns, its rows or its summary waits for its stream to end, with one
`sync` unless the stream has ended before. The error of the stream comes first, then the failure of
that `sync`, and without either of them the answer is what the cursor holds. But a `sync` speaks of
all requests of the connection. It may fail although this stream has ended well, and it may go well
although this stream has not ended, because one of its handlers was given up.
-/

namespace ClientTransaction

namespace Blocking

open Scenario

/-! ## Asking -/

/-- What a step shows of the result that it asks for. -/
def shown (step : Step) (c : Cursor) : Answer :=
  match step with
  | .keys _ => .keys c.keys
  | .records _ => .records c.records
  | .consume _ _ => .summary (c.summary?.getD [])
  | _ => .missing

/-- The failure of the `sync` that asking for a result makes, if it makes one. -/
def syncFailure? (s : Client) (c : Cursor) : Option Error :=
  if c.isComplete then none else (sync c.owner s).1

section

variable {s : Client} {step : Step} {cursor : Nat} {c : Cursor}

/-- Waiting ends with the error of the stream, or else with the failure of `sync`. -/
theorem wait_eq (hc : s.cursors[cursor]? = some c) :
    ∃ c', (wait s cursor).2.cursors[cursor]? = some c' ∧ c'.name = c.name ∧
      (wait s cursor).1 = (c'.error? <|> syncFailure? s c) := by
  cases hcomplete : c.isComplete with
  | true =>
      refine ⟨c, ?_, rfl, ?_⟩
      · rwa [wait_of_complete (by simp [hc, hcomplete])]
      · simp [wait, hc, hcomplete, syncFailure?]
  | false =>
      have hnames := congrArg (fun names => names.2.1[cursor]?) (names_sync c.owner s)
      simp only [Client.names, List.getElem?_map, hc, Option.map_some, Option.map_eq_some_iff]
        at hnames
      rcases hnames with ⟨c', hc', hname⟩
      refine ⟨c', by rwa [wait_of_unfinished hc hcomplete], hname, ?_⟩
      simp only [wait, hc, hcomplete, syncFailure?, hc', Bool.false_eq_true, if_false,
        Option.bind_some]
      cases c'.error? <;> rfl

theorem read_of_asked (hask : asked? s step = some cursor) :
    ∃ result, cursor? s result = some cursor ∧
      perform .blocking s step = Scenario.read .blocking s result (shown step) := by
  cases step with
  | keys result => exact ⟨result, hask, rfl⟩
  | records result => exact ⟨result, hask, rfl⟩
  | consume result handle => exact ⟨result, hask, rfl⟩
  | _ => simp [asked?] at hask

theorem exists_of_asked (hask : asked? s step = some cursor) :
    ∃ c, s.cursors[cursor]? = some c := by
  rcases read_of_asked hask with ⟨result, hresult, -⟩
  rcases exists_of_cursor? hresult with ⟨c, hc, -⟩
  exact ⟨c, hc⟩

/-- Asking for a result is waiting for it and showing what is there. -/
theorem perform_of_asked (hask : asked? s step = some cursor) (hc : s.cursors[cursor]? = some c) :
    ∃ c', (perform .blocking s step).2.cursors[cursor]? = some c' ∧ c'.name ≠ none ∧
      perform .blocking s step =
        (.ofFailure (shown step c') (c'.error? <|> syncFailure? s c), (wait s cursor).2) := by
  rcases read_of_asked hask with ⟨result, hresult, hread⟩
  rcases exists_of_cursor? hresult with ⟨c₀, hc₀, hname₀⟩
  cases hc.symm.trans hc₀
  rcases wait_eq hc with ⟨c', hc', hname, hfailure⟩
  have hperform : perform .blocking s step =
      (.ofFailure (shown step c') (c'.error? <|> syncFailure? s c), (wait s cursor).2) := by
    rw [hread]
    simp [Scenario.read, onCursor, hresult, hc, hc', hfailure]
  refine ⟨c', ?_, by simp [hname, hname₀], hperform⟩
  rw [hperform]
  exact hc'

/-- Nothing is waited for when the stream has ended. -/
theorem perform_of_ended (hask : asked? s step = some cursor) (hc : s.cursors[cursor]? = some c)
    (hcomplete : c.isComplete = true) :
    perform .blocking s step = (.ofFailure (shown step c) c.error?, s) := by
  have hwait : (wait s cursor).2 = s := wait_of_complete (by simp [hc, hcomplete])
  rcases perform_of_asked hask hc with ⟨c', hc', -, hperform⟩
  rw [hperform, hwait] at hc'
  cases hc.symm.trans hc'
  simpa [hwait, syncFailure?, hcomplete] using hperform

/-- What is shown is no error. -/
theorem shown_ne_failed (hask : asked? s step = some cursor) (c : Cursor) (e : Error) :
    shown step c ≠ .failed e := by
  cases step with
  | keys | records | consume => simp [shown]
  | _ => simp [asked?] at hask

end

/-! ## Answers and whole results -/

/-- The cursor holds all that the server has sent for its statement: the columns that the RUN told,
the rows of the PULL_ALL under these columns, and its summary. -/
structure Whole (run pull : Reply) (c : Cursor) : Prop where
  columns : ∃ metadata, run.outcome = .success metadata ∧ c.keys = Message.fields metadata
  rows : c.records = pull.records.map (Record.mk c.keys)
  summary : ∃ metadata, pull.outcome = .success metadata ∧ c.summary? = some metadata ∧
    c.error? = none

/-- If neither reply is a failure, the cursor holds everything unless a handler was given up. -/
theorem whole_iff {run pull : Reply} {c : Cursor}
    (hown : c.bare = [(.run, run), (.pullAll, pull)].foldl Cursor.enter c.blank)
    (hrun : run.outcome.failure? = none) (hpull : pull.outcome.failure? = none) :
    Whole run pull c ↔ run.outcome ≠ .dropped ∧ pull.outcome ≠ .dropped := by
  constructor
  · rintro ⟨⟨metadata, hr, -⟩, -, ⟨summary, hp, -, -⟩⟩
    simp [hr, hp]
  · rintro ⟨hr, hp⟩
    rcases run with ⟨told, outcome⟩
    rcases pull with ⟨rows, outcome'⟩
    cases outcome with
    | failure e => cases hrun
    | dropped => exact absurd rfl hr
    | success metadata =>
        cases outcome' with
        | failure e => cases hpull
        | dropped => exact absurd rfl hp
        | success summary =>
            rcases Cursor.of_told hown with ⟨hkeys, hrows, houtcome⟩
            have hsummary : c.summary? = some summary := by simp [Cursor.summary?, houtcome]
            have hnone : c.error? = none := by simp [Cursor.error?, houtcome]
            exact ⟨⟨metadata, rfl, hkeys⟩, by rw [hrows, hkeys], ⟨summary, rfl, hsummary, hnone⟩⟩

/-- A stream without an error has got no failure, and it has ended unless the handler of its rows
was given up. -/
theorem of_no_error {run pull : Reply} {c : Cursor}
    (h : c.outcome = [(.run, run), (.pullAll, pull)].findSome? conclusion?)
    (herror : c.error? = none) :
    run.outcome.failure? = none ∧ pull.outcome.failure? = none ∧
      (c.isComplete = true ↔ pull.outcome ≠ .dropped) := by
  rcases run with ⟨told, outcome⟩
  rcases pull with ⟨rows, outcome'⟩
  cases outcome <;> cases outcome' <;>
    simp [List.findSome?_cons, conclusion?, Cursor.error?, Cursor.isComplete, Outcome.failure?, h]
      at herror ⊢

theorem ended_well {c : Cursor} (hcomplete : c.isComplete = true) (herror : c.error? = none) :
    ∃ metadata, c.outcome = some (.ok metadata) := by
  rcases Option.isSome_iff_exists.1 hcomplete with ⟨outcome, houtcome⟩
  cases outcome with
  | ok metadata => exact ⟨metadata, houtcome⟩
  | error e => simp [Cursor.error?, houtcome] at herror

/-- A `sync` of `tx` that would succeed in `s` waits for every reply. -/
def Patient (tx : Nat) (s : Client) : Prop :=
  (sync tx s).1 = none → (sync tx s).2.connection.queue = []

theorem Truthful.patient {tx : Nat} {s : Client} (h : Truthful tx s) : Patient tx s :=
  fun hsync => (h hsync).1

/-- What the answer to a question says of the stream, whose cursor is `c` before and `c'` after the
question. -/
structure Told (s : Client) (step : Step) (cursor : Nat) (c c' : Cursor) : Prop where
  /-- It is an error if the stream has failed or `sync` has. -/
  failed : (∃ e, (perform .blocking s step).1 = .failed e) ↔
    c'.error? ≠ none ∨ syncFailure? s c ≠ none
  own : ∀ e, c'.error? = some e → (perform .blocking s step).1 = .failed e
  /-- Otherwise both requests have come to their ends, and it is the whole result unless one of
  their handlers was given up. -/
  answered : (∀ e, (perform .blocking s step).1 ≠ .failed e) →
    (perform .blocking s step).1 = shown step c' ∧
      ∃ run pull, entries (perform .blocking s step).2 cursor = [(.run, run), (.pullAll, pull)] ∧
        run.outcome.failure? = none ∧ pull.outcome.failure? = none ∧
        (c'.isComplete = true ↔ pull.outcome ≠ .dropped) ∧
        (Whole run pull c' ↔ run.outcome ≠ .dropped ∧ pull.outcome ≠ .dropped)

section

variable {s : Client} {step : Step} {cursor : Nat} {c c' : Cursor}

theorem filed_perform (earlier : List Step) (hs : after .blocking {} earlier = s) (step : Step) :
    Filed .blocking (.of (perform .blocking s step).2) := by
  have hfiled := filed_after .blocking (earlier ++ [step])
  rwa [after_append, hs] at hfiled

/-- After an answer that is no error, nothing of the statement is outstanding. -/
theorem parts_of_answered (earlier : List Step) (hs : after .blocking {} earlier = s)
    (hc : s.cursors[cursor]? = some c) (hpatient : c.isComplete = false → Patient c.owner s)
    (hc' : (perform .blocking s step).2.cursors[cursor]? = some c') (hname : c'.name ≠ none)
    (hwait : (perform .blocking s step).2 = (wait s cursor).2)
    (herror : c'.error? = none) (hsync : syncFailure? s c = none) :
    (entries (perform .blocking s step).2 cursor).map Prod.fst = [.run, .pullAll] := by
  cases hcomplete : c.isComplete with
  | true =>
      -- The stream has ended before, and well.
      have hfiled := filed_perform earlier hs step
      have hsame : c' = c := by
        rw [hwait, wait_of_complete (by simp [hc, hcomplete])] at hc'
        exact (Option.some.inj (hc.symm.trans hc')).symm
      obtain ⟨metadata, hended⟩ : ∃ metadata, c'.outcome = some (.ok metadata) :=
        ended_well (hsame ▸ hcomplete) herror
      exact (of_ended_well (hfiled.parts cursor) ((hfiled.outcome_eq hc').symm.trans hended)).1
  | false =>
      have hempty : (perform .blocking s step).2.connection.queue = [] := by
        rw [hwait, wait_of_unfinished hc hcomplete]
        exact hpatient hcomplete (by simpa [syncFailure?, hcomplete] using hsync)
      have hledger : ledger (.of (perform .blocking s step).2) cursor = [.run, .pullAll] := by
        have hsent := @ledger_of_named (earlier ++ [step]) cursor c'
        rw [after_append, hs] at hsent
        exact hsent hc' hname
      rw [ledger, Nonblocking.Situation.of, hempty] at hledger
      simpa [entries, Receipt.entry, Function.comp_def] using hledger

/-- What a result answers without an error is all that the server has sent, exactly when neither
of the statement's two handlers was given up. -/
theorem whole_iff_of_answered (earlier : List Step) (hs : after .blocking {} earlier = s)
    (hask : asked? s step = some cursor) (hc : s.cursors[cursor]? = some c)
    (hpatient : c.isComplete = false → Patient c.owner s) :
    ∃ c', (perform .blocking s step).2.cursors[cursor]? = some c' ∧ Told s step cursor c c' := by
  rcases perform_of_asked hask hc with ⟨c', hc', hname, hperform⟩
  have hanswer := congrArg Prod.fst hperform
  dsimp only at hanswer
  refine ⟨c', hc', ?_, ?_, ?_⟩
  · rw [hanswer]
    cases herror : c'.error? with
    | some e => simp [Answer.ofFailure]
    | none =>
        cases hsync : syncFailure? s c with
        | some e => simp [Answer.ofFailure]
        | none => simp [Answer.ofFailure, shown_ne_failed hask]
  · intro e he
    rw [hanswer, he]
    rfl
  · intro hok
    have hnone : (c'.error? <|> syncFailure? s c) = none := by
      cases hfailure : (c'.error? <|> syncFailure? s c) with
      | none => rfl
      | some e => exact absurd (by rw [hanswer, hfailure]; rfl) (hok e)
    obtain ⟨herror, hsync⟩ : c'.error? = none ∧ syncFailure? s c = none := by simpa using hnone
    have hparts := parts_of_answered earlier hs hc hpatient hc' hname
      (congrArg Prod.snd hperform) herror hsync
    rcases eq_pair_of_parts hparts with ⟨run, pull, hentries⟩
    have hfiled := filed_perform earlier hs step
    have hown := hfiled.own hc'
    have houtcome := hfiled.outcome_eq hc'
    dsimp only [Nonblocking.Situation.of] at hown houtcome
    rw [hentries] at hown houtcome
    -- A reply that is a failure would have left its error.
    rcases of_no_error houtcome herror with ⟨hrun, hpull, hended⟩
    exact ⟨by rw [hanswer, hnone]; rfl, run, pull, hentries, hrun, hpull, hended,
      whole_iff hown hrun hpull⟩

/-- A statement with one column and one row has been run. -/
def listing : List Step :=
  begun ++ [.script ⟨"S", some { outcome := .success [("fields", .list [.string "n"])] },
      some { records := [[.int 1]] }⟩, .run "t" "S" [] (some "r")]

theorem whole_of_listing :
    (∃ c', (perform .blocking (after .blocking {} listing) (.records "r")).2.cursors[0]? = some c' ∧
      Told (after .blocking {} listing) (.records "r") 0
        { statement := "S", owner := 0, name := some "r" } c') ∧
      (perform .blocking (after .blocking {} listing) (.records "r")).1 =
        .records [⟨["n"], [.int 1]⟩] :=
  ⟨whole_iff_of_answered listing rfl rfl rfl
    fun _ => (truthful_of_unlaid 0 (by decide) rfl).patient, rfl⟩

/-- The connection will give up the handler of the rows. -/
def discarding : List Step :=
  begun ++ [.script ⟨"S", none, some { outcome := .dropped }⟩, .run "t" "S" [] (some "r")]

/-- An answer without an error may be that of a stream that has not ended. -/
theorem exists_answered_unfinished :
    ¬ ∀ (earlier : List Step) (step : Step) (cursor : Nat) (c c' : Cursor),
      asked? (after .blocking {} earlier) step = some cursor →
      (after .blocking {} earlier).cursors[cursor]? = some c →
      (c.isComplete = false → Patient c.owner (after .blocking {} earlier)) →
      (perform .blocking (after .blocking {} earlier) step).2.cursors[cursor]? = some c' →
      (∀ e, (perform .blocking (after .blocking {} earlier) step).1 ≠ .failed e) →
      c'.isComplete = true := by
  intro hall
  -- The summary that is answered is nobody's.
  have hanswer : (perform .blocking (after .blocking {} discarding) (.consume "r" none)).1 =
      .summary [] := rfl
  have hended := hall discarding (.consume "r" none) 0
    { statement := "S", owner := 0, name := some "r" }
    { statement := "S", owner := 0, name := some "r" } rfl rfl
    (fun _ => (truthful_of_unlaid 0 (by decide) rfl).patient) rfl (by simp [hanswer])
  simp [Cursor.isComplete] at hended

/-! ## Whose outcome is reported -/

/-- How the answer to a question, after which the stream has ended, compares with the outcome of the
stream itself. -/
structure Reported (s : Client) (step : Step) (cursor : Nat) (c c' : Cursor) : Prop where
  /-- The two agree unless the stream has ended well and `sync` has failed. -/
  own : (perform .blocking s step).1 = .ofFailure (shown step c') c'.error? ↔
    c'.error? ≠ none ∨ syncFailure? s c = none
  /-- Then the answer is the failure of `sync`. -/
  other : ∀ e, c'.error? = none → syncFailure? s c = some e →
    (perform .blocking s step).1 = .failed e
  /-- Where nothing is laid down, that is the first failure among all replies that were queued, and
  it is no failure of this statement. -/
  foreign : s.connection.verdicts = [] → c.isComplete = false →
    syncFailure? s c = (s.connection.queue.findSome? fun r => r.reply.outcome.failure?) ∧
      (c'.error? = none → ∀ r ∈ s.connection.queue, r.exchange = .statement cursor →
        r.reply.outcome.failure? = none)
  /-- From then on every question is answered by the outcome of the stream, without a `sync`. -/
  lasting : ∀ (later : List Step) (again : Step),
    asked? (after .blocking (perform .blocking s step).2 later) again = some cursor →
    ∃ c'' : Cursor,
      (after .blocking (perform .blocking s step).2 later).cursors[cursor]? = some c'' ∧
      c''.outcome = c'.outcome ∧
      perform .blocking (after .blocking (perform .blocking s step).2 later) again =
        (.ofFailure (shown again c'') c'.error?, after .blocking (perform .blocking s step).2 later)

/-- A `sync` after which a stream has ended brings every reply, unless its end is laid down. -/
theorem foreign_of_ended (hs : Settled s) (hfiled : Filed .blocking (.of (sync c.owner s).2))
    (hc : s.cursors[cursor]? = some c) (hunfinished : c.isComplete = false)
    (hc' : (sync c.owner s).2.cursors[cursor]? = some c') (hcomplete : c'.isComplete = true)
    (hunlaid : s.connection.verdicts = []) :
    (sync c.owner s).1 = (s.connection.queue.findSome? fun r => r.reply.outcome.failure?) ∧
      (c'.error? = none → ∀ r ∈ s.connection.queue, r.exchange = .statement cursor →
        r.reply.outcome.failure? = none) := by
  rcases sync_of_unlaid c.owner hs.passive hunlaid with ⟨e, -, hsame⟩ | ⟨-, hreceipts, hfailure⟩
  · -- Nothing has come, so the stream would have ended before.
    rw [hsame] at hc'
    cases hc.symm.trans hc'
    simp [hunfinished] at hcomplete
  · refine ⟨hfailure, fun herror r hr hexchange => ?_⟩
    rcases ended_well hcomplete herror with ⟨metadata, hended⟩
    have hnofailure := (of_ended_well (hfiled.parts cursor)
      ((hfiled.outcome_eq hc').symm.trans hended)).2
    have hcome : r.receipt ∈ (sync c.owner s).2.replies cursor := by
      refine List.mem_filter.2 ⟨?_, by simp [Request.receipt, hexchange]⟩
      rw [hreceipts]
      exact List.mem_append_right _ (List.mem_map_of_mem hr)
    exact hnofailure r.receipt.entry (List.mem_map_of_mem hcome)

/-- An answer after which the stream has ended agrees with its outcome, exactly unless the same
`sync` has failed for the sake of others; later answers always agree with it. -/
theorem reported_of_ended (earlier : List Step) (hs : after .blocking {} earlier = s)
    (hask : asked? s step = some cursor) (hc : s.cursors[cursor]? = some c)
    (hc' : (perform .blocking s step).2.cursors[cursor]? = some c')
    (hcomplete : c'.isComplete = true) : Reported s step cursor c c' := by
  rcases perform_of_asked hask hc with ⟨c₁, hc₁, -, hperform⟩
  cases hc'.symm.trans hc₁
  have hanswer := congrArg Prod.fst hperform
  dsimp only at hanswer
  refine ⟨?_, ?_, ?_, ?_⟩
  · rw [hanswer]
    cases herror : c'.error? with
    | some e => simp
    | none =>
        cases hsync : syncFailure? s c with
        | none => simp
        | some e => simpa [Answer.ofFailure] using (shown_ne_failed hask c' e).symm
  · intro e herror hsync
    rw [hanswer, herror, hsync]
    rfl
  · intro hunlaid hunfinished
    have hsettled : Settled s := hs ▸ settled_after settled_start earlier
    have hfiled := filed_perform earlier hs step
    have hwait : (perform .blocking s step).2 = (sync c.owner s).2 :=
      (congrArg Prod.snd hperform).trans (wait_of_unfinished hc hunfinished)
    rw [hwait] at hfiled hc'
    simpa [syncFailure?, hunfinished] using
      foreign_of_ended hsettled hfiled hc hunfinished hc' hcomplete hunlaid
  · intro later again hagain
    rcases exists_of_asked hagain with ⟨c'', hc''⟩
    have hlast : after .blocking {} (earlier ++ [step]) = (perform .blocking s step).2 := by
      rw [after_append, hs]
      rfl
    have hsame : c''.outcome = c'.outcome := by
      refine outcome_after .blocking (earlier ++ [step]) later (by rwa [hlast]) hcomplete ?_
      rwa [after_append, hlast]
    have hended : c''.isComplete = true := by rwa [Cursor.isComplete, hsame]
    have herror : c''.error? = c'.error? := by rw [Cursor.error?, hsame, Cursor.error?]
    exact ⟨c'', hc'', hsame, by rw [perform_of_ended hagain hc'' hended, herror]⟩

/-- Two statements are under way, and the first of them will fail. -/
def pipelined : List Step :=
  begun ++ [.script ⟨"A", some { outcome := .failure (.server
      "Neo.ClientError.Statement.SyntaxError" "invalid input") }, none⟩,
    .run "t" "A" [] (some "first"), .run "t" "B" [] (some "second")]

theorem reported_of_pipelined :
    Reported (after .blocking {} pipelined) (.consume "second" none) 1
      { statement := "B", owner := 0, name := some "second" }
      { statement := "B", owner := 0, name := some "second", outcome := some (.ok []) } :=
  reported_of_ended pipelined rfl rfl rfl rfl rfl

/-- An answer may be the failure of another statement, although the stream has ended well. -/
theorem exists_misreported :
    ¬ ∀ (earlier : List Step) (step : Step) (cursor : Nat) (c' : Cursor),
      asked? (after .blocking {} earlier) step = some cursor →
      (perform .blocking (after .blocking {} earlier) step).2.cursors[cursor]? = some c' →
      c'.isComplete = true →
      (perform .blocking (after .blocking {} earlier) step).1 =
        .ofFailure (shown step c') c'.error? := by
  intro hall
  -- What is answered is the error of the first statement.
  have hanswer : (perform .blocking (after .blocking {} pipelined) (.consume "second" none)).1 =
      .failed (.server "Neo.ClientError.Statement.SyntaxError" "invalid input") := rfl
  have hown := hall pipelined (.consume "second" none) 1
    { statement := "B", owner := 0, name := some "second", outcome := some (.ok []) } rfl rfl rfl
  rw [hanswer] at hown
  simp [Answer.ofFailure, shown, Cursor.error?] at hown

end

end Blocking

end ClientTransaction
