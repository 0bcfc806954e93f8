import ClientTransaction.Proofs.Scenario.Programs
import ClientTransaction.Proofs.Scenario.Stages

/-!
# Scenario.Uses — what an application does with a transaction, whatever replies have come

An application whose calls do not wait begins a transaction without a bookmark, takes it from its
handle, runs statements and asks for their summaries, marks the transaction, sets its bookmark, and
ends it. As long as no statement fails, each of these steps may be made before a reply comes as well
as after.
-/

namespace ClientTransaction

/-- No reply of the script is a failure. -/
def Script.Harmless (script : Script) : Prop :=
  ∀ r : Reply, script.run = some r ∨ script.pull = some r → r.outcome.failure? = none

/-- Without a reply of its own, a PULL_ALL fails as its RUN does. -/
theorem Connection.failure_pullReply_run (c : Connection) (tx : Nat) (exchange : Exchange)
    (statement : String) (handler : Handler) :
    (c.run tx exchange statement handler).pullReply.outcome.failure? =
      (((c.script? statement).bind Script.pull).map fun r => r.outcome.failure?).getD
        (c.runReply statement).outcome.failure? := by
  rw [c.pullReply_run]
  cases (c.script? statement).bind Script.pull with
  | some r => rfl
  | none => cases ho : (c.runReply statement).outcome <;> rfl

theorem harmless_replies {c : Connection} {statement : String}
    (h : ∀ script ∈ c.scripts, script.statement = statement → script.Harmless) (tx : Nat)
    (exchange : Exchange) (handler : Handler) :
    (c.runReply statement).outcome.failure? = none ∧
      (c.run tx exchange statement handler).pullReply.outcome.failure? = none := by
  rw [c.failure_pullReply_run, Connection.runReply]
  cases hs : c.script? statement with
  | none => exact ⟨rfl, rfl⟩
  | some script =>
      have hname : script.statement = statement := by simpa using List.find?_some hs
      have hharmless := h script (List.mem_of_find?_eq_some hs) hname
      have hrun : (script.run.getD {}).outcome.failure? = none := by
        cases hr : script.run with
        | none => rfl
        | some r => exact hharmless r (Or.inl hr)
      refine ⟨hrun, ?_⟩
      rw [Option.bind_some]
      cases hp : script.pull with
      | none => exact hrun
      | some r => exact hharmless r (Or.inr hp)

namespace Scenario

open Nonblocking

/-! ## Programs -/

/-- One thing that an application does with a transaction before it ends it. -/
inductive Use
  | run (statement : String) (params : Params) (result : Option String)
  | consume (result : String) (handle : Option String)
  | success
  | failure
  | setBookmark (source : Bookmark.Source)
  deriving Repr

def Use.step (tx : String) : Use → Step
  | .run statement params result => .run tx statement params result
  | .consume result handle => .consume result handle
  | .success => .success tx
  | .failure => .failure tx
  | .setBookmark source => .setBookmark tx source

def Use.statement? : Use → Option String
  | .run statement _ _ => some statement
  | _ => none

/-- The step that ends the transaction. -/
def endStep (tx : String) (handle : Option String) : Terminal → Step
  | .commit => .commit tx handle
  | .rollback => .rollback tx handle
  | .close => .close tx handle

/-- What a server has learned, and what an application does with one transaction. -/
structure Program where
  setup : List Script
  opening : Begin
  uses : List Use
  terminal : Terminal
  /-- The name of the handle for the end of the transaction. -/
  handle : Option String
  deriving Repr

namespace Program

def statements (p : Program) : List String :=
  p.uses.filterMap Use.statement?

/-- The steps of the application. -/
def steps (p : Program) : List Step :=
  beginSteps p.opening .nonblocking ++ p.uses.map (Use.step p.opening.tx) ++
    [endStep p.opening.tx p.handle p.terminal]

/-- The client after some steps, on a server that has learned its scripts. -/
def after (p : Program) (steps : List Step) : Client :=
  Scenario.after .nonblocking {} (p.setup.map .script ++ steps)

/-- The transaction begins without a bookmark, and no statement fails. -/
structure Harmless (p : Program) : Prop where
  begins : ∃ config, beginConfig {} p.opening = .ok config ∧ config.bookmark.isEmpty = true
  statements : ∀ script ∈ p.setup, script.statement ∈ p.statements → script.Harmless

end Program

section

variable {p : Program} {s s' : Client} {r : Request} {rest : List Request}

/-! ## Stages -/

/-- No statement of the program will fail. -/
def Obliging (p : Program) (s : Client) : Prop :=
  ∀ script ∈ s.connection.scripts, script.statement ∈ p.statements → script.Harmless

/-- Nothing has been begun. -/
structure Fresh (p : Program) (s : Client) : Prop where
  obliging : Obliging p s
  transactions : s.transactions = []
  cursors : s.cursors = []
  handles : s.handles = []
  queue : s.connection.queue = []

/-- The transaction has been begun and not yet been taken. -/
structure Begun (p : Program) (s : Client) : Prop where
  obliging : Obliging p s
  transactions : s.transactions = [{ title := p.opening.tx, reported := p.opening.reported }]
  cursors : s.cursors = []
  handles : s.handles = [.ready (some p.opening.handle) (.ok (.transaction 0))]
  queue : ∀ r ∈ s.connection.queue, r.handler = .ignore

/-- The transaction is in the hands of the application, and nobody has claimed it. -/
structure InUse (name : String) (t : Transaction) : Prop where
  holdings : t.holdings = [⟨name, true⟩]
  closing : t.closing = false
  state : t.state = .active ∨ t.state = .markedSuccess ∨ t.state = .markedFailed

/-- The transaction has been taken and not yet been ended. -/
structure Underway (p : Program) (s : Client) : Prop where
  obliging : Obliging p s
  neat : s.Neat
  transactions : ∃ t, s.transactions = [t] ∧ InUse p.opening.tx t
  queue : ∀ r ∈ s.connection.queue, r.Mild s.cursors.length

theorem Obliging.of_concurs (h : Obliging p s) (hc : Client.Concurs s s') : Obliging p s' := by
  unfold Obliging
  rw [← hc.scripts]
  exact h

theorem stage_neat : Stage Client.Neat :=
  ⟨id, Client.Neat.of_concurs, Client.Neat.advance⟩

theorem stage_fresh (p : Program) : Stage (Fresh p) where
  neat := by
    intro s h
    refine ⟨by simp [h.cursors], ?_, by simp [h.queue]⟩
    rintro handle ⟨c, hc, -⟩
    simp [h.cursors] at hc
  concurs := by
    intro s s' h hc
    refine ⟨h.obliging.of_concurs hc, hc.transactions ▸ h.transactions, hc.cursors ▸ h.cursors, ?_,
      hc.queue ▸ h.queue⟩
    rw [← List.length_eq_zero_iff, ← hc.size, h.handles]
    rfl
  advance := by
    intro s h
    rwa [Client.advance_of_empty h.queue]

/-- A handle that shows something is what it shows. -/
theorem eq_of_shown {handles : List (Handle Payload)} {name : String}
    {state : HandleState Payload} (h : handles.map Handle.shown = [⟨some name, state⟩]) :
    handles = [⟨some name, state⟩] := by
  rcases List.map_eq_singleton_iff.1 h with ⟨hd, rfl, hshown⟩
  rcases hd with ⟨name', state'⟩
  cases name' with
  | none => cases hshown
  | some name' => exact congrArg (fun hd => [hd]) hshown

theorem stage_begun (p : Program) : Stage (Begun p) where
  neat := by
    intro s h
    refine ⟨by simp [h.cursors], ?_, fun r hr => Or.inl (Or.inl (h.queue r hr))⟩
    rintro handle ⟨c, hc, -⟩
    simp [h.cursors] at hc
  concurs := by
    intro s s' h hc
    have hshown := hc.handles
    rw [h.handles] at hshown
    exact ⟨h.obliging.of_concurs hc, hc.transactions ▸ h.transactions, hc.cursors ▸ h.cursors,
      eq_of_shown hshown.symm, hc.queue ▸ h.queue⟩
  advance := by
    intro s h
    cases hq : s.connection.queue with
    | nil => rwa [Client.advance_of_empty hq]
    | cons r rest =>
        -- Nobody heeds the reply.
        rw [Client.advance_cons hq, Client.answer_ignored (h.queue r (by simp [hq]))]
        refine ⟨h.obliging, h.transactions, h.cursors, h.handles, fun q hmem => ?_⟩
        exact h.queue q (hq ▸ List.mem_cons_of_mem _ hmem)

theorem frame_hear (s : Client) (others : List Request) (r : Request) :
    (s.hear others r).transactions = s.transactions ∧
      (s.hear others r).connection = s.connection ∧
      (s.hear others r).cursors.map Cursor.name = s.cursors.map Cursor.name ∧
      (s.hear others r).handles.length = s.handles.length := by
  rcases Client.hear_cases others r with ⟨cursor, held, hear⟩ | hear <;> rw [hear]
  · refine ⟨rfl, rfl, map_modify_of_eq _ (fun c => ?_) _ _, s.size_tellResult cursor held r⟩
    rw [Cursor.name_dismiss, Client.name_receive]
  · exact ⟨rfl, rfl, rfl, rfl⟩

/-- A reply leaves the transactions, the names of the results and what is still to come alone, and
makes no handle. -/
structure Undisturbed (rest : List Request) (s s' : Client) : Prop where
  transactions : s'.transactions = s.transactions
  queue : s'.connection.queue = rest
  scripts : s'.connection.scripts = s.connection.scripts
  names : s'.cursors.map Cursor.name = s.cursors.map Cursor.name
  size : s'.handles.length = s.handles.length

theorem undisturbed_advance (hn : s.Neat) (hq : s.connection.queue = r :: rest)
    (hr : r.Mild s.cursors.length) : Undisturbed rest s s.advance := by
  have hsame := Client.concurs_advance hn hq hr
  rcases frame_hear (s.withQueue rest) rest r with ⟨htransactions, hconnection, hnames, hsize⟩
  refine ⟨hsame.transactions.trans htransactions, ?_, ?_, ?_, hsame.size.trans hsize⟩
  · rw [hsame.queue, hconnection]
    rfl
  · rw [hsame.scripts, hconnection]
    rfl
  · rw [hsame.cursors, hnames]
    rfl

theorem Undisturbed.results (h : Undisturbed rest s s') :
    s'.cursors.length = s.cursors.length := by
  simpa using congrArg List.length h.names

theorem stage_underway (p : Program) : Stage (Underway p) where
  neat := Underway.neat
  concurs := by
    intro s s' h hc
    exact ⟨h.obliging.of_concurs hc, h.neat.of_concurs hc, hc.transactions ▸ h.transactions,
      hc.queue ▸ hc.cursors ▸ h.queue⟩
  advance := by
    intro s h
    cases hq : s.connection.queue with
    | nil => rwa [Client.advance_of_empty hq]
    | cons r rest =>
        have hsame := undisturbed_advance h.neat hq (h.queue r (by simp [hq]))
        refine ⟨?_, h.neat.advance, hsame.transactions ▸ h.transactions, ?_⟩
        · unfold Obliging
          rw [hsame.scripts]
          exact h.obliging
        · rw [hsame.queue, hsame.results]
          exact fun q hmem => h.queue q (hq ▸ List.mem_cons_of_mem _ hmem)

/-! ## Beginning -/

/-- The configuration of the transaction does not depend on what is on the connection. -/
theorem beginConfig_of_transactions (h : s'.transactions = s.transactions) (b : Begin) :
    beginConfig s' b = beginConfig s b := by
  simp only [beginConfig, transaction?, h]

theorem deferrable_begin {config : Config} (hconfig : beginConfig {} p.opening = .ok config)
    (hempty : config.bookmark.isEmpty = true) :
    Deferrable (Fresh p) (Begun p) (.begin p.opening) fun s =>
      Nonblocking.begin s p.opening.tx p.opening.reported config p.opening.handle where
  perform := by
    intro s h
    left
    have hconfig' : beginConfig s p.opening = .ok config :=
      (beginConfig_of_transactions (s := {}) h.transactions p.opening).trans hconfig
    simp [perform, begin, hconfig']
  leads := by
    intro s h
    simp only [Nonblocking.begin, hempty, if_true]
    refine ⟨h.obliging, ?_, h.cursors, ?_, ?_⟩
    · simp [h.transactions]
    · simp [h.handles, h.transactions]
    · simp [h.queue, Client.requests]
  congr := by
    intro s s' h hc
    simp only [Nonblocking.begin, hempty, if_true, hc.transactions]
    exact ((hc.addTransaction _).send _ _ _ _ _ _).addHandle rfl
  advance := by
    intro s r rest h hq
    rw [h.queue] at hq
    cases hq

/-- The client after the transaction has been taken from its handle. -/
def handedOver (p : Program) (s : Client) : Client :=
  ({ s with handles := [⟨none, .spent⟩] } : Client).updateTransaction 0
    (Transaction.hold p.opening.tx true)

theorem deferrable_poll :
    Deferrable (Begun p) (Underway p) (.poll p.opening.handle) (handedOver p) where
  perform := by
    intro s h
    left
    have hready : s.handles = [] ++ [⟨some p.opening.handle, .resolved (.ok (.transaction 0))⟩] :=
      h.handles
    rw [perform_poll p.opening.handle (by simp) hready]
    simp [Nonblocking.adopt, handedOver, h.transactions]
  leads := by
    intro s h
    have huse : InUse p.opening.tx (Transaction.hold p.opening.tx true
        { title := p.opening.tx, reported := p.opening.reported }) := ⟨rfl, rfl, Or.inl rfl⟩
    have hmild : ∀ r ∈ s.connection.queue, r.Mild s.cursors.length :=
      fun r hr => Or.inl (h.queue r hr)
    refine ⟨h.obliging, ⟨?_, ?_, fun r hr => Or.inl (hmild r hr)⟩, ⟨_, ?_, huse⟩, hmild⟩
    · simp [handedOver, h.cursors]
    · rintro handle ⟨c, hc, -⟩
      simp [handedOver, h.cursors] at hc
    · simp [handedOver, h.transactions]
  congr := by
    intro s s' h hc
    refine ⟨⟨?_, hc.cursors, hc.alike.connection, hc.requests⟩, rfl⟩
    exact congrArg (fun ts => ts.modify 0 (Transaction.hold p.opening.tx true)) hc.transactions
  advance := by
    intro s r rest h hq
    have hignored := h.queue r (by simp [hq])
    have hq' : (handedOver p s).connection.queue = r :: rest := hq
    rw [Client.advance_cons hq, Client.advance_cons hq', Client.answer_ignored hignored,
      Client.answer_ignored hignored]
    exact .refl _

/-! ## Uses -/

/-- A step that changes the transaction alone. -/
theorem deferrable_change {step : Step} {f : Transaction → Transaction}
    (hstep : ∀ s, Underway p s →
      (perform .nonblocking s step).2 = s.updateTransaction 0 f)
    (hf : ∀ t, InUse p.opening.tx t → InUse p.opening.tx (f t)) :
    Deferrable (Underway p) (Underway p) step fun s => s.updateTransaction 0 f where
  perform := fun h => Or.inl (hstep _ h)
  leads := by
    intro s h
    rcases h.transactions with ⟨t, ht, huse⟩
    exact ⟨h.obliging, h.neat.updateTransaction 0 f, ⟨f t, by simp [ht], hf t huse⟩, h.queue⟩
  congr := fun _ hc => hc.updateTransaction 0 f
  advance := fun h hq =>
    Client.advance_updateTransaction h.neat hq (h.queue _ (by simp [hq])) 0 f

/-- A step that does nothing. -/
theorem deferrable_idle {step : Step}
    (hstep : ∀ s, Underway p s → (perform .nonblocking s step).2 = s) :
    Deferrable (Underway p) (Underway p) step id where
  perform := fun h => Or.inl (hstep _ h)
  leads := id
  congr := fun _ hc => hc
  advance := fun _ _ => .refl _

theorem Underway.onTransaction (h : Underway p s) (act : Nat → Transaction → Answer × Client) :
    ∃ t, s.transactions = [t] ∧ InUse p.opening.tx t ∧
      onTransaction s p.opening.tx act = act 0 t := by
  rcases h.transactions with ⟨t, ht, huse⟩
  exact ⟨t, ht, huse, onTransaction_of_alone ht huse.holdings act⟩

theorem InUse.markSuccess {name : String} {t : Transaction} (h : InUse name t) :
    InUse name t.markSuccess := by
  refine ⟨h.holdings, h.closing, ?_⟩
  rcases h.state with hs | hs | hs <;> simp [Transaction.markSuccess, State.markSuccess, hs]

theorem InUse.markFailure {name : String} {t : Transaction} (h : InUse name t) :
    InUse name t.markFailure := by
  refine ⟨h.holdings, h.closing, ?_⟩
  rcases h.state with hs | hs | hs <;> simp [Transaction.markFailure, State.markFailure, hs]

theorem InUse.setBookmark {name : String} {t : Transaction} (h : InUse name t) (b : Bookmark) :
    InUse name (t.setBookmark b) := by
  unfold Transaction.setBookmark
  split
  · exact h
  · exact ⟨h.holdings, h.closing, h.state⟩

/-- What asking for a summary comes to. -/
def consumed (s : Client) (result : String) (handle : Option String) : Client :=
  match cursor? s result with
  | some cursor => Nonblocking.consume s cursor handle
  | none => s

theorem cursor?_eq_of_names
    (h : s'.cursors.map Cursor.name = s.cursors.map Cursor.name) (result : String) :
    cursor? s' result = cursor? s result := by
  have hfind : ∀ s : Client, cursor? s result =
      (s.cursors.map Cursor.name).findIdx? fun name => name = some result := by
    intro s
    simp [cursor?, List.findIdx?_map, Function.comp_def]
  rw [hfind, hfind, h]

theorem deferrable_consume (result : String) (handle : Option String) :
    Deferrable (Underway p) (Underway p) (.consume result handle) fun s =>
      consumed s result handle where
  perform := by
    intro s h
    left
    unfold consumed
    cases hname : cursor? s result with
    | none => simp [perform, consume, onCursor, hname]
    | some cursor =>
        rcases Blocking.exists_of_cursor? hname with ⟨c, hc, -⟩
        simp [perform, consume, onCursor, hname, hc]
  leads := by
    intro s h
    unfold consumed
    split
    · rename_i cursor _
      rcases frame_consume s cursor handle with ⟨htransactions, hconnection, hsize⟩
      refine ⟨?_, h.neat.consume cursor handle, htransactions ▸ h.transactions, ?_⟩
      · unfold Obliging
        rw [hconnection]
        exact h.obliging
      · rw [hconnection, hsize]
        exact h.queue
    · exact h
  congr := by
    intro s s' h hc
    have hsame : cursor? s' result = cursor? s result :=
      cursor?_eq_of_names (by rw [hc.cursors]) result
    unfold consumed
    rw [hsame]
    split
    · exact hc.consume _ handle
    · exact hc
  advance := by
    intro s r rest h hq
    have hr := h.queue r (by simp [hq])
    have hsame := cursor?_eq_of_names (undisturbed_advance h.neat hq hr).names result
    unfold consumed
    rw [hsame]
    cases hname : cursor? s result with
    | none => exact .refl _
    | some cursor =>
        rcases Blocking.exists_of_cursor? hname with ⟨c, hc, hnamed⟩
        exact Client.advance_consume h.neat hq hr hc (by simp [hnamed]) handle

/-- The client after a statement has been sent for a new result. -/
def stated (s : Client) (c : Cursor) (params : Params) : Client :=
  ((s.addCursor c).send c.owner (.statement s.cursors.length) c.statement params
    (.columns s.cursors.length) (.rows s.cursors.length)).record (.flush c.owner)

/-- What running a statement comes to before replies come. -/
def ran (s : Client) (statement : String) (params : Params) (result : Option String) : Client :=
  if (s.transactions[0]?.bind Transaction.refusal?).isSome then s
  else stated s { statement := statement, owner := 0, name := result } params

theorem perform_run (h : Underway p s) (statement : String) (params : Params)
    (result : Option String) :
    (perform .nonblocking s (.run p.opening.tx statement params result)).2 =
        ran s statement params result ∨
      (perform .nonblocking s (.run p.opening.tx statement params result)).2 =
        (ran s statement params result).settle := by
  rcases h.onTransaction fun tx _ => run .nonblocking s tx statement params result with
    ⟨t, ht, -, hon⟩
  have hperform : (perform .nonblocking s (.run p.opening.tx statement params result)).2 =
      (runStatement s 0 statement params result).2 := congrArg Prod.snd hon
  rw [hperform, runStatement, ran]
  cases hrefusal : s.transactions[0]?.bind Transaction.refusal? with
  | some e => exact Or.inl rfl
  | none => exact Or.inr rfl

section

variable {c : Cursor} {q : Request}

/-- The replies to a statement of the program are for its result, and no failures. -/
theorem mild_of_stated (h : Obliging p s) (hp : c.statement ∈ p.statements)
    (hq : q ∈ (s.addCursor c).requests c.owner (.statement s.cursors.length) c.statement
      (.columns s.cursors.length) (.rows s.cursors.length)) :
    q.Mild (s.addCursor c).cursors.length := by
  have hreplies := harmless_replies (fun script hmem hname => h script hmem (hname ▸ hp)) c.owner
    (.statement s.cursors.length) (.columns s.cursors.length)
  have hlt : s.cursors.length < (s.addCursor c).cursors.length := by simp
  simp only [Client.requests, List.mem_cons, List.not_mem_nil, or_false] at hq
  rcases hq with rfl | rfl
  · exact Or.inr ⟨_, hlt, Or.inl rfl, hreplies.1⟩
  · exact Or.inr ⟨_, hlt, Or.inr rfl, hreplies.2⟩

/-- A reply that is due is for none of the results that come later. -/
theorem holdsCursor_of_stated (hr : r.Mild s.cursors.length)
    (hq : q ∈ s'.requests c.owner (.statement s.cursors.length) c.statement
      (.columns s.cursors.length) (.rows s.cursors.length)) (cursor : Nat)
    (hc : r.holdsCursor cursor = true) : q.holdsCursor cursor = false := by
  have hlt : cursor < s.cursors.length := by
    rcases hr with hr | ⟨place, hlt, hr | hr, -⟩ <;>
      simp only [Request.holdsCursor, hr] at hc
    · cases hc
    · exact beq_iff_eq.1 hc ▸ hlt
    · exact beq_iff_eq.1 hc ▸ hlt
  have hne : s.cursors.length ≠ cursor := Nat.ne_of_gt hlt
  simp only [Client.requests, List.mem_cons, List.not_mem_nil, or_false] at hq
  rcases hq with rfl | rfl <;> simpa [Request.holdsCursor] using hne

theorem underway_stated (h : Underway p s) (hp : c.statement ∈ p.statements)
    (hw : c.waiters = []) (params : Params) : Underway p (stated s c params) := by
  have hsent := (h.neat.addCursor hw).send (fun q hq => Or.inl (mild_of_stated h.obliging hp hq))
    params
  refine ⟨h.obliging, hsent.record rfl, h.transactions, fun q hq => ?_⟩
  have hlen : (stated s c params).cursors.length = (s.addCursor c).cursors.length := rfl
  have hqueue : (stated s c params).connection.queue = s.connection.queue ++
      (s.addCursor c).requests c.owner (.statement s.cursors.length) c.statement
        (.columns s.cursors.length) (.rows s.cursors.length) :=
    ((s.addCursor c).frame_send _ _ _ params _ _).2.2.2.1
  rw [hqueue] at hq
  rw [hlen]
  rcases List.mem_append.1 hq with hq | hq
  · exact (h.queue q hq).mono (by simp)
  · exact mild_of_stated h.obliging hp hq

/-- A statement is sent before the next reply or after it. -/
theorem advance_stated (h : Underway p s) (hp : c.statement ∈ p.statements) (hw : c.waiters = [])
    (hq : s.connection.queue = r :: rest) (params : Params) :
    Client.Concurs (stated s c params).advance (stated s.advance c params) := by
  have hr := h.queue r (by simp [hq])
  have hadded := h.neat.addCursor hw
  have hr' : r.Mild (s.addCursor c).cursors.length := hr.mono (by simp)
  have hnew := fun q hq => Or.inl (b := q.Ends) (mild_of_stated (q := q) h.obliging hp hq)
  have hsize := (undisturbed_advance h.neat hq hr).results
  have hcursor := Client.advance_addCursor h.neat hq hr hw
  have hsend := Client.advance_send hadded hq hr' hnew
    (fun q hq cursor hc => holdsCursor_of_stated hr hq cursor hc) params
  have hqueue : (s.addCursor c).connection.queue = r :: rest := hq
  have hrecord := Client.advance_record (e := .flush c.owner) (hadded.send hnew params)
    (Client.queue_send_cons hqueue params) hr' rfl
  unfold stated
  rw [hsize]
  exact hrecord.trans ((hsend.trans (hcursor.send _ _ _ _ _ _)).note rfl rfl)

end

theorem deferrable_run {statement : String} (hp : statement ∈ p.statements) (params : Params)
    (result : Option String) :
    Deferrable (Underway p) (Underway p) (.run p.opening.tx statement params result) fun s =>
      ran s statement params result where
  perform := fun h => perform_run h statement params result
  leads := by
    intro s h
    unfold ran
    split
    · exact h
    · exact underway_stated h hp rfl params
  congr := by
    intro s s' h hc
    unfold ran stated
    rw [hc.transactions, hc.cursors]
    split
    · exact hc
    · exact ((hc.addCursor _).send _ _ _ _ _ _).note rfl rfl
  advance := by
    intro s r rest h hq
    have hsame := undisturbed_advance h.neat hq (h.queue r (by simp [hq]))
    unfold ran
    rw [hsame.transactions]
    split
    · exact .refl _
    · exact advance_stated h hp rfl hq params

theorem deferrable_use {u : Use} (hu : u ∈ p.uses) :
    ∃ f, Deferrable (Underway p) (Underway p) (u.step p.opening.tx) f := by
  cases u with
  | run statement params result =>
      have hp : statement ∈ p.statements := List.mem_filterMap.2 ⟨_, hu, rfl⟩
      exact ⟨_, deferrable_run hp params result⟩
  | consume result handle => exact ⟨_, deferrable_consume result handle⟩
  | success =>
      refine ⟨_, deferrable_change (fun s h => ?_) fun t => InUse.markSuccess⟩
      rcases h.transactions with ⟨t, ht, huse⟩
      exact congrArg Prod.snd (onTransaction_of_alone ht huse.holdings _)
  | failure =>
      refine ⟨_, deferrable_change (fun s h => ?_) fun t => InUse.markFailure⟩
      rcases h.transactions with ⟨t, ht, huse⟩
      exact congrArg Prod.snd (onTransaction_of_alone ht huse.holdings _)
  | setBookmark source =>
      cases hb : Bookmark.ofSource? source with
      | some b =>
          refine ⟨_, deferrable_change (fun s h => ?_) fun t ht => ht.setBookmark b⟩
          rcases h.transactions with ⟨t, ht, huse⟩
          simp [Use.step, perform, onTransaction_of_alone ht huse.holdings, hb]
      | none =>
          refine ⟨_, deferrable_idle fun s h => ?_⟩
          rcases h.transactions with ⟨t, ht, huse⟩
          simp [Use.step, perform, onTransaction_of_alone ht huse.holdings, hb]

/-! ## Ending -/

/-- What a terminal operation sends, if it sends anything: an exchange with its statement, and the
handler of the last reply. -/
def sending? : Course → Option (Exchange × String × (TerminalChain → Handler))
  | .finish _ => none
  | .commit => some (.commit, Message.commit, .committed)
  | .commitOrRollback =>
      some (.commit, Message.commit, fun done => .committed (.fallback .rollback done))
  | .rollback => some (.rollback, Message.rollback, .rolledBack)

/-- A transaction that is in use is ended by an exchange. -/
theorem exists_sending? {name : String} {t : Transaction} (h : InUse name t) (terminal : Terminal) :
    ∃ exchange, sending? (terminal.course t.state) = some exchange := by
  rcases h.state with hs | hs | hs <;> cases terminal <;> rw [hs] <;> exact ⟨_, rfl⟩

theorem ends_of_sending? {course : Course} {exchange : Exchange} {statement : String}
    {handler : TerminalChain → Handler} (h : sending? course = some (exchange, statement, handler))
    (done : TerminalChain) :
    ∃ done', handler done = .committed done' ∨ handler done = .rolledBack done' := by
  cases course <;> cases h
  · exact ⟨_, Or.inl rfl⟩
  · exact ⟨_, Or.inl rfl⟩
  · exact ⟨_, Or.inr rfl⟩

theorem sendTerminal_of_sending? {course : Course} {exchange : Exchange} {statement : String}
    {handler : TerminalChain → Handler} (h : sending? course = some (exchange, statement, handler))
    (s : Client) (done : TerminalChain) :
    sendTerminal s 0 course done =
      (s.send 0 exchange statement [] .ignore (handler done)).flush 0 := by
  cases course <;> cases h <;> rfl

/-- What the end of the transaction comes to before replies come. -/
def closing (terminal : Terminal) (name : Option String) (s : Client) : Client :=
  match s.transactions[0]?.bind fun t => sending? (terminal.course t.state) with
  | some (exchange, statement, handler) =>
      ((claimed s 0 name).send 0 exchange statement [] .ignore
        (handler (ending (.handle s.handles.length)))).record (.flush 0)
  | none => s

theorem perform_endStep (h : Underway p s) (terminal : Terminal) (name : Option String) :
    (perform .nonblocking s (endStep p.opening.tx name terminal)).2 =
      (closing terminal name s).settle := by
  rcases h.onTransaction fun tx _ => (.done, Nonblocking.terminate s tx terminal name) with
    ⟨t, ht, huse, hon⟩
  rcases exists_sending? huse terminal with ⟨⟨exchange, statement, handler⟩, hsending⟩
  have hplace : s.transactions[0]? = some t := by simp [ht]
  have hperform : (perform .nonblocking s (endStep p.opening.tx name terminal)).2 =
      Nonblocking.terminate s 0 terminal name := by
    cases terminal <;> exact congrArg Prod.snd hon
  rw [hperform, terminate_of_unclaimed hplace huse.closing, sendTerminal_of_sending? hsending,
    closing, hplace, Option.bind_some, hsending]
  rfl

/-- The requests of an exchange that ends a transaction are for no result. -/
theorem holdsCursor_of_ends {tx : Nat} {exchange : Exchange} {statement : String}
    {onPull : Handler} (hpull : ∃ done, onPull = .committed done ∨ onPull = .rolledBack done)
    {q : Request} (hq : q ∈ s.requests tx exchange statement .ignore onPull) (cursor : Nat) :
    q.holdsCursor cursor = false := by
  simp only [Client.requests, List.mem_cons, List.not_mem_nil, or_false] at hq
  rcases hpull with ⟨done, rfl | rfl⟩ <;> rcases hq with rfl | rfl <;> rfl

theorem deferrable_endStep (terminal : Terminal) (name : Option String) :
    Deferrable (Underway p) Client.Neat (endStep p.opening.tx name terminal)
      (closing terminal name) where
  perform := fun h => Or.inr (perform_endStep h terminal name)
  leads := by
    intro s h
    unfold closing
    split
    · rename_i exchange statement handler hsending
      rcases Option.bind_eq_some_iff.1 hsending with ⟨t, -, hsending⟩
      have hclaimed := (h.neat.updateTransaction 0 Transaction.claim).addHandle (.fresh name)
      exact (hclaimed.send (fun q hq => Client.ends_of_requests (ends_of_sending? hsending _) hq _)
        []).record rfl
    · exact h.neat
  congr := by
    intro s s' h hc
    unfold closing claimed
    rw [hc.transactions, hc.size]
    split
    · exact (((hc.updateTransaction 0 _).addHandle rfl).send _ _ _ _ _ _).note rfl rfl
    · exact hc
  advance := by
    intro s r rest h hq
    have hr := h.queue r (by simp [hq])
    have hsame := undisturbed_advance h.neat hq hr
    unfold closing
    rw [hsame.transactions]
    split
    · rename_i exchange statement handler hsending
      rcases Option.bind_eq_some_iff.1 hsending with ⟨t, -, hsending⟩
      have hends := ends_of_sending? hsending (ending (.handle s.handles.length))
      have hclaim := h.neat.updateTransaction 0 Transaction.claim
      have hclaimed := hclaim.addHandle (.fresh name)
      have hqueue : (claimed s 0 name).connection.queue = r :: rest := hq
      have hnew : ∀ q ∈ (claimed s 0 name).requests 0 exchange statement .ignore
          (handler (ending (.handle s.handles.length))),
          q.Mild (claimed s 0 name).cursors.length ∨ q.Ends :=
        fun q hq => Client.ends_of_requests hends hq _
      -- The claim, the handle, the exchange and its flush, one after the other.
      have hstate := Client.advance_updateTransaction h.neat hq hr 0 Transaction.claim
      have hhandle := Client.advance_addHandle hclaim hq hr (.fresh name)
      have hsend := Client.advance_send hclaimed hqueue hr hnew
        (fun q hq cursor _ => holdsCursor_of_ends hends hq cursor) []
      have hrecord := Client.advance_record (e := .flush 0) (hclaimed.send hnew [])
        (Client.queue_send_cons hqueue []) hr rfl
      rw [hsame.size]
      exact hrecord.trans ((hsend.trans ((hhandle.trans (hstate.addHandle rfl)).send
        _ _ _ _ _ _)).note rfl rfl)
    · exact .refl _

end

end Scenario

end ClientTransaction
