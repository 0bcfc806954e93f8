import ClientTransaction.Proofs.Scenario.ExactlyOnce
import ClientTransaction.Proofs.Scenario.Programs

/-!
# Scenario.Queries — actions on two clients side by side

Whether the caller of a statement waits for its result, or flushes and asks a handle, the statement
is refused or sent alike and the result is the same; so are marks. Two clients that are side by side
stay so through any sequence of actions, as long as results have different names.
-/

namespace ClientTransaction.Scenario

/-! ## Marks -/

section

variable {b : Begin} {s s' : Client}

/-- A step that changes the transaction alone is answered alike. -/
theorem aligned_change (h : Aligned b.tx s s') {f : Transaction → Transaction}
    (hf : ∀ t : Transaction, (f t).footing = t.footing)
    (hh : ∀ t : Transaction, (f t).holdings = t.holdings) :
    (change s b.tx f).1 = (change s' b.tx f).1 ∧
      Aligned b.tx (change s b.tx f).2 (change s' b.tx f).2 ∧
        (change s b.tx f).2.cursors = s.cursors := by
  rcases h.exists_transaction with ⟨t, hs, ht, -, -⟩
  have hs' : s'.transactions = [t] := by rw [← h.alike.transactions, hs]
  unfold change
  rw [onTransaction_of_alone hs ht, onTransaction_of_alone hs' ht]
  exact ⟨rfl, h.change hf hh, rfl⟩

/-! ## Statements -/

/-- The client after a statement has been sent, with a name for its result. -/
def queried (s : Client) (statement : String) (params : Params) (result : String) : Client :=
  ((s.addCursor { statement := statement, owner := 0, name := some result }).send 0
    (.statement s.cursors.length) statement params (.columns s.cursors.length)
    (.rows s.cursors.length)).record (.flush 0)

/-- The result of a statement, once its replies have come. -/
def resulting (s : Client) (statement result : String) : Cursor :=
  let run := s.connection.runReply statement
  let pull := (s.connection.run 0 (.statement s.cursors.length) statement
    (.columns s.cursors.length)).pullReply
  (Cursor.receive ⟨0, .statement s.cursors.length, .pullAll, .rows s.cursors.length, pull⟩ ∘
    Cursor.receive ⟨0, .statement s.cursors.length, .run, .columns s.cursors.length, run⟩)
    { statement := statement, owner := 0, name := some result }

/-- A result has an outcome, and if that is a summary nothing has failed. -/
theorem outcome_resulting (hfair : ∀ script ∈ s.connection.scripts, script.Fair)
    (statement result : String) :
    ∃ outcome, (resulting s statement result).outcome = some outcome ∧
      (∀ summary, outcome = .ok summary →
        ((s.connection.runReply statement).outcome.failure? <|>
          (s.connection.run 0 (.statement s.cursors.length) statement
            (.columns s.cursors.length)).pullReply.outcome.failure?) = none) := by
  have hhonest := honest_replies hfair 0 (.statement s.cursors.length) statement
    (.columns s.cursors.length)
  unfold resulting
  generalize s.connection.runReply statement = run at hhonest ⊢
  generalize (s.connection.run 0 (.statement s.cursors.length) statement
    (.columns s.cursors.length)).pullReply = pull at hhonest ⊢
  rcases run with ⟨rows, ran⟩
  rcases pull with ⟨rows', pulled⟩
  cases ran with
  | dropped => exact absurd rfl hhonest.answered.1
  | failure e =>
      cases hhonest.refused e rfl
      refine ⟨.error e, ?_, by simp⟩
      simp [Cursor.receive, Cursor.settle, Cursor.isComplete, Cursor.complete,
        Cursor.outcome_pushAll]
  | success metadata =>
      cases pulled with
      | dropped => exact absurd rfl hhonest.answered.2
      | failure e =>
          refine ⟨.error e, ?_, by simp⟩
          simp [Cursor.receive, Cursor.settle, Cursor.isComplete, Cursor.complete,
            Cursor.outcome_pushAll, Cursor.setKeys]
      | success summary =>
          refine ⟨.ok summary, ?_, by simp [Outcome.failure?]⟩
          simp [Cursor.receive, Cursor.settle, Cursor.isComplete, Cursor.complete,
            Cursor.outcome_pushAll, Cursor.setKeys]

theorem queue_queried (s : Client) (statement : String) (params : Params) (result : String) :
    (queried s statement params result).connection.queue = s.connection.queue ++
      [⟨0, .statement s.cursors.length, .run, .columns s.cursors.length,
          s.connection.runReply statement⟩,
        ⟨0, .statement s.cursors.length, .pullAll, .rows s.cursors.length,
          (s.connection.run 0 (.statement s.cursors.length) statement
            (.columns s.cursors.length)).pullReply⟩] :=
  ((s.addCursor { statement := statement, owner := 0, name := some result }).frame_send 0
    (.statement s.cursors.length) statement params (.columns s.cursors.length)
    (.rows s.cursors.length)).2.2.2.1

/-- A statement that is not refused is sent, whether its caller waits or not. -/
theorem runStatement_blocking (hq : s.connection.Quiet) {t : Transaction}
    (ht : s.transactions[0]? = some t) (hr : t.refusal? = none) (statement : String)
    (params : Params) (result : String) :
    Blocking.runStatement s 0 statement params (some result) =
      (none, queried s statement params result) := by
  have hsend := Blocking.send_of_quiet (s := s.addCursor { statement := statement, owner := 0 }) hq
    0 (.statement s.cursors.length) statement params (.columns s.cursors.length)
    (.rows s.cursors.length)
  have hsent := Client.quiet_send (s := s.addCursor { statement := statement, owner := 0 }) hq 0
    (.statement s.cursors.length) statement params (.columns s.cursors.length)
    (.rows s.cursors.length)
  have hnamed : (s.cursors ++ [({ statement := statement, owner := 0 } : Cursor)]).modify
      s.cursors.length (fun c => { c with name := some result }) =
        s.cursors ++ [{ statement := statement, owner := 0, name := some result }] :=
    modify_concat _ _ _
  have hrefusal : s.transactions[0]?.bind Transaction.refusal? = none := by simp [ht, hr]
  unfold Blocking.runStatement
  rw [hrefusal]
  dsimp only
  rw [hsend, Blocking.Sent.andThen, Blocking.flush, Blocking.call_of_quiet hsent]
  simp [queried, Client.updateCursor, Client.record, Client.send, Client.addCursor,
    Client.updateConnection, hnamed]

theorem runStatement_nonblocking (hq : s.connection.Quiet) {t : Transaction}
    (ht : s.transactions[0]? = some t) (hr : t.refusal? = none) (statement : String)
    (params : Params) (result : String) :
    Nonblocking.runStatement s 0 statement params (some result) =
      (none, (queried s statement params result).drain) := by
  have hsent := Client.quiet_send
    (s := s.addCursor { statement := statement, owner := 0, name := some result }) hq 0
    (.statement s.cursors.length) statement params (.columns s.cursors.length)
    (.rows s.cursors.length)
  have hrefusal : s.transactions[0]?.bind Transaction.refusal? = none := by simp [ht, hr]
  simp only [Nonblocking.runStatement, hrefusal, Client.flush_of_quiet hsent]
  rfl

theorem alike_queried (h : Client.Alike s s') (statement : String) (params : Params)
    (result : String) :
    Client.Alike (queried s statement params result) (queried s' statement params result) := by
  unfold queried
  rw [h.cursors]
  exact ((h.addCursor _).send _ _ _ _ _ _).note rfl rfl

/-- The replies to a statement have come, to a caller that has waited for them and to one that has
flushed. -/
structure Received (name statement result : String) (s : Client) (sent : Blocking.Sent)
    (s' : Client) : Prop where
  aligned : Aligned name sent.2 s'
  cursors : sent.2.cursors = s.cursors ++ [resulting s statement result]
  failure : sent.1 = ((s.connection.runReply statement).outcome.failure? <|>
    (s.connection.run 0 (.statement s.cursors.length) statement
      (.columns s.cursors.length)).pullReply.outcome.failure?)

theorem received_queried (h : Aligned b.tx s s') (statement : String) (params : Params)
    (result : String) :
    Received b.tx statement result s
      (((queried s statement params result).record (.sync 0)).deliver none)
      (queried s' statement params result).drain := by
  have hqueue := queue_queried s statement params result
  have hignored : ∀ r ∈ s.connection.queue, r.handler = .ignore := fun r hr => (h.pending r hr).1
  have hnofailure : s.connection.queue.findSome? (fun r => r.reply.outcome.failure?) = none := by
    rw [List.findSome?_eq_none_iff]
    exact fun r hr => (h.pending r hr).2
  have hpassive : ((queried s statement params result).record (.sync 0)).connection.Passive := by
    intro r hr
    have hmem : r ∈ (queried s statement params result).connection.queue := hr
    rw [hqueue] at hmem
    rcases List.mem_append.1 hmem with hmem | hmem
    · simp [hignored r hmem, Handler.ownsCompletion]
    · simp only [List.mem_cons, List.not_mem_nil, or_false] at hmem
      rcases hmem with rfl | rfl <;> rfl
  have halike : Client.Alike ((queried s statement params result).record (.sync 0))
      (queried s' statement params result) :=
    (Client.Alike.record _ rfl).symm.trans (alike_queried h.alike statement params result)
  have hconnection := Client.connection_deliver hpassive
  have hnamed : (queried s statement params result).cursors[s.cursors.length]? =
      some { statement := statement, owner := 0, name := some result } := by
    simp [queried]
  refine ⟨⟨Client.alike_deliver halike hpassive, ?_, ?_, ?_, ?_, ?_, ?_⟩, ?_, ?_⟩
  · rw [hconnection]
    exact ⟨h.quiet.fault, h.quiet.verdicts, h.quiet.isOpen, h.quiet.held⟩
  · rw [hconnection]
    exact h.fair
  · rw [hconnection]
    simp
  · exact (congrArg Prod.fst (Client.names_deliver _ none)).trans h.held
  · exact ((Blocking.made_deliver 0 none hpassive).footing 0).trans h.footing
  · have hnames : (queried s' statement params result).drain.handles.map Handle.name =
        s'.handles.map Handle.name :=
      congrArg (fun names => names.2.2) (Client.names_drain (queried s' statement params result))
    intro handle hmem
    have hmem' := List.mem_map_of_mem (f := Handle.name) hmem
    rw [hnames, List.mem_map] at hmem'
    rcases hmem' with ⟨handle', hmem', hname⟩
    rw [← hname, h.polled handle' hmem']
  · have hpair := Client.cursors_deliver_pair
      (s := (queried s statement params result).record (.sync 0)) hignored hqueue rfl rfl hnamed rfl
    rw [hpair]
    exact modify_concat _ _ _
  · rw [(Blocking.deliver_all hpassive).2.2]
    show (queried s statement params result).connection.queue.findSome? _ = _
    rw [hqueue, List.findSome?_append, hnofailure]
    cases hrun : (s.connection.runReply statement).outcome.failure? <;>
      cases hpull : (s.connection.run 0 (.statement s.cursors.length) statement
        (.columns s.cursors.length)).pullReply.outcome.failure? <;>
      simp [hrun, hpull]

/-! ## Actions -/

/-- What a caller gets of a result. -/
def Answer.ofOutcome : Except Error Params → Answer
  | .ok metadata => .summary metadata
  | .error e => .failed e

/-- A name that is not used stands for no result. -/
theorem cursor?_of_unused {result : String} (hu : some result ∉ s.cursors.map Cursor.name) :
    cursor? s result = none := by
  unfold cursor?
  rw [List.findIdx?_eq_none_iff]
  intro c hc
  simpa using fun hname => hu (List.mem_map.2 ⟨c, hc, hname⟩)

/-- The last result has the name, if no other has. -/
theorem cursor?_of_last {result : String} {cursors : List Cursor} {c : Cursor}
    (hs : s.cursors = cursors ++ [c]) (hc : c.name = some result)
    (hu : some result ∉ cursors.map Cursor.name) : cursor? s result = some cursors.length := by
  have hbefore : cursors.findIdx? (fun c => c.name = some result) = none := by
    rw [List.findIdx?_eq_none_iff]
    intro c hmem
    simpa using fun hname => hu (List.mem_map.2 ⟨c, hmem, hname⟩)
  simp [cursor?, hs, List.findIdx?_append, hbefore, List.findIdx?_cons, hc]

/-- A statement and its result, to a caller that waits. -/
theorem query_blocking (h : Aligned b.tx s s') {t : Transaction} (hs : s.transactions = [t])
    (ht : t.holdings = [⟨b.tx, true⟩]) (hr : t.refusal? = none) (statement : String)
    (params : Params) {result : String} (hu : some result ∉ s.cursors.map Cursor.name)
    {outcome : Except Error Params}
    (ho : (resulting s statement result).outcome = some outcome)
    (hok : ∀ summary, outcome = .ok summary →
      (((queried s statement params result).record (.sync 0)).deliver none).1 = none) :
    perform .blocking s (.run b.tx statement params (some result)) =
        (.done, queried s statement params result) ∧
      perform .blocking (queried s statement params result) (.consume result none) =
        (Answer.ofOutcome outcome,
          (((queried s statement params result).record (.sync 0)).deliver none).2) := by
  have ht0 : s.transactions[0]? = some t := by simp [hs]
  have hquiet : (queried s statement params result).connection.Quiet :=
    Client.quiet_send (s := s.addCursor { statement := statement, owner := 0, name := some result })
      h.quiet 0 (.statement s.cursors.length) statement params (.columns s.cursors.length)
      (.rows s.cursors.length)
  have hfind : cursor? (queried s statement params result) result = some s.cursors.length :=
    cursor?_of_last rfl rfl hu
  have hplace : (queried s statement params result).cursors[s.cursors.length]? =
      some { statement := statement, owner := 0, name := some result } := by
    simp [queried]
  constructor
  · show onTransaction s b.tx _ = _
    rw [onTransaction_of_alone hs ht]
    simp [run, runStatement_blocking h.quiet ht0 hr, Answer.ofFailure]
  · have hcursors := (received_queried h statement params result).cursors
    show onCursor _ result _ = _
    simp only [onCursor, hfind, hplace, Blocking.wait, Cursor.isComplete, Option.isSome_none,
      Bool.false_eq_true, if_false, Blocking.sync_of_quiet hquiet]
    generalize ((queried s statement params result).record (.sync 0)).deliver none = sent
      at hcursors hok ⊢
    rcases sent with ⟨failure, s₃⟩
    have hresult : s₃.cursors[s.cursors.length]? = some (resulting s statement result) := by
      simp [show s₃.cursors = _ from hcursors]
    cases outcome with
    | error e => simp [hresult, ho, Cursor.error?, Answer.ofOutcome, Answer.ofFailure]
    | ok summary =>
        have hnone : failure = none := hok summary rfl
        simp [hresult, ho, hnone, Cursor.error?, Cursor.summary?, Answer.ofOutcome,
          Answer.ofFailure]

theorem query_nonblocking (h : Aligned b.tx s s') {t : Transaction} (hs : s.transactions = [t])
    (ht : t.holdings = [⟨b.tx, true⟩]) (hr : t.refusal? = none) (statement : String)
    (params : Params) {result : String} (hu : some result ∉ s.cursors.map Cursor.name)
    {outcome : Except Error Params}
    (ho : (resulting s statement result).outcome = some outcome) :
    perform .nonblocking s' (.run b.tx statement params (some result)) =
        (.done, (queried s' statement params result).drain) ∧
      (perform .nonblocking (queried s' statement params result).drain
        (.consume result (some b.handle))).2 =
          (queried s' statement params result).drain.addHandle
            (.ready (some b.handle) (outcome.map Payload.summary)) := by
  have hs' : s'.transactions = [t] := by rw [← h.alike.transactions, hs]
  have ht0 : s'.transactions[0]? = some t := by simp [hs']
  have hquiet : s'.connection.Quiet := h.alike.connection ▸ h.quiet
  have hreceived := received_queried h statement params result
  have hcursors : (queried s' statement params result).drain.cursors =
      s.cursors ++ [resulting s statement result] := by
    rw [← hreceived.aligned.alike.cursors, hreceived.cursors]
  have hname : (resulting s statement result).name = some result :=
    (Client.name_receive _ _).trans (Client.name_receive _ _)
  have hfind : cursor? (queried s' statement params result).drain result =
      some s.cursors.length := cursor?_of_last hcursors hname hu
  have hplace : (queried s' statement params result).drain.cursors[s.cursors.length]? =
      some (resulting s statement result) := by
    simp [hcursors]
  constructor
  · show onTransaction s' b.tx _ = _
    rw [onTransaction_of_alone hs' ht]
    simp [run, runStatement_nonblocking hquiet ht0 hr, Answer.ofFailure]
  · show (onCursor _ result _).2 = _
    simp [onCursor, hfind, hplace, Nonblocking.consume, ho]

/-- Both callers see the same of an action, and are at the same point after it. -/
structure Together (b : Begin) (s s' : Client) (action : Action) : Prop where
  shown : shown .blocking s (action.steps b .blocking) =
    shown .nonblocking s' (action.steps b .nonblocking)
  aligned : Aligned b.tx (after .blocking s (action.steps b .blocking))
    (after .nonblocking s' (action.steps b .nonblocking))
  /-- The only new name is that of the result. -/
  names : ∀ name ∈ (after .blocking s (action.steps b .blocking)).cursors.map Cursor.name,
    name ∈ s.cursors.map Cursor.name ∨ name = action.result?

theorem together_change (h : Aligned b.tx s s') {action : Action} {step : Step}
    (hsteps : ∀ flavor, action.steps b flavor = [step]) {f : Transaction → Transaction}
    (hf : ∀ t : Transaction, (f t).footing = t.footing)
    (hh : ∀ t : Transaction, (f t).holdings = t.holdings)
    (hstep : ∀ flavor s, perform flavor s step = change s b.tx f) : Together b s s' action := by
  rcases aligned_change h hf hh with ⟨hanswer, haligned, hcursors⟩
  refine ⟨?_, ?_, ?_⟩
  · rw [hsteps, hsteps, shown_single, shown_single, hstep, hstep, hanswer]
  · rw [hsteps, hsteps]
    show Aligned b.tx (perform .blocking s step).2 (perform .nonblocking s' step).2
    rw [hstep, hstep]
    exact haligned
  · rw [hsteps]
    show ∀ name ∈ (perform .blocking s step).2.cursors.map Cursor.name, _
    rw [hstep, hcursors]
    exact fun name hname => Or.inl hname

/-- A step that is answered alike and changes nothing. -/
theorem together_same (h : Aligned b.tx s s') {action : Action} {step : Step}
    (hsteps : ∀ flavor, action.steps b flavor = [step]) (answer : Answer)
    (hstep : perform .blocking s step = (answer, s))
    (hstep' : perform .nonblocking s' step = (answer, s')) : Together b s s' action := by
  refine ⟨?_, ?_, ?_⟩
  · rw [hsteps, hsteps, shown_single, shown_single, hstep, hstep']
  · rw [hsteps, hsteps]
    show Aligned b.tx (perform .blocking s step).2 (perform .nonblocking s' step).2
    rw [hstep, hstep']
    exact h
  · rw [hsteps]
    show ∀ name ∈ (perform .blocking s step).2.cursors.map Cursor.name, _
    rw [hstep]
    exact fun name hname => Or.inl hname

/-- Handles that have given their outcome do not matter. -/
theorem Aligned.handles {name : String} (h : Aligned name s s') {handles : List (Handle Payload)}
    (hnone : ∀ h ∈ handles, h.name = none) : Aligned name s { s' with handles := handles } :=
  { h with
    alike := h.alike.trans ⟨rfl, rfl, rfl, rfl⟩
    polled := hnone }

theorem handle?_of_polled {name handle : String} (h : Aligned name s s') :
    handle? s' handle = none := by
  unfold handle? Handle.find?
  rw [List.findIdx?_eq_none_iff]
  intro hd hmem
  simp [h.polled hd hmem]

/-- A statement that is refused has no result to ask for. -/
theorem together_refused (h : Aligned b.tx s s') {t : Transaction} (hs : s.transactions = [t])
    (ht : t.holdings = [⟨b.tx, true⟩]) {e : Error} (hr : t.refusal? = some e) (statement : String)
    (params : Params) {result : String} (hu : some result ∉ s.cursors.map Cursor.name) :
    Together b s s' (.query statement params result) := by
  have hs' : s'.transactions = [t] := by rw [← h.alike.transactions, hs]
  have hu' : some result ∉ s'.cursors.map Cursor.name := by rwa [← h.alike.cursors]
  have hrun : perform .blocking s (.run b.tx statement params (some result)) = (.failed e, s) := by
    show onTransaction s b.tx _ = _
    rw [onTransaction_of_alone hs ht]
    simp [run, Blocking.runStatement, hs, hr, Answer.ofFailure]
  have hrun' : perform .nonblocking s' (.run b.tx statement params (some result)) =
      (.failed e, s') := by
    show onTransaction s' b.tx _ = _
    rw [onTransaction_of_alone hs' ht]
    simp [run, Nonblocking.runStatement, hs', hr, Answer.ofFailure]
  have hconsume : perform .blocking s (.consume result none) = (.missing, s) := by
    show onCursor s result _ = _
    simp [onCursor, cursor?_of_unused hu]
  have hconsume' : perform .nonblocking s' (.consume result (some b.handle)) = (.missing, s') := by
    show onCursor s' result _ = _
    simp [onCursor, cursor?_of_unused hu']
  have hpoll : perform .nonblocking s' (.poll b.handle) = (.missing, s') := by
    show onHandle s' b.handle _ = _
    simp [onHandle, handle?_of_polled h]
  refine ⟨?_, ?_, ?_⟩
  · show shown .blocking s [_, _] = shown .nonblocking s' [_, _, _]
    rw [shown_pair, shown_triple, hrun, hrun', hconsume, hconsume', hpoll]
  · show Aligned b.tx (perform .blocking (perform .blocking s _).2 _).2
      (perform .nonblocking (perform .nonblocking (perform .nonblocking s' _).2 _).2 _).2
    rw [hrun, hrun', hconsume, hconsume', hpoll]
    exact h
  · show ∀ name ∈ (perform .blocking (perform .blocking s _).2 _).2.cursors.map Cursor.name, _
    rw [hrun, hconsume]
    exact fun name hname => Or.inl hname

/-- A statement that is accepted, and its result. -/
theorem together_accepted (h : Aligned b.tx s s') {t : Transaction} (hs : s.transactions = [t])
    (ht : t.holdings = [⟨b.tx, true⟩]) (hr : t.refusal? = none) (statement : String)
    (params : Params) {result : String} (hu : some result ∉ s.cursors.map Cursor.name) :
    Together b s s' (.query statement params result) := by
  rcases outcome_resulting h.fair statement result with ⟨outcome, ho, hok⟩
  have hreceived := received_queried h statement params result
  rcases query_blocking h hs ht hr statement params hu ho
    (fun summary hsummary => hreceived.failure.trans (hok summary hsummary)) with ⟨hrun, hconsume⟩
  rcases query_nonblocking h hs ht hr statement params hu ho with ⟨hrun', hconsume'⟩
  have hpolled := hreceived.aligned.polled
  have hpoll := perform_poll b.handle hpolled
    (s := (queried s' statement params result).drain.addHandle
      (.ready (some b.handle) (outcome.map Payload.summary))) rfl
  have hgone : ∀ h ∈ (queried s' statement params result).drain.handles ++ [⟨none, .spent⟩],
      Handle.name h = none := by
    intro h hmem
    rcases List.mem_append.1 hmem with hmem | hmem
    · exact hpolled h hmem
    · rw [List.mem_singleton.1 hmem]
  have hadopt : perform .nonblocking ((queried s' statement params result).drain.addHandle
      (.ready (some b.handle) (outcome.map Payload.summary))) (.poll b.handle) =
        (Answer.ofOutcome outcome, { (queried s' statement params result).drain with
          handles := (queried s' statement params result).drain.handles ++ [⟨none, .spent⟩] }) := by
    rw [hpoll]
    cases outcome <;> rfl
  refine ⟨?_, ?_, ?_⟩
  · show shown .blocking s [_, _] = shown .nonblocking s' [_, _, _]
    rw [shown_pair, shown_triple, hrun, hrun', hconsume, hconsume', hadopt]
  · show Aligned b.tx (perform .blocking (perform .blocking s _).2 _).2
      (perform .nonblocking (perform .nonblocking (perform .nonblocking s' _).2 _).2 _).2
    rw [hrun, hrun', hconsume, hconsume', hadopt]
    exact hreceived.aligned.handles hgone
  · show ∀ name ∈ (perform .blocking (perform .blocking s _).2 _).2.cursors.map Cursor.name, _
    rw [hrun, hconsume, hreceived.cursors]
    intro name hname
    have hlast : (resulting s statement result).name = some result :=
      (Client.name_receive _ _).trans (Client.name_receive _ _)
    simpa [hlast, Action.result?] using hname

theorem together (h : Aligned b.tx s s') (action : Action)
    (hfair : ∀ script, action.script? = some script → script.Fair)
    (hunused : ∀ result, action.result? = some result → some result ∉ s.cursors.map Cursor.name) :
    Together b s s' action := by
  rcases h.exists_transaction with ⟨t, hs, ht, hc, ho⟩
  have hs' : s'.transactions = [t] := by rw [← h.alike.transactions, hs]
  cases action with
  | server script =>
      refine ⟨rfl, ?_, fun name hname => Or.inl hname⟩
      refine { h with
        alike := h.alike.updateConnection fun c => c.setScript script
        quiet := ⟨h.quiet.fault, h.quiet.verdicts, h.quiet.isOpen, h.quiet.held⟩
        fair := ?_ }
      -- The new script is fair too, and replaces at most one of the others.
      intro other hmem
      rcases List.mem_cons.1 hmem with rfl | hmem
      · exact hfair _ rfl
      · exact h.fair other (List.mem_filter.1 hmem).1
  | success =>
      exact together_change h (fun _ => rfl) Transaction.footing_markSuccess (fun _ => rfl)
        fun _ _ => rfl
  | failure =>
      exact together_change h (fun _ => rfl) Transaction.footing_markFailure (fun _ => rfl)
        fun _ _ => rfl
  | setBookmark source =>
      cases hsource : Bookmark.ofSource? source with
      | some bookmark =>
          exact together_change h (fun _ => rfl) (Transaction.footing_setBookmark bookmark)
            (Client.Calm.holdings_setBookmark bookmark)
            fun _ _ => by simp [perform, change, hsource]
      | none =>
          refine together_same h (fun _ => rfl) (.unreadable .json) ?_ ?_
          · simp [perform, onTransaction_of_alone hs ht, hsource]
          · simp [perform, onTransaction_of_alone hs' ht, hsource]
  | query statement params result =>
      cases hr : t.refusal? with
      | some e => exact together_refused h hs ht hr statement params (hunused result rfl)
      | none => exact together_accepted h hs ht hr statement params (hunused result rfl)

/-! ## Sequences of actions -/

/-- The client after some actions. -/
def acted (b : Begin) (flavor : Flavor) (s : Client) (actions : List Action) : Client :=
  after flavor s (actions.flatMap (Action.steps b flavor))

theorem acted_cons (b : Begin) (flavor : Flavor) (s : Client) (action : Action)
    (rest : List Action) : acted b flavor s (action :: rest) =
      acted b flavor (after flavor s (action.steps b flavor)) rest := by
  unfold acted
  rw [List.flatMap_cons, after_append]

theorem together_actions (h : Aligned b.tx s s') {actions : List Action}
    (hfair : ∀ script ∈ actions.filterMap Action.script?, script.Fair)
    (hunused : ∀ result ∈ actions.filterMap Action.result?,
      some result ∉ s.cursors.map Cursor.name)
    (hdistinct : (actions.filterMap Action.result?).Nodup) :
    dialogue b .blocking s actions = dialogue b .nonblocking s' actions ∧
      Aligned b.tx (acted b .blocking s actions) (acted b .nonblocking s' actions) := by
  induction actions generalizing s s' with
  | nil => exact ⟨rfl, h⟩
  | cons action rest ih =>
      have hfirst : Together b s s' action := by
        refine together h action ?_ ?_
        · exact fun script hscript => hfair script (List.mem_filterMap.2 ⟨action, by simp, hscript⟩)
        · exact fun result hresult => hunused result
            (List.mem_filterMap.2 ⟨action, by simp, hresult⟩)
      have hsplit : (action :: rest).filterMap Action.result? =
          action.result?.toList ++ rest.filterMap Action.result? := by
        cases hr : action.result? <;> simp [hr]
      rw [hsplit] at hunused hdistinct
      rw [List.nodup_append] at hdistinct
      rcases ih hfirst.aligned
        (fun script hscript => hfair script (by
          rcases List.mem_filterMap.1 hscript with ⟨other, hmem, hother⟩
          exact List.mem_filterMap.2 ⟨other, List.mem_cons_of_mem _ hmem, hother⟩))
        (fun result hresult hname => by
          rcases hfirst.names _ hname with hname | hname
          · exact hunused result (List.mem_append_right _ hresult) hname
          · -- Two results of one name.
            exact hdistinct.2.2 result (by simp [← hname]) result hresult rfl)
        hdistinct.2.1 with ⟨hdialogue, haligned⟩
      refine ⟨?_, ?_⟩
      · rw [dialogue, dialogue, hfirst.shown, hdialogue]
      · rw [acted_cons, acted_cons]
        exact haligned

end

end ClientTransaction.Scenario
