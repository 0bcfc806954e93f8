import ClientTransaction.Proofs.Client.Lasting
import ClientTransaction.Proofs.Client.Wakes
import ClientTransaction.Scenario

/-!
# Nonblocking.Moves — what can happen while nobody waits

While replies are delivered or given up, a client goes through situations that no caller sees. A
situation is a client together with the requests that are still to be answered; between two steps
these are the queue, but a request that is given up has left the queue before its turn comes. Every
step of an application is a sequence of a few kinds of moves from one situation to the next.
-/

namespace ClientTransaction

/-- The requests of a ROLLBACK exchange that is to be started. -/
def Client.opening (s : Client) : Option Rollback → List Request
  | some r => s.requests r.tx .rollback Message.rollback .ignore (.rolledBack r.done)
  | none => []

/-- Nobody has touched the transaction yet. -/
def Transaction.isFresh (t : Transaction) : Prop :=
  t.footing = ⟨false, none⟩ ∧ t.holdings = []

namespace Nonblocking

structure Situation where
  outstanding : List Request
  client : Client

/-- A client between two steps. -/
def Situation.of (s : Client) : Situation :=
  ⟨s.connection.queue, s⟩

/-- What is left to do when a terminal operation ends, apart from its own replies. -/
def ending (l : Listener) : TerminalChain :=
  .finalizer .close (.sink l)

/-- The listener is told a result. -/
def tell (s : Client) (result : Except Error Unit) : Listener → Client
  | .handle handle => s.resolve handle (result.map fun _ => Payload.unit)
  | .nobody => s

/-- A client after a claim of `tx`, with the handle for it. -/
def claimed (s : Client) (tx : Nat) (name : Option String) : Client :=
  (s.updateTransaction tx Transaction.claim).addHandle (.fresh name)

/-- The situation after an exchange that ends `tx` has been sent. -/
def sent (rs : List Request) (s : Client) (tx : Nat) (exchange : Exchange) (statement : String)
    (handler : Handler) : Situation :=
  ⟨rs ++ s.requests tx exchange statement .ignore handler,
    s.send tx exchange statement [] .ignore handler⟩

/-- The situation after a claim of `tx` that takes a course. -/
def taken (rs : List Request) (s : Client) (tx : Nat) (name : Option String) : Course → Situation
  | .finish result =>
      ⟨rs, tell ((claimed s tx name).release tx) result (.handle s.handles.length)⟩
  | .commit =>
      sent rs (claimed s tx name) tx .commit Message.commit
        (.committed (ending (.handle s.handles.length)))
  | .commitOrRollback =>
      sent rs (claimed s tx name) tx .commit Message.commit
        (.committed (.fallback .rollback (ending (.handle s.handles.length))))
  | .rollback =>
      sent rs (claimed s tx name) tx .rollback Message.rollback
        (.rolledBack (ending (.handle s.handles.length)))

/-- The situation after BEGIN has been sent for a transaction that can be taken at once. -/
def begunAtOnce (rs : List Request) (s : Client) (t : Transaction) (params : Params)
    (name : Option String) : Situation :=
  ⟨rs ++ (s.addTransaction t).requests s.transactions.length .begin Message.begin .ignore .ignore,
    ((s.addTransaction t).send s.transactions.length .begin Message.begin params .ignore
      .ignore).addHandle (.ready name (.ok (.transaction s.transactions.length)))⟩

/-- The situation after BEGIN has been sent for a transaction that is to be acknowledged. -/
def begunAwaited (rs : List Request) (s : Client) (t : Transaction) (params : Params)
    (name : Option String) : Situation :=
  ⟨rs ++ ((s.addTransaction t).addHandle (.fresh name)).requests s.transactions.length .begin
      Message.begin .ignore (.begun s.handles.length),
    ((s.addTransaction t).addHandle (.fresh name)).send s.transactions.length .begin Message.begin
      params .ignore (.begun s.handles.length)⟩

inductive Move : Situation → Situation → Prop
  | calm {rs : List Request} {s s' : Client} (h : s.Calm s') : Move ⟨rs, s⟩ ⟨rs, s'⟩
  | connect {rs : List Request} {s : Client} (f : Connection → Connection) :
      Move ⟨rs, s⟩ ⟨rs, s.updateConnection f⟩
  | flush {rs : List Request} {s : Client} (tx : Nat) :
      Move ⟨rs, s⟩ ⟨rs, s.record (.flush tx)⟩
  /-- A statement is sent. -/
  | send {rs : List Request} {s : Client} (tx cursor : Nat) (statement : String)
      (params : Params) :
      Move ⟨rs, s⟩
        ⟨rs ++ s.requests tx (.statement cursor) statement (.columns cursor) (.rows cursor),
          s.send tx (.statement cursor) statement params (.columns cursor) (.rows cursor)⟩
  /-- Someone waits for a result. -/
  | await {rs : List Request} {s : Client} (cursor : Nat) (name : Option String) :
      Move ⟨rs, s⟩
        ⟨rs, (s.updateCursor cursor fun c => c.await s.handles.length).addHandle (.fresh name)⟩
  /-- An outcome that is no transaction is there at once. -/
  | answered {rs : List Request} {s : Client} (name : Option String)
      (result : Except Error Payload) (h : ∀ tx, result ≠ .ok (.transaction tx)) :
      Move ⟨rs, s⟩ ⟨rs, s.addHandle (.ready name result)⟩
  /-- A transaction is begun, and can be taken at once. -/
  | begin {rs : List Request} {s : Client} (t : Transaction) (ht : t.isFresh) (params : Params)
      (name : Option String) : Move ⟨rs, s⟩ (begunAtOnce rs s t params name)
  /-- A transaction is begun, and can be taken when the server has acknowledged it. -/
  | beginAwaited {rs : List Request} {s : Client} (t : Transaction) (ht : t.isFresh)
      (params : Params) (name : Option String) : Move ⟨rs, s⟩ (begunAwaited rs s t params name)
  /-- A terminal operation claims a transaction that the application has. -/
  | claim {rs : List Request} {s : Client} {tx : Nat} {t : Transaction}
      (ht : s.transactions[tx]? = some t) (hc : t.closing = false) (hk : s.Kept tx)
      (name : Option String) (terminal : Terminal) :
      Move ⟨rs, s⟩ (taken rs s tx name (terminal.course t.state))
  /-- An outstanding request gets some reply, and what follows from it is sent. -/
  | answer {s : Client} (before after : List Request) (r : Request) (reply : Reply)
      (others : List Request) :
      Move ⟨before ++ r :: after, s⟩
        ⟨before ++ after ++ (s.answer others { r with reply := reply }).1.opening
            (s.answer others { r with reply := reply }).2,
          (s.answer others { r with reply := reply }).1.start
            (s.answer others { r with reply := reply }).2⟩
  /-- A transaction that nobody holds is rolled back. -/
  | abandon {rs : List Request} {s : Client} (tx : Nat) :
      Move ⟨rs, s⟩ ⟨rs ++ (s.abandon rs tx).1.opening (s.abandon rs tx).2,
        (s.abandon rs tx).1.start (s.abandon rs tx).2⟩

/-- Some number of moves. -/
abbrev Moves :=
  Relation.ReflTransGen Move

/-- The moves that the delivery of replies consists of. The handler of a reply looks at no requests
but those that are still to be answered. -/
inductive Delivery : Situation → Situation → Prop
  | connect {rs : List Request} {s : Client} (f : Connection → Connection) :
      Delivery ⟨rs, s⟩ ⟨rs, s.updateConnection f⟩
  | flush {rs : List Request} {s : Client} (tx : Nat) :
      Delivery ⟨rs, s⟩ ⟨rs, s.record (.flush tx)⟩
  | answer {s : Client} (before after : List Request) (r : Request) (reply : Reply)
      (others : List Request) (ho : others ⊆ before ++ after) :
      Delivery ⟨before ++ r :: after, s⟩
        ⟨before ++ after ++ (s.answer others { r with reply := reply }).1.opening
            (s.answer others { r with reply := reply }).2,
          (s.answer others { r with reply := reply }).1.start
            (s.answer others { r with reply := reply }).2⟩

theorem Delivery.move {σ σ' : Situation} (h : Delivery σ σ') : Move σ σ' := by
  cases h with
  | connect f => exact .connect f
  | flush tx => exact .flush tx
  | answer before after r reply others _ => exact .answer before after r reply others

/-! ## Deliveries -/

/-- Only transactions, outcomes of handles and the history have changed, and only for a handle that
was there someone has been woken. -/
structure Frame (s s' : Client) : Prop where
  connection : s'.connection = s.connection
  cursors : s'.cursors = s.cursors
  size : s'.handles.length = s.handles.length
  silent : ∀ handle, s.handles.length ≤ handle → Client.Silent handle s s'

namespace Frame

theorem refl (s : Client) : Frame s s :=
  ⟨rfl, rfl, rfl, fun handle _ => .refl handle s⟩

theorem trans {s₁ s₂ s₃ : Client} (h : Frame s₁ s₂) (h' : Frame s₂ s₃) : Frame s₁ s₃ where
  connection := h'.connection.trans h.connection
  cursors := h'.cursors.trans h.cursors
  size := h'.size.trans h.size
  silent := by
    intro handle hlt
    have hlt' : s₂.handles.length ≤ handle := h.size ▸ hlt
    exact (h.silent handle hlt).trans (h'.silent handle hlt')

theorem resolve (s : Client) (handle : Nat) (result : Except Error Payload) :
    Frame s (s.resolve handle result) := by
  cases hh : s.handles[handle]? with
  | none =>
      have hsame : s.resolve handle result = s := by simp [Client.resolve, hh]
      rw [hsame]
      exact refl s
  | some h =>
      have hlt : handle < s.handles.length := (List.getElem?_eq_some_iff.1 hh).1
      have hsilent : ∀ place, s.handles.length ≤ place →
          Client.Silent place s (s.resolve handle result) :=
        fun place hle => .resolve s (Nat.ne_of_lt (Nat.lt_of_lt_of_le hlt hle)) result
      -- Only whoever waits for this handle is woken, and the handle was there.
      unfold Client.resolve at hsilent ⊢
      simp only [hh] at hsilent ⊢
      split <;> rename_i heq <;> rw [heq] at hsilent <;>
        exact ⟨rfl, rfl, List.length_set, hsilent⟩

theorem record (s : Client) {e : Event} (he : ∀ handle, e.wake? handle = none) :
    Frame s (s.record e) :=
  ⟨rfl, rfl, rfl, fun handle _ => .record s (he handle)⟩

theorem updateTransaction (s : Client) (tx : Nat) (f : Transaction → Transaction) :
    Frame s (s.updateTransaction tx f) :=
  ⟨rfl, rfl, rfl, fun _ _ => .of_history rfl⟩

theorem release (s : Client) (tx : Nat) : Frame s (s.release tx) :=
  ⟨rfl, rfl, rfl, fun _ _ => .release s tx⟩

theorem abandon (s : Client) (requests : List Request) (tx : Nat) :
    Frame s (s.abandon requests tx).1 := by
  unfold Client.abandon
  split
  · exact refl s
  · split
    · exact refl s
    · dsimp only
      split
      · exact (updateTransaction s tx _).trans (release _ tx)
      · exact updateTransaction s tx _

theorem refuse (s : Client) (tx handle : Nat) (e : Error) : Frame s (s.refuse tx handle e) := by
  unfold Client.refuse
  refine trans ?_ (resolve _ _ _)
  split
  · exact updateTransaction s tx _
  · exact (updateTransaction s tx _).trans (release _ tx)

theorem runFinalizers (s : Client) (tx : Nat) (actions : List (Finalizer × Except Error Unit)) :
    Frame s (s.runFinalizers tx actions) := by
  induction actions generalizing s with
  | nil => exact refl s
  | cons action rest ih =>
      rcases action with ⟨⟨⟩, shown⟩
      exact (release s tx).trans (ih (s.release tx))

theorem fire (s : Client) (tx : Nat) (done : TerminalChain) (result : Except Error Unit) :
    Frame s (s.fire tx done result).1 := by
  have hactions := runFinalizers s tx (done.fire result).1
  unfold Client.fire
  dsimp only
  split
  · exact hactions.trans (resolve _ _ _)
  · exact hactions
  · exact hactions

/-- The end of a request whose handler has a completion. -/
theorem answer (s : Client) (others : List Request) {r : Request}
    (h : r.handler.ownsCompletion = true) : Frame s (s.answer others r).1 := by
  rcases r with ⟨owner, exchange, part, handler, ⟨records, outcome⟩⟩
  have hreply : Frame s (s.record (.reply owner exchange part ⟨records, outcome⟩)) :=
    record s fun _ => rfl
  cases handler with
  | begun handle =>
      cases outcome with
      | success metadata => exact (hreply.trans (resolve _ _ _)).trans (abandon _ _ _)
      | failure e => exact hreply.trans (refuse _ _ _ _)
      | dropped => exact hreply.trans (refuse _ _ _ _)
  | committed done =>
      cases outcome with
      | success metadata =>
          exact (hreply.trans (updateTransaction _ _ _)).trans (fire _ _ _ _)
      | failure e => exact hreply.trans (fire _ _ _ _)
      | dropped => exact hreply.trans (fire _ _ _ _)
  | rolledBack done =>
      cases outcome with
      | success metadata =>
          exact (hreply.trans (updateTransaction _ _ _)).trans (fire _ _ _ _)
      | failure e => exact hreply.trans (fire _ _ _ _)
      | dropped => exact hreply.trans (fire _ _ _ _)
  | _ => simp [Handler.ownsCompletion] at h

end Frame

theorem connection_answer (s : Client) (others : List Request) (r : Request) :
    (s.answer others r).1.connection = s.connection := by
  cases hown : r.handler.ownsCompletion with
  | false => exact (s.calm_answer others hown).1.connection
  | true => exact (Frame.answer s others hown).connection

theorem queue_start (s : Client) (r : Option Rollback) :
    (s.start r).connection.queue = s.connection.queue ++ s.opening r := by
  cases r with
  | none => simp [Client.start, Client.opening]
  | some r =>
      simp only [Client.start, Client.startRollback, Client.opening, Client.frame_record,
        Client.frame_send]

/-- Some deliveries. -/
abbrev Deliveries :=
  Relation.ReflTransGen Delivery

/-- Replies get the client from `s` to `s'`; `before` are requests that have left the queue, and
stand before it. -/
def Delivers (before : List Request) (s s' : Client) : Prop :=
  Deliveries ⟨before ++ s.connection.queue, s⟩ ⟨before ++ s'.connection.queue, s'⟩

namespace Delivers

variable {before : List Request} {s s₁ s₂ : Client}

theorem refl (before : List Request) (s : Client) : Delivers before s s :=
  Relation.ReflTransGen.refl

theorem trans (h : Delivers before s s₁) (h' : Delivers before s₁ s₂) : Delivers before s s₂ :=
  Relation.ReflTransGen.trans h h'

/-- The first request of the queue is answered. -/
theorem next (before : List Request) {r : Request} {rest : List Request}
    (hq : s.connection.queue = r :: rest) :
    Delivers before s
      (((s.updateConnection fun c => { c with queue := rest }).answer rest r).1.start
        ((s.updateConnection fun c => { c with queue := rest }).answer rest r).2) := by
  unfold Delivers
  rw [queue_start, connection_answer, hq]
  -- The request leaves the queue, and is answered at once.
  refine Relation.ReflTransGen.head (.connect fun c => { c with queue := rest }) ?_
  apply Relation.ReflTransGen.single
  simpa [List.append_assoc] using Delivery.answer before rest r r.reply rest fun _ hr =>
    List.mem_append_right before hr

/-- From wherever replies started to come, they lead on. -/
theorem lasting (σ : Situation) :
    Client.Lasting fun before s => Deliveries σ ⟨before ++ s.connection.queue, s⟩ where
  flush := by
    intro before s tx h
    exact h.tail (.flush tx)
  next := by
    intro before s r rest h hq
    exact h.trans (next before hq)
  take := by
    intro s h
    refine h.tail ?_
    have hemptied : Delivery ⟨s.connection.queue, s⟩
        ⟨s.connection.queue, s.updateConnection fun c => { c with queue := [] }⟩ := .connect _
    simpa using hemptied
  giveUp := by
    intro before s r h
    -- The requests after this one are outstanding too, but have left the queue.
    refine h.tail ?_
    rw [queue_start, connection_answer]
    simpa [List.append_assoc] using Delivery.answer [] (before ++ s.connection.queue) r
      { outcome := .dropped } (s := s) (s.connection.queue ++ before) (by simp)

theorem settle (before : List Request) (s : Client) : Delivers before s s.settle :=
  (lasting _).settle .refl

/-- What a handler asks for has been sent, and then the queue is settled. -/
theorem follow (before : List Request) (answer : Client × Option Rollback) :
    Delivers before (answer.1.start answer.2) (Client.follow answer) :=
  (lasting _).follow .refl

theorem flush (before : List Request) (s : Client) (tx : Nat) :
    Delivers before s (s.flush tx) :=
  (lasting _).flushed .refl tx

theorem deliverUpTo (before : List Request) (count : Nat) (first : Option Error) (s : Client) :
    Delivers before s (Client.deliverUpTo count first s).2 :=
  (lasting _).deliverUpTo .refl count first

theorem dropQueue (s : Client) : Delivers [] s s.dropQueue :=
  (lasting _).dropQueue .refl

/-- However replies come, they are delivered. -/
theorem hears (h : s.Hears s₁) : Delivers [] s s₁ :=
  (lasting _).hears h .refl

end Delivers

/-! ## Sequences of moves -/

/-- The client can get from `s` to `s'`; `before` are the requests that have left the queue. -/
def Leads (before : List Request) (s s' : Client) : Prop :=
  Moves ⟨before ++ s.connection.queue, s⟩ ⟨before ++ s'.connection.queue, s'⟩

theorem Deliveries.moves {σ σ' : Situation} (h : Deliveries σ σ') : Moves σ σ' :=
  Relation.ReflTransGen.mono (fun _ _ => Delivery.move) _ _ h

theorem Delivers.leads {before : List Request} {s s' : Client} (h : Delivers before s s') :
    Leads before s s' :=
  Deliveries.moves h

namespace Leads

variable {before : List Request} {s s₁ s₂ : Client}

theorem refl (before : List Request) (s : Client) : Leads before s s :=
  Relation.ReflTransGen.refl

theorem trans (h : Leads before s s₁) (h' : Leads before s₁ s₂) : Leads before s s₂ :=
  Relation.ReflTransGen.trans h h'

theorem of_move {requests : List Request}
    (hq : s₁.connection.queue = s.connection.queue ++ requests)
    (h : Move ⟨before ++ s.connection.queue, s⟩ ⟨before ++ s.connection.queue ++ requests, s₁⟩) :
    Leads before s s₁ := by
  unfold Leads
  rw [hq, ← List.append_assoc]
  exact Relation.ReflTransGen.single h

/-- A move that sends nothing. -/
theorem of_move_same (hq : s₁.connection.queue = s.connection.queue)
    (h : Move ⟨before ++ s.connection.queue, s⟩ ⟨before ++ s.connection.queue, s₁⟩) :
    Leads before s s₁ := by
  unfold Leads
  rw [hq]
  exact Relation.ReflTransGen.single h

/-- A move that sends the two requests of an exchange. -/
theorem of_move_send {tx : Nat} {exchange : Exchange} {statement : String} {params : Params}
    {onRun onPull : Handler} (hq : s₁.connection.queue = s.connection.queue)
    (h : Move ⟨before ++ s.connection.queue, s⟩
      ⟨before ++ s.connection.queue ++ s₁.requests tx exchange statement onRun onPull,
        s₁.send tx exchange statement params onRun onPull⟩) :
    Leads before s (s₁.send tx exchange statement params onRun onPull) := by
  have hsent := (s₁.frame_send tx exchange statement params onRun onPull).2.2.2.1
  rw [hq] at hsent
  exact of_move hsent h

theorem calm (before : List Request) (h : s.Calm s₁) : Leads before s s₁ :=
  of_move_same (by rw [h.connection]) (.calm h)

theorem connect (before : List Request) (s : Client) (f : Connection → Connection)
    (hq : (f s.connection).queue = s.connection.queue) :
    Leads before s (s.updateConnection f) :=
  of_move_same hq (.connect f)

end Leads

/-! ## Terminal operations -/

/-- Without a fallback the outcome gets to the listener at once, after the transaction has ended. -/
theorem fire_ending (s : Client) (tx : Nat) (l : Listener) (result : Except Error Unit) :
    s.fire tx (ending l) result = (tell (s.release tx) result l, none) := by
  cases l <;> rfl

/-- Whatever a claim sends is queued. -/
theorem queue_taken (s : Client) (tx : Nat) (name : Option String) (course : Course) :
    (taken s.connection.queue s tx name course).outstanding =
      (taken s.connection.queue s tx name course).client.connection.queue := by
  cases course with
  | finish result =>
      simp only [taken, tell]
      rw [(Frame.resolve _ _ _).connection]
      rfl
  | commit => exact ((claimed s tx name).frame_send _ _ _ _ _ _).2.2.2.1.symm
  | commitOrRollback => exact ((claimed s tx name).frame_send _ _ _ _ _ _).2.2.2.1.symm
  | rollback => exact ((claimed s tx name).frame_send _ _ _ _ _ _).2.2.2.1.symm

/-- After the claim an exchange is flushed, and nothing else is done. -/
theorem hears_sendTerminal (s : Client) (tx : Nat) (name : Option String) (course : Course) :
    (taken s.connection.queue s tx name course).client.Hears
      (sendTerminal (claimed s tx name) tx course (ending (.handle s.handles.length))) := by
  cases course with
  | finish result =>
      simp only [sendTerminal, taken, fire_ending, Client.follow, tell]
      exact .nothing
  | commit => exact .flush tx
  | commitOrRollback => exact .flush tx
  | rollback => exact .flush tx

theorem deliveries_sendTerminal (s : Client) (tx : Nat) (name : Option String) (course : Course) :
    Deliveries (taken s.connection.queue s tx name course)
      (.of (sendTerminal (claimed s tx name) tx course (ending (.handle s.handles.length)))) := by
  have hhears := Delivers.hears (hears_sendTerminal s tx name course)
  unfold Delivers at hhears
  rw [← queue_taken] at hhears
  exact hhears

/-- A terminal operation on a transaction that nobody has claimed. -/
theorem terminate_of_unclaimed {s : Client} {tx : Nat} {t : Transaction}
    (ht : s.transactions[tx]? = some t) (hc : t.closing = false) (terminal : Terminal)
    (name : Option String) :
    terminate s tx terminal name = sendTerminal (claimed s tx name) tx (terminal.course t.state)
      (ending (.handle s.handles.length)) := by
  simp only [terminate, ht, hc, Bool.false_eq_true, if_false]
  rfl

/-- A terminal operation on a transaction that has been claimed. -/
theorem terminate_of_claimed {s : Client} {tx : Nat} {t : Transaction}
    (ht : s.transactions[tx]? = some t) (hc : t.closing = true) (terminal : Terminal)
    (name : Option String) :
    terminate s tx terminal name =
      s.addHandle (.ready name (if t.isOpen then .error .alreadyClosing else .ok .unit)) := by
  simp [terminate, ht, hc]

/-! ## Names -/

section

variable {s : Client} {name : String} {tx : Nat}

/-- A name stands for a transaction that is held. -/
theorem exists_of_transaction? (h : Scenario.transaction? s name = some tx) :
    ∃ t : Transaction, s.transactions[tx]? = some t ∧ t.isHeldAs name = true := by
  unfold Scenario.transaction? at h
  rcases List.findIdx?_eq_some_iff_getElem.1 h with ⟨hlt, hheld, -⟩
  exact ⟨s.transactions[tx], List.getElem?_eq_getElem hlt, hheld⟩

theorem kept_of_transaction? (h : Scenario.transaction? s name = some tx) : s.Kept tx := by
  rcases exists_of_transaction? h with ⟨t, ht, hheld⟩
  refine Or.inl ⟨t, ht, ?_⟩
  intro hnone
  simp [Transaction.isHeldAs, hnone] at hheld

end

end Nonblocking

end ClientTransaction
