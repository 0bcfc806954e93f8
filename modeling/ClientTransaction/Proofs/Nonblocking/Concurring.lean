import ClientTransaction.Proofs.Nonblocking.Draining
import ClientTransaction.Proofs.Nonblocking.Statements

/-!
# Nonblocking.Concurring — clients that look the same

Two clients concur if they have sent the same requests, know the same of their transactions and
results, have the same replies to come, and their handles show the same. A handle that nobody holds
shows nothing, and whether replies are held back does not show either. Clients that concur stay so
while their queues are answered, as long as no reply to a statement is a failure.
-/

namespace ClientTransaction

/-! ## What is shown -/

/-- What the holder of a handle has; nobody has anything of a handle that nobody holds. -/
def Handle.shown {α : Type} (h : Handle α) : Handle α :=
  if h.isHeld then h else h.drop

/-- An outcome shows in the same way wherever the handle does. -/
theorem Handle.shown_resolve {α : Type} (h : Handle α) (result : Except Error α) :
    (h.resolve result).shown = h.shown.resolve result := by
  rcases h with ⟨name, state⟩
  cases name <;> cases state <;> rfl

theorem Handle.shown_heed (waiters : List Nat) (verdict : Option (Except Error Payload))
    (place : Nat) (h : Handle Payload) :
    (h.heed waiters verdict place).shown = h.shown.heed waiters verdict place := by
  unfold heed
  cases verdict with
  | none => rfl
  | some result =>
      dsimp only
      split
      · exact h.shown_resolve result
      · rfl

/-- The connection, whether or not replies are held back. -/
def Connection.unheld (c : Connection) : Connection :=
  { c with held := false }

namespace Client

open Nonblocking

def unheld (s : Client) : Client :=
  s.updateConnection Connection.unheld

structure Concurs (s s' : Client) : Prop where
  alike : Alike s.unheld s'.unheld
  handles : s.handles.map Handle.shown = s'.handles.map Handle.shown

namespace Concurs

variable {s s' s₁ s₂ : Client}

theorem of_alike (h : Alike s s') (hh : s.handles = s'.handles) : Concurs s s' :=
  ⟨h.updateConnection _, by rw [hh]⟩

theorem refl (s : Client) : Concurs s s :=
  of_alike (.refl s) rfl

theorem symm (h : Concurs s s') : Concurs s' s :=
  ⟨h.alike.symm, h.handles.symm⟩

theorem trans (h : Concurs s s₁) (h' : Concurs s₁ s₂) : Concurs s s₂ :=
  ⟨h.alike.trans h'.alike, h.handles.trans h'.handles⟩

instance : Trans Concurs Concurs Concurs :=
  ⟨trans⟩

theorem record (s : Client) {e : Event} (he : e.request? = none) : Concurs s (s.record e) :=
  of_alike (.record s he) rfl

/-! ## What clients that concur have in common -/

theorem transactions (h : Concurs s s') : s.transactions = s'.transactions :=
  h.alike.transactions

theorem cursors (h : Concurs s s') : s.cursors = s'.cursors :=
  h.alike.cursors

theorem queue (h : Concurs s s') : s.connection.queue = s'.connection.queue := by
  have hqueue := congrArg Connection.queue h.alike.connection
  exact hqueue

theorem scripts (h : Concurs s s') : s.connection.scripts = s'.connection.scripts := by
  have hscripts := congrArg Connection.scripts h.alike.connection
  exact hscripts

theorem requests (h : Concurs s s') : s.sentRequests = s'.sentRequests :=
  h.alike.requests

theorem size (h : Concurs s s') : s.handles.length = s'.handles.length := by
  simpa using congrArg List.length h.handles

theorem load (h : Concurs s s') : s.connection.load = s'.connection.load := by
  rw [Connection.load, Connection.load, h.queue]

/-! ## What both do -/

theorem note (h : Concurs s s') {e f : Event} (he : e.request? = none) (hf : f.request? = none) :
    Concurs (s.record e) (s'.record f) :=
  ((record s he).symm.trans h).trans (record s' hf)

theorem updateTransaction (h : Concurs s s') (tx : Nat) (f : Transaction → Transaction) :
    Concurs (s.updateTransaction tx f) (s'.updateTransaction tx f) :=
  ⟨h.alike.updateTransaction tx f, h.handles⟩

theorem addTransaction (h : Concurs s s') (t : Transaction) :
    Concurs (s.addTransaction t) (s'.addTransaction t) :=
  ⟨⟨congrArg (fun ts => ts ++ [t]) h.transactions, h.cursors, h.alike.connection, h.requests⟩,
    h.handles⟩

theorem updateCursor (h : Concurs s s') (cursor : Nat) (f : Cursor → Cursor) :
    Concurs (s.updateCursor cursor f) (s'.updateCursor cursor f) :=
  ⟨h.alike.updateCursor cursor f, h.handles⟩

theorem addCursor (h : Concurs s s') (c : Cursor) : Concurs (s.addCursor c) (s'.addCursor c) :=
  ⟨h.alike.addCursor c, h.handles⟩

/-- Both get a handle that shows the same. -/
theorem addHandle (h : Concurs s s') {hd hd' : Handle Payload} (hs : hd.shown = hd'.shown) :
    Concurs (s.addHandle hd) (s'.addHandle hd') := by
  refine ⟨⟨h.transactions, h.cursors, h.alike.connection, h.requests⟩, ?_⟩
  simp only [frame_addHandle, List.map_append, List.map_cons, List.map_nil, h.handles, hs]

theorem send (h : Concurs s s') (tx : Nat) (exchange : Exchange) (statement : String)
    (params : Params) (onRun onPull : Handler) :
    Concurs (s.send tx exchange statement params onRun onPull)
      (s'.send tx exchange statement params onRun onPull) :=
  ⟨h.alike.send tx exchange statement params onRun onPull, h.handles⟩

/-- Both take the same requests off the queue. -/
theorem setQueue (h : Concurs s s') (queue : List Request) :
    Concurs (s.updateConnection fun c => { c with queue := queue })
      (s'.updateConnection fun c => { c with queue := queue }) :=
  ⟨h.alike.updateConnection fun c => { c with queue := queue }, h.handles⟩

theorem hold (s : Client) (on : Bool) :
    Concurs (s.updateConnection fun c => { c with held := on }) s :=
  ⟨.refl s.unheld, rfl⟩

theorem release (h : Concurs s s') (tx : Nat) : Concurs (s.release tx) (s'.release tx) :=
  ((h.updateTransaction tx _).note rfl rfl).note rfl rfl

theorem resolve (h : Concurs s s') (handle : Nat) (result : Except Error Payload) :
    Concurs (s.resolve handle result) (s'.resolve handle result) := by
  have hsame : ∀ s : Client, Alike s.unheld (s.resolve handle result).unheld :=
    fun s => (Alike.resolve s handle result).updateConnection _
  refine ⟨(hsame s).symm.trans (h.alike.trans (hsame s')), ?_⟩
  have hshown : ∀ handles : List (Handle Payload),
      (handles.modify handle fun h => h.resolve result).map Handle.shown =
        (handles.map Handle.shown).modify handle fun h => h.resolve result := by
    intro handles
    refine List.ext_getElem? fun i => ?_
    simp only [List.getElem?_map, List.getElem?_modify]
    cases handles[i]? with
    | none => rfl
    | some hd => by_cases hi : handle = i <;> simp [hi, hd.shown_resolve]
  rw [handles_resolve, handles_resolve, hshown, hshown, h.handles]

theorem runFinalizers (h : Concurs s s') (tx : Nat)
    (actions : List (Finalizer × Except Error Unit)) :
    Concurs (s.runFinalizers tx actions) (s'.runFinalizers tx actions) := by
  induction actions generalizing s s' with
  | nil => exact h
  | cons action rest ih =>
      rcases action with ⟨⟨⟩, told⟩
      exact ih (h.release tx)

/-- The same completion is fired, and asks for the same. -/
theorem fire (h : Concurs s s') (tx : Nat) (done : TerminalChain) (result : Except Error Unit) :
    Concurs (s.fire tx done result).1 (s'.fire tx done result).1 ∧
      (s.fire tx done result).2 = (s'.fire tx done result).2 := by
  have hactions := h.runFinalizers tx (done.fire result).1
  unfold Client.fire
  dsimp only
  split
  · exact ⟨hactions.resolve _ _, rfl⟩
  · exact ⟨hactions, rfl⟩
  · exact ⟨hactions, rfl⟩

theorem start (h : Concurs s s') (rollback : Option Rollback) :
    Concurs (s.start rollback) (s'.start rollback) := by
  cases rollback with
  | none => exact h
  | some rb => exact (h.send _ _ _ _ _ _).note rfl rfl

end Concurs

/-! ## Replies that are no failures -/

/-- A result hears a reply, and those who wait for it learn what there is to learn; `held` tells
whether a later reply is for the result too. -/
def tellResult (s : Client) (cursor : Nat) (held : Bool) (r : Request) : Client :=
  { s with
    cursors := s.cursors.modify cursor fun c => (c.receive r).dismiss held
    handles := match s.cursors[cursor]? with
      | some c => s.handles.mapIdx (Handle.heed c.waiters ((c.receive r).verdict? held))
      | none => s.handles }

theorem size_tellResult (s : Client) (cursor : Nat) (held : Bool) (r : Request) :
    (s.tellResult cursor held r).handles.length = s.handles.length := by
  unfold tellResult
  dsimp only
  split
  · exact List.length_mapIdx
  · rfl

/-- What a reply that is no failure tells. -/
def hear (s : Client) (others : List Request) (r : Request) : Client :=
  match r.handler with
  | .columns cursor | .rows cursor =>
      s.tellResult cursor (others.any fun r => r.holdsCursor cursor) r
  | _ => s

theorem hear_of_result (s : Client) (others : List Request) {r : Request} {cursor : Nat}
    (hr : r.handler = .columns cursor ∨ r.handler = .rows cursor) :
    s.hear others r = s.tellResult cursor (others.any fun r => r.holdsCursor cursor) r := by
  unfold hear
  rcases hr with hr | hr <;> simp only [hr]

/-- A reply tells one result something, whatever the client, or nobody. -/
theorem hear_cases (others : List Request) (r : Request) :
    (∃ cursor held, ∀ s : Client, s.hear others r = s.tellResult cursor held r) ∨
      ∀ s : Client, s.hear others r = s := by
  unfold hear
  split
  · exact Or.inl ⟨_, _, fun _ => rfl⟩
  · exact Or.inl ⟨_, _, fun _ => rfl⟩
  · exact Or.inr fun _ => rfl

section

variable {s s' : Client}

/-- Only the failure of a statement changes its transaction. -/
theorem transactions_answer (s : Client) (others : List Request) {r : Request} {cursor : Nat}
    (hr : r.handler = .columns cursor ∨ r.handler = .rows cursor)
    (hf : r.reply.outcome.failure? = none) :
    (s.answer others r).1.transactions = s.transactions := by
  rcases r with ⟨owner, exchange, part, handler, ⟨records, outcome⟩⟩
  rcases hr with hr | hr <;> dsimp only at hr <;> subst hr <;> cases outcome with
  | success metadata =>
      first
        | exact (transactions_releaseCursor _ _ _).trans (transactions_completeCursor _ _ _)
        | exact transactions_releaseCursor _ _ _
  | failure e => cases hf
  | dropped => exact transactions_releaseCursor _ _ _

/-- Nobody but the result, and those who wait for it, learns of the reply. -/
theorem concurs_answer {others : List Request} {r : Request} {cursor : Nat} {c : Cursor}
    (hr : r.handler = .columns cursor ∨ r.handler = .rows cursor)
    (hf : r.reply.outcome.failure? = none) (hc : s.cursors[cursor]? = some c) (ht : c.Tidy) :
    Concurs (s.answer others r).1 (s.hear others r) := by
  have hserved := served_answer others hr hc ht
  have hown : r.handler.ownsCompletion = false := by
    rcases hr with hr | hr <;> rw [hr] <;> rfl
  have hrequests : (s.answer others r).1.sentRequests = s.sentRequests := by
    refine ((s.calm_answer others hown).1.seen fun e he => ?_).trans ?_
    · cases e <;> first | rfl | exact he.elim
    · exact (Alike.record s rfl).requests.symm
  rw [hear_of_result s others hr]
  refine .of_alike ⟨transactions_answer s others hr hf, hserved.cursors,
    connection_answer s others r, hrequests⟩ ?_
  refine List.ext_getElem? fun i => ?_
  rw [hserved.handles, tellResult, hc, List.getElem?_mapIdx]

end

/-! ## Queues that are answered -/

/-- The client with another queue. -/
def withQueue (s : Client) (queue : List Request) : Client :=
  s.updateConnection fun c => { c with queue := queue }

end Client

/-- The reply is for nobody, or for one of the results and no failure. -/
def Request.Mild (results : Nat) (r : Request) : Prop :=
  r.handler = .ignore ∨ ∃ cursor < results,
    (r.handler = .columns cursor ∨ r.handler = .rows cursor) ∧ r.reply.outcome.failure? = none

theorem Request.Mild.mono {results more : Nat} (hle : results ≤ more) {r : Request}
    (h : r.Mild results) : r.Mild more := by
  rcases h with h | ⟨cursor, hlt, h⟩
  · exact Or.inl h
  · exact Or.inr ⟨cursor, Nat.lt_of_lt_of_le hlt hle, h⟩

/-- The reply ends a transaction. -/
def Request.Ends (r : Request) : Prop :=
  ∃ done, r.handler = .committed done ∨ r.handler = .rolledBack done

namespace Client

open Nonblocking

/-- No reply to a statement will be a failure, and no BEGIN is awaited; whoever waits for a result
has a handle, and nobody waits for one that has ended. -/
structure Neat (s : Client) : Prop where
  tidy : ∀ c ∈ s.cursors, c.Tidy
  placed : ∀ handle, s.Awaited handle → handle < s.handles.length
  queue : ∀ r ∈ s.connection.queue, r.Mild s.cursors.length ∨ r.Ends

section

variable {s s' : Client} {r : Request} {rest : List Request}

theorem Neat.of_concurs (h : Neat s) (hc : Concurs s s') : Neat s' where
  tidy := by
    rw [← hc.cursors]
    exact h.tidy
  placed := by
    rw [← hc.size]
    exact fun handle hw => h.placed handle (awaited_of_cursors hc.cursors.symm hw)
  queue := by
    rw [← hc.queue, ← hc.cursors]
    exact h.queue

theorem Neat.withQueue (h : Neat s) {queue : List Request}
    (hq : ∀ r ∈ queue, r.Mild s.cursors.length ∨ r.Ends) : Neat (s.withQueue queue) :=
  ⟨h.tidy, h.placed, hq⟩

theorem Neat.tellResult (h : Neat s) (cursor : Nat) (held : Bool) (r : Request) :
    Neat (s.tellResult cursor held r) where
  tidy := by
    intro c' hc'
    rcases List.mem_iff_getElem?.1 hc' with ⟨place, hplace⟩
    rcases getElem?_modify_cases hplace with ⟨-, c, hc, rfl⟩ | ⟨-, hother⟩
    · exact ((h.tidy c (List.mem_of_getElem? hc)).receive r).dismiss held
    · exact h.tidy c' (List.mem_of_getElem? hother)
  placed := by
    rintro handle ⟨c', hc', hw⟩
    rw [size_tellResult]
    rcases List.mem_iff_getElem?.1 hc' with ⟨place, hplace⟩
    rcases getElem?_modify_cases hplace with ⟨-, c, hc, rfl⟩ | ⟨-, hother⟩
    · -- Whoever still waits has waited before.
      have hmem := List.mem_of_getElem? hc
      have hbefore := Cursor.mem_waiters_receive (h.tidy c hmem) (Cursor.of_mem_dismiss hw).1
      exact h.placed handle ⟨c, hmem, hbefore⟩
    · exact h.placed handle ⟨c', List.mem_of_getElem? hother, hw⟩
  queue := by simpa [Client.tellResult] using h.queue

theorem Neat.hear (h : Neat s) (others : List Request) (r : Request) : Neat (s.hear others r) := by
  rcases hear_cases others r with ⟨cursor, held, hear⟩ | hear <;> rw [hear]
  · exact h.tellResult cursor held r
  · exact h

theorem Concurs.tellResult (h : Concurs s s') (cursor : Nat) (held : Bool) (r : Request) :
    Concurs (s.tellResult cursor held r) (s'.tellResult cursor held r) := by
  refine ⟨⟨h.transactions, ?_, h.alike.connection, h.requests⟩, ?_⟩
  · show s.cursors.modify cursor _ = s'.cursors.modify cursor _
    rw [h.cursors]
  · refine List.ext_getElem? fun i => ?_
    have hplace : (s.handles[i]?).map Handle.shown = (s'.handles[i]?).map Handle.shown := by
      simpa using congrArg (fun handles => handles[i]?) h.handles
    unfold Client.tellResult
    rw [← h.cursors]
    dsimp only
    cases s.cursors[cursor]? with
    | none => simpa using hplace
    | some c =>
        simp only [List.getElem?_map, List.getElem?_mapIdx, Option.map_map, Function.comp_def,
          Handle.shown_heed]
        simpa [Option.map_map, Function.comp_def] using congrArg
          (Option.map (Handle.heed c.waiters ((c.receive r).verdict? held) i)) hplace

theorem Concurs.hear (h : Concurs s s') (others : List Request) (r : Request) :
    Concurs (s.hear others r) (s'.hear others r) := by
  rcases hear_cases others r with ⟨cursor, held, hear⟩ | hear <;> rw [hear, hear]
  · exact h.tellResult cursor held r
  · exact h

/-- The first request is answered with a reply that is no failure. -/
theorem concurs_advance (h : Neat s) (hq : s.connection.queue = r :: rest)
    (hr : r.Mild s.cursors.length) : Concurs s.advance ((s.withQueue rest).hear rest r) := by
  rw [advance_cons hq]
  rcases hr with hr | ⟨cursor, hlt, hr, hf⟩
  · have hear : (s.withQueue rest).hear rest r = s.withQueue rest := by simp [Client.hear, hr]
    rw [answer_ignored hr, hear]
    exact (Concurs.record _ rfl).symm
  · have hc := List.getElem?_eq_getElem hlt
    have hown : r.handler.ownsCompletion = false := by
      rcases hr with hr | hr <;> rw [hr] <;> rfl
    have hnone := ((s.withQueue rest).calm_answer rest hown).2
    have hsame : Concurs ((s.withQueue rest).answer rest r).1 ((s.withQueue rest).hear rest r) :=
      concurs_answer hr hf hc (h.tidy _ (List.mem_of_getElem? hc))
    unfold Client.withQueue at hnone hsame ⊢
    rw [hnone]
    exact hsame

/-- A reply that ends the transaction means the same to both, and asks for the same. -/
theorem Concurs.answer (h : Concurs s s') (others : List Request) (hr : r.Ends) :
    Concurs (s.answer others r).1 (s'.answer others r).1 ∧
      (s.answer others r).2 = (s'.answer others r).2 := by
  have hreply := h.note (e := .reply r.owner r.exchange r.part r.reply)
    (f := .reply r.owner r.exchange r.part r.reply) rfl rfl
  rcases r with ⟨owner, exchange, part, handler, ⟨records, outcome⟩⟩
  rcases hr with ⟨done, hr | hr⟩ <;> dsimp only at hr <;> subst hr <;> cases outcome with
  | success metadata => exact (hreply.updateTransaction owner _).fire owner done _
  | failure e => exact hreply.fire owner done _
  | dropped => exact hreply.fire owner done _

theorem Neat.of_frame (h : Neat s) (hf : Frame s s') : Neat s' where
  tidy := by
    rw [hf.cursors]
    exact h.tidy
  placed := by
    rw [hf.size]
    exact fun handle hw => h.placed handle (awaited_of_cursors hf.cursors hw)
  queue := by
    rw [hf.connection, hf.cursors]
    exact h.queue

theorem Neat.send (h : Neat s) {tx : Nat} {exchange : Exchange} {statement : String}
    {onRun onPull : Handler}
    (hnew : ∀ r ∈ s.requests tx exchange statement onRun onPull,
      r.Mild s.cursors.length ∨ r.Ends) (params : Params) :
    Neat (s.send tx exchange statement params onRun onPull) := by
  refine ⟨h.tidy, h.placed, ?_⟩
  rw [(s.frame_send tx exchange statement params onRun onPull).2.2.2.1]
  intro r hr
  rcases List.mem_append.1 hr with hr | hr
  · exact h.queue r hr
  · exact hnew r hr

/-- The last reply of an exchange ends a transaction, and nobody heeds the first one. -/
theorem ends_of_requests {tx : Nat} {exchange : Exchange} {statement : String} {onPull : Handler}
    (hpull : ∃ done, onPull = .committed done ∨ onPull = .rolledBack done)
    (hr : r ∈ s.requests tx exchange statement .ignore onPull) (results : Nat) :
    r.Mild results ∨ r.Ends := by
  simp only [requests, List.mem_cons, List.not_mem_nil, or_false] at hr
  rcases hr with rfl | rfl
  · exact Or.inl (Or.inl rfl)
  · exact Or.inr hpull

theorem Neat.start (h : Neat s) (rollback : Option Rollback) : Neat (s.start rollback) := by
  cases rollback with
  | none => exact h
  | some rb =>
      have hnew : ∀ r ∈ s.requests rb.tx .rollback Message.rollback .ignore (.rolledBack rb.done),
          r.Mild s.cursors.length ∨ r.Ends :=
        fun r hr => ends_of_requests ⟨rb.done, Or.inr rfl⟩ hr _
      exact (h.send hnew []).of_concurs (.record _ rfl)

theorem Neat.advance (h : Neat s) : Neat s.advance := by
  cases hq : s.connection.queue with
  | nil => rwa [advance_of_empty hq]
  | cons r rest =>
      have hrest : ∀ q ∈ rest, q.Mild s.cursors.length ∨ q.Ends := by
        intro q hmem
        exact h.queue q (hq ▸ List.mem_cons_of_mem _ hmem)
      rcases h.queue r (by simp [hq]) with hr | hr
      · exact ((h.withQueue hrest).hear rest r).of_concurs (concurs_advance h hq hr).symm
      · have hown : r.handler.ownsCompletion = true := by
          rcases hr with ⟨done, hr | hr⟩ <;> rw [hr] <;> rfl
        have hframe := Frame.answer (s.withQueue rest) rest hown
        rw [advance_cons hq]
        exact (Neat.of_frame (h.withQueue hrest) hframe).start _

theorem Concurs.advance (h : Concurs s s') (hn : Neat s) : Concurs s.advance s'.advance := by
  cases hq : s.connection.queue with
  | nil =>
      rw [advance_of_empty hq, advance_of_empty (h.queue.symm.trans hq)]
      exact h
  | cons r rest =>
      have hq' := h.queue.symm.trans hq
      have hpop : Concurs (s.withQueue rest) (s'.withQueue rest) := h.setQueue rest
      rcases hn.queue r (by simp [hq]) with hr | hr
      · have hr' : r.Mild s'.cursors.length := h.cursors ▸ hr
        -- Both hear the same reply.
        calc
          Concurs s.advance ((s.withQueue rest).hear rest r) := concurs_advance hn hq hr
          Concurs _ ((s'.withQueue rest).hear rest r) := hpop.hear rest r
          Concurs _ s'.advance := (concurs_advance (hn.of_concurs h) hq' hr').symm
      · rcases hpop.answer rest hr with ⟨hanswer, hback⟩
        unfold Client.withQueue at hanswer hback
        rw [advance_cons hq, advance_cons hq', hback]
        exact hanswer.start _

theorem Concurs.drainUpTo (h : Concurs s s') (hn : Neat s) (count : Nat) :
    Concurs (Client.drainUpTo count s) (Client.drainUpTo count s') := by
  induction count generalizing s s' with
  | zero => exact h
  | succ count ih =>
      rw [drainUpTo_succ, drainUpTo_succ]
      exact ih (h.advance hn) hn.advance

/-- Clients that concur come to the same. -/
theorem Concurs.drain (h : Concurs s s') (hn : Neat s) : Concurs s.drain s'.drain := by
  unfold Client.drain
  rw [← h.load]
  exact h.drainUpTo hn _

end

end Client

end ClientTransaction
