import ClientTransaction.Proofs.Nonblocking.Moves
import ClientTransaction.Proofs.Scenario.Programs

/-!
# Scenario.Exchanges — exchanges that end a transaction, on two clients side by side

A caller that waits gets the outcome of the PULL_ALL of its COMMIT or ROLLBACK. One that flushes
leaves a chain of handlers behind, which tells its handle the same, releases the transaction in the
same place of the history, and after a COMMIT that fails sends the same ROLLBACK.
-/

namespace ClientTransaction.Scenario

/-! ## Exchanges that end the transaction -/

section

variable {s s' : Client}

/-- The client after an exchange that ends the transaction has been sent and answered, apart from
what the answer does. -/
def exchanged (s : Client) (exchange : Exchange) (statement : String) : Client :=
  { s.send 0 exchange statement [] .ignore .ignore with
    connection := { s.connection with queue := [], lastRun := none } }

/-- The PULL_ALL of such an exchange. -/
def lastRequest (s : Client) (exchange : Exchange) (statement : String) (onPull : Handler) :
    Request :=
  ⟨0, exchange, .pullAll, onPull, (s.connection.run 0 exchange statement .ignore).pullReply⟩

theorem alike_exchanged (h : Client.Alike s s') (exchange : Exchange) (statement : String) :
    Client.Alike (exchanged s exchange statement) (exchanged s' exchange statement) where
  transactions := h.transactions
  cursors := h.cursors
  connection :=
    congrArg (fun c : Connection => { c with queue := [], lastRun := none }) h.connection
  requests := (h.send 0 exchange statement [] .ignore .ignore).requests

/-- All but the last reply have come. -/
theorem alike_ignoring (s : Client) (exchange : Exchange) (statement : String) (onPull : Handler)
    {e : Event} (he : e.request? = none) (ignored : List Request) :
    Client.Alike (exchanged s exchange statement)
      (((s.send 0 exchange statement [] .ignore onPull).record e).ignoring ignored []) := by
  refine ⟨rfl, rfl, rfl, ?_⟩
  rw [Client.sentRequests_ignoring, ← (Client.Alike.record _ he).requests]
  exact (Client.seen_send Event.request? s 0 exchange statement [] .ignore .ignore).trans
    (Client.seen_send Event.request? s 0 exchange statement [] .ignore onPull).symm

/-- The requests before the last one: nobody heeds their replies. -/
def ignoredRequests (s : Client) (exchange : Exchange) (statement : String) : List Request :=
  s.connection.queue ++ [⟨0, exchange, .run, .ignore, s.connection.runReply statement⟩]

theorem queue_exchange (s : Client) (exchange : Exchange) (statement : String) (onPull : Handler)
    (e : Event) :
    ((s.send 0 exchange statement [] .ignore onPull).record e).connection.queue =
      ignoredRequests s exchange statement ++ [lastRequest s exchange statement onPull] := by
  simp [ignoredRequests, lastRequest, Client.requests]

/-- Nothing is queued that anyone heeds, on a connection where nothing goes wrong. -/
structure Idle (s : Client) : Prop where
  quiet : s.connection.Quiet
  fair : ∀ script ∈ s.connection.scripts, script.Fair
  pending : ∀ r ∈ s.connection.queue, r.handler = .ignore ∧ r.reply.outcome.failure? = none

namespace Idle

theorem ignored (h : Idle s) (exchange : Exchange) (statement : String) :
    ∀ r ∈ ignoredRequests s exchange statement, r.handler = .ignore := by
  intro r hr
  rcases List.mem_append.1 hr with hr | hr
  · exact (h.pending r hr).1
  · rw [List.mem_singleton.1 hr]

theorem honest (h : Idle s) (exchange : Exchange) (statement : String) (onPull : Handler) :
    Honest statement (s.connection.runReply statement).outcome
      (lastRequest s exchange statement onPull).reply.outcome :=
  honest_replies h.fair 0 exchange statement .ignore

theorem of_alike (h : Idle s) (hs : Client.Alike s s') : Idle s' :=
  ⟨hs.connection ▸ h.quiet, hs.connection ▸ h.fair, hs.connection ▸ h.pending⟩

/-- After an exchange nothing is queued at all. -/
theorem of_exchanged (h : Idle s) (exchange : Exchange) (statement : String)
    (hs : Client.Alike (exchanged s exchange statement) s') : Idle s' := by
  refine ⟨?_, ?_, ?_⟩ <;> rw [← hs.connection]
  · exact ⟨h.quiet.fault, h.quiet.verdicts, h.quiet.isOpen, h.quiet.held⟩
  · exact h.fair
  · simp [exchanged]

end Idle

/-- A caller that waits for an exchange gets the outcome of its PULL_ALL. -/
theorem finish_of_idle (h : Idle s) (exchange : Exchange) (statement : String) (terminal : State) :
    ∃ y, Client.Alike (exchanged s exchange statement) y ∧
      Blocking.finish 0 exchange statement terminal s =
        Blocking.Sent.andThen
          ((lastRequest s exchange statement .bookmark).reply.outcome.failure?,
            (y.answer [] (lastRequest s exchange statement .bookmark)).1)
          fun s => (none, s.updateTransaction 0 (Transaction.finalize terminal)) := by
  refine ⟨((s.send 0 exchange statement [] .ignore .bookmark).record (.sync 0)).ignoring
    (ignoredRequests s exchange statement) [], alike_ignoring s exchange statement _ rfl _, ?_⟩
  have hdeliver := Client.deliver_last (h.ignored exchange statement)
    (queue_exchange s exchange statement .bookmark (.sync 0)) rfl
  have hfailure : (ignoredRequests s exchange statement).findSome?
      (fun r => r.reply.outcome.failure?) =
        (s.connection.runReply statement).outcome.failure? := by
    have hnone : s.connection.queue.findSome? (fun r => r.reply.outcome.failure?) = none := by
      rw [List.findSome?_eq_none_iff]
      exact fun r hr => (h.pending r hr).2
    unfold ignoredRequests
    rw [List.findSome?_append, hnone]
    cases hrun : (s.connection.runReply statement).outcome.failure? <;> simp [hrun]
  rw [hfailure, (h.honest exchange statement .bookmark).first_failure] at hdeliver
  have hquiet := Client.quiet_send h.quiet 0 exchange statement [] .ignore .bookmark
  unfold Blocking.finish
  rw [Blocking.send_of_quiet h.quiet]
  show Blocking.Sent.andThen (Blocking.sync 0 _) _ = _
  rw [Blocking.sync_of_quiet hquiet, hdeliver]

/-- A caller that flushes an exchange has its last reply answered. -/
theorem drainUpTo_exchange (h : Idle s) (exchange : Exchange) (statement : String)
    (onPull : Handler) (count : Nat) :
    ∃ y, Client.Alike (exchanged s exchange statement) y ∧ y.handles = s.handles ∧
      Client.drainUpTo (s.connection.queue.length + (count + 2))
        ((s.send 0 exchange statement [] .ignore onPull).record (.flush 0)) =
          Client.drainUpTo count
            ((y.answer [] (lastRequest s exchange statement onPull)).1.start
              (y.answer [] (lastRequest s exchange statement onPull)).2) := by
  refine ⟨((s.send 0 exchange statement [] .ignore onPull).record (.flush 0)).ignoring
    (ignoredRequests s exchange statement) [], alike_ignoring s exchange statement _ rfl _, rfl, ?_⟩
  have hcount : s.connection.queue.length + (count + 2) =
      (ignoredRequests s exchange statement).length + (count + 1) := by
    simp only [ignoredRequests, List.length_append, List.length_singleton]
    omega
  rw [hcount]
  exact Client.drainUpTo_last (h.ignored exchange statement)
    (queue_exchange s exchange statement onPull (.flush 0)) count

/-- A flush answers as many requests. -/
theorem drain_exchange (h : Idle s) (exchange : Exchange) (statement : String) (onPull : Handler)
    (weight : Nat) (hw : (lastRequest s exchange statement onPull).weight = weight) :
    ((s.send 0 exchange statement [] .ignore onPull).record (.flush 0)).drain =
      Client.drainUpTo (s.connection.queue.length + (weight + 1))
        ((s.send 0 exchange statement [] .ignore onPull).record (.flush 0)) := by
  have hload := Client.load_of_ignored (h.ignored exchange statement)
    (queue_exchange s exchange statement onPull (.flush 0))
  have hcount : (ignoredRequests s exchange statement).length + weight =
      s.connection.queue.length + (weight + 1) := by
    simp only [ignoredRequests, List.length_append, List.length_singleton]
    omega
  rw [Client.drain, hload, hw, hcount]

/-! ## Ending the transaction -/

/-- Without a bookmark nothing is set. -/
theorem updateTransaction_setBookmark_empty (s : Client) (tx : Nat) {b : Bookmark}
    (hb : b.isEmpty = true) : s.updateTransaction tx (Transaction.setBookmark b) = s := by
  have hid : Transaction.setBookmark b = id := by
    funext t
    simp [Transaction.setBookmark, hb]
  simp [Client.updateTransaction, hid]

theorem updateTransaction_updateTransaction (s : Client) (tx : Nat)
    (f g : Transaction → Transaction) :
    (s.updateTransaction tx f).updateTransaction tx g =
      s.updateTransaction tx fun t => g (f t) := by
  simp only [Client.updateTransaction, List.modify_modify_eq]
  rfl

/-- A call that has ended the transaction has returned, and where calls do not wait its outcome
is in a handle. -/
structure Concluded (name : String) (handles : List (Handle Payload)) (sent : Blocking.Sent)
    (s' : Client) : Prop where
  alike : Client.Alike sent.2 s'
  handle : s'.handles = handles ++
    [⟨some name, .resolved (sent.1.elim (.ok .unit) .error)⟩]

/-- The handle that is to get the outcome comes after the others, and has a name. -/
theorem concluded_tell {name : String} {handles : List (Handle Payload)} (failure : Option Error)
    (h : Client.Alike s s') (hh : s'.handles = handles ++ [.fresh (some name)]) :
    Concluded name handles (failure, s.release 0) (Nonblocking.tell (s'.release 0)
      (failure.elim (.ok ()) .error) (.handle handles.length)) := by
  refine ⟨(h.release 0).trans (.resolve _ _ _), ?_⟩
  have hplace : (s'.release 0).handles[handles.length]? = some (.fresh (some name)) := by
    simp [hh]
  have hresolve : (Nonblocking.tell (s'.release 0) (failure.elim (.ok ()) .error)
      (.handle handles.length)).handles =
        (s'.release 0).handles.set handles.length
          ((Handle.fresh (some name)).resolve
            ((failure.elim (.ok ()) .error : Except Error Unit).map fun _ => Payload.unit)) := by
    unfold Nonblocking.tell Client.resolve
    dsimp only
    rw [hplace]
    rfl
  rw [hresolve, (s'.frame_release 0).2.2.1, hh]
  cases failure <;> simp [Handle.resolve, Handle.fresh, Except.map]

/-- ROLLBACK, for a caller that waits and for one that flushes. The chain ends with the listener; it
may hold back the error of a COMMIT. -/
theorem concluded_rollback {name : String} {handles : List (Handle Payload)} (h : Idle s)
    (h' : Client.Alike s s') (hh : s'.handles = handles ++ [.fresh (some name)])
    (done : TerminalChain) (primary : Option Error)
    (hdone : ∀ (s : Client) (failure : Option Error), s.fire 0 done (failure.elim (.ok ()) .error) =
      (Nonblocking.tell (s.release 0) ((primary <|> failure).elim (.ok ()) .error)
        (.handle handles.length), none)) :
    Concluded name handles
      (primary <|> (Blocking.rollbackExchange 0 s).1, (Blocking.rollbackExchange 0 s).2.release 0)
      (Client.drainUpTo (s.connection.queue.length + 2) (s'.startRollback ⟨0, done⟩)) := by
  rcases finish_of_idle h .rollback Message.rollback .rolledBack with ⟨y, hy, hfinish⟩
  rcases drainUpTo_exchange (h.of_alike h') .rollback Message.rollback (.rolledBack done) 0 with
    ⟨y', hy', hhandles, hdrain⟩
  have halike : Client.Alike y y' :=
    hy.symm.trans ((alike_exchanged h' .rollback Message.rollback).trans hy')
  have hhonest := h.honest .rollback Message.rollback .bookmark
  rw [lastRequest, ← h'.connection] at hdrain
  rw [lastRequest] at hfinish hhonest
  rw [Blocking.rollbackExchange, hfinish]
  show Concluded name handles _ (Client.drainUpTo _ ((s'.send 0 .rollback Message.rollback []
    .ignore (.rolledBack done)).record (.flush 0)))
  rw [hdrain]
  generalize (s.connection.run 0 .rollback Message.rollback .ignore).pullReply = pull at hhonest ⊢
  rcases pull with ⟨rows, pulled⟩
  have hnoted := halike.note (e := .reply 0 .rollback .pullAll ⟨rows, pulled⟩)
    (f := .reply 0 .rollback .pullAll ⟨rows, pulled⟩) rfl rfl
  cases pulled with
  | dropped => exact absurd rfl hhonest.answered.2
  | failure e =>
      have hfired := hdone (y'.record (.reply 0 .rollback .pullAll ⟨rows, .failure e⟩)) (some e)
      have hanswer : y'.answer [] ⟨0, .rollback, .pullAll, .rolledBack done, ⟨rows, .failure e⟩⟩ =
          (y'.record (.reply 0 .rollback .pullAll ⟨rows, .failure e⟩)).fire 0 done
            ((some e).elim (.ok ()) .error) := rfl
      rw [hanswer, hfired]
      exact concluded_tell (primary <|> some e) hnoted (hhandles.trans hh)
  | success metadata =>
      have hempty : (Message.bookmark metadata).isEmpty = true := hhonest.unmarked rfl metadata rfl
      have hsame := updateTransaction_setBookmark_empty
        (y.record (.reply 0 .rollback .pullAll ⟨rows, .success metadata⟩)) 0 hempty
      have hheard : (y.answer [] ⟨0, .rollback, .pullAll, .bookmark, ⟨rows, .success metadata⟩⟩).1 =
          y.record (.reply 0 .rollback .pullAll ⟨rows, .success metadata⟩) := hsame
      have hanswer : y'.answer [] ⟨0, .rollback, .pullAll, .rolledBack done,
          ⟨rows, .success metadata⟩⟩ =
            ((y'.record (.reply 0 .rollback .pullAll ⟨rows, .success metadata⟩)).updateTransaction 0
              (Transaction.finalize .rolledBack)).fire 0 done
              ((none : Option Error).elim (.ok ()) .error) := rfl
      rw [hheard, hanswer, hdone]
      exact concluded_tell (primary <|> none)
        (hnoted.updateTransaction 0 (Transaction.finalize .rolledBack)) (hhandles.trans hh)

/-- COMMIT, and a ROLLBACK if that fails. -/
theorem concluded_commit {name : String} {handles : List (Handle Payload)} (h : Idle s)
    (h' : Client.Alike s s') (hh : s'.handles = handles ++ [.fresh (some name)]) :
    Concluded name handles
      ((Blocking.commitOrRollback 0 s).1, (Blocking.commitOrRollback 0 s).2.release 0)
      ((s'.send 0 .commit Message.commit [] .ignore (.committed (.fallback .rollback
        (Nonblocking.ending (.handle handles.length))))).flush 0) := by
  rcases finish_of_idle h .commit Message.commit .committed with ⟨y, hy, hfinish⟩
  rcases drainUpTo_exchange (h.of_alike h') .commit Message.commit (.committed (.fallback .rollback
    (Nonblocking.ending (.handle handles.length)))) 2 with ⟨y', hy', hhandles, hdrain⟩
  have halike : Client.Alike y y' :=
    hy.symm.trans ((alike_exchanged h' .commit Message.commit).trans hy')
  have hhonest := h.honest .commit Message.commit .bookmark
  have hidle : Idle y := h.of_exchanged .commit Message.commit hy
  have hempty : y.connection.queue = [] := by
    rw [← hy.connection]
    rfl
  rw [Client.flush_of_quiet (Client.quiet_send (h.of_alike h').quiet 0 _ _ _ _ _),
    drain_exchange (h.of_alike h') .commit Message.commit _ 3 rfl, hdrain]
  rw [lastRequest, ← h'.connection]
  rw [lastRequest] at hfinish hhonest
  unfold Blocking.commitOrRollback Blocking.commitExchange
  rw [hfinish]
  generalize (s.connection.run 0 .commit Message.commit .ignore).pullReply = pull at hhonest ⊢
  rcases pull with ⟨rows, pulled⟩
  have hnoted := halike.note (e := .reply 0 .commit .pullAll ⟨rows, pulled⟩)
    (f := .reply 0 .commit .pullAll ⟨rows, pulled⟩) rfl rfl
  cases pulled with
  | dropped => exact absurd rfl hhonest.answered.2
  | failure e =>
      -- The error is held back until the ROLLBACK has ended.
      have hback := concluded_rollback
        (s := y.record (.reply 0 .commit .pullAll ⟨rows, .failure e⟩))
        (hidle.of_alike (.record y rfl)) hnoted (hhandles.trans hh)
        (.resume e (Nonblocking.ending (.handle handles.length))) (some e) (fun _ _ => rfl)
      have hqueue :
          (y.record (.reply 0 .commit .pullAll ⟨rows, .failure e⟩)).connection.queue = [] :=
        hempty
      rw [hqueue] at hback
      exact hback
  | success metadata =>
      have hcommitted := hnoted.updateTransaction 0 fun t =>
        (t.setBookmark (Message.bookmark metadata)).finalize .committed
      have htold := concluded_tell none hcommitted (hhandles.trans hh)
      rw [← updateTransaction_updateTransaction] at htold
      have hanswer : y'.answer [] ⟨0, .commit, .pullAll, .committed (.fallback .rollback
          (Nonblocking.ending (.handle handles.length))), ⟨rows, .success metadata⟩⟩ =
            (Nonblocking.tell (((y'.record (.reply 0 .commit .pullAll
              ⟨rows, .success metadata⟩)).updateTransaction 0 fun t =>
                (t.setBookmark (Message.bookmark metadata)).finalize .committed).release 0)
              ((none : Option Error).elim (.ok ()) .error) (.handle handles.length), none) := rfl
      rw [hanswer]
      dsimp only [Client.start]
      rw [Client.drainUpTo_of_empty
        ((congrArg Connection.queue htold.alike.connection).symm.trans hempty)]
      exact htold

end

end ClientTransaction.Scenario
