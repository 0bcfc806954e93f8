import ClientTransaction.Proofs.Blocking.Deliveries
import ClientTransaction.Proofs.Client.Alike
import ClientTransaction.Proofs.Client.Names

/-!
# Scenario.Quiet — what calls come to when nothing goes wrong on the connection

On a connection that is open, that has no fault and holds no reply back, a call goes through at once,
and waiting for replies or flushing answers all that is queued. If the queue begins with requests
whose replies nobody heeds, these leave it without a trace but in the history.
-/

namespace ClientTransaction

structure Connection.Quiet (c : Connection) : Prop where
  fault : c.fault = none
  verdicts : c.verdicts = []
  isOpen : c.isOpen = true
  held : c.held = false

namespace Client

/-! ## Replies that nobody heeds -/

/-- The client after the requests `ignored` have been answered and `rest` are still queued. -/
def ignoring (s : Client) (ignored rest : List Request) : Client :=
  { s with
    connection := { s.connection with queue := rest }
    history := s.history ++ ignored.map Request.ended }

section

variable {s : Client} {ignored rest : List Request}

theorem ignoring_nil (hq : s.connection.queue = rest) : s.ignoring [] rest = s := by
  rcases s with ⟨transactions, cursors, handles, connection, history⟩
  subst hq
  simp [ignoring]

theorem ignoring_cons (r : Request) (queue : List Request) :
    ((s.updateConnection fun c => { c with queue := queue }).record r.ended).ignoring ignored rest =
      s.ignoring (r :: ignored) rest := by
  simp [ignoring, record, updateConnection]

theorem sentRequests_ignoring (s : Client) (ignored rest : List Request) :
    (s.ignoring ignored rest).sentRequests = s.sentRequests := by
  have hreplies : (ignored.map Request.ended).filterMap Event.request? = [] := by
    rw [List.filterMap_eq_nil_iff]
    intro e he
    rcases List.mem_map.1 he with ⟨r, -, rfl⟩
    rfl
  have hseen : (s.ignoring ignored rest).sentRequests =
      s.sentRequests ++ (ignored.map Request.ended).filterMap Event.request? :=
    seen_eq_of_history rfl
  rw [hseen, hreplies, List.append_nil]

theorem answer_ignored {r : Request} (hr : r.handler = .ignore) (others : List Request) :
    s.answer others r = (s.record r.ended, none) := by
  rcases r with ⟨owner, exchange, part, handler, reply⟩
  cases hr
  rfl

theorem next?_cons {r : Request} (hq : s.connection.queue = r :: rest) :
    s.next? = some (r, s.updateConnection fun c => { c with queue := rest }) := by
  simp [next?, hq]

theorem drainUpTo_ignored (hi : ∀ r ∈ ignored, r.handler = .ignore)
    (hq : s.connection.queue = ignored ++ rest) (count : Nat) :
    drainUpTo (ignored.length + count) s = drainUpTo count (s.ignoring ignored rest) := by
  induction ignored generalizing s with
  | nil =>
      have hnil : s.ignoring [] rest = s := ignoring_nil hq
      simp [hnil]
  | cons r ignored ih =>
      have hcount : (r :: ignored).length + count = ignored.length + count + 1 := by
        simp only [List.length_cons]
        omega
      rw [hcount, drainUpTo, next?_cons hq]
      simp only [answer_ignored (hi r (List.mem_cons_self ..)), start]
      rw [ih (fun q hmem => hi q (List.mem_cons_of_mem _ hmem)) rfl, ignoring_cons]

theorem deliverUpTo_ignored (hi : ∀ r ∈ ignored, r.handler = .ignore)
    (hq : s.connection.queue = ignored ++ rest) (count : Nat) (first : Option Error) :
    deliverUpTo (ignored.length + count) first s =
      deliverUpTo count (first <|> ignored.findSome? fun r => r.reply.outcome.failure?)
        (s.ignoring ignored rest) := by
  induction ignored generalizing s first with
  | nil =>
      have hnil : s.ignoring [] rest = s := ignoring_nil hq
      simp [hnil]
  | cons r ignored ih =>
      have hcount : (r :: ignored).length + count = ignored.length + count + 1 := by
        simp only [List.length_cons]
        omega
      rw [hcount, deliverUpTo, next?_cons hq]
      simp only [answer_ignored (hi r (List.mem_cons_self ..)), follow]
      rw [ih (fun q hmem => hi q (List.mem_cons_of_mem _ hmem)) rfl, ignoring_cons]
      cases first <;> cases hf : r.reply.outcome.failure? <;> simp [hf]

/-- Nobody heeds any of the replies. -/
theorem deliver_ignored (hi : ∀ r ∈ s.connection.queue, r.handler = .ignore) :
    s.deliver none = (s.connection.queue.findSome? (fun r => r.reply.outcome.failure?),
      s.ignoring s.connection.queue []) := by
  have hpassive : s.connection.Passive := by
    intro r hr
    simp [hi r hr, Handler.ownsCompletion]
  have hall := deliverUpTo_ignored hi (List.append_nil _).symm 0 none
  rw [deliver, Option.getD_none, Blocking.load_of_passive hpassive, ← Nat.add_zero
    s.connection.queue.length, hall]
  rfl

/-- What delivering comes to when a request ends the queue whose reply counts. -/
theorem load_of_ignored {c : Connection} {last : Request}
    (hi : ∀ r ∈ ignored, r.handler = .ignore) (hq : c.queue = ignored ++ [last]) :
    c.load = ignored.length + last.weight := by
  have hload : ∀ queue : List Request, (∀ r ∈ queue, r.handler = .ignore) →
      (queue ++ [last]).foldr (fun r load => r.weight + load) 0 = queue.length + last.weight := by
    intro queue hqueue
    induction queue with
    | nil => simp
    | cons r rest ih =>
        have hone : r.weight = 1 := by simp [Request.weight, hqueue r (List.mem_cons_self ..)]
        have hrest := ih fun q hmem => hqueue q (List.mem_cons_of_mem _ hmem)
        simp only [List.cons_append, List.foldr_cons, hrest, hone, List.length_cons]
        omega
  rw [Connection.load, hq, hload ignored hi]

/-- The only request whose reply counts is the last one, and nothing follows from it. -/
theorem deliver_last {last : Request} (hi : ∀ r ∈ ignored, r.handler = .ignore)
    (hq : s.connection.queue = ignored ++ [last]) (hl : last.handler.ownsCompletion = false) :
    s.deliver none =
      ((ignored.findSome? fun r => r.reply.outcome.failure?) <|> last.reply.outcome.failure?,
        ((s.ignoring ignored []).answer [] last).1) := by
  have hweight : last.weight = 1 := by
    unfold Request.weight
    cases hh : last.handler <;> simp [hh, Handler.ownsCompletion] at hl ⊢
  have hpop : ((s.ignoring ignored [last]).updateConnection fun c => { c with queue := [] }) =
      s.ignoring ignored [] := rfl
  have hnone := ((s.ignoring ignored []).calm_answer [] hl).2
  rw [deliver, Option.getD_none, load_of_ignored hi hq, hweight, deliverUpTo_ignored hi hq,
    deliverUpTo, next?_cons rfl, hpop]
  simp only [deliverUpTo]
  have hqueue : (s.ignoring ignored []).connection.queue = [] := rfl
  rw [hqueue, Blocking.follow_of_none hnone]
  cases ignored.findSome? fun r => r.reply.outcome.failure? <;> rfl

/-- The last reply is the only one that counts, and what follows from it may be answered too. -/
theorem drainUpTo_last {last : Request} (hi : ∀ r ∈ ignored, r.handler = .ignore)
    (hq : s.connection.queue = ignored ++ [last]) (count : Nat) :
    drainUpTo (ignored.length + (count + 1)) s = drainUpTo count
      (((s.ignoring ignored []).answer [] last).1.start
        ((s.ignoring ignored []).answer [] last).2) := by
  rw [drainUpTo_ignored hi hq, drainUpTo, next?_cons rfl]
  rfl

theorem drain_last {last : Request} (hi : ∀ r ∈ ignored, r.handler = .ignore)
    (hq : s.connection.queue = ignored ++ [last]) (count : Nat) (hw : last.weight = count + 1) :
    s.drain = drainUpTo count
      (((s.ignoring ignored []).answer [] last).1.start
        ((s.ignoring ignored []).answer [] last).2) := by
  rw [drain, load_of_ignored hi hq, hw, drainUpTo_last hi hq]

theorem drainUpTo_of_empty (hq : s.connection.queue = []) (count : Nat) : drainUpTo count s = s := by
  cases count with
  | zero => rfl
  | succ count => simp [drainUpTo, next?, hq]

end

/-! ## Clients that are alike -/

section

variable {s s' : Client}

/-- A delivery without a limit only empties the queue. -/
theorem connection_deliver (hp : s.connection.Passive) :
    (s.deliver none).2.connection = { s.connection with queue := [] } := by
  have hdelivered := (Blocking.delivered_deliverUpTo s.connection.load none hp).1.connection
  rw [Blocking.load_of_passive hp, List.drop_length] at hdelivered
  rw [deliver, Option.getD_none, Blocking.load_of_passive hp, hdelivered]

/-- One reply without consequences, to a caller that waits and to one that flushes. -/
theorem alike_next (h : Alike s s') (hp : s.connection.Passive) {r : Request}
    (hr : r.handler.ownsCompletion = false) :
    Alike (follow (s.answer s.connection.queue r))
        ((s'.answer s'.connection.queue r).1.start (s'.answer s'.connection.queue r).2) ∧
      (follow (s.answer s.connection.queue r)).connection.Passive := by
  rcases s.calm_answer s.connection.queue hr with ⟨hcalm, hnone⟩
  have hnone' := (s'.calm_answer s'.connection.queue hr).2
  have halike := h.answer s.connection.queue hr
  rw [Blocking.follow_of_none hnone, hnone', ← h.connection]
  refine ⟨halike, ?_⟩
  rw [hcalm.connection]
  exact hp

theorem alike_deliverUpTo (count : Nat) (first : Option Error) (h : Alike s s')
    (hp : s.connection.Passive) :
    Alike (deliverUpTo count first s).2 (drainUpTo count s') := by
  induction count generalizing first s s' with
  | zero => exact h
  | succ count ih =>
      cases hq : s.connection.queue with
      | nil =>
          have hq' : s'.connection.queue = [] := by rw [← h.connection, hq]
          simpa [deliverUpTo, drainUpTo, next?, hq, hq'] using h
      | cons r rest =>
          have hq' : s'.connection.queue = r :: rest := by rw [← h.connection, hq]
          have hpop : (s.updateConnection fun c => { c with queue := rest }).connection.Passive :=
            fun q hmem => hp q (by simpa [hq] using Or.inr hmem)
          rcases alike_next (h.updateConnection fun c => { c with queue := rest }) hpop
            (hp r (by simp [hq])) with ⟨halike, hpassive⟩
          rw [deliverUpTo, drainUpTo, next?_cons hq, next?_cons hq']
          exact ih _ halike hpassive

/-- A caller that waits for all replies and one that flushes get the same. -/
theorem alike_deliver (h : Alike s s') (hp : s.connection.Passive) :
    Alike (s.deliver none).2 s'.drain := by
  unfold deliver drain
  rw [← h.connection]
  exact alike_deliverUpTo _ none h hp

end

/-! ## Results -/

section

variable {s : Client} {cursor : Nat} {c : Cursor}

/-- Changing a cursor to what it is already changes nothing. -/
theorem modify_of_eq (hc : s.cursors[cursor]? = some c) {f : Cursor → Cursor} (hf : f c = c) :
    s.cursors.modify cursor f = s.cursors := by
  apply List.ext_getElem?
  intro i
  rw [List.getElem?_modify]
  by_cases hi : cursor = i
  · subst hi
    simp [hc, hf]
  · simp [hi]

/-- The first outcome of a cursor stands; those who wait for it do not matter to it. -/
theorem cursors_completeCursor (hc : s.cursors[cursor]? = some c) (outcome : Except Error Params) :
    (s.completeCursor cursor outcome).2.cursors =
      s.cursors.modify cursor (Cursor.settle outcome) := by
  unfold completeCursor
  simp only [hc]
  cases hcomplete : c.isComplete with
  | true =>
      have hsame : c.settle outcome = c := by simp [Cursor.settle, hcomplete]
      simp [modify_of_eq hc hsame]
  | false =>
      have hserved := (Alike.resolveAll (s.updateCursor cursor fun c => c.complete outcome) c.waiters
        (outcome.map Payload.summary)).cursors
      simp only [Bool.false_eq_true, if_false]
      rw [← hserved, (s.frame_updateCursor cursor _).2.1]
      -- Only the cursor itself is changed, and it has no outcome yet.
      apply List.ext_getElem?
      intro i
      simp only [List.getElem?_modify]
      by_cases hi : cursor = i
      · subst hi
        simp [hc, Cursor.settle, hcomplete]
      · simp [hi]

theorem cursors_failCursor (hc : s.cursors[cursor]? = some c) (tx : Nat) (e : Error) :
    (s.failCursor tx cursor e).cursors = s.cursors.modify cursor (Cursor.settle (.error e)) := by
  have hcomplete := cursors_completeCursor hc (.error e)
  unfold failCursor
  split <;> rename_i heq <;> rw [heq] at hcomplete <;> exact hcomplete

/-- Nothing is released that has a name. -/
theorem releaseCursor_of_named (hc : s.cursors[cursor]? = some c) (hn : c.name.isSome = true)
    (requests : List Request) : s.releaseCursor requests cursor = s := by
  simp [releaseCursor, holdsCursor, hc, hn]

theorem getElem?_modify_self (hc : s.cursors[cursor]? = some c) (f : Cursor → Cursor) :
    (s.cursors.modify cursor f)[cursor]? = some (f c) := by
  simp [hc]

/-- A reply changes the cursor that it is for, as long as that has a name, and no other. -/
theorem cursors_answer (others : List Request) {r : Request}
    (hr : r.handler = .columns cursor ∨ r.handler = .rows cursor)
    (hc : s.cursors[cursor]? = some c) (hn : c.name.isSome = true) :
    (s.answer others r).1.cursors = s.cursors.modify cursor (Cursor.receive r) := by
  rcases r with ⟨owner, exchange, part, handler, ⟨records, outcome⟩⟩
  have hreleased : ∀ {s₁ : Client} {f : Cursor → Cursor}, (∀ c : Cursor, (f c).name = c.name) →
      s₁.cursors = s.cursors.modify cursor f →
      (s₁.releaseCursor others cursor).cursors = s.cursors.modify cursor f := by
    intro s₁ f hf hs₁
    have hplace : s₁.cursors[cursor]? = some (f c) := by rw [hs₁, getElem?_modify_self hc]
    rw [releaseCursor_of_named hplace (by rw [hf, hn]), hs₁]
  rcases hr with hr | hr
  · dsimp only at hr
    subst hr
    cases outcome with
    | success metadata => exact hreleased (fun _ => rfl) rfl
    | failure e =>
        exact hreleased (Cursor.name_settle (.error e)) (cursors_failCursor (s := s.record _) hc _ e)
    | dropped =>
        refine hreleased (fun _ => rfl) ?_
        exact (modify_of_eq hc rfl).symm
  · dsimp only at hr
    subst hr
    have hrows := getElem?_modify_self hc fun c => records.foldl Cursor.push c
    cases outcome with
    | success metadata =>
        refine hreleased (f := Cursor.settle (.ok metadata) ∘ fun c => records.foldl Cursor.push c)
          ?_ ?_
        · intro c
          exact (Cursor.name_settle _ _).trans (Cursor.name_pushAll records c)
        · rw [← List.modify_modify_eq]
          exact cursors_completeCursor hrows (.ok metadata)
    | failure e =>
        refine hreleased (f := Cursor.settle (.error e) ∘ fun c => records.foldl Cursor.push c)
          ?_ ?_
        · intro c
          exact (Cursor.name_settle _ _).trans (Cursor.name_pushAll records c)
        · rw [← List.modify_modify_eq]
          exact cursors_failCursor hrows _ e
    | dropped => exact hreleased (Cursor.name_pushAll records) rfl

theorem name_receive (r : Request) (c : Cursor) : (c.receive r).name = c.name := by
  unfold Cursor.receive
  split
  · rfl
  · exact Cursor.name_settle _ c
  · exact (Cursor.name_settle _ _).trans (Cursor.name_pushAll _ c)
  · exact (Cursor.name_settle _ _).trans (Cursor.name_pushAll _ c)
  · exact Cursor.name_pushAll _ c
  · rfl

/-- The two replies to a statement come last, and its result has received both. -/
theorem cursors_deliver_pair {ignored : List Request} {first second : Request}
    (hi : ∀ r ∈ ignored, r.handler = .ignore)
    (hq : s.connection.queue = ignored ++ [first, second]) (hf : first.handler = .columns cursor)
    (hs : second.handler = .rows cursor) (hc : s.cursors[cursor]? = some c)
    (hn : c.name.isSome = true) :
    (s.deliver none).2.cursors =
      s.cursors.modify cursor (Cursor.receive second ∘ Cursor.receive first) := by
  have hpassive : s.connection.Passive := by
    intro r hr
    rw [hq] at hr
    rcases List.mem_append.1 hr with hr | hr
    · simp [hi r hr, Handler.ownsCompletion]
    · simp only [List.mem_cons, List.not_mem_nil, or_false] at hr
      rcases hr with rfl | rfl
      · simp [hf, Handler.ownsCompletion]
      · simp [hs, Handler.ownsCompletion]
  have hload : s.connection.load = ignored.length + 2 := by
    rw [Blocking.load_of_passive hpassive, hq]
    simp
  have hown : first.handler.ownsCompletion = false := by simp [hf, Handler.ownsCompletion]
  have hown' : second.handler.ownsCompletion = false := by simp [hs, Handler.ownsCompletion]
  rw [deliver, Option.getD_none, hload, deliverUpTo_ignored hi hq]
  -- What is left are the two replies.
  have hfirst : (s.ignoring ignored [second]).cursors[cursor]? = some c := hc
  rcases (s.ignoring ignored [second]).calm_answer [second] hown with ⟨hcalm, hnone⟩
  have hanswer := cursors_answer [second] (Or.inl hf) hfirst hn
  have hqueue : ((s.ignoring ignored [second]).answer [second] first).1.connection.queue =
      [second] := by
    rw [hcalm.connection]
    rfl
  have hpop : ((s.ignoring ignored [first, second]).updateConnection
      fun c => { c with queue := [second] }) = s.ignoring ignored [second] := rfl
  have hothers : (s.ignoring ignored [second]).connection.queue = [second] := rfl
  rw [deliverUpTo, next?_cons rfl, hpop]
  dsimp only
  rw [hothers, Blocking.follow_of_none hnone, deliverUpTo, next?_cons hqueue]
  generalize ((s.ignoring ignored [second]).answer [second] first).1 = s₁ at hanswer
  have hsecond : (s₁.updateConnection fun c => { c with queue := [] }).cursors[cursor]? =
      some (c.receive first) := by
    rw [(frame_updateConnection _ _).2.1, hanswer]
    exact getElem?_modify_self hfirst _
  have hanswer' := cursors_answer [] (Or.inr hs) hsecond (by rwa [name_receive])
  have hnone' := ((s₁.updateConnection fun c => { c with queue := [] }).calm_answer [] hown').2
  have hothers' : (s₁.updateConnection fun c => { c with queue := [] }).connection.queue = [] := rfl
  dsimp only
  rw [hothers', Blocking.follow_of_none hnone', deliverUpTo, hanswer',
    (frame_updateConnection _ _).2.1, hanswer, List.modify_modify_eq]
  rfl

end

/-- What is sent does not disturb the connection. -/
theorem quiet_send {s : Client} (h : s.connection.Quiet) (tx : Nat) (exchange : Exchange)
    (statement : String) (params : Params) (onRun onPull : Handler) :
    (s.send tx exchange statement params onRun onPull).connection.Quiet :=
  ⟨h.fault, h.verdicts, h.isOpen, h.held⟩

theorem flush_of_quiet {s : Client} (h : s.connection.Quiet) (tx : Nat) :
    s.flush tx = (s.record (.flush tx)).drain := by
  have hheld : (s.record (.flush tx)).connection.held = false := h.held
  rw [flush, settle, hheld]
  rfl

end Client

namespace Blocking

/-! ## Calls that wait -/

section

variable {s : Client}

/-- A call goes through, and no reply comes while it is made. -/
theorem call_of_quiet (h : s.connection.Quiet) (tx : Nat) (kind : Call) (event : Event) :
    call tx kind event s = (none, s.record event) := by
  have hattempt : (s.record event).connection.attempt kind = ({}, s.connection) := by
    simp [Connection.attempt, h.verdicts, h.fault]
  rw [call, hattempt]
  rfl

theorem send_of_quiet (h : s.connection.Quiet) (tx : Nat) (exchange : Exchange)
    (statement : String) (params : Params) (onRun onPull : Handler) :
    (run tx exchange statement params onRun s).andThen (pullAll tx exchange onPull) =
      (none, s.send tx exchange statement params onRun onPull) := by
  have hrun : run tx exchange statement params onRun s =
      (none, (s.record (.run tx exchange statement params)).updateConnection
        fun c => c.run tx exchange statement onRun) := by
    rw [run, call_of_quiet h]
    rfl
  have hquiet : ((s.record (.run tx exchange statement params)).updateConnection
      fun c => c.run tx exchange statement onRun).connection.Quiet :=
    ⟨h.fault, h.verdicts, h.isOpen, h.held⟩
  rw [hrun, Sent.andThen, pullAll, call_of_quiet hquiet]
  rfl

theorem sync_of_quiet (h : s.connection.Quiet) (tx : Nat) :
    sync tx s = (s.record (.sync tx)).deliver none := by
  rw [sync, call_of_quiet h, h.verdicts]
  rfl

end

end Blocking

end ClientTransaction
