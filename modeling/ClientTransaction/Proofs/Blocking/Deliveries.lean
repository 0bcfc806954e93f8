import ClientTransaction.Proofs.Blocking.Calls
import ClientTransaction.Proofs.Client.Receipts

/-!
# Blocking.Deliveries — which replies a delivery brings

Where callers wait, nothing follows from a reply. A delivery takes the first requests off the queue,
puts their replies into the history in the same order, answers with the first failure among them,
and leaves the rest of the connection as it was. So a reply is in the history or still owed, and
what has come together with what is owed changes only when a request is sent or given up.
-/

namespace ClientTransaction

/-- What the history gets when the request ends. -/
def Request.ended (r : Request) : Event :=
  .reply r.owner r.exchange r.part r.reply

/-- The view overlooks what only tells someone of something. -/
def Event.Overlooks {α : Type} (view : Event → Option α) : Prop :=
  ∀ (s : Client) (e : Event), s.Aside e → view e = none

theorem overlooks_answer? (tx : Nat) (exchange : Exchange) :
    Event.Overlooks (Event.answer? tx exchange) := by
  intro s e he
  cases e <;> first | rfl | exact he.elim

theorem overlooks_receipt? : Event.Overlooks Event.receipt? := by
  intro s e he
  cases e <;> first | rfl | exact he.elim

/-- The outcome of a queued PULL_ALL, as its answer will show it. -/
def Request.due? (tx : Nat) (exchange : Exchange) (r : Request) : Option Outcome :=
  r.ended.answer? tx exchange

namespace Client

/-- The outcomes of the PULL_ALLs of the exchanges of one kind that are still queued. -/
def due (s : Client) (tx : Nat) (exchange : Exchange) : List Outcome :=
  s.connection.queue.filterMap (Request.due? tx exchange)

/-- The outcomes that have come, and then those that are queued. -/
def owed (s : Client) (tx : Nat) (exchange : Exchange) : List Outcome :=
  s.answers tx exchange ++ s.due tx exchange

end Client

namespace Blocking

/-! ## One delivery -/

/-- From `s` to `s'` the first `count` requests of the queue are answered, and nothing else happens
to the connection. -/
structure Delivered (count : Nat) (s s' : Client) : Prop where
  connection : s'.connection = { s.connection with queue := s.connection.queue.drop count }
  seen : ∀ {α : Type} (view : Event → Option α), Event.Overlooks view →
    s'.seen view = s.seen view ++ ((s.connection.queue.take count).map Request.ended).filterMap view

namespace Delivered

variable {count : Nat} {s s₁ s' : Client}

theorem none_queued (h : s.connection.queue = []) : Delivered count s s where
  connection := by
    rcases s with ⟨transactions, cursors, handles, connection, history⟩
    rcases connection with ⟨scripts, lastRun, queue, fault, verdicts, isOpen, held⟩
    cases h
    simp
  seen := by simp [h]

/-- One more request is answered before the others. -/
theorem cons {r : Request} {rest : List Request} (hq : s.connection.queue = r :: rest)
    (hcalm : ((s.updateConnection fun c => { c with queue := rest }).record r.ended).Calm s₁)
    (h : Delivered count s₁ s') : Delivered (count + 1) s s' where
  connection := by
    have hc : s₁.connection = { s.connection with queue := rest } := hcalm.connection
    rw [h.connection, hc, hq]
    rfl
  seen := by
    intro α view hview
    have hqueue : s₁.connection.queue = rest := congrArg Connection.queue hcalm.connection
    have hfirst : s₁.seen view = s.seen view ++ (view r.ended).toList := by
      rw [hcalm.seen (hview _)]
      simp
    calc
      s'.seen view
          = s₁.seen view ++ ((rest.take count).map Request.ended).filterMap view := by
            rw [h.seen view hview, hqueue]
      _ = s.seen view ++ ((view r.ended).toList ++
            ((rest.take count).map Request.ended).filterMap view) := by
            rw [hfirst, List.append_assoc]
      _ = s.seen view ++
            ((s.connection.queue.take (count + 1)).map Request.ended).filterMap view := by
            cases hv : view r.ended <;> simp [hq, hv]

end Delivered

/-- A delivery answers requests in the order of the queue. Its own answer is the first failure that
it was given or that it finds. -/
theorem delivered_deliverUpTo (count : Nat) (first : Option Error) {s : Client}
    (h : s.connection.Passive) :
    Delivered count s (Client.deliverUpTo count first s).2 ∧
      (Client.deliverUpTo count first s).1 =
        (first <|> (s.connection.queue.take count).findSome? fun r => r.reply.outcome.failure?) := by
  -- By induction on the number of answers, as the delivery itself goes.
  induction count generalizing first s with
  | zero => exact ⟨⟨rfl, by simp [Client.deliverUpTo]⟩, by simp [Client.deliverUpTo]⟩
  | succ count ih =>
      unfold Client.deliverUpTo
      cases hq : s.connection.queue with
      | nil => simpa [Client.next?, hq] using Delivered.none_queued hq
      | cons r rest =>
          have hr : r.handler.ownsCompletion = false := h r (by simp [hq])
          have hnext : s.next? =
              some (r, s.updateConnection fun c => { c with queue := rest }) := by
            simp [Client.next?, hq]
          rcases (s.updateConnection fun c => { c with queue := rest }).calm_answer rest hr with
            ⟨hcalm, hnone⟩
          have hpassive : ((s.updateConnection fun c => { c with queue := rest }).answer rest
              r).1.connection.Passive := by
            rw [hcalm.connection]
            intro q hmem
            exact h q (by simpa [hq] using Or.inr hmem)
          have hqueue : ((s.updateConnection fun c => { c with queue := rest }).answer rest
              r).1.connection.queue = rest := congrArg Connection.queue hcalm.connection
          rcases ih (first <|> r.reply.outcome.failure?) hpassive with ⟨hrest, hfailure⟩
          simp only [hnext]
          have hfollow := follow_of_none hnone
          refine ⟨by simpa [hfollow] using Delivered.cons hq hcalm hrest, ?_⟩
          rw [hqueue] at hfailure
          cases first <;> cases hf : r.reply.outcome.failure? <;>
            simpa [hfollow, hf] using hfailure

/-- Where callers wait, every request counts for one reply. -/
theorem load_of_passive {c : Connection} (h : c.Passive) : c.load = c.queue.length := by
  have hload : ∀ queue : List Request, (∀ r ∈ queue, r.handler.ownsCompletion = false) →
      queue.foldr (fun r load => r.weight + load) 0 = queue.length := by
    intro queue hqueue
    induction queue with
    | nil => rfl
    | cons r rest ih =>
        have hone : r.weight = 1 := by
          have hr := hqueue r (by simp)
          unfold Request.weight
          cases hh : r.handler <;> simp [hh, Handler.ownsCompletion] at hr ⊢
        have hrest := ih fun q hq => hqueue q (List.mem_cons_of_mem _ hq)
        simp only [List.foldr_cons, hrest, hone, List.length_cons]
        omega
  exact hload c.queue h

/-- A delivery without a limit brings every reply. It succeeds when none of them is a failure. -/
theorem deliver_all {s : Client} (h : s.connection.Passive) :
    (s.deliver none).2.connection.queue = [] ∧
      (s.deliver none).2.receipts = s.receipts ++ s.connection.queue.map Request.receipt ∧
      (s.deliver none).1 = s.connection.queue.findSome? fun r => r.reply.outcome.failure? := by
  rcases delivered_deliverUpTo s.connection.load none h with ⟨hdelivered, hfailure⟩
  have hreceipts := hdelivered.seen Event.receipt? overlooks_receipt?
  rw [load_of_passive h] at hdelivered hfailure hreceipts
  have hcome : (s.connection.queue.map Request.ended).filterMap Event.receipt? =
      s.connection.queue.map Request.receipt := by
    rw [List.filterMap_map]
    exact congrFun (List.filterMap_eq_map (f := Request.receipt)) _
  unfold Client.deliver Client.receipts
  rw [Option.getD_none, load_of_passive h]
  refine ⟨by simp [hdelivered.connection], ?_, ?_⟩
  · rw [hreceipts, List.take_length, hcome]
  · rw [hfailure]
    simp

/-! ## What is owed -/

/-- From `s` to `s'` no outcome of the given exchange is lost, and none is asked for. -/
structure Keeps (tx : Nat) (exchange : Exchange) (s s' : Client) : Prop where
  passive : s'.connection.Passive
  owed : s'.owed tx exchange = s.owed tx exchange

namespace Keeps

variable {tx : Nat} {exchange : Exchange} {s s₁ s₂ : Client}

theorem refl (h : s.connection.Passive) : Keeps tx exchange s s :=
  ⟨h, rfl⟩

theorem trans (h : Keeps tx exchange s s₁) (h' : Keeps tx exchange s₁ s₂) :
    Keeps tx exchange s s₂ :=
  ⟨h'.passive, h'.owed.trans h.owed⟩

theorem of_calm (hp : s.connection.Passive) (h : s.Calm s₁) : Keeps tx exchange s s₁ where
  passive := by
    rw [h.connection]
    exact hp
  owed := by
    unfold Client.owed Client.due
    rw [h.answers, h.connection]

/-- Changing the connection without its queue. -/
theorem of_queue (hp : s.connection.Passive) {f : Connection → Connection}
    (hq : (f s.connection).queue = s.connection.queue) :
    Keeps tx exchange s (s.updateConnection f) where
  passive := by
    intro r hr
    exact hp r (hq ▸ hr)
  owed := by simp [Client.owed, Client.due, Client.answers, hq]

/-- What has been delivered is owed no more, but has come. -/
theorem of_delivered {count : Nat} (hp : s.connection.Passive) (h : Delivered count s s₁) :
    Keeps tx exchange s s₁ where
  passive := by
    rw [h.connection]
    intro r hr
    exact hp r (List.mem_of_mem_drop hr)
  owed := by
    have hcome := h.seen (Event.answer? tx exchange) (overlooks_answer? tx exchange)
    have hsplit : (s.connection.queue.take count).filterMap (Request.due? tx exchange) ++
        (s.connection.queue.drop count).filterMap (Request.due? tx exchange) = s.due tx exchange := by
      rw [← List.filterMap_append, List.take_append_drop]
      rfl
    calc
      s₁.owed tx exchange
          = (s.answers tx exchange ++
              (s.connection.queue.take count).filterMap (Request.due? tx exchange)) ++
            (s.connection.queue.drop count).filterMap (Request.due? tx exchange) := by
            unfold Client.owed Client.due Client.answers
            rw [hcome, h.connection, List.filterMap_map]
            rfl
      _ = s.owed tx exchange := by
            rw [List.append_assoc, hsplit]
            rfl

/-- An event that is no answer. -/
theorem of_record (hp : s.connection.Passive) {e : Event} (he : e.answer? tx exchange = none) :
    Keeps tx exchange s (s.record e) where
  passive := hp
  owed := by
    have hcome : (s.record e).answers tx exchange = s.answers tx exchange := by
      unfold Client.answers
      rw [Client.seen_record, he]
      simp
    unfold Client.owed
    rw [hcome]
    rfl

end Keeps

section

variable {tx place : Nat} {exchange other : Exchange} {s : Client}

/-- A request that is queued is owed its outcome. -/
theorem owed_push {f : Connection → Connection} {r : Request}
    (hq : (f s.connection).queue = s.connection.queue ++ [r]) :
    (s.updateConnection f).owed tx exchange =
      s.owed tx exchange ++ (r.due? tx exchange).toList := by
  have hcome : (s.updateConnection f).answers tx exchange = s.answers tx exchange := rfl
  have hdue : (s.updateConnection f).due tx exchange =
      s.due tx exchange ++ (r.due? tx exchange).toList := by
    unfold Client.due
    rw [(s.frame_updateConnection f).2.2.2.1, hq, List.filterMap_append]
    cases h : r.due? tx exchange <;> simp [h]
  unfold Client.owed
  rw [hcome, hdue, List.append_assoc]

/-! ## Calls -/

/-- A call is noted, brings the replies of its verdict, and ends as its verdict says. -/
theorem delivered_call (place : Nat) (kind : Call) (event : Event) (hp : s.connection.Passive) :
    (call place kind event s).1 = (s.connection.attempt kind).1.failure ∧
      ∃ s₁, Delivered (s.connection.attempt kind).1.replies
          ((s.record event).updateConnection fun _ => (s.connection.attempt kind).2) s₁ ∧
        (call place kind event s).2 =
          if (s.connection.attempt kind).1.failure.isSome then s₁.record (.refused place)
          else s₁ := by
  have hqueue := attempt_queue s.connection kind
  have hpassive : ((s.record event).updateConnection
      fun _ => (s.connection.attempt kind).2).connection.Passive := by
    intro r hr
    exact hp r (hqueue ▸ hr)
  have hdelivered := (delivered_deliverUpTo (s.connection.attempt kind).1.replies none hpassive).1
  have hattempt : (s.record event).connection.attempt kind = s.connection.attempt kind := rfl
  unfold call
  simp only [hattempt]
  generalize s.connection.attempt kind = attempted at hdelivered
  rcases attempted with ⟨⟨replies, failure⟩, connection⟩
  cases failure with
  | none => exact ⟨rfl, _, hdelivered, rfl⟩
  | some e => exact ⟨rfl, _, hdelivered, rfl⟩

/-- A `sync` for which nothing is laid down either cannot be made, and no result hears of it, or
brings every reply and answers with the first failure among them. -/
theorem sync_of_unlaid (place : Nat) (hp : s.connection.Passive) (h : s.connection.verdicts = []) :
    (∃ e, (sync place s).1 = some e ∧ (sync place s).2.cursors = s.cursors) ∨
      (sync place s).2.connection.queue = [] ∧
        (sync place s).2.receipts = s.receipts ++ s.connection.queue.map Request.receipt ∧
        (sync place s).1 = s.connection.queue.findSome? fun r => r.reply.outcome.failure? := by
  have hattempt : (s.record (.sync place)).connection.attempt .sync = s.connection.attempt .sync :=
    rfl
  have hreplies : (s.connection.attempt .sync).1.replies = 0 := by
    simp only [Connection.attempt, h]
    repeat' split
    all_goals rfl
  have hqueue := attempt_queue s.connection .sync
  unfold sync call
  simp only [h, List.isEmpty_nil, if_true, hattempt]
  generalize s.connection.attempt .sync = attempted at hreplies hqueue
  rcases attempted with ⟨⟨replies, failure⟩, connection⟩
  dsimp only at hreplies hqueue
  subst hreplies
  cases failure with
  | some e => exact Or.inl ⟨e, rfl, rfl⟩
  | none =>
      -- The call has gone through, and every reply is waited for.
      have hpassive : ({ s.record (.sync place) with connection := connection } :
          Client).connection.Passive := fun r hr => hp r (hqueue ▸ hr)
      rcases deliver_all hpassive with ⟨hempty, hreceipts, hfailure⟩
      refine Or.inr ⟨hempty, ?_, ?_⟩
      · rw [← hqueue, ← s.receipts_record (e := .sync place) rfl]
        exact hreceipts
      · rw [← hqueue]
        exact hfailure

theorem keeps_call (kind : Call) {event : Event} (he : event.answer? tx exchange = none)
    (hp : s.connection.Passive) : Keeps tx exchange s (call place kind event s).2 := by
  rcases delivered_call place kind event hp with ⟨-, s₁, hdelivered, hcall⟩
  have hnoted : Keeps tx exchange s (s.record event) := .of_record hp he
  have hattempt : Keeps tx exchange (s.record event)
      ((s.record event).updateConnection fun _ => (s.connection.attempt kind).2) :=
    .of_queue hnoted.passive (attempt_queue s.connection kind)
  have hcome := (hnoted.trans hattempt).trans (.of_delivered hattempt.passive hdelivered)
  rw [hcall]
  split
  · exact hcome.trans (.of_record hcome.passive rfl)
  · exact hcome

/-- If each of two parts keeps what is owed, so does one after the other. -/
theorem Keeps.andThen {sent : Sent} {next : Client → Sent} (h : Keeps tx exchange s sent.2)
    (hnext : ∀ s' : Client, s'.connection.Passive → Keeps tx exchange s' (next s').2) :
    Keeps tx exchange s (sent.andThen next).2 := by
  rcases sent with ⟨failure, s₁⟩
  cases failure with
  | none => exact h.trans (hnext s₁ h.passive)
  | some e => exact h

/-- A RUN is owed no answer that counts. -/
theorem keeps_run (place : Nat) (other : Exchange) (statement : String) (params : Params)
    {handler : Handler} (hh : handler.ownsCompletion = false) (hp : s.connection.Passive) :
    Keeps tx exchange s (run place other statement params handler s).2 := by
  refine (keeps_call .run rfl hp).andThen ?_
  intro s' hs'
  refine ⟨passive_push hs' hh rfl, ?_⟩
  rw [owed_push (r := ⟨place, other, .run, handler, s'.connection.runReply statement⟩) rfl]
  simp [Request.due?, Request.ended]

/-- The PULL_ALL of another exchange. -/
theorem keeps_pullAll {handler : Handler} (hne : place ≠ tx ∨ other ≠ exchange)
    (hh : handler.ownsCompletion = false) (hp : s.connection.Passive) :
    Keeps tx exchange s (pullAll place other handler s).2 := by
  refine (keeps_call .pullAll rfl hp).andThen ?_
  intro s' hs'
  refine ⟨passive_push hs' hh rfl, ?_⟩
  rw [owed_push (r := ⟨place, other, .pullAll, handler, s'.connection.pullReply⟩) rfl]
  have hnot : ¬ (place = tx ∧ other = exchange) := by
    rintro ⟨rfl, rfl⟩
    simp at hne
  simp [Request.due?, Request.ended, hnot]

/-- The statement of another exchange, with the PULL_ALL after it. -/
theorem keeps_request {first second : Handler} (hne : place ≠ tx ∨ other ≠ exchange)
    (hfirst : first.ownsCompletion = false) (hsecond : second.ownsCompletion = false)
    (statement : String) (params : Params) (hp : s.connection.Passive) :
    Keeps tx exchange s
      ((run place other statement params first s).andThen (pullAll place other second)).2 :=
  (keeps_run place other statement params hfirst hp).andThen fun _ hs' =>
    keeps_pullAll hne hsecond hs'

/-- The PULL_ALL of the exchange itself is queued, and is owed one outcome. -/
theorem owed_pullAll {handler : Handler} {s₁ : Client} (hp : s.connection.Passive)
    (hh : handler.ownsCompletion = false) (h : pullAll tx exchange handler s = (none, s₁)) :
    s₁.connection.Passive ∧ ∃ r ∈ s₁.connection.queue,
      r.due? tx exchange = some r.reply.outcome ∧
        s₁.owed tx exchange = s.owed tx exchange ++ [r.reply.outcome] := by
  have hkeeps : Keeps tx exchange s (call tx .pullAll (.pullAll tx exchange) s).2 :=
    keeps_call .pullAll rfl hp
  unfold pullAll at h
  rcases hc : call tx .pullAll (.pullAll tx exchange) s with ⟨failure, s₂⟩
  rw [hc] at h hkeeps
  cases failure with
  | some e => simp [Sent.andThen] at h
  | none =>
      simp only [Sent.andThen, Prod.mk.injEq, true_and] at h
      subst h
      have hdue : Request.due? tx exchange
          ⟨tx, exchange, .pullAll, handler, s₂.connection.pullReply⟩ =
            some s₂.connection.pullReply.outcome := by
        simp [Request.due?, Request.ended]
      refine ⟨passive_push hkeeps.passive hh rfl,
        ⟨tx, exchange, .pullAll, handler, s₂.connection.pullReply⟩, ?_, hdue, ?_⟩
      · simp [Connection.pullAll]
      · rw [owed_push (r := ⟨tx, exchange, .pullAll, handler, s₂.connection.pullReply⟩) rfl,
          hkeeps.owed, hdue]
        rfl

theorem keeps_flush (place : Nat) (hp : s.connection.Passive) :
    Keeps tx exchange s (flush place s).2 :=
  keeps_call .flush rfl hp

theorem keeps_deliver (limit : Option Nat) (hp : s.connection.Passive) :
    Keeps tx exchange s (s.deliver limit).2 :=
  .of_delivered hp (delivered_deliverUpTo _ none hp).1

theorem keeps_sync (place : Nat) (hp : s.connection.Passive) :
    Keeps tx exchange s (sync place s).2 := by
  have hcall : Keeps tx exchange s (call place .sync (.sync place) s).2 := keeps_call .sync rfl hp
  unfold sync
  dsimp only
  split
  · exact hcall.andThen fun s' hs' => keeps_deliver none hs'
  · exact hcall

end

end Blocking

end ClientTransaction
