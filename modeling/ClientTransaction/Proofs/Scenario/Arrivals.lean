import ClientTransaction.Proofs.Nonblocking.Requests

/-!
# Scenario.Arrivals — replies come in turn

Replies are delivered, or given up, in the order in which the requests were sent. There is one
exception: while a queue is given up, a ROLLBACK that is sent meanwhile may be answered before the
requests that are still to be given up. So no reply to a statement ever overtakes another one,
whether calls wait or not.
-/

namespace ClientTransaction

/-- The cursor of the statement that an exchange is for. -/
def Exchange.cursor? : Exchange → Option Nat
  | .statement cursor => some cursor
  | _ => none

/-- What follows from a handler is sent for no statement. -/
theorem Client.cursor?_opening {s : Client} {rollback : Option Rollback} {r : Request}
    (hr : r ∈ s.opening rollback) : r.exchange.cursor? = none := by
  cases rollback with
  | none => simp [Client.opening] at hr
  | some rb => rw [(Nonblocking.mem_requests hr).2.1]; rfl

namespace Scenario

open Nonblocking (Situation answered Delivery Deliveries queue_start connection_answer)

/-- If the request is for a statement, none of the requests before it is. -/
def InTurn (before : List Request) (r : Request) : Prop :=
  r.exchange.cursor? ≠ none → ∀ q ∈ before, q.exchange.cursor? = none

theorem InTurn.nil (r : Request) : InTurn [] r :=
  fun _ _ hq => absurd hq List.not_mem_nil

theorem InTurn.of_cursor? {before : List Request} {r : Request} (h : r.exchange.cursor? = none) :
    InTurn before r :=
  fun hne => absurd h hne

/-- What a delivery of replies consists of. -/
inductive Arrival : Situation → Situation → Prop
  | connect {rs : List Request} {s : Client} (f : Connection → Connection) :
      Arrival ⟨rs, s⟩ ⟨rs, s.updateConnection f⟩
  | flush {rs : List Request} {s : Client} (tx : Nat) : Arrival ⟨rs, s⟩ ⟨rs, s.record (.flush tx)⟩
  | answer {s : Client} (before after : List Request) (r : Request) (reply : Reply)
      (others : List Request) (ho : others ⊆ before ++ after) (ht : InTurn before r) :
      Arrival ⟨before ++ r :: after, s⟩ (answered before after s others { r with reply := reply })

theorem Arrival.delivery {σ σ' : Situation} (h : Arrival σ σ') : Delivery σ σ' := by
  cases h with
  | connect f => exact .connect f
  | flush tx => exact .flush tx
  | answer before after r reply others ho _ => exact .answer before after r reply others ho

/-- Some arrivals. -/
abbrev Arrivals :=
  Relation.ReflTransGen Arrival

theorem Arrivals.deliveries {σ σ' : Situation} (h : Arrivals σ σ') : Deliveries σ σ' :=
  Relation.ReflTransGen.mono (fun _ _ => Arrival.delivery) _ _ h

/-- Whatever the queue begins with may be answered now; `before` are requests that have left it. -/
def Clear (before : List Request) (s : Client) : Prop :=
  ∀ r ∈ s.connection.queue, InTurn before r

theorem Clear.nil (s : Client) : Clear [] s :=
  fun r _ => .nil r

/-- Replies get the client from `s` to `s'`, and the queue is clear again. -/
structure Arrives (before : List Request) (s s' : Client) : Prop where
  arrivals : Arrivals ⟨before ++ s.connection.queue, s⟩ ⟨before ++ s'.connection.queue, s'⟩
  clear : Clear before s'

namespace Arrives

variable {before : List Request} {s s₁ s₂ : Client}

theorem refl (h : Clear before s) : Arrives before s s :=
  ⟨.refl, h⟩

theorem trans (h : Arrives before s s₁) (h' : Arrives before s₁ s₂) : Arrives before s s₂ :=
  ⟨h.arrivals.trans h'.arrivals, h'.clear⟩

/-- What follows from an answer does not stand in the way of a later one. -/
theorem clear_start {others : List Request} {r : Request}
    (h : ∀ q ∈ s.connection.queue, InTurn before q) :
    Clear before ((s.answer others r).1.start (s.answer others r).2) := by
  intro q hq
  rw [queue_start, connection_answer] at hq
  rcases List.mem_append.1 hq with hq | hq
  · exact h q hq
  · -- Only a ROLLBACK follows, and that is for no statement.
    exact .of_cursor? (Client.cursor?_opening hq)

/-- The first request of the queue is answered. -/
theorem next (h : Clear before s) {r : Request} {rest : List Request}
    (hq : s.connection.queue = r :: rest) :
    Arrives before s
      (((s.updateConnection fun c => { c with queue := rest }).answer rest r).1.start
        ((s.updateConnection fun c => { c with queue := rest }).answer rest r).2) := by
  have hturn : InTurn before r := h r (hq ▸ List.mem_cons_self ..)
  refine ⟨?_, clear_start fun q hmem => h q (hq ▸ List.mem_cons_of_mem _ hmem)⟩
  rw [queue_start, connection_answer, hq]
  -- The request leaves the queue, and is answered at once.
  refine Relation.ReflTransGen.head (.connect fun c => { c with queue := rest }) ?_
  apply Relation.ReflTransGen.single
  simpa [answered, List.append_assoc] using Arrival.answer before rest r r.reply rest
    (fun _ hr => List.mem_append_right before hr) hturn

/-- From wherever replies started to come, they come in turn. -/
theorem lasting (σ : Situation) : Client.Lasting fun before s =>
    Arrivals σ ⟨before ++ s.connection.queue, s⟩ ∧ Clear before s where
  flush := by
    rintro before s tx ⟨h, hclear⟩
    exact ⟨h.tail (.flush tx), hclear⟩
  next := by
    rintro before s r rest ⟨h, hclear⟩ hq
    have hnext := next hclear hq
    exact ⟨h.trans hnext.arrivals, hnext.clear⟩
  take := by
    rintro s ⟨h, -⟩
    refine ⟨h.tail ?_, fun r hr => absurd hr List.not_mem_nil⟩
    have hemptied : Arrival ⟨s.connection.queue, s⟩
        ⟨s.connection.queue, s.updateConnection fun c => { c with queue := [] }⟩ := .connect _
    simpa using hemptied
  giveUp := by
    rintro before s r ⟨h, hclear⟩
    -- What has been queued meanwhile may be answered before the requests after this one.
    refine ⟨h.tail ?_, clear_start fun q hq hne p hp => hclear q hq hne p
      (List.mem_cons_of_mem _ hp)⟩
    rw [queue_start, connection_answer]
    simpa [answered, List.append_assoc] using Arrival.answer [] (before ++ s.connection.queue) r
      { outcome := .dropped } (s := s) (s.connection.queue ++ before) (by simp) (.nil r)

theorem of_lasting {s' : Client} (h : Arrivals ⟨before ++ s.connection.queue, s⟩
    ⟨before ++ s'.connection.queue, s'⟩ ∧ Clear before s') : Arrives before s s' :=
  ⟨h.1, h.2⟩

/-- What a handler asks for has been sent, and then the queue is settled. -/
theorem follow (answer : Client × Option Rollback) (h : Clear before (answer.1.start answer.2)) :
    Arrives before (answer.1.start answer.2) (Client.follow answer) :=
  of_lasting ((lasting _).follow ⟨.refl, h⟩)

theorem flush (h : Clear before s) (tx : Nat) : Arrives before s (s.flush tx) :=
  of_lasting ((lasting _).flushed ⟨.refl, h⟩ tx)

theorem deliverUpTo (h : Clear before s) (count : Nat) (first : Option Error) :
    Arrives before s (Client.deliverUpTo count first s).2 :=
  of_lasting ((lasting _).deliverUpTo ⟨.refl, h⟩ count first)

theorem deliver (limit : Option Nat) : Arrives [] s (s.deliver limit).2 :=
  deliverUpTo (.nil s) _ none

theorem dropQueue (s : Client) : Arrives [] s s.dropQueue :=
  of_lasting ((lasting _).dropQueue ⟨.refl, .nil s⟩)

end Arrives

end Scenario

end ClientTransaction
