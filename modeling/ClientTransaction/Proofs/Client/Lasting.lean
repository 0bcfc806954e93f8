import ClientTransaction.Client.Delivery
import Mathlib.Logic.Relation

/-!
# Client.Lasting — what lasts while replies come

There are several ways in which replies come, but they all consist of the same: the first request of
the queue is answered, or a request that has left the queue is given up, and then what the handler
asks for is sent. What each of these leaves as it is lasts through every delivery.
-/

namespace ClientTransaction.Client

/-- A client while replies come, with the requests that have left the queue and are still to be given
up. -/
structure Position where
  before : List Request
  client : Client

/-- What deliveries consist of. -/
inductive Turn : Position → Position → Prop
  | flush {before : List Request} {s : Client} (tx : Nat) :
      Turn ⟨before, s⟩ ⟨before, s.record (.flush tx)⟩
  /-- The first request of the queue is answered. -/
  | next {before : List Request} {s : Client} {r : Request} {rest : List Request}
      (hq : s.connection.queue = r :: rest) :
      Turn ⟨before, s⟩
        ⟨before, ((s.updateConnection fun c => { c with queue := rest }).answer rest r).1.start
          ((s.updateConnection fun c => { c with queue := rest }).answer rest r).2⟩
  /-- The whole queue is to be given up. -/
  | take {s : Client} :
      Turn ⟨[], s⟩ ⟨s.connection.queue, s.updateConnection fun c => { c with queue := [] }⟩
  | giveUp {before : List Request} {s : Client} {r : Request} :
      Turn ⟨r :: before, s⟩
        ⟨before, (s.answer (s.connection.queue ++ before)
            { r with reply := { outcome := .dropped } }).1.start
          (s.answer (s.connection.queue ++ before) { r with reply := { outcome := .dropped } }).2⟩

/-- Some number of turns. -/
abbrev Turns :=
  Relation.ReflTransGen Turn

/-- `P` outlasts every turn. -/
structure Lasting (P : List Request → Client → Prop) : Prop where
  flush : ∀ {before : List Request} {s : Client} (tx : Nat), P before s →
    P before (s.record (.flush tx))
  /-- The first request of the queue is answered. -/
  next : ∀ {before : List Request} {s : Client} {r : Request} {rest : List Request}, P before s →
    s.connection.queue = r :: rest →
      P before (((s.updateConnection fun c => { c with queue := rest }).answer rest r).1.start
        ((s.updateConnection fun c => { c with queue := rest }).answer rest r).2)
  /-- The whole queue is to be given up. -/
  take : ∀ {s : Client}, P [] s →
    P s.connection.queue (s.updateConnection fun c => { c with queue := [] })
  giveUp : ∀ {before : List Request} {s : Client} {r : Request}, P (r :: before) s →
    P before ((s.answer (s.connection.queue ++ before)
        { r with reply := { outcome := .dropped } }).1.start
      (s.answer (s.connection.queue ++ before) { r with reply := { outcome := .dropped } }).2)

namespace Lasting

variable {P : List Request → Client → Prop} {before : List Request} {s : Client}

theorem turn (hP : Lasting P) {x y : Position} (ht : Turn x y) (h : P x.before x.client) :
    P y.before y.client := by
  cases ht with
  | flush tx => exact hP.flush tx h
  | next hq => exact hP.next h hq
  | take => exact hP.take h
  | giveUp => exact hP.giveUp h

theorem drainUpTo (hP : Lasting P) (h : P before s) (count : Nat) :
    P before (drainUpTo count s) := by
  induction count generalizing s with
  | zero => exact h
  | succ count ih =>
      unfold Client.drainUpTo
      cases hq : s.connection.queue with
      | nil => simpa [Client.next?, hq] using h
      | cons r rest =>
          simp only [Client.next?, hq]
          exact ih (hP.next h hq)

theorem settle (hP : Lasting P) (h : P before s) : P before s.settle := by
  unfold Client.settle
  split
  · exact h
  · exact hP.drainUpTo h _

/-- What a handler asks for has been sent, and then the queue is settled. -/
theorem follow (hP : Lasting P) {answered : Client × Option Rollback}
    (h : P before (answered.1.start answered.2)) : P before (follow answered) := by
  rcases answered with ⟨s, rollback⟩
  cases rollback with
  | none => exact h
  | some rb => exact hP.settle h

theorem flushed (hP : Lasting P) (h : P before s) (tx : Nat) : P before (s.flush tx) :=
  hP.settle (hP.flush tx h)

theorem deliverUpTo (hP : Lasting P) (h : P before s) (count : Nat) (first : Option Error) :
    P before (deliverUpTo count first s).2 := by
  induction count generalizing first s with
  | zero => exact h
  | succ count ih =>
      unfold Client.deliverUpTo
      cases hq : s.connection.queue with
      | nil => simpa [Client.next?, hq] using h
      | cons r rest =>
          simp only [Client.next?, hq]
          exact ih (hP.follow (hP.next h hq)) _

/-- Requests are given up in their order. -/
theorem givenUp (hP : Lasting P) {requests : List Request} (h : P requests s) :
    P [] (Client.giveUp requests s) := by
  induction requests generalizing s with
  | nil => exact h
  | cons r rest ih => exact ih (hP.follow (hP.giveUp h))

theorem dropQueue (hP : Lasting P) (h : P [] s) : P [] s.dropQueue :=
  hP.givenUp (hP.take h)

end Lasting

/-! ## Ways in which replies come -/

/-- Replies lead from `s` to another client: none, those that are there when the queue is settled,
or what a delivery or the loss of the queue brings. -/
inductive Hears (s : Client) : Client → Prop
  | nothing : Hears s s
  | settle : Hears s s.settle
  | flush (tx : Nat) : Hears s (s.flush tx)
  | deliver (limit : Option Nat) : Hears s (s.deliver limit).2
  | dropQueue : Hears s s.dropQueue

/-- Sending what a handler asks for is part of hearing it. -/
theorem hears_follow (answered : Client × Option Rollback) :
    Hears (answered.1.start answered.2) (follow answered) := by
  rcases answered with ⟨s, rollback⟩
  cases rollback with
  | none => exact .nothing
  | some rb => exact .settle

theorem Lasting.hears {P : List Request → Client → Prop} (hP : Lasting P) {s s' : Client}
    (h : Hears s s') (hs : P [] s) : P [] s' := by
  cases h with
  | nothing => exact hs
  | settle => exact hP.settle hs
  | flush tx => exact hP.flushed hs tx
  | deliver limit => exact hP.deliverUpTo hs _ none
  | dropQueue => exact hP.dropQueue hs

/-- From wherever replies started to come, they come in turns. -/
theorem lasting_turns (x : Position) : Lasting fun before s => Turns x ⟨before, s⟩ where
  flush := by
    intro before s tx h
    exact h.tail (.flush tx)
  next := by
    intro before s r rest h hq
    exact h.tail (.next hq)
  take := by
    intro s h
    exact h.tail .take
  giveUp := by
    intro before s r h
    exact h.tail .giveUp

theorem Hears.turns {s s' : Client} (h : Hears s s') : Turns ⟨[], s⟩ ⟨[], s'⟩ :=
  (lasting_turns ⟨[], s⟩).hears h .refl

end ClientTransaction.Client
