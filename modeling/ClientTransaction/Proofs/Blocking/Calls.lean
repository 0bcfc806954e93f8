import ClientTransaction.Blocking
import ClientTransaction.Proofs.Client.Calm

/-!
# Blocking.Calls — what calls that wait can do

A caller that waits leaves no completions in the queue, so whatever replies come during a call are of
no consequence for how a transaction stands. Between two points of a run exactly the calls of one
transaction are made, and an exchange stops at its first failing call.
-/

namespace ClientTransaction

/-- No queued request has a completion to fire. -/
def Connection.Passive (c : Connection) : Prop :=
  ∀ r ∈ c.queue, r.handler.ownsCompletion = false

instance (c : Connection) : Decidable c.Passive :=
  inferInstanceAs (Decidable (∀ r ∈ c.queue, r.handler.ownsCompletion = false))

namespace Blocking

/-- From `s` to `s'` exactly the calls `events` are made, on behalf of `tx`. No transaction is
claimed or ended, no handle is made, and no completion is left in the queue. -/
structure Made (tx : Nat) (events : List Event) (s s' : Client) : Prop where
  footing : ∀ place, s'.footing? place = s.footing? place
  endings : ∀ place, s'.endings place = s.endings place
  calls : ∀ place, s'.calls place = s.calls place ++ if place = tx then events else []
  passive : s'.connection.Passive
  isOpen : s'.connection.isOpen = s.connection.isOpen
  handles : s'.handles.length = s.handles.length

namespace Made

variable {tx : Nat} {events events' : List Event} {s s₁ s₂ : Client}

theorem refl (tx : Nat) (h : s.connection.Passive) : Made tx [] s s :=
  ⟨fun _ => rfl, fun _ => rfl, by simp, h, rfl, rfl⟩

theorem trans (h : Made tx events s s₁) (h' : Made tx events' s₁ s₂) :
    Made tx (events ++ events') s s₂ where
  footing := by
    intro place
    exact (h'.footing place).trans (h.footing place)
  endings := by
    intro place
    exact (h'.endings place).trans (h.endings place)
  calls := by
    intro place
    rw [h'.calls, h.calls]
    split <;> simp
  passive := h'.passive
  isOpen := h'.isOpen.trans h.isOpen
  handles := h'.handles.trans h.handles

/-- A calm change makes no call. -/
theorem of_calm (tx : Nat) (hp : s.connection.Passive) (h : s.Calm s₁) : Made tx [] s s₁ where
  footing := h.footing?
  endings := h.endings
  calls := by simpa using h.calls
  passive := by
    rw [h.connection]
    exact hp
  isOpen := congrArg Connection.isOpen h.connection
  handles := h.size

/-- Changing the queue, without adding a completion to it, makes no call. -/
theorem of_connection (tx : Nat) {f : Connection → Connection} (hf : (f s.connection).Passive)
    (ho : (f s.connection).isOpen = s.connection.isOpen) : Made tx [] s (s.updateConnection f) :=
  ⟨fun _ => rfl, fun _ => rfl, fun place => by simp [Client.calls], hf, ho, rfl⟩

end Made

/-! ## Deliveries -/

/-- Nothing follows an answer that asks for no rollback. -/
theorem follow_of_none {answered : Client × Option Rollback} (h : answered.2 = none) :
    Client.follow answered = answered.1 := by
  rcases answered with ⟨s, rollback⟩
  cases h
  rfl

theorem made_answer (tx : Nat) {s : Client} (others : List Request) {r : Request}
    (hr : r.handler.ownsCompletion = false) (h : s.connection.Passive) :
    Made tx [] s (s.answer others r).1 ∧ (s.answer others r).2 = none := by
  rcases s.calm_answer others hr with ⟨hcalm, hnone⟩
  have hreply : Made tx [] s (s.record (.reply r.owner r.exchange r.part r.reply)) :=
    ⟨fun _ => rfl, by simp [Client.endings], by simp [Client.calls], h, rfl, rfl⟩
  exact ⟨hreply.trans (.of_calm tx hreply.passive hcalm), hnone⟩

theorem made_deliverUpTo (tx : Nat) (count : Nat) (first : Option Error) {s : Client}
    (h : s.connection.Passive) : Made tx [] s (Client.deliverUpTo count first s).2 := by
  -- By induction on the number of answers. No request in the queue has a completion, so no answer
  -- asks for a rollback, and none adds to the queue.
  induction count generalizing first s with
  | zero => exact Made.refl tx h
  | succ count ih =>
      unfold Client.deliverUpTo
      cases hq : s.connection.queue with
      | nil => simpa [Client.next?, hq] using Made.refl tx h
      | cons r rest =>
          have hr : r.handler.ownsCompletion = false := h r (by simp [hq])
          have hpop : Made tx [] s (s.updateConnection fun c => { c with queue := rest }) :=
            Made.of_connection tx (fun x hx => h x (by simp [hq, List.mem_cons.2 (Or.inr hx)])) rfl
          have hnext : s.next? =
              some (r, s.updateConnection fun c => { c with queue := rest }) := by
            simp [Client.next?, hq]
          rcases made_answer tx rest hr hpop.passive with ⟨hanswer, hnone⟩
          simp only [hnext]
          have hfollow := follow_of_none hnone
          simpa [hfollow] using (hpop.trans hanswer).trans (ih _ hanswer.passive)

theorem made_deliver (tx : Nat) (limit : Option Nat) {s : Client} (h : s.connection.Passive) :
    Made tx [] s (s.deliver limit).2 :=
  made_deliverUpTo tx _ none h

/-! ## Single calls -/

/-- The event is a call on behalf of `tx`. -/
structure IsCall (tx : Nat) (event : Event) : Prop where
  own : event.call? tx = some event
  others : ∀ place, place ≠ tx → event.call? place = none
  ending : ∀ place, event.ending? place = none

/-- What is seen of a call for its own transaction is the call itself. -/
theorem isCall_of_own {tx : Nat} {event : Event} (h : event.call? tx = some event) :
    IsCall tx event := by
  refine ⟨h, ?_, ?_⟩
  · intro place hp
    cases event <;> simp at h
    all_goals
      subst h
      simp [hp.symm]
  · intro place
    cases event <;> simp at h
    all_goals rfl

theorem made_record {tx : Nat} {event : Event} (he : IsCall tx event) {s : Client}
    (h : s.connection.Passive) : Made tx [event] s (s.record event) := by
  refine ⟨fun _ => rfl, ?_, ?_, h, rfl, rfl⟩
  · intro place
    rw [Client.endings, Client.seen_record, he.ending place]
    simp [Client.endings]
  · intro place
    rw [Client.calls, Client.seen_record]
    by_cases hp : place = tx
    · subst hp
      rw [he.own]
      simp [Client.calls]
    · rw [he.others place hp]
      simp [Client.calls, hp]

theorem attempt_queue (c : Connection) (call : Call) : (c.attempt call).2.queue = c.queue := by
  unfold Connection.attempt
  repeat' split
  all_goals rfl

theorem attempt_isOpen (c : Connection) (call : Call) : (c.attempt call).2.isOpen = c.isOpen := by
  unfold Connection.attempt
  repeat' split
  all_goals rfl

/-- A call is made, and then it is refused or goes through. -/
theorem made_call {tx : Nat} {event : Event} (kind : Call) (he : IsCall tx event) {s : Client}
    (h : s.connection.Passive) :
    Made tx (event :: if (call tx kind event s).1.isSome then [.refused tx] else []) s
      (call tx kind event s).2 := by
  have hevent := made_record he h
  rcases hv : (s.record event).connection.attempt kind with ⟨⟨replies, failure⟩, connection⟩
  have hqueue := attempt_queue (s.record event).connection kind
  have hopen := attempt_isOpen (s.record event).connection kind
  rw [hv] at hqueue hopen
  have hattempt : Made tx [] (s.record event)
      ((s.record event).updateConnection fun _ => connection) := by
    refine Made.of_connection tx (fun r hr => hevent.passive r ?_) hopen
    rwa [← hqueue]
  -- Replies that come while the call is made are of no consequence.
  have hdeliver := hattempt.trans (made_deliver tx (some replies) hattempt.passive)
  cases failure with
  | none =>
      have hcall : call tx kind event s = (none,
          (((s.record event).updateConnection fun _ => connection).deliver (some replies)).2) := by
        unfold call
        simp only [hv]
        rfl
      simpa [hcall] using hevent.trans hdeliver
  | some e =>
      have hcall : call tx kind event s = (some e,
          (((s.record event).updateConnection fun _ => connection).deliver
            (some replies)).2.record (.refused tx)) := by
        unfold call
        simp only [hv]
        rfl
      simpa [hcall] using hevent.trans (hdeliver.trans
        (made_record (isCall_of_own (by simp)) hdeliver.passive))

/-- A queued request without a completion leaves the queue without one. -/
theorem passive_push {c : Connection} (h : c.Passive) {r : Request}
    (hr : r.handler.ownsCompletion = false) {c' : Connection} (hq : c'.queue = c.queue ++ [r]) :
    c'.Passive := by
  intro q hmem
  rw [hq] at hmem
  rcases List.mem_append.1 hmem with hmem | hmem
  · exact h q hmem
  · rw [List.mem_singleton.1 hmem]
    exact hr

/-! ## Sequences of calls -/

/-- The calls stop at one that fails; if it was refused, that is noted. -/
def StopsShort (tx : Nat) (events calls : List Event) : Prop :=
  ∃ made tail, made ≠ [] ∧ made <+: calls ∧ (tail = [] ∨ tail = [.refused tx]) ∧
    events = made ++ tail

/-- Calls that come first are all made when a later one fails. -/
theorem StopsShort.after {tx : Nat} {events calls : List Event} (h : StopsShort tx events calls)
    (first : List Event) : StopsShort tx (first ++ events) (first ++ calls) := by
  rcases h with ⟨made, tail, hne, hpre, htail, rfl⟩
  refine ⟨first ++ made, tail, by simp [hne], (List.prefix_append_right_inj _).2 hpre, htail, ?_⟩
  rw [List.append_assoc]

/-- Calls that would have come later are not made when one fails. -/
theorem StopsShort.before {tx : Nat} {events calls : List Event} (h : StopsShort tx events calls)
    (later : List Event) : StopsShort tx events (calls ++ later) := by
  rcases h with ⟨made, tail, hne, hpre, htail, rfl⟩
  exact ⟨made, tail, hne, hpre.trans (List.prefix_append _ _), htail, rfl⟩

/-- What a sequence of calls comes to: either all of them are made, or it stops short. -/
def Ran (tx : Nat) (calls : List Event) (s : Client) (sent : Sent) : Prop :=
  match sent.1 with
  | none => Made tx calls s sent.2
  | some _ => ∃ events, StopsShort tx events calls ∧ Made tx events s sent.2

theorem Ran.andThen {tx : Nat} {calls calls' : List Event} {s : Client} {sent : Sent}
    {next : Client → Sent} (h : Ran tx calls s sent)
    (hnext : ∀ s' : Client, s'.connection.Passive → Ran tx calls' s' (next s')) :
    Ran tx (calls ++ calls') s (sent.andThen next) := by
  rcases sent with ⟨failure, s₁⟩
  cases failure with
  | some e =>
      -- The first part has failed, so the second is not tried.
      rcases h with ⟨events, hstop, hmade⟩
      exact ⟨events, hstop.before calls', hmade⟩
  | none =>
      have hmade : Made tx calls s s₁ := h
      have hran := hnext s₁ hmade.passive
      unfold Sent.andThen Ran
      cases hn : (next s₁).1 with
      | none =>
          simp only [Ran, hn] at hran
          simpa [hn] using hmade.trans hran
      | some e =>
          simp only [Ran, hn] at hran
          rcases hran with ⟨events, hstop, hmade'⟩
          simpa [hn] using ⟨calls ++ events, hstop.after calls, hmade.trans hmade'⟩

theorem ran_call {tx : Nat} {event : Event} (kind : Call) (he : IsCall tx event) {s : Client}
    (h : s.connection.Passive) : Ran tx [event] s (call tx kind event s) := by
  have hmade := made_call kind he h
  unfold Ran
  cases hf : (call tx kind event s).1 with
  | none => simpa [hf] using hmade
  | some e =>
      refine ⟨[event, .refused tx], ⟨[event], [.refused tx], ?_⟩, by simpa [hf] using hmade⟩
      simp

theorem ran_run (tx : Nat) (exchange : Exchange) (statement : String) (params : Params)
    (handler : Handler) (hh : handler.ownsCompletion = false) {s : Client}
    (h : s.connection.Passive) :
    Ran tx [.run tx exchange statement params] s
      (run tx exchange statement params handler s) := by
  have hevent : IsCall tx (.run tx exchange statement params) := isCall_of_own (by simp)
  have hcall := ran_call .run hevent h
  show Ran tx ([.run tx exchange statement params] ++ []) s _
  apply hcall.andThen
  intro s' hs'
  exact Made.of_connection tx (f := fun c => c.run tx exchange statement handler)
    (passive_push hs' hh rfl) rfl

theorem ran_pullAll (tx : Nat) (exchange : Exchange) (handler : Handler)
    (hh : handler.ownsCompletion = false) {s : Client} (h : s.connection.Passive) :
    Ran tx [.pullAll tx exchange] s (pullAll tx exchange handler s) := by
  have hevent : IsCall tx (.pullAll tx exchange) := isCall_of_own (by simp)
  have hcall := ran_call .pullAll hevent h
  show Ran tx ([.pullAll tx exchange] ++ []) s _
  apply hcall.andThen
  intro s' hs'
  exact Made.of_connection tx (f := fun c => c.pullAll tx exchange handler)
    (passive_push hs' hh rfl) rfl

theorem ran_flush (tx : Nat) {s : Client} (h : s.connection.Passive) :
    Ran tx [.flush tx] s (flush tx s) := by
  have hevent : IsCall tx (.flush tx) := isCall_of_own (by simp)
  exact ran_call .flush hevent h

theorem ran_sync (tx : Nat) {s : Client} (h : s.connection.Passive) :
    Ran tx [.sync tx] s (sync tx s) := by
  have hevent : IsCall tx (.sync tx) := isCall_of_own (by simp)
  have hcall := ran_call .sync hevent h
  unfold sync
  dsimp only
  split
  · rcases hc : call tx .sync (.sync tx) s with ⟨failure, s₁⟩
    rw [hc] at hcall
    cases failure with
    | some e => exact hcall
    | none =>
        have hmade : Made tx [.sync tx] s s₁ := hcall
        have hdeliver := hmade.trans (made_deliver tx none hmade.passive)
        unfold Sent.andThen Ran
        -- The call has gone through, and fails with the first failure among the replies.
        cases hd : (s₁.deliver none).1 with
        | none => simpa [hd] using hdeliver
        | some e => exact ⟨[.sync tx], ⟨[.sync tx], [], by simp⟩, by simpa [hd] using hdeliver⟩
  · exact hcall

end Blocking

end ClientTransaction
