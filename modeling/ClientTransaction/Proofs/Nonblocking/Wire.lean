import ClientTransaction.Proofs.Nonblocking.Started
import ClientTransaction.Proofs.Scenario.ExactlyOnce
import Mathlib.Data.List.Basic
import Mathlib.Data.List.Induction

/-!
# Nonblocking.Wire — what a transaction does with its connection

A transaction begins with BEGIN, goes on with its statements, and ends with at most a COMMIT and a
ROLLBACK before it gives its connection back. Whoever makes the calls, be it the application, a
handler, or one who lets the transaction go, and whatever other transactions do meanwhile, the calls
that are made for it follow each other in this order, and each RUN is followed by its PULL_ALL.
-/

namespace ClientTransaction

/-- A COMMIT or ROLLBACK. -/
def Exchange.ends : Exchange → Bool
  | .commit | .rollback => true
  | _ => false

namespace Event

/-- A call that is made for the transaction, or the return of its connection. -/
def wire? (tx : Nat) : Event → Option Event
  | .release owner => if owner = tx then some (.release owner) else none
  | e => e.call? tx

/-- The RUN of an exchange, or the return of the connection. -/
def stroke? (tx : Nat) : Event → Option Event
  | .run owner exchange statement params =>
      if owner = tx then some (.run owner exchange statement params) else none
  | .release owner => if owner = tx then some (.release owner) else none
  | _ => none

/-- The RUN of BEGIN or of a statement. -/
def opening? (tx : Nat) : Event → Option Event
  | .run owner exchange statement params =>
      if owner = tx ∧ exchange.ends = false then some (.run owner exchange statement params)
      else none
  | _ => none

/-- The exchange of a RUN that ends the transaction; none stands for the return of the
connection. -/
def closing? (tx : Nat) : Event → Option (Option Exchange)
  | .run owner exchange _ _ =>
      if owner = tx ∧ exchange.ends = true then some (some exchange) else none
  | .release owner => if owner = tx then some none else none
  | _ => none

/-- What is done when an exchange ends the transaction, or the connection is given back. -/
def close (tx : Nat) : Option Exchange → Event
  | some .commit => .run tx .commit Message.commit []
  | some exchange => .run tx exchange Message.rollback []
  | none => .release tx

/-- What a RUN is the first call of. -/
def calls : Event → List Event
  | .run tx exchange statement params => exchange.calls tx statement params
  | e => [e]

theorem terminalExchange?_eq (tx : Nat) (e : Event) :
    e.terminalExchange? tx = (e.closing? tx).bind id := by
  cases e with
  | run owner exchange statement params =>
      by_cases ho : owner = tx <;> cases exchange <;> simp [closing?, Exchange.ends, ho]
  | release owner => by_cases ho : owner = tx <;> simp [closing?, ho]
  | _ => rfl

end Event

/-- What a client does with the connection on behalf of a transaction. -/
def Client.wire (s : Client) (tx : Nat) : List Event :=
  s.seen (Event.wire? tx)

/-! ## Whole exchanges -/

namespace Block

/-- All calls are those of exchanges. -/
theorem wire_events (b : Block) (tx : Nat) :
    b.events.filterMap (Event.wire? tx) =
      (b.events.filterMap (Event.stroke? tx)).flatMap Event.calls := by
  cases b with
  | note e h =>
      cases e with
      | release owner =>
          by_cases ho : owner = tx <;> simp [events, Event.wire?, Event.stroke?, Event.calls, ho]
      | run | pullAll | flush | sync | refused => simp [Event.isCall] at h
      | _ => rfl
  | start owner exchange statement params h =>
      by_cases ho : owner = tx
      · subst ho
        cases hf : exchange.flushes params <;>
          simp [events, Exchange.calls, Event.wire?, Event.stroke?, Event.calls, hf]
      · cases hf : exchange.flushes params <;>
          simp [events, Exchange.calls, Event.wire?, Event.stroke?, hf, ho]

/-- Where only COMMIT and ROLLBACK may be started, nothing else is. -/
theorem strokes_of_ends (b : Block) (tx : Nat)
    (h : ∀ place exchange, b.start? = some (place, exchange) → exchange.ends = true) :
    b.events.filterMap (Event.stroke? tx) =
        (b.events.filterMap (Event.closing? tx)).map (Event.close tx) ∧
      b.events.filterMap (Event.opening? tx) = [] := by
  cases b with
  | note e he =>
      cases e with
      | release owner =>
          by_cases ho : owner = tx <;>
            simp [events, Event.stroke?, Event.closing?, Event.opening?, Event.close, ho]
      | run | pullAll | flush | sync | refused => simp [Event.isCall] at he
      | _ => exact ⟨rfl, rfl⟩
  | start owner exchange statement params hw =>
      have hends := h owner exchange rfl
      by_cases ho : owner = tx
      · subst ho
        cases hw <;> simp [Exchange.ends] at hends <;>
          simp [events, Exchange.calls, Exchange.flushes, List.filterMap_cons, Event.stroke?,
            Event.closing?, Event.opening?, Event.close, Exchange.ends]
      · cases hf : exchange.flushes params <;>
          simp [events, Exchange.calls, List.filterMap_cons, Event.stroke?, Event.closing?,
            Event.opening?, hf, ho]

theorem strokes_flatMap {blocks : List Block} (tx : Nat)
    (h : ∀ b ∈ blocks, ∀ place exchange, b.start? = some (place, exchange) →
      exchange.ends = true) :
    (blocks.flatMap events).filterMap (Event.stroke? tx) =
        ((blocks.flatMap events).filterMap (Event.closing? tx)).map (Event.close tx) ∧
      (blocks.flatMap events).filterMap (Event.opening? tx) = [] := by
  induction blocks with
  | nil => exact ⟨rfl, rfl⟩
  | cons b blocks ih =>
      rcases b.strokes_of_ends tx (h b (List.mem_cons_self ..)) with ⟨hb, hb'⟩
      rcases ih fun b hb => h b (List.mem_cons_of_mem _ hb) with ⟨hrest, hrest'⟩
      simp only [List.flatMap_cons, List.filterMap_append, List.map_append, hb, hb', hrest, hrest']
      simp

/-- A RUN and its PULL_ALL are in one block. -/
theorem paired (b : Block) {past rest : List Event} {tx : Nat} {exchange : Exchange}
    {statement : String} {params : Params}
    (h : b.events = past ++ .run tx exchange statement params :: rest) :
    ∃ rest', rest = .pullAll tx exchange :: rest' := by
  cases b with
  | note e he =>
      cases past with
      | nil =>
          cases h
          simp [Event.isCall] at he
      | cons first past => simp [events] at h
  | start owner other text given hw =>
      rcases past with _ | ⟨first, _ | ⟨second, past⟩⟩
      · simp only [events, Exchange.calls, List.nil_append, List.cons.injEq, Event.run.injEq] at h
        rcases h with ⟨⟨rfl, rfl, -, -⟩, rfl⟩
        exact ⟨_, rfl⟩
      · simp [events, Exchange.calls] at h
      · -- Only a flush comes after the PULL_ALL.
        simp only [events, Exchange.calls, List.cons_append, List.cons.injEq] at h
        rcases h with ⟨-, -, h⟩
        split at h <;> cases past <;> simp at h

end Block

/-- Every RUN in the list is followed by the PULL_ALL of its exchange. -/
def Paired (events : List Event) : Prop :=
  ∀ (past rest : List Event) (tx : Nat) (exchange : Exchange) (statement : String)
    (params : Params), events = past ++ .run tx exchange statement params :: rest →
      ∃ rest', rest = .pullAll tx exchange :: rest'

theorem paired_flatMap (blocks : List Block) : Paired (blocks.flatMap Block.events) := by
  induction blocks with
  | nil =>
      intro past rest tx exchange statement params h
      simp at h
  | cons b blocks ih =>
      intro past rest tx exchange statement params h
      rw [List.flatMap_cons] at h
      -- The RUN comes after this block, or is in it.
      rcases List.append_eq_append_iff.1 h with ⟨between, hpast, hrest⟩ | ⟨inner, hb, hrest⟩
      · exact ih _ _ _ _ _ _ hrest
      · cases inner with
        | nil => exact ih [] _ _ _ _ _ hrest.symm
        | cons first inner =>
            obtain ⟨rfl, rfl⟩ := List.cons.inj hrest
            rcases b.paired hb with ⟨rest', rfl⟩
            exact ⟨_, rfl⟩

namespace Nonblocking

open Scenario (Step after perform transaction? beginConfig)
open Client (Starts)

/-- Calls are those of whole exchanges. -/
def Whole (s : Client) : Prop :=
  ∃ blocks : List Block, s.history = blocks.flatMap Block.events

theorem Whole.wire {s : Client} (h : Whole s) (tx : Nat) :
    s.wire tx = (s.seen (Event.stroke? tx)).flatMap Event.calls := by
  rcases h with ⟨blocks, h⟩
  unfold Client.wire Client.seen
  rw [h]
  clear h
  induction blocks with
  | nil => rfl
  | cons b blocks ih =>
      simp only [List.flatMap_cons, List.filterMap_append, List.flatMap_append, b.wire_events, ih]

theorem Whole.paired {s : Client} (h : Whole s) : Paired s.history := by
  rcases h with ⟨blocks, h⟩
  rw [h]
  exact paired_flatMap blocks

theorem whole_after (steps : List Step) : Whole (after .nonblocking {} steps) := by
  induction steps using List.reverseRecOn with
  | nil => exact ⟨[], rfl⟩
  | append_singleton steps step ih =>
      rcases ih with ⟨blocks, hblocks⟩
      have hany : Starts (fun _ _ => True) (after .nonblocking {} steps)
          (perform .nonblocking (after .nonblocking {} steps) step).2 :=
        starts_perform (by simp) _ (by simp) (by simp) step (by simp)
      rcases hany with ⟨blocks', hblocks', -⟩
      rw [Scenario.after_append]
      refine ⟨blocks ++ blocks', ?_⟩
      rw [List.flatMap_append, ← hblocks]
      exact hblocks'

/-! ## The order in which a transaction ends -/

/-- A move adds to the history. -/
theorem Move.history {σ σ' : Situation} (h : Move σ σ') :
    σ.client.history <+: σ'.client.history := by
  cases h with
  | calm h =>
      rcases h.history with ⟨asides, heq, -⟩
      exact ⟨asides, heq.symm⟩
  | connect f => exact List.prefix_refl _
  | flush tx => exact (Client.grows_record _ _).history
  | send tx cursor statement params => exact (Client.grows_send _ _ _ _ _ _ _).history
  | await cursor name => exact List.prefix_refl _
  | answered name result h => exact List.prefix_refl _
  | begin t ht params name =>
      exact (((Client.grows_addTransaction _ t).trans (Client.grows_send _ _ _ _ _ _ _)).trans
        (Client.grows_addHandle _ _)).history
  | beginAwaited t ht params name =>
      exact (((Client.grows_addTransaction _ t).trans (Client.grows_addHandle _ _)).trans
        (Client.grows_send _ _ _ _ _ _ _)).history
  | claim ht hc hk name terminal => exact (grows_taken _ _ _ name _).history
  | answer before after r reply others =>
      exact ((Client.grows_answer _ _ _).trans (Client.grows_start _ _)).history
  | abandon tx => exact ((Client.grows_abandon _ _ _).trans (Client.grows_start _ _)).history

/-- The exchanges that end a transaction come before the return of its connection. -/
def Closes (tx : Nat) (s : Client) : Prop :=
  s.seen (Event.closing? tx) =
    (s.terminalExchanges tx).map some ++ if s.endings tx = [] then [] else [none]

/-- A passage starts one exchange before the end, or ends the transaction, or does neither. -/
theorem Passage.closes {tx : Nat} {effect : Option (Nat × Except Error Payload)} {p p' : Phase}
    (h : Passage tx p effect p') :
    (p'.account.exchanges = p.account.exchanges ∧ p'.account.endings = p.account.endings) ∨
      p.account.endings = [] ∧
        ((∃ exchange, p'.account.exchanges = p.account.exchanges ++ [exchange] ∧
            p'.account.endings = []) ∨
          (p'.account.exchanges = p.account.exchanges ∧
            p'.account.endings = [.released, .notified])) := by
  cases h with
  | claimed course l => cases course <;> simp [Course.phase, Phase.account, Conclusion.exchanges]
  | _ => simp [Phase.account, Conclusion.exchanges]

section

variable {tx : Nat} {σ σ' : Situation}

/-- The return of the connection is part of the end. -/
theorem count_released (tx : Nat) (events : List Event) :
    (events.filterMap (Event.closing? tx)).count none =
      (events.filterMap (Event.ending? tx)).count .released := by
  induction events with
  | nil => rfl
  | cons e events ih =>
      cases e with
      | run owner exchange statement params =>
          by_cases ho : owner = tx ∧ exchange.ends = true <;>
            simp [List.filterMap_cons, Event.closing?, ho, ih]
      | release owner =>
          by_cases ho : owner = tx <;> simp [Event.closing?, ho, ih]
      | closed owner session =>
          by_cases ho : owner = tx <;> simp [List.filterMap_cons, Event.closing?, ho, ih]
      | _ => simpa [List.filterMap_cons, Event.closing?] using ih

/-- Without the return of the connection there are only exchanges. -/
theorem eq_map_of_count {added : List (Option Exchange)} (h : added.count none = 0) :
    added = (added.filterMap id).map some := by
  induction added with
  | nil => rfl
  | cons first rest ih =>
      cases first with
      | none => simp at h
      | some exchange => simpa using ih (by simpa using h)

theorem eq_none_of_count {added : List (Option Exchange)} (hx : added.filterMap id = [])
    (h : added.count none = 1) : added = [none] := by
  have hall : ∀ x ∈ added, x = none := by
    simpa [List.filterMap_eq_nil_iff] using hx
  rw [List.eq_replicate_of_mem hall] at h ⊢
  rw [List.count_replicate_self] at h
  rw [h]
  rfl

theorem Closes.move (h : Closes tx σ.client) (hs : Sound σ) (hm : Move σ σ') :
    Closes tx σ'.client := by
  rcases hs.phases tx with ⟨p, hp⟩
  rcases exists_turned hs.phases hm hp with ⟨effect, p', hturned⟩
  rcases hm.history with ⟨events, heq⟩
  have hexchanges : σ.client.terminalExchanges tx = p.account.exchanges :=
    congrArg Account.exchanges hp.account
  have hexchanges' : σ'.client.terminalExchanges tx = p'.account.exchanges :=
    congrArg Account.exchanges hturned.standing.account
  have hendings : σ.client.endings tx = p.account.endings := congrArg Account.endings hp.account
  have hendings' : σ'.client.endings tx = p'.account.endings :=
    congrArg Account.endings hturned.standing.account
  -- What the move adds to each view.
  have hclosing : σ'.client.seen (Event.closing? tx) =
      σ.client.seen (Event.closing? tx) ++ events.filterMap (Event.closing? tx) :=
    Client.seen_eq_of_history heq.symm
  have hstarted : σ'.client.terminalExchanges tx = σ.client.terminalExchanges tx ++
      (events.filterMap (Event.closing? tx)).filterMap id := by
    rw [List.filterMap_filterMap]
    simp only [← Event.terminalExchange?_eq]
    exact Client.seen_eq_of_history heq.symm
  have hended : σ'.client.endings tx =
      σ.client.endings tx ++ events.filterMap (Event.ending? tx) :=
    Client.seen_eq_of_history heq.symm
  have hcount := count_released tx events
  unfold Closes at h ⊢
  rw [hclosing, h]
  generalize events.filterMap (Event.closing? tx) = added at hstarted hcount ⊢
  rw [hexchanges, hexchanges'] at hstarted
  rw [hendings, hendings'] at hended
  rw [hexchanges, hexchanges', hendings, hendings']
  rcases hturned.passage.closes with ⟨hx, he⟩ | ⟨hopen, ⟨exchange, hx, he⟩ | ⟨hx, he⟩⟩
  · -- Nothing is added.
    rw [hx] at hstarted ⊢
    rw [he] at hended ⊢
    rw [List.self_eq_append_right.1 hended] at hcount
    rw [eq_map_of_count hcount, List.self_eq_append_right.1 hstarted]
    simp
  · rw [hx] at hstarted ⊢
    rw [he, hopen] at hended
    rw [← List.nil_append (List.filterMap _ events), ← hended] at hcount
    rw [eq_map_of_count hcount, ← List.append_cancel_left hstarted]
    simp [hopen, he]
  · rw [hx] at hstarted ⊢
    rw [he, hopen] at hended
    rw [← List.nil_append (List.filterMap _ events), ← hended] at hcount
    rw [eq_none_of_count (List.self_eq_append_right.1 hstarted) hcount]
    simp [hopen, he]

end

theorem Closes.moves {tx : Nat} {σ σ' : Situation} (h : Closes tx σ.client) (hs : Sound σ)
    (hm : Moves σ σ') : Closes tx σ'.client := by
  induction hm with
  | refl => exact h
  | tail hms hm ih => exact ih.move (hs.moves hms) hm

theorem closes_after (steps : List Step) (tx : Nat) : Closes tx (after .nonblocking {} steps) := by
  have hstart : Closes tx (Situation.of {}).client := rfl
  exact hstart.moves sound_start (Scenario.leads_after {} steps)

/-! ## What comes before the end -/

section

variable {s : Client} {step : Step} {x : Start} {tx : Nat}

theorem closing_of_phase {p : Phase} (hc : Closes tx s) (hp : Standing tx p (.of s))
    (hp' : p = .unborn ∨ p = .running) : s.seen (Event.closing? tx) = [] := by
  have hexchanges : s.terminalExchanges tx = p.account.exchanges :=
    congrArg Account.exchanges hp.account
  have hendings : s.endings tx = p.account.endings := congrArg Account.endings hp.account
  rw [hc, hexchanges, hendings]
  rcases hp' with rfl | rfl <;> rfl

/-- A transaction that accepts a statement is running. -/
theorem running_of_statement (hs : Sound (.of s)) (h : statement? s step = some x) :
    Standing x.tx .running (.of s) := by
  cases step with
  | run name statement params result =>
      rcases Option.bind_eq_some_iff.1 h with ⟨tx, hname, hx⟩
      split at hx
      · rename_i haccepts
        cases hx
        rcases exists_of_transaction? hname with ⟨t, ht, -⟩
        have hclosing : t.closing = false := by
          cases hc : t.closing with
          | false => rfl
          | true => simp [ht, Transaction.refusal?, hc] at haccepts
        rcases hs.phases tx with ⟨p, hp⟩
        cases running_of_kept hp ht hclosing (kept_of_transaction? hname)
        exact hp
      · simp at hx
  | _ => simp [statement?] at h

/-- Nothing of the end has come before a BEGIN or a statement. -/
theorem closing_of_started (hs : Sound (.of s)) (hc : ∀ tx, Closes tx s)
    (h : started? s step = some x) : s.seen (Event.closing? x.tx) = [] := by
  cases step with
  | begin b =>
      rcases Option.map_eq_some_iff.1 h with ⟨config, -, rfl⟩
      rcases hs.phases s.transactions.length with ⟨p, hp⟩
      exact closing_of_phase (hc _) hp (Or.inl (unborn_of_length hp))
  | run name statement params result =>
      have hrun : statement? s (.run name statement params result) = some x := h
      exact closing_of_phase (hc _) (running_of_statement hs hrun) (Or.inr rfl)
  | _ => simp [started?, statement?] at h

/-- The RUN of a BEGIN or of a statement. -/
def Start.run (x : Start) : Event :=
  .run x.tx x.exchange x.statement x.params

/-- What is started for a transaction. -/
def startedFor (tx : Nat) (x : Option Start) : List Start :=
  (x.filter fun x => x.tx = tx).toList

theorem views_of_started (tx : Nat) {o : Option Start}
    (h : ∀ x, o = some x → x.exchange = .begin ∨ ∃ cursor, x.exchange = .statement cursor) :
    (o.elim [] Start.calls).filterMap (Event.stroke? tx) = (startedFor tx o).map Start.run ∧
      (o.elim [] Start.calls).filterMap (Event.opening? tx) = (startedFor tx o).map Start.run ∧
      (o.elim [] Start.calls).filterMap (Event.closing? tx) = [] := by
  cases o with
  | none => exact ⟨rfl, rfl, rfl⟩
  | some x =>
      have hends : x.exchange.ends = false := by
        rcases h x rfl with hx | ⟨cursor, hx⟩ <;> rw [hx] <;> rfl
      by_cases htx : x.tx = tx <;> cases hf : x.exchange.flushes x.params <;>
        simp [startedFor, Option.filter, Start.calls, Start.run, Exchange.calls,
          List.filterMap_cons, Event.stroke?, Event.opening?, Event.closing?, hends, htx, hf]

/-- What a step does for a transaction, as the list of its exchanges. -/
structure Does (tx : Nat) (s s' : Client) (x : Option Start) (added : List (Option Exchange)) :
    Prop where
  strokes : s'.seen (Event.stroke? tx) = s.seen (Event.stroke? tx) ++
    (startedFor tx x).map Start.run ++ added.map (Event.close tx)
  openings : s'.seen (Event.opening? tx) =
    s.seen (Event.opening? tx) ++ (startedFor tx x).map Start.run
  closings : s'.seen (Event.closing? tx) = s.seen (Event.closing? tx) ++ added

theorem exists_does (s : Client) (step : Step) (tx : Nat) :
    ∃ added, Does tx s (perform .nonblocking s step).2 (started? s step) added := by
  rcases @exists_started (fun _ exchange => exchange.ends = true) (fun _ => rfl) s step
    (by intros; rfl) with ⟨s₁, hfirst, blocks, hblocks, hends⟩
  have heq : (perform .nonblocking s step).2.history = s.history ++
      ((started? s step).elim [] Start.calls ++ blocks.flatMap Block.events) := by
    rw [hblocks, hfirst, List.append_assoc]
  rcases Block.strokes_flatMap tx hends with ⟨hstrokes, hopenings⟩
  rcases views_of_started tx (fun _ (h : started? s step = some _) => started?_exchange h) with
    ⟨hstroke, hopening, hclosing⟩
  refine ⟨(blocks.flatMap Block.events).filterMap (Event.closing? tx), ?_, ?_, ?_⟩
  · rw [Client.seen_eq_of_history heq, List.filterMap_append, hstroke, hstrokes, List.append_assoc]
  · rw [Client.seen_eq_of_history heq, List.filterMap_append, hopening, hopenings, List.append_nil]
  · rw [Client.seen_eq_of_history heq, List.filterMap_append, hclosing, List.nil_append]

/-- What comes before the end of a transaction comes first. -/
def Ordered (tx : Nat) (s : Client) : Prop :=
  s.seen (Event.stroke? tx) =
    s.seen (Event.opening? tx) ++ (s.seen (Event.closing? tx)).map (Event.close tx)

theorem Ordered.perform (h : Ordered tx s) (hs : Sound (.of s)) (hc : ∀ tx, Closes tx s)
    (step : Step) : Ordered tx (perform .nonblocking s step).2 := by
  rcases exists_does s step tx with ⟨added, hdoes⟩
  unfold Ordered at h ⊢
  rw [hdoes.strokes, hdoes.openings, hdoes.closings, h, List.map_append]
  cases hx : startedFor tx (started? s step) with
  | nil => simp
  | cons x rest =>
      -- Whatever is started for the transaction, it has not come to its end.
      have hmem : x ∈ startedFor tx (started? s step) := hx ▸ List.mem_cons_self ..
      simp only [startedFor, Option.mem_toList, Option.filter_eq_some_iff, decide_eq_true_eq]
        at hmem
      have hnone := closing_of_started hs hc hmem.1
      rw [hmem.2] at hnone
      simp [hnone]

end

theorem ordered_after (steps : List Step) (tx : Nat) : Ordered tx (after .nonblocking {} steps) := by
  induction steps using List.reverseRecOn with
  | nil => rfl
  | append_singleton steps step ih =>
      rw [Scenario.after_append]
      exact ih.perform (sound_after steps) (closes_after steps) step

end Nonblocking

end ClientTransaction
