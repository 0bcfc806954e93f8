import ClientTransaction.Proofs.Nonblocking.Passages
import ClientTransaction.Proofs.Scenario.Quiet

/-!
# Nonblocking.Draining — the queue is answered to its end

Requests are answered one after the other. What an answer sends comes to fewer replies than it was
allowed for, so draining a client ends with an empty queue. It makes no difference to where that
ends whether some of the requests have been answered before.
-/

namespace ClientTransaction

/-- A secondary operation leaves a chain that can start fewer of them. -/
theorem Completion.fallbacks_fire {α β φ σ : Type} {done rest : Completion β φ σ} {secondary : σ}
    {result : Except Error α} (h : (done.fire result).2 = .started secondary rest) :
    rest.fallbacks < done.fallbacks := by
  induction done generalizing result with
  | sink target => simp [fire] at h
  | finalizer action done ih => exact ih h
  | fallback other done ih =>
      cases result with
      | ok value => exact Nat.lt_succ_of_lt (ih h)
      | error primary =>
          cases h
          exact Nat.lt_succ_self _
  | resume primary done ih => exact ih h

/-- The number of replies that a ROLLBACK exchange can come to. -/
def Rollback.weight (rb : Rollback) : Nat :=
  2 + 2 * rb.done.fallbacks

namespace Client

open Nonblocking

variable {s : Client}

/-! ## One answer after the other -/

/-- The first request of the queue is answered, and what follows from it is sent. -/
def advance (s : Client) : Client :=
  match s.next? with
  | none => s
  | some (r, s) => (s.answer s.connection.queue r).1.start (s.answer s.connection.queue r).2

theorem advance_of_empty (hq : s.connection.queue = []) : s.advance = s := by
  simp [advance, next?, hq]

theorem advance_cons {r : Request} {rest : List Request} (hq : s.connection.queue = r :: rest) :
    s.advance =
      ((s.updateConnection fun c => { c with queue := rest }).answer rest r).1.start
        ((s.updateConnection fun c => { c with queue := rest }).answer rest r).2 := by
  rw [advance, next?_cons hq]
  rfl

theorem drainUpTo_succ (count : Nat) (s : Client) :
    drainUpTo (count + 1) s = drainUpTo count s.advance := by
  rw [drainUpTo, advance]
  cases hnext : s.next? with
  | none =>
      have hempty : s.connection.queue = [] := by
        unfold next? at hnext
        split at hnext
        · assumption
        · cases hnext
      exact (drainUpTo_of_empty hempty count).symm
  | some taken => rfl

/-! ## What an answer can send -/

theorem weight_fire {tx : Nat} {done : TerminalChain} {result : Except Error Unit} {rb : Rollback}
    (h : (s.fire tx done result).2 = some rb) : rb.weight < 1 + 2 * done.fallbacks := by
  unfold fire at h
  dsimp only at h
  split at h <;> cases h
  rename_i hstop
  have hless := Completion.fallbacks_fire hstop
  rw [Rollback.weight]
  dsimp only
  omega

/-- What follows from a reply comes to fewer replies than the request was allowed for. -/
theorem weight_answer {others : List Request} {r : Request} {rb : Rollback}
    (h : (s.answer others r).2 = some rb) : rb.weight < r.weight := by
  rcases r with ⟨owner, exchange, part, handler, ⟨records, outcome⟩⟩
  cases handler with
  | begun handle =>
      cases outcome with
      | success metadata =>
          -- Nobody wants the transaction that was begun.
          rcases abandon_cases ((s.record (.reply owner exchange part
            ⟨records, .success metadata⟩)).resolve handle (.ok (.transaction owner))) others owner
            with hsame | ⟨t, -, -, -, hsame | hsame⟩ <;>
            simp only [answer, collect, acknowledge, hsame] at h <;> cases h
          exact Nat.lt_succ_self 2
      | failure e => cases h
      | dropped => cases h
  | committed done => cases outcome <;> exact weight_fire h
  | rolledBack done => cases outcome <;> exact weight_fire h
  | ignore => cases h
  | columns cursor => cases outcome <;> cases h
  | rows cursor => cases outcome <;> cases h
  | bookmark => cases outcome <;> cases h

theorem load_of_append {c c' : Connection} {more : List Request}
    (h : c'.queue = c.queue ++ more) :
    c'.load = c.load + more.foldr (fun r load => r.weight + load) 0 := by
  unfold Connection.load
  rw [h]
  induction c.queue with
  | nil => exact (Nat.zero_add _).symm
  | cons r rest ih => rw [List.cons_append, List.foldr_cons, List.foldr_cons, ih, Nat.add_assoc]

theorem load_start (rollback : Option Rollback) :
    (s.start rollback).connection.load =
      s.connection.load + (rollback.map Rollback.weight).getD 0 := by
  rw [load_of_append (queue_start s rollback)]
  cases rollback with
  | none => rfl
  | some rb =>
      simp only [opening, requests, Request.weight, Rollback.weight, List.foldr_cons,
        List.foldr_nil, Option.map_some, Option.getD_some]
      omega

/-- Every answer leaves less to answer. -/
theorem load_advance (h : s.connection.queue ≠ []) :
    s.advance.connection.load < s.connection.load := by
  cases hq : s.connection.queue with
  | nil => exact absurd hq h
  | cons r rest =>
      have hload : s.connection.load =
          r.weight + ({ s.connection with queue := rest } : Connection).load := by
        simp [Connection.load, hq]
      rw [advance_cons hq, load_start, connection_answer, hload]
      have hpop : (s.updateConnection fun c => { c with queue := rest }).connection.load =
          ({ s.connection with queue := rest } : Connection).load := rfl
      rw [hpop]
      cases hback : ((s.updateConnection fun c => { c with queue := rest }).answer rest r).2 with
      | none =>
          have hpos : 0 < r.weight := by
            unfold Request.weight
            split <;> omega
          simp only [Option.map_none, Option.getD_none]
          omega
      | some rb =>
          have hless := weight_answer hback
          simp only [Option.map_some, Option.getD_some]
          omega

/-! ## Draining -/

theorem drain_of_empty (hq : s.connection.queue = []) : s.drain = s :=
  drainUpTo_of_empty hq _

/-- Whatever number of answers is allowed for, it is enough if it is no less than the load. -/
theorem drainUpTo_of_load {count : Nat} (h : s.connection.load ≤ count) :
    drainUpTo count s = s.drain := by
  -- By induction on the number of answers, since each of them leaves less to answer.
  induction count using Nat.strongRecOn generalizing s with
  | ind count ih =>
      by_cases hq : s.connection.queue = []
      · rw [drainUpTo_of_empty hq, drain_of_empty hq]
      · have hless := load_advance hq
        cases count with
        | zero => omega
        | succ count =>
            cases hload : s.connection.load with
            | zero => omega
            | succ load =>
                rw [drain, hload, drainUpTo_succ, drainUpTo_succ,
                  ih count (Nat.lt_succ_self _) (by omega), ih load (by omega) (by omega)]

theorem drain_advance (s : Client) : s.advance.drain = s.drain := by
  by_cases hq : s.connection.queue = []
  · rw [advance_of_empty hq]
  · have hless := load_advance hq
    calc
      s.advance.drain = drainUpTo s.connection.load s.advance :=
        (drainUpTo_of_load (Nat.le_of_lt hless)).symm
      _ = drainUpTo (s.connection.load + 1) s := (drainUpTo_succ _ s).symm
      _ = s.drain := drainUpTo_of_load (Nat.le_succ _)

/-- Some answers before the others make no difference. -/
theorem drain_drainUpTo (count : Nat) (s : Client) : (drainUpTo count s).drain = s.drain := by
  induction count generalizing s with
  | zero => rfl
  | succ count ih => rw [drainUpTo_succ, ih, drain_advance]

theorem queue_drain (s : Client) : s.drain.connection.queue = [] := by
  -- By induction on the load, which is the number of answers that are allowed for.
  have hall : ∀ (load : Nat) (s : Client), s.connection.load = load →
      s.drain.connection.queue = [] := by
    intro load
    induction load using Nat.strongRecOn with
    | ind load ih =>
        intro s hload
        by_cases hq : s.connection.queue = []
        · rw [drain_of_empty hq, hq]
        · rw [← drain_advance]
          exact ih _ (hload ▸ load_advance hq) _ rfl
  exact hall _ s rfl

/-! ## Other ways of delivery -/

theorem drain_settle (s : Client) : s.settle.drain = s.drain := by
  unfold settle
  split
  · rfl
  · exact drain_drainUpTo _ s

/-- What a handler asks for is sent, and perhaps the queue is settled then. -/
theorem follow_cases (answered : Client × Option Rollback) :
    follow answered = answered.1.start answered.2 ∨
      follow answered = (answered.1.start answered.2).settle := by
  rcases answered with ⟨s, rollback⟩
  cases rollback with
  | none => exact Or.inl rfl
  | some rb => exact Or.inr rfl

theorem drain_follow (answered : Client × Option Rollback) :
    (follow answered).drain = (answered.1.start answered.2).drain := by
  rcases follow_cases answered with h | h <;> rw [h]
  exact drain_settle _

theorem drain_deliverUpTo (count : Nat) (first : Option Error) (s : Client) :
    (deliverUpTo count first s).2.drain = s.drain := by
  induction count generalizing first s with
  | zero => rfl
  | succ count ih =>
      cases hq : s.connection.queue with
      | nil => simp [deliverUpTo, next?, hq]
      | cons r rest =>
          rw [deliverUpTo, next?_cons hq]
          dsimp only
          rw [ih, drain_follow, ← drain_advance s, advance_cons hq]
          rfl

/-- A delivery of any portion makes no difference to where the replies lead in the end. -/
theorem drain_deliver (s : Client) (limit : Option Nat) : (s.deliver limit).2.drain = s.drain :=
  drain_deliverUpTo _ none s

theorem load_settle (s : Client) : s.settle.connection.load ≤ s.connection.load := by
  unfold settle
  split
  · exact Nat.le_refl _
  · rw [Connection.load, queue_drain]
    exact Nat.zero_le _

theorem queue_deliverUpTo {count : Nat} (h : s.connection.load ≤ count) (first : Option Error) :
    (deliverUpTo count first s).2.connection.queue = [] := by
  induction count generalizing first s with
  | zero =>
      by_cases hq : s.connection.queue = []
      · exact hq
      · have hless := load_advance hq
        omega
  | succ count ih =>
      cases hq : s.connection.queue with
      | nil => simp [deliverUpTo, next?, hq]
      | cons r rest =>
          have hless := load_advance (s := s) (by simp [hq])
          rw [advance_cons hq] at hless
          rw [deliverUpTo, next?_cons hq]
          apply ih
          -- What follows from the answer may be answered already.
          rcases follow_cases ((s.updateConnection fun c => { c with queue := rest }).answer rest r)
            with hfollow | hfollow
          · exact hfollow ▸ Nat.le_of_lt_succ (Nat.lt_of_lt_of_le hless h)
          · have hsettle := Nat.lt_of_le_of_lt (load_settle _) hless
            exact hfollow ▸ Nat.le_of_lt_succ (Nat.lt_of_lt_of_le hsettle h)

/-- A delivery without a limit leaves nothing to be delivered. -/
theorem queue_deliver (s : Client) : (s.deliver none).2.connection.queue = [] :=
  queue_deliverUpTo (Nat.le_refl _) none

end Client

end ClientTransaction
