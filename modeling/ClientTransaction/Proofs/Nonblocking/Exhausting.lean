import ClientTransaction.Proofs.Nonblocking.Openings
import ClientTransaction.Proofs.Nonblocking.Draining
import Mathlib.Data.List.Induction
import Mathlib.Data.List.Nodup
import Mathlib.Data.List.Perm.Subperm

/-!
# Nonblocking.Exhausting — delivery ends

A handler can send a ROLLBACK while replies are delivered, and the flush of that ROLLBACK delivers
what is queued before the handler is done. Nothing in this bounds the number of replies by itself.
It is bounded because a handler sends something for an open transaction only, and once.
-/

namespace ClientTransaction

namespace Client

/-- Replies are delivered until the queue is empty, `n` of them: the loop that a delivery without a
limit runs, with no bound on the number of its rounds. -/
inductive Empties : Client → Nat → Client → Prop
  | done {s : Client} (hq : s.connection.queue = []) : Empties s 0 s
  /-- The handler of the first reply sends nothing. -/
  | quiet {s s₁ s' : Client} {r : Request} {rest : List Request} {n : Nat}
      (hq : s.connection.queue = r :: rest)
      (ha : (s.updateConnection fun c => { c with queue := rest }).answer rest r = (s₁, none))
      (h : Empties s₁ n s') : Empties s (n + 1) s'
  /-- The handler sends a ROLLBACK while replies are held back. -/
  | held {s s₁ s' : Client} {r : Request} {rest : List Request} {rb : Rollback} {n : Nat}
      (hq : s.connection.queue = r :: rest)
      (ha : (s.updateConnection fun c => { c with queue := rest }).answer rest r = (s₁, some rb))
      (hheld : s₁.connection.held = true) (h : Empties (s₁.startRollback rb) n s') :
      Empties s (n + 1) s'
  /-- The handler sends a ROLLBACK, and its flush delivers all that is queued by then. -/
  | nested {s s₁ s₂ s' : Client} {r : Request} {rest : List Request} {rb : Rollback} {m n : Nat}
      (hq : s.connection.queue = r :: rest)
      (ha : (s.updateConnection fun c => { c with queue := rest }).answer rest r = (s₁, some rb))
      (hfree : s₁.connection.held = false) (hn : Empties (s₁.startRollback rb) m s₂)
      (h : Empties s₂ n s') : Empties s (m + n + 1) s'

/-- The number of transactions that have not ended. -/
def openCount (s : Client) : Nat :=
  s.transactions.countP Transaction.isOpen

section

variable {s s' : Client}

/-! ## What the loop leads to -/

theorem advance_of_answer {s₁ : Client} {r : Request} {rest : List Request}
    {rollback : Option Rollback} (hq : s.connection.queue = r :: rest)
    (ha : (s.updateConnection fun c => { c with queue := rest }).answer rest r = (s₁, rollback)) :
    s.advance = s₁.start rollback := by
  rw [advance_cons hq, ha]

theorem Empties.of_empty {n : Nat} (h : Empties s n s') (hq : s.connection.queue = []) :
    n = 0 ∧ s' = s := by
  cases h with
  | done _ => exact ⟨rfl, rfl⟩
  | quiet hcons _ _ => simp [hq] at hcons
  | held hcons _ _ _ => simp [hq] at hcons
  | nested hcons _ _ _ _ => simp [hq] at hcons

theorem Empties.queue {n : Nat} (h : Empties s n s') : s'.connection.queue = [] := by
  induction h with
  | done hq => exact hq
  | quiet _ _ _ ih => exact ih
  | held _ _ _ _ ih => exact ih
  | nested _ _ _ _ _ _ ih => exact ih

theorem Empties.drain {n : Nat} (h : Empties s n s') : s.drain = s' := by
  induction h with
  | done hq => exact drain_of_empty hq
  | quiet hq ha _ ih => rw [← drain_advance, advance_of_answer hq ha, start, ih]
  | held hq ha _ _ ih => rw [← drain_advance, advance_of_answer hq ha, start, ih]
  | nested hq ha _ hn h ih _ =>
      -- The flush has left nothing for the loop that goes on after it.
      rw [← drain_advance, advance_of_answer hq ha, start, ih, (h.of_empty hn.queue).2]

theorem drain_eq_deliver (s : Client) : s.drain = (s.deliver none).2 := by
  rw [← drain_deliver s none, drain_of_empty (queue_deliver s)]

/-- The loop goes one way only. -/
theorem Empties.unique {n n' : Nat} {s'' : Client} (h : Empties s n s') (h' : Empties s n' s'') :
    n' = n ∧ s'' = s' := by
  refine ⟨?_, h'.drain.symm.trans h.drain⟩
  induction h generalizing n' s'' with
  | done hq => exact (h'.of_empty hq).1
  | quiet hq ha h ih =>
      cases h' with
      | done hnil => simp [hnil] at hq
      | quiet hq' ha' h' =>
          cases hq.symm.trans hq'
          cases ha.symm.trans ha'
          rw [ih h']
      | held hq' ha' _ _ =>
          cases hq.symm.trans hq'
          cases ha.symm.trans ha'
      | nested hq' ha' _ _ _ =>
          cases hq.symm.trans hq'
          cases ha.symm.trans ha'
  | held hq ha hheld h ih =>
      cases h' with
      | done hnil => simp [hnil] at hq
      | quiet hq' ha' _ =>
          cases hq.symm.trans hq'
          cases ha.symm.trans ha'
      | held hq' ha' _ h' =>
          cases hq.symm.trans hq'
          cases ha.symm.trans ha'
          rw [ih h']
      | nested hq' ha' hfree' _ _ =>
          cases hq.symm.trans hq'
          cases ha.symm.trans ha'
          simp [hheld] at hfree'
  | nested hq ha hfree hn h ihn ih =>
      cases h' with
      | done hnil => simp [hnil] at hq
      | quiet hq' ha' _ =>
          cases hq.symm.trans hq'
          cases ha.symm.trans ha'
      | held hq' ha' hheld' _ =>
          cases hq.symm.trans hq'
          cases ha.symm.trans ha'
          simp [hfree] at hheld'
      | nested hq' ha' _ hn' h' =>
          cases hq.symm.trans hq'
          cases ha.symm.trans ha'
          cases hn.drain.symm.trans hn'.drain
          rw [ihn hn', ih h']

/-! ## How many replies there are -/

/-- The first reply is recorded, and nothing that follows from it is another one. -/
theorem receipts_of_answer {s₁ : Client} {r : Request} {rest : List Request}
    {rollback : Option Rollback} (hq : s.connection.queue = r :: rest)
    (ha : (s.updateConnection fun c => { c with queue := rest }).answer rest r = (s₁, rollback)) :
    (s₁.start rollback).receipts = s.receipts ++ [r.receipt] := by
  rw [← advance_of_answer hq ha, advance_cons hq]
  exact Nonblocking.receipts_answered [] rest
    (s.updateConnection fun c => { c with queue := rest }) rest r

theorem load_of_answer {s₁ : Client} {r : Request} {rest : List Request}
    {rollback : Option Rollback} (hq : s.connection.queue = r :: rest)
    (ha : (s.updateConnection fun c => { c with queue := rest }).answer rest r = (s₁, rollback)) :
    (s₁.start rollback).connection.load < s.connection.load := by
  rw [← advance_of_answer hq ha]
  exact load_advance (by simp [hq])

/-- Every reply is recorded, the nested ones included. -/
theorem Empties.length_receipts {n : Nat} (h : Empties s n s') :
    s'.receipts.length = s.receipts.length + n := by
  induction h with
  | done _ => rfl
  | quiet hq ha _ ih =>
      have hone := congrArg List.length (receipts_of_answer hq ha)
      simp only [start, List.length_append, List.length_singleton] at hone
      omega
  | held hq ha _ _ ih =>
      have hone := congrArg List.length (receipts_of_answer hq ha)
      simp only [start, List.length_append, List.length_singleton] at hone
      omega
  | nested hq ha _ _ _ ihn ih =>
      have hone := congrArg List.length (receipts_of_answer hq ha)
      simp only [start, List.length_append, List.length_singleton] at hone
      omega

theorem Empties.le_load {n : Nat} (h : Empties s n s') : n ≤ s.connection.load := by
  induction h with
  | done _ => exact Nat.zero_le _
  | quiet hq ha _ ih =>
      have hless := load_of_answer hq ha
      simp only [start] at hless
      omega
  | held hq ha _ _ ih =>
      have hless := load_of_answer hq ha
      simp only [start] at hless
      omega
  | nested hq ha _ hn h ihn _ =>
      have hless := load_of_answer hq ha
      have hnone := (h.of_empty hn.queue).1
      simp only [start] at hless
      omega

/-- The loop ends, since every reply leaves less to answer. -/
theorem exists_empties (s : Client) : ∃ n s', Empties s n s' := by
  have hall : ∀ (load : Nat) (s : Client), s.connection.load = load → ∃ n s', Empties s n s' := by
    intro load
    induction load using Nat.strongRecOn with
    | ind load ih =>
        intro s hload
        cases hq : s.connection.queue with
        | nil => exact ⟨0, s, .done hq⟩
        | cons r rest =>
            have hless := load_advance (s := s) (by simp [hq])
            cases ha : (s.updateConnection fun c => { c with queue := rest }).answer rest r with
            | mk s₁ rollback =>
                rw [advance_of_answer hq ha, hload] at hless
                rcases ih _ hless _ rfl with ⟨n, s₂, hn⟩
                cases rollback with
                | none => exact ⟨_, _, .quiet hq ha hn⟩
                | some rb =>
                    cases hheld : s₁.connection.held with
                    | true => exact ⟨_, _, .held hq ha hheld hn⟩
                    | false => exact ⟨_, _, .nested hq ha hheld hn (.done hn.queue)⟩
  exact hall _ s rfl

end

end Client

namespace Nonblocking

open Client (Empties)

section

variable {rs : List Request} {s : Client} {r : Request}

/-! ## What open transactions are charged with -/

/-- More than its own reply may follow from answering the request. -/
def breeds (r : Request) : Bool :=
  1 < r.weight

/-- Only a BEGIN that is awaited and a COMMIT with a fallback have a ROLLBACK follow, and their
transactions are open. -/
theorem open_of_breeds (hs : Sound ⟨rs, s⟩) (hr : r ∈ rs) (hb : breeds r = true) :
    r.weight = 3 ∧ decides r = true ∧
      ∃ t : Transaction, s.transactions[r.owner]? = some t ∧ t.isOpen = true := by
  rcases hs.phases r.owner with ⟨p, hp⟩
  have hweight : 1 < r.weight := by simpa [breeds] using hb
  have hdecides : decides r = true := by
    unfold Request.weight at hweight
    split at hweight <;> simp_all [decides, Handler.ownsCompletion]
  have hmem : (r.exchange, r.part, r.handler) ∈ p.account.due := by
    have hdue : due r.owner rs = p.account.due := congrArg Account.due hp.account
    rw [← hdue]
    exact List.mem_filterMap.2 ⟨r, hr, role_of_decides hdecides⟩
  have hopen : p.account.footing?.bind Footing.final? = none → p ≠ .unborn →
      ∃ t : Transaction, s.transactions[r.owner]? = some t ∧ t.isOpen = true := by
    intro hfinal hborn
    have hfoot : s.footing? r.owner = p.account.footing? := congrArg Account.footing? hp.account
    rw [← hfoot] at hfinal
    cases ht : s.transactions[r.owner]? with
    | none =>
        rw [Client.footing?, ht] at hfoot
        cases p with
        | unborn => exact absurd rfl hborn
        | _ => simp [Phase.account] at hfoot
    | some t =>
        refine ⟨t, rfl, t.isOpen_iff_footing.2 ?_⟩
        simpa [Client.footing?, ht] using hfinal
  cases p with
  | unborn => simp [Phase.account] at hmem
  | running => simp [Phase.account] at hmem
  | ended c => simp [Phase.account] at hmem
  | starting handle =>
      obtain ⟨-, -, hhandler⟩ : r.exchange = .begin ∧ r.part = .pullAll ∧
          r.handler = .begun handle := by
        simpa [Phase.account] using hmem
      exact ⟨by simp [Request.weight, hhandler], hdecides, hopen rfl (by simp)⟩
  | committing fallback l =>
      obtain ⟨-, -, hhandler⟩ : r.exchange = .commit ∧ r.part = .pullAll ∧
          r.handler = .committed (commitChain fallback l) := by
        simpa [Phase.account] using hmem
      refine ⟨?_, hdecides, hopen rfl (by simp)⟩
      cases fallback with
      | true => simp [Request.weight, hhandler, commitChain, ending, Completion.fallbacks]
      | false =>
          simp [Request.weight, hhandler, commitChain, ending, Completion.fallbacks] at hweight
  | fallingBack loss l =>
      obtain ⟨-, -, hhandler⟩ : r.exchange = .rollback ∧ r.part = .pullAll ∧
          r.handler = .rolledBack (.resume loss.error (ending l)) := by
        simpa [Phase.account] using hmem
      simp [Request.weight, hhandler, ending, Completion.fallbacks] at hweight
  | rollingBack l =>
      obtain ⟨-, -, hhandler⟩ : r.exchange = .rollback ∧ r.part = .pullAll ∧
          r.handler = .rolledBack (ending l) := by
        simpa [Phase.account] using hmem
      simp [Request.weight, hhandler, ending, Completion.fallbacks] at hweight

/-- A transaction is charged with one request at most. -/
theorem count_owners_le (hs : Sound ⟨rs, s⟩) (tx : Nat) :
    ((rs.filter breeds).map Request.owner).count tx ≤ 1 := by
  rcases hs.phases tx with ⟨p, hp⟩
  have hdue : due tx rs = p.account.due := congrArg Account.due hp.account
  have hlength : p.account.due.length ≤ 1 := by
    cases p <;> simp [Phase.account]
  calc
    ((rs.filter breeds).map Request.owner).count tx =
        rs.countP fun r => r.owner == tx && breeds r := by
          rw [List.count, List.countP_map, List.countP_filter]
          rfl
    _ ≤ rs.countP fun r => (role? tx r).isSome := by
          refine List.countP_mono_left fun r hr h => ?_
          simp only [Bool.and_eq_true, beq_iff_eq] at h
          have hdecides := (open_of_breeds hs hr h.2).2.1
          simp [role?, h.1, hdecides]
    _ = (due tx rs).length := by rw [due, List.length_filterMap_eq_countP]
    _ ≤ 1 := by rwa [hdue]

theorem load_le (hs : Sound ⟨rs, s⟩) :
    rs.foldr (fun r load => r.weight + load) 0 ≤ rs.length + 2 * rs.countP breeds := by
  have hall : ∀ r ∈ rs, r.weight ≤ 1 + if breeds r then 2 else 0 := by
    intro r hr
    split
    · rename_i hb
      exact Nat.le_of_eq (open_of_breeds hs hr hb).1
    · rename_i hb
      simpa [breeds] using hb
  clear hs
  induction rs with
  | nil => exact Nat.le_refl _
  | cons r rest ih =>
      have hrest := ih fun q hq => hall q (List.mem_cons_of_mem r hq)
      have hone := hall r (List.mem_cons_self ..)
      rw [List.foldr_cons, List.length_cons, List.countP_cons]
      split at hone <;> simp_all <;> omega

/-- The places of the elements that have a property. -/
theorem length_places {α : Type} (xs : List α) (p : α → Bool) :
    ((List.range xs.length).filter fun i => xs[i]?.any p).length = xs.countP p := by
  induction xs using List.reverseRecOn with
  | nil => rfl
  | append_singleton xs x ih =>
      have hsame : ((List.range xs.length).filter fun i => (xs ++ [x])[i]?.any p) =
          (List.range xs.length).filter fun i => xs[i]?.any p := by
        refine List.filter_congr fun i hi => ?_
        rw [List.getElem?_append_left (List.mem_range.1 hi)]
      rw [List.length_append, List.length_singleton, List.range_succ, List.filter_append,
        List.length_append, hsame, ih, List.countP_append]
      cases hx : p x <;> simp [hx]

/-- The transactions that are charged are open. -/
theorem countP_breeds_le (hs : Sound ⟨rs, s⟩) : rs.countP breeds ≤ s.openCount := by
  have hnodup : ((rs.filter breeds).map Request.owner).Nodup :=
    List.nodup_iff_count_le_one.2 fun tx => count_owners_le hs tx
  have hsubset : (rs.filter breeds).map Request.owner ⊆
      (List.range s.transactions.length).filter fun tx =>
        s.transactions[tx]?.any Transaction.isOpen := by
    intro tx htx
    rcases List.mem_map.1 htx with ⟨r, hr, rfl⟩
    rcases List.mem_filter.1 hr with ⟨hr, hb⟩
    rcases (open_of_breeds hs hr hb).2.2 with ⟨t, ht, ho⟩
    have hlt := (List.getElem?_eq_some_iff.1 ht).1
    refine List.mem_filter.2 ⟨List.mem_range.2 hlt, ?_⟩
    rw [ht, Option.any_some, ho]
  calc
    rs.countP breeds = ((rs.filter breeds).map Request.owner).length := by
      rw [List.length_map, List.countP_eq_length_filter]
    _ ≤ _ := (List.subperm_of_subset hnodup hsubset).length_le
    _ = s.openCount := length_places _ _

/-- Two replies more than are queued may come for each transaction that is open. -/
theorem load_le_of_sound (hs : Sound (.of s)) :
    s.connection.load ≤ s.connection.queue.length + 2 * s.openCount := by
  have hload := load_le hs
  have hcharged := countP_breeds_le hs
  unfold Connection.load
  omega

end

/-! ## Every run -/

/-- Delivery ends in one way: after `n` replies, with an empty queue. -/
structure Exhausts (s s' : Client) (n : Nat) : Prop where
  empties : Empties s n s'
  unique : ∀ n' s'', Empties s n' s'' → n' = n ∧ s'' = s'
  delivered : (s.deliver none).2 = s'
  queue : s'.connection.queue = []
  replies : s'.receipts.length = s.receipts.length + n
  bound : n ≤ s.connection.queue.length + 2 * s.openCount

/-- Whatever a run has come to, also in the middle of a step, delivery ends: after as many replies
as are queued, and two for each open transaction, at most. -/
theorem delivery_ends (steps : List Scenario.Step) {s : Client}
    (hs : Moves (.of (Scenario.after .nonblocking {} steps)) (.of s)) :
    ∃ n s', Exhausts s s' n := by
  have hsound : Sound (.of s) := (sound_after steps).moves hs
  rcases s.exists_empties with ⟨n, s', h⟩
  refine ⟨n, s', h, fun n' s'' h' => h.unique h', ?_, h.queue, h.length_receipts, ?_⟩
  · rw [← s.drain_eq_deliver, h.drain]
  · exact Nat.le_trans h.le_load (load_le_of_sound hsound)

/-- While replies are held back, a transaction is let go before its BEGIN is acknowledged, and
another is closed with a COMMIT that the server will refuse. -/
def charged : List Scenario.Step :=
  [.hold true,
    .begin { tx := "t", config := .settings [.bookmark (.values ["b"])], reported := false
             bookmarkOf := none, handle := "b" },
    .dropHandle "b",
    .begin { tx := "u", config := .settings [], reported := false, bookmarkOf := none
             handle := "c" },
    .take "c", .success "u",
    .script ⟨"COMMIT", none, some { outcome := .failure .completionDropped }⟩,
    .close "u" (some "d"), .hold false]

/-- Both transactions are rolled back while the queue is emptied, and there are as many replies as
are allowed for. -/
theorem delivery_ends_of_charged :
    (∃ s', Exhausts (Scenario.after .nonblocking {} charged) s' 10) ∧
      (Scenario.after .nonblocking {} charged).connection.queue.length = 6 ∧
      (Scenario.after .nonblocking {} charged).openCount = 2 := by
  refine ⟨?_, by decide, by decide⟩
  rcases delivery_ends charged .refl with ⟨n, s', h⟩
  have hsent : (((Scenario.after .nonblocking {} charged).deliver none).2.receipts.length) =
      (Scenario.after .nonblocking {} charged).receipts.length + 10 := rfl
  have hn : n = 10 := by
    rw [h.delivered, h.replies] at hsent
    exact Nat.add_left_cancel hsent
  exact ⟨s', hn ▸ h⟩

end Nonblocking

end ClientTransaction
