import Mathlib.Data.List.TakeWhile
import ClientTransaction.Proofs.Blocking.Commit
import ClientTransaction.Proofs.Blocking.Turns
import ClientTransaction.Proofs.Scenario.ExactlyOnce

/-!
# Blocking.Handback — calls on a connection that was given back

A transaction that has given its connection back makes no more calls on it. Its results can: they
outlive it, and one whose stream had not ended by then waits for the connection as before. So after
the release there is a `sync` for every question to an unfinished result, and nothing else.
-/

namespace ClientTransaction

/-- With this event the transaction gives its connection back. -/
def Event.isRelease (tx : Nat) (e : Event) : Bool :=
  e.ending? tx == some .released

/-- The calls that were made for a transaction after it gave its connection back. -/
def Client.callsSinceRelease (s : Client) (tx : Nat) : List Event :=
  (s.history.dropWhile fun e => !e.isRelease tx).filterMap (Event.call? tx)

namespace Blocking

open Scenario

/-! ## Since the release -/

section

variable {tx place : Nat} {s s' : Client}

theorem dropWhile_of_unreleased (h : s.endings tx = []) :
    s.history.dropWhile (fun e => !e.isRelease tx) = [] := by
  apply List.dropWhile_eq_nil_iff.2
  intro e he
  have hnone : e.ending? tx = none := List.filterMap_eq_nil_iff.1 h e he
  unfold Event.isRelease
  rw [hnone]
  rfl

theorem callsSinceRelease_of_unreleased (h : s.endings tx = []) : s.callsSinceRelease tx = [] := by
  unfold Client.callsSinceRelease
  rw [dropWhile_of_unreleased h]
  rfl

/-- No call comes with the release. -/
theorem callsSinceRelease_release (h : s.endings tx = []) :
    (s.release tx).callsSinceRelease tx = [] := by
  unfold Client.callsSinceRelease
  rw [(s.frame_release tx).2.2.2.2, List.dropWhile_append, dropWhile_of_unreleased h]
  simp [Event.isRelease]

/-- Once the connection was given back, every call is a call since then. -/
theorem callsSinceRelease_grows (hr : .released ∈ s.endings tx)
    (hgrows : s.history <+: s'.history) {new : List Event}
    (hcalls : s'.calls tx = s.calls tx ++ new) :
    s'.callsSinceRelease tx = s.callsSinceRelease tx ++ new := by
  rcases hgrows with ⟨events, hhistory⟩
  have hnew : events.filterMap (Event.call? tx) = new := by
    have hseen : s'.calls tx = s.calls tx ++ events.filterMap (Event.call? tx) :=
      Client.seen_eq_of_history hhistory.symm
    exact List.append_cancel_left (hseen.symm.trans hcalls)
  rcases List.mem_filterMap.1 hr with ⟨release, hmem, hending⟩
  have hsome : s.history.dropWhile (fun e => !e.isRelease tx) ≠ [] := by
    intro hnil
    have hall := List.dropWhile_eq_nil_iff.1 hnil release hmem
    simp only [Event.isRelease, hending] at hall
    simp at hall
  calc
    s'.callsSinceRelease tx
        = ((s.history ++ events).dropWhile fun e => !e.isRelease tx).filterMap
            (Event.call? tx) := by rw [hhistory]; rfl
    _ = (s.history.dropWhile (fun e => !e.isRelease tx) ++ events).filterMap
            (Event.call? tx) := by rw [List.dropWhile_append, if_neg (by simpa using hsome)]
    _ = s.callsSinceRelease tx ++ new := by
          rw [List.filterMap_append, hnew]
          rfl

/-! ## Who calls -/

theorem Settled.released_cases (h : Settled s) (tx : Nat) :
    s.endings tx = [] ∨
      .released ∈ s.endings tx ∧ ∃ t : Transaction, s.transactions[tx]? = some t ∧ t.IsSpent := by
  have hstands := h.stands tx
  generalize hf : s.footing? tx = footing at hstands
  generalize he : s.endings tx = endings at hstands
  cases hstands with
  | unborn => exact Or.inl rfl
  | live => exact Or.inl rfl
  | ended final =>
      rcases Option.map_eq_some_iff.1 hf with ⟨t, ht, hfooting⟩
      refine Or.inr ⟨by simp, t, ht, Or.inr ?_⟩
      cases hterminal : t.state.isTerminal with
      | true => rfl
      | false =>
          have hfinal : t.footing.final? = some final := congrArg Footing.final? hfooting
          have ho : t.isOpen = true := by simp [Transaction.isOpen, State.isOpen, hterminal]
          simp [t.isOpen_iff_footing.1 ho] at hfinal

/-- Closing makes no call for another transaction. -/
theorem calls_close_of_ne (hs : Settled s) (hne : tx ≠ place) :
    (close s place).2.calls tx = s.calls tx := by
  cases ht : s.transactions[place]? with
  | none => rw [close_of_unborn ht]
  | some t =>
      cases hc : t.closing with
      | true => rw [close_of_claimed ht hc]
      | false =>
          rcases closing_close hs.passive ht hc (hs.live ht hc).1 with ⟨final, events, -, hclosed⟩
          simpa [hne] using hclosed.calls tx

theorem calls_begin_of_ne (hs : Settled s) (title : String) (reported : Bool) (config : Config)
    (hne : tx ≠ s.transactions.length) :
    (begin s title reported config).2.calls tx = s.calls tx := by
  have hadd : Settled (s.addTransaction { title := title, reported := reported }) :=
    settled_addTransaction hs rfl
  rcases begin_cases hs.passive title reported config with
    ⟨s₁, events, hmade, ⟨-, hheld⟩ | hclosed⟩
  · rw [hheld]
    exact (hmade.calls tx).trans (by simp [hne, Client.calls])
  · have hmark := (hadd.made hmade).markFailed s.transactions.length
    rw [hclosed, calls_close_of_ne hmark hne]
    exact (hmade.calls tx).trans (by simp [hne, Client.calls])

/-- A transaction that has ended, or that the server has given up, runs no statement. -/
theorem runStatement_of_spent {t : Transaction} (ht : s.transactions[tx]? = some t)
    (hspent : t.IsSpent) (statement : String) (params : Params) (name : Option String) :
    (runStatement s tx statement params name).2 = s := by
  cases hr : t.refusal? with
  | none => exact absurd hr hspent.refused
  | some e => simp [runStatement, ht, hr]

/-- A call of `sync` may be refused. -/
theorem calls_sync (hp : s.connection.Passive) (tx : Nat) :
    ∃ new, (sync tx s).2.calls tx = s.calls tx ++ new ∧ new ≠ [] ∧
      ∀ e ∈ new, e = .sync tx ∨ e = .refused tx := by
  have hran := ran_sync tx hp
  generalize sync tx s = sent at hran
  rcases sent with ⟨failure, s₁⟩
  cases failure with
  | none =>
      have hmade : Made tx [.sync tx] s s₁ := hran
      exact ⟨[.sync tx], by simpa using hmade.calls tx, by simp, by simp⟩
  | some e =>
      rcases hran with ⟨events, ⟨made, tail, hne, hpre, htail, rfl⟩, hmade⟩
      refine ⟨made ++ tail, by simpa using hmade.calls tx, by simp [hne], ?_⟩
      intro event hevent
      rcases List.mem_append.1 hevent with hmem | hmem
      · exact Or.inl (by simpa using hpre.subset hmem)
      · rcases htail with rfl | rfl
        · simp at hmem
        · exact Or.inr (by simpa using hmem)

/-! ## Questions that come late -/

/-- The stream of a result of `tx` has not ended. -/
def unfinished (s : Client) (tx cursor : Nat) : Bool :=
  s.cursors[cursor]?.any fun c => c.owner == tx && !c.isComplete

/-- The unfinished result of `tx` that a step asks for, if `tx` has given its connection back. -/
def late? (s : Client) (tx : Nat) (step : Step) : Option Nat :=
  if .released ∈ s.endings tx then (asked? s step).filter (unfinished s tx) else none

/-- The unfinished results that are asked for too late. -/
def lateQuestions (tx : Nat) (s : Client) : List Step → List Nat
  | [] => []
  | step :: rest => (late? s tx step).toList ++ lateQuestions tx (perform .blocking s step).2 rest

/-- Waiting for a result calls `sync` on behalf of its transaction, unless the stream has ended. -/
theorem calls_wait (hp : s.connection.Passive) (tx cursor : Nat) :
    ∃ new, (wait s cursor).2.calls tx = s.calls tx ++ new ∧
      (∀ e ∈ new, e = .sync tx ∨ e = .refused tx) ∧
        (new = [] ↔ unfinished s tx cursor = false) := by
  unfold unfinished
  cases hc : s.cursors[cursor]? with
  | none => exact ⟨[], by rw [wait_of_complete (by simp [hc])]; simp, by simp, by simp⟩
  | some c =>
      cases hcomplete : c.isComplete with
      | true =>
          exact ⟨[], by rw [wait_of_complete (by simp [hc, hcomplete])]; simp, by simp,
            by simp [hcomplete]⟩
      | false =>
          rw [wait_of_unfinished hc hcomplete]
          by_cases howner : tx = c.owner
          · subst howner
            rcases calls_sync hp c.owner with ⟨new, hcalls, hne, hall⟩
            exact ⟨new, hcalls, hall, by simp [hne, hcomplete]⟩
          · rcases made_of_ran (ran_sync c.owner hp) with ⟨events, hmade⟩
            exact ⟨[], by simpa [howner] using hmade.calls tx, by simp,
              by simp [Ne.symm howner]⟩

/-- Closing a transaction that has ended, or that the server has given up, makes no call. -/
theorem calls_close_of_spent (hs : Settled s) {t : Transaction} (ht : s.transactions[tx]? = some t)
    (hspent : t.IsSpent) (place : Nat) : (close s place).2.calls tx = s.calls tx := by
  by_cases hp : tx = place
  · subst hp
    cases hc : t.closing with
    | true => rw [close_of_claimed ht hc]
    | false =>
        have ho := (hs.live ht hc).1
        rcases closing_close hs.passive ht hc ho with ⟨final, events, hclosing, hclosed⟩
        rw [hspent.failed ho] at hclosing
        simpa [hclosing.events_of_failed] using hclosed.calls tx
  · exact calls_close_of_ne hs hp

/-- A transaction that has ended, or that the server has given up, makes only the calls of a question
to an unfinished result. -/
theorem Turn.calls_of_spent {asked : Option Nat} (hs : Settled s) {t : Transaction}
    (ht : s.transactions[tx]? = some t) (hspent : t.IsSpent) (h : Turn s asked s') :
    ∃ new, s'.calls tx = s.calls tx ++ new ∧ (∀ e ∈ new, e = .sync tx ∨ e = .refused tx) ∧
      (new = [] ↔ asked.filter (unfinished s tx) = none) := by
  cases h with
  | calm hcalm => exact ⟨[], by simpa using hcalm.calls tx, by simp, by simp⟩
  | connected f hf => exact ⟨[], by simp [Client.calls], by simp, by simp⟩
  | delivered limit =>
      exact ⟨[], by simpa using (made_deliver tx limit hs.passive).calls tx, by simp, by simp⟩
  | dropped =>
      exact ⟨[], by simpa using (made_dropQueue hs.passive tx).calls tx, by simp, by simp⟩
  | begun title reported config =>
      have hlt : tx < s.transactions.length := (List.getElem?_eq_some_iff.1 ht).1
      exact ⟨[], by simpa using calls_begin_of_ne hs title reported config (Nat.ne_of_lt hlt),
        by simp, by simp⟩
  | ran place statement params name =>
      refine ⟨[], ?_, by simp, by simp⟩
      by_cases hp : tx = place
      · subst hp
        rw [runStatement_of_spent ht hspent, List.append_nil]
      · rcases made_runStatement hs.passive place statement params name with ⟨events, hmade⟩
        simpa [hp] using hmade.calls tx
  | waited cursor =>
      rcases calls_wait hs.passive tx cursor with ⟨new, hcalls, hall, hnil⟩
      exact ⟨new, hcalls, hall, by simp [hnil, Option.filter]⟩
  | @closed s₁ hcalm hgrows place =>
      -- Whatever the application does to the transaction before, it stays as it is.
      rcases hgrows.transactions tx t ht with ⟨t', ht', hgrown⟩
      refine ⟨[], ?_, by simp, by simp⟩
      rw [calls_close_of_spent (hs.calm hcalm) ht' (hgrown.isSpent hspent), hcalm.calls,
        List.append_nil]

/-! ## The release itself -/

/-- Closing releases last. -/
theorem callsSinceRelease_close (hs : Settled s) (h : s.endings tx = []) (place : Nat) :
    (close s place).2.callsSinceRelease tx = [] := by
  cases ht : s.transactions[place]? with
  | none =>
      rw [close_of_unborn ht]
      exact callsSinceRelease_of_unreleased h
  | some t =>
      cases hc : t.closing with
      | true =>
          rw [close_of_claimed ht hc]
          exact callsSinceRelease_of_unreleased h
      | false =>
          rcases closing_close hs.passive ht hc (hs.live ht hc).1 with ⟨final, events, -, hclosed⟩
          have hendings := hclosed.endings tx
          rw [h] at hendings
          by_cases hp : tx = place
          · subst hp
            rw [close_of_unclaimed ht hc] at hendings ⊢
            dsimp only at hendings ⊢
            rw [Client.endings_release] at hendings
            exact callsSinceRelease_release (by simpa using hendings)
          · exact callsSinceRelease_of_unreleased (by simpa [hp] using hendings)

theorem callsSinceRelease_begin (hs : Settled s) (h : s.endings tx = []) (title : String)
    (reported : Bool) (config : Config) :
    (begin s title reported config).2.callsSinceRelease tx = [] := by
  have hadd : Settled (s.addTransaction { title := title, reported := reported }) :=
    settled_addTransaction hs rfl
  rcases begin_cases hs.passive title reported config with
    ⟨s₁, events, hmade, ⟨-, hheld⟩ | hclosed⟩
  · rw [hheld]
    exact callsSinceRelease_of_unreleased ((hmade.endings tx).trans h)
  · have hmark := (hadd.made hmade).markFailed s.transactions.length
    rw [hclosed]
    exact callsSinceRelease_close hmark ((hmade.endings tx).trans h) _

/-- In the turn that releases, nothing is called after the release. -/
theorem Turn.callsSinceRelease {asked : Option Nat} (hs : Settled s) (hn : s.endings tx = [])
    (h : Turn s asked s') : s'.callsSinceRelease tx = [] := by
  cases h with
  | calm hcalm => exact callsSinceRelease_of_unreleased ((hcalm.endings tx).trans hn)
  | connected f hf => exact callsSinceRelease_of_unreleased hn
  | delivered limit =>
      exact callsSinceRelease_of_unreleased
        (((made_deliver tx limit hs.passive).endings tx).trans hn)
  | dropped =>
      exact callsSinceRelease_of_unreleased (((made_dropQueue hs.passive tx).endings tx).trans hn)
  | begun title reported config => exact callsSinceRelease_begin hs hn title reported config
  | ran place statement params name =>
      rcases made_runStatement hs.passive place statement params name with ⟨events, hmade⟩
      exact callsSinceRelease_of_unreleased ((hmade.endings tx).trans hn)
  | waited cursor =>
      rcases made_wait hs.passive cursor with ⟨place, events, hmade⟩
      exact callsSinceRelease_of_unreleased ((hmade.endings tx).trans hn)
  | closed hcalm _ place =>
      exact callsSinceRelease_close (hs.calm hcalm) ((hcalm.endings tx).trans hn) place

/-! ## Steps and runs -/

/-- A step adds the `sync` of a question that comes late to the calls since the release, and adds
nothing else. -/
theorem callsSinceRelease_perform (hs : Settled s) (tx : Nat) (step : Step) :
    ∃ new, (perform .blocking s step).2.callsSinceRelease tx = s.callsSinceRelease tx ++ new ∧
      (∀ e ∈ new, e = .sync tx ∨ e = .refused tx) ∧ (new = [] ↔ late? s tx step = none) := by
  have hturn := turn_perform hs.handles step
  rcases hs.released_cases tx with hnone | ⟨hr, t, ht, hspent⟩
  · refine ⟨[], ?_, by simp, by simp [late?, hnone]⟩
    rw [hturn.callsSinceRelease hs hnone, callsSinceRelease_of_unreleased hnone]
    rfl
  · rcases hturn.calls_of_spent hs ht hspent with ⟨new, hcalls, hall, hnil⟩
    exact ⟨new, callsSinceRelease_grows hr (grows_perform .blocking s step).history hcalls, hall,
      by simpa [late?, hr] using hnil⟩

theorem callsSinceRelease_after (hs : Settled s) (tx : Nat) (steps : List Step) :
    ∃ new, (after .blocking s steps).callsSinceRelease tx = s.callsSinceRelease tx ++ new ∧
      (∀ e ∈ new, e = .sync tx ∨ e = .refused tx) ∧ (new = [] ↔ lateQuestions tx s steps = []) := by
  induction steps generalizing s with
  | nil => exact ⟨[], by simp [after], by simp, by simp [lateQuestions]⟩
  | cons step rest ih =>
      rcases callsSinceRelease_perform hs tx step with ⟨first, hfirst, hall, hnil⟩
      rcases ih (settled_perform hs step) with ⟨later, hlater, hall', hnil'⟩
      refine ⟨first ++ later, ?_, ?_, ?_⟩
      · calc
          (after .blocking s (step :: rest)).callsSinceRelease tx
              = (perform .blocking s step).2.callsSinceRelease tx ++ later := hlater
          _ = s.callsSinceRelease tx ++ (first ++ later) := by rw [hfirst, List.append_assoc]
      · intro e he
        rcases List.mem_append.1 he with he | he
        · exact hall e he
        · exact hall' e he
      · rw [List.append_eq_nil_iff, hnil, hnil']
        cases hlate : late? s tx step <;> simp [lateQuestions, hlate]

end

/-- After its release a transaction makes no call, in any run, and its results make none but `sync`.
They make none at all exactly when nobody asks for an unfinished one. -/
theorem handed_back (steps : List Step) (tx : Nat) :
    (∀ e ∈ (after .blocking {} steps).callsSinceRelease tx, e = .sync tx ∨ e = .refused tx) ∧
      ((after .blocking {} steps).callsSinceRelease tx = [] ↔ lateQuestions tx {} steps = []) := by
  rcases callsSinceRelease_after settled_start tx steps with ⟨new, hnew, hall, hnil⟩
  have hstart : (after .blocking {} steps).callsSinceRelease tx = new := hnew
  rw [hstart]
  exact ⟨hall, hnil⟩

/-- A second statement cannot be sent. The transaction has failed, and closing it sends nothing, so
the stream of the first statement never ends. -/
def cutOff : List Step :=
  begun ++ [.run "t" "S1" [] (some "r"), .failSends { error := .connection "broken" },
    .run "t" "S2" [] none, .heal, .close "t" none]

/-- A connection that was given back may still be called. -/
theorem exists_call_after_release :
    ¬ ∀ (steps : List Step) (tx : Nat), (after .blocking {} steps).callsSinceRelease tx = [] := by
  intro hall
  have hasked : (after .blocking {} (cutOff ++ [.consume "r" none])).callsSinceRelease 0 =
      [.sync 0] := rfl
  rw [hall] at hasked
  simp at hasked

end Blocking

end ClientTransaction
