import ClientTransaction.Proofs.Nonblocking.Silenced
import ClientTransaction.Proofs.Nonblocking.Wire

/-!
# Nonblocking.Sending — a statement is sent at once

A statement that is accepted is sent with its three calls before any reply can come. What replies
come with the flush leaves its transaction running, so nothing more is sent for it: a ROLLBACK that
follows from one of them is for another transaction.
-/

namespace ClientTransaction.Nonblocking

open Scenario (Step after perform transaction? onTransaction)
open Client (Starts)

/-- The calls are what is done with the connection, its return apart. -/
theorem calls_eq_wire (s : Client) (tx : Nat) :
    s.calls tx = (s.wire tx).filterMap (Event.call? tx) := by
  unfold Client.calls Client.wire Client.seen
  rw [List.filterMap_filterMap]
  refine congrArg (fun view => s.history.filterMap view) (funext fun e => ?_)
  cases e with
  | release owner => by_cases ho : owner = tx <;> simp [Event.wire?, ho]
  | run owner | pullAll owner | flush owner | sync owner | refused owner =>
      by_cases ho : owner = tx <;> simp [Event.wire?, ho]
  | _ => rfl

theorem running_of_deliveries {tx : Nat} {σ σ' : Situation} (hs : Sound σ)
    (hp : Standing tx .running σ) (hd : Deliveries σ σ') : Standing tx .running σ' := by
  induction hd with
  | refl => exact hp
  | tail hds hd ih => exact running_of_delivery (hs.moves (Deliveries.moves hds)) ih hd

section

variable {s : Client} {tx : Nat}

/-- A statement does not take a running transaction anywhere. -/
theorem running_runStatement (hs : Sound (.of s)) {place : Nat}
    (hp : Standing tx .running (.of s)) (statement : String) (params : Params)
    (name : Option String) :
    Standing tx .running (.of (runStatement s place statement params name).2) := by
  unfold runStatement
  split
  · exact hp
  · have hsent : Standing tx .running (asked s place statement params name) := by
      refine hp.untouched ((Untouched.of_calm tx (.addCursor s rfl)).trans
        (.send _ (fun _ => by simp) _ _ _ _)) ?_
      rw [due_append, due_requests _ _ _ _ _ rfl]
      simp [Handler.ownsCompletion]
    have hsound : Sound (asked s place statement params name) :=
      (hs.move (.calm (.addCursor s rfl))).move (.send place s.cursors.length statement params)
    -- The flush lets replies in, and none of them decides about a running transaction.
    have hflush : Deliveries _ _ := Delivers.flush [] ((s.addCursor
      { statement := statement, owner := place, name := name }).send place
        (.statement s.cursors.length) statement params (.columns s.cursors.length)
        (.rows s.cursors.length)) place
    rw [(Client.frame_send _ _ _ _ _ _ _).2.2.2.1] at hflush
    exact running_of_deliveries hsound hsent hflush

/-- A transaction that goes on running has not begun to end. -/
theorem closings_eq_nil {later : Client} {step : Step} {added : List (Option Exchange)}
    (hd : Does tx s later (started? s step) added) (hc : Closes tx later)
    (hp : Standing tx .running (.of later)) : added = [] := by
  have hnone := closing_of_phase hc hp (Or.inr rfl)
  rw [hd.closings] at hnone
  exact (List.append_eq_nil_iff.1 hnone).2

end

/-! ## Runs -/

section

variable (earlier : List Step) {s : Client} (hs : after .nonblocking {} earlier = s)
  {name : String} {tx : Nat} (hname : transaction? s name = some tx) {t : Transaction}
  (ht : s.transactions[tx]? = some t) (hr : t.refusal? = none)

include hs hname ht hr

theorem running_perform_run (statement : String) (params : Params) (result : Option String) :
    Standing tx .running (.of (perform .nonblocking s (.run name statement params result)).2) := by
  have hsound : Sound (.of s) := hs ▸ sound_after earlier
  have hstatement : statement? s (.run name statement params result) =
      some ⟨tx, .statement s.cursors.length, statement, params, .statement _ _ _⟩ := by
    simp [statement?, hname, ht, hr]
  have hkept : Standing tx .running (.of (runStatement s tx statement params result).2) :=
    running_runStatement hsound (running_of_statement hsound hstatement) statement params result
  simpa [perform, onTransaction, hname, ht, Scenario.run] using hkept

/-- Just its three calls are made for a transaction that sends a statement. -/
theorem calls_perform_run (statement : String) (params : Params) (result : Option String) :
    (perform .nonblocking s (.run name statement params result)).2.calls tx =
      s.calls tx ++ (Exchange.statement s.cursors.length).calls tx statement params := by
  have hstarted : started? s (.run name statement params result) =
      some ⟨tx, .statement s.cursors.length, statement, params, .statement _ _ _⟩ := by
    simp [started?, statement?, hname, ht, hr]
  rcases exists_does s (.run name statement params result) tx with ⟨added, hdoes⟩
  have hafter : after .nonblocking {} (earlier ++ [.run name statement params result]) =
      (perform .nonblocking s (.run name statement params result)).2 := by
    rw [Scenario.after_append, hs]
    rfl
  have hcloses := closes_after (earlier ++ [.run name statement params result]) tx
  have hwhole := whole_after (earlier ++ [.run name statement params result])
  have hbefore : Whole s := hs ▸ whole_after earlier
  rw [hafter] at hcloses hwhole
  have hadded := closings_eq_nil hdoes hcloses
    (running_perform_run earlier hs hname ht hr statement params result)
  rw [calls_eq_wire, hwhole.wire, hdoes.strokes, hadded, hstarted, calls_eq_wire s, hbefore.wire]
  simp [startedFor, Option.filter, Start.run, Event.calls, Exchange.calls, Exchange.flushes]

end

end ClientTransaction.Nonblocking
