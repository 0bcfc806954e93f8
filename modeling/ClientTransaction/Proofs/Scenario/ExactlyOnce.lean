import ClientTransaction.Proofs.Blocking.Settled
import ClientTransaction.Proofs.Nonblocking.Tracking
import ClientTransaction.Proofs.Scenario.Growth

/-!
# Scenario.ExactlyOnce — a transaction ends exactly once

Between two steps, whether calls wait or not, a transaction that is terminal has been released once
and its owner has been notified once, in this order, and one that is not terminal has not been
released and its owner has heard nothing. A terminal state stays. A BEGIN that fails has ended its
transaction before its caller learns of it.
-/

namespace ClientTransaction

/-- Nothing is terminal that has not been released and notified, each once, and nothing else has
been. -/
def Client.EndsOnce (s : Client) (tx : Nat) : Prop :=
  s.endings tx = if (s.final? tx).isSome then [.released, .notified] else []

/-- A terminal state stays. -/
theorem Client.Grows.final? {s s' : Client} (h : s.Grows s') {tx : Nat} {final : State}
    (hf : s.final? tx = some final) : s'.final? tx = some final := by
  rcases Option.bind_eq_some_iff.1 hf with ⟨t, ht, hfinal⟩
  rcases h.transactions tx t ht with ⟨t', ht', hgrows⟩
  unfold Transaction.final? at hfinal
  split at hfinal
  · rename_i hterminal
    have hsame := hgrows.state.eq_of_isTerminal hterminal
    simp [Client.final?, ht', Transaction.final?, hsame, hterminal]
    simpa using hfinal
  · simp at hfinal

namespace Blocking

theorem Settled.endsOnce {s : Client} (h : Settled s) (tx : Nat) : s.EndsOnce tx := by
  have hs := h.stands tx
  unfold Client.EndsOnce
  rw [s.final?_eq]
  generalize s.footing? tx = footing? at hs
  generalize s.endings tx = endings at hs
  cases hs <;> rfl

end Blocking

namespace Nonblocking

theorem Phase.endings_eq (p : Phase) :
    p.account.endings =
      if (p.account.footing?.bind Footing.final?).isSome then [.released, .notified] else [] := by
  cases p <;> rfl

theorem Sound.endsOnce {s : Client} (h : Sound (.of s)) (tx : Nat) : s.EndsOnce tx := by
  rcases h.phases tx with ⟨p, hp⟩
  have hfoot : s.footing? tx = p.account.footing? := congrArg Account.footing? hp.account
  have hends : s.endings tx = p.account.endings := congrArg Account.endings hp.account
  unfold Client.EndsOnce
  rw [s.final?_eq, hfoot, hends]
  exact p.endings_eq

end Nonblocking

namespace Scenario

theorem after_append (flavor : Flavor) (s : Client) (steps later : List Step) :
    after flavor s (steps ++ later) = after flavor (after flavor s steps) later :=
  List.foldl_append

theorem endsOnce_after (flavor : Flavor) (steps : List Step) (tx : Nat) :
    (after flavor {} steps).EndsOnce tx := by
  cases flavor with
  | blocking => exact (settled_after Blocking.settled_start steps).endsOnce tx
  | nonblocking => exact (Nonblocking.sound_after steps).endsOnce tx

/-! ## A BEGIN that fails -/

/-- The error of a BEGIN, once its caller can see it: as the answer of the call if that waits, and
in the handle if it does not. -/
def beginError? (flavor : Flavor) (s : Client) (b : Begin) (later : List Step) : Option Error :=
  match flavor with
  | .blocking =>
      match (perform .blocking s (.begin b)).1 with
      | .failed e => some e
      | _ => none
  | .nonblocking =>
      match (after .nonblocking s (.begin b :: later)).handles[s.handles.length]? with
      | some ⟨some _, .resolved (.error e)⟩ => some e
      | _ => none

section

variable {s : Client} {b : Begin} {config : Config} {e : Error}

theorem rolledBack_of_failed (hs : Blocking.Settled s) (hconfig : beginConfig s b = .ok config)
    (later : List Step) (he : beginError? .blocking s b later = some e) :
    (after .blocking s (.begin b :: later)).final? s.transactions.length = some .rolledBack := by
  have hperform : perform .blocking s (.begin b) =
      (.ofFailure .done (Blocking.begin s b.tx b.reported config).1,
        (Blocking.begin s b.tx b.reported config).2) := by
    simp [perform, begin, hconfig]
  have hfailed : (Blocking.begin s b.tx b.reported config).1 ≠ none := by
    intro hnone
    simp [beginError?, hperform, hnone, Answer.ofFailure] at he
  have hfoot := (Blocking.settled_begin hs b.tx b.reported config).2 hfailed
  have hfinal : (perform .blocking s (.begin b)).2.final? s.transactions.length =
      some .rolledBack := by
    rw [hperform, Client.final?_eq, hfoot]
    rfl
  exact (grows_after .blocking _ later).final? hfinal

/-- Whoever is woken for the error finds that the transaction has ended. -/
theorem rolledBack_of_refused (hs : Nonblocking.Sound (.of s))
    (hconfig : beginConfig s b = .ok config) (later : List Step)
    (he : beginError? .nonblocking s b later = some e) :
    (after .nonblocking s (.begin b :: later)).final? s.transactions.length = some .rolledBack ∧
      (after .nonblocking s (.begin b :: later)).EndsFirst s.transactions.length
        s.handles.length := by
  have hperform : (perform .nonblocking s (.begin b)).2 =
      Nonblocking.begin s b.tx b.reported config b.handle := by
    simp [perform, begin, hconfig]
  have htracked := Nonblocking.tracked_begin hs b.tx b.reported config b.handle
  rw [← hperform] at htracked
  rcases (htracked.moves (Nonblocking.follows_yields _ _) (hs.moves (leads_perform s (.begin b)))
    (leads_after _ later)).shown with ⟨p, x, h, hp, hyields, hh, hshows, horder⟩
  -- The error is visible only in a handle that is held and resolved.
  have hstate : h.isHeld = true ∧ h.state = .resolved (.error e) := by
    have hh' : (after .nonblocking s (.begin b :: later)).handles[s.handles.length]? = some h := hh
    rcases h with ⟨name, state⟩
    unfold beginError? at he
    rw [hh'] at he
    cases name with
    | none => simp at he
    | some name =>
        rcases state with watched | (e' | payload) | _ <;> simp at he
        subst he
        exact ⟨rfl, rfl⟩
  -- A handle that shows an error is that of a transaction that was refused.
  have hended : ∃ e', p = .ended (.refused e') ∧ x = some (.error e') := by
    cases hyields with
    | starting => simp [Nonblocking.Shows, hstate, Handle.isResolved] at hshows
    | refused e' => exact ⟨e', rfl, rfl⟩
    | begun => simp [Nonblocking.Shows, hstate] at hshows
  rcases hended with ⟨e', rfl, rfl⟩
  refine ⟨?_, horder.ended (by simp)⟩
  have hfoot : (after .nonblocking s (.begin b :: later)).footing? s.transactions.length =
      some ⟨true, some .rolledBack⟩ := congrArg Nonblocking.Account.footing? hp.account
  rw [Client.final?_eq, hfoot]
  rfl

end

/-! ## Runs -/

/-- After every run, with calls that wait or with calls that do not, every transaction has ended
exactly once or not at all, a terminal state stays whatever follows, and the transaction of a BEGIN
that fails has ended when its error can be seen, and before anyone is woken for it. -/
theorem exactly_once (flavor : Flavor) (steps : List Step) {s : Client}
    (hs : after flavor {} steps = s) :
    (∀ tx, (s.final? tx ≠ none ↔ s.endings tx = [.released, .notified]) ∧
      (s.final? tx = none → s.endings tx = [])) ∧
    (∀ (tx : Nat) (final : State) (later : List Step), s.final? tx = some final →
      (after flavor s later).final? tx = some final) ∧
    (∀ (b : Begin) (config : Config) (later : List Step) (e : Error),
      beginConfig s b = .ok config → beginError? flavor s b later = some e →
      (after flavor s (.begin b :: later)).endings s.transactions.length =
          [.released, .notified] ∧
        (flavor = .nonblocking →
          (after flavor s (.begin b :: later)).EndsFirst s.transactions.length
            s.handles.length)) := by
  refine ⟨?_, ?_, ?_⟩
  · intro tx
    have honce : s.EndsOnce tx := hs ▸ endsOnce_after flavor steps tx
    unfold Client.EndsOnce at honce
    rw [honce]
    cases s.final? tx <;> simp
  · intro tx final later hf
    exact (grows_after flavor s later).final? hf
  · intro b config later e hconfig he
    have hfinal : (after flavor s (.begin b :: later)).final? s.transactions.length =
          some .rolledBack ∧
        (flavor = .nonblocking → (after flavor s (.begin b :: later)).EndsFirst
          s.transactions.length s.handles.length) := by
      cases flavor with
      | blocking =>
          have hsettled : Blocking.Settled s := hs ▸ settled_after Blocking.settled_start steps
          exact ⟨rolledBack_of_failed hsettled hconfig later he, by simp⟩
      | nonblocking =>
          have hsound : Nonblocking.Sound (.of s) := hs ▸ Nonblocking.sound_after steps
          rcases rolledBack_of_refused hsound hconfig later he with ⟨hfinal, horder⟩
          exact ⟨hfinal, fun _ => horder⟩
    refine ⟨?_, hfinal.2⟩
    have honce := endsOnce_after flavor (steps ++ .begin b :: later) s.transactions.length
    rw [after_append, hs] at honce
    calc
      (after flavor s (.begin b :: later)).endings s.transactions.length
          = if ((after flavor s (.begin b :: later)).final? s.transactions.length).isSome then
              [.released, .notified]
            else [] := honce
      _ = [.released, .notified] := by
            rw [hfinal.1]
            rfl

/-- The server refuses a transaction that waits for a bookmark. -/
theorem exactly_once_refused :
    (after .nonblocking (after .nonblocking {} [.script ⟨Message.begin,
        some { outcome := .failure (.server "Neo.ClientError.Security.Forbidden" "no") }, none⟩])
      [.begin { tx := "t", config := .settings [.bookmark (.value "b1")], reported := true
                bookmarkOf := none, handle := "b" }]).endings 0 = [.released, .notified] :=
  ((exactly_once .nonblocking _ rfl).2.2 _ _ [] _ rfl rfl).1

end Scenario

end ClientTransaction
