import ClientTransaction.Proofs.Nonblocking.Tracking

/-!
# Nonblocking.Outcomes — how a terminal operation ends

What a terminal operation sends and what its handle yields is fixed by the state in which it finds
the transaction and by the replies to the PULL_ALLs of COMMIT and ROLLBACK. The handle, the wire and
the transaction agree on it after every step of every run: as long as the replies do not settle the
operation, the transaction is open and the handle yields nothing.
-/

namespace ClientTransaction

/-- The state that a COMMIT leaves when it is answered so, and nothing else is tried. -/
def Outcome.decision : Outcome → State
  | .success _ => .committed
  | .failure _ | .dropped => .rolledBack

namespace Nonblocking

/-! ## What the replies settle -/

namespace Terminal

/-- The exchanges of an operation that found the transaction in the given state, when COMMIT has
been answered so far as `commits` says. -/
def exchanges (terminal : Terminal) (state : State) (commits : List Outcome) : List Exchange :=
  match terminal, state with
  | _, .failed => []
  | .commit, _ => [.commit]
  | .close, .markedSuccess =>
      match commits with
      | .failure _ :: _ | .dropped :: _ => [.commit, .rollback]
      | _ => [.commit]
  | _, _ => [.rollback]

/-- The result of the operation and the state that it leaves, once the replies have settled it. A
ROLLBACK that follows a failed COMMIT has to be answered, but its reply does not count. -/
def settlement? (terminal : Terminal) (state : State) (commits rollbacks : List Outcome) :
    Option (Except Error Unit × State) :=
  match terminal, state with
  | .commit, .failed => some (.error .commitAfterFailure, .rolledBack)
  | .rollback, .failed | .close, .failed => some (.ok (), .rolledBack)
  | .commit, _ => commits.head?.map fun answer => (answer.result, answer.decision)
  | .close, .markedSuccess =>
      match commits with
      | [] => none
      | .success _ :: _ => some (.ok (), .committed)
      | answer :: _ => rollbacks.head?.map fun _ => (answer.result, .rolledBack)
  | _, _ => rollbacks.head?.map fun answer => (answer.result, .rolledBack)

section

variable {terminal : Terminal} {state : State}

theorem of_finish {result : Except Error Unit} (ho : state.isOpen = true)
    (h : terminal.course state = .finish result) (commits rollbacks : List Outcome) :
    terminal.exchanges state commits = [] ∧
      terminal.settlement? state commits rollbacks = some (result, .rolledBack) := by
  cases terminal <;> cases state <;>
    simp_all [course, exchanges, settlement?, State.isOpen, State.isTerminal]

theorem of_commit (h : terminal.course state = .commit) (commits rollbacks : List Outcome) :
    terminal.exchanges state commits = [.commit] ∧
      terminal.settlement? state commits rollbacks =
        commits.head?.map fun answer => (answer.result, answer.decision) := by
  cases terminal <;> cases state <;> simp_all [course, exchanges, settlement?]

theorem of_commitOrRollback (h : terminal.course state = .commitOrRollback) :
    terminal = .close ∧ state = .markedSuccess := by
  cases terminal <;> cases state <;> simp_all [course]

theorem of_rollback (h : terminal.course state = .rollback) (commits rollbacks : List Outcome) :
    terminal.exchanges state commits = [.rollback] ∧
      terminal.settlement? state commits rollbacks =
        rollbacks.head?.map fun answer => (answer.result, .rolledBack) := by
  cases terminal <;> cases state <;> simp_all [course, exchanges, settlement?]

end

end Terminal

/-- The account of a transaction is what the replies to an operation make of it, and so is what the
handle shows. -/
structure Account.Settles (a : Account) (terminal : Terminal) (state : State)
    (shown : Option (Except Error Unit)) : Prop where
  exchanges : a.exchanges = terminal.exchanges state a.commits
  commits : a.commits.length ≤ 1
  rollbacks : a.rollbacks.length ≤ 1
  footing? : a.footing? =
    some ⟨true, (terminal.settlement? state a.commits a.rollbacks).map Prod.snd⟩
  endings : a.endings =
    if (terminal.settlement? state a.commits a.rollbacks).isSome then [.released, .notified] else []
  shown : shown = (terminal.settlement? state a.commits a.rollbacks).map Prod.fst

namespace Conclusion

theorem commits_length (c : Conclusion) : c.commits.length ≤ 1 := by
  cases c <;> simp [commits]

theorem rollbacks_length (c : Conclusion) : c.rollbacks.length ≤ 1 := by
  cases c <;> simp [rollbacks]

end Conclusion

section

variable {terminal : Terminal} {state : State}

theorem settles_ended {c : Conclusion} {result : Except Error Unit}
    (hx : terminal.exchanges state c.commits = c.exchanges)
    (hs : terminal.settlement? state c.commits c.rollbacks = some (result, c.final)) :
    (Phase.ended c).account.Settles terminal state (some result) where
  exchanges := hx.symm
  commits := c.commits_length
  rollbacks := c.rollbacks_length
  footing? := by simp [Phase.account, hs]
  endings := by simp [Phase.account, hs]
  shown := by simp [Phase.account, hs]

/-- An operation that is not settled has a claim, and nothing more. -/
theorem settles_claimed {p : Phase} (commits : List Outcome) (hl : commits.length ≤ 1)
    (hp : p.account =
      { footing? := some ⟨true, none⟩
        due := p.account.due
        exchanges := terminal.exchanges state commits
        commits := commits })
    (hs : terminal.settlement? state commits [] = none) :
    p.account.Settles terminal state none := by
  rw [hp]
  constructor <;> simp [hs, hl]

/-- An operation that pursues the course of its terminal is settled by the replies. -/
theorem settles_of_pursues {l : Listener} {p : Phase} {shown : Option (Except Error Unit)}
    (ho : state.isOpen = true) (h : Pursues l (terminal.course state) p shown) :
    p.account.Settles terminal state shown := by
  -- The course decides which replies count, and the phase tells which of them have come.
  generalize hc : terminal.course state = course at h
  cases course with
  | finish result =>
      have hspec := Terminal.of_finish ho hc [] []
      cases h with
      | finished => exact settles_ended hspec.1 hspec.2
  | commit =>
      have hspec := Terminal.of_commit hc
      cases h with
      | committing =>
          refine settles_claimed [] (Nat.zero_le 1) ?_ (hspec [] []).2
          rw [(hspec [] []).1]
          rfl
      | committed metadata => exact settles_ended (hspec _ []).1 (hspec _ []).2
      | lost loss =>
          refine settles_ended (hspec _ []).1 ((hspec _ []).2.trans ?_)
          cases loss <;> rfl
  | commitOrRollback =>
      rcases Terminal.of_commitOrRollback hc with ⟨rfl, rfl⟩
      cases h with
      | committingOr => exact settles_claimed [] (Nat.zero_le 1) rfl rfl
      | committedOr metadata => exact settles_ended rfl rfl
      | fallingBack loss =>
          refine settles_claimed [loss.outcome] (Nat.le_refl 1) ?_ ?_ <;> cases loss <;> rfl
      | fellBack loss answer => cases loss <;> exact settles_ended rfl rfl
  | rollback =>
      have hspec := Terminal.of_rollback hc
      cases h with
      | rollingBack =>
          refine settles_claimed [] (Nat.zero_le 1) ?_ (hspec [] []).2
          rw [(hspec [] []).1]
          rfl
      | rolledBack answer => exact settles_ended (hspec [] [answer]).1 (hspec [] [answer]).2

end

/-! ## Agreement -/

/-- The handle of an operation, the wire and the transaction agree, when the operation found the
transaction in the given state. -/
structure Agrees (tx handle : Nat) (terminal : Terminal) (state : State) (s : Client) : Prop where
  /-- Nothing is sent to end the transaction but what the operation sends, in this order. -/
  exchanges : s.terminalExchanges tx = terminal.exchanges state (s.answers tx .commit)
  commits : (s.answers tx .commit).length ≤ 1
  rollbacks : (s.answers tx .rollback).length ≤ 1
  final? : s.final? tx =
    (terminal.settlement? state (s.answers tx .commit) (s.answers tx .rollback)).map Prod.snd
  endings : s.endings tx =
    if (terminal.settlement? state (s.answers tx .commit) (s.answers tx .rollback)).isSome then
      [.released, .notified]
    else []
  /-- The handle yields nothing before the operation is settled, and its result then. -/
  shown : ∃ h, s.handles[handle]? = some h ∧
    Shows h ((terminal.settlement? state (s.answers tx .commit) (s.answers tx .rollback)).map
      fun settled => settled.1.map fun _ => Payload.unit)
  /-- Whoever is woken for the outcome finds the transaction released and its owner notified. -/
  order : s.EndsFirst tx handle

theorem agrees_of_tracked {tx handle : Nat} {terminal : Terminal} {state : State} {s : Client}
    (ho : state.isOpen = true)
    (h : Tracked tx handle (Reports handle (terminal.course state)) (.of s)) :
    Agrees tx handle terminal state s := by
  rcases h.shown with ⟨p, x, h, hp, ⟨y, hy, rfl⟩, hh, hshows, horder⟩
  have haccount : (Situation.of s).account tx = p.account := hp.account
  have hs := settles_of_pursues ho hy
  rw [← haccount] at hs
  refine ⟨hs.exchanges, hs.commits, hs.rollbacks, ?_, hs.endings, ⟨h, hh, ?_⟩, ?_⟩
  · have hfoot : s.footing? tx = some ⟨true, _⟩ := hs.footing?
    rw [s.final?_eq, hfoot]
    rfl
  · rw [hs.shown, Option.map_map] at hshows
    exact hshows
  · -- A terminal operation yields no transaction.
    apply horder.ended
    intro other heq
    rcases y with _ | (e | ⟨⟩) <;> simp [Except.map] at heq

/-! ## Terminal operations of the application -/

/-- The terminal operation that a step asks for: the name of the transaction, the operation, and the
name for its handle. -/
def terminalCall? : Scenario.Step → Option (String × Terminal × Option String)
  | .close tx handle => some (tx, .close, handle)
  | .commit tx handle => some (tx, .commit, handle)
  | .rollback tx handle => some (tx, .rollback, handle)
  | _ => none

section

variable {s : Client} {step : Scenario.Step} {name : String} {terminal : Terminal}
  {handle : Option String} {tx : Nat} {t : Transaction}

theorem perform_terminalCall (hstep : terminalCall? step = some (name, terminal, handle))
    (hname : Scenario.transaction? s name = some tx) (ht : s.transactions[tx]? = some t) :
    (Scenario.perform .nonblocking s step).2 = terminate s tx terminal handle := by
  have hterminate : (Scenario.terminate .nonblocking s name terminal handle).2 =
      terminate s tx terminal handle := by
    simp [Scenario.terminate, Scenario.onTransaction, hname, ht]
  cases step <;> simp only [terminalCall?, Option.some.injEq, Prod.mk.injEq, reduceCtorEq] at hstep
  all_goals
    obtain ⟨rfl, rfl, rfl⟩ := hstep
    exact hterminate

end

/-- After every run, the terminal operation that claims a transaction agrees with the wire and with
the transaction from then on, whatever follows. One that finds the transaction claimed changes
nothing: it is refused while the transaction is open and succeeds when it has ended. -/
theorem agrees_after (before : List Scenario.Step) {s : Client}
    (hs : Scenario.after .nonblocking {} before = s) {step : Scenario.Step} {name : String}
    {terminal : Terminal} {handle : Option String}
    (hstep : terminalCall? step = some (name, terminal, handle)) {tx : Nat} {t : Transaction}
    (hname : Scenario.transaction? s name = some tx) (ht : s.transactions[tx]? = some t) :
    (t.closing = false → ∀ later : List Scenario.Step,
      Agrees tx s.handles.length terminal t.state
        (Scenario.after .nonblocking s (step :: later))) ∧
    (t.closing = true → (Scenario.perform .nonblocking s step).2 =
      s.addHandle (.ready handle (if t.isOpen then .error .alreadyClosing else .ok .unit))) := by
  have hsound : Sound (.of s) := hs ▸ sound_after before
  have hk := kept_of_transaction? hname
  have hperform := perform_terminalCall hstep hname ht
  constructor
  · intro hc later
    have htracked := tracked_terminate hsound hk ht hc terminal handle
    have hmoves : Moves (.of s) (.of (terminate s tx terminal handle)) := (acts_terminate hk _ _).leads
    have hafter : Scenario.after .nonblocking s (step :: later) =
        Scenario.after .nonblocking (terminate s tx terminal handle) later := by
      rw [← hperform]
      rfl
    rw [hafter]
    -- The handle is followed from the claim through whatever comes later.
    apply agrees_of_tracked (isOpen_of_unclaimed hsound hk ht hc)
    exact htracked.moves (follows_reports tx _ _) (hsound.moves hmoves)
      (Scenario.leads_after _ later)
  · intro hc
    rw [hperform, terminate_of_claimed ht hc]

/-- A transaction is begun and taken, while replies are held back. -/
def held : List Scenario.Step :=
  [.hold true,
    .begin { tx := "t", config := .settings [], reported := true, bookmarkOf := none
             handle := "b" },
    .take "b"]

/-- A commit whose reply never comes. -/
theorem agrees_after_dropQueue :
    Agrees 0 1 .commit .active
      (Scenario.after .nonblocking (Scenario.after .nonblocking {} held)
        [.commit "t" (some "c"), .dropQueue]) :=
  (agrees_after held rfl rfl
    (t := { title := "t", reported := true, holdings := [⟨"t", true⟩] }) rfl rfl).1 rfl
    [.dropQueue]

end Nonblocking

end ClientTransaction
