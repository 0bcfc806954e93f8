import ClientTransaction.Proofs.Nonblocking.Owed
import ClientTransaction.Proofs.Nonblocking.Statements
import ClientTransaction.Proofs.Nonblocking.Abandoned
import Mathlib.Data.List.Induction

/-!
# Nonblocking.Discharged — a released transaction is owed nothing

A transaction that has sent a COMMIT or ROLLBACK gives its connection back while the reply to it is
handled. By then all its requests have come to their end, since that one was its last; so all its
results that can be complete are.
-/

namespace ClientTransaction

/-! ## Where a release comes from -/

namespace Client

variable {s s' : Client} {tx : Nat}

theorem Grows.exists_release (h : (s.release tx).Grows s') :
    ∃ tail, s'.history = s.history ++ .release tx :: tail := by
  rcases h.history with ⟨more, hmore⟩
  refine ⟨.closed tx (s.transactions[tx]?.bind Transaction.session?) :: more, ?_⟩
  rw [← hmore, (s.frame_release tx).2.2.2.2]
  simp

/-- If firing a completion ends the transaction, then with a release at once. -/
theorem release_of_fire {done : TerminalChain} {result : Except Error Unit}
    (h : (s.fire tx done result).1.endings tx ≠ s.endings tx) :
    ∃ tail, (s.fire tx done result).1.history = s.history ++ .release tx :: tail := by
  unfold fire at h ⊢
  generalize done.fire result = fired at h ⊢
  rcases fired with ⟨actions, stop⟩
  cases actions with
  | nil =>
      -- Nothing but a handle may have been resolved.
      refine absurd ?_ h
      cases stop with
      | settled target result =>
          cases target with
          | handle handle => exact (Nonblocking.untouched_tell tx s result (.handle handle)).endings
          | nobody => rfl
      | started secondary rest =>
          cases secondary
          rfl
  | cons action rest =>
      rcases action with ⟨⟨⟩, shown⟩
      have hgrows := (s.release tx).grows_runFinalizers tx rest
      cases stop with
      | settled target result =>
          cases target with
          | handle handle => exact (hgrows.trans (grows_resolve _ _ _)).exists_release
          | nobody => exact hgrows.exists_release
      | started secondary rest =>
          cases secondary
          exact hgrows.exists_release

/-- If the reply to a COMMIT or ROLLBACK ends the transaction, its release comes next. -/
theorem release_of_answer {others : List Request} {r : Request} {done : TerminalChain}
    (hr : r.handler = .committed done ∨ r.handler = .rolledBack done)
    (h : (s.answer others r).1.endings r.owner ≠ s.endings r.owner) :
    ∃ tail, (s.answer others r).1.history =
      s.history ++ .reply r.owner r.exchange r.part r.reply :: .release r.owner :: tail := by
  rcases r with ⟨owner, exchange, part, handler, ⟨records, outcome⟩⟩
  have hreply : ∀ (s₁ : Client) (result : Except Error Unit),
      s₁.history = s.history ++ [.reply owner exchange part ⟨records, outcome⟩] →
      (s₁.fire owner done result).1.endings owner ≠ s.endings owner →
      ∃ tail, (s₁.fire owner done result).1.history =
        s.history ++ .reply owner exchange part ⟨records, outcome⟩ :: .release owner :: tail := by
    intro s₁ result hhistory hends
    have hsame : s₁.endings owner = s.endings owner := by
      simp [endings, seen_eq_of_history hhistory]
    rcases release_of_fire (hsame ▸ hends) with ⟨tail, htail⟩
    exact ⟨tail, by simpa [hhistory] using htail⟩
  rcases hr with rfl | rfl <;> cases outcome <;> exact hreply _ _ rfl h

end Client

namespace Nonblocking

open Client (Position Turn Turns)
open Scenario

section

variable {tx : Nat} {before after : List Request} {s : Client} {r : Request} {σ σ' : Situation}

/-- The request is the PULL_ALL of the exchange that ends its transaction. -/
structure Ends (r : Request) : Prop where
  decides : decides r = true
  exchange : r.exchange = .commit ∨ r.exchange = .rollback
  part : r.part = .pullAll
  handler : ∃ done, r.handler = .committed done ∨ r.handler = .rolledBack done

theorem ends_of_role {role : Exchange × Part × Handler} (hd : decides r = true)
    (h : (r.exchange, r.part, r.handler) = role) {done : TerminalChain}
    (hrole : role = (.commit, .pullAll, .committed done) ∨
      role = (.rollback, .pullAll, .rolledBack done)) : Ends r := by
  subst h
  rcases hrole with hrole | hrole <;> simp only [Prod.mk.injEq] at hrole <;>
    rcases hrole with ⟨hexchange, hpart, hhandler⟩
  · exact ⟨hd, Or.inl hexchange, hpart, done, Or.inl hhandler⟩
  · exact ⟨hd, Or.inr hexchange, hpart, done, Or.inr hhandler⟩

/-- A transaction that has started an exchange ends when that exchange is answered. -/
theorem ends_of_answer {reply : Reply} {others : List Request}
    (hs : Sound ⟨before ++ r :: after, s⟩) (hopen : s.endings tx = [])
    (hended : (answered before after s others { r with reply := reply }).client.endings tx ≠ [])
    (hx : (answered before after s others
      { r with reply := reply }).client.terminalExchanges tx ≠ []) :
    r.owner = tx ∧ Ends r := by
  by_cases howner : r.owner = tx ∧ decides r = true
  · rcases howner with ⟨rfl, hd⟩
    refine ⟨rfl, ?_⟩
    rcases hs.phases r.owner with ⟨p, hp⟩
    have hdue : due r.owner (before ++ r :: after) = p.account.due :=
      congrArg Account.due hp.account
    have hrole : ∀ role, p.account.due = [role] → (r.exchange, r.part, r.handler) = role :=
      fun role h => (due_split (hdue.trans h) (role_of_decides hd)).1
    have hnil : p.account.due ≠ [] := by
      rw [← hdue, due_append]
      simp [due, role_of_decides hd]
    cases p with
    | unborn => simp [Phase.account] at hnil
    | running => simp [Phase.account] at hnil
    | ended c => simp [Phase.account] at hnil
    | starting handle =>
        -- A transaction that ends when BEGIN is answered has started nothing.
        rcases carried_answer hp hd reply others with ⟨effect, p', hcarried⟩
        have hp' := hcarried.standing
        have hends := congrArg Account.endings hp'.account
        have hexchanges := congrArg Account.exchanges hp'.account
        cases hcarried.passage with
        | stay => exact absurd hends hended
        | acknowledged => exact absurd hends hended
        | unwanted => exact absurd hends hended
        | unwantedFailed => exact absurd hexchanges hx
        | refused => exact absurd hexchanges hx
    | committing fallback l => exact ends_of_role hd (hrole _ rfl) (Or.inl rfl)
    | fallingBack loss l => exact ends_of_role hd (hrole _ rfl) (Or.inr rfl)
    | rollingBack l => exact ends_of_role hd (hrole _ rfl) (Or.inr rfl)
  · have hu := (untouched_answer reply others hs.phases howner).1
    exact absurd (hu.endings.trans hopen) hended

/-- What ended the transaction is a release right after the reply. -/
theorem Ends.release (h : Ends r) {reply : Reply} {others : List Request}
    (hopen : s.endings r.owner = [])
    (hended : (answered before after s others
      { r with reply := reply }).client.endings r.owner ≠ []) :
    ∃ tail, (answered before after s others { r with reply := reply }).client.history =
      s.history ++ .reply r.owner r.exchange r.part reply :: .release r.owner :: tail := by
  rcases h.handler with ⟨done, hhandler⟩
  have hstart := (s.answer others { r with reply := reply }).1.grows_start
    (s.answer others { r with reply := reply }).2
  have hsame : ((s.answer others { r with reply := reply }).1.start
      (s.answer others { r with reply := reply }).2).endings r.owner =
        (s.answer others { r with reply := reply }).1.endings r.owner := by
    cases (s.answer others { r with reply := reply }).2 with
    | none => rfl
    | some rb => simp [Client.start, Client.startRollback, Client.endings]
  have hanswer : (s.answer others { r with reply := reply }).1.endings r.owner ≠
      s.endings r.owner := by
    rw [hopen, ← hsame]
    exact hended
  rcases Client.release_of_answer (r := { r with reply := reply }) hhandler hanswer with
    ⟨tail, htail⟩
  rcases hstart.history with ⟨more, hmore⟩
  refine ⟨tail ++ more, ?_⟩
  unfold answered
  rw [← hmore, htail]
  simp

/-! ## What has been heard by then -/

/-- Each request of the transaction came to its end once. -/
def Discharged (tx : Nat) (past : List Event) : Prop :=
  ((inquiries past).filter fun i => i.owner = tx).Perm
    ((fulfilments past).filter fun i => i.owner = tx)

/-- When the only outstanding request of a transaction is answered, all have come to their end. -/
theorem discharged_of_alone (hb : Situation.Balanced ⟨before ++ r :: after, s⟩)
    (halone : ∀ q ∈ before ++ after, q.owner ≠ r.owner) (reply : Reply) :
    Discharged r.owner (s.history ++ [.reply r.owner r.exchange r.part reply]) := by
  have hothers : ∀ rs ⊆ before ++ after,
      (rs.map Request.inquiry).filter (fun i => i.owner = r.owner) = [] := by
    intro rs hrs
    refine List.filter_eq_nil_iff.2 fun i hi => ?_
    rcases List.mem_map.1 hi with ⟨q, hq, rfl⟩
    simp [Request.inquiry, halone q (hrs hq)]
  have hbalance := hb.filter fun i => i.owner = r.owner
  rw [List.filter_append, List.map_append, List.map_cons, List.filter_append,
    hothers before (List.subset_append_left _ _), List.filter_cons_of_pos (by simp [Request.inquiry]),
    hothers after (List.subset_append_right _ _)] at hbalance
  have hnothing : inquiries [.reply r.owner r.exchange r.part reply] = [] := rfl
  have hone : fulfilments [.reply r.owner r.exchange r.part reply] = [r.inquiry] := rfl
  unfold Discharged
  rw [inquiries_append, fulfilments_append, hnothing, hone, List.append_nil, List.filter_append,
    List.filter_cons_of_pos (by simp [Request.inquiry])]
  simpa using hbalance

/-- A statement that has been answered for good is complete. -/
theorem Attended.complete (h : Attended σ) {owner cursor : Nat} {part : Part} {reply : Reply}
    (hreply : .reply owner (.statement cursor) part reply ∈ σ.client.history)
    (hends : reply.outcome.ends part = true) :
    ∃ c, σ.client.cursors[cursor]? = some c ∧ c.isComplete = true := by
  have hreceipt : ⟨owner, .statement cursor, part, reply⟩ ∈ σ.client.receipts :=
    List.mem_filterMap.2 ⟨_, hreply, rfl⟩
  have hfate : reply.outcome ∈ σ.client.fates cursor part :=
    List.mem_filterMap.2 ⟨_, hreceipt, by simp [Receipt.fate?]⟩
  have hlt : cursor < σ.client.cursors.length := by
    by_contra hge
    have honce := h.once cursor part
    have hpos := List.length_pos_of_mem hfate
    rw [if_neg hge] at honce
    omega
  refine ⟨_, List.getElem?_eq_getElem hlt, ?_⟩
  cases hout : (σ.client.cursors[cursor]).outcome with
  | some outcome => simp [Cursor.isComplete, hout]
  | none =>
      have hon := (h.outcome cursor _ (List.getElem?_eq_getElem hlt)).1 hout part _ hfate
      simp [hends] at hon

/-! ## The turn in which a transaction is released -/

/-- The transaction is released in the turn from `x` to `y`, while the reply to its COMMIT or
ROLLBACK is handled; `past` is what has happened by then. -/
structure Releases (tx : Nat) (past : List Event) (x y : Position) : Prop where
  reply : ∃ (exchange : Exchange) (reply : Reply), (exchange = .commit ∨ exchange = .rollback) ∧
    past = x.client.history ++ [.reply tx exchange .pullAll reply]
  release : ∃ tail, y.client.history = past ++ .release tx :: tail
  /-- All that the transaction has sent has come to its end. -/
  discharged : Discharged tx past
  /-- Its results are complete, if they can be. -/
  complete : ∀ (cursor : Nat) (part : Part) (given : Reply),
    .reply tx (.statement cursor) part given ∈ past → given.outcome.ends part = true →
      ∃ c, x.client.cursors[cursor]? = some c ∧ c.isComplete = true

theorem releases_of_answer {x y : Position} {reply : Reply} {others : List Request}
    (hs : Sound ⟨before ++ r :: after, s⟩) (hb : Situation.Balanced ⟨before ++ r :: after, s⟩)
    (ha : Attended ⟨before ++ r :: after, s⟩)
    (halone : decides r = true → ∀ q ∈ before ++ after, q.owner ≠ r.owner)
    (hhistory : s.history = x.client.history) (hcursors : s.cursors = x.client.cursors)
    (hy : y.client = (answered before after s others { r with reply := reply }).client)
    (hopen : x.client.endings tx = []) (hended : y.client.endings tx ≠ [])
    (hx : y.client.terminalExchanges tx ≠ []) :
    ∃ past, Releases tx past x y := by
  rw [hy] at hended hx
  have hopen' : s.endings tx = [] := by
    rw [← hopen]
    exact congrArg (List.filterMap (Event.ending? tx)) hhistory
  rcases ends_of_answer hs hopen' hended hx with ⟨rfl, he⟩
  rcases he.release hopen' hended with ⟨tail, htail⟩
  refine ⟨x.client.history ++ [.reply r.owner r.exchange r.part reply],
    ⟨r.exchange, reply, he.exchange, by rw [he.part]⟩, ⟨tail, ?_⟩, ?_, ?_⟩
  · rw [hy, htail, hhistory]
    simp
  · rw [← hhistory]
    exact discharged_of_alone hb (halone he.decides) reply
  · intro cursor part given hmem hends
    rw [← hcursors]
    suffices hseen : Event.reply r.owner (.statement cursor) part given ∈ s.history from
      ha.complete hseen hends
    rcases List.mem_append.1 hmem with hmem | hmem
    · exact hhistory ▸ hmem
    · -- The last reply is none to a statement.
      have hexchange : Exchange.statement cursor = r.exchange := by
        simp only [List.mem_singleton, Event.reply.injEq] at hmem
        exact hmem.2.1
      rcases he.exchange with hcommit | hrollback
      · simp [hcommit] at hexchange
      · simp [hrollback] at hexchange

/-- Only a turn that answers a request can release a transaction. -/
theorem releases_of_turn {x y : Position} (ht : Turn x y) (h : InTurn x)
    (hb : (situated x).Balanced) (ha : Attended (situated x)) (hopen : x.client.endings tx = [])
    (hended : y.client.endings tx ≠ []) (hx : y.client.terminalExchanges tx ≠ []) :
    ∃ past, Releases tx past x y := by
  cases ht with
  | flush place =>
      refine absurd ?_ hended
      simpa [Client.endings] using hopen
  | take => exact absurd hopen hended
  | @next before s r rest hq =>
      have hsituated : situated ⟨before, s⟩ = ⟨before ++ r :: rest, s⟩ := by simp [situated, hq]
      have hs := h.sound
      rw [hsituated] at hs hb ha
      -- The request has left the queue before it is answered.
      have hconnect : Deliveries ⟨before ++ r :: rest, s⟩
          ⟨before ++ r :: rest, s.updateConnection fun c => { c with queue := rest }⟩ :=
        .single (.connect _)
      exact releases_of_answer (hs.moves (Deliveries.moves hconnect)) hb (ha.deliveries hconnect)
        (h.alone hq) rfl rfl rfl hopen hended hx
  | @giveUp before s r =>
      have hs : Sound ⟨[] ++ r :: (before ++ s.connection.queue), s⟩ := h.sound
      exact releases_of_answer hs hb ha h.alone_givenUp rfl rfl rfl hopen hended hx

end

/-! ## The step in which a transaction is released -/

section

variable {tx : Nat} {s : Client} {σ σ' : Situation}

/-- A transaction that has ended does nothing any more. -/
theorem Standing.moves_ended {c : Conclusion} (hp : Standing tx (.ended c) σ) (hs : Sound σ)
    (hm : Moves σ σ') : Standing tx (.ended c) σ' := by
  have hboth : Standing tx (.ended c) σ' ∧ Sound σ' := by
    induction hm with
    | refl => exact ⟨hp, hs⟩
    | tail _ hm ih =>
        rcases exists_turned ih.2.phases hm ih.1 with ⟨effect, p', hturned⟩
        have hstanding := hturned.standing
        cases hturned.passage
        exact ⟨hstanding, ih.2.move hm⟩
  exact hboth.1

theorem exists_ended {p : Phase} (hp : Standing tx p σ) (hended : σ.client.endings tx ≠ []) :
    ∃ c, p = .ended c := by
  have hends : σ.client.endings tx = p.account.endings := congrArg Account.endings hp.account
  cases p with
  | ended c => exact ⟨c, rfl⟩
  | _ => exact absurd hends hended

/-- The exchanges of a transaction that has ended are those that it ended with. -/
theorem exchanges_of_ended (hs : Sound σ) (hm : Moves σ σ') (hended : σ.client.endings tx ≠ []) :
    σ'.client.terminalExchanges tx = σ.client.terminalExchanges tx := by
  rcases hs.phases tx with ⟨p, hp⟩
  rcases exists_ended hp hended with ⟨c, rfl⟩
  have hp' := hp.moves_ended hs hm
  exact (congrArg Account.exchanges hp'.account).trans (congrArg Account.exchanges hp.account).symm

/-- What a step does of its own ends no transaction that has started an exchange. -/
theorem Act.exchanges_of_ended (h : Act s tx σ) (hs : Sound (.of s)) (hopen : s.endings tx = [])
    (hended : σ.client.endings tx ≠ []) : σ.client.terminalExchanges tx = [] := by
  cases h with
  | minds hm => exact absurd (hm.untouched.endings.trans hopen) hended
  | begins title reported params name =>
      rcases hs.phases s.transactions.length with ⟨p, hp⟩
      exact congrArg Account.exchanges
        (standing_begunAtOnce ⟨rfl, rfl⟩ params name hp).account
  | beginsAwaited title reported params name =>
      rcases hs.phases s.transactions.length with ⟨p, hp⟩
      exact congrArg Account.exchanges
        (standing_begunAwaited ⟨rfl, rfl⟩ params name hp).account
  | @claims tx t ht hc hk name terminal =>
      rcases hs.phases tx with ⟨p, hp⟩
      cases running_of_kept hp ht hc hk
      have hp' := standing_taken hp name (terminal.course t.state)
      rcases exists_ended hp' hended with ⟨c, hc⟩
      rw [hc] at hp'
      have hnone : c.exchanges = [] := by
        cases hcourse : terminal.course t.state <;> simp [hcourse, Course.phase] at hc
        rw [← hc]
        rfl
      exact (congrArg Account.exchanges hp'.account).trans hnone
  | @letsGo tx s₁ hgo =>
      rcases hs.phases tx with ⟨p, hp⟩
      have hstanding := hgo.standing hp
      unfold Situation.of at hstanding
      rw [hgo.connection] at hstanding
      by_cases hrunning : p = .running
      · subst hrunning
        rcases standing_abandon s.connection.queue hstanding.account with ⟨p', hp', hafter⟩
        rcases exists_ended hafter hended with ⟨c, rfl⟩
        rcases hp' with hp' | hp' | hp' <;> cases hp'
        exact congrArg Account.exchanges hafter.account
      · rw [abandoned, abandon_of_not_running hstanding hrunning] at hended
        exact absurd (hgo.untouched.endings.trans hopen) hended

/-- A run passes from one position to the next while one of its steps hears replies. -/
inductive Passes : List Step → Position → Position → Prop
  | step (earlier : List Step) (step : Step) (later : List Step) {σ : Situation} {x y : Position}
      (ho : Opening (after .nonblocking {} earlier) step σ) (hx : Turns ⟨[], σ.client⟩ x)
      (ht : Turn x y)
      (hy : Turns y ⟨[], (perform .nonblocking (after .nonblocking {} earlier) step).2⟩) :
      Passes (earlier ++ step :: later) x y

theorem exists_turn {x z : Position} (h : Turns x z) (hopen : x.client.endings tx = [])
    (hended : z.client.endings tx ≠ []) :
    ∃ x' y', Turns x x' ∧ Turn x' y' ∧ Turns y' z ∧ x'.client.endings tx = [] ∧
      y'.client.endings tx ≠ [] := by
  induction h with
  | refl => exact absurd hopen hended
  | @tail y z h ht ih =>
      by_cases hy : y.client.endings tx = []
      · exact ⟨y, z, h, ht, .refl, hy, hended⟩
      · rcases ih hy with ⟨x', y', hx, ht', hy', hends⟩
        exact ⟨x', y', hx, ht', hy'.tail ht, hends⟩

theorem exists_step {steps : List Step}
    (hended : (after .nonblocking {} steps).endings tx ≠ []) :
    ∃ earlier step later, steps = earlier ++ step :: later ∧
      (after .nonblocking {} earlier).endings tx = [] ∧
      (perform .nonblocking (after .nonblocking {} earlier) step).2.endings tx ≠ [] := by
  induction steps using List.reverseRecOn with
  | nil => exact absurd rfl hended
  | append_singleton steps step ih =>
      by_cases hopen : (after .nonblocking {} steps).endings tx = []
      · rw [after_append] at hended
        exact ⟨steps, step, [], rfl, hopen, hended⟩
      · rcases ih hopen with ⟨earlier, step', later, rfl, hends⟩
        exact ⟨earlier, step', later ++ [step], by simp, hends⟩

/-- A transaction is released once. -/
theorem eq_of_release {past rest past' rest' : List Event}
    (heq : past ++ .release tx :: rest = past' ++ .release tx :: rest')
    (hone : (past ++ .release tx :: rest).filterMap (Event.ending? tx) =
      [.released, .notified]) : past = past' := by
  simp only [List.filterMap_append, List.filterMap_cons, Event.ending?, if_true] at hone
  have hfree : ∀ events : List Event, .release tx ∈ events →
      .released ∈ events.filterMap (Event.ending? tx) := by
    intro events hmem
    exact List.mem_filterMap.2 ⟨_, hmem, by simp⟩
  have hpast : past.filterMap (Event.ending? tx) = [] ∧
      rest.filterMap (Event.ending? tx) = [.notified] := by
    cases hends : past.filterMap (Event.ending? tx) with
    | nil => simpa [hends] using hone
    | cons first others =>
        rw [hends] at hone
        cases others <;> simp at hone
  refine ((List.append_cons_inj_of_notMem ?_ ?_).1 heq).1
  · intro hmem
    simpa [hpast.1] using hfree past hmem
  · intro hmem
    simpa [hpast.2] using hfree rest hmem

/-- A step that ends a transaction which has started an exchange releases it in one of its turns. -/
theorem releases_of_step (earlier : List Step) (step : Step) (later : List Step)
    (hopen : (after .nonblocking {} earlier).endings tx = [])
    (hended : (perform .nonblocking (after .nonblocking {} earlier) step).2.endings tx ≠ [])
    (hx : (perform .nonblocking (after .nonblocking {} earlier) step).2.terminalExchanges tx ≠ []) :
    ∃ past x y, Passes (earlier ++ step :: later) x y ∧ Releases tx past x y ∧ y.client.history <+:
      (perform .nonblocking (after .nonblocking {} earlier) step).2.history := by
  have hs := sound_after earlier
  rcases opens_perform (after .nonblocking {} earlier) step with ⟨σ, ho, hh⟩
  have hrest : Moves σ (.of (perform .nonblocking (after .nonblocking {} earlier) step).2) :=
    Deliveries.moves (ho.deliveries hh)
  have hopenσ : σ.client.endings tx = [] := by
    by_contra hendedσ
    -- Otherwise it would have ended without an exchange.
    have hnone := (ho.act tx).exchanges_of_ended hs hopen hendedσ
    exact hx ((exchanges_of_ended (hs.moves ho.moves) hrest hendedσ).trans hnone)
  rcases exists_turn hh.turns hopenσ hended with ⟨x, y, hx', ht, hy', hopenx, hendedy⟩
  have hin := ((inTurn_after earlier).opening ho).turns hx'
  have hheard : Deliveries σ (situated x) := by
    have hturns := deliveries_turns hx'
    rwa [situated_opening ho] at hturns
  have hbalanced := ((balanced_after earlier).moves ho.moves).moves (Deliveries.moves hheard)
  have hattended := ((attended_after earlier).dealing ho.dealing).deliveries hheard
  have hlast := Deliveries.moves (deliveries_turns hy')
  have hxy : y.client.terminalExchanges tx ≠ [] := fun hnone =>
    hx ((exchanges_of_ended (hin.turn ht).sound hlast hendedy).trans hnone)
  rcases releases_of_turn ht hin hbalanced hattended hopenx hendedy hxy with ⟨past, hreleases⟩
  exact ⟨past, x, y, .step earlier step later ho hx' ht hy', hreleases, history_moves hlast⟩

end

/-- A released transaction is owed nothing. In every run a transaction that has started a COMMIT or
ROLLBACK is released while the reply to it is handled, and by then each of its requests has come to
its end, and its results are complete as far as replies have come for them. -/
theorem discharged_at_release (steps : List Step) {tx : Nat} {past rest : List Event}
    (hrelease : (after .nonblocking {} steps).history = past ++ .release tx :: rest)
    (hstarted : past.filterMap (Event.terminalExchange? tx) ≠ []) :
    ∃ x y, Passes steps x y ∧ Releases tx past x y := by
  have hends : (after .nonblocking {} steps).endings tx = [.released, .notified] := by
    rcases (sound_after steps).phases tx with ⟨p, hp⟩
    rcases hp.endings with hnone | hends
    · simp [Situation.of, Client.endings, Client.seen, hrelease] at hnone
    · exact hends
  have hended : (after .nonblocking {} steps).endings tx ≠ [] := by simp [hends]
  rcases exists_step hended with
    ⟨earlier, step, later, rfl, hopen, hended⟩
  have hlater : Moves (.of (perform .nonblocking (after .nonblocking {} earlier) step).2)
      (.of (after .nonblocking {} (earlier ++ step :: later))) := by
    rw [after_append]
    exact leads_after _ later
  have hsound : Sound (.of (perform .nonblocking (after .nonblocking {} earlier) step).2) :=
    (sound_after earlier).moves (leads_perform _ step)
  have hx : (perform .nonblocking (after .nonblocking {} earlier) step).2.terminalExchanges tx ≠
      [] := by
    intro hnone
    have hsame := (exchanges_of_ended hsound hlater hended).trans hnone
    simp only [Situation.of, Client.terminalExchanges, Client.seen, hrelease, List.filterMap_append,
      List.append_eq_nil_iff] at hsame
    exact hstarted hsame.1
  rcases releases_of_step earlier step later hopen hended hx with
    ⟨past', x, y, hpasses, hreleases, hprefix⟩
  -- The transaction is released once, so this is the release in question.
  rcases hreleases.release with ⟨tail, htail⟩
  rcases hprefix.trans (history_moves hlater) with ⟨more, hmore⟩
  have heq : past ++ .release tx :: rest = past' ++ .release tx :: (tail ++ more) := by
    rw [← hrelease, ← List.cons_append, ← List.append_assoc, ← htail]
    exact hmore.symm
  have hone : (past ++ .release tx :: rest).filterMap (Event.ending? tx) =
      [.released, .notified] := by
    rw [← hrelease]
    exact hends
  cases eq_of_release heq hone
  exact ⟨x, y, hpasses, hreleases⟩

/-- A transaction is closed with a COMMIT that the server refuses. Its statement has failed by then,
but no reply has been delivered before. -/
def refusedCommit : List Step :=
  [.hold true,
    .begin { tx := "t", config := .settings [], reported := true, bookmarkOf := none
             handle := "b" },
    .take "b",
    .script ⟨"A", some { outcome := .failure (.server "Neo.ClientError.Statement.SyntaxError" "") },
      none⟩,
    .run "t" "A" [] (some "r"), .success "t",
    .script ⟨"COMMIT", none,
      some { outcome := .failure (.server "Neo.TransientError.Transaction.Outdated" "") }⟩,
    .close "t" (some "c"), .hold false, .deliver none]

/-- The transaction is released when the ROLLBACK has been answered that follows. -/
theorem discharged_at_release_of_refusedCommit :
    (∃ rest, (after .nonblocking {} refusedCommit).history =
        (after .nonblocking {} refusedCommit).history.take 20 ++ .release 0 :: rest) ∧
      ((after .nonblocking {} refusedCommit).history.take 20).filterMap
        (Event.terminalExchange? 0) = [.commit, .rollback] ∧
      ∃ x y, Passes refusedCommit x y ∧
        Releases 0 ((after .nonblocking {} refusedCommit).history.take 20) x y := by
  have hrelease : (after .nonblocking {} refusedCommit).history =
      (after .nonblocking {} refusedCommit).history.take 20 ++ .release 0 ::
        (after .nonblocking {} refusedCommit).history.drop 21 := rfl
  have hstarted : ((after .nonblocking {} refusedCommit).history.take 20).filterMap
      (Event.terminalExchange? 0) = [.commit, .rollback] := rfl
  exact ⟨⟨_, hrelease⟩, hstarted, discharged_at_release refusedCommit hrelease (by simp [hstarted])⟩

end Nonblocking

end ClientTransaction
