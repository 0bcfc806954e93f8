import ClientTransaction.Proofs.Nonblocking.Phases

/-!
# Nonblocking.Passages — from one phase to the next

A move takes one transaction at most from its phase to another, and then resolves at most one
handle. The passages are listed once; that a move is one of them, for every transaction, is what
all facts about runs are drawn from.
-/

namespace ClientTransaction

/-- Who receives the outcome at last. -/
def Completion.target {β φ σ : Type} : Completion β φ σ → β
  | .sink target => target
  | .finalizer _ done | .fallback _ done | .resume _ done => done.target

namespace Nonblocking

/-- The handle of a listener and what it is resolved with. -/
def told (result : Except Error Unit) : Listener → Option (Nat × Except Error Payload)
  | .handle handle => some (handle, result.map fun _ => Payload.unit)
  | .nobody => none

/-- The phase that a claim leads to. -/
def Course.phase (l : Listener) : Course → Phase
  | .finish result => .ended (.finished result l)
  | .commit => .committing false l
  | .commitOrRollback => .committing true l
  | .rollback => .rollingBack l

/-- From one phase of a transaction to another, with the handle that is resolved meanwhile. -/
inductive Passage (tx : Nat) : Phase → Option (Nat × Except Error Payload) → Phase → Prop
  | stay (p : Phase) : Passage tx p none p
  | born : Passage tx .unborn none .running
  | starts (handle : Nat) : Passage tx .unborn none (.starting handle)
  | acknowledged (handle : Nat) :
      Passage tx (.starting handle) (some (handle, .ok (.transaction tx))) .running
  /-- Nobody wants the transaction that BEGIN yields. -/
  | unwanted (handle : Nat) :
      Passage tx (.starting handle) (some (handle, .ok (.transaction tx))) (.rollingBack .nobody)
  /-- So it is with one that the server has given up meanwhile. -/
  | unwantedFailed (handle : Nat) :
      Passage tx (.starting handle) (some (handle, .ok (.transaction tx)))
        (.ended (.finished (.ok ()) .nobody))
  | refused (handle : Nat) (e : Error) :
      Passage tx (.starting handle) (some (handle, .error e)) (.ended (.refused e))
  | claimed (course : Course) (l : Listener) : Passage tx .running none (course.phase l)
  | committed (fallback : Bool) (metadata : Params) (l : Listener) :
      Passage tx (.committing fallback l) (told (.ok ()) l)
        (.ended (.committed fallback metadata l))
  | lost (loss : Loss) (l : Listener) :
      Passage tx (.committing false l) (told (.error loss.error) l) (.ended (.lost loss l))
  | fallsBack (loss : Loss) (l : Listener) :
      Passage tx (.committing true l) none (.fallingBack loss l)
  | fellBack (loss : Loss) (answer : Outcome) (l : Listener) :
      Passage tx (.fallingBack loss l) (told (.error loss.error) l)
        (.ended (.fellBack loss answer l))
  | rolledBack (answer : Outcome) (l : Listener) :
      Passage tx (.rollingBack l) (told answer.result l) (.ended (.rolledBack answer l))

/-! ## Handles -/

/-- The place of the handle that gets the outcome in the end. -/
def feeds? : Handler → Option Nat
  | .begun handle => some handle
  | .committed done | .rolledBack done =>
      match done.target with
      | .handle handle => some handle
      | .nobody => none
  | _ => none

/-- No outcome reaches the handle but those of the transaction. -/
structure Owned (tx handle : Nat) (σ : Situation) : Prop where
  lt : handle < σ.client.handles.length
  awaited : ¬ σ.client.Awaited handle
  fed : ∀ r ∈ σ.outstanding, feeds? r.handler = some handle → r.owner = tx

/-- What reaches a handle. -/
def effectOn (handle : Nat) (effect : Option (Nat × Except Error Payload)) :
    Option (Except Error Payload) :=
  effect.bind fun (place, result) => if place = handle then some result else none

/-- A handle of `tx` is resolved, or only ages. -/
structure Handled (tx : Nat) (effect : Option (Except Error Payload)) (handle : Nat)
    (s s' : Client) : Prop where
  state : ∀ h : Handle Payload, s.handles[handle]? = some h →
    ∃ h' : Handle Payload, s'.handles[handle]? = some h' ∧
      match effect with
      | none => h.Ages h'
      | some result => h' = h.resolve result
  silent : effect = none → Client.Silent handle s s'
  /-- Only a handle that yields the transaction may be resolved before the transaction ends. -/
  orderly : ∀ result, effect = some result → (∀ other, result ≠ .ok (.transaction other)) →
    Client.Orderly tx handle s s'

/-! ## What a claim, an end and a start come to -/

section

variable {tx : Nat} {s : Client} {rs : List Request}

theorem untouched_tell (tx : Nat) (s : Client) (result : Except Error Unit) (l : Listener) :
    Untouched tx s (tell s result l) := by
  cases l with
  | nobody => exact .refl tx s
  | handle handle =>
      refine .resolve s handle ?_
      intro h
      cases result <;> simp [Except.map] at h

theorem handled_none_of_eq {s s' : Client} {handle : Nat}
    (h : s'.handles[handle]? = s.handles[handle]?) (hs : Client.Silent handle s s') :
    Handled tx none handle s s' :=
  ⟨fun hd hhd => ⟨hd, by rw [h, hhd], .same hd⟩, fun _ => hs, by simp⟩

theorem Handled.other {handle : Nat} {s s' : Client} (h : Handled tx none handle s s')
    (other : Nat) : Handled other none handle s s' :=
  ⟨h.state, h.silent, by simp⟩

/-- Before the handle is touched, something else happens. -/
theorem Handled.after {effect : Option (Except Error Payload)} {handle : Nat} {s₁ s' : Client}
    (h : Handled tx effect handle s₁ s') (hh : s₁.handles[handle]? = s.handles[handle]?)
    (hs : Client.Silent handle s s₁) : Handled tx effect handle s s' where
  state := by
    intro hd hhd
    exact h.state hd (hh.trans hhd)
  silent := by
    intro hnone
    exact hs.trans (h.silent hnone)
  orderly := by
    intro result hsome hne
    exact hs.trans_orderly (h.orderly result hsome hne)

/-- After the handle has yielded the transaction, or if it is not touched, more may happen. -/
theorem Handled.before {effect : Option (Except Error Payload)} {handle : Nat} {s₁ s' : Client}
    (h : Handled tx effect handle s s₁)
    (hyields : ∀ result, effect = some result → ∃ other, result = .ok (.transaction other))
    (hh : s'.handles[handle]? = s₁.handles[handle]?) (hs : Client.Silent handle s₁ s') :
    Handled tx effect handle s s' where
  state := by
    intro hd hhd
    rcases h.state hd hhd with ⟨hd', hhd', hstep⟩
    exact ⟨hd', hh.trans hhd', hstep⟩
  silent := by
    intro hnone
    exact (h.silent hnone).trans hs
  orderly := by
    intro result hsome hne
    rcases hyields result hsome with ⟨other, hother⟩
    exact absurd hother (hne other)

theorem handled_resolve (tx : Nat) (s : Client) (place handle : Nat)
    (result : Except Error Payload) :
    Handled tx (effectOn handle (some (place, result))) handle s (s.resolve place result) := by
  have hstate : ∀ hd : Handle Payload, s.handles[handle]? = some hd →
      (s.resolve place result).handles[handle]? =
        some (if place = handle then hd.resolve result else hd) := by
    intro hd hhd
    unfold Client.resolve
    by_cases hp : place = handle
    · subst hp
      have hlt := (List.getElem?_eq_some_iff.1 hhd).1
      simp only [hhd]
      split <;> simp [hlt]
    · cases hplace : s.handles[place]? with
      | none => simpa [hp] using hhd
      | some other =>
          dsimp only
          split <;> simpa [hp] using hhd
  refine ⟨?_, ?_, ?_⟩
  · intro hd hhd
    refine ⟨_, hstate hd hhd, ?_⟩
    by_cases hp : place = handle
    · simp [effectOn, hp]
    · simpa [effectOn, hp] using Handle.Ages.same hd
  · intro hnone
    have hne : place ≠ handle := by
      intro hp
      simp [effectOn, hp] at hnone
    exact .resolve s hne result
  · intro _ _ _
    exact s.orderly_resolve tx place handle result

theorem handled_tell (tx : Nat) (s : Client) (result : Except Error Unit) (l : Listener)
    (handle : Nat) :
    Handled tx (effectOn handle (told result l)) handle s (tell s result l) := by
  cases l with
  | nobody => exact handled_none_of_eq rfl (.refl handle s)
  | handle place => exact handled_resolve tx s place handle _

/-- The account of a transaction that is released. -/
theorem account_release (s : Client) (rs : List Request) (tx : Nat) :
    Situation.account ⟨rs, s.release tx⟩ tx =
      { Situation.account ⟨rs, s⟩ tx with
        footing? := (s.footing? tx).map fun f => ⟨f.claimed, some (f.final?.getD .rolledBack)⟩
        endings := s.endings tx ++ [.released, .notified] } := by
  have hexchanges : (s.release tx).terminalExchanges tx = s.terminalExchanges tx := by
    simp [Client.terminalExchanges, Client.release]
  have hanswers : ∀ exchange, (s.release tx).answers tx exchange = s.answers tx exchange := by
    intro exchange
    simp [Client.answers, Client.release]
  simp only [Situation.account, s.footing?_release, s.endings_release, hexchanges, hanswers,
    if_true]

theorem account_updateTransaction (s : Client) (rs : List Request) (tx : Nat)
    (f : Transaction → Transaction) :
    Situation.account ⟨rs, s.updateTransaction tx f⟩ tx =
      { Situation.account ⟨rs, s⟩ tx with
        footing? := s.transactions[tx]?.map fun t => (f t).footing } := by
  simp [Situation.account, s.footing?_updateTransaction, Client.endings, Client.terminalExchanges,
    Client.answers]

/-- The account of a transaction whose COMMIT or ROLLBACK is sent. -/
theorem account_send (s : Client) (rs : List Request) (tx : Nat) {exchange : Exchange}
    (hx : exchange = .commit ∨ exchange = .rollback) (statement : String) (params : Params)
    (onPull : Handler) :
    Situation.account ⟨rs ++ s.requests tx exchange statement .ignore onPull,
        s.send tx exchange statement params .ignore onPull⟩ tx =
      { Situation.account ⟨rs, s⟩ tx with
        due := due tx rs ++ [(exchange, .pullAll, onPull)]
        exchanges := s.terminalExchanges tx ++ [exchange] } := by
  have hdue : due tx (rs ++ s.requests tx exchange statement .ignore onPull) =
      due tx rs ++ [(exchange, .pullAll, onPull)] := by
    rw [due_append, due_requests s tx tx exchange statement rfl onPull]
    rcases hx with rfl | rfl <;> simp
  have hfoot : (s.send tx exchange statement params .ignore onPull).footing? tx = s.footing? tx :=
    rfl
  rcases hx with rfl | rfl <;>
    simp [Situation.account, hdue, hfoot, Client.endings, Client.terminalExchanges, Client.answers]

/-- The account of a transaction whose PULL_ALL is answered. -/
theorem account_reply (s : Client) (rs : List Request) (tx : Nat) (exchange : Exchange)
    (reply : Reply) :
    Situation.account ⟨rs, s.record (.reply tx exchange .pullAll reply)⟩ tx =
      { Situation.account ⟨rs, s⟩ tx with
        commits := s.answers tx .commit ++ if exchange = .commit then [reply.outcome] else []
        rollbacks := s.answers tx .rollback ++
          if exchange = .rollback then [reply.outcome] else [] } := by
  have hfoot : (s.record (.reply tx exchange .pullAll reply)).footing? tx = s.footing? tx := rfl
  simp only [Situation.account, hfoot, Client.endings, Client.terminalExchanges, Client.answers,
    Client.seen_record, Event.ending?, Event.terminalExchange?, Event.answer?, true_and]
  cases exchange <;> simp

/-! ### The end -/

/-- A transaction changes for the last time, is released, and its listener is told. -/
def conclude (s : Client) (tx : Nat) (f : Transaction → Transaction) (result : Except Error Unit)
    (l : Listener) : Client :=
  tell ((s.updateTransaction tx f).release tx) result l

/-- Before a release nothing else needs to be changed. -/
theorem conclude_id (s : Client) (tx : Nat) (result : Except Error Unit) (l : Listener) :
    conclude s tx id result l = tell (s.release tx) result l := by
  simp [conclude, Client.updateTransaction]

theorem standing_conclude {c : Conclusion} {footing : Footing} {f : Transaction → Transaction}
    (ha : Situation.account ⟨rs, s⟩ tx =
      { footing? := some footing, due := [], exchanges := c.exchanges, commits := c.commits
        rollbacks := c.rollbacks })
    {final : Option State}
    (hf : ∀ t : Transaction, t.footing = footing → (f t).footing = ⟨true, final⟩)
    (hfinal : final.getD .rolledBack = c.final) (result : Except Error Unit) (l : Listener) :
    Standing tx (.ended c) ⟨rs, conclude s tx f result l⟩ := by
  have hfoot : (s.updateTransaction tx f).footing? tx = some ⟨true, final⟩ := by
    have hplace : s.footing? tx = some footing := congrArg Account.footing? ha
    rcases Option.map_eq_some_iff.1 hplace with ⟨t, ht, hft⟩
    rw [s.footing?_updateTransaction, if_pos rfl, ht, Option.map_some, hf t hft]
  have hends : (s.updateTransaction tx f).endings tx = [] := congrArg Account.endings ha
  refine ⟨?_, fun h => by simp [Phase.isHidden] at h⟩
  -- The listener learns of it last, which does not concern the transaction any more.
  unfold conclude
  rw [account_eq (untouched_tell tx _ result l) rfl, account_release, account_updateTransaction, ha,
    hfoot, hends]
  simp [Phase.account, hfinal]

theorem untouched_conclude {other : Nat} (hp : other ≠ tx) (s : Client)
    (f : Transaction → Transaction) (result : Except Error Unit) (l : Listener) :
    Untouched other s (conclude s tx f result l) :=
  ((Untouched.updateTransaction s hp.symm f).trans (.release _ hp.symm)).trans
    (untouched_tell other _ result l)

theorem handled_conclude (s : Client) (tx : Nat) (f : Transaction → Transaction)
    (result : Except Error Unit) (l : Listener) (handle : Nat) :
    Handled tx (effectOn handle (told result l)) handle s (conclude s tx f result l) :=
  (handled_tell tx ((s.updateTransaction tx f).release tx) result l handle).after rfl
    ((Client.Silent.of_history rfl).trans (.release _ tx))

/-! ### A rollback -/

theorem account_startRollback (s : Client) (rs : List Request) (tx : Nat) (done : TerminalChain) :
    Situation.account ⟨rs ++ s.opening (some ⟨tx, done⟩), s.start (some ⟨tx, done⟩)⟩ tx =
      { Situation.account ⟨rs, s⟩ tx with
        due := due tx rs ++ [(.rollback, .pullAll, .rolledBack done)]
        exchanges := s.terminalExchanges tx ++ [.rollback] } := by
  have hflush : Untouched tx (s.send tx .rollback Message.rollback [] .ignore (.rolledBack done))
      (s.start (some ⟨tx, done⟩)) := .record _ ⟨rfl, rfl, rfl, rfl⟩
  rw [account_eq hflush rfl]
  exact account_send s rs tx (Or.inr rfl) Message.rollback [] (.rolledBack done)

theorem untouched_startRollback {other : Nat} (hp : other ≠ tx) (s : Client)
    (done : TerminalChain) : Untouched other s (s.start (some ⟨tx, done⟩)) := by
  have hsend : Untouched other s
      (s.send tx .rollback Message.rollback [] .ignore (.rolledBack done)) :=
    .send s (fun h => absurd h.symm hp) _ _ _ _
  exact hsend.trans (.record _ ⟨rfl, rfl, rfl, rfl⟩)

theorem due_opening {other : Nat} (hp : other ≠ tx) (s : Client) (done : TerminalChain) :
    due other (s.opening (some ⟨tx, done⟩)) = [] := by
  have hignore : Handler.ignore.ownsCompletion = false := rfl
  have hdue := due_requests s other tx .rollback Message.rollback hignore (.rolledBack done)
  simpa [Client.opening, hp.symm] using hdue

/-! ### Transactions that nobody holds -/

theorem abandon_cases (s : Client) (others : List Request) (tx : Nat) :
    s.abandon others tx = (s, none) ∨
      ∃ t : Transaction, s.transactions[tx]? = some t ∧ t.closing = false ∧
        s.holdsTransaction others tx = false ∧
        (s.abandon others tx = ((s.updateTransaction tx Transaction.claim).release tx, none) ∨
          s.abandon others tx =
            (s.updateTransaction tx Transaction.claim, some ⟨tx, ending .nobody⟩)) := by
  unfold Client.abandon
  -- First whether there is anything to do, then whether anything is to be sent.
  cases ht : s.transactions[tx]? with
  | none => exact Or.inl rfl
  | some t =>
      dsimp only
      split
      · exact Or.inl rfl
      · rename_i hcond
        simp only [Bool.or_eq_true, not_or, Bool.not_eq_true] at hcond
        refine Or.inr ⟨t, rfl, hcond.2, hcond.1.1, ?_⟩
        split
        · exact Or.inl rfl
        · exact Or.inr rfl

theorem claim_of_unclaimed {t : Transaction} (h : t.footing = ⟨false, none⟩) :
    t.claim.footing = ⟨true, none⟩ := by
  rw [Transaction.footing_claim, h]

/-- A running transaction that is claimed for nobody and released has ended. -/
theorem standing_released (ha : Situation.account ⟨rs, s⟩ tx = Phase.running.account) :
    Standing tx (.ended (.finished (.ok ()) .nobody))
      ⟨rs, (s.updateTransaction tx Transaction.claim).release tx⟩ :=
  standing_conclude (c := .finished (.ok ()) .nobody) ha (fun _ => claim_of_unclaimed) rfl (.ok ())
    .nobody

/-- A running transaction is claimed for nobody, and its ROLLBACK is sent. -/
theorem standing_sentBack (ha : Situation.account ⟨rs, s⟩ tx = Phase.running.account) :
    Standing tx (.rollingBack .nobody)
      ⟨rs ++ (s.updateTransaction tx Transaction.claim).opening (some ⟨tx, ending .nobody⟩),
        (s.updateTransaction tx Transaction.claim).start (some ⟨tx, ending .nobody⟩)⟩ := by
  have hfoot : s.footing? tx = some ⟨false, none⟩ := congrArg Account.footing? ha
  rcases Option.map_eq_some_iff.1 hfoot with ⟨t, ht, hf⟩
  have hdue : due tx rs = [] := congrArg Account.due ha
  have hx : (s.updateTransaction tx Transaction.claim).terminalExchanges tx = [] :=
    congrArg Account.exchanges ha
  refine ⟨?_, fun h => by simp [Phase.isHidden] at h⟩
  rw [account_startRollback, account_updateTransaction, ha, ht, Option.map_some,
    claim_of_unclaimed hf, hdue, hx]
  rfl

/-- A running transaction that is abandoned goes on, or is given up at once, or is rolled back. -/
theorem standing_abandon (others : List Request)
    (ha : Situation.account ⟨rs, s⟩ tx = Phase.running.account) :
    ∃ p', (p' = .running ∨ p' = .ended (.finished (.ok ()) .nobody) ∨ p' = .rollingBack .nobody) ∧
      Standing tx p' ⟨rs ++ (s.abandon others tx).1.opening (s.abandon others tx).2,
        (s.abandon others tx).1.start (s.abandon others tx).2⟩ := by
  -- Someone holds it, or the server has given it up, or it is to be rolled back.
  rcases abandon_cases s others tx with hsame | ⟨t, -, -, -, hfailed | hsent⟩
  · refine ⟨.running, Or.inl rfl, ?_, fun h => by simp [Phase.isHidden] at h⟩
    simpa [hsame, Client.opening, Client.start] using ha
  · refine ⟨_, Or.inr (Or.inl rfl), ?_⟩
    simpa only [hfailed, Client.opening, Client.start, List.append_nil] using standing_released ha
  · refine ⟨_, Or.inr (Or.inr rfl), ?_⟩
    simpa only [hsent] using standing_sentBack ha

theorem untouched_abandon {other : Nat} (hp : other ≠ tx) (s : Client) (others : List Request) :
    Untouched other s ((s.abandon others tx).1.start (s.abandon others tx).2) ∧
      due other ((s.abandon others tx).1.opening (s.abandon others tx).2) = [] := by
  rcases abandon_cases s others tx with hsame | ⟨t, -, -, -, hfailed | hsent⟩
  · simpa [hsame, Client.opening, Client.start, due] using Untouched.refl other s
  · simp only [hfailed, Client.opening, Client.start]
    exact ⟨(Untouched.updateTransaction s hp.symm _).trans (.release _ hp.symm), rfl⟩
  · simp only [hsent]
    exact ⟨(Untouched.updateTransaction s hp.symm _).trans (untouched_startRollback hp _ _),
      due_opening hp _ _⟩

theorem handles_start (s : Client) (r : Option Rollback) : (s.start r).handles = s.handles := by
  cases r <;> rfl

theorem handles_abandon (s : Client) (others : List Request) (tx : Nat) :
    ((s.abandon others tx).1.start (s.abandon others tx).2).handles = s.handles := by
  rw [handles_start]
  rcases abandon_cases s others tx with h | ⟨t, -, -, -, h | h⟩ <;> rw [h] <;> rfl

end

/-! ## A reply that decides -/

/-- One transaction passes from one phase to another, and nothing else happens but that a handle,
which was to get its outcome from the transaction, is resolved. -/
structure Carried (tx : Nat) (effect : Option (Nat × Except Error Payload)) (p p' : Phase)
    (σ σ' : Situation) : Prop where
  passage : Passage tx p effect p'
  standing : Standing tx p' σ'
  others : ∀ other, other ≠ tx → Untouched other σ.client σ'.client ∧
    due other σ'.outstanding = due other σ.outstanding
  handled : ∀ handle, Handled tx (effectOn handle effect) handle σ.client σ'.client
  fed : ∀ handle result, effect = some (handle, result) →
    ∃ r ∈ σ.outstanding, r.owner = tx ∧ feeds? r.handler = some handle

section

variable {tx : Nat} {s : Client} {before after : List Request} {r : Request}

/-- The request that decides about a transaction is the only one. -/
theorem due_split {role role' : Exchange × Part × Handler}
    (h : due tx (before ++ r :: after) = [role]) (hr : role? tx r = some role') :
    role' = role ∧ due tx (before ++ after) = [] := by
  -- What is due before and after it adds up to nothing.
  have hsplit : due tx before ++ role' :: due tx after = [role] := by
    rw [← h, due_append]
    simp [due, hr]
  cases hb : due tx before with
  | nil =>
      rw [hb] at hsplit
      simp only [List.nil_append, List.cons.injEq] at hsplit
      rw [due_append, hb, hsplit.2]
      exact ⟨hsplit.1, rfl⟩
  | cons first rest =>
      rw [hb] at hsplit
      simp at hsplit

theorem due_others {other : Nat} (hp : r.owner ≠ other) :
    due other (before ++ r :: after) = due other (before ++ after) := by
  simp [due, role?, hp, List.filterMap_append]

theorem role_of_decides (hd : decides r = true) :
    role? r.owner r = some (r.exchange, r.part, r.handler) := by
  simp [role?, hd]

/-- The reply to a PULL_ALL is of no concern to other transactions. -/
theorem untouched_reply {other : Nat} (hp : other ≠ tx) (s : Client) (exchange : Exchange)
    (part : Part) (reply : Reply) :
    Untouched other s (s.record (.reply tx exchange part reply)) := by
  refine .record s ⟨rfl, rfl, ?_, ?_⟩ <;> cases part <;> simp [hp.symm]

/-- The situation after a reply to the PULL_ALL of `tx`. -/
def answered (before after : List Request) (s : Client) (others : List Request) (r : Request) :
    Situation :=
  ⟨before ++ after ++ (s.answer others r).1.opening (s.answer others r).2,
    (s.answer others r).1.start (s.answer others r).2⟩

/-- A conclusion is reached, and nothing more is sent. -/
theorem carried_conclude {p : Phase} {c : Conclusion} {footing : Footing} {exchange : Exchange}
    {handler : Handler} {old reply : Reply} {result : Except Error Unit} {l : Listener}
    {others : List Request} (f : Transaction → Transaction) (final : Option State)
    (hpass : Passage tx p (told result l) (.ended c))
    (ha : Situation.account ⟨before ++ after, s.record (.reply tx exchange .pullAll reply)⟩ tx =
      { footing? := some footing, due := [], exchanges := c.exchanges, commits := c.commits
        rollbacks := c.rollbacks })
    (hanswer : s.answer others ⟨tx, exchange, .pullAll, handler, reply⟩ =
      (conclude (s.record (.reply tx exchange .pullAll reply)) tx f result l, none))
    (hf : ∀ t : Transaction, t.footing = footing → (f t).footing = ⟨true, final⟩)
    (hfinal : final.getD .rolledBack = c.final)
    (hfeeds : ∀ handle, l = .handle handle → feeds? handler = some handle) :
    Carried tx (told result l) p (.ended c)
      ⟨before ++ ⟨tx, exchange, .pullAll, handler, old⟩ :: after, s⟩
      (answered before after s others ⟨tx, exchange, .pullAll, handler, reply⟩) := by
  have hsituation : answered before after s others ⟨tx, exchange, .pullAll, handler, reply⟩ =
      ⟨before ++ after, conclude (s.record (.reply tx exchange .pullAll reply)) tx f result l⟩ := by
    simp [answered, hanswer, Client.opening, Client.start]
  rw [hsituation]
  refine ⟨hpass, standing_conclude ha hf hfinal result l, ?_, ?_, ?_⟩
  · intro other hp
    exact ⟨(untouched_reply hp s exchange .pullAll reply).trans
      (untouched_conclude hp _ f result l),
      (due_others hp.symm).symm⟩
  · intro handle
    exact (handled_conclude (s.record (.reply tx exchange .pullAll reply)) tx f result l
      handle).after rfl (.record s rfl)
  · intro handle result' heq
    refine ⟨_, List.mem_append_right before (List.mem_cons_self ..), rfl, hfeeds handle ?_⟩
    cases l with
    | handle place =>
        simp only [told, Option.some.injEq, Prod.mk.injEq] at heq
        rw [heq.1]
    | nobody => simp [told] at heq

/-- The account of a transaction just after its PULL_ALL was answered. -/
theorem account_answered {a : Account} {role : Exchange × Part × Handler}
    (ha : Situation.account ⟨before ++ r :: after, s⟩ tx = a) (hdue : a.due = [role])
    (ho : r.owner = tx) (hd : decides r = true) (reply : Reply) :
    (r.exchange, r.part, r.handler) = role ∧
      Situation.account ⟨before ++ after, s.record (.reply tx role.1 .pullAll reply)⟩ tx =
        { a with
          due := []
          commits := a.commits ++ if role.1 = .commit then [reply.outcome] else []
          rollbacks := a.rollbacks ++ if role.1 = .rollback then [reply.outcome] else [] } := by
  subst ha ho
  have hrole := role_of_decides hd
  rcases due_split hdue hrole with ⟨heq, hnil⟩
  refine ⟨heq, ?_⟩
  rw [account_reply]
  simp [Situation.account, hnil]

theorem account_resolve (s : Client) (rs : List Request) (handle : Nat)
    (result : Except Error Payload) (tx : Nat) :
    Situation.account ⟨rs, s.resolve handle result⟩ tx = Situation.account ⟨rs, s⟩ tx := by
  unfold Client.resolve
  split
  · rfl
  · dsimp only
    split
    · refine (account_eq (.record { s with handles := s.handles.set handle _ }
        ⟨rfl, rfl, rfl, rfl⟩) rfl).trans ?_
      rfl
    · rfl

/-- A transaction that nobody has claimed ends when BEGIN fails. -/
theorem refuse_eq_conclude (hfoot : s.footing? tx = some ⟨false, none⟩) (handle : Nat)
    (e : Error) :
    s.refuse tx handle e =
      conclude s tx (fun t => t.markFailed.claim) (.error e) (.handle handle) := by
  rcases Option.map_eq_some_iff.1 hfoot with ⟨t, ht, hft⟩
  have hclosing : t.closing = false := congrArg Footing.claimed hft
  simp only [Client.refuse, ht, Option.any_some, hclosing]
  rfl

/-- The client after the reply that acknowledges BEGIN, when its handle yields the transaction. -/
def yielded (s : Client) (tx handle : Nat) (reply : Reply) : Client :=
  (s.record (.reply tx .begin .pullAll reply)).resolve handle (.ok (.transaction tx))

theorem untouched_yielded {other : Nat} (hp : other ≠ tx) (s : Client) (handle : Nat)
    (reply : Reply) : Untouched other s (yielded s tx handle reply) := by
  have hne : (Except.ok (.transaction tx) : Except Error Payload) ≠ .ok (.transaction other) := by
    simpa using hp.symm
  exact (untouched_reply hp s .begin .pullAll reply).trans (.resolve _ handle hne)

theorem handled_yielded (tx : Nat) (s : Client) (handle place : Nat) (reply : Reply) :
    Handled tx (effectOn place (some (handle, .ok (.transaction tx)))) place s
      (yielded s tx handle reply) :=
  (handled_resolve tx (s.record (.reply tx .begin .pullAll reply)) handle place
    (.ok (.transaction tx))).after rfl (.record s rfl)

/-- BEGIN is acknowledged: the handle yields the transaction, unless it has been let go. -/
theorem carried_acknowledged {handle : Nat} {old : Reply} {records : List (List Value)}
    {metadata : Params}
    (ha : Situation.account ⟨before ++ after, s.record (.reply tx .begin .pullAll
        ⟨records, .success metadata⟩)⟩ tx = Phase.running.account) (others : List Request) :
    ∃ p', Carried tx (some (handle, .ok (.transaction tx))) (.starting handle) p'
      ⟨before ++ ⟨tx, .begin, .pullAll, .begun handle, old⟩ :: after, s⟩
      (answered before after s others
        ⟨tx, .begin, .pullAll, .begun handle, ⟨records, .success metadata⟩⟩) := by
  have hanswer : s.answer others
      ⟨tx, .begin, .pullAll, .begun handle, ⟨records, .success metadata⟩⟩ =
      (yielded s tx handle ⟨records, .success metadata⟩).abandon others tx := rfl
  have hrun : Situation.account
      ⟨before ++ after, yielded s tx handle ⟨records, .success metadata⟩⟩ tx =
        Phase.running.account :=
    (account_resolve _ _ _ _ _).trans ha
  rcases standing_abandon others hrun with ⟨p', hp', hstanding⟩
  unfold answered
  rw [hanswer]
  refine ⟨p', ?_, hstanding, ?_, ?_, ?_⟩
  · rcases hp' with rfl | rfl | rfl
    · exact .acknowledged handle
    · exact .unwantedFailed handle
    · exact .unwanted handle
  · intro other hp
    rcases untouched_abandon hp (yielded s tx handle ⟨records, .success metadata⟩) others with
      ⟨hu, hd⟩
    refine ⟨(untouched_yielded hp s handle _).trans hu, ?_⟩
    calc
      due other (before ++ after ++ _) = due other (before ++ after) ++ due other _ :=
        due_append other _ _
      _ = due other (before ++ after) := by rw [hd, List.append_nil]
      _ = due other _ := (due_others hp.symm).symm
  · intro place
    -- The handle yields the transaction, so it may be resolved before a rollback.
    refine (handled_yielded tx s handle place _).before ?_
      (congrArg (fun handles => handles[place]?) (handles_abandon _ others tx))
      ((Client.Silent.abandon _ _ _).trans (.start _ _))
    intro result hsome
    by_cases hp : handle = place
    · exact ⟨tx, by simpa [effectOn, hp] using hsome.symm⟩
    · simp [effectOn, hp] at hsome
  · intro place result heq
    simp only [Option.some.injEq, Prod.mk.injEq] at heq
    refine ⟨_, List.mem_append_right before (List.mem_cons_self ..), rfl, ?_⟩
    rw [← heq.1]
    rfl

/-- BEGIN is refused: the transaction ends before its handle does. -/
theorem carried_refused {handle : Nat} {old : Reply} {records : List (List Value)} {loss : Loss}
    (ha : Situation.account ⟨before ++ after, s.record (.reply tx .begin .pullAll
        ⟨records, loss.outcome⟩)⟩ tx = Phase.running.account) (others : List Request) :
    Carried tx (some (handle, .error loss.error)) (.starting handle) (.ended (.refused loss.error))
      ⟨before ++ ⟨tx, .begin, .pullAll, .begun handle, old⟩ :: after, s⟩
      (answered before after s others
        ⟨tx, .begin, .pullAll, .begun handle, ⟨records, loss.outcome⟩⟩) := by
  have hfoot : (s.record (.reply tx .begin .pullAll ⟨records, loss.outcome⟩)).footing? tx =
      some ⟨false, none⟩ := congrArg Account.footing? ha
  have hanswer : s.answer others ⟨tx, .begin, .pullAll, .begun handle, ⟨records, loss.outcome⟩⟩ =
      (conclude (s.record (.reply tx .begin .pullAll ⟨records, loss.outcome⟩)) tx
        (fun t => t.markFailed.claim) (.error loss.error) (.handle handle), none) := by
    rw [← refuse_eq_conclude hfoot handle loss.error]
    cases loss <;> rfl
  refine carried_conclude (c := .refused loss.error) _ none (.refused handle loss.error) ha
    hanswer ?_ rfl ?_
  · intro t ht
    rw [Transaction.footing_claim, Transaction.footing_markFailed, ht]
  · intro place heq
    rw [← Listener.handle.inj heq]
    rfl

/-- BEGIN is answered. -/
theorem carried_begun {handle : Nat} {old : Reply}
    (ha : Situation.account
        ⟨before ++ ⟨tx, .begin, .pullAll, .begun handle, old⟩ :: after, s⟩ tx =
      (Phase.starting handle).account) (reply : Reply) (others : List Request) :
    ∃ effect p', Carried tx effect (.starting handle) p'
      ⟨before ++ ⟨tx, .begin, .pullAll, .begun handle, old⟩ :: after, s⟩
      (answered before after s others ⟨tx, .begin, .pullAll, .begun handle, reply⟩) := by
  rcases account_answered ha rfl rfl rfl reply with ⟨-, ha'⟩
  rcases reply with ⟨records, outcome⟩
  rcases outcome.success_or_loss with ⟨metadata, rfl⟩ | ⟨loss, rfl⟩
  · rcases carried_acknowledged ha' others with ⟨p', hcarried⟩
    exact ⟨_, p', hcarried⟩
  · exact ⟨_, _, carried_refused ha' others⟩

/-- What is due with a listener feeds its handle. -/
theorem feeds?_ending (l : Listener) (handle : Nat) (h : l = .handle handle) (fallback : Bool)
    (e : Error) :
    feeds? (.committed (commitChain fallback l)) = some handle ∧
      feeds? (.rolledBack (ending l)) = some handle ∧
      feeds? (.rolledBack (.resume e (ending l))) = some handle := by
  subst h
  cases fallback <;> exact ⟨rfl, rfl, rfl⟩

/-- COMMIT failed, and a ROLLBACK follows. -/
theorem carried_fallsBack {l : Listener} {old : Reply} {records : List (List Value)} {loss : Loss}
    (ha : Situation.account ⟨before ++ after, s.record (.reply tx .commit .pullAll
        ⟨records, loss.outcome⟩)⟩ tx =
      { (Phase.committing true l).account with due := [], commits := [loss.outcome] })
    (others : List Request) :
    ∃ effect p', Carried tx effect (.committing true l) p'
      ⟨before ++ ⟨tx, .commit, .pullAll, .committed (commitChain true l), old⟩ :: after, s⟩
      (answered before after s others
        ⟨tx, .commit, .pullAll, .committed (commitChain true l), ⟨records, loss.outcome⟩⟩) := by
  have hanswer : s.answer others ⟨tx, .commit, .pullAll, .committed (commitChain true l),
      ⟨records, loss.outcome⟩⟩ =
      (s.record (.reply tx .commit .pullAll ⟨records, loss.outcome⟩),
        some ⟨tx, .resume loss.error (ending l)⟩) := by
    cases loss <;> rfl
  unfold answered
  rw [hanswer]
  refine ⟨none, .fallingBack loss l, .fallsBack loss l, ⟨?_, ?_⟩, ?_, ?_, ?_⟩
  · rw [account_startRollback, ha]
    simp [Situation.account] at ha
    simp [Phase.account, ha]
  · intro h
    simp [Phase.isHidden] at h
  · intro other hp
    refine ⟨(untouched_reply hp s _ _ _).trans (untouched_startRollback hp _ _), ?_⟩
    rw [due_append, due_opening hp, List.append_nil, due_others hp.symm]
  · intro handle
    exact handled_none_of_eq (by rw [handles_start]; rfl)
      ((Client.Silent.record s rfl).trans (.start _ _))
  · intro handle result h
    simp at h

/-- COMMIT is answered. -/
theorem carried_committed {fallback : Bool} {l : Listener} {old : Reply}
    (ha : Situation.account
        ⟨before ++ ⟨tx, .commit, .pullAll, .committed (commitChain fallback l), old⟩ :: after, s⟩
          tx = (Phase.committing fallback l).account) (reply : Reply) (others : List Request) :
    ∃ effect p', Carried tx effect (.committing fallback l) p'
      ⟨before ++ ⟨tx, .commit, .pullAll, .committed (commitChain fallback l), old⟩ :: after, s⟩
      (answered before after s others
        ⟨tx, .commit, .pullAll, .committed (commitChain fallback l), reply⟩) := by
  rcases account_answered ha rfl rfl rfl reply with ⟨-, ha'⟩
  rcases reply with ⟨records, outcome⟩
  rcases outcome.success_or_loss with ⟨metadata, rfl⟩ | ⟨loss, rfl⟩
  · -- With or without a fallback, success is passed on.
    refine ⟨_, _, carried_conclude (c := .committed fallback metadata l)
      (fun t => (t.setBookmark (Message.bookmark metadata)).finalize .committed) (some .committed)
      (.committed fallback metadata l) ha' ?_ ?_ rfl
      fun handle h => (feeds?_ending l handle h fallback .completionDropped).1⟩
    · cases fallback <;> cases l <;> rfl
    · intro t ht
      rw [Transaction.footing_finalize rfl, Transaction.footing_setBookmark, ht]
      rfl
  · -- COMMIT failed: without a fallback that is the end.
    cases fallback with
    | false =>
        refine ⟨_, _, carried_conclude (c := .lost loss l) id none (.lost loss l) ha' ?_
          (fun _ ht => ht) rfl
          fun handle h => (feeds?_ending l handle h false .completionDropped).1⟩
        rw [conclude_id, ← fire_ending]
        cases loss <;> rfl
    | true => exact carried_fallsBack ha' others

/-- What it comes to when a ROLLBACK is answered in some way: how the transaction ends and what the
listener is told. -/
structure RollsBack (tx : Nat) (p : Phase) (done : TerminalChain) (l : Listener)
    (conclusion : Outcome → Conclusion) (shown : Outcome → Except Error Unit) : Prop where
  passage : ∀ answer, Passage tx p (told (shown answer) l) (.ended (conclusion answer))
  fires : ∀ (s : Client) (answer : Outcome),
    s.fire tx done answer.result = (tell (s.release tx) (shown answer) l, none)
  final : ∀ answer, (conclusion answer).final = .rolledBack
  due : p.account.due = [(.rollback, .pullAll, .rolledBack done)]
  account : ∀ answer,
    { p.account with due := [], rollbacks := p.account.rollbacks ++ [answer] } =
    { footing? := some ⟨true, none⟩, due := [], exchanges := (conclusion answer).exchanges
      commits := (conclusion answer).commits, rollbacks := (conclusion answer).rollbacks }
  feeds : ∀ handle, l = .handle handle → feeds? (.rolledBack done) = some handle

theorem rollsBack_rollingBack (tx : Nat) (l : Listener) :
    RollsBack tx (.rollingBack l) (ending l) l (fun answer => .rolledBack answer l)
      Outcome.result where
  passage := by
    intro answer
    exact .rolledBack answer l
  fires := by
    intro s answer
    exact fire_ending s tx l answer.result
  final := fun _ => rfl
  due := rfl
  account := fun _ => rfl
  feeds := by
    intro handle h
    exact (feeds?_ending l handle h false .completionDropped).2.1

/-- The reply to the ROLLBACK that follows a failed COMMIT does not show. -/
theorem rollsBack_fallingBack (tx : Nat) (loss : Loss) (l : Listener) :
    RollsBack tx (.fallingBack loss l) (.resume loss.error (ending l)) l
      (fun answer => .fellBack loss answer l) fun _ => .error loss.error where
  passage := by
    intro answer
    exact .fellBack loss answer l
  fires := by
    intro s _
    exact fire_ending s tx l (.error loss.error)
  final := fun _ => rfl
  due := rfl
  account := fun _ => rfl
  feeds := by
    intro handle h
    exact (feeds?_ending l handle h false loss.error).2.2

/-- ROLLBACK is answered, as the first exchange or after a COMMIT that failed. -/
theorem carried_rolledBack {p : Phase} {done : TerminalChain} {l : Listener}
    {conclusion : Outcome → Conclusion} {shown : Outcome → Except Error Unit} {old : Reply}
    (h : RollsBack tx p done l conclusion shown)
    (ha : Situation.account
        ⟨before ++ ⟨tx, .rollback, .pullAll, .rolledBack done, old⟩ :: after, s⟩ tx = p.account)
    (reply : Reply) (others : List Request) :
    ∃ effect p', Carried tx effect p p'
      ⟨before ++ ⟨tx, .rollback, .pullAll, .rolledBack done, old⟩ :: after, s⟩
      (answered before after s others ⟨tx, .rollback, .pullAll, .rolledBack done, reply⟩) := by
  rcases account_answered ha h.due rfl rfl reply with ⟨-, ha'⟩
  rcases reply with ⟨records, outcome⟩
  have hanswered : Situation.account ⟨before ++ after,
      s.record (.reply tx .rollback .pullAll ⟨records, outcome⟩)⟩ tx =
        { footing? := some ⟨true, none⟩, due := [], exchanges := (conclusion outcome).exchanges
          commits := (conclusion outcome).commits, rollbacks := (conclusion outcome).rollbacks } := by
    rw [← h.account outcome]
    simpa using ha'
  rcases outcome.success_or_loss with ⟨metadata, rfl⟩ | ⟨lost, rfl⟩
  · -- The transaction is finalized before it is released.
    refine ⟨_, _, carried_conclude (Transaction.finalize .rolledBack) (some .rolledBack)
      (h.passage _) hanswered ?_ ?_ (h.final _).symm h.feeds⟩
    · exact h.fires _ (.success metadata)
    · intro t ht
      rw [Transaction.footing_finalize rfl, ht]
      rfl
  · -- It is released as it is.
    refine ⟨_, _, carried_conclude id none (h.passage _) hanswered ?_ (fun _ ht => ht)
      (h.final _).symm h.feeds⟩
    rw [conclude_id, ← h.fires]
    cases lost <;> rfl

/-- Whatever decides about a transaction, its reply carries the transaction on. -/
theorem carried_answer {p : Phase} (hp : Standing r.owner p ⟨before ++ r :: after, s⟩)
    (hd : decides r = true) (reply : Reply) (others : List Request) :
    ∃ effect p', Carried r.owner effect p p' ⟨before ++ r :: after, s⟩
      (answered before after s others { r with reply := reply }) := by
  have hdue : due r.owner (before ++ r :: after) = p.account.due :=
    congrArg Account.due hp.account
  have hrole := role_of_decides hd
  have hnil : p.account.due ≠ [] := by
    rw [← hdue, due_append]
    simp [due, hrole]
  rcases r with ⟨owner, exchange, part, handler, old⟩
  have hsame : ∀ role, p.account.due = [role] → (exchange, part, handler) = role := by
    intro role h
    exact (due_split (hdue.trans h) hrole).1
  -- The phase tells which request it is, for it is the only one that decides.
  cases p with
  | unborn => simp [Phase.account] at hnil
  | running => simp [Phase.account] at hnil
  | ended c => simp [Phase.account] at hnil
  | starting handle =>
      obtain ⟨rfl, rfl, rfl⟩ : exchange = .begin ∧ part = .pullAll ∧ handler = .begun handle := by
        simpa using hsame _ rfl
      exact carried_begun hp.account reply others
  | committing fallback l =>
      obtain ⟨rfl, rfl, rfl⟩ : exchange = .commit ∧ part = .pullAll ∧
          handler = .committed (commitChain fallback l) := by
        simpa using hsame _ rfl
      exact carried_committed hp.account reply others
  | fallingBack loss l =>
      obtain ⟨rfl, rfl, rfl⟩ : exchange = .rollback ∧ part = .pullAll ∧
          handler = .rolledBack (.resume loss.error (ending l)) := by
        simpa using hsame _ rfl
      exact carried_rolledBack (rollsBack_fallingBack _ loss l) hp.account reply others
  | rollingBack l =>
      obtain ⟨rfl, rfl, rfl⟩ : exchange = .rollback ∧ part = .pullAll ∧
          handler = .rolledBack (ending l) := by
        simpa using hsame _ rfl
      exact carried_rolledBack (rollsBack_rollingBack _ l) hp.account reply others

end

end Nonblocking

end ClientTransaction
