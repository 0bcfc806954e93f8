import ClientTransaction.Proofs.Nonblocking.Openings

/-!
# Nonblocking.Tracking — what a handle shows

The phase of a transaction tells what each of its handles shows: the handle of BEGIN until the
transaction is acknowledged or refused, and the handle of the claiming operation until the
transaction has ended. What a handle shows, and when someone is woken for it, is followed from the
step that returns it through the rest of a run.
-/

namespace ClientTransaction.Nonblocking

/-- A handle that is held shows an outcome until it is taken, or that there is none yet. -/
def Shows (h : Handle Payload) : Option (Except Error Payload) → Prop
  | none => h.isHeld = true → h.isResolved = false
  | some result => h.isHeld = true → h.state = .resolved result ∨ h.state = .spent

namespace Shows

variable {h h' : Handle Payload} {x : Option (Except Error Payload)}

theorem ages (hs : Shows h x) (ha : h.Ages h') : Shows h' x := by
  cases ha with
  | same => exact hs
  | asked name watched watched' =>
      cases x with
      | none =>
          intro _
          exact rfl
      | some result =>
          intro held
          -- A pending handle shows no outcome.
          rcases hs held with hr | hr <;> simp at hr
  | taken name result =>
      cases x with
      | none =>
          intro held
          have hpending := hs held
          simp [Handle.isResolved] at hpending
      | some result' =>
          intro _
          exact Or.inr rfl
  | dropped =>
      cases x with
      | none =>
          intro held
          simp [Handle.drop, Handle.isHeld] at held
      | some result =>
          intro held
          simp [Handle.drop, Handle.isHeld] at held

/-- The first outcome stands. -/
theorem resolve (hs : Shows h x) (result : Except Error Payload) :
    Shows (h.resolve result) (some (x.getD result)) := by
  rcases h with ⟨name, state⟩
  cases name with
  | none =>
      intro held
      simp [Handle.resolve, Handle.isHeld] at held
  | some name =>
      intro _
      cases x with
      | none =>
          cases state with
          | pending watched => exact Or.inl rfl
          | resolved other => simp [Shows, Handle.isHeld, Handle.isResolved] at hs
          | spent => simp [Shows, Handle.isHeld, Handle.isResolved] at hs
      | some known =>
          rcases hs rfl with hr | hr <;> simp only at hr <;> subst hr
          · exact Or.inl rfl
          · exact Or.inr rfl

theorem handled {tx : Nat} {effect : Option (Except Error Payload)} {handle : Nat} {s s' : Client}
    (hh : s.handles[handle]? = some h) (hs : Shows h x) (hstep : Handled tx effect handle s s') :
    ∃ h' : Handle Payload, s'.handles[handle]? = some h' ∧ Shows h' (x <|> effect) := by
  rcases hstep.state h hh with ⟨h', hh', heffect⟩
  refine ⟨h', hh', ?_⟩
  cases effect with
  | none => simpa using hs.ages heffect
  | some result =>
      subst heffect
      cases x with
      | none => exact hs.resolve result
      | some known => exact hs.resolve result

end Shows

/-! ## Following a handle -/

/-- `Q` tells what a handle of `tx` shows in each phase, and the passages keep to it. -/
structure Follows (tx handle : Nat) (Q : Phase → Option (Except Error Payload) → Prop) : Prop where
  passage : ∀ (p p' : Phase) (effect : Option (Nat × Except Error Payload))
    (x : Option (Except Error Payload)),
    Q p x → Passage tx p effect p' → Q p' (x <|> effectOn handle effect)
  /-- Only a transaction is shown before the end. -/
  ended : ∀ (p : Phase) (result : Except Error Payload), Q p (some result) →
    (∀ other, result ≠ .ok (.transaction other)) → ∃ c, p = .ended c

/-- Nobody is woken for a handle before it shows an outcome, nor before the transaction has ended,
unless the handle yields the transaction. -/
structure InOrder (tx handle : Nat) (x : Option (Except Error Payload)) (s : Client) : Prop where
  waits : x = none → s.wakes handle = []
  ended : (∀ other, x ≠ some (.ok (.transaction other))) → s.EndsFirst tx handle

theorem InOrder.of_wakes {tx handle : Nat} {s : Client} (h : s.wakes handle = [])
    (x : Option (Except Error Payload)) : InOrder tx handle x s :=
  ⟨fun _ => h, fun _ => .of_wakes h⟩

structure Tracked (tx handle : Nat) (Q : Phase → Option (Except Error Payload) → Prop)
    (σ : Situation) : Prop where
  owned : Owned tx handle σ
  shown : ∃ p x h, Standing tx p σ ∧ Q p x ∧ σ.client.handles[handle]? = some h ∧ Shows h x ∧
    InOrder tx handle x σ.client

section

variable {tx handle : Nat} {Q : Phase → Option (Except Error Payload) → Prop} {σ σ' : Situation}

theorem Standing.endings {p : Phase} (h : Standing tx p σ) :
    σ.client.endings tx = [] ∨ σ.client.endings tx = [.released, .notified] := by
  have hends : σ.client.endings tx = p.account.endings := congrArg Account.endings h.account
  rw [hends]
  cases p <;> simp [Phase.account]

theorem Standing.endings_ended {c : Conclusion} (h : Standing tx (.ended c) σ) :
    σ.client.endings tx = [.released, .notified] :=
  congrArg Account.endings h.account

/-- A transaction that has ended does nothing any more. -/
theorem Passage.of_ended {c : Conclusion} {effect : Option (Nat × Except Error Payload)}
    {p : Phase} (h : Passage tx (.ended c) effect p) : effect = none := by
  cases h
  rfl

theorem InOrder.turned {p p' : Phase} {effect : Option (Nat × Except Error Payload)}
    {x : Option (Except Error Payload)} (hi : InOrder tx handle x σ.client)
    (hQ : Follows tx handle Q) (hq : Q p x) (ho : Owned tx handle σ)
    (ht : Turned tx effect p p' σ σ') :
    InOrder tx handle (x <|> effectOn handle effect) σ'.client := by
  have hhandled := ht.handled handle ho
  have hq' := hQ.passage p p' effect x hq ht.passage
  cases x with
  | none =>
      change Q p' (effectOn handle effect) at hq'
      change InOrder tx handle (effectOn handle effect) σ'.client
      cases hreached : effectOn handle effect with
      | none =>
          have hwakes := (hhandled.silent hreached).wakes
          exact .of_wakes (hwakes.trans (hi.waits rfl)) none
      | some result =>
          -- The outcome arrives now, so nobody was woken before.
          refine ⟨by simp, ?_⟩
          intro hne
          have hresult : ∀ other, result ≠ .ok (.transaction other) := by
            intro other heq
            exact hne other (congrArg some heq)
          rw [hreached] at hq'
          rcases hQ.ended p' result hq' hresult with ⟨c, rfl⟩
          exact (hi.ended (by simp)).orderly (hhandled.orderly result hreached hresult)
            ht.standing.endings_ended
  | some result =>
      refine ⟨by simp, ?_⟩
      intro hne
      have hresult : ∀ other, result ≠ .ok (.transaction other) := by
        intro other heq
        exact hne other (congrArg some heq)
      -- After the end there is no effect, so nobody is woken.
      rcases hQ.ended p result hq hresult with ⟨c, rfl⟩
      have hnone : effectOn handle effect = none := by
        rw [ht.passage.of_ended]
        rfl
      exact (hi.ended hne).silent (hhandled.silent hnone) ht.standing.endings

theorem Tracked.move (ht : Tracked tx handle Q σ) (hQ : Follows tx handle Q) (hs : Sound σ)
    (hm : Move σ σ') : Tracked tx handle Q σ' := by
  rcases ht.shown with ⟨p, x, h, hp, hq, hh, hshows, horder⟩
  rcases exists_turned hs.phases hm hp with ⟨effect, p', hturned⟩
  rcases hshows.handled hh (hturned.handled handle ht.owned) with ⟨h', hh', hshows'⟩
  exact ⟨ht.owned.linked (linked_move hm), p', _, h', hturned.standing,
    hQ.passage p p' effect x hq hturned.passage, hh', hshows', horder.turned hQ hq ht.owned hturned⟩

theorem Tracked.moves (ht : Tracked tx handle Q σ) (hQ : Follows tx handle Q) (hs : Sound σ)
    (hm : Moves σ σ') : Tracked tx handle Q σ' := by
  induction hm with
  | refl => exact ht
  | tail hms hm ih => exact ih.move hQ (hs.moves hms) hm

/-- Nobody has been woken for a handle that has just been made. -/
theorem inOrder_of_new (hs : Sound σ) (hm : Move σ σ') (x : Option (Except Error Payload)) :
    InOrder tx σ.client.handles.length x σ'.client :=
  .of_wakes (hs.wakes_move hm _ (Nat.le_refl _)) x

end

/-- A handle that has just been made belongs to the transaction for which it was made. -/
theorem owned_of_new {tx : Nat} {rs new : List Request} {s s' : Client} (hs : Sound ⟨rs, s⟩)
    (hsize : s.handles.length < s'.handles.length) (hcursors : s'.cursors = s.cursors)
    (hnew : ∀ r ∈ new, feeds? r.handler = some s.handles.length → r.owner = tx) :
    Owned tx s.handles.length ⟨rs ++ new, s'⟩ where
  lt := hsize
  awaited := by
    intro hw
    exact absurd (hs.awaited _ (awaited_of_cursors hcursors hw)) (Nat.lt_irrefl _)
  fed := by
    intro r hr hf
    rcases List.mem_append.1 hr with hr | hr
    · exact absurd (hs.fed r hr _ hf) (Nat.lt_irrefl _)
    · exact hnew r hr hf

/-! ## The handle of BEGIN -/

/-- The application has or had the transaction. -/
def Phase.isBegun : Phase → Bool
  | .unborn | .starting _ | .ended (.refused _) => false
  | _ => true

/-- What the handle of BEGIN shows. -/
inductive Yields (tx handle : Nat) : Phase → Option (Except Error Payload) → Prop
  | starting : Yields tx handle (.starting handle) none
  | refused (e : Error) : Yields tx handle (.ended (.refused e)) (some (.error e))
  | begun {p : Phase} (h : p.isBegun = true) : Yields tx handle p (some (.ok (.transaction tx)))

theorem effectOn_self (handle : Nat) (result : Except Error Payload) :
    effectOn handle (some (handle, result)) = some result := by
  simp [effectOn]

theorem Yields.passage {tx handle : Nat} {p p' : Phase}
    {effect : Option (Nat × Except Error Payload)} {x : Option (Except Error Payload)}
    (h : Yields tx handle p x) (hpass : Passage tx p effect p') :
    Yields tx handle p' (x <|> effectOn handle effect) := by
  cases h with
  | starting =>
      cases hpass with
      | stay => exact .starting
      | acknowledged => simpa [effectOn_self] using Yields.begun rfl
      | unwanted => simpa [effectOn_self] using Yields.begun rfl
      | unwantedFailed => simpa [effectOn_self] using Yields.begun rfl
      | refused _ e => simpa [effectOn_self] using Yields.refused e
  | refused e =>
      cases hpass with
      | stay => exact .refused e
  | begun h =>
      -- Once begun, a transaction stays so, and its handle has given all that it gives.
      apply Yields.begun
      cases hpass with
      | stay => exact h
      | born => rfl
      | starts => simp [Phase.isBegun] at h
      | refused => simp [Phase.isBegun] at h
      | claimed course l => cases course <;> rfl
      | _ => rfl

/-- Whoever has a handle of BEGIN has a transaction too. -/
theorem Yields.lt {tx handle : Nat} {p : Phase} {x : Option (Except Error Payload)} {σ : Situation}
    (h : Yields tx handle p x) (hp : Standing tx p σ) : tx < σ.client.transactions.length := by
  have hfoot : σ.client.footing? tx = p.account.footing? := congrArg Account.footing? hp.account
  have hsome : p.account.footing?.isSome = true := by
    cases h with
    | starting => rfl
    | refused e => rfl
    | begun hbegun => cases p <;> simp [Phase.isBegun] at hbegun <;> rfl
  rw [← hfoot, Client.footing?, Option.isSome_map] at hsome
  exact (List.getElem?_eq_some_iff.1 (Option.get_mem hsome)).1

theorem follows_yields (tx handle : Nat) : Follows tx handle (Yields tx handle) where
  passage := by
    intro _ _ _ _ hq hpass
    exact hq.passage hpass
  ended := by
    intro p result hq hne
    cases hq with
    | refused e => exact ⟨_, rfl⟩
    | begun => exact absurd rfl (hne tx)

theorem tracked_begunAtOnce {rs : List Request} {s : Client} (hs : Sound ⟨rs, s⟩)
    {t : Transaction} (ht : t.isFresh) (params : Params) (name : Option String)
    {Q : Phase → Option (Except Error Payload) → Prop}
    (hq : Q .running (some (.ok (.transaction s.transactions.length)))) :
    Tracked s.transactions.length s.handles.length Q (begunAtOnce rs s t params name) := by
  rcases hs.phases s.transactions.length with ⟨p, hp⟩
  refine ⟨owned_of_new hs ?_ rfl ?_, .running, _, .ready name (.ok (.transaction
    s.transactions.length)), standing_begunAtOnce ht params name hp, hq, ?_, ?_,
    inOrder_of_new hs (.begin t ht params name) _⟩
  · simp
  · intro r hr hf
    exact (feeds?_requests rfl hr hf).1
  · simp [begunAtOnce]
  · intro _
    exact Or.inl rfl

theorem tracked_begunAwaited {rs : List Request} {s : Client} (hs : Sound ⟨rs, s⟩)
    {t : Transaction} (ht : t.isFresh) (params : Params) (name : Option String)
    {Q : Phase → Option (Except Error Payload) → Prop}
    (hq : Q (.starting s.handles.length) none) :
    Tracked s.transactions.length s.handles.length Q (begunAwaited rs s t params name) := by
  rcases hs.phases s.transactions.length with ⟨p, hp⟩
  refine ⟨owned_of_new hs ?_ rfl ?_, _, none, .fresh name,
    standing_begunAwaited ht params name hp, hq, ?_, ?_,
    inOrder_of_new hs (.beginAwaited t ht params name) _⟩
  · simp
  · intro r hr hf
    exact (feeds?_requests rfl hr hf).1
  · simp [begunAwaited]
  · intro _
    exact rfl

/-! ## The handle of a claim -/

/-- What the handle of a claim shows that took a course. -/
inductive Pursues (l : Listener) : Course → Phase → Option (Except Error Unit) → Prop
  | finished (result : Except Error Unit) :
      Pursues l (.finish result) (.ended (.finished result l)) (some result)
  | committing : Pursues l .commit (.committing false l) none
  | committed (metadata : Params) :
      Pursues l .commit (.ended (.committed false metadata l)) (some (.ok ()))
  | lost (loss : Loss) : Pursues l .commit (.ended (.lost loss l)) (some (.error loss.error))
  | committingOr : Pursues l .commitOrRollback (.committing true l) none
  | committedOr (metadata : Params) :
      Pursues l .commitOrRollback (.ended (.committed true metadata l)) (some (.ok ()))
  | fallingBack (loss : Loss) : Pursues l .commitOrRollback (.fallingBack loss l) none
  | fellBack (loss : Loss) (answer : Outcome) :
      Pursues l .commitOrRollback (.ended (.fellBack loss answer l)) (some (.error loss.error))
  | rollingBack : Pursues l .rollback (.rollingBack l) none
  | rolledBack (answer : Outcome) :
      Pursues l .rollback (.ended (.rolledBack answer l)) (some answer.result)

/-- What the handle of a claim shows to its holder. -/
def Reports (handle : Nat) (course : Course) (p : Phase) (x : Option (Except Error Payload)) :
    Prop :=
  ∃ y, Pursues (.handle handle) course p y ∧
    x = y.map fun result => result.map fun _ => Payload.unit

theorem effectOn_told (handle : Nat) (result : Except Error Unit) :
    effectOn handle (told result (.handle handle)) =
      some (result.map fun _ => Payload.unit) := by
  simp [effectOn, told]

theorem Pursues.ended {l : Listener} {course : Course} {p : Phase} {result : Except Error Unit}
    (h : Pursues l course p (some result)) : ∃ c, p = .ended c := by
  cases h <;> exact ⟨_, rfl⟩

theorem Reports.passage {tx handle : Nat} {course : Course} {p p' : Phase}
    {effect : Option (Nat × Except Error Payload)} {x : Option (Except Error Payload)}
    (h : Reports handle course p x) (hpass : Passage tx p effect p') :
    Reports handle course p' (x <|> effectOn handle effect) := by
  rcases h with ⟨y, hy, rfl⟩
  cases hy with
  | finished result =>
      cases hpass with
      | stay => exact ⟨_, .finished result, rfl⟩
  | committing =>
      cases hpass with
      | stay => exact ⟨_, .committing, rfl⟩
      | committed _ metadata => exact ⟨_, .committed metadata, effectOn_told _ _⟩
      | lost loss => exact ⟨_, .lost loss, effectOn_told _ _⟩
  | committed metadata =>
      cases hpass with
      | stay => exact ⟨_, .committed metadata, rfl⟩
  | lost loss =>
      cases hpass with
      | stay => exact ⟨_, .lost loss, rfl⟩
  | committingOr =>
      cases hpass with
      | stay => exact ⟨_, .committingOr, rfl⟩
      | committed _ metadata => exact ⟨_, .committedOr metadata, effectOn_told _ _⟩
      | fallsBack loss => exact ⟨_, .fallingBack loss, rfl⟩
  | committedOr metadata =>
      cases hpass with
      | stay => exact ⟨_, .committedOr metadata, rfl⟩
  | fallingBack loss =>
      cases hpass with
      | stay => exact ⟨_, .fallingBack loss, rfl⟩
      | fellBack _ answer => exact ⟨_, .fellBack loss answer, effectOn_told _ _⟩
  | fellBack loss answer =>
      cases hpass with
      | stay => exact ⟨_, .fellBack loss answer, rfl⟩
  | rollingBack =>
      cases hpass with
      | stay => exact ⟨_, .rollingBack, rfl⟩
      | rolledBack answer => exact ⟨_, .rolledBack answer, effectOn_told _ _⟩
  | rolledBack answer =>
      cases hpass with
      | stay => exact ⟨_, .rolledBack answer, rfl⟩

theorem follows_reports (tx handle : Nat) (course : Course) :
    Follows tx handle (Reports handle course) where
  passage := by
    intro _ _ _ _ hq hpass
    exact hq.passage hpass
  ended := by
    rintro p result ⟨y, hy, hsome⟩ -
    cases y with
    | none => simp at hsome
    | some result => exact hy.ended

/-- Right after a claim its handle shows an outcome only if nothing was sent. -/
theorem tracked_taken {rs : List Request} {s : Client} {tx : Nat} (hs : Sound ⟨rs, s⟩)
    (hp : Standing tx .running ⟨rs, s⟩) (name : Option String) (course : Course)
    (hm : Move ⟨rs, s⟩ (taken rs s tx name course)) :
    Tracked tx s.handles.length (Reports s.handles.length course) (taken rs s tx name course) := by
  have hsize : s.handles.length < (claimed s tx name).handles.length := by simp [claimed]
  have hfresh : (claimed s tx name).handles[s.handles.length]? = some (.fresh name) := by
    simp [claimed]
  have hstanding := standing_taken hp name course
  have hsent : ∀ (exchange : Exchange) (statement : String) (handler : Handler),
      Owned tx s.handles.length
        (sent rs (claimed s tx name) tx exchange statement handler) := by
    intro exchange statement handler
    refine owned_of_new hs ?_ rfl fun r hr hf => (feeds?_requests rfl hr hf).1
    exact hsize
  have hpending : Shows (.fresh name) none := fun _ => rfl
  have horder : ∀ x, InOrder tx s.handles.length x (taken rs s tx name course).client :=
    inOrder_of_new hs hm
  cases course with
  | finish result =>
      -- The handle is made, and resolved in the same move.
      have hframe := Frame.resolve ((claimed s tx name).release tx) s.handles.length
        (result.map fun _ => Payload.unit)
      have hreleased : ((claimed s tx name).release tx).handles[s.handles.length]? =
          some (.fresh name) := hfresh
      have howned : Owned tx s.handles.length (taken rs s tx name (.finish result)) := by
        have hnew : Owned tx s.handles.length ⟨rs ++ [], _⟩ :=
          owned_of_new hs (Nat.lt_of_lt_of_eq hsize hframe.size.symm) hframe.cursors (by simp)
        rwa [List.append_nil] at hnew
      have htell := handled_tell tx ((claimed s tx name).release tx) result
        (.handle s.handles.length) s.handles.length
      rw [effectOn_told] at htell
      rcases hpending.handled hreleased htell with ⟨h, hh, hshows⟩
      exact ⟨howned, _, _, h, hstanding, ⟨_, .finished result, rfl⟩, hh, hshows, horder _⟩
  | commit =>
      exact ⟨hsent _ _ _, _, none, _, hstanding, ⟨none, .committing, rfl⟩, hfresh, hpending,
        horder _⟩
  | commitOrRollback =>
      exact ⟨hsent _ _ _, _, none, _, hstanding, ⟨none, .committingOr, rfl⟩, hfresh, hpending,
        horder _⟩
  | rollback =>
      exact ⟨hsent _ _ _, _, none, _, hstanding, ⟨none, .rollingBack, rfl⟩, hfresh, hpending,
        horder _⟩

/-! ## Operations -/

section

variable {s : Client} {tx : Nat} {t : Transaction}

/-- The handle of BEGIN is followed from its making on. -/
theorem tracked_begin (hs : Sound (.of s)) (title : String) (reported : Bool) (config : Config)
    (name : String) :
    Tracked s.transactions.length s.handles.length
      (Yields s.transactions.length s.handles.length)
      (.of (begin s title reported config name)) := by
  have hfresh : ({ title := title, reported := reported } : Transaction).isFresh := ⟨rfl, rfl⟩
  unfold begin
  dsimp only
  split
  · unfold Situation.of
    rw [(Client.frame_addHandle _ _).2.2.2.1, (Client.frame_send _ _ _ _ _ _ _).2.2.2.1]
    exact tracked_begunAtOnce hs hfresh config.beginParameters (some name) (.begun rfl)
  · have htracked : Tracked _ _ (Yields s.transactions.length s.handles.length) _ :=
      tracked_begunAwaited hs hfresh config.beginParameters (some name) .starting
    have hmove : Move (.of s) _ := .beginAwaited _ hfresh config.beginParameters (some name)
    -- BEGIN is flushed after the handle has been made.
    have hflush := Delivers.flush [] (((s.addTransaction
      { title := title, reported := reported }).addHandle (.fresh (some name))).send
        s.transactions.length .begin Message.begin config.beginParameters .ignore
        (.begun s.handles.length)) s.transactions.length
    have hleads := hflush.leads
    unfold Leads at hleads
    rw [(Client.frame_send _ _ _ _ _ _ _).2.2.2.1] at hleads
    exact htracked.moves (follows_yields _ _) (hs.move hmove) hleads

/-- The operation that claims a transaction is followed from its claim on. -/
theorem tracked_terminate (hs : Sound (.of s)) (hk : s.Kept tx) (ht : s.transactions[tx]? = some t)
    (hc : t.closing = false) (terminal : Terminal) (name : Option String) :
    Tracked tx s.handles.length (Reports s.handles.length (terminal.course t.state))
      (.of (terminate s tx terminal name)) := by
  rcases hs.phases tx with ⟨p, hp⟩
  cases running_of_kept hp ht hc hk
  have hclaim : Move (.of s) (taken s.connection.queue s tx name (terminal.course t.state)) :=
    .claim ht hc hk name terminal
  rw [terminate_of_unclaimed ht hc]
  exact (tracked_taken hs hp name _ hclaim).moves (follows_reports tx _ _) (hs.move hclaim)
    (deliveries_sendTerminal s tx name _).moves

/-- A transaction that the application has, and that nobody has claimed, is open. -/
theorem isOpen_of_unclaimed (hs : Sound (.of s)) (hk : s.Kept tx)
    (ht : s.transactions[tx]? = some t) (hc : t.closing = false) : t.isOpen = true := by
  rcases hs.phases tx with ⟨p, hp⟩
  cases running_of_kept hp ht hc hk
  have hfoot : s.footing? tx = some ⟨false, none⟩ := congrArg Account.footing? hp.account
  rw [Client.footing?, ht, Option.map_some, Option.some.injEq] at hfoot
  rw [Transaction.isOpen_iff_footing, hfoot]

end

end ClientTransaction.Nonblocking
