import ClientTransaction.Proofs.Nonblocking.Runs
import ClientTransaction.Proofs.Scenario.Growth

/-!
# Nonblocking.Acts — what a step does before replies come

A step first does something of its own, and then replies may be delivered. Of its own it does
something about at most one transaction: it begins it, claims it, or lets it go. Every other
transaction is left where it is. Who held it holds it still, it is changed only by those who hold
it, and nothing is sent for it but statements.
-/

namespace ClientTransaction.Nonblocking

open Client (Serves)

/-- The request is for a statement that its transaction accepts. -/
structure Accepted (s : Client) (r : Request) : Prop where
  kept : s.Kept r.owner
  accepts : s.transactions[r.owner]?.bind Transaction.refusal? = none
  decides : decides r = false
  statement : ∃ cursor, r.exchange = .statement cursor

/-- Nothing of consequence is done about the transaction. -/
structure Minds (tx : Nat) (s : Client) (σ : Situation) : Prop where
  untouched : Untouched tx s σ.client
  grows : s.Grows σ.client
  kept : tx < s.transactions.length → s.Kept tx → σ.client.Kept tx
  /-- A transaction that nobody holds is not changed at all. -/
  hidden : ¬ s.Kept tx → σ.client.transactions[tx]? = s.transactions[tx]?
  sent : ∃ new : List Request, σ.outstanding = s.connection.queue ++ new ∧
    ∀ r ∈ new, r.owner = tx → Accepted s r

/-- One who holds the transaction lets it go, as far as he is concerned. -/
structure LetsGo (tx : Nat) (s s₁ : Client) : Prop where
  kept : s.Kept tx
  untouched : Untouched tx s s₁
  connection : s₁.connection = s.connection
  history : s₁.history = s.history
  transaction : ∀ t : Transaction, s.transactions[tx]? = some t →
    ∃ holdings, s₁.transactions[tx]? = some { t with holdings := holdings }

/-- The situation after a transaction has been looked at that someone has let go. -/
def abandoned (rs : List Request) (s : Client) (tx : Nat) : Situation :=
  ⟨rs ++ (s.abandon rs tx).1.opening (s.abandon rs tx).2,
    (s.abandon rs tx).1.start (s.abandon rs tx).2⟩

/-- What a step does of its own about a transaction. -/
inductive Act (s : Client) : Nat → Situation → Prop
  | minds {tx : Nat} {σ : Situation} (h : Minds tx s σ) : Act s tx σ
  | begins (title : String) (reported : Bool) (params : Params) (name : Option String) :
      Act s s.transactions.length
        (begunAtOnce s.connection.queue s { title := title, reported := reported } params name)
  | beginsAwaited (title : String) (reported : Bool) (params : Params) (name : Option String) :
      Act s s.transactions.length
        (begunAwaited s.connection.queue s { title := title, reported := reported } params name)
  | claims {tx : Nat} {t : Transaction} (ht : s.transactions[tx]? = some t)
      (hc : t.closing = false) (hk : s.Kept tx) (name : Option String) (terminal : Terminal) :
      Act s tx (taken s.connection.queue s tx name (terminal.course t.state))
  | letsGo {tx : Nat} {s₁ : Client} (h : LetsGo tx s s₁) :
      Act s tx (abandoned s.connection.queue s₁ tx)

/-- One act leads from `s` to `s'`, and the replies that come after it. -/
def Acts (s s' : Client) : Prop :=
  ∃ σ : Situation, Moves (.of s) σ ∧ (∀ tx, Act s tx σ) ∧ Deliveries σ (.of s')

/-! ## Transactions that are left where they are -/

theorem mem_requests {s : Client} {tx : Nat} {exchange : Exchange} {statement : String}
    {onRun onPull : Handler} {r : Request}
    (hr : r ∈ s.requests tx exchange statement onRun onPull) :
    r.owner = tx ∧ r.exchange = exchange ∧ (r.handler = onRun ∨ r.handler = onPull) := by
  simp only [Client.requests, List.mem_cons, List.not_mem_nil, or_false] at hr
  rcases hr with rfl | rfl
  · exact ⟨rfl, rfl, Or.inl rfl⟩
  · exact ⟨rfl, rfl, Or.inr rfl⟩

/-- What follows from an abandoned transaction is sent for it. -/
theorem owner_of_abandon {rs : List Request} {s : Client} {tx : Nat} {r : Request}
    (hr : r ∈ (s.abandon rs tx).1.opening (s.abandon rs tx).2) : r.owner = tx := by
  rcases abandon_cases s rs tx with h | ⟨t, -, -, -, h | h⟩ <;> rw [h] at hr
  · simp [Client.opening] at hr
  · simp [Client.opening] at hr
  · exact (mem_requests hr).1

namespace Minds

section

variable {tx : Nat} {s s₁ s₂ : Client} {rs : List Request}

theorem of_still (hu : Untouched tx s s₁) (hg : s.Grows s₁)
    (ht : s₁.transactions[tx]? = s.transactions[tx]?)
    (hh : ∀ h ∈ s.handles, h.state = .resolved (.ok (.transaction tx)) → h ∈ s₁.handles)
    (hq : s₁.connection.queue = s.connection.queue) : Minds tx s (.of s₁) where
  untouched := hu
  grows := hg
  kept := by
    rintro - (⟨t, hplace, hheld⟩ | ⟨h, hmem, hyields⟩)
    · exact Or.inl ⟨t, ht.trans hplace, hheld⟩
    · exact Or.inr ⟨h, hh h hmem hyields, hyields⟩
  hidden := fun _ => ht
  sent := ⟨[], by simp [Situation.of, hq], by simp⟩

theorem refl (tx : Nat) (s : Client) : Minds tx s (.of s) :=
  of_still (.refl tx s) (.refl s) rfl (fun _ hmem _ => hmem) rfl

/-- Something is done on behalf of another transaction. -/
theorem serves {owner : Nat} {σ : Situation} (h : Minds tx s ⟨rs, s₁⟩) (hne : tx ≠ owner)
    (hu : Untouched tx s₁ σ.client) (hg : s₁.Grows σ.client) (hs : Serves owner s₁ σ.client)
    (hnew : ∃ new : List Request, σ.outstanding = rs ++ new ∧ ∀ r ∈ new, r.owner = owner) :
    Minds tx s σ where
  untouched := h.untouched.trans hu
  grows := h.grows.trans hg
  kept := by
    intro hlt hk
    exact hs.kept_other hne (h.kept hlt hk)
  hidden := by
    intro hk
    exact (hs.others tx hne).trans (h.hidden hk)
  sent := by
    rcases h.sent with ⟨before, heq, hall⟩
    rcases hnew with ⟨new, heq', hnew⟩
    refine ⟨before ++ new, by rw [heq', ← List.append_assoc, ← heq], ?_⟩
    intro r hr howner
    rcases List.mem_append.1 hr with hr | hr
    · exact hall r hr howner
    · exact absurd (howner.symm.trans (hnew r hr)) hne

/-- Someone who holds a transaction changes it. -/
theorem change {place : Nat} (hk : s.Kept place) {f : Transaction → Transaction}
    (hf : ∀ t : Transaction, (f t).footing = t.footing) (hg : ∀ t : Transaction, t.Grows (f t))
    (hh : ∀ t : Transaction, t.holdings ≠ [] → (f t).holdings ≠ []) :
    Minds tx s (.of (s.updateTransaction place f)) where
  untouched := .of_calm tx (.updateTransaction s place hf fun _ _ _ => hk)
  grows := s.grows_updateTransaction place hg
  kept := by
    rintro - (⟨t, ht, hheld⟩ | hyields)
    · by_cases hp : place = tx
      · exact Or.inl ⟨f t, by simp [Situation.of, hp, ht], hh t hheld⟩
      · exact Or.inl ⟨t, by simpa [Situation.of, hp] using ht, hheld⟩
    · exact Or.inr hyields
  hidden := by
    intro hnot
    have hp : place ≠ tx := fun hp => hnot (hp ▸ hk)
    simp [Situation.of, hp]
  sent := ⟨[], by simp [Situation.of], by simp⟩

/-- Another transaction has been let go, and is looked at. -/
theorem abandon {place : Nat} (h : Minds tx s ⟨rs, s₁⟩) (hne : tx ≠ place) :
    Minds tx s (abandoned rs s₁ place) :=
  h.serves hne (untouched_abandon hne s₁ rs).1
    ((s₁.grows_abandon rs place).trans (Client.grows_start _ _))
    ((Serves.abandon s₁ rs place).trans (.start _ _)) ⟨_, rfl, fun _ hr => owner_of_abandon hr⟩

end

end Minds

/-- A transaction that is left where it is stays in its phase. -/
theorem Minds.standing {tx : Nat} {s : Client} {σ : Situation} (h : Minds tx s σ) {p : Phase}
    (hp : Standing tx p (.of s)) : Standing tx p σ := by
  rcases h.sent with ⟨new, heq, hall⟩
  have hnew : due tx new = [] := by
    apply List.filterMap_eq_nil_iff.2
    intro r hr
    unfold role?
    rw [if_neg]
    rintro ⟨howner, hdecides⟩
    simp [(hall r hr howner).decides] at hdecides
  exact hp.untouched h.untouched (by rw [heq, due_append, hnew, List.append_nil])

theorem LetsGo.standing {tx : Nat} {s s₁ : Client} (h : LetsGo tx s s₁) {p : Phase}
    (hp : Standing tx p (.of s)) : Standing tx p (.of s₁) := by
  unfold Situation.of at hp ⊢
  rw [h.connection]
  exact hp.untouched h.untouched rfl

namespace Acts

variable {s s₁ s₂ : Client}

theorem leads (h : Acts s s₁) : Leads [] s s₁ := by
  rcases h with ⟨σ, hmoves, -, hdeliveries⟩
  exact hmoves.trans (Deliveries.moves hdeliveries)

end Acts

/-! ## Claims -/

section

variable (rs : List Request) (s : Client) (tx : Nat) (name : Option String) (course : Course)

theorem grows_taken : s.Grows (taken rs s tx name course).client := by
  have hclaimed : s.Grows (claimed s tx name) :=
    (s.grows_updateTransaction tx Transaction.grows_claim).trans (Client.grows_addHandle _ _)
  cases course with
  | finish result =>
      exact (hclaimed.trans (Client.grows_release _ tx)).trans (Client.grows_resolve _ _ _)
  | commit => exact hclaimed.trans (Client.grows_send _ _ _ _ _ _ _)
  | commitOrRollback => exact hclaimed.trans (Client.grows_send _ _ _ _ _ _ _)
  | rollback => exact hclaimed.trans (Client.grows_send _ _ _ _ _ _ _)

theorem serves_taken : Serves tx s (taken rs s tx name course).client := by
  have hclaimed : Serves tx s (claimed s tx name) :=
    (Serves.updateTransaction s tx _).trans (.addHandle _ _)
  cases course with
  | finish result => exact (hclaimed.trans (.release _ tx)).trans (.resolve _ _ _)
  | commit => exact hclaimed.trans (.send _ _ _ _ _ _ _)
  | commitOrRollback => exact hclaimed.trans (.send _ _ _ _ _ _ _)
  | rollback => exact hclaimed.trans (.send _ _ _ _ _ _ _)

/-- What a claim sends is sent for its transaction. -/
theorem outstanding_taken : ∃ new : List Request,
    (taken rs s tx name course).outstanding = rs ++ new ∧ ∀ r ∈ new, r.owner = tx := by
  cases course with
  | finish result => exact ⟨[], (List.append_nil rs).symm, by simp⟩
  | commit => exact ⟨_, rfl, fun _ hr => (mem_requests hr).1⟩
  | commitOrRollback => exact ⟨_, rfl, fun _ hr => (mem_requests hr).1⟩
  | rollback => exact ⟨_, rfl, fun _ hr => (mem_requests hr).1⟩

end

/-! ## Handles that yield transactions -/

section

variable {s : Client} {tx : Nat}

/-- A handle that yields another transaction is not touched. -/
theorem mem_setHandle {place : Nat} {h h' g : Handle Payload} (hh : s.handles[place]? = some h)
    (hne : h.state ≠ .resolved (.ok (.transaction tx))) (hmem : g ∈ s.handles)
    (hyields : g.state = .resolved (.ok (.transaction tx))) : g ∈ s.handles.set place h' := by
  rcases List.mem_iff_getElem?.1 hmem with ⟨other, hother⟩
  have hp : place ≠ other := by
    rintro rfl
    cases hh.symm.trans hother
    exact hne hyields
  exact List.mem_of_getElem? ((List.getElem?_set_ne hp).trans hother)

/-- A handle changes that yields no transaction, or another. -/
theorem Minds.setHandle {place : Nat} {h h' : Handle Payload} (hh : s.handles[place]? = some h)
    (ha : h.Ages h') (hg : h.Grows h') (hne : h.state ≠ .resolved (.ok (.transaction tx))) :
    Minds tx s (.of { s with handles := s.handles.set place h' }) :=
  .of_still (.of_calm tx (.setHandle s hh ha)) (s.grows_setHandle hh hg) rfl
    (fun _ hmem hyields => mem_setHandle hh hne hmem hyields) rfl

/-- A handle gives a transaction to whoever asks, and he holds it. -/
theorem Minds.adopt {place asked : Nat} {h h' : Handle Payload}
    (hh : s.handles[place]? = some h) (ha : h.Ages h') (hg : h.Grows h')
    (hyields : h.state = .resolved (.ok (.transaction asked))) :
    Minds tx s (.of (Nonblocking.adopt { s with handles := s.handles.set place h' }
      (some (.ok (.transaction asked))))) := by
  have hkept : s.Kept asked := Or.inr ⟨h, List.mem_of_getElem? hh, hyields⟩
  have hset := Client.Calm.setHandle s hh ha
  have hgrown := s.grows_setHandle hh hg
  unfold Nonblocking.adopt
  dsimp only
  cases ht : s.transactions[asked]? with
  | none =>
      -- There is no such transaction.
      refine ⟨.of_calm tx hset, hgrown, ?_, fun _ => rfl, [], by simp [Situation.of], by simp⟩
      intro hlt hk
      have hne : h.state ≠ .resolved (.ok (.transaction tx)) := by
        intro htx
        rw [hyields] at htx
        cases htx
        exact absurd (List.getElem?_eq_none_iff.1 ht) (Nat.not_le.2 hlt)
      exact (Minds.setHandle hh ha hg hne).kept hlt hk
  | some t =>
      have hhold : s.Calm (s.updateTransaction asked (Transaction.hold t.title true)) :=
        .hold hkept t.title true
      have hset' := Client.Calm.setHandle
        (s.updateTransaction asked (Transaction.hold t.title true)) hh ha
      have hserves := Serves.updateTransaction { s with handles := s.handles.set place h' } asked
        (Transaction.hold t.title true)
      refine ⟨(Untouched.of_calm tx hhold).trans (.of_calm tx hset'),
        hgrown.trans (Client.grows_updateTransaction _ asked (Transaction.grows_hold _ true)),
        ?_, ?_, [], by simp [Situation.of], by simp⟩
      · intro hlt hk
        by_cases hp : tx = asked
        · subst hp
          refine Or.inl ⟨t.hold t.title true, ?_, by simp [Transaction.hold]⟩
          simp [Situation.of, ht]
        · have hne : h.state ≠ .resolved (.ok (.transaction tx)) := by
            simpa [hyields] using Ne.symm hp
          exact hserves.kept_other hp ((Minds.setHandle hh ha hg hne).kept hlt hk)
      · intro hnot
        have hp : tx ≠ asked := by
          rintro rfl
          exact hnot hkept
        exact hserves.others tx hp

theorem leads_adopt {place asked : Nat} {h h' : Handle Payload}
    (hh : s.handles[place]? = some h) (ha : h.Ages h')
    (hyields : h.state = .resolved (.ok (.transaction asked))) :
    Leads [] s (adopt { s with handles := s.handles.set place h' }
      (some (.ok (.transaction asked)))) := by
  have hset : Leads [] s { s with handles := s.handles.set place h' } :=
    .calm [] (.setHandle s hh ha)
  unfold adopt
  dsimp only
  split
  · rename_i t _
    -- The transaction is held before the handle has given it away.
    have hkept : s.Kept asked := Or.inr ⟨h, List.mem_of_getElem? hh, hyields⟩
    have hhold : Leads [] s (s.updateTransaction asked (Transaction.hold t.title true)) :=
      .calm [] (.hold hkept t.title true)
    exact hhold.trans (.calm [] (.setHandle
      (s.updateTransaction asked (Transaction.hold t.title true)) hh ha))
  · exact hset

theorem queue_adopt (s : Client) (given : Option (Except Error Payload)) :
    (adopt s given).connection.queue = s.connection.queue := by
  unfold adopt
  split
  · split <;> rfl
  · rfl

/-- Whoever gets no transaction adopts none. -/
theorem adopt_eq_self {given : Option (Except Error Payload)}
    (h : ¬ ∃ tx, given = some (.ok (.transaction tx))) : adopt s given = s := by
  unfold adopt
  split
  · rename_i asked
    exact absurd ⟨asked, rfl⟩ h
  · rfl

end

end ClientTransaction.Nonblocking
