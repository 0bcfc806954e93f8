import ClientTransaction.Proofs.Nonblocking.Passages

/-!
# Nonblocking.Links — who gets an outcome

A handle gets its outcome from the request that feeds it, or from the cursor that it waits for. A
move sends outcomes to no handles but those that they were to get to before, or to a new one, so a
handle stays with the transaction for which it was made.
-/

namespace ClientTransaction

/-- Firing does not change who receives the outcome at last. -/
theorem Completion.target_started {α β φ σ : Type} (c : Completion β φ σ) (result : Except Error α)
    {secondary : σ} {rest : Completion β φ σ}
    (h : (c.fire result).2 = .started secondary rest) : rest.target = c.target := by
  induction c generalizing result with
  | sink target => simp [fire] at h
  | finalizer action done ih => exact ih result h
  | resume primary done ih => exact ih (.error primary) h
  | fallback other done ih =>
      cases result with
      | ok value => exact ih (.ok value) h
      | error primary =>
          simp only [fire, Stop.started.injEq] at h
          rw [← h.2]
          rfl

namespace Nonblocking

/-- Outcomes get to no handles but those that they were to get to before, or to a new one. -/
structure Linked (σ σ' : Situation) : Prop where
  size : σ.client.handles.length ≤ σ'.client.handles.length
  awaited : ∀ handle, σ'.client.Awaited handle → σ.client.Awaited handle ∨
    (handle = σ.client.handles.length ∧ handle < σ'.client.handles.length)
  fed : ∀ r ∈ σ'.outstanding, ∀ handle, feeds? r.handler = some handle →
    (∃ r₀ ∈ σ.outstanding, r₀.owner = r.owner ∧ feeds? r₀.handler = some handle) ∨
      (handle = σ.client.handles.length ∧ handle < σ'.client.handles.length)
  /-- Nobody is woken for a handle that was not there. -/
  silent : ∀ handle, σ.client.handles.length ≤ handle → ¬ σ.client.Awaited handle →
    Client.Silent handle σ.client σ'.client

section

variable {rs rs' : List Request} {s s' : Client}

theorem awaited_of_cursors (h : s'.cursors = s.cursors) {handle : Nat} (hw : s'.Awaited handle) :
    s.Awaited handle := by
  unfold Client.Awaited at hw ⊢
  rwa [h] at hw

/-- No handle is made, and no completion is sent. -/
theorem linked_of_same (hsize : s'.handles.length = s.handles.length)
    (haw : ∀ handle, s'.Awaited handle → s.Awaited handle)
    (hfed : ∀ r ∈ rs', ∀ handle, feeds? r.handler = some handle →
      ∃ r₀ ∈ rs, r₀.owner = r.owner ∧ feeds? r₀.handler = some handle)
    (hsilent : ∀ handle, s.handles.length ≤ handle → ¬ s.Awaited handle →
      Client.Silent handle s s') :
    Linked ⟨rs, s⟩ ⟨rs', s'⟩ :=
  ⟨Nat.le_of_eq hsize.symm, fun handle h => Or.inl (haw handle h),
    fun r hr handle h => Or.inl (hfed r hr handle h), hsilent⟩

theorem fed_self {r : Request} {handle : Nat} (hr : r ∈ rs) (h : feeds? r.handler = some handle) :
    ∃ r₀ ∈ rs, r₀.owner = r.owner ∧ feeds? r₀.handler = some handle :=
  ⟨r, hr, rfl, h⟩

/-- A handle is made, and the requests that are sent feed no other. -/
theorem linked_of_new {h : Handle Payload} (hh : s'.handles = s.handles ++ [h])
    (haw : ∀ handle, s'.Awaited handle → s.Awaited handle ∨ handle = s.handles.length)
    (hsilent : ∀ handle, Client.Silent handle s s') (new : List Request)
    (hfed : ∀ r ∈ new, ∀ handle, feeds? r.handler = some handle → handle = s.handles.length) :
    Linked ⟨rs, s⟩ ⟨rs ++ new, s'⟩ := by
  have hlt : s.handles.length < s'.handles.length := by simp [hh]
  refine ⟨Nat.le_of_lt hlt, ?_, ?_, fun handle _ _ => hsilent handle⟩
  · intro handle hw
    rcases haw handle hw with hw | rfl
    · exact Or.inl hw
    · exact Or.inr ⟨rfl, hlt⟩
  · intro r hr handle hf
    rcases List.mem_append.1 hr with hr | hr
    · exact Or.inl (fed_self hr hf)
    · have heq := hfed r hr handle hf
      exact Or.inr ⟨heq, heq ▸ hlt⟩

theorem linked_of_handle {h : Handle Payload} (hh : s'.handles = s.handles ++ [h])
    (haw : ∀ handle, s'.Awaited handle → s.Awaited handle ∨ handle = s.handles.length)
    (hsilent : ∀ handle, Client.Silent handle s s') : Linked ⟨rs, s⟩ ⟨rs, s'⟩ := by
  have hnew : Linked ⟨rs, s⟩ ⟨rs ++ [], s'⟩ := linked_of_new hh haw hsilent [] (by simp)
  rwa [List.append_nil] at hnew

theorem feeds?_requests {tx : Nat} {exchange : Exchange} {statement : String}
    {onRun onPull : Handler} (hrun : feeds? onRun = none) {r : Request}
    (hr : r ∈ s.requests tx exchange statement onRun onPull) {handle : Nat}
    (hf : feeds? r.handler = some handle) : r.owner = tx ∧ feeds? onPull = some handle := by
  simp only [Client.requests, List.mem_cons, List.not_mem_nil, or_false] at hr
  rcases hr with rfl | rfl
  · simp [hrun] at hf
  · exact ⟨rfl, hf⟩

/-- Firing a chain passes the outcome on to the listener that the chain had. -/
theorem fire_rollback (s : Client) (tx : Nat) (done : TerminalChain) (result : Except Error Unit)
    {rb : Rollback} (h : (s.fire tx done result).2 = some rb) :
    rb.tx = tx ∧ rb.done.target = done.target := by
  have htarget : ∀ secondary rest, (done.fire result).2 = .started secondary rest →
      rest.target = done.target := fun _ _ => done.target_started result
  unfold Client.fire at h
  generalize done.fire result = fired at h htarget
  rcases fired with ⟨actions, stop⟩
  cases stop with
  | settled target result => cases target <;> simp at h
  | started secondary rest =>
      cases secondary
      simp only [Option.some.injEq] at h
      subst h
      exact ⟨rfl, htarget _ _ rfl⟩

/-- An abandoned transaction has no listener, so its rollback feeds no handle. -/
theorem abandon_rollback (s : Client) (others : List Request) (tx : Nat) {rb : Rollback}
    (h : (s.abandon others tx).2 = some rb) :
    rb.tx = tx ∧ feeds? (.rolledBack rb.done) = none := by
  rcases abandon_cases s others tx with hn | ⟨t, -, -, -, hn | hn⟩ <;> rw [hn] at h
  · simp at h
  · simp at h
  · simp only [Option.some.injEq] at h
    subst h
    exact ⟨rfl, rfl⟩

/-- What follows from an answer is for its transaction, and for the one who was to get the outcome
before. -/
theorem answer_rollback (s : Client) (others : List Request) {r : Request} {rb : Rollback}
    (h : (s.answer others r).2 = some rb) :
    rb.tx = r.owner ∧ ∀ handle, feeds? (.rolledBack rb.done) = some handle →
      feeds? r.handler = some handle := by
  -- Only a request with a completion is followed by anything.
  have hown : r.handler.ownsCompletion = true := by
    cases hown : r.handler.ownsCompletion with
    | true => rfl
    | false => simp [(s.calm_answer others hown).2] at h
  rcases r with ⟨owner, exchange, part, handler, ⟨records, outcome⟩⟩
  cases handler with
  | committed done =>
      have hfired : rb.tx = owner ∧ rb.done.target = done.target := by
        cases outcome <;> exact fire_rollback _ _ _ _ h
      exact ⟨hfired.1, fun handle hf => by simpa [feeds?, hfired.2] using hf⟩
  | rolledBack done =>
      have hfired : rb.tx = owner ∧ rb.done.target = done.target := by
        cases outcome <;> exact fire_rollback _ _ _ _ h
      exact ⟨hfired.1, fun handle hf => by simpa [feeds?, hfired.2] using hf⟩
  | begun place =>
      cases outcome with
      | success metadata =>
          rcases abandon_rollback _ others owner h with ⟨htx, hnone⟩
          exact ⟨htx, fun handle hf => by simp [hnone] at hf⟩
      | failure e => simp [Client.answer] at h
      | dropped => simp [Client.answer] at h
  | _ => simp [Handler.ownsCompletion] at hown

theorem linked_answer {before after : List Request} {r : Request} (reply : Reply)
    (others : List Request) :
    Linked ⟨before ++ r :: after, s⟩
      (answered before after s others { r with reply := reply }) := by
  have hclient : (s.answer others { r with reply := reply }).1.handles.length =
      s.handles.length ∧ ∀ handle, (s.answer others { r with reply := reply }).1.Awaited handle →
      s.Awaited handle := by
    cases hown : r.handler.ownsCompletion with
    | false =>
        have hcalm := (s.calm_answer others (r := { r with reply := reply }) hown).1
        exact ⟨hcalm.size, hcalm.awaited⟩
    | true =>
        have hframe := Frame.answer s others (r := { r with reply := reply }) hown
        exact ⟨hframe.size, fun _ => awaited_of_cursors hframe.cursors⟩
  have hsilent : ∀ handle, s.handles.length ≤ handle → ¬ s.Awaited handle →
      Client.Silent handle s (s.answer others { r with reply := reply }).1 := by
    intro handle hle hw
    cases hown : r.handler.ownsCompletion with
    | false =>
        have hcalm := (s.calm_answer others (r := { r with reply := reply }) hown).1
        exact (Client.Silent.record s rfl).trans (.of_calm hcalm hw)
    | true => exact (Frame.answer s others (r := { r with reply := reply }) hown).silent handle hle
  refine linked_of_same ?_ ?_ ?_ fun handle hle hw => (hsilent handle hle hw).trans (.start _ _)
  · rw [handles_start]
    exact hclient.1
  · intro handle hw
    refine hclient.2 handle (awaited_of_cursors ?_ hw)
    cases (s.answer others { r with reply := reply }).2 <;> rfl
  · intro q hq handle hf
    rcases List.mem_append.1 hq with hq | hq
    · refine fed_self ?_ hf
      rcases List.mem_append.1 hq with hq | hq
      · exact List.mem_append_left _ hq
      · exact List.mem_append_right _ (List.mem_cons_of_mem _ hq)
    · -- A request that is sent now passes on what the answered one was to give.
      cases hrb : (s.answer others { r with reply := reply }).2 with
      | none => simp [hrb, Client.opening] at hq
      | some rb =>
          rw [hrb] at hq
          rcases feeds?_requests rfl hq hf with ⟨howner, hfeeds⟩
          rcases answer_rollback s others hrb with ⟨htx, hfed⟩
          exact ⟨r, List.mem_append_right _ (List.mem_cons_self ..), (howner.trans htx).symm,
            hfed handle hfeeds⟩

theorem linked_taken (tx : Nat) (name : Option String) (course : Course) :
    Linked ⟨rs, s⟩ (taken rs s tx name course) := by
  have hclaimed : ∀ handle, Client.Silent handle s (claimed s tx name) :=
    fun _ => .of_history rfl
  have hsent : ∀ (exchange : Exchange) (statement : String) {handler : Handler},
      feeds? handler = some s.handles.length →
      Linked ⟨rs, s⟩ (sent rs (claimed s tx name) tx exchange statement handler) := by
    intro exchange statement handler hfeeds
    refine linked_of_new (h := .fresh name) ?_ ?_ ?_ _ ?_
    · rfl
    · exact fun _ => Or.inl
    · intro handle
      exact (hclaimed handle).trans (.send _ _ _ _ _ _ _)
    · intro r hr handle hf
      have hsome := (feeds?_requests rfl hr hf).2
      rw [hfeeds] at hsome
      exact (Option.some.inj hsome).symm
  cases course with
  | finish result =>
      have hframe := Frame.resolve ((claimed s tx name).release tx) s.handles.length
        (result.map fun _ => Payload.unit)
      have hsize : (claimed s tx name).handles.length = s.handles.length + 1 := by simp [claimed]
      have hfresh : ((claimed s tx name).release tx).handles[s.handles.length]? =
          some (.fresh name) := by
        simp [claimed]
      refine ⟨?_, ?_, ?_, ?_⟩
      · exact Nat.le_of_lt (Nat.lt_of_lt_of_eq (Nat.lt_succ_self _) (hframe.size.trans hsize).symm)
      · intro handle hw
        exact Or.inl (awaited_of_cursors hframe.cursors hw)
      · intro r hr handle hf
        exact Or.inl (fed_self hr hf)
      · -- The handle is resolved before anyone can wait for it.
        intro handle _ _
        exact ((hclaimed handle).trans (.release _ tx)).trans (.resolve_fresh _ hfresh _)
  | commit => exact hsent _ _ rfl
  | commitOrRollback => exact hsent _ _ rfl
  | rollback => exact hsent _ _ rfl

theorem linked_abandon (tx : Nat) :
    Linked ⟨rs, s⟩ ⟨rs ++ (s.abandon rs tx).1.opening (s.abandon rs tx).2,
      (s.abandon rs tx).1.start (s.abandon rs tx).2⟩ := by
  have hframe := Frame.abandon s rs tx
  refine linked_of_same ?_ ?_ ?_ fun _ _ _ => (Client.Silent.abandon s rs tx).trans (.start _ _)
  · rw [handles_start]
    exact hframe.size
  · intro handle hw
    refine awaited_of_cursors hframe.cursors (awaited_of_cursors ?_ hw)
    cases (s.abandon rs tx).2 <;> rfl
  · intro q hq handle hf
    rcases List.mem_append.1 hq with hq | hq
    · exact fed_self hq hf
    · -- A transaction that nobody holds is rolled back for nobody.
      rcases abandon_cases s rs tx with h | ⟨t, -, -, -, h | h⟩ <;> rw [h] at hq
      · simp [Client.opening] at hq
      · simp [Client.opening] at hq
      · have hnobody := (feeds?_requests rfl hq hf).2
        simp [feeds?, ending, Completion.target] at hnobody

end

theorem linked_move {σ σ' : Situation} (h : Move σ σ') : Linked σ σ' := by
  cases h with
  | calm h =>
      exact linked_of_same h.size h.awaited (fun _ hr _ hf => fed_self hr hf)
        fun _ _ hw => .of_calm h hw
  | connect f =>
      exact linked_of_same rfl (fun _ => id) (fun _ hr _ hf => fed_self hr hf)
        fun _ _ _ => .of_history rfl
  | flush tx =>
      exact linked_of_same rfl (fun _ => id) (fun _ hr _ hf => fed_self hr hf)
        fun _ _ _ => .record _ rfl
  | send tx cursor statement params =>
      refine linked_of_same rfl (fun _ => id) ?_ fun _ _ _ => .send _ _ _ _ _ _ _
      intro r hr handle hf
      rcases List.mem_append.1 hr with hr | hr
      · exact fed_self hr hf
      · have hnone := (feeds?_requests rfl hr hf).2
        simp [feeds?] at hnone
  | @await rs s cursor name =>
      refine linked_of_handle (h := .fresh name) rfl ?_ fun _ => .of_history rfl
      rintro handle ⟨c', hc', hw⟩
      rcases List.mem_iff_getElem?.1 hc' with ⟨place, hplace⟩
      -- The new handle is the only one that was not waited for before.
      simp only [Client.frame_addHandle, Client.frame_updateCursor, List.getElem?_modify,
        Option.map_eq_map, Option.map_eq_some_iff] at hplace
      rcases hplace with ⟨c, hc, rfl⟩
      split at hw
      · rcases List.mem_append.1 hw with hw | hw
        · exact Or.inl ⟨c, List.mem_of_getElem? hc, hw⟩
        · exact Or.inr (List.mem_singleton.1 hw)
      · exact Or.inl ⟨c, List.mem_of_getElem? hc, hw⟩
  | @answered rs s name result hr =>
      exact linked_of_handle (h := .ready name result) rfl (fun _ => Or.inl)
        fun _ => .of_history rfl
  | @begin rs s t ht params name =>
      refine linked_of_new (h := .ready name (.ok (.transaction s.transactions.length))) ?_ ?_ ?_
        _ ?_
      · rfl
      · exact fun _ => Or.inl
      · exact fun _ => ((Client.Silent.of_history rfl).trans
          (.send (s.addTransaction t) _ _ _ _ _ .ignore)).trans (.of_history rfl)
      · intro r hr handle hf
        have hnone := (feeds?_requests rfl hr hf).2
        simp [feeds?] at hnone
  | @beginAwaited rs s t ht params name =>
      refine linked_of_new (h := .fresh name) ?_ ?_ ?_ _ ?_
      · rfl
      · exact fun _ => Or.inl
      · exact fun _ => (Client.Silent.of_history rfl).trans
          (.send ((s.addTransaction t).addHandle (.fresh name)) _ _ _ _ _ _)
      · intro r hr handle hf
        exact (Option.some.inj (feeds?_requests rfl hr hf).2).symm
  | claim ht hc hk name terminal => exact linked_taken _ name _
  | answer before after r reply others => exact linked_answer reply others
  | abandon tx => exact linked_abandon tx

/-- A handle stays with its transaction. -/
theorem Owned.linked {tx handle : Nat} {σ σ' : Situation} (h : Owned tx handle σ)
    (hl : Linked σ σ') : Owned tx handle σ' where
  lt := Nat.lt_of_lt_of_le h.lt hl.size
  awaited := by
    intro hw
    rcases hl.awaited handle hw with hw | ⟨heq, -⟩
    · exact h.awaited hw
    · exact absurd h.lt (heq ▸ Nat.lt_irrefl _)
  fed := by
    intro r hr hf
    rcases hl.fed r hr handle hf with ⟨r₀, hr₀, howner, hf₀⟩ | ⟨heq, -⟩
    · exact howner ▸ h.fed r₀ hr₀ hf₀
    · exact absurd h.lt (heq ▸ Nat.lt_irrefl _)

end Nonblocking

end ClientTransaction
