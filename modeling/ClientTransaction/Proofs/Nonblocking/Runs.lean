import ClientTransaction.Proofs.Nonblocking.Links

/-!
# Nonblocking.Runs — what holds after every run

Every transaction is in a phase, and every handle that is to get an outcome, or for which someone
was woken, has been made. This holds of a client that has done nothing, and every move keeps it: it
takes each transaction along a passage.
-/

namespace ClientTransaction.Nonblocking

/-- What a move means to a transaction and to the handles that wait for it. -/
structure Turned (tx : Nat) (effect : Option (Nat × Except Error Payload)) (p p' : Phase)
    (σ σ' : Situation) : Prop where
  passage : Passage tx p effect p'
  standing : Standing tx p' σ'
  handled : ∀ handle, Owned tx handle σ →
    Handled tx (effectOn handle effect) handle σ.client σ'.client

section

variable {tx : Nat} {p : Phase} {rs rs' : List Request} {s s' : Client}

theorem handled_of_append {new : List (Handle Payload)} (h : s'.handles = s.handles ++ new)
    {handle : Nat} (hlt : handle < s.handles.length) (hs : Client.Silent handle s s') :
    Handled tx none handle s s' :=
  handled_none_of_eq (by rw [h, List.getElem?_append_left hlt]) hs

theorem handled_of_calm (h : s.Calm s') {handle : Nat} (hw : ¬ s.Awaited handle) :
    Handled tx none handle s s' :=
  ⟨fun hd hhd => h.handles handle hd hw hhd, fun _ => .of_calm h hw, by simp⟩

/-- A move that does not concern the transaction. -/
theorem turned_stay (hp : Standing tx p ⟨rs, s⟩) (hu : Untouched tx s s')
    (hd : due tx rs' = due tx rs)
    (hh : ∀ handle, Owned tx handle ⟨rs, s⟩ → Handled tx none handle s s') :
    Turned tx none p p ⟨rs, s⟩ ⟨rs', s'⟩ :=
  ⟨.stay p, hp.untouched hu hd, hh⟩

/-- Requests that decide about another transaction, or about none. -/
theorem due_append_requests {place : Nat} {exchange : Exchange} {statement : String}
    {onRun onPull : Handler} (hrun : onRun.ownsCompletion = false)
    (h : place ≠ tx ∨ (onPull.ownsCompletion = false ∧ exchange ≠ .commit ∧ exchange ≠ .rollback)) :
    due tx (rs ++ s.requests place exchange statement onRun onPull) = due tx rs := by
  rw [due_append, due_requests s tx place exchange statement hrun onPull, if_neg]
  · simp
  · rintro ⟨hp, hdec⟩
    rcases h with h | ⟨hpull, hcommit, hrollback⟩
    · exact h hp
    · simp [hpull, hcommit, hrollback] at hdec

/-! ## Beginning -/

theorem footing?_length (s : Client) : s.footing? s.transactions.length = none := by
  simp [Client.footing?]

theorem unborn_of_length (hp : Standing s.transactions.length p ⟨rs, s⟩) : p = .unborn := by
  have hfoot : s.footing? s.transactions.length = p.account.footing? :=
    congrArg Account.footing? hp.account
  rw [footing?_length] at hfoot
  cases p with
  | unborn => rfl
  | _ => simp [Phase.account] at hfoot

/-- Only what is due depends on the outstanding requests. -/
theorem account_outstanding (rs rs' : List Request) (s : Client) (tx : Nat) :
    Situation.account ⟨rs', s⟩ tx = { Situation.account ⟨rs, s⟩ tx with due := due tx rs' } :=
  rfl

/-- A new transaction has done nothing, whatever is sent for it. -/
theorem account_addTransaction (rs : List Request) (s : Client) {t : Transaction} (ht : t.isFresh) :
    Situation.account ⟨rs, s.addTransaction t⟩ s.transactions.length =
      { Situation.account ⟨rs, s⟩ s.transactions.length with footing? := some ⟨false, none⟩ } := by
  have hfoot : (s.addTransaction t).footing? s.transactions.length = some ⟨false, none⟩ := by
    simp [Client.footing?, Client.addTransaction, ht.1]
  simp [Situation.account, hfoot, Client.endings, Client.terminalExchanges, Client.answers]

theorem kept_addTransaction {t : Transaction} (ht : t.isFresh)
    (h : (s.addTransaction t).Kept s.transactions.length) : s.Kept s.transactions.length := by
  rcases h with ⟨t', ht', hheld⟩ | hyields
  · have heq : t = t' := by simpa [Client.addTransaction] using ht'
    exact absurd ht.2 (heq ▸ hheld)
  · exact Or.inr hyields

theorem due_begunAtOnce (rs : List Request) (s : Client) (t : Transaction) (params : Params)
    (name : Option String) (tx : Nat) :
    due tx (begunAtOnce rs s t params name).outstanding = due tx rs :=
  due_append_requests rfl (Or.inr ⟨rfl, by simp, by simp⟩)

theorem standing_begunAtOnce {t : Transaction} (ht : t.isFresh) (params : Params)
    (name : Option String) (hp : Standing s.transactions.length p ⟨rs, s⟩) :
    Standing s.transactions.length .running (begunAtOnce rs s t params name) := by
  cases unborn_of_length hp
  have hsend : Untouched s.transactions.length (s.addTransaction t)
      ((s.addTransaction t).send s.transactions.length .begin Message.begin params .ignore
        .ignore) :=
    .send _ (fun _ => by simp) _ _ _ _
  have hsame := account_eq hsend (due_begunAtOnce rs s t params name _)
  refine ⟨?_, fun h => by simp [Phase.isHidden] at h⟩
  calc
    (begunAtOnce rs s t params name).account s.transactions.length
        = Situation.account ⟨rs, s.addTransaction t⟩ s.transactions.length := hsame
    _ = Phase.running.account := by
          rw [account_addTransaction rs s ht, hp.account]
          rfl

theorem untouched_begunAtOnce (hp : tx ≠ s.transactions.length) (rs : List Request)
    (t : Transaction) (params : Params) (name : Option String) :
    Untouched tx s (begunAtOnce rs s t params name).client := by
  have hne : (Handle.ready name (.ok (.transaction s.transactions.length)) :
      Handle Payload).state ≠ .resolved (.ok (.transaction tx)) := by
    simpa [Handle.ready] using Ne.symm hp
  exact ((Untouched.addTransaction s t (Ne.symm hp)).trans
    (.send _ (fun _ => by simp) _ _ _ _)).trans (.addHandle _ hne)

theorem turned_begunAtOnce {t : Transaction} (ht : t.isFresh) (params : Params)
    (name : Option String) (hp : Standing tx p ⟨rs, s⟩) :
    ∃ effect p', Turned tx effect p p' ⟨rs, s⟩ (begunAtOnce rs s t params name) := by
  have hh : ∀ handle, Owned tx handle ⟨rs, s⟩ →
      Handled tx none handle s (begunAtOnce rs s t params name).client :=
    fun handle ho => handled_of_append rfl ho.lt
      (((Client.Silent.of_history rfl).trans (.send (s.addTransaction t) _ _ _ _ _ .ignore)).trans
        (.of_history rfl))
  -- The new transaction is born, and every other stays where it is.
  by_cases htx : s.transactions.length = tx
  · subst htx
    have hstanding := standing_begunAtOnce ht params name hp
    cases unborn_of_length hp
    exact ⟨none, .running, .born, hstanding, hh⟩
  · have hu := untouched_begunAtOnce (Ne.symm htx) rs t params name
    exact ⟨none, p, turned_stay hp hu (due_begunAtOnce rs s t params name tx) hh⟩

theorem untouched_begunAwaited (rs : List Request) (s : Client) (t : Transaction)
    (params : Params) (name : Option String) (tx : Nat) :
    Untouched tx (s.addTransaction t) (begunAwaited rs s t params name).client :=
  (Untouched.addHandle _ (by simp [Handle.fresh])).trans (.send _ (fun _ => by simp) _ _ _ _)

theorem standing_begunAwaited {t : Transaction} (ht : t.isFresh) (params : Params)
    (name : Option String) (hp : Standing s.transactions.length p ⟨rs, s⟩) :
    Standing s.transactions.length (.starting s.handles.length)
      (begunAwaited rs s t params name) := by
  cases unborn_of_length hp
  have hu := untouched_begunAwaited rs s t params name s.transactions.length
  have hdue : due s.transactions.length (begunAwaited rs s t params name).outstanding =
      [(.begin, .pullAll, .begun s.handles.length)] := by
    have hnone : due s.transactions.length rs = [] := congrArg Account.due hp.account
    unfold begunAwaited
    rw [due_append, hnone, due_requests _ _ _ _ _ rfl]
    simp [Handler.ownsCompletion]
  refine ⟨?_, fun _ hk => hp.hidden rfl (kept_addTransaction ht (hu.kept hk))⟩
  calc
    (begunAwaited rs s t params name).account s.transactions.length
        = { Situation.account ⟨rs, (begunAwaited rs s t params name).client⟩
              s.transactions.length with
            due := due s.transactions.length (begunAwaited rs s t params name).outstanding } :=
          account_outstanding rs _ _ _
    _ = { Situation.account ⟨rs, s.addTransaction t⟩ s.transactions.length with
          due := [(.begin, .pullAll, .begun s.handles.length)] } := by
          rw [account_eq hu rfl, hdue]
    _ = (Phase.starting s.handles.length).account := by
          rw [account_addTransaction rs s ht, hp.account]
          rfl

theorem turned_begunAwaited {t : Transaction} (ht : t.isFresh) (params : Params)
    (name : Option String) (hp : Standing tx p ⟨rs, s⟩) :
    ∃ effect p', Turned tx effect p p' ⟨rs, s⟩ (begunAwaited rs s t params name) := by
  have hh : ∀ handle, Owned tx handle ⟨rs, s⟩ →
      Handled tx none handle s (begunAwaited rs s t params name).client :=
    fun handle ho => handled_of_append rfl ho.lt
      ((Client.Silent.of_history rfl).trans
        (.send ((s.addTransaction t).addHandle (.fresh name)) _ _ _ _ _ _))
  by_cases htx : s.transactions.length = tx
  · subst htx
    have hstanding := standing_begunAwaited ht params name hp
    cases unborn_of_length hp
    exact ⟨none, _, .starts _, hstanding, hh⟩
  · exact ⟨none, p, turned_stay hp ((Untouched.addTransaction s t htx).trans
      (untouched_begunAwaited rs s t params name tx)) (due_append_requests rfl (Or.inl htx)) hh⟩

/-! ## Claims -/

/-- A transaction that the application has, and that nobody has claimed, is running. -/
theorem running_of_kept (hp : Standing tx p ⟨rs, s⟩) {t : Transaction}
    (ht : s.transactions[tx]? = some t) (hc : t.closing = false) (hk : s.Kept tx) :
    p = .running := by
  have hfoot : some t.footing = p.account.footing? := by
    have hplace : s.footing? tx = p.account.footing? := congrArg Account.footing? hp.account
    rw [← hplace, Client.footing?, ht]
    rfl
  have hclaimed : t.footing.claimed = false := hc
  have hhidden : p.isHidden ≠ true := fun hh => hp.hidden hh hk
  -- Nobody has a hidden transaction, and in all later phases there is a claim.
  cases p with
  | running => rfl
  | unborn => simp [Phase.isHidden] at hhidden
  | starting handle => simp [Phase.isHidden] at hhidden
  | _ =>
      rw [Option.some.inj hfoot] at hclaimed
      simp at hclaimed

theorem untouched_claimed (s : Client) {place : Nat} (hp : place ≠ tx) (name : Option String) :
    Untouched tx s (claimed s place name) :=
  (Untouched.updateTransaction s hp _).trans (.addHandle _ (by simp [Handle.fresh]))

theorem account_claimed (ha : Situation.account ⟨rs, s⟩ tx = Phase.running.account)
    (name : Option String) :
    Situation.account ⟨rs, claimed s tx name⟩ tx =
      { Phase.running.account with footing? := some ⟨true, none⟩ } := by
  have hfoot : s.footing? tx = some ⟨false, none⟩ := congrArg Account.footing? ha
  rcases Option.map_eq_some_iff.1 hfoot with ⟨t, ht, hft⟩
  have hclaim : Situation.account ⟨rs, claimed s tx name⟩ tx =
      Situation.account ⟨rs, s.updateTransaction tx Transaction.claim⟩ tx := rfl
  rw [hclaim, account_updateTransaction, ht, Option.map_some, Transaction.footing_claim, hft, ha]

/-- A claim leads to the phase of its course. -/
theorem standing_taken (hp : Standing tx .running ⟨rs, s⟩) (name : Option String)
    (course : Course) :
    Standing tx (course.phase (.handle s.handles.length)) (taken rs s tx name course) := by
  have hclaimed := account_claimed hp.account name
  have hdue : due tx rs = [] := congrArg Account.due hp.account
  have hnone : (claimed s tx name).terminalExchanges tx = [] :=
    congrArg Account.exchanges hclaimed
  -- What is sent is due, and nothing else is.
  have hsent : ∀ {exchange : Exchange} (statement : String) (handler : Handler),
      exchange = .commit ∨ exchange = .rollback →
      Situation.account (sent rs (claimed s tx name) tx exchange statement handler) tx =
        { Phase.running.account with
          footing? := some ⟨true, none⟩
          due := [(exchange, .pullAll, handler)]
          exchanges := [exchange] } := by
    intro exchange statement handler he
    unfold sent
    rw [account_send _ _ _ he, hclaimed, hdue, hnone]
    rfl
  cases course with
  | finish result =>
      have hclaim : ∀ t : Transaction, t.footing = ⟨false, none⟩ →
          t.claim.footing = ⟨true, none⟩ := by
        intro t ht
        rw [Transaction.footing_claim, ht]
      exact standing_conclude (s := s.addHandle (.fresh name))
        (c := .finished result (.handle s.handles.length)) hp.account hclaim rfl result
        (.handle s.handles.length)
  | commit => exact ⟨hsent _ _ (Or.inl rfl), fun h => by simp [Course.phase, Phase.isHidden] at h⟩
  | commitOrRollback =>
      exact ⟨hsent _ _ (Or.inl rfl), fun h => by simp [Course.phase, Phase.isHidden] at h⟩
  | rollback =>
      exact ⟨hsent _ _ (Or.inr rfl), fun h => by simp [Course.phase, Phase.isHidden] at h⟩

/-- The handle of a claim is new, so no handle from before is touched. -/
theorem handled_taken (place : Nat) (name : Option String) (course : Course) {handle : Nat}
    (hlt : handle < s.handles.length) :
    Handled tx none handle s (taken rs s place name course).client := by
  have hclaimed : Client.Silent handle s (claimed s place name) := .of_history rfl
  cases course with
  | finish result =>
      have htell := handled_tell tx ((claimed s place name).release place) result
        (.handle s.handles.length) handle
      have hnone : effectOn handle (told result (.handle s.handles.length)) = none := by
        simp [effectOn, told, Nat.ne_of_gt hlt]
      rw [hnone] at htell
      exact htell.after (List.getElem?_append_left hlt) (hclaimed.trans (.release _ place))
  | commit => exact handled_of_append rfl hlt (hclaimed.trans (.send _ _ _ _ _ _ _))
  | commitOrRollback => exact handled_of_append rfl hlt (hclaimed.trans (.send _ _ _ _ _ _ _))
  | rollback => exact handled_of_append rfl hlt (hclaimed.trans (.send _ _ _ _ _ _ _))

theorem untouched_taken {place : Nat} (hp : place ≠ tx) (name : Option String)
    (course : Course) :
    Untouched tx s (taken rs s place name course).client ∧
      due tx (taken rs s place name course).outstanding = due tx rs := by
  have hclaimed := untouched_claimed s hp name
  have hsent : ∀ (exchange : Exchange) (statement : String) (handler : Handler),
      Untouched tx s (sent rs (claimed s place name) place exchange statement handler).client ∧
        due tx (sent rs (claimed s place name) place exchange statement handler).outstanding =
          due tx rs := by
    intro exchange statement handler
    exact ⟨hclaimed.trans (.send _ (fun h => absurd h hp) _ _ _ _),
      due_append_requests rfl (Or.inl hp)⟩
  cases course with
  | finish result =>
      exact ⟨(hclaimed.trans (.release _ hp)).trans (untouched_tell tx
        ((claimed s place name).release place) result (.handle s.handles.length)), rfl⟩
  | commit => exact hsent _ _ _
  | commitOrRollback => exact hsent _ _ _
  | rollback => exact hsent _ _ _

theorem turned_taken {place : Nat} {t : Transaction} (ht : s.transactions[place]? = some t)
    (hc : t.closing = false) (hk : s.Kept place) (name : Option String) (course : Course)
    (hp : Standing tx p ⟨rs, s⟩) :
    ∃ effect p', Turned tx effect p p' ⟨rs, s⟩ (taken rs s place name course) := by
  have hh : ∀ handle, Owned tx handle ⟨rs, s⟩ →
      Handled tx none handle s (taken rs s place name course).client :=
    fun handle ho => handled_taken place name course ho.lt
  by_cases htx : place = tx
  · subst htx
    cases running_of_kept hp ht hc hk
    exact ⟨none, _, .claimed course (.handle s.handles.length), standing_taken hp name course, hh⟩
  · rcases untouched_taken htx name course with ⟨hu, hdue⟩
    exact ⟨none, p, turned_stay hp hu hdue hh⟩

/-! ## Answers -/

/-- What one transaction resolves is no handle of another. -/
theorem Carried.effectOn_eq_none {place : Nat} {effect : Option (Nat × Except Error Payload)}
    {q q' : Phase} {σ σ' : Situation} (h : Carried place effect q q' σ σ') {handle : Nat}
    (ho : Owned tx handle σ) (hp : place ≠ tx) : effectOn handle effect = none := by
  cases effect with
  | none => rfl
  | some told =>
      rcases told with ⟨target, result⟩
      by_cases ht : target = handle
      · rcases h.fed target result rfl with ⟨r, hr, howner, hfeeds⟩
        exact absurd (howner.symm.trans (ho.fed r hr (ht ▸ hfeeds))) hp
      · simp [effectOn, ht]

/-- An answer that decides nothing about the transaction leaves it where it is. -/
theorem untouched_answer {before after : List Request} {r : Request} (reply : Reply)
    (others : List Request) (hall : ∀ tx, ∃ p, Standing tx p ⟨before ++ r :: after, s⟩)
    (h : ¬ (r.owner = tx ∧ decides r = true)) :
    Untouched tx s (answered before after s others { r with reply := reply }).client ∧
      due tx (answered before after s others { r with reply := reply }).outstanding =
        due tx (before ++ r :: after) ∧
      ∀ handle, Owned tx handle ⟨before ++ r :: after, s⟩ →
        Handled tx none handle s
          (answered before after s others { r with reply := reply }).client := by
  cases hd : decides r with
  | true =>
      have htx : r.owner ≠ tx := fun htx => h ⟨htx, hd⟩
      rcases hall r.owner with ⟨q, hq⟩
      rcases carried_answer hq hd reply others with ⟨effect, q', hcarried⟩
      rcases hcarried.others tx (Ne.symm htx) with ⟨hu, hdue⟩
      refine ⟨hu, hdue, fun handle ho => ?_⟩
      -- What is resolved is a handle of the other transaction.
      have hhandled := hcarried.handled handle
      rw [hcarried.effectOn_eq_none ho htx] at hhandled
      exact hhandled.other tx
  | false =>
      have hown : r.handler.ownsCompletion = false := by
        simp only [decides, Bool.or_eq_false_iff] at hd
        exact hd.1
      rcases s.calm_answer others (r := { r with reply := reply }) hown with ⟨hcalm, hnone⟩
      -- The reply is none to a COMMIT or ROLLBACK, and its handler has no completion.
      have hforeign : Foreign tx (.reply r.owner r.exchange r.part reply) := by
        rcases r with ⟨owner, exchange, part, handler, old⟩
        refine ⟨rfl, rfl, ?_, ?_⟩ <;> cases part <;> cases exchange <;> simp [decides] at hd <;>
          simp
      have hsituation : answered before after s others { r with reply := reply } =
          ⟨before ++ after, (s.answer others { r with reply := reply }).1⟩ := by
        simp [answered, hnone, Client.opening, Client.start]
      rw [hsituation]
      refine ⟨(Untouched.record s hforeign).trans (.of_calm tx hcalm), ?_, fun handle ho => ?_⟩
      · simp [due, role?, hd, List.filterMap_append]
      · exact (handled_of_calm hcalm ho.awaited).after rfl (.record s rfl)

theorem turned_answer {before after : List Request} {r : Request} (reply : Reply)
    (others : List Request) (hall : ∀ tx, ∃ p, Standing tx p ⟨before ++ r :: after, s⟩)
    (hp : Standing tx p ⟨before ++ r :: after, s⟩) :
    ∃ effect p', Turned tx effect p p' ⟨before ++ r :: after, s⟩
      (answered before after s others { r with reply := reply }) := by
  by_cases h : r.owner = tx ∧ decides r = true
  · rcases h with ⟨rfl, hd⟩
    rcases carried_answer hp hd reply others with ⟨effect, p', hcarried⟩
    exact ⟨effect, p', hcarried.passage, hcarried.standing, fun handle _ => hcarried.handled handle⟩
  · rcases untouched_answer reply others hall h with ⟨hu, hdue, hh⟩
    exact ⟨none, p, turned_stay hp hu hdue hh⟩

/-! ## Transactions that nobody holds -/

/-- A transaction that is not running is not abandoned: it is not there yet, or a request still holds
it, or it has been claimed. -/
theorem abandon_of_not_running (hp : Standing tx p ⟨rs, s⟩) (hne : p ≠ .running) :
    s.abandon rs tx = (s, none) := by
  rcases abandon_cases s rs tx with hsame | ⟨t, ht, hc, hholds, -⟩
  · exact hsame
  · exfalso
    have hfoot : some t.footing = p.account.footing? := by
      have hplace : s.footing? tx = p.account.footing? := congrArg Account.footing? hp.account
      rw [← hplace, Client.footing?, ht]
      rfl
    have hclaimed : t.footing.claimed = false := hc
    cases p with
    | running => exact hne rfl
    | unborn => simp [Phase.account] at hfoot
    | starting handle =>
        -- The request that is to acknowledge BEGIN still holds the transaction.
        have hdue : due tx rs = [(.begin, .pullAll, .begun handle)] :=
          congrArg Account.due hp.account
        have hmem : (Exchange.begin, Part.pullAll, Handler.begun handle) ∈ due tx rs := by
          rw [hdue]
          exact List.mem_singleton_self _
        rcases List.mem_filterMap.1 hmem with ⟨r, hr, hrole⟩
        simp only [role?, Option.ite_none_right_eq_some, Option.some.injEq,
          Prod.mk.injEq] at hrole
        rcases hrole with ⟨⟨howner, -⟩, -, -, hhandler⟩
        simp only [Client.holdsTransaction, Bool.or_eq_false_iff] at hholds
        have hnot := List.any_eq_false.1 hholds.2 r hr
        simp [Request.holdsTransaction, hhandler, howner] at hnot
    | _ =>
        rw [Option.some.inj hfoot] at hclaimed
        simp at hclaimed

theorem turned_abandon (place : Nat) (hp : Standing tx p ⟨rs, s⟩) :
    ∃ effect p', Turned tx effect p p' ⟨rs, s⟩
      ⟨rs ++ (s.abandon rs place).1.opening (s.abandon rs place).2,
        (s.abandon rs place).1.start (s.abandon rs place).2⟩ := by
  have hh : ∀ handle, Owned tx handle ⟨rs, s⟩ → Handled tx none handle s
      ((s.abandon rs place).1.start (s.abandon rs place).2) := by
    intro handle _
    exact handled_none_of_eq (by rw [handles_abandon])
      ((Client.Silent.abandon s rs place).trans (.start _ _))
  by_cases htx : place = tx
  · subst htx
    by_cases hrunning : p = .running
    · subst hrunning
      rcases standing_abandon rs hp.account with ⟨p', hp', hstanding⟩
      refine ⟨none, p', ?_, hstanding, hh⟩
      rcases hp' with rfl | rfl | rfl
      · exact .stay _
      · exact .claimed (.finish (.ok ())) .nobody
      · exact .claimed .rollback .nobody
    · have hsame := abandon_of_not_running hp hrunning
      refine ⟨none, p, ?_⟩
      simpa [hsame, Client.opening, Client.start] using
        turned_stay hp (.refl place s) rfl fun _ _ => handled_none_of_eq rfl (.refl _ s)
  · rcases untouched_abandon (Ne.symm htx) s rs with ⟨hu, hdue⟩
    refine ⟨none, p, turned_stay hp hu ?_ hh⟩
    rw [due_append, hdue, List.append_nil]

end

/-! ## Moves -/

/-- Every transaction is in a phase, and no handle gets an outcome or wakes anyone before it is
made. -/
structure Sound (σ : Situation) : Prop where
  phases : ∀ tx, ∃ p, Standing tx p σ
  awaited : ∀ handle, σ.client.Awaited handle → handle < σ.client.handles.length
  fed : ∀ r ∈ σ.outstanding, ∀ handle, feeds? r.handler = some handle →
    handle < σ.client.handles.length
  woken : ∀ handle, σ.client.handles.length ≤ handle → σ.client.wakes handle = []

theorem exists_turned {σ σ' : Situation} {tx : Nat} {p : Phase}
    (hall : ∀ tx, ∃ p, Standing tx p σ) (hm : Move σ σ') (hp : Standing tx p σ) :
    ∃ effect p', Turned tx effect p p' σ σ' := by
  cases hm with
  | calm h =>
      exact ⟨none, p, turned_stay hp (.of_calm tx h) rfl fun _ ho =>
        handled_of_calm h ho.awaited⟩
  | connect f =>
      exact ⟨none, p, turned_stay hp (.updateConnection tx _ f) rfl fun _ _ =>
        handled_none_of_eq rfl (.of_history rfl)⟩
  | flush place =>
      exact ⟨none, p, turned_stay hp (.record _ ⟨rfl, rfl, rfl, rfl⟩) rfl fun _ _ =>
        handled_none_of_eq rfl (.record _ rfl)⟩
  | send place cursor statement params =>
      exact ⟨none, p, turned_stay hp (.send _ (fun _ => by simp) _ _ _ _)
        (due_append_requests rfl (Or.inr ⟨rfl, by simp, by simp⟩)) fun _ _ =>
          handled_none_of_eq rfl (.send _ _ _ _ _ _ _)⟩
  | await cursor name =>
      exact ⟨none, p, turned_stay hp ((Untouched.updateCursor tx _ _ _).trans
        (.addHandle _ (by simp [Handle.fresh]))) rfl fun _ ho =>
          handled_of_append rfl ho.lt (.of_history rfl)⟩
  | answered name result hr =>
      have hne := hr tx
      exact ⟨none, p, turned_stay hp (.addHandle _ (by simpa [Handle.ready] using hne)) rfl
        fun _ ho => handled_of_append rfl ho.lt (.of_history rfl)⟩
  | begin t ht params name => exact turned_begunAtOnce ht params name hp
  | beginAwaited t ht params name => exact turned_begunAwaited ht params name hp
  | claim ht hc hk name terminal => exact turned_taken ht hc hk name _ hp
  | answer before after r reply others => exact turned_answer reply others hall hp
  | abandon place => exact turned_abandon place hp

/-- Nobody has been woken for a handle that is made by the move. -/
theorem Sound.wakes_move {σ σ' : Situation} (h : Sound σ) (hm : Move σ σ') (handle : Nat)
    (hle : σ.client.handles.length ≤ handle) : σ'.client.wakes handle = [] := by
  have hsilent := (linked_move hm).silent handle hle fun hw =>
    absurd (h.awaited handle hw) (Nat.not_lt.2 hle)
  rw [hsilent.wakes]
  exact h.woken handle hle

theorem Sound.move {σ σ' : Situation} (h : Sound σ) (hm : Move σ σ') : Sound σ' where
  phases := by
    intro tx
    rcases h.phases tx with ⟨p, hp⟩
    rcases exists_turned h.phases hm hp with ⟨effect, p', hturned⟩
    exact ⟨p', hturned.standing⟩
  awaited := by
    intro handle hw
    rcases (linked_move hm).awaited handle hw with hw | ⟨-, hlt⟩
    · exact Nat.lt_of_lt_of_le (h.awaited handle hw) (linked_move hm).size
    · exact hlt
  fed := by
    intro r hr handle hf
    rcases (linked_move hm).fed r hr handle hf with ⟨r₀, hr₀, -, hf₀⟩ | ⟨-, hlt⟩
    · exact Nat.lt_of_lt_of_le (h.fed r₀ hr₀ handle hf₀) (linked_move hm).size
    · exact hlt
  woken := by
    intro handle hle
    exact h.wakes_move hm handle (Nat.le_trans (linked_move hm).size hle)

theorem Sound.moves {σ σ' : Situation} (h : Sound σ) (hm : Moves σ σ') : Sound σ' := by
  induction hm with
  | refl => exact h
  | tail _ hm ih => exact ih.move hm

theorem sound_start : Sound (.of {}) where
  phases := by
    intro tx
    refine ⟨.unborn, rfl, ?_⟩
    intro _ hk
    rcases hk with ⟨t, ht, -⟩ | ⟨h, hmem, -⟩
    · simp [Situation.of] at ht
    · simp [Situation.of] at hmem
  awaited := by
    rintro handle ⟨c, hc, -⟩
    simp [Situation.of] at hc
  fed := by
    intro r hr
    simp [Situation.of] at hr
  woken := fun _ _ => rfl

end ClientTransaction.Nonblocking
