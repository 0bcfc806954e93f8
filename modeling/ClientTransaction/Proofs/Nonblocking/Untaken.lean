import ClientTransaction.Proofs.Nonblocking.Abandoned
import ClientTransaction.Proofs.Nonblocking.Bypasses
import ClientTransaction.Proofs.Nonblocking.Replied

/-!
# Nonblocking.Untaken — a transaction that nobody has taken

A transaction that waits for the acknowledgement of its BEGIN belongs to its handle. Until someone
takes it from there no step can name it, so nothing is said of it and nothing is sent for it: it is
active, and only its handle yields it. If that handle is let go, before the acknowledgement or after
it, the transaction is rolled back.
-/

namespace ClientTransaction.Nonblocking

open Scenario (Step after perform transaction? handle? onTransaction onCursor onHandle)
open Client (Serves Withholds)

/-- Nobody has taken the transaction from its handle, and nothing has been said of it. -/
structure Hushed (tx handle : Nat) (σ : Situation) : Prop where
  fresh : ∃ t : Transaction, σ.client.transactions[tx]? = some t ∧ t.holdings = [] ∧
    t.state = .active ∧ t.closing = false
  sole : ∀ (place : Nat) (h : Handle Payload), σ.client.handles[place]? = some h →
    h.state = .resolved (.ok (.transaction tx)) → place = handle ∧ h.isHeld = true
  idle : ∀ r ∈ σ.outstanding, r.owner = tx → r.handler = .ignore ∨ r.handler = .begun handle

/-- The handle has been let go, and the transaction with it. -/
structure Gone (tx handle : Nat) (σ : Situation) : Prop where
  unheld : ∀ h : Handle Payload, σ.client.handles[handle]? = some h → h.isHeld = false
  forsaken : ∃ (t : Transaction) (p : Phase), t.state = .active ∧ Standing tx p σ ∧ p.IsForsaken t

/-- What can have become of a transaction that nobody has taken. -/
inductive Left (tx handle : Nat) (σ : Situation) : Prop
  | hushed (h : Hushed tx handle σ)
  | denied (h : Denied tx σ.client)
  | gone (h : Gone tx handle σ)

section

variable {tx handle : Nat} {before later others : List Request} {s s' : Client}
  {σ σ' : Situation}

/-! ## What is over -/

theorem Denied.moves (h : Denied tx σ.client) (hm : Moves σ σ') : Denied tx σ'.client := by
  rcases h with ⟨loss, hloss⟩
  exact ⟨loss, mem_seen (history_moves hm) hloss⟩

/-- Nobody gets a handle back that he has let go. -/
theorem unheld_of_names (hn : s'.names = s.names)
    (h : ∀ hd : Handle Payload, s.handles[handle]? = some hd → hd.isHeld = false) :
    ∀ hd : Handle Payload, s'.handles[handle]? = some hd → hd.isHeld = false := by
  intro hd hplace
  have hsame := congrArg (fun names => names.2.2[handle]?) hn
  simp only [Client.names, List.getElem?_map, hplace, Option.map_some] at hsame
  rcases Option.map_eq_some_iff.1 hsame.symm with ⟨hd₀, hplace₀, hname⟩
  have hunheld := h hd₀ hplace₀
  unfold Handle.isHeld at hunheld ⊢
  rwa [← hname]

theorem isHeld_of_ages {h h' : Handle Payload} (ha : h.Ages h') (hu : h.isHeld = false) :
    h'.isHeld = false := by
  cases ha with
  | same => exact hu
  | asked => exact hu
  | taken => exact hu
  | dropped => rfl

theorem Gone.move (h : Gone tx handle σ) (hs : Sound σ) (ho : Owned tx handle σ)
    (hm : Move σ σ') : Gone tx handle σ' := by
  rcases h.forsaken with ⟨t, p, hactive, hp, hforsaken⟩
  rcases exists_turned hs.phases hm hp with ⟨effect, p', hturned⟩
  refine ⟨?_, t, p', hactive, hturned.standing, hforsaken.passage hturned.passage⟩
  intro hd' hplace'
  have hplace := List.getElem?_eq_getElem ho.lt
  rcases (hturned.handled handle ho).state _ hplace with ⟨hd, hplace₁, heffect⟩
  obtain rfl := Option.some.inj (hplace₁.symm.trans hplace')
  have hunheld := h.unheld _ hplace
  -- What comes for a handle does not give it a name.
  cases hreached : effectOn handle effect with
  | none =>
      rw [hreached] at heffect
      exact isHeld_of_ages heffect hunheld
  | some result =>
      rw [hreached] at heffect
      rw [heffect, Handle.isHeld, Handle.name_resolve]
      exact hunheld

theorem Gone.moves (h : Gone tx handle σ) (hs : Sound σ) (ho : Owned tx handle σ)
    (hm : Moves σ σ') : Gone tx handle σ' := by
  have hboth : Gone tx handle σ' ∧ Owned tx handle σ' := by
    induction hm with
    | refl => exact ⟨h, ho⟩
    | tail hms hm ih =>
        exact ⟨ih.1.move (hs.moves hms) ih.2 hm, ih.2.linked (linked_move hm)⟩
  exact hboth.1

/-! ## BEGIN is acknowledged -/

theorem handles_yielded (s : Client) (tx handle : Nat) (reply : Reply) :
    (yielded s tx handle reply).handles =
      s.handles.modify handle fun h => h.resolve (.ok (.transaction tx)) :=
  Client.handles_resolve _ _ _

/-- The handle is held, so it yields the transaction, and that is all. -/
theorem hushed_of_held {hd : Handle Payload} {old reply : Reply} {metadata : Params}
    (h : Hushed tx handle ⟨before ++ ⟨tx, .begin, .pullAll, .begun handle, old⟩ :: later, s⟩)
    (hk : ¬ s.Kept tx) (hh : s.handles[handle]? = some hd) (hheld : hd.isHeld = true)
    (hpending : hd.isResolved = false) (hreply : reply.outcome = .success metadata) :
    Hushed tx handle (answered before later s others
      ⟨tx, .begin, .pullAll, .begun handle, reply⟩) := by
  rcases reply with ⟨records, outcome⟩
  obtain rfl : outcome = .success metadata := hreply
  rcases h.fresh with ⟨t, ht, hfresh⟩
  have hresolved : (hd.resolve (.ok (.transaction tx))).state = .resolved (.ok (.transaction tx)) ∧
      (hd.resolve (.ok (.transaction tx))).isHeld = true := by
    rcases hd with ⟨_ | name, _ | _ | _⟩ <;> simp_all [Handle.isHeld, Handle.isResolved,
      Handle.resolve]
  have hplace : (yielded s tx handle ⟨records, .success metadata⟩).transactions[tx]? = some t := by
    rw [yielded, transactions_resolve]
    exact ht
  have hyields : (yielded s tx handle ⟨records, .success metadata⟩).handles[handle]? =
      some (hd.resolve (.ok (.transaction tx))) := by
    rw [handles_yielded, List.getElem?_modify_eq, hh]
    rfl
  have hheld : (yielded s tx handle ⟨records, .success metadata⟩).holdsTransaction others tx =
      true := by
    rw [Client.holdsTransaction_iff]
    exact Or.inl (Or.inr ⟨_, List.mem_of_getElem? hyields, hresolved.1⟩)
  have hanswer : s.answer others ⟨tx, .begin, .pullAll, .begun handle,
      ⟨records, .success metadata⟩⟩ = (yielded s tx handle ⟨records, .success metadata⟩, none) :=
    abandon_of_held hplace (Or.inr hheld)
  unfold answered
  rw [hanswer]
  simp only [Client.opening, Client.start, List.append_nil]
  refine ⟨⟨t, hplace, hfresh⟩, ?_, fun r hr => h.idle r (mem_outstanding.2 (Or.inr hr))⟩
  intro place hd' hplace' hyields'
  by_cases hp : handle = place
  · subst hp
    cases hyields.symm.trans hplace'
    exact ⟨rfl, hresolved.2⟩
  · -- Nobody had the transaction before.
    rw [handles_yielded, List.getElem?_modify_ne _ _ hp] at hplace'
    exact absurd (Or.inr ⟨hd', List.mem_of_getElem? hplace', hyields'⟩) hk

/-- The handle had been let go, so nobody wants the transaction. -/
theorem gone_of_unheld {hd : Handle Payload} {old reply : Reply} {metadata : Params}
    (hs : Sound ⟨before ++ ⟨tx, .begin, .pullAll, .begun handle, old⟩ :: later, s⟩)
    (h : Hushed tx handle ⟨before ++ ⟨tx, .begin, .pullAll, .begun handle, old⟩ :: later, s⟩)
    (hp : Standing tx (.starting handle)
      ⟨before ++ ⟨tx, .begin, .pullAll, .begun handle, old⟩ :: later, s⟩)
    (hh : s.handles[handle]? = some hd) (hunheld : hd.isHeld = false)
    (hreply : reply.outcome = .success metadata) (ho : others ⊆ before ++ later) :
    Gone tx handle (answered before later s others
      ⟨tx, .begin, .pullAll, .begun handle, reply⟩) := by
  rcases account_answered hp.account rfl rfl rfl reply with ⟨-, ha⟩
  rcases reply with ⟨records, outcome⟩
  obtain rfl : outcome = .success metadata := hreply
  rcases h.fresh with ⟨t, ht, -, hactive, -⟩
  have hsame : hd.resolve (.ok (.transaction tx)) = hd := by
    rcases hd with ⟨_ | name, state⟩
    · rfl
    · cases hunheld
  have hhandles : (yielded s tx handle ⟨records, .success metadata⟩).handles = s.handles := by
    rw [handles_yielded]
    apply List.ext_getElem?
    intro place
    by_cases hplace : handle = place
    · subst hplace
      rw [List.getElem?_modify_eq, hh]
      exact congrArg some hsame
    · rw [List.getElem?_modify_ne _ _ hplace]
  have htransactions : (yielded s tx handle ⟨records, .success metadata⟩).transactions =
      s.transactions :=
    transactions_resolve _ _ _
  -- Its handle was dropped, nobody else has ever had it, and its one request is gone.
  have hnobody : (yielded s tx handle ⟨records, .success metadata⟩).holdsTransaction others tx =
      false := by
    rw [Bool.eq_false_iff, ne_eq, Client.holdsTransaction_iff]
    rintro (hk | ⟨q, hq, hholds⟩)
    · refine hp.hidden rfl ?_
      unfold Client.Kept at hk ⊢
      rwa [htransactions, hhandles] at hk
    · have halone : q.holdsTransaction tx = false :=
        holds_alone hs (by simp [Request.holdsTransaction]) (ho hq)
      simp [hholds] at halone
  have hrun : Situation.account
      ⟨before ++ later, yielded s tx handle ⟨records, .success metadata⟩⟩ tx =
        Phase.running.account :=
    (account_resolve _ _ _ _ _).trans ha
  have hplace : (yielded s tx handle ⟨records, .success metadata⟩).transactions[tx]? = some t := by
    rw [htransactions]
    exact ht
  have hstanding := (abandon_running hrun hplace hnobody).2
  refine ⟨?_, t, _, hactive, hstanding, Or.inl rfl⟩
  refine unheld_of_names (names_answered others _) fun hd' hplace' => ?_
  cases hh.symm.trans hplace'
  exact hunheld

/-- BEGIN is answered. -/
theorem left_of_begun {r : Request} {reply : Reply}
    (h : Hushed tx handle ⟨before ++ r :: later, s⟩) (hs : Sound ⟨before ++ r :: later, s⟩)
    (hy : Tracked tx handle (Yields tx handle) ⟨before ++ r :: later, s⟩)
    (ho : others ⊆ before ++ later) (howner : r.owner = tx) (hhandler : r.handler = .begun handle) :
    Left tx handle (answered before later s others { r with reply := reply }) := by
  rcases hy.shown with ⟨p, x, hd, hp, hyields, hh, hshows, -⟩
  have hholds : r.holdsTransaction tx = true := by
    simp [Request.holdsTransaction, hhandler, howner]
  rcases starting_of_holds hp (mem_outstanding.2 (Or.inl rfl)) hholds with ⟨place, rfl⟩
  have hdecides : decides r = true := by simp [decides, hhandler, Handler.ownsCompletion]
  rcases r with ⟨owner, exchange, part, handler, old⟩
  obtain ⟨rfl, rfl, rfl⟩ : exchange = .begin ∧ part = .pullAll ∧ handler = .begun place := by
    simpa using (account_answered hp.account rfl howner hdecides reply).1
  obtain rfl := Handler.begun.inj hhandler
  dsimp only at howner
  subst howner
  rcases reply with ⟨records, outcome⟩
  rcases outcome.success_or_loss with ⟨metadata, rfl⟩ | ⟨loss, rfl⟩
  · cases hheld : hd.isHeld with
    | true =>
        cases hyields with
        | starting =>
            exact .hushed (hushed_of_held h (hp.hidden rfl) hh hheld (hshows hheld) rfl)
        | begun hbegun => cases hbegun
    | false => exact .gone (gone_of_unheld hs h hp hh hheld rfl ho)
  · refine .denied ⟨loss, ?_⟩
    rw [answers_answered]
    simp [Receipt.answer?, Request.receipt]

/-- A reply to another transaction, or one that nobody looks at. -/
theorem Hushed.answer_other {r : Request} (h : Hushed tx handle ⟨before ++ r :: later, s⟩)
    (reply : Reply) (others : List Request) (hr : r.owner ≠ tx ∨ r.handler = .ignore) :
    Hushed tx handle (answered before later s others { r with reply := reply }) := by
  rcases h.fresh with ⟨t, ht, hfresh⟩
  rcases hr with hr | hr
  · have hserves := (Serves.answer s others { r with reply := reply }).trans
      (.start _ (s.answer others { r with reply := reply }).2)
    have hwithholds : Withholds tx s (answered before later s others
        { r with reply := reply }).client :=
      (Withholds.answer s others (r := { r with reply := reply }) hr).trans (.start _ _)
    refine ⟨⟨t, (hserves.others tx (Ne.symm hr)).trans ht, hfresh⟩, ?_, ?_⟩
    · intro place hd hplace hyields
      exact h.sole place hd (hwithholds place hd hplace hyields) hyields
    · intro q hq howner
      rcases List.mem_append.1 hq with hq | hq
      · exact h.idle q (mem_outstanding.2 (Or.inr hq)) howner
      · exact absurd ((mem_opening_answer hq).1.symm.trans howner) hr
  · rcases r with ⟨owner, exchange, part, handler, old⟩
    cases hr
    refine ⟨⟨t, ht, hfresh⟩, h.sole, fun q hq => h.idle q (mem_outstanding.2 (Or.inr ?_))⟩
    simpa [answered, Client.answer, Client.opening] using hq

theorem Hushed.delivery (h : Hushed tx handle σ) (hs : Sound σ)
    (hy : Tracked tx handle (Yields tx handle) σ) (hd : Delivery σ σ') : Left tx handle σ' := by
  cases hd with
  | connect f => exact .hushed ⟨h.fresh, h.sole, h.idle⟩
  | flush place => exact .hushed ⟨h.fresh, h.sole, h.idle⟩
  | answer before after r reply others ho =>
      by_cases howner : r.owner = tx
      · rcases h.idle r (mem_outstanding.2 (Or.inl rfl)) howner with hignore | hbegun
        · exact .hushed (h.answer_other reply others (Or.inr hignore))
        · exact left_of_begun h hs hy ho howner hbegun
      · exact .hushed (h.answer_other reply others (Or.inl howner))

theorem Left.delivery (h : Left tx handle σ) (hs : Sound σ)
    (hy : Tracked tx handle (Yields tx handle) σ) (hd : Delivery σ σ') : Left tx handle σ' := by
  cases h with
  | hushed h => exact h.delivery hs hy hd
  | denied h => exact .denied (h.moves (.single hd.move))
  | gone h => exact .gone (h.moves hs hy.owned (.single hd.move))

theorem Left.deliveries (h : Left tx handle σ) (hs : Sound σ)
    (hy : Tracked tx handle (Yields tx handle) σ) (hd : Deliveries σ σ') :
    Left tx handle σ' := by
  induction hd with
  | refl => exact h
  | tail hds hd ih =>
      have hmoves := Deliveries.moves hds
      exact ih.delivery (hs.moves hmoves) (hy.moves (follows_yields tx handle) hs hmoves) hd

/-! ## Runs -/

theorem Hushed.bypasses (h : Hushed tx handle (.of s)) (hb : Bypasses tx s σ) :
    Hushed tx handle σ := by
  rcases h.fresh with ⟨t, ht, hfresh⟩
  rcases hb.sent with ⟨new, hnew, howner⟩
  refine ⟨⟨t, hb.transaction.trans ht, hfresh⟩, ?_, ?_⟩
  · intro place hd hplace hyields
    exact h.sole place hd (hb.withholds place hd hplace hyields) hyields
  · intro r hr htx
    rw [hnew] at hr
    rcases List.mem_append.1 hr with hr | hr
    · exact h.idle r hr htx
    · exact absurd htx (howner r hr)

/-- The handle that yields the transaction is let go. -/
theorem Hushed.gone_of_dropHandle (h : Hushed tx handle (.of s)) (hs : Sound (.of s))
    {hd : Handle Payload} (hh : s.handles[handle]? = some hd)
    (hyields : hd.state = .resolved (.ok (.transaction tx))) :
    Gone tx handle (.of (dropHandle s handle)) := by
  rcases h.fresh with ⟨t, ht, hnames, hactive, hclosing⟩
  have hk : s.Kept tx := Or.inr ⟨hd, List.mem_of_getElem? hh, hyields⟩
  rcases hs.phases tx with ⟨p, hp⟩
  cases running_of_kept hp ht hclosing hk
  have hcalm : s.Calm { s with handles := s.handles.set handle hd.drop } :=
    .setHandle s hh (.dropped hd)
  have hrun := (hp.untouched (.of_calm tx hcalm) rfl :
    Standing tx .running ⟨s.connection.queue, _⟩).account
  have hlt := (List.getElem?_eq_some_iff.1 hh).1
  -- Nobody else has it.
  have hnobody : Client.holdsTransaction { s with handles := s.handles.set handle hd.drop }
      s.connection.queue tx = false := by
    rw [Bool.eq_false_iff, ne_eq, Client.holdsTransaction_iff]
    rintro ((⟨t', ht', hheld⟩ | ⟨hd', hmem, hyields'⟩) | ⟨q, hq, hholds⟩)
    -- Under a name, by a handle, or by a request.
    · cases ht.symm.trans ht'
      exact hheld hnames
    · rcases List.mem_iff_getElem?.1 hmem with ⟨place, hplace⟩
      have hbefore := Withholds.setHandle s hh (.dropped hd) place hd' hplace hyields'
      obtain rfl := (h.sole place hd' hbefore hyields').1
      obtain rfl : hd.drop = hd' := by simpa [hlt] using hplace
      cases hyields'
    · exact not_kept_of_holds hs hq hholds hk
  have hsent := (abandon_running hrun ht hnobody).2
  have hdropped : dropHandle s handle = Client.follow
      (Client.abandon { s with handles := s.handles.set handle hd.drop } s.connection.queue tx) := by
    simp only [dropHandle, hh, hyields]
  have hfollow := Delivers.follow [] (Client.abandon
    { s with handles := s.handles.set handle hd.drop } s.connection.queue tx)
  unfold Delivers at hfollow
  rw [queue_start, (Frame.abandon _ s.connection.queue tx).connection, ← hdropped] at hfollow
  have hsound : Sound (abandoned s.connection.queue
      { s with handles := s.handles.set handle hd.drop } tx) :=
    (hs.move (.calm hcalm)).move (.abandon tx)
  rcases forsaken_moves hsound hsent (Or.inl rfl) (Deliveries.moves hfollow) with ⟨p', hp', hgone⟩
  refine ⟨?_, t, p', hactive, hp', hgone⟩
  have hnamed : (dropHandle s handle).names =
      Client.names { s with handles := s.handles.set handle hd.drop } := by
    rw [hdropped]
    exact (Client.names_follow _).trans (Client.names_abandon _ _ _)
  refine unheld_of_names hnamed fun hd' hplace => ?_
  obtain rfl : hd.drop = hd' := by simpa [hlt] using hplace
  rfl

theorem Hushed.touches (h : Hushed tx handle (.of s)) (hs : Sound (.of s))
    (hy : Tracked tx handle (Yields tx handle) (.of s)) (ht : Touches tx s s')
    (hu : Unnamed tx s') : Left tx handle (.of s') := by
  cases ht with
  | bypasses hm hb hd =>
      exact (Left.hushed (h.bypasses hb)).deliveries (hs.moves hm)
        (hy.moves (follows_yields tx handle) hs hm) hd
  | takes htaken => exact absurd hu htaken
  | drops hh hyields heq =>
      obtain rfl := (h.sole _ _ hh hyields).1
      exact heq ▸ .gone (h.gone_of_dropHandle hs hh hyields)

/-- Nobody has taken the transaction in the meantime: it has had no name at any time. -/
def Untaken (tx : Nat) : Client → List Step → Prop
  | s, [] => Unnamed tx s
  | s, step :: rest => Unnamed tx s ∧ Untaken tx (perform .nonblocking s step).2 rest

theorem Left.perform (h : Left tx handle (.of s)) (hs : Sound (.of s))
    (hy : Tracked tx handle (Yields tx handle) (.of s)) (hu : Unnamed tx s) (step : Step)
    (hu' : Unnamed tx (Scenario.perform .nonblocking s step).2) :
    Left tx handle (.of (Scenario.perform .nonblocking s step).2) := by
  have hm := Scenario.leads_perform s step
  cases h with
  | hushed h =>
      rcases h.fresh with ⟨t, ht, -⟩
      exact h.touches hs hy (touches_perform (List.getElem?_eq_some_iff.1 ht).1 hu step) hu'
  | denied h => exact .denied (h.moves hm)
  | gone h => exact .gone (h.moves hs hy.owned hm)

theorem Untaken.unnamed {steps : List Step} (h : Untaken tx s steps) : Unnamed tx s := by
  cases steps with
  | nil => exact h
  | cons step rest => exact h.1

/-- As long as nobody takes the transaction it is left to its handle, or has been denied, or has
gone with its handle. -/
theorem left_after {steps : List Step} (h : Left tx handle (.of s)) (hs : Sound (.of s))
    (hy : Tracked tx handle (Yields tx handle) (.of s)) (hu : Untaken tx s steps) :
    Left tx handle (.of (after .nonblocking s steps)) := by
  -- The handle is followed along, for a reply to BEGIN may come with any step.
  induction steps generalizing s with
  | nil => exact h
  | cons step rest ih =>
      have hm := Scenario.leads_perform s step
      exact ih (h.perform hs hy hu.1 step hu.2.unnamed) (hs.moves hm)
        (hy.moves (follows_yields tx handle) hs hm) hu.2

end

end ClientTransaction.Nonblocking
