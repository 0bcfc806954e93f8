import ClientTransaction.Proofs.Nonblocking.Promises
import ClientTransaction.Proofs.Nonblocking.Statements

/-!
# Nonblocking.Consumptions — who waits for a summary

Whoever asks for the summary of a result gets a handle. It has an outcome at once if the stream has
ended, and waits for it otherwise; nothing but the cursor resolves it. When both replies to the
statement have come, or their handlers have been given up, the handle has an outcome in all cases
but one: neither reply has ended the stream, and the application still holds the cursor. Then nobody
is left who could end the stream, but the handle waits until the application lets the cursor go.
-/

namespace ClientTransaction

/-- Firing passes the outcome on to the one who was to receive it. -/
theorem Completion.target_settled {α β φ σ : Type} (c : Completion β φ σ) (result : Except Error α)
    {target : β} {shown : Except Error α} (h : (c.fire result).2 = .settled target shown) :
    target = c.target := by
  induction c generalizing result with
  | sink other =>
      simp only [fire, Stop.settled.injEq] at h
      exact h.1.symm
  | finalizer action done ih => exact ih result h
  | resume primary done ih => exact ih (.error primary) h
  | fallback secondary done ih =>
      cases result with
      | ok value => exact ih (.ok value) h
      | error primary => simp [fire] at h

/-- What a handle waits for stays as it is, whatever is asked of the handle. -/
theorem Handle.Ages.isAwaited {α : Type} {h h' : Handle α} (ha : h.Ages h')
    (hd : h.isAwaited = false) : h'.isAwaited = false := by
  cases ha with
  | same => exact hd
  | asked name watched watched' => exact hd
  | taken name result => simp [Handle.isAwaited, Handle.isResolved]
  | dropped => simp [Handle.isAwaited, Handle.drop, Handle.isHeld]

theorem Handle.isAwaited_resolve {α : Type} (h : Handle α) (result : Except Error α) :
    (h.resolve result).isAwaited = false := by
  rcases h with ⟨name, state⟩
  cases name <;> cases state <;>
    simp [Handle.resolve, Handle.isAwaited, Handle.isHeld, Handle.isResolved]

namespace Nonblocking

open Scenario

/-! ## What was asked for -/

/-- A handle that was returned for the summary of a result. -/
structure Consumption where
  cursor : Nat
  handle : Nat
  deriving DecidableEq, Repr

/-- The handle that a step returns, if it asks for a summary. -/
def consumption? (s : Client) : Step → Option Consumption
  | .consume result _ => (cursor? s result).map fun cursor => ⟨cursor, s.handles.length⟩
  | _ => none

/-- The handles for summaries that were returned in a run. -/
def consumptions (s : Client) : List Step → List Consumption
  | [] => []
  | step :: rest => (consumption? s step).toList ++ consumptions (perform .nonblocking s step).2 rest

/-- A handle waits for a cursor, or it has learned what there is to learn. -/
inductive Expects (handle : Nat) (c : Cursor) (h : Handle Payload) : Prop
  | waits (hw : handle ∈ c.waiters) (hp : Shows h none)
  | told (hw : handle ∉ c.waiters) (hd : h.isAwaited = false)
      (hc : c.outcome ≠ none ∨ c.name = none)

/-- The handle is for the cursor: nothing else resolves it. -/
structure Consumption.Pends (q : Consumption) (σ : Situation) : Prop where
  unfed : ∀ r ∈ σ.outstanding, feeds? r.handler ≠ some q.handle
  elsewhere : ∀ (place : Nat) (c : Cursor), σ.client.cursors[place]? = some c →
    q.handle ∈ c.waiters → place = q.cursor
  expects : ∃ c h, σ.client.cursors[q.cursor]? = some c ∧
    σ.client.handles[q.handle]? = some h ∧ Expects q.handle c h

/-! ## Handles under each operation -/

section

variable {q : Consumption} {σ σ' : Situation} {s s' : Client} {before after : List Request}
  {r : Request} {c : Cursor} {h h' : Handle Payload}

theorem Expects.ages {handle : Nat} (he : Expects handle c h) (ha : h.Ages h') :
    Expects handle c h' := by
  cases he with
  | waits hw hp => exact .waits hw (hp.ages ha)
  | told hw hd hc => exact .told hw (ha.isAwaited hd) hc

/-- A handle waits if somebody holds it, for a stream that goes on, of a cursor with a name. -/
theorem Expects.isAwaited_iff {handle : Nat} (he : Expects handle c h) (ht : c.Tidy)
    (hheld : c.waiters ≠ [] → c.name.isSome = true) :
    h.isAwaited = true ↔ h.isHeld = true ∧ c.name.isSome = true ∧ c.outcome = none := by
  cases he with
  | waits hw hp =>
      have hne := List.ne_nil_of_mem hw
      have hgoes : c.outcome = none := ht.outcome_eq_none hne
      simp only [Handle.isAwaited, Bool.and_eq_true, Bool.not_eq_true']
      constructor
      · rintro ⟨hholds, -⟩
        exact ⟨hholds, hheld hne, hgoes⟩
      · rintro ⟨hholds, -⟩
        exact ⟨hholds, hp hholds⟩
  | told hw hd hcause =>
      simp only [hd, Bool.false_eq_true, false_iff]
      rintro ⟨-, hname, hgoes⟩
      rcases hcause with hcause | hcause
      · exact hcause hgoes
      · simp [hcause] at hname

/-- The cursor changes as a reply or the application changes it, and then those who wait learn what
there is to learn. -/
theorem Expects.dismiss {handle : Nat} (he : Expects handle c h) {f : Cursor → Cursor}
    (hmem : handle ∈ (f c).waiters → handle ∈ c.waiters)
    (hkeeps : (f c).outcome = none → (f c).waiters = c.waiters)
    (hstands : c.outcome ≠ none → (f c).outcome ≠ none)
    (hnamed : c.name = none → (f c).name = none) (held : Bool) :
    Expects handle ((f c).dismiss held) (h.heed c.waiters ((f c).verdict? held) handle) := by
  cases he with
  | waits hw hp =>
      cases hverdict : (f c).verdict? held with
      | none =>
          have hwaits : handle ∈ (f c).waiters := by
            rw [hkeeps (Cursor.verdict?_eq_none.1 hverdict).1]
            exact hw
          exact .waits (by simpa [Cursor.dismiss, hverdict] using hwaits) hp
      | some result =>
          refine .told ?_ ?_ ?_
          · simp [Cursor.dismiss, hverdict]
          · simpa [Handle.heed, hw] using h.isAwaited_resolve result
          · -- There is an outcome, or nobody holds the cursor.
            simp only [Cursor.outcome_dismiss, Cursor.name_dismiss]
            exact Cursor.of_verdict? hverdict
  | told hw hd hc =>
      rw [Handle.heed_of_not_mem hw, id]
      refine .told ?_ hd ?_
      · intro hw'
        exact hw (hmem (Cursor.of_mem_dismiss hw').1)
      · simp only [Cursor.outcome_dismiss, Cursor.name_dismiss]
        exact hc.imp hstands hnamed

namespace Consumption.Pends

/-- Nothing is done with results, and no handle is resolved that was there. -/
theorem spared (hp : q.Pends σ) (hcursors : σ'.client.cursors = σ.client.cursors)
    (hfed : ∀ r ∈ σ'.outstanding, feeds? r.handler ≠ some q.handle)
    (hages : ∀ h, σ.client.handles[q.handle]? = some h →
      ∃ h', σ'.client.handles[q.handle]? = some h' ∧ h.Ages h') : q.Pends σ' := by
  rcases hp.expects with ⟨c, h, hc, hh, he⟩
  rcases hages h hh with ⟨h', hh', ha⟩
  exact ⟨hfed, hcursors ▸ hp.elsewhere, c, h', hcursors ▸ hc, hh', he.ages ha⟩

theorem lt (hp : q.Pends σ) : q.handle < σ.client.handles.length := by
  rcases hp.expects with ⟨c, h, -, hh, -⟩
  exact (List.getElem?_eq_some_iff.1 hh).1

/-- A cursor is served: if it is the one that the handle is for, the handle may learn something. -/
theorem served (hp : q.Pends ⟨before, s⟩) {cursor : Nat} {f : Cursor → Cursor} {held : Bool}
    (hserved : Client.Served cursor c (fun c => (f c).dismiss held) ((f c).verdict? held) s s')
    (hc : s.cursors[cursor]? = some c)
    (hmem : ∀ handle, handle ∈ (f c).waiters → handle ∈ c.waiters)
    (hkeeps : (f c).outcome = none → (f c).waiters = c.waiters)
    (hstands : c.outcome ≠ none → (f c).outcome ≠ none)
    (hnamed : c.name = none → (f c).name = none)
    (hfed : ∀ r ∈ after, feeds? r.handler ≠ some q.handle) : q.Pends ⟨after, s'⟩ := by
  rcases hp.expects with ⟨c₀, h, hc₀, hh, he⟩
  have hhandle := hserved.handles q.handle
  rw [hh, Option.map_some] at hhandle
  refine ⟨hfed, ?_, ?_⟩
  · intro place c' hc' hw
    rcases hserved.cases_of_getElem? hc hc' with ⟨rfl, rfl⟩ | ⟨-, hother⟩
    · exact hp.elsewhere _ c hc (hmem _ (Cursor.of_mem_dismiss hw).1)
    · exact hp.elsewhere place c' hother hw
  · by_cases hcursor : cursor = q.cursor
    · subst hcursor
      cases hc.symm.trans hc₀
      refine ⟨_, _, ?_, hhandle, he.dismiss (hmem _) hkeeps hstands hnamed held⟩
      rw [hserved.cursors]
      simp [hc]
    · -- Nobody waits for two cursors.
      have hnot : q.handle ∉ c.waiters := fun hw => hcursor (hp.elsewhere cursor c hc hw)
      refine ⟨c₀, h, ?_, ?_, he⟩
      · rw [hserved.cursors, List.getElem?_modify]
        simpa [hcursor] using hc₀
      · rw [hhandle, Handle.heed_of_not_mem hnot, id]

end Consumption.Pends

/-- Firing the completion of a terminal operation resolves at most the handle of its listener. -/
theorem handles_fire {handle : Nat} (s : Client) (tx : Nat) (done : TerminalChain)
    (result : Except Error Unit) (h : feeds? (.rolledBack done) ≠ some handle) :
    (s.fire tx done result).1.handles[handle]? = s.handles[handle]? := by
  have hactions : ∀ actions : List (Finalizer × Except Error Unit), ∀ s : Client,
      (s.runFinalizers tx actions).handles = s.handles := by
    intro actions
    induction actions with
    | nil => exact fun _ => rfl
    | cons action rest ih =>
        rcases action with ⟨⟨⟩, shown⟩
        exact fun s => ih (s.release tx)
  have htarget : ∀ (target : Listener) (shown : Except Error Unit),
      (done.fire result).2 = .settled target shown → target = done.target :=
    fun _ _ => done.target_settled result
  unfold Client.fire
  generalize done.fire result = fired at htarget
  rcases fired with ⟨actions, stop⟩
  cases stop with
  | settled target shown =>
      cases target with
      | nobody => exact congrArg (·[handle]?) (hactions actions s)
      | handle place =>
          have hne : place ≠ handle := by
            rintro rfl
            exact h (by simp [feeds?, ← htarget _ _ rfl])
          rw [Client.handles_resolve, List.getElem?_modify, hactions]
          simp [hne]
  | started secondary rest =>
      cases secondary
      exact congrArg (·[handle]?) (hactions actions s)

/-- A request whose handler is not for the handle leaves it alone, unless it is one for a cursor. -/
theorem handles_answered {handle : Nat} (others : List Request) (hf : r.Fits)
    (hne : ∀ cursor, r.exchange ≠ .statement cursor) (hfed : feeds? r.handler ≠ some handle) :
    (answered before after s others r).client.handles[handle]? = s.handles[handle]? := by
  rw [answered, handles_start]
  rcases r with ⟨owner, exchange, part, handler, ⟨records, outcome⟩⟩
  cases hf with
  | columns cursor => exact absurd rfl (hne cursor)
  | rows cursor => exact absurd rfl (hne cursor)
  | ignore => rfl
  | begin => rfl
  | begun place =>
      have hplace : place ≠ handle := fun h => hfed (congrArg some h)
      have hresolve : ∀ (s : Client) (result : Except Error Payload),
          (s.resolve place result).handles[handle]? = s.handles[handle]? := by
        intro s result
        rw [Client.handles_resolve, List.getElem?_modify]
        simp [hplace]
      cases outcome with
      | success metadata =>
          have habandon := handles_abandon ((s.record (.reply owner .begin .pullAll
            ⟨records, .success metadata⟩)).resolve place (.ok (.transaction owner))) others owner
          rw [handles_start] at habandon
          exact (congrArg (·[handle]?) habandon).trans (hresolve _ _)
      | failure e =>
          refine (hresolve _ _).trans ?_
          split <;> rfl
      | dropped =>
          refine (hresolve _ _).trans ?_
          split <;> rfl
  | committed done => cases outcome <;> exact handles_fire _ owner done _ hfed
  | rolledBack done => cases outcome <;> exact handles_fire _ owner done _ hfed

namespace Consumption.Pends

theorem delivery (hp : q.Pends σ) (ha : Attended σ) (hd : Delivery σ σ') : q.Pends σ' := by
  have hsame : ∀ {h : Handle Payload}, σ.client.handles[q.handle]? = some h →
      ∃ h', σ.client.handles[q.handle]? = some h' ∧ h.Ages h' := fun hh => ⟨_, hh, .same _⟩
  -- Outcomes get to no handles but those that they were to get to before.
  have hfed : ∀ r ∈ σ'.outstanding, feeds? r.handler ≠ some q.handle := by
    intro r hr hf
    rcases (linked_move hd.move).fed r hr q.handle hf with ⟨r₀, hr₀, -, hf₀⟩ | ⟨heq, -⟩
    · exact hp.unfed r₀ hr₀ hf₀
    · exact absurd hp.lt (heq ▸ Nat.lt_irrefl _)
  cases hd with
  | connect f => exact hp.spared rfl hfed fun _ => hsame
  | flush tx => exact hp.spared rfl hfed fun _ => hsame
  | @answer s before after r reply others ho =>
      have hmem : r ∈ before ++ r :: after := List.mem_append_right _ (List.mem_cons_self ..)
      by_cases hstatement : ∃ cursor, r.exchange = .statement cursor
      · rcases hstatement with ⟨cursor, hr⟩
        have hfit : r.handler.Fits (.statement cursor) r.part := hr ▸ ha.fits r hmem
        rcases served_answered ha reply others hr with ⟨c, hc, hserved⟩
        refine hp.served hserved hc ?_ Cursor.waiters_receive ?_ ?_ hfed
        · exact fun _ => Cursor.mem_waiters_receive (ha.tidy cursor c hc)
        · intro hcomplete hnone
          exact hcomplete ((Cursor.outcome_receive (r := { r with reply := reply }) hfit c).1
            hnone).1
        · intro hname
          rw [Client.name_receive, hname]
      · have hne : ∀ cursor, r.exchange ≠ .statement cursor := fun cursor hr =>
          hstatement ⟨cursor, hr⟩
        refine hp.spared (cursors_answered_of_other others (ha.fits r hmem) hne) hfed ?_
        intro h hh
        have hsame : (answered before after s others { r with reply := reply }).client.handles[
            q.handle]? = s.handles[q.handle]? :=
          handles_answered others (ha.fits r hmem) hne (hp.unfed r hmem)
        exact ⟨h, hsame.trans hh, .same h⟩

theorem deliveries (hp : q.Pends σ) (ha : Attended σ) (hd : Deliveries σ σ') : q.Pends σ' := by
  induction hd with
  | refl => exact hp
  | tail hds hd ih => exact ih.delivery (ha.deliveries hds) hd

/-! ### Steps -/

/-- A handle that has been added is not the one. -/
theorem handles_append (hp : q.Pends σ) (h : Handle Payload) :
    (σ.client.handles ++ [h])[q.handle]? = σ.client.handles[q.handle]? :=
  List.getElem?_append_left hp.lt

theorem asked (hp : q.Pends (.of s)) (tx : Nat) (statement : String) (params : Params)
    (name : Option String) : q.Pends (asked s tx statement params name) := by
  rcases hp.expects with ⟨c, h, hc, hh, he⟩
  have hcursors : (Nonblocking.asked s tx statement params name).client.cursors =
      s.cursors ++ [{ statement := statement, owner := tx, name := name }] := rfl
  refine ⟨?_, ?_, c, h, ?_, hh, he⟩
  · intro r hr hf
    rcases List.mem_append.1 hr with hr | hr
    · exact hp.unfed r hr hf
    · have hnone := (feeds?_requests rfl hr hf).2
      simp [feeds?] at hnone
  · intro place c' hc' hw
    rcases getElem?_concat_cases (hcursors ▸ hc') with ⟨-, rfl⟩ | hc'
    · -- Nobody waits for a new cursor.
      simp at hw
    · exact hp.elsewhere place c' hc' hw
  · have hlt : q.cursor < s.cursors.length := (List.getElem?_eq_some_iff.1 hc).1
    rw [hcursors, List.getElem?_append_left hlt]
    exact hc

theorem awaiting (hp : q.Pends ⟨before, s⟩) (cursor : Nat) (name : Option String) :
    q.Pends ⟨before, awaiting s cursor name⟩ := by
  rcases hp.expects with ⟨c, h, hc, hh, he⟩
  have hlt : q.handle < s.handles.length := hp.lt
  refine ⟨hp.unfed, ?_, ?_⟩
  · intro place c' hc' hw
    rcases getElem?_modify_cases hc' with ⟨rfl, c₁, hc₁, rfl⟩ | ⟨-, hother⟩
    · -- The new handle is another one.
      rcases List.mem_append.1 hw with hw | hw
      · exact hp.elsewhere _ c₁ hc₁ hw
      · exact absurd (List.mem_singleton.1 hw) (Nat.ne_of_lt hlt)
    · exact hp.elsewhere place c' hother hw
  · refine ⟨if cursor = q.cursor then c.await s.handles.length else c, h, ?_,
      (hp.handles_append _).trans hh, ?_⟩
    · have hmodify : (Nonblocking.awaiting s cursor name).cursors[q.cursor]? =
          (s.cursors.modify cursor fun c => c.await s.handles.length)[q.cursor]? := rfl
      have hc' : s.cursors[q.cursor]? = some c := hc
      simp only [hmodify, List.getElem?_modify, hc']
      split <;> rfl
    · have hwaiters : q.handle ∈ (c.await s.handles.length).waiters ↔ q.handle ∈ c.waiters := by
        simp [Cursor.await, Nat.ne_of_lt hlt]
      split
      · cases he with
        | waits hw hpending => exact .waits (hwaiters.2 hw) hpending
        | told hw hd hdone => exact .told (fun h => hw (hwaiters.1 h)) hd hdone
      · exact he

theorem dropCursor (hp : q.Pends (.of s)) (ha : Attended (.of s)) (cursor : Nat) :
    q.Pends (.of (s.dropCursor cursor)) := by
  have hfed : ∀ r ∈ (s.dropCursor cursor).connection.queue, feeds? r.handler ≠ some q.handle := by
    rw [(Client.Calm.dropCursor s cursor).connection]
    exact hp.unfed
  cases hc : s.cursors[cursor]? with
  | none =>
      have hsame := dropCursor_of_none hc
      exact hp.spared hsame.1 hfed fun h hh => ⟨h, by rw [Situation.of, hsame.2]; exact hh, .same h⟩
  | some c =>
      exact hp.served (f := fun c => { c with name := none }) (served_dropCursor ha hc) hc
        (fun _ => id) (fun _ => rfl) id (fun _ => rfl) hfed

theorem dealing (hp : q.Pends (.of s)) (ha : Attended (.of s)) {step : Step}
    (hd : Dealing s step σ) : q.Pends σ := by
  cases hd with
  | elsewhere _ he =>
      refine hp.spared he.spares.cursors ?_ (he.spares.handles q.handle)
      rcases he.sent with ⟨new, heq, hnew⟩
      intro r hr hf
      rw [heq] at hr
      rcases List.mem_append.1 hr with hr | hr
      · exact hp.unfed r hr hf
      · exact absurd ((hnew r hr).2.2 _ hf) (Nat.ne_of_lt hp.lt)
  | run name statement params result tx => exact hp.asked tx statement params result
  | consume result name hname hc hn => exact hp.awaiting _ name
  | dropResult result cursor => exact hp.dropCursor ha cursor
  | setBookmark hset => exact hp.spared rfl hp.unfed fun h hh => ⟨h, hh, .same h⟩

theorem perform (hp : q.Pends (.of s)) (ha : Attended (.of s)) (step : Step) :
    q.Pends (.of (perform .nonblocking s step).2) := by
  rcases deals_perform s step with ⟨σ, hdealing, hdeliveries⟩
  exact (hp.dealing ha hdealing).deliveries (ha.dealing hdealing) hdeliveries

theorem run (hp : q.Pends (.of s)) (ha : Attended (.of s)) (steps : List Step) :
    q.Pends (.of (Scenario.after .nonblocking s steps)) := by
  induction steps generalizing s with
  | nil => exact hp
  | cons step rest ih => exact ih (hp.perform ha step) (ha.perform step)

end Consumption.Pends

/-- Whoever asks for a summary learns the outcome of the stream, or waits for the cursor. -/
theorem pends_consume (hs : Sound ⟨before, s⟩) {cursor : Nat} (hc : s.cursors[cursor]? = some c)
    (name : Option String) :
    (Consumption.mk cursor s.handles.length).Pends ⟨before, consume s cursor name⟩ := by
  -- Nobody has the handle that is made now.
  have hnobody : ∀ (place : Nat) (c : Cursor), s.cursors[place]? = some c →
      s.handles.length ∉ c.waiters := by
    intro place c hc hw
    exact Nat.lt_irrefl _ (hs.awaited _ ⟨c, List.mem_of_getElem? hc, hw⟩)
  have hunfed : ∀ r ∈ before, feeds? r.handler ≠ some s.handles.length := by
    intro r hr hf
    exact Nat.lt_irrefl _ (hs.fed r hr _ hf)
  unfold consume
  rw [hc]
  dsimp only
  cases hout : c.outcome with
  | some outcome =>
      refine ⟨hunfed, ?_, c, .ready name (outcome.map Payload.summary), hc, by simp,
        .told (hnobody cursor c hc) ?_ (Or.inl (by simp [hout]))⟩
      · intro place c' hc' hw
        exact absurd hw (hnobody place c' hc')
      · simp [Handle.isAwaited, Handle.isResolved, Handle.ready]
  | none =>
      refine ⟨hunfed, ?_, c.await s.handles.length, .fresh name, ?_, by simp,
        .waits (by simp [Cursor.await]) fun _ => rfl⟩
      · intro place c' hc' hw
        rcases getElem?_modify_cases hc' with ⟨rfl, -⟩ | ⟨-, hother⟩
        · rfl
        · exact absurd hw (hnobody place c' hother)
      · simp [hc]

end

/-! ## Runs -/

/-- From the step on that returns it, a handle for a summary is for its cursor. -/
theorem pends_of_consumptions {s : Client} (hs : Sound (.of s)) (ha : Attended (.of s))
    (steps : List Step) :
    ∀ q ∈ consumptions s steps, q.Pends (.of (after .nonblocking s steps)) := by
  induction steps generalizing s with
  | nil => simp [consumptions]
  | cons step rest ih =>
      intro q hq
      rcases List.mem_append.1 hq with hq | hq
      · have hq := Option.mem_toList.1 hq
        cases step with
        | consume result name =>
            rcases Option.map_eq_some_iff.1 hq with ⟨cursor, hname, rfl⟩
            have hlt : cursor < s.cursors.length :=
              (List.findIdx?_eq_some_iff_getElem.1 hname).1
            have hc := List.getElem?_eq_getElem hlt
            have hperform : (perform .nonblocking s (.consume result name)).2 =
                consume s cursor name := by
              simp [perform, Scenario.consume, onCursor, hname, hc]
            have hpends : (Consumption.mk cursor s.handles.length).Pends
                (.of (consume s cursor name)) := by
              rw [Situation.of, (frame_consume s cursor name).2.1]
              exact pends_consume hs hc name
            rw [← hperform] at hpends
            exact hpends.run (ha.perform _) rest
        | _ => simp [consumption?] at hq
      · exact ih (hs.moves (leads_perform s step)) (ha.perform step) q hq

/-- After every run, when no request of a statement is outstanding, each of its two replies has come
or has been given up, and a handle for its summary still waits exactly if someone holds the handle,
the application holds the cursor, the RUN did not fail, and the PULL_ALL was given up. -/
theorem summary_awaited_iff (steps : List Step) {q : Consumption}
    (hq : q ∈ consumptions {} steps)
    (hdone : ∀ r ∈ (after .nonblocking {} steps).connection.queue,
      r.holdsCursor q.cursor = false) :
    ∃ c h run pull, (after .nonblocking {} steps).cursors[q.cursor]? = some c ∧
      (after .nonblocking {} steps).handles[q.handle]? = some h ∧
      (after .nonblocking {} steps).fates q.cursor .run = [run] ∧
      (after .nonblocking {} steps).fates q.cursor .pullAll = [pull] ∧
      (h.isAwaited = true ↔ h.isHeld = true ∧ c.name.isSome = true ∧ run.failure? = none ∧
        pull = .dropped) := by
  have hattended := attended_after steps
  rcases (pends_of_consumptions sound_start attended_start steps q hq).expects with
    ⟨c, h, hc, hh, he⟩
  have hlt : q.cursor < (after .nonblocking {} steps).cursors.length :=
    (List.getElem?_eq_some_iff.1 hc).1
  have hnone : ∀ part,
      askedFor q.cursor part (after .nonblocking {} steps).connection.queue = 0 := by
    intro part
    refine List.countP_eq_zero.2 fun r hr => ?_
    have hother : r.exchange ≠ .statement q.cursor := by
      rw [ne_eq, ← (hattended.fits r hr).holdsCursor_iff, hdone r hr]
      exact Bool.false_ne_true
    simp [hother]
  -- Both requests have come to their ends.
  rcases hattended.exists_fate hlt (hnone .run) with ⟨run, hrun⟩
  rcases hattended.exists_fate hlt (hnone .pullAll) with ⟨pull, hpull⟩
  -- Nobody but the application holds the cursor.
  have hheld : c.waiters ≠ [] → c.name.isSome = true := by
    intro hw
    rcases hattended.held q.cursor c hc hw with hname | ⟨part, hpos⟩
    · exact hname
    · exact absurd (hnone part) (Nat.ne_of_gt hpos)
  refine ⟨c, h, run, pull, hc, hh, hrun, hpull, ?_⟩
  rw [he.isAwaited_iff (hattended.tidy q.cursor c hc) hheld, hattended.outcome q.cursor c hc,
    goesOn_iff_of_fates_eq hrun hpull]

/-- Both handlers of a statement are given up, and someone has asked for its summary before. -/
def discarded : List Step :=
  [.begin { tx := "t", config := .settings [], reported := true, bookmarkOf := none
            handle := "b" },
    .take "b", .script ⟨"S", some { outcome := .dropped }, some { outcome := .dropped }⟩,
    .hold true, .run "t" "S" [] (some "r"), .consume "r" (some "h"), .deliver none]

theorem summary_awaited_of_discarded :
    ∃ c h run pull, (after .nonblocking {} discarded).cursors[0]? = some c ∧
      (after .nonblocking {} discarded).handles[1]? = some h ∧
      (after .nonblocking {} discarded).fates 0 .run = [run] ∧
      (after .nonblocking {} discarded).fates 0 .pullAll = [pull] ∧
      (h.isAwaited = true ↔ h.isHeld = true ∧ c.name.isSome = true ∧ run.failure? = none ∧
        pull = .dropped) :=
  summary_awaited_iff discarded (q := ⟨0, 1⟩) (List.mem_singleton_self _) (by
    intro r hr
    exact absurd hr List.not_mem_nil)

/-- A handle may wait although nobody is left who could resolve it. -/
theorem exists_summary_awaited :
    ¬ ∀ (steps : List Step) (q : Consumption) (h : Handle Payload), q ∈ consumptions {} steps →
      (∀ r ∈ (after .nonblocking {} steps).connection.queue, r.holdsCursor q.cursor = false) →
      (after .nonblocking {} steps).handles[q.handle]? = some h → h.isAwaited = false := by
  intro hall
  have hwaits := hall discarded ⟨0, 1⟩ ⟨some "h", .pending false⟩ (List.mem_singleton_self _)
    (fun r hr => absurd hr List.not_mem_nil) rfl
  simp [Handle.isAwaited, Handle.isHeld, Handle.isResolved] at hwaits

end Nonblocking

end ClientTransaction
