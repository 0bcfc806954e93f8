import ClientTransaction.Proofs.Nonblocking.Verdicts

/-!
# Nonblocking.Observers — whoever asks for a summary learns the same

Those who have asked for the summary of a stream learn it with the very thing that brings it about,
be it a reply that ends the stream or the last holder of the cursor letting it go. Those who ask
later learn it at once. Nobody learns anything else, and so all learn the same.

Those who ask are callers that do not wait. The result of a call that waits has a cursor, too, but
in a scenario it is asked by waiting only: nobody registers for the summary on that cursor, and
nothing is said here of those who would.
-/

namespace ClientTransaction

/-- An outcome that has come to a handle is there until it is taken, and no other one comes. -/
structure Handle.Retains {α : Type} (h h' : Handle α) : Prop where
  resolved : ∀ result, h.state = .resolved result →
    h'.state = .resolved result ∨ h'.state = .spent
  spent : h.state = .spent → h'.state = .spent

namespace Handle

variable {α : Type} {h h₁ h₂ : Handle α}

theorem Retains.refl (h : Handle α) : h.Retains h :=
  ⟨fun _ => Or.inl, id⟩

theorem Retains.trans (hr : h.Retains h₁) (hr' : h₁.Retains h₂) : h.Retains h₂ where
  resolved := by
    intro result hstate
    rcases hr.resolved result hstate with h | h
    · exact hr'.resolved result h
    · exact Or.inr (hr'.spent h)
  spent := fun hstate => hr'.spent (hr.spent hstate)

theorem Ages.retains (ha : h.Ages h₁) : h.Retains h₁ := by
  cases ha with
  | same => exact .refl h
  | asked name watched watched' => exact ⟨by simp, by simp⟩
  | taken name result => exact ⟨fun _ _ => Or.inr rfl, by simp⟩
  | dropped => exact ⟨fun _ _ => Or.inr rfl, fun _ => rfl⟩

theorem retains_resolve (h : Handle α) (result : Except Error α) :
    h.Retains (h.resolve result) := by
  rcases h with ⟨name, state⟩
  cases name <;> cases state <;> exact ⟨by simp [resolve], by simp [resolve]⟩

end Handle

namespace Nonblocking

open Scenario

/-- A handle that is held shows what there is to learn, until that is taken, and shows nothing
else. -/
structure Reflects (h : Handle Payload) (verdict : Option (Except Error Payload)) : Prop where
  shows : Shows h verdict
  only : ∀ result, h.state = .resolved result → verdict = some result

section

variable {h h' : Handle Payload} {verdict : Option (Except Error Payload)}
  {result : Except Error Payload}

theorem Reflects.ages (hr : Reflects h verdict) (ha : h.Ages h') : Reflects h' verdict :=
  ⟨hr.shows.ages ha, fun result hstate => hr.only result (ha.resolved hstate)⟩

/-- Nothing was there, and now the outcome is. -/
theorem Reflects.state_resolve (hr : Reflects h none) (hheld : h.isHeld = true)
    (result : Except Error Payload) : (h.resolve result).state = .resolved result := by
  have hpending := hr.shows hheld
  rcases h with ⟨name, state⟩
  cases name <;> cases state <;>
    simp [Handle.isHeld, Handle.isResolved, Handle.resolve] at hheld hpending ⊢

theorem Reflects.resolve (hr : Reflects h none) (result : Except Error Payload) :
    Reflects (h.resolve result) (some result) := by
  refine ⟨hr.shows.resolve result, fun other hstate => ?_⟩
  cases hheld : h.isHeld with
  | true =>
      rw [hr.state_resolve hheld] at hstate
      cases hstate
      rfl
  | false =>
      -- An outcome for nobody is discarded.
      have hsame : h.resolve result = h := by
        rcases h with ⟨name, state⟩
        cases name <;> simp [Handle.isHeld, Handle.resolve] at hheld ⊢
      rw [hsame] at hstate
      cases hr.only other hstate

end

/-! ## Those who have asked -/

section

variable {qs : List Consumption} {q : Consumption} {σ σ' : Situation} {rs : List Request}
  {s : Client} {c : Cursor} {cursor place : Nat}

/-- The handle is for the cursor: it tells what there is to learn, and waits as long as there is
nothing. -/
structure Consumption.Heeds (q : Consumption) (σ : Situation) : Prop where
  pends : q.Pends σ
  told : ∃ c h, σ.client.cursors[q.cursor]? = some c ∧ σ.client.handles[q.handle]? = some h ∧
    (σ.verdict? q.cursor = none → q.handle ∈ c.waiters) ∧ Reflects h (σ.verdict? q.cursor)

theorem Consumption.Heeds.reflects (hq : q.Heeds σ) {h : Handle Payload}
    (hh : σ.client.handles[q.handle]? = some h) : Reflects h (σ.verdict? q.cursor) := by
  rcases hq.told with ⟨-, h₀, -, hh₀, -, hreflects⟩
  cases hh₀.symm.trans hh
  exact hreflects

/-- What becomes of a handle. -/
inductive Consumption.Learns (q : Consumption) (σ σ' : Situation) : Prop
  | nothing {h h' : Handle Payload} (hh : σ.client.handles[q.handle]? = some h)
      (hh' : σ'.client.handles[q.handle]? = some h') (ha : h.Ages h')
      (hv : σ'.verdict? q.cursor = σ.verdict? q.cursor) : q.Learns σ σ'
  | outcome {h : Handle Payload} {result : Except Error Payload}
      (hh : σ.client.handles[q.handle]? = some h)
      (hh' : σ'.client.handles[q.handle]? = some (h.resolve result))
      (hv : σ.verdict? q.cursor = none) (hv' : σ'.verdict? q.cursor = some result) : q.Learns σ σ'

/-- Whoever waits learns something exactly when there is something to learn. -/
theorem Consumption.Heeds.learns (hq : q.Heeds σ) (ha : Attended σ) (h : Advance qs σ σ') :
    q.Learns σ σ' := by
  rcases hq.told with ⟨c₀, hd, hc₀, hh, hwaits, -⟩
  have hlt := (List.getElem?_eq_some_iff.1 hc₀).1
  rcases h.undisturbed_or_concerns ha with hu | ⟨cursor, c, f, hc⟩
  · rcases hu.handles q.handle hd hq.pends.unfed hh with ⟨h', hh', hages⟩
    exact .nothing hh hh' hages (hu.verdict?_eq hlt)
  · have hhandle := hc.served.handles q.handle
    rw [hh, Option.map_some] at hhandle
    -- Who does not wait for the cursor is left alone.
    have hleft : q.handle ∉ c.waiters → σ'.client.handles[q.handle]? = some hd := fun hnot => by
      rw [hhandle, Handle.heed_of_not_mem hnot, id]
    by_cases hp : q.cursor = cursor
    · subst hp
      cases hc.here.symm.trans hc₀
      have hverdict := hc.verdict?_self
      cases hv : σ.verdict? q.cursor with
      | some result =>
          have hnobody : q.handle ∉ c₀.waiters := fun hw => by
            rw [ha.verdict?_eq_none hc₀ (List.ne_nil_of_mem hw)] at hv
            cases hv
          exact .nothing hh (hleft hnobody) (.same hd) ((h.verdict_stands ha hv).trans hv.symm)
      | none =>
          cases hv' : (f c₀).verdict? (σ'.holds q.cursor) with
          | none =>
              rw [hv'] at hverdict hhandle
              exact .nothing hh hhandle (.same hd) (hverdict.trans hv.symm)
          | some result =>
              rw [hv'] at hverdict hhandle
              refine .outcome hh ?_ hv hverdict
              simpa [Handle.heed, hwaits hv] using hhandle
    · have hnot : q.handle ∉ c.waiters := fun hw =>
        hp (hq.pends.elsewhere cursor c hc.here hw).symm
      exact .nothing hh (hleft hnot) (.same hd) (hc.verdict?_of_ne hp)

theorem Consumption.Learns.reflects (hl : q.Learns σ σ') {h : Handle Payload}
    (hh : σ.client.handles[q.handle]? = some h) (hr : Reflects h (σ.verdict? q.cursor)) :
    ∃ h', σ'.client.handles[q.handle]? = some h' ∧ h.Retains h' ∧
      Reflects h' (σ'.verdict? q.cursor) := by
  cases hl with
  | nothing hh₁ hh' ha hv =>
      cases hh₁.symm.trans hh
      exact ⟨_, hh', ha.retains, hv ▸ hr.ages ha⟩
  | outcome hh₁ hh' hv hv' =>
      cases hh₁.symm.trans hh
      rw [hv] at hr
      exact ⟨_, hh', h.retains_resolve _, hv' ▸ hr.resolve _⟩

/-- Whoever waits goes on waiting as long as there is nothing to learn. -/
theorem Advance.mem_waiters {handle : Nat} {c' : Cursor} (h : Advance qs σ σ') (ha : Attended σ)
    (hc₀ : σ.client.cursors[place]? = some c) (hw : handle ∈ c.waiters)
    (hc' : σ'.client.cursors[place]? = some c') (hv : σ'.verdict? place = none) :
    handle ∈ c'.waiters := by
  rcases h.undisturbed_or_concerns ha with hu | ⟨cursor, c₁, f, hc⟩
  · rcases hu.cursors place c hc₀ with ⟨c₂, hc₂, -, -, hsub⟩
    cases hc₂.symm.trans hc'
    exact hsub hw
  · by_cases hp : place = cursor
    · subst hp
      cases hc.here.symm.trans hc₀
      cases hc.getElem?_self.symm.trans hc'
      rw [hc.verdict?_self] at hv
      have hkept := hc.waiters (Cursor.verdict?_eq_none.1 hv).1
      simpa [Cursor.dismiss, hv, hkept] using hw
    · rw [hc.getElem?_of_ne hp] at hc'
      cases hc₀.symm.trans hc'
      exact hw

theorem Consumption.Heeds.advance (hq : q.Heeds σ) (ha : Attended σ) (h : Advance qs σ σ') :
    q.Heeds σ' := by
  rcases hq.told with ⟨c, hd, hc, hh, hwaits, hreflects⟩
  have hp := hq.pends.advance ha h
  rcases (hq.learns ha h).reflects hh hreflects with ⟨h', hh', -, hreflects'⟩
  rcases hp.expects with ⟨c', -, hc', -, -⟩
  refine ⟨hp, c', h', hc', hh', fun hv => ?_, hreflects'⟩
  refine h.mem_waiters ha hc (hwaits ?_) hc' hv
  -- What there was to learn would still be there.
  cases hv₀ : σ.verdict? q.cursor with
  | none => rfl
  | some result =>
      rw [h.verdict_stands ha hv₀] at hv
      cases hv

/-- Whoever asks learns at once what there is to learn, or begins to wait. -/
theorem heeds_consume (hs : Sound ⟨rs, s⟩) (hc : s.cursors[cursor]? = some c)
    (hheld : c.name.isSome = true) (name : Option String) :
    (Consumption.mk cursor s.handles.length).Heeds ⟨rs, consume s cursor name⟩ := by
  refine ⟨pends_consume hs hc name, ?_⟩
  cases hout : c.outcome with
  | some outcome =>
      have hverdict : Situation.verdict? ⟨rs, s.addHandle (.ready name
          (outcome.map Payload.summary))⟩ cursor = some (outcome.map Payload.summary) := by
        rw [Situation.verdict?_eq (c := c) hc, Cursor.verdict?_of_outcome hout]
      rw [consume_of_outcome hc hout]
      refine ⟨c, .ready name (outcome.map Payload.summary), hc, by simp, fun hv => ?_, ?_⟩
      · cases hverdict.symm.trans hv
      · rw [hverdict]
        refine ⟨fun _ => Or.inl rfl, fun result hresult => ?_⟩
        cases hresult
        rfl
  | none =>
      have hplace : (awaiting s cursor name).cursors[cursor]? =
          some (c.await s.handles.length) := by
        simp [awaiting, hc]
      have hverdict : Situation.verdict? ⟨rs, awaiting s cursor name⟩ cursor = none := by
        rw [Situation.verdict?_eq hplace, Cursor.verdict?_eq_none]
        exact ⟨hout, Or.inl hheld⟩
      rw [consume_of_open hc hout]
      refine ⟨_, .fresh name, hplace, by simp [awaiting], fun _ => by simp [Cursor.await], ?_⟩
      rw [hverdict]
      exact ⟨fun _ => rfl, fun result hresult => by cases hresult⟩

end

/-! ## Runs -/

section

variable {qs later : List Consumption} {σ σ₁ σ' : Situation}

/-- Statements are attended to, and so is everyone who has asked for a summary. -/
structure Observed (qs : List Consumption) (σ : Situation) : Prop where
  sound : Sound σ
  attended : Attended σ
  concluded : σ.Concluded
  heeds : ∀ q ∈ qs, q.Heeds σ

/-- What has been learned is learned for good. -/
structure Lasts (qs : List Consumption) (σ σ' : Situation) : Prop where
  outcome : ∀ (cursor : Nat) (c : Cursor) (outcome : Except Error Params),
    σ.client.cursors[cursor]? = some c → c.outcome = some outcome →
      ∃ c' : Cursor, σ'.client.cursors[cursor]? = some c' ∧ c'.outcome = some outcome
  verdict : ∀ (cursor : Nat) (result : Except Error Payload), σ.verdict? cursor = some result →
    σ'.verdict? cursor = some result
  /-- A handle is resolved once. -/
  handles : ∀ q ∈ qs, ∀ h : Handle Payload, σ.client.handles[q.handle]? = some h →
    ∃ h' : Handle Payload, σ'.client.handles[q.handle]? = some h' ∧ h.Retains h'

theorem Lasts.refl (qs : List Consumption) (σ : Situation) : Lasts qs σ σ :=
  ⟨fun _ c _ hc ho => ⟨c, hc, ho⟩, fun _ _ => id, fun _ _ h hh => ⟨h, hh, .refl h⟩⟩

theorem Lasts.trans (hl : Lasts qs σ σ₁) (hl' : Lasts (qs ++ later) σ₁ σ') : Lasts qs σ σ' where
  outcome := by
    intro cursor c outcome hc ho
    rcases hl.outcome cursor c outcome hc ho with ⟨c₁, hc₁, ho₁⟩
    exact hl'.outcome cursor c₁ outcome hc₁ ho₁
  verdict := fun cursor result hv => hl'.verdict cursor result (hl.verdict cursor result hv)
  handles := by
    intro q hq h hh
    rcases hl.handles q hq h hh with ⟨h₁, hh₁, hr⟩
    rcases hl'.handles q (List.mem_append_left _ hq) h₁ hh₁ with ⟨h', hh', hr'⟩
    exact ⟨h', hh', hr.trans hr'⟩

namespace Observed

theorem start : Observed [] (.of {}) where
  sound := sound_start
  attended := attended_start
  concluded := by simp [Situation.Concluded, Situation.of]
  heeds := by simp

theorem advance (h : Observed qs σ) (ha : Advance later σ σ') : Observed (qs ++ later) σ' where
  sound := h.sound.moves ha.moves
  attended := ha.attended h.attended
  concluded := by
    rcases ha.undisturbed_or_concerns h.attended with hu | ⟨cursor, c, f, hc⟩
    · exact hu.concluded h.attended h.concluded
    · exact hc.concluded h.concluded
  heeds := by
    intro q hq
    rcases List.mem_append.1 hq with hq | hq
    · exact (h.heeds q hq).advance h.attended ha
    · cases ha with
      | asks hc hheld name =>
          cases List.mem_singleton.1 hq
          exact heeds_consume h.sound hc hheld name
      | _ => cases hq

theorem advances (h : Observed qs σ) (ha : Advances later σ σ') : Observed (qs ++ later) σ' := by
  induction ha with
  | refl => simpa using h
  | tail _ ha ih =>
      rw [← List.append_assoc]
      exact (ih h).advance ha

theorem lasts_advance (h : Observed qs σ) (ha : Advance later σ σ') : Lasts qs σ σ' where
  outcome := fun _ _ _ hc ho => ha.outcome_stands h.attended hc ho
  verdict := fun _ _ hv => ha.verdict_stands h.attended hv
  handles := by
    intro q hq hd hh
    rcases ((h.heeds q hq).learns h.attended ha).reflects hh ((h.heeds q hq).reflects hh)
      with ⟨h', hh', hretains, -⟩
    exact ⟨h', hh', hretains⟩

theorem lasts (h : Observed qs σ) (ha : Advances later σ σ') : Lasts qs σ σ' := by
  induction ha with
  | refl => exact .refl qs _
  | tail hs ha ih => exact (ih h).trans ((h.advances hs).lasts_advance ha)

/-- Whoever waits is told by the very thing that brings an outcome about. -/
theorem exactly (h : Observed qs σ) (ha : Advance later σ σ') {q : Consumption} (hq : q ∈ qs)
    (hv : σ.verdict? q.cursor = none) {result : Except Error Payload}
    (hv' : σ'.verdict? q.cursor = some result) {hd : Handle Payload}
    (hh : σ'.client.handles[q.handle]? = some hd) (hheld : hd.isHeld = true) :
    hd.state = .resolved result := by
  cases (h.heeds q hq).learns h.attended ha with
  | nothing _ _ _ hsame =>
      rw [hsame, hv] at hv'
      cases hv'
  | @outcome h₁ other hh₁ hh' _ hother =>
      have hreflects := (h.heeds q hq).reflects hh₁
      cases hh'.symm.trans hh
      cases hother.symm.trans hv'
      rw [hv] at hreflects
      exact hreflects.state_resolve ((Handle.grows_resolve _ _).held hheld) result

/-- Whoever asks when there is something to learn has it at once. -/
theorem atOnce (ha : Advance later σ σ') {q : Consumption} (hq : q ∈ later)
    {result : Except Error Payload} (hv : σ.verdict? q.cursor = some result) :
    ∃ h : Handle Payload, σ'.client.handles[q.handle]? = some h ∧ h.state = .resolved result := by
  cases ha with
  | @asks rs s cursor c hc hheld name =>
      cases List.mem_singleton.1 hq
      rw [Situation.verdict?_eq (c := c) hc, Cursor.verdict?_eq_some] at hv
      rcases hv with ⟨outcome, hout, rfl⟩ | ⟨-, hname, -⟩
      · rw [consume_of_outcome hc hout]
        exact ⟨.ready name (outcome.map Payload.summary), by simp, rfl⟩
      · -- Whoever asks holds the cursor.
        simp [hname] at hheld
  | _ => cases hq

/-- All who have asked for the summary of a cursor have learned the same, if anything. -/
theorem agree (h : Observed qs σ) (ha : Advances later σ σ') {q q' : Consumption} (hq : q ∈ qs)
    (hq' : q' ∈ qs ++ later) (hsame : q.cursor = q'.cursor) {hd hd' : Handle Payload}
    {result result' : Except Error Payload} (hh : σ.client.handles[q.handle]? = some hd)
    (hstate : hd.state = .resolved result) (hh' : σ'.client.handles[q'.handle]? = some hd')
    (hstate' : hd'.state = .resolved result') : result = result' := by
  have hlearned := ((h.heeds q hq).reflects hh).only result hstate
  have hlearned' := (((h.advances ha).heeds q' hq').reflects hh').only result' hstate'
  -- What the first has learned still stands when the second learns it.
  have hstands := (h.lasts ha).verdict q.cursor result hlearned
  rw [hsame, hlearned'] at hstands
  exact (Option.some.inj hstands).symm

end Observed

end

/-- After every run everyone who has asked for a summary is attended to. -/
theorem observed_after (steps : List Step) :
    Observed (consumptions {} steps) (.of (after .nonblocking {} steps)) := by
  simpa using Observed.start.advances (advances_after {} steps)

/-! ## Agreement -/

/-- All agree who ask for summaries: `qs` have asked by `σ`, and `later` ask after that, by `σ'`. -/
structure Agreement (qs later : List Consumption) (σ σ' : Situation) : Prop where
  /-- No stream has a summary and an error. -/
  single : ∀ (cursor : Nat) (c : Cursor), σ.client.cursors[cursor]? = some c →
    c.summary? = none ∨ c.error? = none
  /-- The first reply that ends a stream brings its outcome. -/
  first : ∀ (cursor : Nat) (c : Cursor), σ.client.cursors[cursor]? = some c →
    c.outcome = (entries σ.client cursor).findSome? conclusion?
  /-- Each handle shows what there is to learn, and nothing as long as there is nothing. -/
  shows : ∀ q ∈ qs, ∃ h : Handle Payload, σ.client.handles[q.handle]? = some h ∧
    Reflects h (σ.verdict? q.cursor)
  /-- What a handle shows is the outcome of the stream, or that there will be none. -/
  namely : ∀ q ∈ qs, ∀ (c : Cursor) (h : Handle Payload) (result : Except Error Payload),
    σ.client.cursors[q.cursor]? = some c → σ.client.handles[q.handle]? = some h →
      h.state = .resolved result →
        (∃ outcome, c.outcome = some outcome ∧ result = outcome.map Payload.summary) ∨
          c.outcome = none ∧ c.name = none ∧ σ.holds q.cursor = false ∧
            result = .error .completionDropped
  /-- Who has asked learns something with the very thing that brings it about. -/
  exactly : ∀ (new : List Consumption) (σ₁ : Situation), Advance new σ σ₁ → ∀ q ∈ qs,
    σ.verdict? q.cursor = none → ∀ result, σ₁.verdict? q.cursor = some result →
      ∀ h : Handle Payload, σ₁.client.handles[q.handle]? = some h → h.isHeld = true →
        h.state = .resolved result
  /-- Who asks when there is something to learn learns it at once. -/
  atOnce : ∀ (new : List Consumption) (σ₁ : Situation), Advance new σ σ₁ → ∀ q ∈ new,
    ∀ result, σ.verdict? q.cursor = some result →
      ∃ h : Handle Payload, σ₁.client.handles[q.handle]? = some h ∧ h.state = .resolved result
  lasts : Lasts qs σ σ'
  agree : ∀ q ∈ qs, ∀ q' ∈ qs ++ later, q.cursor = q'.cursor → ∀ (h h' : Handle Payload)
    (result result' : Except Error Payload), σ.client.handles[q.handle]? = some h →
      h.state = .resolved result → σ'.client.handles[q'.handle]? = some h' →
        h'.state = .resolved result' → result = result'
  /-- If nobody holds a cursor any more whose stream has no outcome, there will be none. -/
  forsaken : ∀ (cursor : Nat) (c : Cursor), σ.client.cursors[cursor]? = some c →
    c.outcome = none → c.name = none → σ.holds cursor = false →
      σ'.verdict? cursor = some (.error .completionDropped)

/-- After every run and at every moment of what follows it, reply by reply and whenever someone asks
for a summary, all who have asked for the summary of a cursor agree, and they go on to agree with
all who ask later. -/
theorem observers_agree (steps : List Step) {qs later : List Consumption} {σ σ' : Situation}
    (h : Advances qs (.of (after .nonblocking {} steps)) σ) (h' : Advances later σ σ') :
    Agreement (consumptions {} steps ++ qs) later σ σ' := by
  have hobserved := (observed_after steps).advances h
  have hlasts := hobserved.lasts h'
  refine ⟨fun cursor c _ => ?_, hobserved.concluded, fun q hq => ?_, ?_,
    fun new σ₁ ha q hq hv result hv' hd => hobserved.exactly ha hq hv hv',
    fun new σ₁ ha q hq result => Observed.atOnce ha hq, hlasts,
    fun q hq q' hq' hsame hd hd' result result' => hobserved.agree h' hq hq' hsame, ?_⟩
  · cases hout : c.outcome with
    | none => exact Or.inl (by simp [Cursor.summary?, hout])
    | some outcome => cases outcome <;> simp [Cursor.summary?, Cursor.error?, hout]
  · rcases (hobserved.heeds q hq).told with ⟨-, hd, -, hh, -, hreflects⟩
    exact ⟨hd, hh, hreflects⟩
  · intro q hq c hd result hc hh hstate
    rw [← Cursor.verdict?_eq_some, ← Situation.verdict?_eq hc]
    exact ((hobserved.heeds q hq).reflects hh).only result hstate
  · intro cursor c hc hout hname hheld
    refine hlasts.verdict cursor _ ?_
    rw [Situation.verdict?_eq hc, Cursor.verdict?_eq_some]
    exact Or.inr ⟨hout, hname, hheld, rfl⟩

/-- A statement is run, and someone asks for its summary before the replies come. -/
def inquiring : List Step :=
  [.begin { tx := "t", config := .settings [], reported := true, bookmarkOf := none
            handle := "b" },
    .take "b", .hold true, .run "t" "S" [] (some "r"), .consume "r" (some "early")]

/-- The replies come, and someone else asks. -/
def settling : List Step :=
  [.deliver none, .consume "r" (some "late")]

theorem observers_agree_of_inquiring :
    Agreement [⟨0, 1⟩] [⟨0, 2⟩] (.of (after .nonblocking {} inquiring))
      (.of (after .nonblocking (after .nonblocking {} inquiring) settling)) :=
  observers_agree inquiring (.refl _) (advances_after (after .nonblocking {} inquiring) settling)

/-- Both have learned the summary. -/
example : (after .nonblocking {} (inquiring ++ settling)).handles.map Handle.state =
    [.spent, .resolved (.ok (.summary [])), .resolved (.ok (.summary []))] :=
  rfl

end Nonblocking

end ClientTransaction
