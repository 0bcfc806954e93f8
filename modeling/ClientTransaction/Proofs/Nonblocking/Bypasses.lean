import ClientTransaction.Proofs.Client.Withholds
import ClientTransaction.Proofs.Nonblocking.Openings

/-!
# Nonblocking.Bypasses — what can be done about a transaction without a name

A step names the transaction that it is about. One that has no name yet can be taken from the handle
that yields it, and that handle can be let go. Any other step is about other things, and leaves the
transaction to the replies that it lets in.
-/

namespace ClientTransaction.Nonblocking

open Scenario (Step perform transaction? handle? onTransaction onCursor onHandle)
open Client (Serves Withholds)

/-- The transaction is held under no name. -/
def Unnamed (tx : Nat) (s : Client) : Prop :=
  ∀ t : Transaction, s.transactions[tx]? = some t → t.holdings = []

section

variable {tx : Nat} {s s' : Client}

/-! ## Steps on other things -/

/-- What is done concerns others only. -/
structure Bypasses (tx : Nat) (s : Client) (σ : Situation) : Prop where
  transaction : σ.client.transactions[tx]? = s.transactions[tx]?
  withholds : Withholds tx s σ.client
  sent : ∃ new : List Request, σ.outstanding = s.connection.queue ++ new ∧ ∀ r ∈ new, r.owner ≠ tx

/-- What a step can do about a transaction that has no name. -/
inductive Touches (tx : Nat) (s s' : Client) : Prop
  | bypasses {σ : Situation} (hm : Moves (.of s) σ) (hb : Bypasses tx s σ)
      (hd : Deliveries σ (.of s'))
  | takes (h : ¬ Unnamed tx s')
  | drops {place : Nat} {h : Handle Payload} (hh : s.handles[place]? = some h)
      (hyields : h.state = .resolved (.ok (.transaction tx))) (hs : s' = dropHandle s place)

namespace Touches

/-- No reply comes. -/
theorem of_bypasses (hm : Leads [] s s') (hb : Bypasses tx s (.of s')) : Touches tx s s' :=
  .bypasses hm hb .refl

/-- Nothing is sent either. -/
theorem still (hm : Leads [] s s') (ht : s'.transactions[tx]? = s.transactions[tx]?)
    (hw : Withholds tx s s') (hq : s'.connection.queue = s.connection.queue) : Touches tx s s' :=
  of_bypasses hm ⟨ht, hw, [], by simp [Situation.of, hq], by simp⟩

theorem refl (tx : Nat) (s : Client) : Touches tx s s :=
  still (.refl [] s) rfl (.refl s) rfl

/-- Replies are delivered, and that is all. -/
theorem delivers (tx : Nat) (h : Delivers [] s s') : Touches tx s s' :=
  .bypasses .refl ⟨rfl, .refl s, [], by simp [Situation.of], by simp⟩ h

theorem updateTransaction {place : Nat} {f : Transaction → Transaction}
    (hm : Leads [] s (s.updateTransaction place f)) (hp : place ≠ tx) :
    Touches tx s (s.updateTransaction place f) :=
  still hm (by simp [hp]) (.of_handles rfl) rfl

theorem addHandle {h : Handle Payload} (hm : Leads [] s (s.addHandle h))
    (hne : h.state ≠ .resolved (.ok (.transaction tx))) : Touches tx s (s.addHandle h) :=
  still hm rfl (.addHandle s hne) rfl

/-- Another transaction has been let go, and is looked at. -/
theorem abandon {s₁ : Client} {place : Nat} (hcalm : s.Calm s₁)
    (ht : s₁.transactions[tx]? = s.transactions[tx]?) (hw : Withholds tx s s₁) (hp : place ≠ tx) :
    Touches tx s (Client.follow (s₁.abandon s₁.connection.queue place)) := by
  have hserves := (Serves.abandon s₁ s.connection.queue place).trans
    (.start _ (s₁.abandon s.connection.queue place).2)
  have hfollow := Delivers.follow [] (s₁.abandon s₁.connection.queue place)
  unfold Delivers at hfollow
  rw [queue_start, (Frame.abandon s₁ s₁.connection.queue place).connection, hcalm.connection]
    at hfollow
  rw [hcalm.connection]
  have hmoves : Moves (.of s) (abandoned s.connection.queue s₁ place) :=
    .tail (.single (.calm hcalm)) (.abandon place)
  refine .bypasses hmoves ⟨?_, ?_, _, rfl, ?_⟩ hfollow
  · exact (hserves.others tx (Ne.symm hp)).trans ht
  · exact (hw.trans (.abandon _ _ _)).trans (.start _ _)
  · intro r hr
    rw [owner_of_abandon hr]
    exact hp

end Touches

theorem touches_begin (hlt : tx < s.transactions.length) (title : String) (reported : Bool)
    (config : Config) (name : String) : Touches tx s (begin s title reported config name) := by
  have hp : s.transactions.length ≠ tx := Nat.ne_of_gt hlt
  have hfresh : Transaction.isFresh { title := title, reported := reported } := ⟨rfl, rfl⟩
  have hadd := (Serves.addTransaction s { title := title, reported := reported }).others tx hp.symm
  unfold begin
  dsimp only
  split
  · have hbegun : Move (.of s) (begunAtOnce s.connection.queue s _ config.beginParameters
        (some name)) := .begin _ hfresh _ _
    have hyields : (Handle.ready (some name) (.ok (.transaction s.transactions.length)) :
        Handle Payload).state ≠ .resolved (.ok (.transaction tx)) := by
      simpa [Handle.ready] using hp
    refine .bypasses (.single hbegun) ⟨hadd, ?_, _, rfl, ?_⟩ ?_
    · exact (Withholds.of_handles rfl).trans (.addHandle (Client.send _ _ _ _ _ _ _) hyields)
    · intro r hr
      rw [(mem_requests hr).1]
      exact hp
    · unfold Situation.of
      rw [(Client.frame_addHandle _ _).2.2.2.1, (Client.frame_send _ _ _ _ _ _ _).2.2.2.1]
      exact .refl
  · have hbegun : Move (.of s) (begunAwaited s.connection.queue s _ config.beginParameters
        (some name)) := .beginAwaited _ hfresh _ _
    -- BEGIN is flushed after the handle has been made.
    have hflush := Delivers.flush [] (((s.addTransaction
      { title := title, reported := reported }).addHandle (.fresh (some name))).send
        s.transactions.length .begin Message.begin config.beginParameters .ignore
        (.begun s.handles.length)) s.transactions.length
    unfold Delivers at hflush
    rw [(Client.frame_send _ _ _ _ _ _ _).2.2.2.1] at hflush
    refine .bypasses (.single hbegun) ⟨hadd, ?_, _, rfl, ?_⟩ hflush
    · exact (Withholds.addHandle s (h := .fresh (some name)) (by simp [Handle.fresh])).trans
        (.of_handles rfl)
    · intro r hr
      rw [(mem_requests hr).1]
      exact hp

theorem touches_runStatement {place : Nat} (hp : place ≠ tx) (statement : String)
    (params : Params) (name : Option String) :
    Touches tx s (runStatement s place statement params name).2 := by
  unfold runStatement
  split
  · exact .refl tx s
  · have hadd : Leads [] s (s.addCursor { statement := statement, owner := place, name := name }) :=
      .calm [] (.addCursor s rfl)
    have hsend := hadd.trans (.of_move_send rfl (.send place s.cursors.length statement params))
    refine .bypasses hsend ⟨rfl, .of_handles rfl, _, (Client.frame_send _ _ _ _ _ _ _).2.2.2.1, ?_⟩
      (Delivers.flush [] _ place)
    intro r hr
    rw [(mem_requests hr).1]
    exact hp

theorem withholds_taken (place : Nat) (name : Option String) (course : Course) :
    Withholds tx s (taken s.connection.queue s place name course).client := by
  have hclaimed : Withholds tx s (claimed s place name) :=
    Withholds.addHandle (s.updateTransaction place Transaction.claim) (h := .fresh name)
      (by simp [Handle.fresh])
  cases course with
  | finish result =>
      have hreleased : Withholds tx s ((claimed s place name).release place) :=
        hclaimed.trans (.of_handles rfl)
      exact hreleased.trans (.resolve _ _ (by cases result <;> simp [Except.map]))
  | commit => exact hclaimed.trans (.of_handles rfl)
  | commitOrRollback => exact hclaimed.trans (.of_handles rfl)
  | rollback => exact hclaimed.trans (.of_handles rfl)

theorem touches_terminate {place : Nat} (hp : place ≠ tx) (hk : s.Kept place) (terminal : Terminal)
    (name : Option String) : Touches tx s (terminate s place terminal name) := by
  cases ht : s.transactions[place]? with
  | none => simpa [terminate, ht] using Touches.refl tx s
  | some t =>
      cases hc : t.closing with
      | true =>
          -- Refused or done, the answer is no transaction.
          have hanswer : ∀ other, (if t.isOpen then .error .alreadyClosing else .ok .unit :
              Except Error Payload) ≠ .ok (.transaction other) := by
            intro other h
            split at h <;> simp at h
          rw [terminate_of_claimed ht hc]
          exact .addHandle (.of_move_same rfl (.answered name _ hanswer))
            (by simpa [Handle.ready] using hanswer tx)
      | false =>
          rw [terminate_of_unclaimed ht hc]
          rcases outstanding_taken s.connection.queue s place name (terminal.course t.state) with
            ⟨new, hnew, howner⟩
          exact .bypasses (.single (.claim ht hc hk name terminal))
            ⟨(serves_taken _ s place name _).others tx (Ne.symm hp), withholds_taken _ name _, new,
              hnew, fun r hr => (howner r hr).symm ▸ hp⟩
            (deliveries_sendTerminal s place name _)

/-- What is asked gives the transaction, or ages. -/
theorem touches_ask {place : Nat}
    {question : Handle Payload → Option (Except Error Payload) × Handle Payload}
    (hages : ∀ h : Handle Payload, h.Ages (question h).2)
    (hm : Leads [] s (ask s place question).2) : Touches tx s (ask s place question).2 := by
  unfold ask at hm ⊢
  cases hh : s.handles[place]? with
  | none => exact .refl tx s
  | some h =>
      simp only [hh] at hm ⊢
      have hset : Withholds tx s { s with handles := s.handles.set place (question h).2 } :=
        .setHandle s hh (hages h)
      by_cases hgiven : ∃ asked, (question h).1 = some (.ok (.transaction asked))
      · rcases hgiven with ⟨asked, hasked⟩
        simp only [hasked, adopt] at hm ⊢
        cases ht : s.transactions[asked]? with
        | none =>
            simp only [ht] at hm ⊢
            exact .still hm rfl hset rfl
        | some t =>
            simp only [ht] at hm ⊢
            by_cases hp : asked = tx
            · -- It is taken, and has a name from now on.
              subst hp
              refine .takes fun hunnamed => ?_
              have hnone := hunnamed (t.hold t.title true) (by simp [ht])
              simp [Transaction.hold] at hnone
            · exact .still hm (by simp [hp]) hset rfl
      · rw [adopt_eq_self hgiven] at hm ⊢
        exact .still hm rfl hset rfl

theorem touches_dropHandle (s : Client) (place : Nat) : Touches tx s (dropHandle s place) := by
  cases hh : s.handles[place]? with
  | none => simpa [dropHandle, hh] using Touches.refl tx s
  | some h =>
      have hcalm : s.Calm { s with handles := s.handles.set place h.drop } :=
        .setHandle s hh (.dropped h)
      have hset : Withholds tx s { s with handles := s.handles.set place h.drop } :=
        .setHandle s hh (.dropped h)
      by_cases hyields : h.state = .resolved (.ok (.transaction tx))
      · exact .drops hh hyields rfl
      · unfold dropHandle
        simp only [hh]
        split
        · rename_i other hother
          exact .abandon hcalm rfl hset fun hp => hyields (hp ▸ hother)
        · exact .still (.calm [] hcalm) rfl hset rfl

/-! ## Steps on names -/

section

variable {name : String}

/-- A name that stands for a transaction stands for another one. -/
theorem touches_onTransaction {act : Nat → Transaction → Scenario.Answer × Client}
    (hu : Unnamed tx s) (hm : Leads [] s (onTransaction s name act).2)
    (h : ∀ (place : Nat) (t : Transaction), place ≠ tx → s.Kept place →
      Leads [] s (act place t).2 → Touches tx s (act place t).2) :
    Touches tx s (onTransaction s name act).2 := by
  unfold onTransaction at hm ⊢
  cases hname : transaction? s name with
  | none => exact .refl tx s
  | some place =>
      rcases exists_of_transaction? hname with ⟨t, ht, hheld⟩
      simp only [hname, ht] at hm ⊢
      refine h place t ?_ (kept_of_transaction? hname) hm
      rintro rfl
      simp [Transaction.isHeldAs, hu t ht] at hheld

/-- Whoever only looks at a transaction does nothing. -/
theorem onTransaction_eq_self {act : Nat → Transaction → Scenario.Answer × Client}
    (h : ∀ place t, (act place t).2 = s) : (onTransaction s name act).2 = s := by
  unfold onTransaction
  split
  · rfl
  · split
    · rfl
    · exact h _ _

theorem touches_read {act : Nat → Transaction → Scenario.Answer × Client}
    (h : ∀ place t, (act place t).2 = s) : Touches tx s (onTransaction s name act).2 := by
  rw [onTransaction_eq_self h]
  exact .refl tx s

theorem touches_change (hu : Unnamed tx s) {f : Transaction → Transaction}
    (hm : Leads [] s (Scenario.change s name f).2) :
    Touches tx s (Scenario.change s name f).2 :=
  touches_onTransaction hu hm fun _ _ hp _ hm => .updateTransaction hm hp

theorem touches_onCursor {act : Nat → Cursor → Scenario.Answer × Client}
    (hm : Leads [] s (onCursor s name act).2)
    (h : ∀ cursor c, Leads [] s (act cursor c).2 → Touches tx s (act cursor c).2) :
    Touches tx s (onCursor s name act).2 := by
  unfold onCursor at hm ⊢
  cases hname : Scenario.cursor? s name with
  | none => exact .refl tx s
  | some cursor =>
      cases hc : s.cursors[cursor]? with
      | none => simpa [hc] using Touches.refl tx s
      | some c =>
          simp only [hname, hc] at hm ⊢
          exact h cursor c hm

theorem touches_onHandle {act : Nat → Scenario.Answer × Client}
    (hm : Leads [] s (onHandle s name act).2)
    (h : ∀ place, Leads [] s (act place).2 → Touches tx s (act place).2) :
    Touches tx s (onHandle s name act).2 := by
  unfold onHandle at hm ⊢
  cases hname : handle? s name with
  | none => exact .refl tx s
  | some place =>
      simp only [hname] at hm ⊢
      exact h place hm

end

theorem touches_consume {cursor : Nat} {name : Option String}
    (hm : Leads [] s (consume s cursor name)) : Touches tx s (consume s cursor name) := by
  unfold consume at hm ⊢
  cases hc : s.cursors[cursor]? with
  | none => exact .refl tx s
  | some c =>
      simp only [hc] at hm ⊢
      cases houtcome : c.outcome with
      | none =>
          simp only [houtcome] at hm ⊢
          have hfresh : (Handle.fresh name : Handle Payload).state ≠
              .resolved (.ok (.transaction tx)) := by
            simp [Handle.fresh]
          exact .still hm rfl ((Withholds.of_handles rfl).trans
            (.addHandle (s.updateCursor cursor _) hfresh)) rfl
      | some outcome =>
          simp only [houtcome] at hm ⊢
          refine .addHandle hm ?_
          cases outcome <;> simp [Handle.ready, Except.map]

/-- What a step does about a transaction that has no name. -/
theorem touches_perform (hlt : tx < s.transactions.length) (hu : Unnamed tx s) (step : Step) :
    Touches tx s (perform .nonblocking s step).2 := by
  have hm := Scenario.leads_perform s step
  cases step with
  | script | failSends | heal | layDown | hold | disconnect | reconnect =>
      exact .still hm rfl (.of_handles rfl) rfl
  | deliver limit => exact .delivers tx (.deliverUpTo [] _ none s)
  | dropQueue => exact .delivers tx (.dropQueue s)
  | begin b =>
      unfold perform Scenario.begin
      dsimp only
      split
      · exact .refl tx s
      · exact touches_begin hlt b.tx b.reported _ b.handle
  | success name => exact touches_change hu hm
  | failure name => exact touches_change hu hm
  | resultFetched name => exact touches_change hu hm
  | resultFailed name e => exact touches_change hu hm
  | setBookmark name source =>
      refine touches_onTransaction hu hm fun place t hp _ hm => ?_
      cases hsource : Bookmark.ofSource? source with
      | none => exact .refl tx s
      | some b =>
          simp only [hsource] at hm ⊢
          exact .updateTransaction hm hp
  | bookmark name => exact touches_read fun _ _ => rfl
  | observe name => exact touches_read fun _ _ => rfl
  | describe name => exact touches_read fun _ _ => rfl
  | sameId name other => exact touches_read fun _ _ => onTransaction_eq_self fun _ _ => rfl
  | run name statement params result =>
      exact touches_onTransaction hu hm fun _ _ hp _ _ =>
        touches_runStatement hp statement params result
  | close name handle =>
      exact touches_onTransaction hu hm fun _ _ hp hk _ => touches_terminate hp hk .close handle
  | commit name handle =>
      exact touches_onTransaction hu hm fun _ _ hp hk _ => touches_terminate hp hk .commit handle
  | rollback name handle =>
      exact touches_onTransaction hu hm fun _ _ hp hk _ => touches_terminate hp hk .rollback handle
  | clone name other =>
      exact touches_onTransaction hu hm fun _ _ hp _ hm => .updateTransaction hm hp
  | drop name =>
      exact touches_onTransaction hu hm fun place _ hp _ _ =>
        .abandon (.letGo s place name) (by simp [hp]) (.of_handles rfl) hp
  | keys name => exact touches_onCursor hm fun _ _ _ => .refl tx s
  | records name => exact touches_onCursor hm fun _ _ _ => .refl tx s
  | consume name handle => exact touches_onCursor hm fun _ _ => touches_consume
  | cursor name => exact touches_onCursor hm fun _ _ _ => .refl tx s
  | get name index key =>
      refine touches_onCursor hm fun _ c _ => ?_
      split <;> exact .refl tx s
  | dropResult name =>
      refine touches_onCursor hm fun cursor _ _ => ?_
      have hcalm : s.Calm (s.dropCursor cursor) := .dropCursor s cursor
      -- On whose behalf it is done is no matter, if it is another transaction.
      have hserves : Serves (tx + 1) s (s.dropCursor cursor) :=
        (Serves.updateCursor s _ _).trans (.releaseCursor _ _ _)
      exact .still (.calm [] hcalm) (hserves.others tx (Nat.ne_of_lt (Nat.lt_succ_self tx)))
        ((Withholds.of_handles rfl).trans (.releaseCursor _ _ _)) (by rw [hcalm.connection])
  | take name =>
      exact touches_onHandle hm fun _ hm => touches_ask Handle.ages_take hm
  | poll name =>
      exact touches_onHandle hm fun _ hm => touches_ask Handle.ages_poll hm
  | dropHandle name => exact touches_onHandle hm fun place _ => touches_dropHandle s place

end

end ClientTransaction.Nonblocking
