import ClientTransaction.Proofs.Nonblocking.Grammar
import ClientTransaction.Proofs.Nonblocking.Untaken
import ClientTransaction.Proofs.Scenario.Filing

/-!
# Nonblocking.Causal — a transaction that begins after another one

A transaction that is to see what others have done begins with a bookmark, and its handle waits until
the server has acknowledged BEGIN. Until then nothing else is sent for it. A success gives the
transaction, active, to whoever holds the handle, and if nobody does the transaction is rolled back.
After anything else nothing is sent any more: the transaction ends, and then the handle tells why.
-/

namespace ClientTransaction.Nonblocking

open Scenario (Step after perform transaction? beginConfig Filed filed_after)

section

variable {tx handle : Nat} {s : Client} {σ : Situation} {steps : List Step}

/-! ## Beginning with a bookmark -/

/-- For a transaction that is not there no BEGIN is outstanding. -/
theorem begins_eq_nil (hf : Filed .nonblocking (.of s)) (h : s.transactions.length ≤ tx) :
    begins tx s.connection.queue = [] := by
  refine List.eq_nil_iff_forall_not_mem.2 fun r hr => ?_
  rcases mem_begins.1 hr with ⟨hmem, howner, -⟩
  exact absurd (howner ▸ hf.owners r hmem) (Nat.not_lt.2 h)

/-- For a transaction that is not there nothing has come. -/
theorem answers_eq_nil (hf : Filed .nonblocking (.of s)) (h : s.transactions.length ≤ tx)
    (exchange : Exchange) : s.answers tx exchange = [] := by
  rw [Client.answers_eq_receipts, List.filterMap_eq_nil_iff]
  intro r hr
  have hne : r.owner ≠ tx := Nat.ne_of_lt (Nat.lt_of_lt_of_le (hf.known r hr) h)
  simp [Receipt.answer?, hne]

section

variable (title : String) (reported : Bool) {config : Config} (name : String)

/-- BEGIN has been sent, and then it is flushed. -/
theorem deliveries_begin (s : Client) (hb : config.bookmark.isEmpty = false) :
    Deliveries (begunAwaited s.connection.queue s { title := title, reported := reported }
        config.beginParameters (some name))
      (.of (begin s title reported config name)) := by
  have hbegin : begin s title reported config name = (((s.addTransaction
      { title := title, reported := reported }).addHandle (.fresh (some name))).send
        s.transactions.length .begin Message.begin config.beginParameters .ignore
        (.begun s.handles.length)).flush s.transactions.length := by
    simp only [begin, hb, Bool.false_eq_true, if_false]
  have hflush := Delivers.flush [] (((s.addTransaction
    { title := title, reported := reported }).addHandle (.fresh (some name))).send
      s.transactions.length .begin Message.begin config.beginParameters .ignore
      (.begun s.handles.length)) s.transactions.length
  unfold Delivers at hflush
  rw [(Client.frame_send _ _ _ _ _ _ _).2.2.2.1, ← hbegin] at hflush
  exact hflush

theorem watched_begin (hs : Sound (.of s)) (hf : Filed .nonblocking (.of s))
    (hb : config.bookmark.isEmpty = false) :
    Watched s.transactions.length s.handles.length (.of (begin s title reported config name)) := by
  have hfresh : ({ title := title, reported := reported } : Transaction).isFresh := ⟨rfl, rfl⟩
  have hmove : Move (.of s) _ := .beginAwaited _ hfresh config.beginParameters (some name)
  have hwatched := watched_begunAwaited hs (begins_eq_nil hf (Nat.le_refl _))
    (answers_eq_nil hf (Nat.le_refl _) .begin) hfresh config.beginParameters (some name)
  exact hwatched.moves (hs.move hmove) (deliveries_begin title reported name s hb).moves

/-- Nobody but its handle gets a transaction that waits for BEGIN. -/
theorem hushed_begunAwaited (hs : Sound (.of s)) (hf : Filed .nonblocking (.of s))
    (params : Params) :
    Hushed s.transactions.length s.handles.length (begunAwaited s.connection.queue s
      { title := title, reported := reported } params (some name)) := by
  have hfresh : ({ title := title, reported := reported } : Transaction).isFresh := ⟨rfl, rfl⟩
  rcases hs.phases s.transactions.length with ⟨p, hp⟩
  have hstanding := standing_begunAwaited hfresh params (some name) hp
  refine ⟨⟨{ title := title, reported := reported }, by simp [begunAwaited], rfl, rfl, rfl⟩,
    fun place h hh hyields => ?_, fun r hr howner => ?_⟩
  · -- Whoever is given the transaction would keep it, but nobody does while it is starting.
    exact absurd (Or.inr ⟨h, List.mem_of_getElem? hh, hyields⟩) (hstanding.hidden rfl)
  · rcases List.mem_append.1 hr with hr | hr
    · exact absurd (howner ▸ hf.owners r hr) (Nat.lt_irrefl _)
    · exact (mem_requests hr).2.2

theorem left_begin (hs : Sound (.of s)) (hf : Filed .nonblocking (.of s))
    (hb : config.bookmark.isEmpty = false) :
    Left s.transactions.length s.handles.length (.of (begin s title reported config name)) := by
  have hfresh : ({ title := title, reported := reported } : Transaction).isFresh := ⟨rfl, rfl⟩
  have hmove : Move (.of s) _ := .beginAwaited _ hfresh config.beginParameters (some name)
  have hhushed := hushed_begunAwaited title reported name hs hf config.beginParameters
  have htracked : Tracked _ _ (Yields s.transactions.length s.handles.length) _ :=
    tracked_begunAwaited hs hfresh config.beginParameters (some name) .starting
  exact (Left.hushed hhushed).deliveries (hs.move hmove) htracked
    (deliveries_begin title reported name s hb)

/-- Without a bookmark the handle yields the transaction from the beginning on. -/
theorem tracked_begin_at_once (hs : Sound (.of s)) (hb : config.bookmark.isEmpty = true) :
    Tracked s.transactions.length s.handles.length
      (fun p x => Yields s.transactions.length s.handles.length p x ∧
        x = some (.ok (.transaction s.transactions.length)))
      (.of (begin s title reported config name)) := by
  unfold begin
  dsimp only
  rw [if_pos hb]
  unfold Situation.of
  rw [(Client.frame_addHandle _ _).2.2.2.1, (Client.frame_send _ _ _ _ _ _ _).2.2.2.1]
  exact tracked_begunAtOnce hs ⟨rfl, rfl⟩ config.beginParameters (some name) ⟨.begun rfl, rfl⟩

end

/-! ## What is sent -/

/-- A transaction accepts statements only after a success of BEGIN. -/
theorem answers_of_accepted? (hw : Watched tx handle (.of s)) (hs : Sound (.of s)) {step : Step}
    {x : Start} (hx : accepted? tx s step = some x) :
    ∃ metadata, s.answers tx .begin = [.success metadata] := by
  rcases hw.shown with ⟨p, shown, h, hp, hreplied, -⟩
  have hlt : tx < s.transactions.length := hreplied.yields.lt hp
  have hstarted := startedFor_eq hlt step
  rw [hx] at hstarted
  cases step with
  | run name statement params result =>
      have hrun : statement? s (.run name statement params result) = some x ∧ x.tx = tx := by
        simpa [startedFor, started?, Option.toList_eq_singleton_iff, Option.filter_eq_some_iff]
          using hstarted
      have hrunning := (running_of_statement hs hrun.1).account
      rw [hrun.2, hp.account] at hrunning
      exact hreplied.answers_of_running hrunning
  | _ => simp [accepted?] at hx

/-- Without a success of BEGIN nothing is sent for statements. -/
theorem accepted_eq_nil_of_answers (hw : Watched tx handle (.of s)) (hs : Sound (.of s))
    (h : ∀ metadata, .success metadata ∉ (after .nonblocking s steps).answers tx .begin) :
    accepted tx s steps = [] := by
  induction steps generalizing s with
  | nil => rfl
  | cons step rest ih =>
      have hm := Scenario.leads_perform s step
      rw [accepted, ih (hw.moves hs hm) (hs.moves hm) h, List.append_nil]
      -- A success that had come at this step would still be there at the end.
      cases hx : accepted? tx s step with
      | none => rfl
      | some x =>
          rcases answers_of_accepted? hw hs hx with ⟨metadata, hanswers⟩
          have hsuccess : .success metadata ∈ s.answers tx .begin := by simp [hanswers]
          have hgrows := Scenario.grows_after .nonblocking s (step :: rest)
          exact absurd (mem_seen hgrows.history hsuccess) (h metadata)

/-- Nobody runs a statement in a transaction that he has not taken. -/
theorem accepted_eq_nil_of_untaken (h : Untaken tx s steps) : accepted tx s steps = [] := by
  induction steps generalizing s with
  | nil => rfl
  | cons step rest ih =>
      rw [accepted, ih h.2, List.append_nil]
      cases step with
      | run name statement params result =>
          have hname : transaction? s name ≠ some tx := by
            intro hname
            rcases exists_of_transaction? hname with ⟨t, ht, hheld⟩
            simp [Transaction.isHeldAs, h.1 t ht] at hheld
          simp only [accepted?, hname, if_false]
          split <;> rfl
      | _ => rfl

/-- The calls of a BEGIN that is to be acknowledged. -/
def awaitedCalls (tx : Nat) (config : Config) : List Event :=
  [.run tx .begin Message.begin config.beginParameters, .pullAll tx .begin, .flush tx]

/-- What is sent for a transaction in a phase if no statement is run in it. -/
def quietCalls (tx : Nat) (config : Config) (p : Phase) : List Event :=
  awaitedCalls tx config ++ p.account.exchanges.flatMap (endCalls tx) ++
    if (p.account.footing?.bind Footing.final?).isSome then [.release tx] else []

/-- A transaction in which no statement is run. -/
theorem wire_of_accepted (earlier : List Step) {b : Scenario.Begin} {config : Config}
    (hconfig : beginConfig (after .nonblocking {} earlier) b = .ok config) (later : List Step)
    (htx : (after .nonblocking {} earlier).transactions.length = tx)
    (hb : config.bookmark.isEmpty = false)
    (hs : after .nonblocking {} (earlier ++ .begin b :: later) = s)
    (hnone : accepted tx (after .nonblocking {} (earlier ++ [.begin b])) later = []) {p : Phase}
    (hp : Standing tx p (.of s)) : s.wire tx = quietCalls tx config p := by
  subst hs
  have hbegin : Event.calls (.run tx .begin Message.begin config.beginParameters) =
      awaitedCalls tx config := by
    refine (calls_begin tx config).trans ?_
    simp [beginCalls, awaitedCalls, hb]
  have hopenings := openings_eq earlier hconfig later htx
  rw [hnone, List.map_nil] at hopenings
  have hexchanges : (after .nonblocking {} (earlier ++ .begin b :: later)).terminalExchanges tx =
      p.account.exchanges := congrArg Account.exchanges hp.account
  have hfinal : (after .nonblocking {} (earlier ++ .begin b :: later)).final? tx =
      p.account.footing?.bind Footing.final? := hp.final?_eq
  rw [(whole_after _).wire tx, ordered_after _ tx, List.flatMap_append, hopenings, calls_closing,
    List.flatMap_singleton, hbegin, hexchanges, hfinal, quietCalls, List.append_assoc]

end

/-! ## What becomes of the transaction -/

section

variable (tx handle : Nat) (config : Config) (s : Client)

/-- BEGIN is to be answered. -/
structure Waits : Prop where
  pending : ∃ h, s.handles[handle]? = some h ∧ (h.isHeld = true → h.isResolved = false)
  unwoken : s.wakes handle = []
  calls : s.wire tx = awaitedCalls tx config

/-- The handle yields the transaction, which is active. -/
structure Offered : Prop where
  yields : ∃ h, s.handles[handle]? = some h ∧ h.isHeld = true ∧
    h.state = .resolved (.ok (.transaction tx))
  active : ∃ t, s.transactions[tx]? = some t ∧ t.state = .active ∧ t.closing = false
  calls : s.wire tx = awaitedCalls tx config

/-- The handle has been let go, and the transaction is rolled back. -/
structure Withdrawn : Prop where
  unheld : ∃ h, s.handles[handle]? = some h ∧ h.isHeld = false
  calls : s.wire tx = awaitedCalls tx config ++ endCalls tx .rollback ++
    if (s.final? tx).isSome then [.release tx] else []
  ends : (s.answers tx .rollback = [] ∧ s.endings tx = [] ∧ s.final? tx = none) ∨
    ∃ answer, s.answers tx .rollback = [answer] ∧ s.endings tx = [.released, .notified] ∧
      s.final? tx = some .rolledBack

/-- The transaction has ended without having been begun, and the handle tells why. -/
structure TurnedDown (e : Error) : Prop where
  fails : ∃ h, s.handles[handle]? = some h ∧ Shows h (some (.error e))
  calls : s.wire tx = awaitedCalls tx config ++ [.release tx]
  rolledBack : s.final? tx = some .rolledBack
  once : s.endings tx = [.released, .notified]
  first : s.EndsFirst tx handle

end

section

variable {tx handle : Nat} {config : Config} {s : Client} {h : Handle Payload} {p : Phase}

theorem waits_of_starting (hh : s.handles[handle]? = some h) (hshows : Shows h none)
    (horder : InOrder tx handle none s)
    (hcalls : s.wire tx = quietCalls tx config (.starting handle)) : Waits tx handle config s :=
  ⟨⟨h, hh, hshows⟩, horder.waits rfl, by simpa [quietCalls, Phase.account] using hcalls⟩

theorem turnedDown_of_refused {e : Error} (hp : Standing tx (.ended (.refused e)) (.of s))
    (hh : s.handles[handle]? = some h) (hshows : Shows h (some (.error e)))
    (horder : InOrder tx handle (some (.error e)) s)
    (hcalls : s.wire tx = quietCalls tx config (.ended (.refused e))) :
    TurnedDown tx handle config s e where
  fails := ⟨h, hh, hshows⟩
  calls := by
    simpa [quietCalls, Phase.account, Conclusion.exchanges, Conclusion.final] using hcalls
  rolledBack := hp.final?_eq
  once := hp.endings_ended
  first := horder.ended (by simp)

/-- A transaction that has been begun and that nobody has taken is offered to whoever holds the
handle, or has been withdrawn. -/
theorem offered_or_withdrawn (hleft : Left tx handle (.of s)) (hc : Tended tx (.of s))
    (hp : Standing tx p (.of s)) (hbegun : p.isBegun = true) {metadata : Params}
    (hanswers : s.answers tx .begin = [.success metadata]) (hh : s.handles[handle]? = some h)
    (hcalls : ∀ p', Standing tx p' (.of s) → s.wire tx = quietCalls tx config p') :
    Offered tx handle config s ∨ Withdrawn tx handle config s := by
  cases hleft with
  | denied hdenied =>
      rcases hdenied with ⟨loss, hloss⟩
      have hloss' : loss.outcome ∈ s.answers tx .begin := hloss
      rw [hanswers] at hloss'
      cases loss <;> simp [Loss.outcome] at hloss'
  | hushed hhushed =>
      rcases hhushed.fresh with ⟨t, ht, hnames, hactive, hclosing⟩
      have ht' : s.transactions[tx]? = some t := ht
      have hloose : s.footing? tx = some ⟨false, none⟩ := by
        simp [Client.footing?, ht', Transaction.footing, Transaction.final?, hclosing, hactive,
          State.isTerminal]
      -- Somebody has it: no request does, and it has no name, so the handle yields it.
      rcases (Situation.holds_iff _ tx).1 (hc.holds hloose) with hk | ⟨r, hr, hholds⟩
      · cases running_of_kept hp ht hclosing hk
        rcases hk with ⟨t', ht'', hheld⟩ | ⟨h', hmem, hyields⟩
        · cases ht.symm.trans ht''
          exact absurd hnames hheld
        · rcases List.mem_iff_getElem?.1 hmem with ⟨place, hplace⟩
          obtain ⟨rfl, hheld⟩ := hhushed.sole place h' hplace hyields
          exact Or.inl ⟨⟨h', hplace, hheld, hyields⟩, ⟨t, ht, hactive, hclosing⟩, by
            simpa [quietCalls, Phase.account] using hcalls _ hp⟩
      · rcases starting_of_holds hp hr hholds with ⟨place, rfl⟩
        cases hbegun
  | gone hgone =>
      rcases hgone.forsaken with ⟨t, p', hactive, hp', hforsaken⟩
      have houtlived := outlived_of_standing hp' hforsaken
      simp only [Outlived, hactive, reduceCtorEq, if_false] at houtlived
      refine Or.inr ⟨⟨h, hh, hgone.unheld h hh⟩, ?_, houtlived.2⟩
      -- An active transaction is sent off with one ROLLBACK.
      have hexchanges : p'.account.exchanges = [.rollback] :=
        (congrArg Account.exchanges hp'.account).symm.trans houtlived.1
      have hfinal : s.final? tx = p'.account.footing?.bind Footing.final? := hp'.final?_eq
      rw [hcalls p' hp', quietCalls, hexchanges, hfinal, List.flatMap_singleton]

end

/-! ## Every run -/

section

variable {tx handle : Nat} {s : Client} {earlier later : List Step} {b : Scenario.Begin}
  {config : Config}

theorem perform_begin (hconfig : beginConfig s b = .ok config) :
    (perform .nonblocking s (.begin b)).2 = begin s b.tx b.reported config b.handle := by
  simp [perform, Scenario.begin, hconfig]

theorem after_begin (earlier : List Step) (b : Scenario.Begin) (later : List Step) :
    after .nonblocking {} (earlier ++ .begin b :: later) =
      after .nonblocking (after .nonblocking {} (earlier ++ [.begin b])) later := by
  rw [← Scenario.after_append, List.append_assoc]
  rfl

theorem after_begin_last (hconfig : beginConfig (after .nonblocking {} earlier) b = .ok config) :
    after .nonblocking {} (earlier ++ [.begin b]) =
      begin (after .nonblocking {} earlier) b.tx b.reported config b.handle :=
  (Scenario.after_append .nonblocking {} earlier [.begin b]).trans (perform_begin hconfig)

variable (hconfig : beginConfig (after .nonblocking {} earlier) b = .ok config)
  (htx : (after .nonblocking {} earlier).transactions.length = tx)
  (hhandle : (after .nonblocking {} earlier).handles.length = handle)

include hconfig htx hhandle

theorem watched_after (hb : config.bookmark.isEmpty = false) (later : List Step) :
    Watched tx handle (.of (after .nonblocking {} (earlier ++ .begin b :: later))) := by
  have hbegin := watched_begin b.tx b.reported b.handle (sound_after earlier)
    (filed_after .nonblocking earlier) hb
  rw [← after_begin_last hconfig, htx, hhandle] at hbegin
  rw [after_begin]
  exact hbegin.moves (sound_after _) (Scenario.leads_after _ later)

theorem left_after_begin (hb : config.bookmark.isEmpty = false)
    (hu : Untaken tx (after .nonblocking {} (earlier ++ [.begin b])) later) :
    Left tx handle (.of (after .nonblocking {} (earlier ++ .begin b :: later))) := by
  have hbegin := left_begin b.tx b.reported b.handle (sound_after earlier)
    (filed_after .nonblocking earlier) hb
  rw [← after_begin_last hconfig, htx, hhandle] at hbegin
  rw [after_begin]
  exact left_after hbegin (sound_after _) (watched_after hconfig htx hhandle hb []).tracked hu

/-- Without a bookmark the handle yields the transaction at any moment. -/
theorem shows_transaction (hb : config.bookmark.isEmpty = true) (later : List Step) :
    ∃ h, (after .nonblocking {} (earlier ++ .begin b :: later)).handles[handle]? = some h ∧
      Shows h (some (.ok (.transaction tx))) := by
  have hbegin := tracked_begin_at_once b.tx b.reported b.handle (sound_after earlier) hb
  rw [← after_begin_last hconfig, htx, hhandle] at hbegin
  have hfollows : Follows tx handle fun p x =>
      Yields tx handle p x ∧ x = some (.ok (.transaction tx)) := by
    refine ⟨?_, fun p result hq hne => (follows_yields tx handle).ended p result hq.1 hne⟩
    rintro p p' effect x ⟨hyields, rfl⟩ hpass
    exact ⟨hyields.passage hpass, rfl⟩
  rw [after_begin]
  rcases (hbegin.moves hfollows (sound_after _) (Scenario.leads_after _ later)).shown with
    ⟨p, x, h, -, ⟨-, rfl⟩, hh, hshows, -⟩
  exact ⟨h, hh, hshows⟩

/-- Nothing but BEGIN, and what ends the transaction, is sent before it has been acknowledged. -/
theorem wire_of_answers (hb : config.bookmark.isEmpty = false)
    (hs : after .nonblocking {} (earlier ++ .begin b :: later) = s)
    (hanswers : ∀ metadata, .success metadata ∉ s.answers tx .begin) {p : Phase}
    (hp : Standing tx p (.of s)) : s.wire tx = quietCalls tx config p := by
  refine wire_of_accepted earlier hconfig later htx hb hs ?_ hp
  refine accepted_eq_nil_of_answers (watched_after hconfig htx hhandle hb []) (sound_after _) ?_
  rw [← after_begin, hs]
  exact hanswers

end

/-- What comes of a BEGIN with a bookmark. Until it is answered its handle is pending, and nothing
else is sent. If it succeeds the handle yields the transaction, and as long as nobody takes it, it is
active and nothing is sent for it, or it is rolled back because the handle was let go. If it fails or
is given up nothing more is sent, and the transaction ends, once, before the handle fails. A handle
that somebody holds is pending exactly if BEGIN has been sent a bookmark and is not yet answered. -/
theorem causal_begin (earlier : List Step) {b : Scenario.Begin} {config : Config}
    (hconfig : beginConfig (after .nonblocking {} earlier) b = .ok config) (later : List Step)
    {tx handle : Nat} (htx : (after .nonblocking {} earlier).transactions.length = tx)
    (hhandle : (after .nonblocking {} earlier).handles.length = handle) {s : Client}
    (hs : after .nonblocking {} (earlier ++ .begin b :: later) = s) :
    (config.bookmark.isEmpty = false →
      (s.answers tx .begin = [] ∧ Waits tx handle config s) ∨
      (∃ metadata, s.answers tx .begin = [.success metadata] ∧
        (∃ h, s.handles[handle]? = some h ∧ Shows h (some (.ok (.transaction tx)))) ∧
        (Untaken tx (after .nonblocking {} (earlier ++ [.begin b])) later →
          Offered tx handle config s ∨ Withdrawn tx handle config s)) ∨
      ∃ loss : Loss, s.answers tx .begin = [loss.outcome] ∧
        TurnedDown tx handle config s loss.error) ∧
    ∃ h, s.handles[handle]? = some h ∧ (h.isHeld = true →
      (h.isResolved = false ↔ (config.beginParameters.get? "bookmark").isSome = true ∧
        s.answers tx .begin = [])) := by
  rw [config.get?_beginParameters]
  cases hb : config.bookmark.isEmpty with
  | true =>
      rcases shows_transaction hconfig htx hhandle hb later with ⟨h, hh, hshows⟩
      refine ⟨by simp, h, hs ▸ hh, fun hheld => ?_⟩
      rcases hshows hheld with hstate | hstate <;> simp [Handle.isResolved, hstate]
  | false =>
      have hwatched := watched_after hconfig htx hhandle hb later
      rw [hs] at hwatched
      rcases hwatched.shown with ⟨p, x, h, hp, hreplied, hh, hshows, horder⟩
      have hwire := wire_of_answers hconfig htx hhandle hb hs
      -- What has come for BEGIN decides between the three outcomes.
      change Replied tx handle p x (begins tx s.connection.queue) (s.answers tx .begin) at hreplied
      generalize begins tx s.connection.queue = rs at hreplied
      generalize hanswers : s.answers tx .begin = answers at hreplied
      rw [hanswers] at hwire
      cases hreplied with
      | waiting old =>
          refine ⟨fun _ => Or.inl ⟨rfl, waits_of_starting hh hshows horder (hwire (by simp) hp)⟩,
            h, hh, fun hheld => ?_⟩
          simp [hshows hheld]
      | granted hbegun metadata =>
          refine ⟨fun _ => Or.inr (Or.inl ⟨metadata, rfl, ⟨h, hh, hshows⟩, fun hu => ?_⟩), h, hh,
            fun hheld => ?_⟩
          · have hleft := left_after_begin hconfig htx hhandle hb hu
            have htended := tended_after (earlier ++ .begin b :: later) tx
            rw [hs] at hleft htended
            exact offered_or_withdrawn hleft htended hp hbegun hanswers hh fun p' hp' =>
              wire_of_accepted earlier hconfig later htx hb hs (accepted_eq_nil_of_untaken hu) hp'
          · rcases hshows hheld with hstate | hstate <;> simp [Handle.isResolved, hstate]
      | denied loss =>
          have hnone : ∀ metadata, .success metadata ∉ [loss.outcome] := by
            cases loss <;> simp [Loss.outcome]
          refine ⟨fun _ => Or.inr (Or.inr ⟨loss, rfl, turnedDown_of_refused hp hh hshows horder
            (hwire hnone hp)⟩), h, hh, fun hheld => ?_⟩
          rcases hshows hheld with hstate | hstate <;> simp [Handle.isResolved, hstate]

/-- A transaction that begins after what "b1" stands for. -/
def behind : Scenario.Begin :=
  { tx := "t", config := .settings [.bookmark (.value "b1")], reported := true, bookmarkOf := none
    handle := "b" }

/-- The handle is let go while BEGIN is under way, and then BEGIN succeeds. -/
theorem causal_begin_of_dropped :
    Withdrawn 0 0 { bookmark := ⟨["b1"]⟩ } (after .nonblocking {}
      [.hold true, .begin behind, .dropHandle "b", .deliver none]) := by
  have hconfig : beginConfig (after .nonblocking {} [.hold true]) behind =
      .ok { bookmark := ⟨["b1"]⟩ } := rfl
  have hanswers : (after .nonblocking {}
      [.hold true, .begin behind, .dropHandle "b", .deliver none]).answers 0 .begin =
        [.success []] := rfl
  rcases (causal_begin [.hold true] hconfig [.dropHandle "b", .deliver none] rfl rfl rfl).1 rfl with
    ⟨hnone, -⟩ | ⟨metadata, -, -, huntaken⟩ | ⟨loss, hloss, -⟩
  · cases hanswers.symm.trans hnone
  · -- Nobody has ever asked for the transaction.
    have hunnamed : Untaken 0 (after .nonblocking {} ([.hold true] ++ [.begin behind]))
        [.dropHandle "b", .deliver none] := by
      refine ⟨?_, ?_, ?_⟩ <;> rintro t ⟨⟩ <;> rfl
    rcases huntaken hunnamed with hoffered | hwithdrawn
    · rcases hoffered.yields with ⟨h, ⟨⟩, ⟨⟩, -⟩
    · exact hwithdrawn
  · cases loss <;> cases hanswers.symm.trans hloss

end ClientTransaction.Nonblocking
