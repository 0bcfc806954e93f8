import ClientTransaction.Proofs.Scenario.Exchanges
import ClientTransaction.Proofs.Scenario.ExactlyOnce
import ClientTransaction.Proofs.Scenario.Queries

/-!
# Scenario.Agreement — calls that wait and calls that do not come to the same

Whether the calls of an application wait for their replies, or flush and ask a handle, it sees the
same: the same statements are refused, the same results come, the same requests are sent, and
closing ends in the same state with the same outcome. The server may answer a statement as it
likes, as long as it answers, and a PULL_ALL after a RUN that failed fails with the same error.
-/

namespace ClientTransaction.Scenario

/-! ## Beginning -/

section

variable {b : Begin} {config : Config}

/-- A client that has learned scripts and nothing else. -/
theorem after_scripts (flavor : Flavor) (s : Client) (setup : List Script) :
    after flavor s (setup.map .script) =
      s.updateConnection fun c => setup.foldl Connection.setScript c := by
  induction setup generalizing s with
  | nil => rfl
  | cons script rest ih => exact ih (s.updateConnection fun c => c.setScript script)

theorem mem_scripts_foldl {setup : List Script} {c : Connection} {script : Script}
    (h : script ∈ (setup.foldl Connection.setScript c).scripts) :
    script ∈ setup ∨ script ∈ c.scripts := by
  induction setup generalizing c with
  | nil => exact Or.inr h
  | cons first rest ih =>
      rcases ih h with h | h
      · exact Or.inl (List.mem_cons_of_mem _ h)
      · rcases List.mem_cons.1 h with rfl | h
        · exact Or.inl (List.mem_cons_self ..)
        · exact Or.inr (List.mem_filter.1 h).1

theorem scripts_foldl {setup : List Script} (h : ∀ script ∈ setup, script.Fair) (c : Connection)
    (hc : ∀ script ∈ c.scripts, script.Fair) :
    ∀ script ∈ (setup.foldl Connection.setScript c).scripts, script.Fair := by
  intro script hmem
  rcases mem_scripts_foldl hmem with hmem | hmem
  · exact h script hmem
  · exact hc script hmem

theorem foldl_setScript (setup : List Script) (c : Connection) :
    setup.foldl Connection.setScript c =
      { c with scripts := (setup.foldl Connection.setScript c).scripts } := by
  induction setup generalizing c with
  | nil => rfl
  | cons first rest ih => exact ih (c.setScript first)

/-- A client with a server and nothing else. -/
def serving (scripts : List Script) : Client :=
  { connection := { scripts := scripts } }

/-- The client after BEGIN has been sent. -/
def beginning (scripts : List Script) (b : Begin) (config : Config) : Client :=
  ((serving scripts).addTransaction { title := b.tx, reported := b.reported }).send 0 .begin
    Message.begin config.beginParameters .ignore .ignore

/-- The client after BEGIN has been sent and answered. -/
def begun (scripts : List Script) (b : Begin) (config : Config) : Client :=
  { beginning scripts b config with connection := { scripts := scripts } }

theorem quiet_serving (scripts : List Script) : (serving scripts).connection.Quiet :=
  ⟨rfl, rfl, rfl, rfl⟩

/-- A caller that waits waits for BEGIN only if there is a bookmark to wait for. -/
theorem alike_begin_blocking {scripts : List Script} (hfair : ∀ script ∈ scripts, script.Fair)
    (hconfig : beginConfig {} b = .ok config) :
    Client.Alike
      ((if config.bookmark.isEmpty then beginning scripts b config
        else begun scripts b config).updateTransaction 0 (Transaction.hold b.tx true))
      (after .blocking (serving scripts) (beginSteps b .blocking)) := by
  have hconfig' : beginConfig (serving scripts) b = .ok config := hconfig
  have hquiet : ((serving scripts).addTransaction
      { title := b.tx, reported := b.reported }).connection.Quiet := quiet_serving scripts
  have hhonest := honest_replies (c := { scripts := scripts }) hfair 0 .begin Message.begin .ignore
  have hsend : (Blocking.run 0 .begin Message.begin config.beginParameters .ignore
        ((serving scripts).addTransaction { title := b.tx, reported := b.reported })).andThen
          (Blocking.pullAll 0 .begin .ignore) = (none, beginning scripts b config) :=
    Blocking.send_of_quiet hquiet 0 .begin Message.begin config.beginParameters .ignore .ignore
  have hperform : after .blocking (serving scripts) (beginSteps b .blocking) =
      (Blocking.begin (serving scripts) b.tx b.reported config).2 := by
    simp [after, beginSteps, perform, begin, hconfig']
  have hmem : ∀ r ∈ ((beginning scripts b config).record (.sync 0)).connection.queue,
      r ∈ (serving scripts).requests 0 .begin Message.begin .ignore .ignore := fun _ hr => hr
  simp only [Client.requests, List.mem_cons, List.not_mem_nil, or_false] at hmem
  have hsync : ∃ s₁ : Client, Blocking.sync 0 (beginning scripts b config) = (none, s₁) ∧
      Client.Alike (begun scripts b config) s₁ := by
    have hdeliver := Client.deliver_ignored (s := (beginning scripts b config).record (.sync 0))
      (by
        intro r hr
        rcases hmem r hr with rfl | rfl <;> rfl)
    have hnofailure : ((beginning scripts b config).record (.sync 0)).connection.queue.findSome?
        (fun r => r.reply.outcome.failure?) = none := by
      rw [List.findSome?_eq_none_iff]
      intro r hr
      rcases hmem r hr with rfl | rfl
      · exact (hhonest.begins rfl).1
      · exact (hhonest.begins rfl).2
    rw [hnofailure] at hdeliver
    exact ⟨_, (Blocking.sync_of_quiet (Client.quiet_send hquiet 0 .begin Message.begin
      config.beginParameters .ignore .ignore) 0).trans hdeliver, rfl, rfl, rfl, rfl⟩
  have htx : (serving scripts).transactions.length = 0 := rfl
  rw [hperform]
  unfold Blocking.begin Blocking.sendBegin
  rw [htx]
  dsimp only
  rw [hsend]
  cases hempty : config.bookmark.isEmpty with
  | true => exact .refl _
  | false =>
      rcases hsync with ⟨s₁, hsync, halike⟩
      simp only [Bool.false_eq_true, if_false, Blocking.Sent.andThen, hsync]
      exact halike.updateTransaction 0 _

/-- A caller that does not wait asks a handle for its transaction. -/
theorem alike_begin_nonblocking {scripts : List Script} (hfair : ∀ script ∈ scripts, script.Fair)
    (hconfig : beginConfig {} b = .ok config) :
    Client.Alike
        ((if config.bookmark.isEmpty then beginning scripts b config
          else begun scripts b config).updateTransaction 0 (Transaction.hold b.tx true))
        (after .nonblocking (serving scripts) (beginSteps b .nonblocking)) ∧
      (after .nonblocking (serving scripts) (beginSteps b .nonblocking)).handles =
        [⟨none, .spent⟩] := by
  have hconfig' : beginConfig (serving scripts) b = .ok config := hconfig
  have hhonest := honest_replies (c := { scripts := scripts }) hfair 0 .begin Message.begin .ignore
  have hperform : (perform .nonblocking (serving scripts) (.begin b)).2 =
      Nonblocking.begin (serving scripts) b.tx b.reported config b.handle := by
    simp [perform, begin, hconfig']
  -- The handle is ready when it is asked.
  have hready : ∃ s₁ : Client, Client.Alike (if config.bookmark.isEmpty then
        beginning scripts b config else begun scripts b config) s₁ ∧
      s₁.handles = [⟨some b.handle, .resolved (.ok (.transaction 0))⟩] ∧
      Nonblocking.begin (serving scripts) b.tx b.reported config b.handle = s₁ := by
    unfold Nonblocking.begin
    have htx : (serving scripts).transactions.length = 0 := rfl
    rw [htx]
    dsimp only
    cases hempty : config.bookmark.isEmpty with
    | true =>
        refine ⟨_, ?_, ?_, if_pos rfl⟩
        · exact ⟨rfl, rfl, rfl, rfl⟩
        · rfl
    | false =>
        rcases exists_success hhonest.answered.2 (hhonest.begins rfl).2 with ⟨metadata, hsuccess⟩
        generalize hpull : (({ scripts := scripts } : Connection).run 0 .begin Message.begin
          .ignore).pullReply = pull at hsuccess
        rcases pull with ⟨rows, outcome⟩
        dsimp only at hsuccess
        subst hsuccess
        have hquiet : (((serving scripts).addTransaction
            { title := b.tx, reported := b.reported }).addHandle
              (.fresh (some b.handle))).connection.Quiet := quiet_serving scripts
        have hqueue : (((((serving scripts).addTransaction
            { title := b.tx, reported := b.reported }).addHandle (.fresh (some b.handle))).send 0
              .begin Message.begin config.beginParameters .ignore (.begun 0)).record
                (.flush 0)).connection.queue =
            [⟨0, .begin, .run, .ignore, ({ scripts := scripts } : Connection).runReply
              Message.begin⟩] ++ [⟨0, .begin, .pullAll, .begun 0, ⟨rows, .success metadata⟩⟩] := by
          rw [← hpull]
          rfl
        have hdrain := Client.drain_last (by simp) hqueue 2 rfl
        have hflush := Client.flush_of_quiet (Client.quiet_send hquiet 0 .begin Message.begin
          config.beginParameters .ignore (.begun 0)) 0
        refine ⟨_, ?_, ?_, (if_neg (by simp)).trans
          (hflush.trans (hdrain.trans (Client.drainUpTo_of_empty rfl 2)))⟩
        · exact ⟨rfl, rfl, rfl, rfl⟩
        · rfl
  rcases hready with ⟨s₁, halike, hhandles, hbegin⟩
  have hpoll := perform_poll b.handle (s := s₁) (by simp) (hhandles.trans (List.nil_append _).symm)
  have hafter : after .nonblocking (serving scripts) (beginSteps b .nonblocking) =
      (perform .nonblocking s₁ (.poll b.handle)).2 := by
    simp [after, beginSteps, hperform, hbegin]
  rw [hafter, hpoll]
  have ht : s₁.transactions = [{ title := b.tx, reported := b.reported }] := by
    rw [← halike.transactions]
    split <;> rfl
  have hadopt : Nonblocking.adopt { s₁ with handles := [⟨none, .spent⟩] }
      (some (.ok (.transaction 0))) =
        { s₁ with handles := [⟨none, .spent⟩] }.updateTransaction 0
          (Transaction.hold b.tx true) := by
    simp [Nonblocking.adopt, ht]
  have hgone : Client.Alike s₁ { s₁ with handles := [⟨none, .spent⟩] } := ⟨rfl, rfl, rfl, rfl⟩
  show Client.Alike _ (Nonblocking.adopt { s₁ with handles := [⟨none, .spent⟩] }
    (some (.ok (.transaction 0)))) ∧ (Nonblocking.adopt { s₁ with handles := [⟨none, .spent⟩] }
    (some (.ok (.transaction 0)))).handles = _
  rw [hadopt]
  exact ⟨(halike.trans hgone).updateTransaction 0 _, rfl⟩

theorem aligned_begin {scripts : List Script} (hfair : ∀ script ∈ scripts, script.Fair)
    (hconfig : beginConfig {} b = .ok config) :
    Aligned b.tx (after .blocking (serving scripts) (beginSteps b .blocking))
        (after .nonblocking (serving scripts) (beginSteps b .nonblocking)) ∧
      (after .blocking (serving scripts) (beginSteps b .blocking)).cursors = [] := by
  have halike := alike_begin_blocking hfair hconfig
  rcases alike_begin_nonblocking hfair hconfig with ⟨halike', hhandles⟩
  have hhonest := honest_replies (c := { scripts := scripts }) hfair 0 .begin Message.begin .ignore
  refine ⟨⟨halike.symm.trans halike', ?_, ?_, ?_, ?_, ?_, ?_⟩, ?_⟩
  · rw [← halike.connection]
    cases config.bookmark.isEmpty <;> exact ⟨rfl, rfl, rfl, rfl⟩
  · rw [← halike.connection]
    cases config.bookmark.isEmpty <;> exact hfair
  · rw [← halike.connection]
    cases config.bookmark.isEmpty with
    | true =>
        intro r hr
        have hmem : r ∈ (serving scripts).requests 0 .begin Message.begin .ignore .ignore := hr
        simp only [Client.requests, List.mem_cons, List.not_mem_nil, or_false] at hmem
        rcases hmem with rfl | rfl
        · exact ⟨rfl, (hhonest.begins rfl).1⟩
        · exact ⟨rfl, (hhonest.begins rfl).2⟩
    | false => simp [begun]
  · rw [← halike.transactions]
    cases config.bookmark.isEmpty <;> rfl
  · rw [Client.footing?, ← halike.transactions]
    cases config.bookmark.isEmpty <;> rfl
  · rw [hhandles]
    simp
  · rw [← halike.cursors]
    cases config.bookmark.isEmpty <;> rfl

end

/-! ## Closing -/

section

variable {b : Begin} {s s' : Client}

/-- Closing claims the transaction, and ends it alike. -/
theorem concluded_close (h : Aligned b.tx s s') :
    Concluded b.handle s'.handles (Blocking.close s 0)
      (Nonblocking.terminate s' 0 .close (some b.handle)) := by
  rcases h.exists_transaction with ⟨t, hs, -, hc, ho⟩
  have hs' : s'.transactions = [t] := by rw [← h.alike.transactions, hs]
  have ht : s.transactions[0]? = some t := by simp [hs]
  have ht' : s'.transactions[0]? = some t := by simp [hs']
  have hclaimed : Client.Alike (s.updateTransaction 0 Transaction.claim)
      (Nonblocking.claimed s' 0 (some b.handle)) :=
    (h.alike.updateTransaction 0 _).trans (.addHandle _ _)
  have hidle : Idle (s.updateTransaction 0 Transaction.claim) := ⟨h.quiet, h.fair, h.pending⟩
  have hopen : (s.updateTransaction 0 Transaction.claim).connection.isOpen = true := h.quiet.isOpen
  rw [Blocking.close_of_unclaimed ht hc, Nonblocking.terminate_of_unclaimed ht' hc]
  unfold Blocking.conclude
  rw [hopen]
  have hrolled : Concluded b.handle s'.handles
      ((Blocking.rollbackExchange 0 (s.updateTransaction 0 Transaction.claim)).1,
        (Blocking.rollbackExchange 0 (s.updateTransaction 0 Transaction.claim)).2.release 0)
      (Nonblocking.sendTerminal (Nonblocking.claimed s' 0 (some b.handle)) 0 .rollback
        (Nonblocking.ending (.handle s'.handles.length))) := by
    have hhandles : (Nonblocking.claimed s' 0 (some b.handle)).handles =
        s'.handles ++ [.fresh (some b.handle)] := rfl
    have hback := concluded_rollback hidle hclaimed hhandles
      (Nonblocking.ending (.handle s'.handles.length)) none fun _ _ => rfl
    have hidle' := hidle.of_alike hclaimed
    have hdrain := drain_exchange hidle' .rollback Message.rollback
      (.rolledBack (Nonblocking.ending (.handle s'.handles.length))) 1 rfl
    rw [← hclaimed.connection] at hdrain
    rw [Nonblocking.sendTerminal,
      Client.flush_of_quiet (Client.quiet_send hidle'.quiet 0 _ _ _ _ _), hdrain]
    exact hback
  cases hstate : t.state with
  | active => exact hrolled
  | markedFailed => exact hrolled
  | markedSuccess => exact concluded_commit hidle hclaimed rfl
  | failed => exact concluded_tell none hclaimed rfl
  | committed => simp [Transaction.isOpen, State.isOpen, State.isTerminal, hstate] at ho
  | rolledBack => simp [Transaction.isOpen, State.isOpen, State.isTerminal, hstate] at ho

/-- What is shown of closing, and the clients after it. -/
theorem alike_closed (h : Aligned b.tx s s') :
    (shown .blocking s (closeSteps b .blocking)).2 =
        (shown .nonblocking s' (closeSteps b .nonblocking)).2 ∧
      Client.Alike (after .blocking s (closeSteps b .blocking))
        (after .nonblocking s' (closeSteps b .nonblocking)) := by
  rcases h.exists_transaction with ⟨t, hs, ht, -, -⟩
  have hs' : s'.transactions = [t] := by rw [← h.alike.transactions, hs]
  have hconcluded := concluded_close h
  have hclose : perform .blocking s (.close b.tx none) =
      (.ofFailure .ended (Blocking.close s 0).1, (Blocking.close s 0).2) := by
    show onTransaction s b.tx _ = _
    rw [onTransaction_of_alone hs ht]
  have hclose' : perform .nonblocking s' (.close b.tx (some b.handle)) =
      (.done, Nonblocking.terminate s' 0 .close (some b.handle)) := by
    show onTransaction s' b.tx _ = _
    rw [onTransaction_of_alone hs' ht]
  have hpoll := perform_poll b.handle h.polled hconcluded.handle
  have hshown : shown .blocking s (closeSteps b .blocking) =
      (some (perform .blocking s (.close b.tx none)).1,
        some (perform .blocking s (.close b.tx none)).1) := rfl
  have hshown' := shown_pair .nonblocking s' (.close b.tx (some b.handle)) (.poll b.handle)
  have hafter : after .blocking s (closeSteps b .blocking) =
      (perform .blocking s (.close b.tx none)).2 := rfl
  have hafter' : after .nonblocking s' (closeSteps b .nonblocking) =
      (perform .nonblocking (perform .nonblocking s' (.close b.tx (some b.handle))).2
        (.poll b.handle)).2 := rfl
  rw [hclose', hpoll] at hshown' hafter'
  rw [hclose] at hshown hafter
  rw [hshown, hafter, hafter', closeSteps, hshown']
  have halike := hconcluded.alike
  generalize Nonblocking.terminate s' 0 .close (some b.handle) = s₁' at halike
  generalize Blocking.close s 0 = sent at halike ⊢
  rcases sent with ⟨failure, s₁⟩
  cases failure with
  | none => exact ⟨rfl, halike.trans ⟨rfl, rfl, rfl, rfl⟩⟩
  | some e => exact ⟨rfl, halike.trans ⟨rfl, rfl, rfl, rfl⟩⟩

/-- Closing ends the transaction. -/
theorem final?_closed (h : Aligned b.tx s s') :
    ∃ final, (after .blocking s (closeSteps b .blocking)).final? 0 = some final := by
  rcases h.exists_transaction with ⟨t, hs, ht, hc, ho⟩
  have hplace : s.transactions[0]? = some t := by simp [hs]
  have hclose : after .blocking s (closeSteps b .blocking) = (Blocking.close s 0).2 := by
    show (onTransaction s b.tx _).2 = _
    rw [onTransaction_of_alone hs ht]
  rcases Blocking.closing_close h.passive hplace hc ho with ⟨final, events, -, hclosed⟩
  refine ⟨final, ?_⟩
  rw [hclose, Client.final?_eq, hclosed.footing, if_pos rfl]
  rfl

end

/-! ## Whole programs -/

/-- A server has learned its scripts, and the transaction has been begun. -/
def opened (setup : List Script) (b : Begin) (flavor : Flavor) : Client :=
  after flavor {} (setup.map .script ++ beginSteps b flavor)

theorem opened_eq (setup : List Script) (b : Begin) (flavor : Flavor) :
    opened setup b flavor =
      after flavor (serving (setup.foldl Connection.setScript {}).scripts)
        (beginSteps b flavor) := by
  unfold opened
  rw [after_append, after_scripts]
  congr 1
  rw [Client.updateConnection, foldl_setScript]
  rfl

/-- The transaction has been begun, used and closed. -/
def closed (setup : List Script) (b : Begin) (actions : List Action) (flavor : Flavor) : Client :=
  after flavor (acted b flavor (opened setup b flavor) actions) (closeSteps b flavor)

/-- Calls that wait and calls that do not come to the same. What is shown of each action is the
same; after each action the transaction, the results and the requests that were sent are the same;
closing has the same outcome, and ends the transaction in the same state with one release and one
notification. -/
theorem flavors_agree (setup : List Script) {b : Begin} {config : Config} (actions : List Action)
    (hconfig : beginConfig {} b = .ok config)
    (hfair : ∀ script ∈ setup ++ actions.filterMap Action.script?, script.Fair)
    (hdistinct : (actions.filterMap Action.result?).Nodup) :
    dialogue b .blocking (opened setup b .blocking) actions =
        dialogue b .nonblocking (opened setup b .nonblocking) actions ∧
      (∀ earlier, earlier <+: actions →
        Client.Alike (acted b .blocking (opened setup b .blocking) earlier)
          (acted b .nonblocking (opened setup b .nonblocking) earlier)) ∧
      (shown .blocking (acted b .blocking (opened setup b .blocking) actions)
          (closeSteps b .blocking)).2 =
        (shown .nonblocking (acted b .nonblocking (opened setup b .nonblocking) actions)
          (closeSteps b .nonblocking)).2 ∧
      Client.Alike (closed setup b actions .blocking) (closed setup b actions .nonblocking) ∧
      ∃ final, ∀ flavor, (closed setup b actions flavor).final? 0 = some final ∧
        (closed setup b actions flavor).endings 0 = [.released, .notified] := by
  have hserver : ∀ script ∈ (setup.foldl Connection.setScript {}).scripts, script.Fair :=
    scripts_foldl (fun script hmem => hfair script (List.mem_append_left _ hmem)) {} (by simp)
  rcases aligned_begin hserver hconfig with ⟨hbegun, hcursors⟩
  rw [← opened_eq, ← opened_eq] at hbegun
  rw [← opened_eq] at hcursors
  have hunused : ∀ result : String,
      some result ∉ (opened setup b .blocking).cursors.map Cursor.name := by
    simp [hcursors]
  -- What holds of the whole program holds of every part of it from the start.
  have hpart : ∀ earlier, earlier <+: actions →
      dialogue b .blocking (opened setup b .blocking) earlier =
          dialogue b .nonblocking (opened setup b .nonblocking) earlier ∧
        Aligned b.tx (acted b .blocking (opened setup b .blocking) earlier)
          (acted b .nonblocking (opened setup b .nonblocking) earlier) := by
    intro earlier hearlier
    refine together_actions hbegun ?_ (fun result _ => hunused result) ?_
    · intro script hscript
      exact hfair script (List.mem_append_right _ ((hearlier.filterMap _).subset hscript))
    · exact hdistinct.sublist (hearlier.filterMap _).sublist
  rcases hpart actions (List.prefix_refl actions) with ⟨hdialogue, haligned⟩
  rcases alike_closed haligned with ⟨hshown, halike⟩
  rcases final?_closed haligned with ⟨final, hfinal⟩
  have hfinal' : ∀ flavor, (closed setup b actions flavor).final? 0 = some final := by
    intro flavor
    cases flavor with
    | blocking => exact hfinal
    | nonblocking =>
        rw [← hfinal]
        simp only [Client.final?, closed, halike.transactions]
  refine ⟨hdialogue, fun earlier hearlier => (hpart earlier hearlier).2.alike, hshown, halike,
    final, fun flavor => ⟨hfinal' flavor, ?_⟩⟩
  have honce := endsOnce_after flavor (setup.map .script ++ beginSteps b flavor ++
    actions.flatMap (Action.steps b flavor) ++ closeSteps b flavor) 0
  rw [after_append, after_append] at honce
  have hends : (closed setup b actions flavor).endings 0 =
      if ((closed setup b actions flavor).final? 0).isSome then [.released, .notified] else [] :=
    honce
  rw [hends, hfinal']
  rfl

/-- The error of a server that has lost its database. -/
def unavailable : Error :=
  .server "Neo.TransientError.General.DatabaseUnavailable" "gone"

/-- A server that does not acknowledge COMMIT. -/
def refusing : Script :=
  ⟨Message.commit, none, some { outcome := .failure unavailable }⟩

/-- A transaction with a listener and no bookmark. -/
def plain : Begin :=
  ⟨"t", .settings [], true, none, "h"⟩

/-- A statement that goes well, and the mark for COMMIT. -/
def reading : List Action :=
  [.query "RETURN 1" [] "r", .success]

/-- A caller that does not wait is told of the COMMIT that failed, as one that waits is. -/
theorem flavors_agree_of_refusing :
    (shown .nonblocking (acted plain .nonblocking (opened [refusing] plain .nonblocking) reading)
        (closeSteps plain .nonblocking)).2 = some (.failed unavailable) ∧
      (closed [refusing] plain reading .nonblocking).final? 0 = some .rolledBack := by
  have hfair : ∀ script ∈ [refusing] ++ reading.filterMap Action.script?, script.Fair := by
    intro script hscript
    simp [reading, Action.script?] at hscript
    subst hscript
    refine ⟨?_, ?_, ?_, ?_⟩ <;> simp [refusing, Message.commit, Message.begin, Message.rollback]
  have hconfig : beginConfig {} plain = .ok {} := rfl
  rcases flavors_agree [refusing] reading hconfig hfair (by decide) with
    ⟨-, -, hshown, -, final, hend⟩
  refine ⟨hshown.symm.trans rfl, ?_⟩
  have hfinal : (closed [refusing] plain reading .blocking).final? 0 = some .rolledBack := rfl
  rw [(hend .nonblocking).1, ← (hend .blocking).1, hfinal]

end ClientTransaction.Scenario
