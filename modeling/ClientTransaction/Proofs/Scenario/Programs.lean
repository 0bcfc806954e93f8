import ClientTransaction.Proofs.Scenario.Quiet
import ClientTransaction.Scenario

/-!
# Scenario.Programs — what an application does with one transaction

An application begins a transaction, runs statements and asks for each result at once, marks the
transaction, and closes it. Each of these is one step where calls wait for their replies, and a
few where they do not. Two clients, one of each kind, are side by side as long as they have sent the
same requests and hold the same transaction and results.
-/

namespace ClientTransaction

/-! ## Servers -/

/-- The server answers every request, refuses the PULL_ALL of a RUN that it has refused, lets
transactions begin, and has no bookmark for a ROLLBACK. -/
structure Script.Fair (script : Script) : Prop where
  answered : ∀ r : Reply, script.run = some r ∨ script.pull = some r → r.outcome ≠ .dropped
  refused : ∀ (r p : Reply) (e : Error), script.run = some r → script.pull = some p →
    r.outcome = .failure e → p.outcome = .failure e
  begins : script.statement = Message.begin → ∀ r : Reply,
    script.run = some r ∨ script.pull = some r → r.outcome.failure? = none
  unmarked : script.statement = Message.rollback → ∀ (p : Reply) (metadata : Params),
    script.pull = some p → p.outcome = .success metadata →
      (Message.bookmark metadata).isEmpty = true

/-- The outcomes of the RUN and the PULL_ALL of a statement, where the server is of this kind. -/
structure Honest (statement : String) (ran pulled : Outcome) : Prop where
  answered : ran ≠ .dropped ∧ pulled ≠ .dropped
  refused : ∀ e, ran = .failure e → pulled = .failure e
  begins : statement = Message.begin → ran.failure? = none ∧ pulled.failure? = none
  unmarked : statement = Message.rollback →
    ∀ metadata, pulled = .success metadata → (Message.bookmark metadata).isEmpty = true

/-- A statement without a script gets the usual replies. -/
theorem honest_usual (statement : String) : Honest statement (.success []) (.success []) where
  answered := by simp
  refused := by simp
  begins := by simp [Outcome.failure?]
  unmarked := by
    intro _ metadata hm
    cases hm
    rfl

theorem Script.Fair.honest {script : Script} (h : script.Fair) {ran pulled : Reply}
    (hran : ran = script.run.getD {})
    (hpulled : pulled = script.pull.getD
      (match ran.outcome with
        | .failure e => { outcome := .failure e }
        | _ => {})) : Honest script.statement ran.outcome pulled.outcome := by
  subst hran hpulled
  cases hr : script.run with
  | none =>
      cases hp : script.pull with
      | none => exact honest_usual _
      | some p =>
          refine ⟨⟨by simp, h.answered p (Or.inr hp)⟩, by simp, fun hb => ⟨rfl, ?_⟩, ?_⟩
          · exact h.begins hb p (Or.inr hp)
          · exact fun hb metadata => h.unmarked hb p metadata hp
  | some r =>
      have hr' := h.answered r (Or.inl hr)
      have hb' := fun hb => h.begins hb r (Or.inl hr)
      cases hp : script.pull with
      | none =>
          -- The PULL_ALL gets what its RUN got.
          simp only [Option.getD_some, Option.getD_none]
          cases ho : r.outcome with
          | success metadata =>
              exact ⟨by simp, by simp, by simp [Outcome.failure?], fun _ metadata hm => by
                cases hm
                rfl⟩
          | failure e =>
              refine ⟨by simp, by simp, fun hb => ?_, by simp⟩
              simp [ho, Outcome.failure?] at hb'
              exact absurd hb hb'
          | dropped => exact absurd ho hr'
      | some p =>
          exact ⟨⟨hr', h.answered p (Or.inr hp)⟩, fun e => h.refused r p e hr hp,
            fun hb => ⟨hb' hb, h.begins hb p (Or.inr hp)⟩,
            fun hb metadata => h.unmarked hb p metadata hp⟩

/-- A PULL_ALL gets the reply that its script has for it, or the failure of its RUN. -/
theorem Connection.pullReply_run (c : Connection) (tx : Nat) (exchange : Exchange)
    (statement : String) (handler : Handler) :
    (c.run tx exchange statement handler).pullReply =
      ((c.script? statement).bind Script.pull).getD
        (match (c.runReply statement).outcome with
          | .failure e => { outcome := .failure e }
          | _ => {}) :=
  rfl

theorem honest_replies {c : Connection} (h : ∀ script ∈ c.scripts, script.Fair) (tx : Nat)
    (exchange : Exchange) (statement : String) (handler : Handler) :
    Honest statement (c.runReply statement).outcome
      (c.run tx exchange statement handler).pullReply.outcome := by
  rw [c.pullReply_run, Connection.runReply]
  cases hs : c.script? statement with
  | none => exact honest_usual statement
  | some script =>
      have hname : script.statement = statement := by simpa using List.find?_some hs
      subst hname
      exact (h script (List.mem_of_find?_eq_some hs)).honest rfl rfl

namespace Honest

variable {statement : String} {ran pulled : Outcome}

/-- The first failure of an exchange is that of its PULL_ALL. -/
theorem first_failure (h : Honest statement ran pulled) :
    (ran.failure? <|> pulled.failure?) = pulled.failure? := by
  cases ran with
  | success metadata => rfl
  | failure e => rw [h.refused e rfl]; rfl
  | dropped => exact absurd rfl h.answered.1

end Honest

theorem exists_success {o : Outcome} (ho : o ≠ .dropped) (hf : o.failure? = none) :
    ∃ metadata, o = .success metadata := by
  cases o with
  | success metadata => exact ⟨metadata, rfl⟩
  | failure e => simp [Outcome.failure?] at hf
  | dropped => exact absurd rfl ho

namespace Scenario

/-! ## Programs -/

/-- One thing that an application does with a transaction that it has begun, or that the server
learns meanwhile. -/
inductive Action
  | server (script : Script)
  | success
  | failure
  | setBookmark (source : Bookmark.Source)
  /-- Runs a statement and asks at once for its result, which gets a name. -/
  | query (statement : String) (params : Params) (result : String)
  deriving Repr

def Action.script? : Action → Option Script
  | .server script => some script
  | _ => none

def Action.result? : Action → Option String
  | .query _ _ result => some result
  | _ => none

/-- The beginning. A caller that does not wait asks the handle. -/
def beginSteps (b : Begin) : Flavor → List Step
  | .blocking => [.begin b]
  | .nonblocking => [.begin b, .poll b.handle]

def Action.steps (b : Begin) (flavor : Flavor) : Action → List Step
  | .server script => [.script script]
  | .success => [.success b.tx]
  | .failure => [.failure b.tx]
  | .setBookmark source => [.setBookmark b.tx source]
  | .query statement params result =>
      .run b.tx statement params (some result) ::
        match flavor with
        | .blocking => [.consume result none]
        | .nonblocking => [.consume result (some b.handle), .poll b.handle]

def closeSteps (b : Begin) : Flavor → List Step
  | .blocking => [.close b.tx none]
  | .nonblocking => [.close b.tx (some b.handle), .poll b.handle]

/-- The answers to the first and the last of some steps: whether a call was accepted, and its
result. -/
def shown (flavor : Flavor) (s : Client) (steps : List Step) : Option Answer × Option Answer :=
  let answers := (reportAll flavor s steps).map Report.answer
  (answers.head?, answers.getLast?)

/-- What is shown of each action, one after the other. -/
def dialogue (b : Begin) (flavor : Flavor) (s : Client) :
    List Action → List (Option Answer × Option Answer)
  | [] => []
  | action :: rest =>
      shown flavor s (action.steps b flavor) ::
        dialogue b flavor (after flavor s (action.steps b flavor)) rest

/-! ## Two clients side by side -/

/-- The transaction is open, and a caller that waits and one that does not are at the same point. -/
structure Aligned (name : String) (s s' : Client) : Prop where
  alike : Client.Alike s s'
  quiet : s.connection.Quiet
  fair : ∀ script ∈ s.connection.scripts, script.Fair
  /-- Only BEGIN may still be unanswered. -/
  pending : ∀ r ∈ s.connection.queue, r.handler = .ignore ∧ r.reply.outcome.failure? = none
  held : s.transactions.map Transaction.holdings = [[⟨name, true⟩]]
  footing : s.footing? 0 = some ⟨false, none⟩
  /-- Every handle has given its outcome. -/
  polled : ∀ h ∈ s'.handles, h.name = none

section

variable {name : String} {s s' : Client}

namespace Aligned

theorem passive (h : Aligned name s s') : s.connection.Passive := by
  intro r hr
  simp [(h.pending r hr).1, Handler.ownsCompletion]

theorem exists_transaction (h : Aligned name s s') :
    ∃ t : Transaction, s.transactions = [t] ∧ t.holdings = [⟨name, true⟩] ∧
      t.closing = false ∧ t.isOpen = true := by
  have hheld := h.held
  have hfooting := h.footing
  cases hts : s.transactions with
  | nil => simp [hts] at hheld
  | cons t rest =>
      simp only [hts, List.map_cons, List.cons.injEq, List.map_eq_nil_iff] at hheld
      rcases hheld with ⟨hholdings, rfl⟩
      have hfoot : t.footing = ⟨false, none⟩ := by simpa [Client.footing?, hts] using hfooting
      refine ⟨t, rfl, hholdings, congrArg Footing.claimed hfoot, ?_⟩
      rw [t.isOpen_iff_footing, hfoot]

/-- A step that changes the transaction alone. -/
theorem change (h : Aligned name s s') {f : Transaction → Transaction}
    (hf : ∀ t : Transaction, (f t).footing = t.footing)
    (hh : ∀ t : Transaction, (f t).holdings = t.holdings) :
    Aligned name (s.updateTransaction 0 f) (s'.updateTransaction 0 f) :=
  { h with
    alike := h.alike.updateTransaction 0 f
    held := (map_modify_of_eq _ hh _ _).trans h.held
    footing := (s.footing?_updateTransaction_of_eq hf 0 0).trans h.footing }

end Aligned

/-! ### Names -/

/-- The only transaction has the name. -/
theorem onTransaction_of_alone {t : Transaction} (hs : s.transactions = [t])
    (ht : t.holdings = [⟨name, true⟩]) (act : Nat → Transaction → Answer × Client) :
    onTransaction s name act = act 0 t := by
  have hname : transaction? s name = some 0 := by
    simp [transaction?, hs, Transaction.isHeldAs, ht, List.findIdx?_cons]
  simp [onTransaction, hname, hs]

/-- A handle that is ready gives its outcome away and is gone. -/
theorem perform_poll (name : String) {handles : List (Handle Payload)}
    (hnone : ∀ h ∈ handles, h.name = none)
    {result : Except Error Payload}
    (hs : s.handles = handles ++ [⟨some name, .resolved result⟩]) :
    perform .nonblocking s (.poll name) =
      (outcomeAnswer (Nonblocking.adopt { s with handles := handles ++ [⟨none, .spent⟩] }
          (some result)) (some result),
        Nonblocking.adopt { s with handles := handles ++ [⟨none, .spent⟩] } (some result)) := by
  have hbefore : handles.findIdx? (fun h => h.name = some name) = none := by
    rw [List.findIdx?_eq_none_iff]
    intro h hmem
    simp [hnone h hmem]
  have hfind : handle? s name = some handles.length := by
    simp [handle?, Handle.find?, hs, List.findIdx?_append, hbefore, List.findIdx?_cons]
  have hplace : s.handles[handles.length]? = some ⟨some name, .resolved result⟩ := by simp [hs]
  have hset : s.handles.set handles.length ⟨none, .spent⟩ = handles ++ [⟨none, .spent⟩] := by
    simp [hs]
  have hask : ask s name Handle.poll =
      (outcomeAnswer (Nonblocking.ask s handles.length Handle.poll).2
          (Nonblocking.ask s handles.length Handle.poll).1,
        (Nonblocking.ask s handles.length Handle.poll).2) := by
    simp [ask, onHandle, hfind]
  have hpoll : Nonblocking.ask s handles.length Handle.poll =
      (some result, Nonblocking.adopt { s with handles := handles ++ [⟨none, .spent⟩] }
        (some result)) := by
    simp only [Nonblocking.ask, hplace, Handle.poll, Handle.drop, hset]
  show ask s name Handle.poll = _
  rw [hask, hpoll]

/-! ### Answers -/

theorem shown_single (flavor : Flavor) (s : Client) (step : Step) :
    shown flavor s [step] = (some (perform flavor s step).1, some (perform flavor s step).1) :=
  rfl

theorem shown_pair (flavor : Flavor) (s : Client) (step next : Step) :
    shown flavor s [step, next] = (some (perform flavor s step).1,
      some (perform flavor (perform flavor s step).2 next).1) :=
  rfl

theorem shown_triple (flavor : Flavor) (s : Client) (step next last : Step) :
    shown flavor s [step, next, last] = (some (perform flavor s step).1,
      some (perform flavor (perform flavor (perform flavor s step).2 next).2 last).1) :=
  rfl

end

end Scenario

end ClientTransaction
