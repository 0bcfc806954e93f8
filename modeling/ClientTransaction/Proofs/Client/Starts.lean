import ClientTransaction.Config
import ClientTransaction.Proofs.Client.Calm

/-!
# Client.Starts — which exchanges are started

A client whose calls do not wait makes them in whole exchanges: a RUN, the PULL_ALL that belongs to
it, and a flush, which only a BEGIN without a bookmark goes without. What such a client does between
two moments is bounded by the exchanges that it is allowed to start: those of the requests that are
sent, and the ROLLBACKs that follow from replies. Nothing that a handler does starts an exchange of
any other kind.
-/

namespace ClientTransaction

/-- What is run for an exchange that is no statement. -/
inductive Worded : Exchange → String → Params → Prop
  | begin (params : Params) : Worded .begin Message.begin params
  | statement (cursor : Nat) (text : String) (params : Params) :
      Worded (.statement cursor) text params
  | commit : Worded .commit Message.commit []
  | rollback : Worded .rollback Message.rollback []

/-- Whether an exchange is flushed at once: a BEGIN is for its bookmark, and the others always. -/
def Exchange.flushes (params : Params) : Exchange → Bool
  | .begin => (params.get? "bookmark").isSome
  | _ => true

/-- Only the empty bookmark has no newest value. -/
theorem Bookmark.isEmpty_eq (b : Bookmark) : b.isEmpty = b.newest?.isNone := by
  rcases b with ⟨_ | ⟨value, rest⟩⟩
  · rfl
  · unfold newest?
    split <;> simp [isEmpty]

/-- A BEGIN is told of a bookmark if there is one. -/
theorem Config.get?_beginParameters (c : Config) :
    (c.beginParameters.get? "bookmark").isSome = !c.bookmark.isEmpty := by
  rw [Bookmark.isEmpty_eq, beginParameters, Bookmark.beginParameters]
  cases c.bookmark.newest? <;> cases c.accessMode <;> rfl

/-- The calls that an exchange is started with. -/
def Exchange.calls (tx : Nat) (exchange : Exchange) (statement : String) (params : Params) :
    List Event :=
  .run tx exchange statement params :: .pullAll tx exchange ::
    if exchange.flushes params then [.flush tx] else []

namespace Event

/-- A call on the connection, or its failure. -/
def isCall : Event → Bool
  | .run .. | .pullAll .. | .flush _ | .sync _ | .refused _ => true
  | _ => false

end Event

/-- What happens at one moment where calls do not wait. -/
inductive Block
  | note (e : Event) (h : e.isCall = false)
  | start (tx : Nat) (exchange : Exchange) (statement : String) (params : Params)
      (h : Worded exchange statement params)

namespace Block

def events : Block → List Event
  | .note e _ => [e]
  | .start tx exchange statement params _ => exchange.calls tx statement params

/-- The transaction and the exchange that is started. -/
def start? : Block → Option (Nat × Exchange)
  | .note .. => none
  | .start tx exchange _ _ _ => some (tx, exchange)

/-- Every RUN in the block is that of its exchange. -/
theorem start?_of_run {b : Block} {tx : Nat} {exchange : Exchange} {statement : String}
    {params : Params} (h : .run tx exchange statement params ∈ b.events) :
    b.start? = some (tx, exchange) := by
  cases b with
  | note e he =>
      cases List.mem_singleton.1 h
      simp [Event.isCall] at he
  | start owner other text given hw =>
      simp only [events, Exchange.calls, List.mem_cons, reduceCtorEq, false_or] at h
      rcases h with h | h
      · cases h
        rfl
      · split at h <;> simp at h

end Block

namespace Client

/-- Between `s` and `s'` only exchanges are started that are allowed. -/
def Starts (allowed : Nat → Exchange → Prop) (s s' : Client) : Prop :=
  ∃ blocks : List Block, s'.history = s.history ++ blocks.flatMap Block.events ∧
    ∀ b ∈ blocks, ∀ tx exchange, b.start? = some (tx, exchange) → allowed tx exchange

namespace Starts

variable {allowed : Nat → Exchange → Prop} {s s₁ s₂ : Client}

theorem of_history (h : s₁.history = s.history) : Starts allowed s s₁ :=
  ⟨[], by simp [h], by simp⟩

theorem refl (s : Client) : Starts allowed s s :=
  of_history rfl

theorem trans (h : Starts allowed s s₁) (h' : Starts allowed s₁ s₂) : Starts allowed s s₂ := by
  rcases h with ⟨blocks, heq, hall⟩
  rcases h' with ⟨blocks', heq', hall'⟩
  refine ⟨blocks ++ blocks', by rw [heq', heq, List.flatMap_append, List.append_assoc], ?_⟩
  intro b hb
  rcases List.mem_append.1 hb with hb | hb
  · exact hall b hb
  · exact hall' b hb

/-- Something happens that is no call. -/
theorem note (s : Client) {e : Event} (h : e.isCall = false) : Starts allowed s (s.record e) := by
  refine ⟨[.note e h], rfl, ?_⟩
  intro b hb tx exchange hstart
  rw [List.mem_singleton.1 hb] at hstart
  simp [Block.start?] at hstart

theorem calm (h : s.Calm s₁) : Starts allowed s s₁ := by
  rcases h.history with ⟨asides, heq, hall⟩
  have hnote : ∀ e ∈ asides, e.isCall = false := by
    intro e he
    have haside := hall e he
    cases e with
    | fetched | statementFailed | wake => rfl
    | _ => exact haside.elim
  refine ⟨asides.attach.map fun e => .note e.1 (hnote e.1 e.2), ?_, ?_⟩
  · rw [heq, List.flatMap_map]
    simp [Block.events]
  · intro b hb tx exchange hstart
    rcases List.mem_map.1 hb with ⟨e, -, rfl⟩
    simp [Block.start?] at hstart

/-! ## Operations of the client -/

/-- An exchange that is flushed. -/
theorem sendFlush (s : Client) {tx : Nat} {exchange : Exchange} (h : allowed tx exchange)
    {statement : String} {params : Params} (hw : Worded exchange statement params)
    (hf : exchange.flushes params = true) (onRun onPull : Handler) :
    Starts allowed s
      ((s.send tx exchange statement params onRun onPull).record (.flush tx)) := by
  refine ⟨[.start tx exchange statement params hw], ?_, ?_⟩
  · rw [(Client.frame_record _ _).2.2.2.2,
      (s.frame_send tx exchange statement params onRun onPull).2.2.2.2]
    simp [Block.events, Exchange.calls, hf]
  · simpa [Block.start?] using h

theorem release (s : Client) (tx : Nat) : Starts allowed s (s.release tx) := by
  have hfinal : Starts allowed s (s.updateTransaction tx (Transaction.finalize .rolledBack)) :=
    of_history rfl
  exact (hfinal.trans (note _ rfl)).trans (note _ rfl)

theorem resolve (s : Client) (handle : Nat) (result : Except Error Payload) :
    Starts allowed s (s.resolve handle result) := by
  unfold Client.resolve
  split
  · exact refl s
  · rename_i h _
    have hset : Starts allowed s { s with handles := s.handles.set handle (h.resolve result) } :=
      of_history rfl
    dsimp only
    split
    · exact hset.trans (note _ rfl)
    · exact hset

theorem runFinalizers (s : Client) (tx : Nat) (actions : List (Finalizer × Except Error Unit)) :
    Starts allowed s (s.runFinalizers tx actions) := by
  induction actions generalizing s with
  | nil => exact refl s
  | cons action rest ih =>
      rcases action with ⟨⟨⟩, shown⟩
      exact (release s tx).trans (ih _)

theorem fire (s : Client) (tx : Nat) (done : TerminalChain) (result : Except Error Unit) :
    Starts allowed s (s.fire tx done result).1 := by
  have hactions : Starts allowed s (s.runFinalizers tx (done.fire result).1) := runFinalizers s tx _
  unfold Client.fire
  dsimp only
  split
  · exact hactions.trans (resolve _ _ _)
  · exact hactions
  · exact hactions

theorem abandon (s : Client) (requests : List Request) (tx : Nat) :
    Starts allowed s (s.abandon requests tx).1 := by
  unfold Client.abandon
  split
  · exact refl s
  · split
    · exact refl s
    · have hclaim : Starts allowed s (s.updateTransaction tx Transaction.claim) := of_history rfl
      dsimp only
      split
      · exact hclaim.trans (release _ tx)
      · exact hclaim

theorem refuse (s : Client) (tx handle : Nat) (e : Error) :
    Starts allowed s (s.refuse tx handle e) := by
  have hmark : Starts allowed s (s.updateTransaction tx fun t => t.markFailed.claim) :=
    of_history rfl
  unfold Client.refuse
  dsimp only
  split
  · exact hmark.trans (resolve _ _ _)
  · exact (hmark.trans (release _ tx)).trans (resolve _ _ _)

/-- The handler of a reply starts no exchange itself. -/
theorem answer (s : Client) (others : List Request) (r : Request) :
    Starts allowed s (s.answer others r).1 := by
  have hreply : Starts allowed s (s.record (.reply r.owner r.exchange r.part r.reply)) :=
    note s rfl
  cases hown : r.handler.ownsCompletion with
  | false => exact hreply.trans (calm (s.calm_answer others hown).1)
  | true =>
      rcases r with ⟨owner, exchange, part, handler, ⟨records, outcome⟩⟩
      have hupdate : ∀ f : Transaction → Transaction,
          Starts allowed s ((s.record (.reply owner exchange part ⟨records, outcome⟩)
            ).updateTransaction owner f) := fun _ => hreply.trans (of_history rfl)
      cases handler with
      | begun handle =>
          cases outcome with
          | success metadata => exact (hreply.trans (resolve _ _ _)).trans (abandon _ _ _)
          | failure e => exact hreply.trans (refuse _ _ _ _)
          | dropped => exact hreply.trans (refuse _ _ _ _)
      | committed done =>
          cases outcome with
          | success metadata => exact (hupdate _).trans (fire _ _ _ _)
          | failure e => exact hreply.trans (fire _ _ _ _)
          | dropped => exact hreply.trans (fire _ _ _ _)
      | rolledBack done =>
          cases outcome with
          | success metadata => exact (hupdate _).trans (fire _ _ _ _)
          | failure e => exact hreply.trans (fire _ _ _ _)
          | dropped => exact hreply.trans (fire _ _ _ _)
      | _ => simp [Handler.ownsCompletion] at hown

theorem next {r : Request} (h : s.next? = some (r, s₁)) : Starts allowed s s₁ := by
  unfold Client.next? at h
  split at h
  · cases h
  · cases h
    exact of_history rfl

/-! ## Delivery

What is started while replies are delivered are ROLLBACKs. -/

section

variable (hback : ∀ tx, allowed tx .rollback)

include hback

theorem start (s : Client) (r : Option Rollback) : Starts allowed s (s.start r) := by
  cases r with
  | none => exact refl s
  | some r => exact sendFlush s (hback r.tx) .rollback rfl _ _

theorem drainUpTo (count : Nat) (s : Client) : Starts allowed s (Client.drainUpTo count s) := by
  induction count generalizing s with
  | zero => exact refl s
  | succ count ih =>
      unfold Client.drainUpTo
      split
      · exact refl s
      · rename_i r s' hnext
        exact ((next hnext).trans (answer s' _ r)).trans ((start hback _ _).trans (ih _))

theorem settle (s : Client) : Starts allowed s s.settle := by
  unfold Client.settle
  split
  · exact refl s
  · exact drainUpTo hback _ s

theorem follow (answered : Client × Option Rollback) :
    Starts allowed answered.1 (Client.follow answered) := by
  rcases answered with ⟨s, rollback⟩
  cases rollback with
  | none => exact refl s
  | some r => exact (start hback s (some r)).trans (settle hback _)

/-- An exchange that is flushed, and what is delivered then. -/
theorem exchange (s : Client) {tx : Nat} {exchange : Exchange} (h : allowed tx exchange)
    {statement : String} {params : Params} (hw : Worded exchange statement params)
    (hf : exchange.flushes params = true) (onRun onPull : Handler) :
    Starts allowed s ((s.send tx exchange statement params onRun onPull).flush tx) :=
  (sendFlush s h hw hf onRun onPull).trans (settle hback _)

theorem deliverUpTo (count : Nat) (first : Option Error) (s : Client) :
    Starts allowed s (Client.deliverUpTo count first s).2 := by
  induction count generalizing first s with
  | zero => exact refl s
  | succ count ih =>
      unfold Client.deliverUpTo
      split
      · exact refl s
      · rename_i r s' hnext
        exact ((next hnext).trans (answer s' _ r)).trans ((follow hback _).trans (ih _ _))

theorem giveUp (requests : List Request) (s : Client) :
    Starts allowed s (Client.giveUp requests s) := by
  induction requests generalizing s with
  | nil => exact refl s
  | cons r rest ih =>
      unfold Client.giveUp
      exact (answer s _ _).trans ((follow hback _).trans (ih _))

theorem dropQueue (s : Client) : Starts allowed s s.dropQueue := by
  have hempty : Starts allowed s (s.updateConnection fun c => { c with queue := [] }) :=
    of_history rfl
  exact hempty.trans (giveUp hback _ _)

end

/-- An exchange that is not allowed has been started no more often than before. -/
theorem terminalExchange_mem {tx : Nat} {exchange : Exchange} (h : Starts allowed s s₁)
    (hnot : ¬ allowed tx exchange) (hmem : exchange ∈ s₁.terminalExchanges tx) :
    exchange ∈ s.terminalExchanges tx := by
  rcases h with ⟨blocks, heq, hall⟩
  have hseen : s₁.terminalExchanges tx = s.terminalExchanges tx ++
      (blocks.flatMap Block.events).filterMap (Event.terminalExchange? tx) :=
    seen_eq_of_history heq
  rw [hseen] at hmem
  rcases List.mem_append.1 hmem with hmem | hmem
  · exact hmem
  · rcases List.mem_filterMap.1 hmem with ⟨e, he, hterminal⟩
    rcases List.mem_flatMap.1 he with ⟨b, hb, he⟩
    have hstart : b.start? = some (tx, exchange) := by
      cases e with
      | run owner other statement params =>
          rw [Block.start?_of_run he]
          cases other <;> simp_all
      | _ => simp at hterminal
    exact absurd (hall b hb tx exchange hstart) hnot

end Starts

end Client

end ClientTransaction
