import ClientTransaction.Proofs.Nonblocking.Acts

/-!
# Nonblocking.Requests — what requests are sent for

When calls do not wait, the exchange and the part of a request tell which handler it has: the replies
to a statement are for its cursor, and only the PULL_ALL of another exchange is heeded. Whatever
happens, nothing else is ever outstanding.
-/

namespace ClientTransaction

/-- The handlers of each part of an exchange. -/
inductive Handler.Fits : Exchange → Part → Handler → Prop
  | columns (cursor : Nat) : Fits (.statement cursor) .run (.columns cursor)
  | rows (cursor : Nat) : Fits (.statement cursor) .pullAll (.rows cursor)
  | ignore {exchange : Exchange} (h : ∀ cursor, exchange ≠ .statement cursor) :
      Fits exchange .run .ignore
  | begin : Fits .begin .pullAll .ignore
  | begun (handle : Nat) : Fits .begin .pullAll (.begun handle)
  | committed (done : TerminalChain) : Fits .commit .pullAll (.committed done)
  | rolledBack (done : TerminalChain) : Fits .rollback .pullAll (.rolledBack done)

/-- The request has the handler of its part of the exchange. -/
def Request.Fits (r : Request) : Prop :=
  r.handler.Fits r.exchange r.part

/-- A request keeps a cursor alive exactly as long as its statement is to be answered. -/
theorem Request.Fits.holdsCursor_iff {r : Request} (h : r.Fits) (cursor : Nat) :
    r.holdsCursor cursor = true ↔ r.exchange = .statement cursor := by
  rcases r with ⟨owner, exchange, part, handler, reply⟩
  cases h with
  | columns c => simp [holdsCursor]
  | rows c => simp [holdsCursor]
  | ignore hne => simp [holdsCursor, hne cursor]
  | begin => simp [holdsCursor]
  | begun handle => simp [holdsCursor]
  | committed done => simp [holdsCursor]
  | rolledBack done => simp [holdsCursor]

namespace Nonblocking

/-- All requests have the handlers of their parts. -/
def Situation.Fits (σ : Situation) : Prop :=
  ∀ r ∈ σ.outstanding, r.Fits

section

variable {rs : List Request} {s : Client}

theorem fits_requests {tx : Nat} {exchange : Exchange} {statement : String}
    {onRun onPull : Handler} (hrun : onRun.Fits exchange .run)
    (hpull : onPull.Fits exchange .pullAll) {r : Request}
    (hr : r ∈ s.requests tx exchange statement onRun onPull) : r.Fits := by
  simp only [Client.requests, List.mem_cons, List.not_mem_nil, or_false] at hr
  rcases hr with rfl | rfl
  · exact hrun
  · exact hpull

/-- More requests are sent. -/
theorem fits_append {new : List Request} (h : ∀ r ∈ rs, r.Fits) (hnew : ∀ r ∈ new, r.Fits) :
    ∀ r ∈ rs ++ new, r.Fits := by
  intro r hr
  rcases List.mem_append.1 hr with hr | hr
  · exact h r hr
  · exact hnew r hr

theorem fits_opening (rollback : Option Rollback) {r : Request} (hr : r ∈ s.opening rollback) :
    r.Fits := by
  cases rollback with
  | none => simp [Client.opening] at hr
  | some rb => exact fits_requests (.ignore fun _ => by simp) (.rolledBack rb.done) hr

theorem fits_taken (h : ∀ r ∈ rs, r.Fits) (tx : Nat) (name : Option String) (course : Course) :
    (taken rs s tx name course).Fits := by
  cases course with
  | finish result => exact h
  | commit => exact fits_append h fun _ => fits_requests (.ignore fun _ => by simp) (.committed _)
  | commitOrRollback =>
      exact fits_append h fun _ => fits_requests (.ignore fun _ => by simp) (.committed _)
  | rollback =>
      exact fits_append h fun _ => fits_requests (.ignore fun _ => by simp) (.rolledBack _)

end

theorem Situation.Fits.move {σ σ' : Situation} (h : σ.Fits) (hm : Move σ σ') : σ'.Fits := by
  cases hm with
  | calm hcalm => exact h
  | connect f => exact h
  | flush tx => exact h
  | send tx cursor statement params =>
      exact fits_append h fun _ => fits_requests (.columns cursor) (.rows cursor)
  | await cursor name => exact h
  | answered name result hresult => exact h
  | begin t ht params name =>
      exact fits_append h fun _ => fits_requests (.ignore fun _ => by simp) .begin
  | beginAwaited t ht params name =>
      exact fits_append h fun _ => fits_requests (.ignore fun _ => by simp) (.begun _)
  | claim ht hc hk name terminal => exact fits_taken h _ name _
  | answer before after r reply others =>
      refine fits_append (fun q hq => h q ?_) fun _ => fits_opening _
      rcases List.mem_append.1 hq with hq | hq
      · exact List.mem_append_left _ hq
      · exact List.mem_append_right _ (List.mem_cons_of_mem _ hq)
  | abandon tx => exact fits_append h fun _ => fits_opening _

theorem Situation.Fits.moves {σ σ' : Situation} (h : σ.Fits) (hm : Moves σ σ') : σ'.Fits := by
  induction hm with
  | refl => exact h
  | tail _ hm ih => exact ih.move hm

end Nonblocking

end ClientTransaction
