import ClientTransaction.Proofs.Scenario.Agreement
import ClientTransaction.Proofs.Scenario.Uses

/-!
# Scenario.Schedules — when replies come does not matter

While an application uses a transaction with calls that do not wait, replies are delivered at once,
or held back and delivered in portions at any points. As long as no statement fails, the requests
that are sent, the results, the outcomes of the handles and the end of the transaction are the same
for every such schedule.
-/

namespace ClientTransaction.Scenario

open Nonblocking

namespace Program

/-- Between the steps of the program replies are delivered or held back, and in the end none is left
to be delivered. -/
structure Schedule (p : Program) (steps : List Step) : Prop where
  program : (steps.filter fun step => !step.isDelivery) = p.steps
  drained : (p.after steps).connection.queue = []

/-- In the end everything is delivered. -/
theorem Schedule.of_deliver {p : Program} {steps : List Step}
    (h : (steps.filter fun step => !step.isDelivery) = p.steps) :
    p.Schedule (steps ++ [.deliver none]) where
  program := by
    rw [List.filter_append, h]
    exact List.append_nil _
  drained := by
    rw [Program.after, ← List.append_assoc, after_append]
    exact Client.queue_deliver _

end Program

section

variable {p : Program}

/-! ## Whole programs -/

theorem plan_underway (p : Program) {uses : List Use} (hu : uses ⊆ p.uses) :
    Plan (Underway p)
      (uses.map (Use.step p.opening.tx) ++ [endStep p.opening.tx p.handle p.terminal]) := by
  induction uses with
  | nil =>
      exact .step (stage_underway p) (deferrable_endStep p.terminal p.handle) (.done stage_neat)
  | cons u rest ih =>
      rcases deferrable_use (hu (List.mem_cons_self ..)) with ⟨f, hdeferrable⟩
      exact .step (stage_underway p) hdeferrable (ih fun v hv => hu (List.mem_cons_of_mem _ hv))

theorem plan_steps (hp : p.Harmless) : Plan (Fresh p) p.steps := by
  rcases hp.begins with ⟨config, hconfig, hempty⟩
  exact .step (stage_fresh p) (deferrable_begin hconfig hempty)
    (.step (stage_begun p) deferrable_poll (plan_underway p (List.Subset.refl _)))

/-- A server that has learned its scripts. -/
theorem fresh_setup (hp : p.Harmless) : Fresh p (p.after []) := by
  have hsetup : p.after [] = ({} : Client).updateConnection
      fun c => p.setup.foldl Connection.setScript c := by
    rw [Program.after, List.append_nil, after_scripts]
  have hconnection := foldl_setScript p.setup {}
  rw [hsetup]
  refine ⟨fun script hmem => ?_, rfl, rfl, rfl, ?_⟩
  · rcases mem_scripts_foldl hmem with hmem | hmem
    · exact hp.statements script hmem
    · simp at hmem
  · show (p.setup.foldl Connection.setScript {}).queue = []
    rw [hconnection]

/-- It does not matter when replies come, as long as no statement fails: for any two schedules of a
program, the same RUNs and PULL_ALLs are sent in the same order; the results have the same keys,
records and outcomes; the handles, for summaries and for the end of the transaction, show the same;
the transaction has the same state and bookmark; and it has been released, and its owner notified,
as often. COMMIT and ROLLBACK may succeed, fail or be given up. -/
theorem schedules_agree (hp : p.Harmless) {steps steps' : List Step} (h : p.Schedule steps)
    (h' : p.Schedule steps') :
    (p.after steps).sentRequests = (p.after steps').sentRequests ∧
      (p.after steps).cursors = (p.after steps').cursors ∧
      (p.after steps).handles.map Handle.shown = (p.after steps').handles.map Handle.shown ∧
      (p.after steps).transactions = (p.after steps').transactions ∧
      ∀ tx, (p.after steps).endings tx = (p.after steps').endings tx := by
  have hfresh := fresh_setup hp
  have hplan := plan_steps hp
  -- Each schedule comes to the same as the program without deliveries.
  have hsame : ∀ steps, p.Schedule steps →
      Client.Concurs (p.after steps) (p.after p.steps).drain := by
    intro steps hs
    have hmeets := hplan.meets hs.program hfresh hfresh (.refl _)
    have hafter : ∀ steps, p.after steps = after .nonblocking (p.after []) steps := by
      intro steps
      rw [Program.after, Program.after, List.append_nil, after_append]
    rw [← hafter, ← hafter, Client.drain_of_empty hs.drained] at hmeets
    exact hmeets
  have hconcurs := (hsame steps h).trans (hsame steps' h').symm
  refine ⟨hconcurs.requests, hconcurs.cursors, hconcurs.handles, hconcurs.transactions, ?_⟩
  intro tx
  -- How often the transaction has been released is told by its state.
  have hends := endsOnce_after .nonblocking (p.setup.map .script ++ steps) tx
  have hends' := endsOnce_after .nonblocking (p.setup.map .script ++ steps') tx
  have hfinal : (p.after steps).final? tx = (p.after steps').final? tx := by
    simp only [Client.final?, hconcurs.transactions]
  calc
    (p.after steps).endings tx
        = if ((p.after steps).final? tx).isSome then [.released, .notified] else [] := hends
    _ = if ((p.after steps').final? tx).isSome then [.released, .notified] else [] := by
          rw [hfinal]
    _ = (p.after steps').endings tx := hends'.symm

end

/-- A statement whose summary is asked for, and a close that is to commit, on a server that refuses
COMMIT. -/
def refused : Program where
  setup := [refusing]
  opening := plain
  uses := [.run "RETURN 1" [] (some "r"), .consume "r" (some "c"), .success]
  terminal := .close
  handle := some "e"

/-- Replies that are held back and come in portions. -/
def portions : List Step :=
  [.hold true, .begin plain, .poll "h", .deliver (some 1), .run "t" "RETURN 1" [] (some "r"),
    .deliver (some 2), .consume "r" (some "c"), .success "t", .close "t" (some "e"),
    .deliver (some 3), .hold false]

/-- The statement has its summary and the close the error of its COMMIT, as they have when every
reply comes at once. -/
theorem schedules_agree_of_portions :
    refused.Harmless ∧ refused.Schedule refused.steps ∧
      refused.Schedule (portions ++ [.deliver none]) ∧
      (refused.after (portions ++ [.deliver none])).handles.map Handle.shown =
        [⟨none, .spent⟩, .ready (some "c") (.ok (.summary [])),
          .ready (some "e") (.error unavailable)] := by
  have hharmless : refused.Harmless := by
    refine ⟨⟨{}, rfl, rfl⟩, fun script hmem hname => ?_⟩
    -- Only COMMIT has a script, and it is no statement of the program.
    rw [List.mem_singleton.1 hmem] at hname
    simp [refused, refusing, Program.statements, Use.statement?, Message.commit] at hname
  have hprompt : refused.Schedule refused.steps := ⟨rfl, rfl⟩
  have hportions : refused.Schedule (portions ++ [.deliver none]) := .of_deliver rfl
  refine ⟨hharmless, hprompt, hportions, ?_⟩
  rw [← (schedules_agree hharmless hprompt hportions).2.2.1]
  rfl

end ClientTransaction.Scenario
