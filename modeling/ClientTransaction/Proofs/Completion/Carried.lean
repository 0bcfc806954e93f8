import ClientTransaction.Proofs.Completion.Awaited

/-!
# Completion.Carried — a chain carries its outcome to the base

Whatever links a chain has, and whatever else happens on the workbench, the outcome that the chain
is fired with gets from link to link, from the outside inwards, and at last to the base. It waits
for every secondary operation that it starts, and nothing that these operations come to changes it.
-/

namespace ClientTransaction.Workbench

/-! ## Firing a chain and ending what it waits for -/

/-- Fires the chain of that name; without a result it is dropped. -/
def firing (name : String) : Option (Except Error String) → Step
  | some result => .complete name result
  | none => .drop name

/-- Ends the parked secondary operation of that name; without a result its completion is dropped. -/
def ending (name : String) : Option (Except Error String) → Step
  | some result => .completeSecondary name result
  | none => .dropSecondary name

/-- The outcome of an operation that ends, or is dropped. -/
def shown (given : Option (Except Error String)) : Except Error String :=
  given.getD (.error .completionDropped)

/-- What is called, and woken, when the chain in hand is fired. -/
def Moment.said (m : Moment) : List Event :=
  m.fired.bench.log.drop m.bench.log.length

/-- Operations of the given names are parked and end one after the other: a move takes in hand what
waits for the operation, whether this is completed, or dropped, or another one takes its name.
`events` is what the chains that waited add to the log when they are fired. Before each of these
moves anything may happen, as long as the operation stays parked. -/
inductive Ends : Moment → List String → List Event → Moment → Prop
  | done (m : Moment) : Ends m [] [] m
  | next {m m₁ m₂ m' : Moment} {name : String} {names : List String} {events : List Event}
      {c : Chain} {result : Except Error String}
      (meanwhile : Reaches m m₁)
      (hparked : m₁.bench.parked.lookup name = m.bench.parked.lookup name)
      (hc : m₁.bench.parked.lookup name = some c)
      (hn : Next m₁ m₂) (hhand : m₂.hand = some (c, result))
      (h : Ends m₂.fired names events m') :
      Ends m (name :: names) (m₂.said ++ events) m'

/-- What has been called, and what is left to do, when a chain that was fired has been through `k`
pauses. -/
structure Carried (target : Sink) (links : List Link) (result : Except Error String) (k : Nat)
    (events : List Event) (m : Moment) : Prop where
  /-- The links have acted from the outside inwards, up to the pause or to the base. -/
  calls : events.filter Event.isCall =
    if k = (pauses result links).length then
      links.filterMap (Link.event? result) ++ (target.call? result).toList
    else (reached result k links).filterMap (Link.event? result)
  /-- At a pause the operation is parked, and as long as it is, a handle at the base waits. -/
  waits : ∀ name, (pauses result links)[k]? = some name →
    m.bench.parked.lookup name ≠ none ∧
      ∀ m', Reaches m m' → m'.bench.parked.lookup name = m.bench.parked.lookup name →
        ∀ place, target.place? = some place → m'.bench.Awaits place
  /-- After the last pause a handle at the base yields the outcome. -/
  yields : k = (pauses result links).length → ∀ place, target.place? = some place →
    ∃ h : Handle String, m.bench.handles[place]? = some h ∧
      (h.isHeld = true → h.take.1 = some result)

section

variable {w : Workbench} {m : Moment} {target : Sink} {links rest : List Link}
  {result : Except Error String} {name : String} {place : Nat}

theorem filter_calls (links : List Link) (result : Except Error String) :
    (links.filterMap (Link.event? result)).filter Event.isCall =
      links.filterMap (Link.event? result) := by
  refine List.filter_eq_self.2 fun e he => ?_
  rcases List.mem_filterMap.1 he with ⟨l, -, hevent⟩
  cases l with
  | finalizer name =>
      cases hevent
      rfl
  | fallback secondary =>
      cases result with
      | ok value => simp [Link.event?] at hevent
      | error e =>
          cases hevent
          rfl

/-- The handle of a chain that is held back waits. -/
theorem Moment.Sound.awaits_parked (h : m.Sound) {e : Error}
    (hc : m.bench.parked.lookup name = some (.resume e (chain target rest)))
    (hplace : target.place? = some place) : m.bench.Awaits place := by
  have hmem : place ∈ m.bench.places :=
    List.mem_append_right _ (mem_placesOf hc ((place?_resume e target rest).trans hplace))
  exact h.tended.awaited place (List.mem_append_right _ hmem)

/-- The handle of a chain under a name waits. -/
theorem Moment.Sound.awaits_slot (h : m.Sound)
    (hc : m.bench.slots.lookup name = some (chain target links))
    (hplace : target.place? = some place) : m.bench.Awaits place := by
  have hmem : place ∈ m.bench.places :=
    List.mem_append_left _ (mem_placesOf hc ((place?_chain target links).trans hplace))
  exact h.tended.awaited place (List.mem_append_right _ hmem)

/-! ## Up to the first pause -/

theorem carried_settled (h : Tended target.place?.toList w)
    (hwaiting : waiting? result links = none) :
    Carried target links result 0 ((passOn w target links result).bench.log.drop w.log.length)
      (passOn w target links result) := by
  have hpauses := pauses_of_not_waiting hwaiting
  rw [passOn_of_not_waiting w target links result hwaiting]
  rcases exists_settle (tell w (links.filterMap (Link.event? result))) target result with
    ⟨wakes, hwakes, heq⟩
  rw [heq]
  refine ⟨?_, ?_, ?_⟩
  · have hnone : wakes.filter Event.isCall = [] := by
      refine List.filter_eq_nil_iff.2 fun e he => ?_
      simp [hwakes e he]
    have hcall : (target.call? result).toList.filter Event.isCall =
        (target.call? result).toList := by
      cases target <;> rfl
    simp [tell, hpauses, filter_calls, hnone, hcall]
  · simp [hpauses]
  · intro _ place hplace
    have hmem : place ∈ target.place?.toList ++ w.places := by simp [hplace]
    rcases h.awaited place hmem with ⟨hd, hhd, hwaits⟩
    refine ⟨hd.resolve result, ?_, hwaits.take_resolve result⟩
    simp [tell, hplace, hhd]

/-- The chain is held back with its error. -/
theorem parked_passOn (w : Workbench) (target : Sink)
    (hwaiting : waiting? result links = some (name, rest)) :
    ∃ e, result = .error e ∧
      (passOn w target links result).bench.log =
        w.log ++ (reached result 0 links).filterMap (Link.event? result) ∧
      (passOn w target links result).bench.parked.lookup name =
        some (.resume e (chain target rest)) := by
  rcases error_of_waiting? hwaiting with ⟨e, rfl⟩
  have heq : passOn w target links (.error e) =
      park (tell w ((reached (.error e) 0 links).filterMap (Link.event? (.error e)))) name
        (.resume e (chain target rest)) := by
    simp only [passOn, hwaiting]
  refine ⟨e, rfl, by rw [heq]; rfl, ?_⟩
  rw [heq]
  simp [park]

theorem carried_parked (h : Tended target.place?.toList w)
    (hwaiting : waiting? result links = some (name, rest)) :
    Carried target links result 0 ((passOn w target links result).bench.log.drop w.log.length)
      (passOn w target links result) := by
  have hpauses := pauses_of_waiting? hwaiting
  have hsound := h.passOn links result
  rcases parked_passOn w target hwaiting with ⟨e, rfl, hlog, hlookup⟩
  refine ⟨?_, ?_, ?_⟩
  · rw [hlog]
    simp [hpauses, filter_calls]
  · intro name' hname
    have hsame : name = name' := by simpa [hpauses] using hname
    subst hsame
    refine ⟨by simp [hlookup], fun m' hr hparked place hplace => ?_⟩
    exact (hsound.reaches hr).awaits_parked (hparked.trans hlookup) hplace
  · simp [hpauses]

/-! ## From pause to pause -/

/-- When the operation at the first pause has ended, the rest of the chain goes on. -/
theorem Carried.through {k : Nat} {first events : List Event} {m' : Moment}
    (hwaiting : waiting? result links = some (name, rest))
    (hfirst : first = (reached result 0 links).filterMap (Link.event? result))
    (h : Carried target rest result k events m') :
    Carried target links result (k + 1) (first ++ events) m' := by
  have hpauses := pauses_of_waiting? hwaiting
  refine ⟨?_, ?_, ?_⟩
  · have hsplit := reached_succ hwaiting k
    rw [List.filter_append, hfirst, filter_calls, h.calls, hpauses, List.length_cons]
    by_cases hk : k = (pauses result rest).length
    · -- All links have acted.
      have hall : reached result (k + 1) links = links :=
        reached_of_le (by rw [hpauses, hk]; exact Nat.le_refl _)
      have hrest : reached result k rest = rest := reached_of_le (Nat.le_of_eq hk.symm)
      rw [hall, hrest] at hsplit
      rw [if_pos hk, if_pos (congrArg Nat.succ hk), ← List.append_assoc, ← List.filterMap_append,
        ← hsplit]
    · rw [if_neg hk, if_neg (fun heq => hk (Nat.succ.inj heq)), ← List.filterMap_append, ← hsplit]
  · intro name' hname
    rw [hpauses, List.getElem?_cons_succ] at hname
    exact h.waits name' hname
  · intro hk
    rw [hpauses, List.length_cons] at hk
    exact h.yields (Nat.succ.inj hk)

/-- A chain that has been fired is carried on by the ends of the operations that it waits for. -/
theorem carried_passOn (h : Tended target.place?.toList w) {k : Nat}
    (hk : k ≤ (pauses result links).length) {events : List Event} {m' : Moment}
    (hends : Ends (passOn w target links result) ((pauses result links).take k) events m') :
    Carried target links result k
      ((passOn w target links result).bench.log.drop w.log.length ++ events) m' := by
  -- What is left at a pause is a chain itself, with one pause less and another workbench around it.
  induction k generalizing links w events m' with
  | zero =>
      rw [List.take_zero] at hends
      cases hends
      rw [List.append_nil]
      cases hwaiting : waiting? result links with
      | none => exact carried_settled h hwaiting
      | some next => exact carried_parked h hwaiting
  | succ k ih =>
      cases hwaiting : waiting? result links with
      | none => simp [pauses_of_not_waiting hwaiting] at hk
      | some next =>
          rcases next with ⟨name, rest⟩
          have hpauses := pauses_of_waiting? hwaiting
          rcases parked_passOn w target hwaiting with ⟨e, rfl, hlog, hlookup⟩
          rw [hpauses, List.take_succ_cons] at hends
          rw [hpauses, List.length_cons] at hk
          cases hends with
          | @next _ _ m₂ _ _ _ events _ given meanwhile hparked hc hn hhand hends =>
              -- What is in hand now is the rest of the chain, and its handle still waits.
              cases hc.symm.trans (hparked.trans hlookup)
              have hsound := ((h.passOn links _).reaches meanwhile).next hn
              have hfired := Moment.fired_resume hhand
              rw [hfired] at hends
              have hrest := ih (hsound.tended_resume hhand) (Nat.le_of_succ_le_succ hk) hends
              refine Carried.through hwaiting (by simp [hlog]) ?_
              rw [Moment.said, hfired]
              exact hrest

end

/-! ## Every chain -/

/-- Whatever has been built, and whatever is about to happen, every chain under a name consists of
links around a base, and a handle at the base waits. To complete the chain, to drop it and to take
its name for another one is to take it in hand. When it is in hand and fired, and the operations
that it waits for end one after the other, it is carried from pause to pause, and at last to the
base. -/
theorem carried_of_fired (m : Moment) (hm : Reaches {} m) :
    (m.hand = none → ∀ steps, Reaches m { bench := m.bench.after steps }) ∧
    (∀ name c, m.bench.slots.lookup name = some c →
      (∃ target links, c = chain target links ∧
        ∀ place, target.place? = some place → m.bench.Awaits place) ∧
      (∀ given, (m.bench.start (firing name given)).2.hand = some (c, shown given)) ∧
      ∀ other, (m.bench.store name other).hand = some (dropped c)) ∧
    (∀ name c, m.bench.parked.lookup name = some c →
      (∀ given, (m.bench.start (ending name given)).2.hand = some (c, shown given)) ∧
      ∀ other, (m.bench.park name other).hand = some (dropped c)) ∧
    ∀ target links result, m.hand = some (chain target links, result) →
      (∀ place, target.place? = some place → m.bench.Awaits place) ∧
      ∀ k ≤ (pauses result links).length, ∀ events m',
        Ends m.fired ((pauses result links).take k) events m' →
          Carried target links result k (m.said ++ events) m' := by
  have hsound := Moment.sound_start.reaches hm
  refine ⟨fun hnone steps => ?_, fun name c hc => ⟨?_, ?_, ?_⟩, fun name c hc => ⟨?_, ?_⟩,
    fun target links result hhand => ?_⟩
  · rcases m with ⟨w, hand⟩
    cases hnone
    exact reaches_after w steps
  · rcases hsound.tended.slots _ (mem_of_lookup hc) with ⟨target, links, rfl⟩
    exact ⟨target, links, rfl, fun place hplace => hsound.awaits_slot hc hplace⟩
  · intro given
    cases given <;> simp [firing, start, finish, hc, shown]
  · intro other
    simp [store, hc]
  · intro given
    cases given <;> simp [ending, start, finishParked, hc, shown]
  · intro other
    simp [park, hc]
  · have htended := hsound.tended_chain hhand
    have hfired := Moment.fired_chain hhand
    refine ⟨fun place hplace => ?_, fun k hk events m' hends => ?_⟩
    · exact htended.awaited place (List.mem_append_left _ (by simp [hplace]))
    · rw [hfired] at hends
      rw [Moment.said, hfired]
      exact carried_passOn htended hk hends

/-- A finalizer around a fallback around another finalizer, at the base of which a handle waits, and
another chain with a fallback of the same name. -/
def nested : List Step :=
  [.pending "p", .onCompletion "inner" "p", .fallback "f" "inner" .park, .onCompletion "outer" "f",
    .pending "q", .fallback "f" "q" .park]

def lost : Error :=
  .server "Neo.TransientError.Transaction.Terminated" "primary"

/-- The nested chain fails. -/
def struck : Moment :=
  ((after {} nested).start (firing "outer" (some (.error lost)))).2

/-- While its secondary operation is parked, somebody waits for the handle, and the other chain
fails, too. -/
def displacing : Moment :=
  ((struck.fired.bench.start (.poll "p")).2.bench.start (.complete "f" (.error lost))).2

theorem carried_of_fired_nested :
    Carried (.handle 0) [.finalizer "outer", .fallback ⟨"f", .park⟩, .finalizer "inner"]
      (.error lost) 1 (struck.said ++ (displacing.fired.said ++ [])) displacing.fired.fired := by
  have hstruck : Reaches {} struck := (reaches_after {} nested).tail (.step _ _)
  have hmeanwhile : Reaches struck.fired displacing :=
    .tail (.single (.step _ (.poll "p"))) (.step _ (.complete "f" (.error lost)))
  have hends : Ends struck.fired ["f"] (displacing.fired.said ++ []) displacing.fired.fired :=
    .next hmeanwhile rfl rfl (.fire _ _ _) rfl (.done _)
  exact ((carried_of_fired struck hstruck).2.2.2 (.handle 0)
    [.finalizer "outer", .fallback ⟨"f", .park⟩, .finalizer "inner"] (.error lost) rfl).2 1
    (Nat.le_refl 1) _ _ hends

end ClientTransaction.Workbench
