import ClientTransaction.Completion.Workbench

/-!
# Completion.Chains — chains link by link

A chain is a base with links around it, the outermost first. When it is fired, one link acts after
the other. An error is held back at a fallback whose secondary operation does not end at once, and
everything inside waits for the end of that operation; then the same error goes on.
-/

namespace ClientTransaction.Workbench

/-! ## Links -/

inductive Link
  | finalizer (name : String)
  | fallback (secondary : Secondary)

/-- The chain with these links around a base. -/
def chain (target : Sink) : List Link → Chain
  | [] => .sink target
  | .finalizer name :: links => .finalizer name (chain target links)
  | .fallback secondary :: links => .fallback secondary (chain target links)

namespace Link

/-- What a link does with an outcome: a finalizer is shown it, and a secondary operation is started
if it is an error. -/
def event? (result : Except Error String) : Link → Option Event
  | .finalizer name => some (.finalizer name result)
  | .fallback secondary =>
      match result with
      | .ok _ => none
      | .error _ => some (.secondary secondary.name)

/-- The secondary operation that an outcome has to wait for at a link. -/
def pause? (result : Except Error String) : Link → Option String
  | .fallback ⟨name, .park⟩ =>
      match result with
      | .ok _ => none
      | .error _ => some name
  | _ => none

@[simp]
theorem pause?_ok (value : String) (l : Link) : l.pause? (.ok value) = none := by
  rcases l with name | ⟨name, behaviour⟩
  · rfl
  · cases behaviour <;> rfl

end Link

/-- The operations that an outcome has to wait for, in order. -/
def pauses (result : Except Error String) (links : List Link) : List String :=
  links.filterMap (Link.pause? result)

/-- The links that have acted when the outcome has been through `k` pauses. -/
def reached (result : Except Error String) : Nat → List Link → List Link
  | _, [] => []
  | k, l :: links =>
      l :: match l.pause? result, k with
        | none, k => reached result k links
        | some _, 0 => []
        | some _, k + 1 => reached result k links

/-- What waits at the first pause, with the operation that it waits for. -/
def waiting? (result : Except Error String) : List Link → Option (String × List Link)
  | [] => none
  | l :: links =>
      match l.pause? result with
      | some name => some (name, links)
      | none => waiting? result links

section

variable {result : Except Error String} {links rest : List Link} {name : String}

/-- Everything has acted when the outcome has been through all pauses. -/
theorem reached_of_le {k : Nat} (h : (pauses result links).length ≤ k) :
    reached result k links = links := by
  induction links generalizing k with
  | nil => rfl
  | cons l links ih =>
      unfold pauses at h
      cases hpause : l.pause? result with
      | none =>
          rw [List.filterMap_cons_none hpause] at h
          simp only [reached, hpause, ih h]
      | some name =>
          rw [List.filterMap_cons_some hpause] at h
          cases k with
          | zero => simp at h
          | succ k => simp only [reached, hpause, ih (Nat.le_of_succ_le_succ h)]

theorem pauses_of_waiting? (h : waiting? result links = some (name, rest)) :
    pauses result links = name :: pauses result rest := by
  induction links with
  | nil => simp [waiting?] at h
  | cons l links ih =>
      unfold waiting? at h
      cases hpause : l.pause? result with
      | none =>
          simp only [hpause] at h
          exact (List.filterMap_cons_none hpause).trans (ih h)
      | some first =>
          simp only [hpause, Option.some.injEq, Prod.mk.injEq] at h
          rcases h with ⟨rfl, rfl⟩
          exact List.filterMap_cons_some hpause

theorem pauses_of_not_waiting (h : waiting? result links = none) : pauses result links = [] := by
  induction links with
  | nil => rfl
  | cons l links ih =>
      unfold waiting? at h
      cases hpause : l.pause? result with
      | none =>
          simp only [hpause] at h
          exact (List.filterMap_cons_none hpause).trans (ih h)
      | some first => simp [hpause] at h

/-- After a pause the links that waited act. -/
theorem reached_succ (h : waiting? result links = some (name, rest)) (k : Nat) :
    reached result (k + 1) links = reached result 0 links ++ reached result k rest := by
  induction links with
  | nil => simp [waiting?] at h
  | cons l links ih =>
      unfold waiting? at h
      cases hpause : l.pause? result with
      | none =>
          simp only [hpause] at h
          simp only [reached, hpause, ih h, List.cons_append]
      | some first =>
          simp only [hpause, Option.some.injEq, Prod.mk.injEq] at h
          rcases h with ⟨rfl, rfl⟩
          simp only [reached, hpause, List.cons_append, List.nil_append]

/-- Only an error is held back. -/
theorem error_of_waiting? (h : waiting? result links = some (name, rest)) :
    ∃ e, result = .error e := by
  cases result with
  | error e => exact ⟨e, rfl⟩
  | ok value =>
      induction links with
      | nil => simp [waiting?] at h
      | cons l links ih =>
          simp only [waiting?, Link.pause?_ok] at h
          exact ih h

end

/-! ## Firing -/

/-- Events happen. -/
def tell (w : Workbench) (events : List Event) : Workbench :=
  { w with log := w.log ++ events }

theorem tell_nil (w : Workbench) : tell w [] = w := by
  simp [tell]

/-- What firing a chain comes to: the outcome is held back, or the base receives it. -/
def passOn (w : Workbench) (target : Sink) (links : List Link) (result : Except Error String) :
    Moment :=
  match result, waiting? result links with
  | .error e, some (name, rest) =>
      (tell w ((reached result 0 links).filterMap (Link.event? result))).park name
        (.resume e (chain target rest))
  | _, _ =>
      { bench := (tell w ((reached result 0 links).filterMap (Link.event? result))).settle target
          result }

section

variable (w : Workbench) (target : Sink) (links : List Link) (result : Except Error String)

/-- Without a pause the outcome gets to the next link. -/
theorem passOn_cons {l : Link} (hpause : l.pause? result = none) :
    passOn w target (l :: links) result =
      passOn (tell w (l.event? result).toList) target links result := by
  have hwaiting : waiting? result (l :: links) = waiting? result links := by
    simp only [waiting?, hpause]
  have hreached : reached result 0 (l :: links) = l :: reached result 0 links := by
    simp only [reached, hpause]
  have htell : ∀ events : List Link, tell w ((l :: events).filterMap (Link.event? result)) =
      tell (tell w (l.event? result).toList) (events.filterMap (Link.event? result)) := by
    intro events
    cases hevent : l.event? result <;> simp [tell, hevent]
  unfold passOn
  rw [hwaiting, hreached, htell]

theorem fireWith_finalizer (bound : Nat) (name : String) (done : Chain) :
    fireWith bound w (.finalizer name done) result =
      fireWith bound (w.record (.finalizer name result)) done result := by
  rw [fireWith, fireWith, Completion.fire]
  rfl

theorem fireWith_fallback_ok (bound : Nat) (secondary : Secondary) (done : Chain)
    (value : String) :
    fireWith bound w (.fallback secondary done) (.ok value) =
      fireWith bound w done (.ok value) := by
  rw [fireWith, fireWith, Completion.fire]

/-- Whatever the outcome of a secondary operation, the error that was held back goes on. -/
theorem fireWith_resume (bound : Nat) (e : Error) (done : Chain) :
    fireWith bound w (.resume e done) result = fireWith bound w done (.error e) := by
  rw [fireWith, fireWith, Completion.fire]

/-- A secondary operation is started, and ends at once or is parked. -/
theorem fireWith_fallback_error (bound : Nat) (secondary : Secondary) (done : Chain) (e : Error) :
    fireWith (bound + 1) w (.fallback secondary done) (.error e) =
      match secondary.behaviour with
      | .park => (w.record (.secondary secondary.name)).park secondary.name (.resume e done)
      | _ => fireWith bound (w.record (.secondary secondary.name)) done (.error e) := by
  rcases secondary with ⟨name, behaviour⟩
  cases behaviour with
  | finish outcome =>
      rw [fireWith, Completion.fire]
      exact fireWith_resume _ outcome bound e done
  | drop =>
      rw [fireWith, Completion.fire]
      exact fireWith_resume _ _ bound e done
  | park =>
      rw [fireWith, Completion.fire]
      rfl

/-- One link acts after the other, up to the first pause. -/
theorem fireWith_chain (bound : Nat) (hbound : (chain target links).fallbacks ≤ bound) :
    fireWith bound w (chain target links) result = passOn w target links result := by
  induction links generalizing w bound with
  | nil =>
      rw [chain, fireWith, Completion.fire]
      cases result <;> simp [passOn, waiting?, reached, tell]
  | cons l links ih =>
      cases l with
      | finalizer name =>
          rw [chain, fireWith_finalizer, ih _ bound hbound]
          exact (passOn_cons w target links result (l := .finalizer name) rfl).symm
      | fallback secondary =>
          rw [chain, Completion.fallbacks] at hbound
          cases result with
          | ok value =>
              rw [chain, fireWith_fallback_ok, ih _ bound (Nat.le_of_succ_le hbound),
                passOn_cons w target links _ (Link.pause?_ok value _)]
              exact congrArg (fun w => passOn w target links (.ok value)) (tell_nil w).symm
          | error e =>
              rcases Nat.exists_eq_add_of_le' hbound with ⟨rest, rfl⟩
              rw [chain, ← Nat.add_assoc, fireWith_fallback_error]
              rcases secondary with ⟨name, behaviour⟩
              cases behaviour with
              | park => rfl
              | finish outcome =>
                  rw [passOn_cons w target links _ rfl]
                  exact ih _ _ (Nat.le_add_left _ _)
              | drop =>
                  rw [passOn_cons w target links _ rfl]
                  exact ih _ _ (Nat.le_add_left _ _)

theorem fire_chain : w.fire (chain target links) result = passOn w target links result :=
  fireWith_chain w target links result _ (Nat.le_refl _)

theorem fire_resume (e : Error) :
    w.fire (.resume e (chain target links)) result = passOn w target links (.error e) :=
  (fireWith_resume w result _ e _).trans (fire_chain w target links (.error e))

/-- Without a pause every link acts, and then the base receives the outcome. -/
theorem passOn_of_not_waiting (h : waiting? result links = none) :
    passOn w target links result =
      { bench := (tell w (links.filterMap (Link.event? result))).settle target result } := by
  have hall : reached result 0 links = links := reached_of_le (by simp [pauses_of_not_waiting h])
  unfold passOn
  rw [h, hall]
  cases result <;> rfl

end

end ClientTransaction.Workbench
