import ClientTransaction.Proofs.Scenario.Quiet

/-!
# Scenario.Replies — what a reply to a statement does

A reply gets to the cursor that it is for, and then those who wait for the cursor may learn
something: the outcome, if there is one, or that none will come, if nobody holds the cursor any
more. Whoever has learned it waits no longer, and all other cursors and handles are left alone.
-/

namespace ClientTransaction

/-- What stands at a place after one place has been changed. -/
theorem getElem?_modify_cases {α : Type} {xs : List α} {i place : Nat} {f : α → α} {x : α}
    (h : (xs.modify i f)[place]? = some x) :
    (place = i ∧ ∃ y, xs[i]? = some y ∧ x = f y) ∨ (place ≠ i ∧ xs[place]? = some x) := by
  rw [List.getElem?_modify] at h
  by_cases hp : i = place
  · subst hp
    rcases Option.map_eq_some_iff.1 (by simpa using h) with ⟨y, hy, rfl⟩
    exact Or.inl ⟨rfl, y, hy, rfl⟩
  · exact Or.inr ⟨Ne.symm hp, by simpa [hp] using h⟩

/-- What stands at a place after a place has been changed at which this stood. -/
theorem getElem?_modify_of_eq {α : Type} {xs : List α} {i place : Nat} {f : α → α} {x y : α}
    (hx : xs[i]? = some x) (h : (xs.modify i f)[place]? = some y) :
    (place = i ∧ y = f x) ∨ (place ≠ i ∧ xs[place]? = some y) := by
  rcases getElem?_modify_cases h with ⟨rfl, x', hx', rfl⟩ | hother
  · cases hx.symm.trans hx'
    exact Or.inl ⟨rfl, rfl⟩
  · exact Or.inr hother

/-- What stands at a place after something has been added at the end. -/
theorem getElem?_concat_cases {α : Type} {xs : List α} {place : Nat} {x y : α}
    (h : (xs ++ [x])[place]? = some y) : (place = xs.length ∧ y = x) ∨ xs[place]? = some y := by
  rw [List.getElem?_append] at h
  split at h
  · exact Or.inr h
  · rw [List.getElem?_singleton] at h
    split at h
    · exact Or.inl ⟨by omega, (Option.some.inj h).symm⟩
    · cases h

/-- The first outcome of a handle stands. -/
theorem Handle.resolve_resolve {α : Type} (h : Handle α) (result later : Except Error α) :
    (h.resolve result).resolve later = h.resolve result := by
  rcases h with ⟨name, state⟩
  cases name <;> cases state <;> rfl

/-! ## What a cursor has to tell -/

namespace Cursor

/-- What those who wait for the cursor learn, if anything; `held` tells whether a request holds it. -/
def verdict? (held : Bool) (c : Cursor) : Option (Except Error Payload) :=
  match c.outcome with
  | some outcome => some (outcome.map Payload.summary)
  | none => if c.name.isSome || held then none else some (.error .completionDropped)

/-- Whoever learns something waits no longer. -/
def dismiss (held : Bool) (c : Cursor) : Cursor :=
  if (c.verdict? held).isSome then { c with waiters := [] } else c

/-- Nobody waits for a stream that has ended. -/
def Tidy (c : Cursor) : Prop :=
  c.isComplete = true → c.waiters = []

section

variable {c : Cursor}

/-- As long as someone waits for it, a stream goes on. -/
theorem Tidy.outcome_eq_none (h : c.Tidy) (hw : c.waiters ≠ []) : c.outcome = none := by
  cases hout : c.outcome with
  | none => rfl
  | some outcome => exact absurd (h (by simp [isComplete, hout])) hw

theorem Tidy.settle (h : c.Tidy) (outcome : Except Error Params) : (c.settle outcome).Tidy := by
  unfold Cursor.settle
  split
  · exact h
  · exact fun _ => rfl

theorem Tidy.pushAll (h : c.Tidy) (rows : List (List Value)) : (rows.foldl push c).Tidy := by
  intro hcomplete
  rw [waiters_pushAll]
  exact h (by simpa [isComplete, outcome_pushAll] using hcomplete)

theorem Tidy.receive (h : c.Tidy) (r : Request) : (c.receive r).Tidy := by
  unfold Cursor.receive
  split
  · exact h
  · exact h.settle _
  · exact (h.pushAll _).settle _
  · exact (h.pushAll _).settle _
  · exact h.pushAll _
  · exact h

theorem Tidy.dismiss (h : c.Tidy) (held : Bool) : (c.dismiss held).Tidy := by
  unfold Cursor.dismiss
  split
  · exact fun _ => rfl
  · exact h

/-- A stream that goes on after a reply keeps those who wait for it. -/
theorem waiters_settle {outcome : Except Error Params} (h : (c.settle outcome).outcome = none) :
    (c.settle outcome).waiters = c.waiters := by
  unfold settle at h ⊢
  cases hcomplete : c.isComplete with
  | true => simp
  | false => simp [hcomplete, complete] at h

theorem waiters_receive {r : Request} (h : (c.receive r).outcome = none) :
    (c.receive r).waiters = c.waiters := by
  unfold receive at h ⊢
  split at h
  · rfl
  · exact waiters_settle h
  · exact (waiters_settle h).trans (waiters_pushAll _ c)
  · exact (waiters_settle h).trans (waiters_pushAll _ c)
  · exact waiters_pushAll _ c
  · rfl

/-- The outcome of a cursor stands, and whoever waits for it has learned it. -/
theorem Tidy.dismiss_of_complete (h : c.Tidy) (hcomplete : c.isComplete = true) (held : Bool) :
    c.dismiss held = c := by
  have hwaiters := h hcomplete
  rcases c with ⟨statement, owner, name, keys, records, outcome, waiters⟩
  simp only at hwaiters
  subst hwaiters
  simp [Cursor.dismiss]

end

end Cursor

/-- Those among the handles who wait learn the verdict, if there is one. -/
def Handle.heed (waiters : List Nat) (verdict : Option (Except Error Payload)) (place : Nat)
    (h : Handle Payload) : Handle Payload :=
  match verdict with
  | some result => if place ∈ waiters then h.resolve result else h
  | none => h

section

variable {c : Cursor} {place : Nat} {verdict : Option (Except Error Payload)}

/-- Whoever waits for nothing learns nothing. -/
theorem Handle.heed_of_not_mem {waiters : List Nat} (hw : place ∉ waiters) :
    Handle.heed waiters verdict place = id := by
  funext h
  cases verdict <;> simp [heed, hw]

/-- Nobody learns an outcome a second time. -/
theorem Cursor.Tidy.heed (h : c.Tidy) (place : Nat) :
    Handle.heed c.waiters (c.outcome.map fun outcome => outcome.map Payload.summary) place = id := by
  funext hd
  cases hc : c.outcome with
  | none => rfl
  | some outcome =>
      have hwaiters : c.waiters = [] := h (by simp [Cursor.isComplete, hc])
      simp [hwaiters, Handle.heed]

end

namespace Client

variable {s s₁ s₂ : Client} {cursor : Nat} {c : Cursor}

/-! ## Handles -/

theorem handles_resolveAll (s : Client) (places : List Nat) (result : Except Error Payload)
    (i : Nat) :
    (s.resolveAll places result).handles[i]? =
      s.handles[i]?.map (Handle.heed places (some result) i) := by
  unfold resolveAll
  induction places generalizing s with
  | nil =>
      rw [Handle.heed_of_not_mem List.not_mem_nil, Option.map_id]
      rfl
  | cons place rest ih =>
      rw [List.foldl_cons, ih, handles_resolve, List.getElem?_modify]
      cases s.handles[i]? with
      | none => rfl
      | some h =>
          -- Whoever waits twice learns the same outcome twice.
          by_cases hp : place = i <;> by_cases hr : i ∈ rest <;>
            simp [Handle.heed, hp, hr, eq_comm (a := i), Handle.resolve_resolve]

/-! ## Serving a cursor -/

/-- The cursor has changed, and those who waited for it have heeded a verdict. Other cursors and
handles are left alone. -/
structure Served (cursor : Nat) (c : Cursor) (f : Cursor → Cursor)
    (verdict : Option (Except Error Payload)) (s s' : Client) : Prop where
  cursors : s'.cursors = s.cursors.modify cursor f
  handles : ∀ i : Nat, s'.handles[i]? = s.handles[i]?.map (Handle.heed c.waiters verdict i)

theorem Served.cases_of_getElem? {f : Cursor → Cursor} {verdict : Option (Except Error Payload)}
    (h : Served cursor c f verdict s s₁) (hc : s.cursors[cursor]? = some c) {place : Nat}
    {c' : Cursor} (hc' : s₁.cursors[place]? = some c') :
    (place = cursor ∧ c' = f c) ∨ (place ≠ cursor ∧ s.cursors[place]? = some c') := by
  rw [h.cursors] at hc'
  exact getElem?_modify_of_eq hc hc'

/-- Nobody was to be told anything. -/
theorem Served.of_cursors {f : Cursor → Cursor} {verdict : Option (Except Error Payload)}
    (hcursors : s₁.cursors = s.cursors.modify cursor f) (hhandles : s₁.handles = s.handles)
    (h : ∀ i, Handle.heed c.waiters verdict i = id) : Served cursor c f verdict s s₁ := by
  refine ⟨hcursors, fun i => ?_⟩
  rw [hhandles, h, Option.map_id, id]

theorem served_completeCursor (hc : s.cursors[cursor]? = some c) (ht : c.Tidy)
    (outcome : Except Error Params) :
    Served cursor c (Cursor.settle outcome)
      ((c.settle outcome).outcome.map fun outcome => outcome.map Payload.summary) s
      (s.completeCursor cursor outcome).2 := by
  refine ⟨cursors_completeCursor hc outcome, fun i => ?_⟩
  unfold completeCursor
  simp only [hc]
  cases hcomplete : c.isComplete with
  | true =>
      have hsame : c.settle outcome = c := by simp [Cursor.settle, hcomplete]
      rw [hsame, ht.heed, Option.map_id]
      rfl
  | false =>
      have hsettled : (c.settle outcome).outcome = some outcome := by
        simp [Cursor.settle, hcomplete, Cursor.complete]
      simp only [Bool.false_eq_true, if_false]
      rw [handles_resolveAll, hsettled]
      rfl

theorem served_failCursor (hc : s.cursors[cursor]? = some c) (ht : c.Tidy) (tx : Nat) (e : Error) :
    Served cursor c (Cursor.settle (.error e))
      ((c.settle (.error e)).outcome.map fun outcome => outcome.map Payload.summary) s
      (s.failCursor tx cursor e) := by
  have hserved := served_completeCursor hc ht (.error e)
  refine ⟨cursors_failCursor hc tx e, fun i => ?_⟩
  have hhandles := hserved.handles i
  unfold failCursor
  split <;> rename_i heq <;> rw [heq] at hhandles <;> exact hhandles

/-- If nobody holds the cursor any more, those who wait for it are told so. -/
theorem served_releaseCursor (hc : s.cursors[cursor]? = some c) (ht : c.Tidy)
    (others : List Request) :
    Served cursor c (Cursor.dismiss (others.any fun r => r.holdsCursor cursor))
      (c.verdict? (others.any fun r => r.holdsCursor cursor)) s
      (s.releaseCursor others cursor) := by
  have hholds : s.holdsCursor others cursor =
      (c.name.isSome || others.any fun r => r.holdsCursor cursor) := by
    simp [holdsCursor, hc]
  unfold releaseCursor
  rw [hholds]
  generalize (others.any fun r => r.holdsCursor cursor) = held
  cases hcomplete : c.isComplete with
  | true =>
      -- Nobody waits any more, so nothing happens in either case.
      have hsame := ht.dismiss_of_complete hcomplete held
      have hnobody := ht hcomplete
      have hnone : ∀ i, Handle.heed c.waiters (c.verdict? held) i = id := by
        intro i
        exact Handle.heed_of_not_mem (by simp [hnobody])
      split
      · exact .of_cursors (modify_of_eq hc hsame).symm rfl hnone
      · rw [hc]
        dsimp only
        rw [hnobody]
        refine .of_cursors ?_ rfl hnone
        rw [modify_of_eq hc hsame]
        exact modify_of_eq hc (by rw [← hnobody])
  | false =>
      have hnone : c.outcome = none := by simpa [Cursor.isComplete] using hcomplete
      split <;> rename_i hheld
      · have hverdict : c.verdict? held = none := by simp [Cursor.verdict?, hnone, hheld]
        refine .of_cursors (modify_of_eq hc ?_).symm rfl fun i => ?_
        · simp [Cursor.dismiss, hverdict]
        · rw [hverdict]
          rfl
      · have hverdict : c.verdict? held = some (.error .completionDropped) := by
          simp [Cursor.verdict?, hnone, hheld]
        rw [hc]
        refine ⟨?_, fun i => ?_⟩
        · rw [← (Alike.resolveAll _ _ _).cursors, (s.frame_updateCursor cursor _).2.1]
          refine List.ext_getElem? fun i => ?_
          simp only [List.getElem?_modify]
          by_cases hi : cursor = i
          · subst hi
            simp [hc, Cursor.dismiss, hverdict]
          · simp [hi]
        · rw [handles_resolveAll, hverdict]
          rfl

/-- A stream goes on or ends, and then those who wait are told if nobody holds the cursor. -/
theorem Served.release {f : Cursor → Cursor} (hc : s.cursors[cursor]? = some c) (ht : (f c).Tidy)
    (hw : (f c).outcome = none → (f c).waiters = c.waiters) (others : List Request)
    (h : Served cursor c f ((f c).outcome.map fun outcome => outcome.map Payload.summary) s s₁) :
    Served cursor c (fun c => (f c).dismiss (others.any fun r => r.holdsCursor cursor))
      ((f c).verdict? (others.any fun r => r.holdsCursor cursor)) s
      (s₁.releaseCursor others cursor) := by
  have hplace : s₁.cursors[cursor]? = some (f c) := by
    rw [h.cursors, getElem?_modify_self hc]
  have hreleased := served_releaseCursor hplace ht others
  refine ⟨?_, fun i => ?_⟩
  · rw [hreleased.cursors, h.cursors, List.modify_modify_eq]
    rfl
  · rw [hreleased.handles, h.handles, Option.map_map]
    congr 1
    cases hout : (f c).outcome with
    | some outcome =>
        -- Those who waited have been told the outcome, and nobody waits any more.
        have hnobody : (f c).waiters = [] := ht (by simp [Cursor.isComplete, hout])
        rw [Handle.heed_of_not_mem (by simp [hnobody]), Function.id_comp]
        simp [Cursor.verdict?, hout]
    | none =>
        rw [hw hout]
        rfl

/-- A reply to a statement gets to its cursor, and those who wait learn what there is to learn. -/
theorem served_answer (others : List Request) {r : Request}
    (hr : r.handler = .columns cursor ∨ r.handler = .rows cursor)
    (hc : s.cursors[cursor]? = some c) (ht : c.Tidy) :
    Served cursor c
      (fun c => (c.receive r).dismiss (others.any fun r => r.holdsCursor cursor))
      ((c.receive r).verdict? (others.any fun r => r.holdsCursor cursor)) s
      (s.answer others r).1 := by
  have hrelease : ∀ {s₁ : Client}, Served cursor c (Cursor.receive r)
      ((c.receive r).outcome.map fun outcome => outcome.map Payload.summary) s s₁ →
      Served cursor c (fun c => (c.receive r).dismiss (others.any fun r => r.holdsCursor cursor))
        ((c.receive r).verdict? (others.any fun r => r.holdsCursor cursor)) s
        (s₁.releaseCursor others cursor) :=
    fun h => h.release hc (ht.receive r) Cursor.waiters_receive others
  rcases r with ⟨owner, exchange, part, handler, ⟨records, outcome⟩⟩
  rcases hr with hr | hr
  · dsimp only at hr
    subst hr
    cases outcome with
    | success metadata => exact hrelease (.of_cursors rfl rfl ht.heed)
    | failure e =>
        have hserved := served_failCursor (s := s.record (.reply owner exchange part
          ⟨records, .failure e⟩)) hc ht owner e
        exact hrelease ⟨hserved.cursors, hserved.handles⟩
    | dropped => exact hrelease (.of_cursors (modify_of_eq hc rfl).symm rfl ht.heed)
  · dsimp only at hr
    subst hr
    have hrows := getElem?_modify_self hc fun c => records.foldl Cursor.push c
    have hpushed := ht.pushAll records
    -- The rows come first, and nobody learns of them.
    have hsettled : ∀ {s₁ : Client} {result : Except Error Params},
        Served cursor (records.foldl Cursor.push c) (Cursor.settle result)
          ((Cursor.settle result (records.foldl Cursor.push c)).outcome.map
            fun outcome => outcome.map Payload.summary)
          (s.updateCursor cursor fun c => records.foldl Cursor.push c) s₁ →
        Served cursor c (fun c => (records.foldl Cursor.push c).settle result)
          ((Cursor.settle result (records.foldl Cursor.push c)).outcome.map
            fun outcome => outcome.map Payload.summary) s s₁ := by
      intro s₁ result h
      refine ⟨?_, fun i => ?_⟩
      · rw [h.cursors, (s.frame_updateCursor cursor _).2.1, List.modify_modify_eq]
        rfl
      · rw [h.handles, waiters_pushAll]
        rfl
    cases outcome with
    | success metadata =>
        have hserved := served_completeCursor (s := (s.updateCursor cursor _).record (.reply owner
          exchange part ⟨records, .success metadata⟩)) hrows hpushed (.ok metadata)
        exact hrelease (hsettled ⟨hserved.cursors, hserved.handles⟩)
    | failure e =>
        have hserved := served_failCursor (s := (s.updateCursor cursor _).record (.reply owner
          exchange part ⟨records, .failure e⟩)) hrows hpushed owner e
        exact hrelease (hsettled ⟨hserved.cursors, hserved.handles⟩)
    | dropped =>
        refine hrelease (.of_cursors rfl rfl fun i => ?_)
        have hsame := hpushed.heed i
        rwa [waiters_pushAll] at hsame

end Client

end ClientTransaction
