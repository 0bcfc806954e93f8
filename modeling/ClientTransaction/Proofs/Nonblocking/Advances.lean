import ClientTransaction.Proofs.Nonblocking.Consumptions
import ClientTransaction.Proofs.Scenario.Arrivals

/-!
# Nonblocking.Advances — one thing after the other

A step opens, and then replies come, or are given up, one by one. Whoever holds a cursor may ask for
its summary at any time, also between two of these replies. An advance is one such thing, and a run
is a sequence of advances. When a request for a statement comes to its end, all others for the same
statement are still to be answered, and its handler sees them.
-/

namespace ClientTransaction.Nonblocking

open Scenario

/-- One thing that happens, with the handle for a summary that it returns, if it does. -/
inductive Advance : List Consumption → Situation → Situation → Prop
  /-- The application does something else than ask for a summary. -/
  | opens {s : Client} {step : Step} {σ : Situation} (ho : Opening s step σ)
      (hq : consumption? s step = none) : Advance [] (.of s) σ
  /-- Someone who holds a cursor asks for its summary, whatever is outstanding. -/
  | asks {rs : List Request} {s : Client} {cursor : Nat} {c : Cursor}
      (hc : s.cursors[cursor]? = some c) (hheld : c.name.isSome = true) (name : Option String) :
      Advance [⟨cursor, s.handles.length⟩] ⟨rs, s⟩ ⟨rs, consume s cursor name⟩
  | connect {rs : List Request} {s : Client} (f : Connection → Connection) :
      Advance [] ⟨rs, s⟩ ⟨rs, s.updateConnection f⟩
  | flush {rs : List Request} {s : Client} (tx : Nat) :
      Advance [] ⟨rs, s⟩ ⟨rs, s.record (.flush tx)⟩
  /-- A request gets a reply, or its handler is given up. -/
  | answer {s : Client} (before after : List Request) (r : Request) (reply : Reply)
      (others : List Request) (ho : others ⊆ before ++ after)
      (hall : ∀ cursor, r.exchange = .statement cursor →
        ∀ q ∈ before ++ after, q.exchange = .statement cursor → q ∈ others) :
      Advance [] ⟨before ++ r :: after, s⟩
        (answered before after s others { r with reply := reply })

/-- Advances one after the other, with the handles that are returned meanwhile. -/
inductive Advances : List Consumption → Situation → Situation → Prop
  | refl (σ : Situation) : Advances [] σ σ
  | tail {qs new : List Consumption} {σ σ₁ σ₂ : Situation} (h : Advances qs σ σ₁)
      (ha : Advance new σ₁ σ₂) : Advances (qs ++ new) σ σ₂

/-! ## What an advance keeps -/

section

variable {qs new : List Consumption} {σ σ₁ σ₂ : Situation} {rs before : List Request} {s : Client}

/-- Whoever asks for a summary gets it at once if the stream has ended, and waits for it if not. -/
theorem move_consume {cursor : Nat} {c : Cursor} (hc : s.cursors[cursor]? = some c)
    (name : Option String) : Move ⟨rs, s⟩ ⟨rs, consume s cursor name⟩ := by
  cases ho : c.outcome with
  | none =>
      rw [consume_of_open hc ho]
      exact .await cursor name
  | some outcome =>
      rw [consume_of_outcome hc ho]
      refine .answered name _ fun tx h => ?_
      cases outcome <;> simp [Except.map] at h

theorem Advance.moves (h : Advance new σ σ₁) : Moves σ σ₁ := by
  cases h with
  | opens ho hq => exact ho.moves
  | asks hc hheld name => exact .single (move_consume hc name)
  | connect f => exact .single (.connect f)
  | flush tx => exact .single (.flush tx)
  | answer before after r reply others ho hall =>
      exact .single (.answer before after r reply others)

theorem attended_consume (h : Attended ⟨rs, s⟩) {cursor : Nat} {c : Cursor}
    (hc : s.cursors[cursor]? = some c) (hheld : c.name.isSome = true) (name : Option String) :
    Attended ⟨rs, consume s cursor name⟩ := by
  cases ho : c.outcome with
  | none =>
      rw [consume_of_open hc ho]
      exact attended_awaiting h hc hheld ho name
  | some outcome =>
      rw [consume_of_outcome hc ho]
      exact h.spared h.fits rfl (fun _ _ => rfl) fun _ _ => rfl

theorem Advance.attended (h : Advance new σ σ₁) (ha : Attended σ) : Attended σ₁ := by
  cases h with
  | opens ho hq => exact ha.dealing ho.dealing
  | asks hc hheld name => exact attended_consume ha hc hheld name
  | connect f => exact ha.delivery (.connect f)
  | flush tx => exact ha.delivery (.flush tx)
  | answer before after r reply others ho hall =>
      exact ha.delivery (.answer before after r reply others ho)

/-- A handle for a summary stays one for its cursor. -/
theorem Consumption.Pends.advance {q : Consumption} (hp : q.Pends σ) (ha : Attended σ)
    (h : Advance new σ σ₁) : q.Pends σ₁ := by
  cases h with
  | opens ho hq => exact hp.dealing ha ho.dealing
  | @asks rs s cursor c hc hheld name =>
      cases hout : c.outcome with
      | none =>
          rw [consume_of_open hc hout]
          exact hp.awaiting cursor name
      | some outcome =>
          rw [consume_of_outcome hc hout]
          exact hp.spared rfl hp.unfed fun h hh => ⟨h, (hp.handles_append _).trans hh, .same h⟩
  | connect f => exact hp.delivery ha (.connect f)
  | flush tx => exact hp.delivery ha (.flush tx)
  | answer before after r reply others ho hall =>
      exact hp.delivery ha (.answer before after r reply others ho)

/-! ## Steps -/

namespace Advances

theorem single (h : Advance new σ σ₁) : Advances new σ σ₁ := by
  have hsingle := (Advances.refl σ).tail h
  rwa [List.nil_append] at hsingle

theorem trans (h : Advances qs σ σ₁) (h' : Advances new σ₁ σ₂) : Advances (qs ++ new) σ σ₂ := by
  -- Advances are added at the end, so the second sequence is taken apart.
  induction h' with
  | refl => simpa using h
  | tail _ ha ih =>
      rw [← List.append_assoc]
      exact (ih h).tail ha

/-- Nothing is asked for. -/
theorem silent (h : Advances qs σ σ₁) (ha : Advance [] σ₁ σ₂) : Advances qs σ σ₂ := by
  simpa using h.tail ha

/-- The first request of the queue is answered. No request for its statement has left the queue
without an answer. -/
theorem next (hclear : Clear before s) {r : Request} {rest : List Request}
    (hq : s.connection.queue = r :: rest)
    (h : Advances qs σ ⟨before ++ s.connection.queue, s⟩) :
    Advances qs σ (answered before rest (s.updateConnection fun c => { c with queue := rest })
      rest r) := by
  have hturn : InTurn before r := hclear r (hq ▸ List.mem_cons_self ..)
  rw [hq] at h
  refine (h.silent (.connect fun c => { c with queue := rest })).silent
    (.answer before rest r r.reply rest (fun _ hr => List.mem_append_right before hr) ?_)
  intro cursor hr q hmem hstatement
  rcases List.mem_append.1 hmem with hmem | hmem
  · have hnone := hturn (by simp [hr, Exchange.cursor?]) q hmem
    simp [hstatement, Exchange.cursor?] at hnone
  · exact hmem

/-- From wherever replies started to come, they come one by one. -/
theorem lasting (qs : List Consumption) (σ : Situation) : Client.Lasting fun before s =>
    Advances qs σ ⟨before ++ s.connection.queue, s⟩ ∧ Clear before s where
  flush := by
    rintro before s tx ⟨h, hclear⟩
    exact ⟨h.silent (.flush tx), hclear⟩
  next := by
    rintro before s r rest ⟨h, hclear⟩ hq
    refine ⟨?_, (Arrives.next hclear hq).clear⟩
    have hanswered := next hclear hq h
    rw [queue_start, connection_answer]
    simpa [answered, List.append_assoc] using hanswered
  take := by
    rintro s ⟨h, -⟩
    refine ⟨?_, fun r hr => absurd hr List.not_mem_nil⟩
    have hemptied := h.silent (.connect fun c => { c with queue := [] })
    simpa using hemptied
  giveUp := by
    rintro before s r ⟨h, hclear⟩
    refine ⟨?_, Arrives.clear_start fun q hq hne p hp => hclear q hq hne p
      (List.mem_cons_of_mem _ hp)⟩
    have hanswered := h.silent (.answer [] (before ++ s.connection.queue) r { outcome := .dropped }
      (s.connection.queue ++ before) (by simp) fun _ _ q hq _ => by simpa [or_comm] using hq)
    rw [queue_start, connection_answer]
    simpa [answered, List.append_assoc] using hanswered

end Advances

end

/-- A step is made of advances. -/
theorem advances_perform (s : Client) (step : Step) :
    Advances (consumption? s step).toList (.of s) (.of (perform .nonblocking s step).2) := by
  cases hq : consumption? s step with
  | none =>
      rcases opens_perform s step with ⟨σ, ho, hh⟩
      have hopened : Advances [] (.of s) ⟨[] ++ σ.client.connection.queue, σ.client⟩ := by
        rw [List.nil_append, ← ho.queue]
        exact .single (.opens ho hq)
      exact ((Advances.lasting [] (.of s)).hears hh ⟨hopened, .nil _⟩).1
  | some q =>
      cases step with
      | consume result name =>
          rcases Option.map_eq_some_iff.1 hq with ⟨cursor, hname, rfl⟩
          have hc := List.getElem?_eq_getElem (List.findIdx?_eq_some_iff_getElem.1 hname).1
          have hperform : (perform .nonblocking s (.consume result name)).2 =
              consume s cursor name := by
            simp [perform, Scenario.consume, onCursor, hname, hc]
          rw [hperform, Situation.of, Situation.of, (frame_consume s cursor name).2.1]
          exact .single (.asks hc (isSome_name_of_cursor? hname hc) name)
      | _ => simp [consumption?] at hq

/-- A run is made of advances. -/
theorem advances_after (s : Client) (steps : List Step) :
    Advances (consumptions s steps) (.of s) (.of (after .nonblocking s steps)) := by
  induction steps generalizing s with
  | nil => exact .refl _
  | cons step rest ih => exact (advances_perform s step).trans (ih _)

end ClientTransaction.Nonblocking
