import ClientTransaction.Proofs.Nonblocking.Concurring

/-!
# Nonblocking.Deferring — it does not matter when a reply comes

What an application does next, and a reply that is no failure, may happen in either order: the
clients that result concur. So a step that is made before some replies come leads, once they have
come, to where it would have led if they had come before.
-/

namespace ClientTransaction

/-! ## Results under one more caller -/

theorem modify_append_left {α : Type} {xs ys : List α} {i : Nat} (hi : i < xs.length) (f : α → α) :
    (xs ++ ys).modify i f = xs.modify i f ++ ys := by
  induction xs generalizing i with
  | nil => simp at hi
  | cons x rest ih =>
      cases i with
      | zero => rfl
      | succ i => simpa using ih (Nat.lt_of_succ_lt_succ hi)

/-- Only what stands at the place matters. -/
theorem modify_congr {α : Type} {xs : List α} {i : Nat} {x : α} (hx : xs[i]? = some x)
    {f g : α → α} (h : f x = g x) : xs.modify i f = xs.modify i g := by
  refine List.ext_getElem? fun j => ?_
  rw [List.getElem?_modify, List.getElem?_modify]
  by_cases hj : i = j
  · subst hj
    simp [hx, h]
  · simp [hj]

namespace Cursor

variable {c : Cursor}

theorem pushAll_await (rows : List (List Value)) (c : Cursor) (handle : Nat) :
    rows.foldl push (c.await handle) = (rows.foldl push c).await handle := by
  induction rows generalizing c with
  | nil => rfl
  | cons row rest ih => exact ih (c.push row)

theorem settle_await (hn : c.outcome = none) (outcome : Except Error Params) (handle : Nat) :
    (c.await handle).settle outcome = c.settle outcome := by
  simp [settle, isComplete, await, complete, hn]

theorem isComplete_settle (outcome : Except Error Params) (c : Cursor) :
    (c.settle outcome).isComplete = true :=
  Option.isSome_iff_ne_none.2 (outcome_settle outcome c)

/-- The first outcome stands. -/
theorem outcome_receive_of_some {outcome : Except Error Params} (ho : c.outcome = some outcome)
    (r : Request) : (c.receive r).outcome = some outcome := by
  have hsettle : ∀ {c : Cursor} (later : Except Error Params), c.outcome = some outcome →
      (c.settle later).outcome = some outcome := by
    intro c later h
    simp [settle, isComplete, h]
  have hpushed : (r.reply.records.foldl push c).outcome = some outcome :=
    (outcome_pushAll _ c).trans ho
  unfold receive
  split
  · exact ho
  · exact hsettle _ ho
  · exact hsettle _ hpushed
  · exact hsettle _ hpushed
  · exact hpushed
  · exact ho

/-- Whoever asks before the reply comes waits afterwards, unless the stream has ended with it. -/
theorem receive_await (hn : c.outcome = none) (r : Request) (handle : Nat) :
    (c.await handle).receive r =
      if (c.receive r).isComplete then c.receive r else (c.receive r).await handle := by
  rcases r with ⟨owner, exchange, part, handler, ⟨records, outcome⟩⟩
  have hpushed : (records.foldl push c).outcome = none := (outcome_pushAll records c).trans hn
  have hopen : c.isComplete = false := by simp [isComplete, hn]
  have hopen' : (records.foldl push c).isComplete = false := by simp [isComplete, hpushed]
  cases handler with
  | columns cursor =>
      cases outcome with
      | success metadata => simp [receive, setKeys, isComplete, await, hn]
      | failure e => simp [receive, settle_await hn, isComplete_settle]
      | dropped => simp [receive, hopen]
  | rows cursor =>
      cases outcome with
      | success metadata =>
          simp [receive, pushAll_await, settle_await hpushed, isComplete_settle]
      | failure e => simp [receive, pushAll_await, settle_await hpushed, isComplete_settle]
      | dropped => simp [receive, pushAll_await, hopen']
  | _ => simp [receive, hopen]

/-- Those who wait for a result that the application holds learn its outcome, once there is one. -/
theorem verdict?_of_named (h : c.name.isSome = true) (held : Bool) :
    c.verdict? held = c.outcome.map fun outcome => outcome.map Payload.summary := by
  unfold verdict?
  cases c.outcome with
  | some outcome => rfl
  | none => simp [h]

end Cursor

namespace Client

open Nonblocking

variable {s s' : Client} {r : Request} {rest others new : List Request} {cursor place : Nat}
  {held : Bool}

/-! ## What is done before and after a reply -/

theorem tellResult_updateCursor (hne : cursor ≠ place) (f : Cursor → Cursor) (held : Bool)
    (r : Request) :
    (s.updateCursor place f).tellResult cursor held r =
      (s.tellResult cursor held r).updateCursor place f := by
  have hsame : (s.cursors.modify place f)[cursor]? = s.cursors[cursor]? := by
    simp [Ne.symm hne]
  simp only [tellResult, updateCursor, hsame]
  rw [List.modify_modify_ne _ _ _ hne]

theorem tellResult_addHandle
    (h : ∀ c, s.cursors[cursor]? = some c → s.handles.length ∉ c.waiters) (held : Bool)
    (r : Request) (hd : Handle Payload) :
    (s.addHandle hd).tellResult cursor held r = (s.tellResult cursor held r).addHandle hd := by
  unfold tellResult addHandle
  cases hc : s.cursors[cursor]? with
  | none => rfl
  | some c =>
      dsimp only
      rw [List.mapIdx_concat, Handle.heed_of_not_mem (h c hc)]
      rfl

/-- A handle that is made waits for no reply. -/
theorem Neat.not_awaited (h : Neat s) (c : Cursor) (hc : s.cursors[cursor]? = some c) :
    s.handles.length ∉ c.waiters := fun hw =>
  Nat.lt_irrefl _ (h.placed _ ⟨c, List.mem_of_getElem? hc, hw⟩)

theorem hear_addHandle (h : Neat s) (others : List Request) (r : Request) (hd : Handle Payload) :
    (s.addHandle hd).hear others r = (s.hear others r).addHandle hd := by
  rcases hear_cases others r with ⟨cursor, held, hear⟩ | hear <;> rw [hear, hear]
  exact tellResult_addHandle h.not_awaited held r hd

theorem hear_addCursor (hr : r.Mild s.cursors.length) (others : List Request) (c : Cursor) :
    (s.addCursor c).hear others r = (s.hear others r).addCursor c := by
  rcases hr with hr | ⟨cursor, hlt, hr, -⟩
  · simp [hear, hr]
  · rw [hear_of_result _ others hr, hear_of_result _ others hr]
    simp only [tellResult, addCursor, modify_append_left hlt, List.getElem?_append_left hlt]

theorem hear_updateTransaction (tx : Nat) (f : Transaction → Transaction) :
    (s.updateTransaction tx f).hear others r = (s.hear others r).updateTransaction tx f := by
  unfold hear
  split <;> rfl

theorem hear_send (tx : Nat) (exchange : Exchange) (statement : String) (params : Params)
    (onRun onPull : Handler) :
    (s.send tx exchange statement params onRun onPull).hear others r =
      (s.hear others r).send tx exchange statement params onRun onPull := by
  unfold hear
  split <;> rfl

/-- Later requests that are for other results make no difference. -/
theorem hear_append
    (hnew : ∀ q ∈ new, ∀ cursor, r.holdsCursor cursor = true → q.holdsCursor cursor = false) :
    s.hear (others ++ new) r = s.hear others r := by
  have hnone : ∀ cursor, r.holdsCursor cursor = true →
      ((others ++ new).any fun q => q.holdsCursor cursor) =
        others.any fun q => q.holdsCursor cursor := by
    intro cursor hr
    have hnew' : (new.any fun q => q.holdsCursor cursor) = false := by
      simpa using fun q hq => hnew q hq cursor hr
    rw [List.any_append, hnew', Bool.or_false]
  unfold hear
  split
  · rename_i hr
    rw [hnone _ (by simp [Request.holdsCursor, hr])]
  · rename_i hr
    rw [hnone _ (by simp [Request.holdsCursor, hr])]
  · rfl

/-! ## A summary that is asked for -/

/-- The reply is for another result. -/
theorem tellResult_consume_of_ne (h : Neat s) (hne : cursor ≠ place) {c : Cursor}
    (hc : s.cursors[place]? = some c) (held : Bool) (r : Request) (name : Option String) :
    (consume s place name).tellResult cursor held r =
      consume (s.tellResult cursor held r) place name := by
  have hc' : (s.tellResult cursor held r).cursors[place]? = some c := by
    simpa [tellResult, hne] using hc
  cases ho : c.outcome with
  | some outcome =>
      rw [consume_of_outcome hc ho, consume_of_outcome hc' ho,
        tellResult_addHandle h.not_awaited held r]
  | none =>
      have hunawaited : ∀ c', (s.updateCursor place fun c => c.await s.handles.length).cursors[
          cursor]? = some c' → s.handles.length ∉ c'.waiters := by
        intro c' hc'
        exact h.not_awaited c' (by simpa [Ne.symm hne] using hc')
      rw [consume_of_open hc ho, consume_of_open hc' ho, awaiting, awaiting, size_tellResult,
        tellResult_addHandle hunawaited, tellResult_updateCursor hne]

/-- The handle that is made last learns the outcome with the others. -/
theorem mapIdx_heed_concat {handles : List (Handle Payload)} (waiters : List Nat)
    (result : Except Error Payload) (hd : Handle Payload) :
    (handles ++ [hd]).mapIdx (Handle.heed (waiters ++ [handles.length]) (some result)) =
      handles.mapIdx (Handle.heed waiters (some result)) ++ [hd.resolve result] := by
  have hlast : hd.heed (waiters ++ [handles.length]) (some result) handles.length =
      hd.resolve result := by simp [Handle.heed]
  rw [List.mapIdx_concat, hlast]
  congr 1
  refine List.ext_getElem? fun i => ?_
  rw [List.getElem?_mapIdx, List.getElem?_mapIdx]
  cases hh : handles[i]? with
  | none => rfl
  | some h =>
      have hne : i ≠ handles.length := Nat.ne_of_lt (List.getElem?_eq_some_iff.1 hh).1
      simp [Handle.heed, hne]

section

variable {c : Cursor} (hc : s.cursors[place]? = some c)

include hc

theorem handles_tellResult (held : Bool) (r : Request) :
    (s.tellResult place held r).handles =
      s.handles.mapIdx (Handle.heed c.waiters ((c.receive r).verdict? held)) := by
  rw [tellResult, hc]

/-- A reply that comes to a result that one more caller waits for. -/
theorem cursors_tellResult_awaiting {c' : Cursor}
    (hreceived : ((c.await s.handles.length).receive r).dismiss held = c') (name : Option String) :
    ((awaiting s place name).tellResult place held r).cursors =
      s.cursors.modify place fun _ => c' := by
  show (s.cursors.modify place _).modify place _ = _
  rw [List.modify_modify_eq]
  exact modify_congr hc hreceived

/-- The stream ends with the reply, and those who wait learn so, the last one with the others. -/
theorem concurs_awaiting_of_end (hn : c.name.isSome = true) (ho : c.outcome = none)
    {outcome : Except Error Params} (hout : (c.receive r).outcome = some outcome) (held : Bool)
    (name : Option String) :
    Concurs ((awaiting s place name).tellResult place held r)
      ((s.tellResult place held r).addHandle (.ready name (outcome.map Payload.summary))) := by
  have hcomplete : (c.receive r).isComplete = true := by simp [Cursor.isComplete, hout]
  have hreceived : (c.await s.handles.length).receive r = c.receive r := by
    simp [Cursor.receive_await ho, hcomplete]
  have hverdict : (c.receive r).verdict? held = some (outcome.map Payload.summary) := by
    rw [Cursor.verdict?_of_named (by rwa [name_receive]), hout]
    rfl
  have hasked : (awaiting s place name).cursors[place]? = some (c.await s.handles.length) := by
    simp [awaiting, hc]
  have hlast : ((Handle.fresh name).resolve (outcome.map Payload.summary)).shown =
      (Handle.ready name (outcome.map Payload.summary)).shown := by
    cases name <;> rfl
  refine ⟨⟨rfl, ?_, rfl, rfl⟩, ?_⟩
  · show ((awaiting s place name).tellResult place held r).cursors = s.cursors.modify place _
    rw [cursors_tellResult_awaiting hc (by rw [hreceived])]
    exact modify_congr hc rfl
  · have hhandles : ((awaiting s place name).tellResult place held r).handles =
        s.handles.mapIdx (Handle.heed c.waiters (some (outcome.map Payload.summary))) ++
          [(Handle.fresh name).resolve (outcome.map Payload.summary)] := by
      rw [handles_tellResult hasked, hreceived, hverdict]
      exact mapIdx_heed_concat c.waiters _ _
    rw [hhandles, (frame_addHandle _ _).2.2.1, handles_tellResult hc, hverdict]
    simp only [List.map_append, List.map_cons, List.map_nil, hlast]

/-- A reply that ends nothing is for the result alone. -/
theorem tellResult_of_silent (hv : (c.receive r).verdict? held = none) :
    s.tellResult place held r = s.updateCursor place (Cursor.receive r) := by
  have hcursors : s.cursors.modify place (fun c => (c.receive r).dismiss held) =
      s.cursors.modify place (Cursor.receive r) :=
    modify_congr hc (by simp [Cursor.dismiss, hv])
  have hhandles : s.handles.mapIdx (Handle.heed c.waiters none) = s.handles := by
    refine List.ext_getElem? fun i => ?_
    rw [List.getElem?_mapIdx]
    cases s.handles[i]? <;> rfl
  simp only [tellResult, hc, hv, hcursors, hhandles, updateCursor]

/-- The stream goes on, and everybody waits as before. -/
theorem tellResult_awaiting_of_open (hn : c.name.isSome = true) (ho : c.outcome = none)
    (hout : (c.receive r).outcome = none) (held : Bool) (name : Option String) :
    (awaiting s place name).tellResult place held r =
      awaiting (s.tellResult place held r) place name := by
  have hopen : (c.receive r).isComplete = false := by simp [Cursor.isComplete, hout]
  have hreceived : (c.await s.handles.length).receive r =
      (c.receive r).await s.handles.length := by
    simp [Cursor.receive_await ho, hopen]
  have hverdict : (c.receive r).verdict? held = none := by
    rw [Cursor.verdict?_of_named (by rwa [name_receive]), hout]
    rfl
  have hverdict' : ((c.await s.handles.length).receive r).verdict? held = none := by
    rw [hreceived]
    exact hverdict
  have hasked : (awaiting s place name).cursors[place]? = some (c.await s.handles.length) := by
    simp [awaiting, hc]
  have hcursors : (s.cursors.modify place fun c => c.await s.handles.length).modify place
      (Cursor.receive r) =
        (s.cursors.modify place (Cursor.receive r)).modify place
          fun c => c.await s.handles.length := by
    rw [List.modify_modify_eq, List.modify_modify_eq]
    exact modify_congr hc hreceived
  rw [tellResult_of_silent hasked hverdict', tellResult_of_silent hc hverdict]
  simp only [awaiting, updateCursor, addHandle, hcursors]

end

/-- The reply is for the result itself, and may tell its outcome. -/
theorem concurs_tellResult_consume (h : Neat s) {c : Cursor} (hc : s.cursors[place]? = some c)
    (hn : c.name.isSome = true) (held : Bool) (r : Request) (name : Option String) :
    Concurs ((consume s place name).tellResult place held r)
      (consume (s.tellResult place held r) place name) := by
  have hc' : (s.tellResult place held r).cursors[place]? = some ((c.receive r).dismiss held) := by
    simp [tellResult, hc]
  cases ho : c.outcome with
  | some outcome =>
      have hstands : (c.receive r).outcome = some outcome := Cursor.outcome_receive_of_some ho r
      rw [consume_of_outcome hc ho, consume_of_outcome hc' (by rwa [Cursor.outcome_dismiss]),
        tellResult_addHandle h.not_awaited held r]
      exact .refl _
  | none =>
      rw [consume_of_open hc ho]
      cases hout : (c.receive r).outcome with
      | some outcome =>
          rw [consume_of_outcome hc' (by rwa [Cursor.outcome_dismiss])]
          exact concurs_awaiting_of_end hc hn ho hout held name
      | none =>
          rw [consume_of_open hc' (by rwa [Cursor.outcome_dismiss]),
            tellResult_awaiting_of_open hc hn ho hout held name]
          exact .refl _

/-- Whoever asks for the summary of a result that has a name learns the same of it before a reply
comes and after. -/
theorem concurs_consume (h : Neat s) {c : Cursor} (hc : s.cursors[place]? = some c)
    (hn : c.name.isSome = true) (others : List Request) (r : Request) (name : Option String) :
    Concurs ((consume s place name).hear others r) (consume (s.hear others r) place name) := by
  rcases hear_cases others r with ⟨cursor, held, hear⟩ | hear <;> rw [hear, hear]
  · by_cases hne : cursor = place
    · subst hne
      exact concurs_tellResult_consume h hc hn held r name
    · rw [tellResult_consume_of_ne h hne hc]
      exact .refl _
  · exact .refl _

/-! ## What stays neat -/

theorem Neat.updateTransaction (h : Neat s) (tx : Nat) (f : Transaction → Transaction) :
    Neat (s.updateTransaction tx f) :=
  ⟨h.tidy, h.placed, h.queue⟩

theorem Neat.record (h : Neat s) {e : Event} (he : e.request? = none) : Neat (s.record e) :=
  h.of_concurs (.record s he)

theorem Neat.addHandle (h : Neat s) (hd : Handle Payload) : Neat (s.addHandle hd) := by
  refine ⟨h.tidy, fun handle hw => ?_, h.queue⟩
  have hlt := h.placed handle hw
  simp only [frame_addHandle, List.length_append, List.length_singleton]
  omega

theorem Neat.addCursor (h : Neat s) {c : Cursor} (hw : c.waiters = []) : Neat (s.addCursor c) where
  tidy := by
    intro c' hc'
    rcases List.mem_append.1 hc' with hc' | hc'
    · exact h.tidy c' hc'
    · rw [List.mem_singleton.1 hc']
      exact fun _ => hw
  placed := by
    rintro handle ⟨c', hc', hmem⟩
    rcases List.mem_append.1 hc' with hc' | hc'
    · exact h.placed handle ⟨c', hc', hmem⟩
    · rw [List.mem_singleton.1 hc', hw] at hmem
      cases hmem
  queue := by
    intro r hr
    have hle : s.cursors.length ≤ (s.addCursor c).cursors.length := by simp
    exact (h.queue r hr).imp (Request.Mild.mono hle) id

theorem Neat.consume (h : Neat s) (place : Nat) (name : Option String) :
    Neat (consume s place name) := by
  cases hc : s.cursors[place]? with
  | none => rwa [Nonblocking.consume, hc]
  | some c =>
      cases ho : c.outcome with
      | some outcome =>
          rw [consume_of_outcome hc ho]
          exact h.addHandle _
      | none =>
          rw [consume_of_open hc ho]
          have hlen : (awaiting s place name).handles.length = s.handles.length + 1 := by
            simp [awaiting]
          refine ⟨?_, ?_, ?_⟩
          · intro c' hc'
            rcases List.mem_iff_getElem?.1 hc' with ⟨i, hi⟩
            rcases getElem?_modify_of_eq hc hi with ⟨rfl, rfl⟩ | ⟨-, hother⟩
            · -- Its stream goes on.
              intro hcomplete
              simp [Cursor.isComplete, Cursor.await, ho] at hcomplete
            · exact h.tidy c' (List.mem_of_getElem? hother)
          · rintro handle ⟨c', hc', hw⟩
            rw [hlen]
            rcases List.mem_iff_getElem?.1 hc' with ⟨i, hi⟩
            rcases getElem?_modify_cases hi with ⟨-, c₁, hc₁, rfl⟩ | ⟨-, hother⟩
            · rcases List.mem_append.1 hw with hw | hw
              · exact Nat.lt_succ_of_lt (h.placed handle ⟨c₁, List.mem_of_getElem? hc₁, hw⟩)
              · rw [List.mem_singleton.1 hw]
                exact Nat.lt_succ_self _
            · exact Nat.lt_succ_of_lt (h.placed handle ⟨c', List.mem_of_getElem? hother, hw⟩)
          · simpa [awaiting] using h.queue

theorem Concurs.consume (h : Concurs s s') (place : Nat) (name : Option String) :
    Concurs (consume s place name) (consume s' place name) := by
  have hcursors := h.cursors
  cases hc : s.cursors[place]? with
  | none =>
      rw [Nonblocking.consume, Nonblocking.consume, ← hcursors, hc]
      exact h
  | some c =>
      have hc' : s'.cursors[place]? = some c := hcursors ▸ hc
      cases ho : c.outcome with
      | some outcome =>
          rw [consume_of_outcome hc ho, consume_of_outcome hc' ho]
          exact h.addHandle rfl
      | none =>
          rw [consume_of_open hc ho, consume_of_open hc' ho, awaiting, awaiting, h.size]
          exact (h.updateCursor place _).addHandle rfl

/-! ## Operations before the next reply and after it -/

theorem queue_send_cons (hq : s.connection.queue = r :: rest) {tx : Nat} {exchange : Exchange}
    {statement : String} {onRun onPull : Handler} (params : Params) :
    (s.send tx exchange statement params onRun onPull).connection.queue =
      r :: (rest ++ s.requests tx exchange statement onRun onPull) := by
  rw [(s.frame_send tx exchange statement params onRun onPull).2.2.2.1, hq]
  rfl

section

variable (hn : Neat s) (hq : s.connection.queue = r :: rest) (hr : r.Mild s.cursors.length)

include hn hq hr

/-- What a client does before a reply, it may do after it, if that is so of what the reply tells. -/
theorem concurs_deferred {f : Client → Client} {queue : List Request}
    (hneat : Neat (f s)) (hqueue : (f s).connection.queue = r :: queue)
    (hmild : r.Mild (f s).cursors.length)
    (hcongr : ∀ {s₁ s₂ : Client}, Concurs s₁ s₂ → Concurs (f s₁) (f s₂))
    (hsame : Concurs (((f s).withQueue queue).hear queue r)
      (f ((s.withQueue rest).hear rest r))) :
    Concurs (f s).advance (f s.advance) :=
  calc
    Concurs (f s).advance (((f s).withQueue queue).hear queue r) :=
      concurs_advance hneat hqueue hmild
    Concurs _ (f ((s.withQueue rest).hear rest r)) := hsame
    Concurs _ (f s.advance) := hcongr (concurs_advance hn hq hr).symm

theorem advance_record {e : Event} (he : e.request? = none) :
    Concurs (s.record e).advance (s.advance.record e) := by
  refine concurs_deferred hn hq hr (f := fun s => s.record e) (hn.record he) hq hr
    (fun h => h.note he he) ?_
  have hsame : Concurs (s.withQueue rest) ((s.record e).withQueue rest) := .record _ he
  exact (hsame.symm.hear rest r).trans (.record _ he)

theorem advance_updateTransaction (tx : Nat) (f : Transaction → Transaction) :
    Concurs (s.updateTransaction tx f).advance (s.advance.updateTransaction tx f) := by
  refine concurs_deferred hn hq hr (f := fun s => s.updateTransaction tx f)
    (hn.updateTransaction tx f) hq hr (fun h => h.updateTransaction tx f) ?_
  rw [← hear_updateTransaction]
  exact .refl _

theorem advance_addHandle (hd : Handle Payload) :
    Concurs (s.addHandle hd).advance (s.advance.addHandle hd) := by
  have hrest : Neat (s.withQueue rest) :=
    hn.withQueue fun q hmem => hn.queue q (hq ▸ List.mem_cons_of_mem _ hmem)
  refine concurs_deferred hn hq hr (f := fun s => s.addHandle hd) (hn.addHandle hd) hq hr
    (fun h => h.addHandle rfl) ?_
  rw [← hear_addHandle hrest]
  exact .refl _

theorem advance_addCursor {c : Cursor} (hw : c.waiters = []) :
    Concurs (s.addCursor c).advance (s.advance.addCursor c) := by
  have hmild : r.Mild (s.withQueue rest).cursors.length := hr
  refine concurs_deferred hn hq hr (f := fun s => s.addCursor c) (hn.addCursor hw) hq
    (hr.mono (by simp)) (fun h => h.addCursor c) ?_
  rw [← hear_addCursor hmild]
  exact .refl _

/-- What is sent before the reply is for other results. -/
theorem advance_send {tx : Nat} {exchange : Exchange} {statement : String}
    {onRun onPull : Handler}
    (hnew : ∀ q ∈ s.requests tx exchange statement onRun onPull,
      q.Mild s.cursors.length ∨ q.Ends)
    (hother : ∀ q ∈ s.requests tx exchange statement onRun onPull, ∀ cursor,
      r.holdsCursor cursor = true → q.holdsCursor cursor = false) (params : Params) :
    Concurs (s.send tx exchange statement params onRun onPull).advance
      (s.advance.send tx exchange statement params onRun onPull) := by
  have hpop : (s.send tx exchange statement params onRun onPull).withQueue
      (rest ++ s.requests tx exchange statement onRun onPull) =
        (s.withQueue rest).send tx exchange statement params onRun onPull := by
    simp [withQueue, send, record, updateConnection, requests, Connection.run, Connection.pullAll,
      Connection.runReply, Connection.pullReply, Connection.script?]
  refine concurs_deferred hn hq hr
    (f := fun s => s.send tx exchange statement params onRun onPull) (hn.send hnew params)
    (queue_send_cons hq params) hr (fun h => h.send tx exchange statement params onRun onPull) ?_
  rw [hear_append hother, hpop, hear_send]
  exact .refl _

theorem advance_consume {place : Nat} {c : Cursor} (hc : s.cursors[place]? = some c)
    (hname : c.name.isSome = true) (name : Option String) :
    Concurs (consume s place name).advance (consume s.advance place name) := by
  have hrest : Neat (s.withQueue rest) :=
    hn.withQueue fun q hmem => hn.queue q (hq ▸ List.mem_cons_of_mem _ hmem)
  have hpop : (consume s place name).withQueue rest = consume (s.withQueue rest) place name := by
    have hc' : (s.withQueue rest).cursors[place]? = some c := hc
    cases ho : c.outcome with
    | some outcome =>
        rw [consume_of_outcome hc ho, consume_of_outcome hc' ho]
        rfl
    | none =>
        rw [consume_of_open hc ho, consume_of_open hc' ho]
        rfl
  rcases frame_consume s place name with ⟨-, hconnection, hsize⟩
  refine concurs_deferred hn hq hr (f := fun s => consume s place name)
    (hn.consume place name) (hconnection ▸ hq) (hsize ▸ hr) (fun h => h.consume place name) ?_
  rw [hpop]
  exact concurs_consume hrest hc hname rest r name

end

end Client

end ClientTransaction
