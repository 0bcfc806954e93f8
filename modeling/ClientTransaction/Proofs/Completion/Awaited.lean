import ClientTransaction.Proofs.Completion.Moves

/-!
# Completion.Awaited — a handle waits for one chain

Every chain is in one place: under its name, or waiting for a secondary operation, or in hand. No
two chains resolve the same handle, and as long as the chain is there, its handle has no outcome.
-/

namespace ClientTransaction

/-- Whoever holds the handle waits for the outcome. -/
def Handle.Waits {α : Type} (h : Handle α) : Prop :=
  h.isHeld = true → h.isResolved = false

namespace Handle

variable {α : Type} {h : Handle α}

theorem waits_fresh (name : Option String) : (Handle.fresh name : Handle α).Waits :=
  fun _ => rfl

theorem waits_drop (h : Handle α) : h.drop.Waits := by
  intro hheld
  simp [isHeld, drop] at hheld

theorem Waits.take (hw : h.Waits) : h.take.2.Waits := by
  rcases h with ⟨name, state⟩
  cases state with
  | pending watched => exact fun _ => rfl
  | resolved result =>
      intro hheld
      have hpending := hw hheld
      simp [isResolved] at hpending
  | spent => exact hw

theorem Waits.poll (hw : h.Waits) : h.poll.2.Waits := by
  rcases h with ⟨name, state⟩
  cases state with
  | pending watched => exact fun _ => rfl
  | resolved result => exact waits_drop ⟨name, .resolved result⟩
  | spent => exact waits_drop ⟨name, .spent⟩

/-- When the outcome arrives, a handle that waited gives it. -/
theorem Waits.take_resolve (hw : h.Waits) (result : Except Error α)
    (hheld : (h.resolve result).isHeld = true) : (h.resolve result).take.1 = some result := by
  rcases h with ⟨name, state⟩
  cases name with
  | none => simp [resolve, isHeld] at hheld
  | some name =>
      have hpending := hw rfl
      cases state with
      | pending watched => rfl
      | resolved result => simp [isResolved] at hpending
      | spent => simp [isResolved] at hpending

end Handle

namespace Workbench

/-! ## Places -/

def Sink.place? : Sink → Option Nat
  | .handle place => some place
  | _ => none

/-- The place of the handle that a chain resolves. -/
def place? : Chain → Option Nat
  | .sink target => target.place?
  | .finalizer _ done | .fallback _ done | .resume _ done => place? done

theorem place?_chain (target : Sink) (links : List Link) :
    place? (chain target links) = target.place? := by
  induction links with
  | nil => rfl
  | cons l links ih =>
      cases l with
      | finalizer name => exact ih
      | fallback secondary => exact ih

theorem place?_resume (e : Error) (target : Sink) (links : List Link) :
    place? (.resume e (chain target links)) = target.place? :=
  place?_chain target links

/-- What a base does with an outcome, apart from a handle. -/
def Sink.call? (result : Except Error String) : Sink → Option Event
  | .callback name => some (.callback name result)
  | _ => none

/-- Something is called, and not only woken. -/
def Event.isCall : Event → Bool
  | .wake _ => false
  | _ => true

/-- A base receives an outcome: whoever waits for a handle is woken, and a callback is called. -/
theorem exists_settle (w : Workbench) (target : Sink) (result : Except Error String) :
    ∃ wakes : List Event, (∀ e ∈ wakes, e.isCall = false) ∧
      w.settle target result =
        { w with
          handles := match target.place? with
            | some place => w.handles.modify place fun h => h.resolve result
            | none => w.handles
          log := w.log ++ (wakes ++ (target.call? result).toList) } := by
  cases target with
  | callback name => exact ⟨[], by simp, rfl⟩
  | ignored => exact ⟨[], by simp, by simp [settle, Sink.place?, Sink.call?]⟩
  | handle place =>
      unfold settle
      cases hh : w.handles[place]? with
      | none =>
          have hsame := List.modify_eq_self (f := fun h => h.resolve result)
            (List.getElem?_eq_none_iff.1 hh)
          exact ⟨[], by simp, by simp [hh, Sink.place?, Sink.call?, hsame]⟩
      | some h =>
          have : Inhabited (Handle String) := ⟨h⟩
          have hset : w.handles.set place (h.resolve result) =
              w.handles.modify place fun h => h.resolve result := by
            rw [List.modify_eq_set, hh]
            rfl
          cases hsleeper : h.sleeper? with
          | none => exact ⟨[], by simp, by simp [hh, hsleeper, hset, Sink.place?, Sink.call?]⟩
          | some name =>
              exact ⟨[.wake name], by simp [Event.isCall],
                by simp [hh, hsleeper, hset, Sink.place?, Sink.call?, record]⟩

def placesOf (entries : List (String × Chain)) : List Nat :=
  entries.filterMap fun entry => place? entry.2

/-- The handles that wait for a chain of the workbench. -/
def places (w : Workbench) : List Nat :=
  placesOf w.slots ++ placesOf w.parked

section

variable {entries : List (String × Chain)} {name : String} {c : Chain}

theorem placesOf_append (entries more : List (String × Chain)) :
    placesOf (entries ++ more) = placesOf entries ++ placesOf more :=
  List.filterMap_append

theorem placesOf_cons (name : String) (c : Chain) (entries : List (String × Chain)) :
    placesOf ((name, c) :: entries) = (place? c).toList ++ placesOf entries := by
  cases hplace : place? c <;> simp [placesOf, hplace]

theorem count_remove (entries : List (String × Chain)) (name : String) (place : Nat) :
    (placesOf (remove entries name)).count place ≤ (placesOf entries).count place :=
  (List.Sublist.filterMap _ List.filter_sublist).count_le place

/-- What is found under a name is not among the rest. -/
theorem count_lookup (h : entries.lookup name = some c) (place : Nat) :
    (place? c).toList.count place + (placesOf (remove entries name)).count place ≤
      (placesOf entries).count place := by
  rcases exists_parts_of_lookup h with ⟨earlier, later, rfl, hrest⟩
  have hearlier := count_remove earlier name place
  have hlater := count_remove later name place
  simp only [hrest, placesOf_append, placesOf_cons, List.count_append]
  omega

/-- A chain comes to a name, and what was found there is not among the rest. -/
theorem count_replace (entries : List (String × Chain)) (name : String) (c : Chain) (place : Nat) :
    ((entries.lookup name).bind fun c => place? c).toList.count place +
        (placesOf ((name, c) :: remove entries name)).count place ≤
      (place? c).toList.count place + (placesOf entries).count place := by
  rw [placesOf_cons, List.count_append]
  cases hearlier : entries.lookup name with
  | none =>
      have hrest := count_remove entries name place
      simp only [Option.bind_none, Option.toList_none, List.count_nil]
      omega
  | some earlier =>
      have hrest := count_lookup hearlier place
      simp only [Option.bind_some]
      omega

theorem mem_of_lookup (h : entries.lookup name = some c) : (name, c) ∈ entries := by
  rcases exists_parts_of_lookup h with ⟨earlier, later, rfl, -⟩
  exact List.mem_append_right _ (List.mem_cons_self ..)

theorem mem_placesOf {place : Nat} (h : entries.lookup name = some c)
    (hplace : place? c = some place) : place ∈ placesOf entries := by
  unfold placesOf
  exact List.mem_filterMap.2 ⟨(name, c), mem_of_lookup h, hplace⟩

end

/-! ## Chains and their handles -/

/-- The handle is there, and waits. -/
def Awaits (w : Workbench) (place : Nat) : Prop :=
  ∃ h : Handle String, w.handles[place]? = some h ∧ h.Waits

/-- Every chain is whole, or held back at a pause, and its handle waits for no other chain; `hand`
are the handles of chains that are taken from where they were. -/
structure Tended (hand : List Nat) (w : Workbench) : Prop where
  slots : ∀ entry ∈ w.slots, ∃ target links, entry.2 = chain target links
  parked : ∀ entry ∈ w.parked, ∃ e target links, entry.2 = .resume e (chain target links)
  once : ∀ place, (hand ++ w.places).count place ≤ 1
  awaited : ∀ place ∈ hand ++ w.places, w.Awaits place

namespace Moment

/-- The handle of the chain in hand. -/
def inHand (m : Moment) : List Nat :=
  (m.hand.bind fun entry => place? entry.1).toList

/-- The chain in hand is a chain like all others, and so is its handle. -/
structure Sound (m : Moment) : Prop where
  tended : Tended m.inHand m.bench
  whole : ∀ c result, m.hand = some (c, result) →
    (∃ target links, c = chain target links) ∨ ∃ e target links, c = .resume e (chain target links)

end Moment

theorem Tended.sound {w : Workbench} (h : Tended [] w) : Moment.Sound { bench := w } :=
  ⟨h, fun _ _ hhand => nomatch hhand⟩

namespace Tended

variable {hand hand' : List Nat} {w w' : Workbench} {name : String} {c : Chain} {target : Sink}
  {links : List Link}

theorem of_count (h : Tended hand w)
    (hslots : ∀ entry ∈ w'.slots, ∃ target links, entry.2 = chain target links)
    (hparked : ∀ entry ∈ w'.parked, ∃ e target links, entry.2 = .resume e (chain target links))
    (hcount : ∀ place, (hand' ++ w'.places).count place ≤ (hand ++ w.places).count place)
    (hawaits : ∀ place ∈ hand' ++ w'.places, w.Awaits place → w'.Awaits place) :
    Tended hand' w' where
  slots := hslots
  parked := hparked
  once := fun place => Nat.le_trans (hcount place) (h.once place)
  awaited := by
    intro place hp
    refine hawaits place hp (h.awaited place ?_)
    exact List.count_pos_iff.1 (Nat.lt_of_lt_of_le (List.count_pos_iff.2 hp) (hcount place))

/-- A chain is taken from its name. -/
theorem takeSlot (h : Tended [] w) (hc : w.slots.lookup name = some c) :
    Tended (place? c).toList { w with slots := remove w.slots name } := by
  refine h.of_count (fun entry he => h.slots entry (List.mem_filter.1 he).1) h.parked ?_
    fun _ _ => id
  intro place
  have hcount := count_lookup hc place
  simp only [places, List.nil_append, List.count_append] at hcount ⊢
  omega

/-- A chain is taken from the secondary operation that it waits for. -/
theorem takeParked (h : Tended [] w) (hc : w.parked.lookup name = some c) :
    Tended (place? c).toList { w with parked := remove w.parked name } := by
  refine h.of_count h.slots (fun entry he => h.parked entry (List.mem_filter.1 he).1) ?_
    fun _ _ => id
  intro place
  have hcount := count_lookup hc place
  simp only [places, List.nil_append, List.count_append] at hcount ⊢
  omega

theorem tell (h : Tended hand w) (events : List Event) : Tended hand (tell w events) :=
  ⟨h.slots, h.parked, h.once, h.awaited⟩

/-- A new chain comes to a name, and an earlier one of the name is in hand. -/
theorem store (h : Tended target.place?.toList w) (name : String) (links : List Link) :
    (w.store name (chain target links)).Sound where
  tended := by
    refine h.of_count ?_ h.parked ?_ fun _ _ => id
    · intro entry he
      rcases List.mem_cons.1 he with rfl | he
      · exact ⟨target, links, rfl⟩
      · exact h.slots entry (List.mem_filter.1 he).1
    · intro place
      have hcount := count_replace w.slots name (chain target links) place
      rw [place?_chain] at hcount
      simp only [Workbench.store, Moment.inHand, places, dropped, Option.bind_map,
        Function.comp_def, List.count_append]
      omega
  whole := by
    intro c result hhand
    rcases Option.map_eq_some_iff.1 hhand with ⟨earlier, hearlier, heq⟩
    cases heq
    exact .inl (h.slots _ (mem_of_lookup hearlier))

/-- A chain begins to wait for a secondary operation, and one that waited under the same name is in
hand. -/
theorem park (h : Tended target.place?.toList w) (name : String) (e : Error) (links : List Link) :
    (w.park name (.resume e (chain target links))).Sound where
  tended := by
    refine h.of_count h.slots ?_ ?_ fun _ _ => id
    · intro entry he
      rcases List.mem_cons.1 he with rfl | he
      · exact ⟨e, target, links, rfl⟩
      · exact h.parked entry (List.mem_filter.1 he).1
    · intro place
      have hcount := count_replace w.parked name (.resume e (chain target links)) place
      rw [place?_resume] at hcount
      simp only [Workbench.park, Moment.inHand, places, dropped, Option.bind_map,
        Function.comp_def, List.count_append]
      omega
  whole := by
    intro c result hhand
    rcases Option.map_eq_some_iff.1 hhand with ⟨earlier, hearlier, heq⟩
    cases heq
    exact .inr (h.parked _ (mem_of_lookup hearlier))

/-- A base receives the outcome, and nobody else does. -/
theorem settle (h : Tended target.place?.toList w) (result : Except Error String) :
    Tended [] (w.settle target result) := by
  rcases exists_settle w target result with ⟨wakes, -, heq⟩
  rw [heq]
  refine h.of_count h.slots h.parked (fun place => ?_) fun place hp hawaits => ?_
  · simp only [places, List.nil_append, List.count_append]
    omega
  · rcases hawaits with ⟨hd, hhd, hwaits⟩
    refine ⟨hd, ?_, hwaits⟩
    -- The handle that gets the outcome waits for nothing else.
    have hne : target.place? ≠ some place := by
      intro hsame
      have honce := h.once place
      have hpos : 0 < w.places.count place := List.count_pos_iff.2 hp
      rw [hsame, List.count_append] at honce
      simp only [Option.toList_some, List.count_singleton_self] at honce
      omega
    cases htarget : target.place? with
    | none => simpa [htarget] using hhd
    | some other =>
        have hother : other ≠ place := fun heq => hne (heq ▸ htarget)
        simpa [htarget, hother] using hhd

/-- What is left of a chain that is fired waits again, or is gone. -/
theorem passOn (h : Tended target.place?.toList w) (links : List Link)
    (result : Except Error String) : (passOn w target links result).Sound := by
  unfold Workbench.passOn
  split
  · exact (h.tell _).park _ _ _
  · exact ((h.tell _).settle _).sound

/-! ### Steps -/

/-- Handles change, and those that wait still wait. -/
theorem handles (h : Tended hand w) {handles : List (Handle String)}
    (hwaits : ∀ (place : Nat) (hd : Handle String), w.handles[place]? = some hd → hd.Waits →
      ∃ hd' : Handle String, handles[place]? = some hd' ∧ hd'.Waits) :
    Tended hand { w with handles := handles } :=
  h.of_count h.slots h.parked (fun _ => Nat.le_refl _) fun place _ ⟨hd, hhd, hw⟩ =>
    hwaits place hd hhd hw

theorem addHandle (h : Tended hand w) (hd : Handle String) : Tended hand (w.addHandle hd) := by
  refine h.handles fun place other hother hw => ?_
  have hlt : place < w.handles.length := (List.getElem?_eq_some_iff.1 hother).1
  have hplace : (w.handles.map (fun other => if other.name = hd.name then other.drop else other) ++
      [hd])[place]? = some (if other.name = hd.name then other.drop else other) := by
    rw [List.getElem?_append_left (by simpa using hlt), List.getElem?_map, hother]
    rfl
  refine ⟨_, hplace, ?_⟩
  split
  · exact Handle.waits_drop other
  · exact hw

/-- A new handle waits for no chain that is there. -/
theorem pending (h : Tended [] w) (name : Option String) :
    Tended [w.handles.length] (w.addHandle (.fresh name)) where
  slots := h.slots
  parked := h.parked
  once := by
    intro place
    have hone : (([] : List Nat) ++ w.places).count place ≤ 1 := h.once place
    rw [List.singleton_append, List.count_cons]
    by_cases hp : w.handles.length = place
    · -- The chains that are there wait for handles that are there.
      have hnone : w.places.count place = 0 := by
        refine List.count_eq_zero.2 fun hmem => ?_
        rcases h.awaited place hmem with ⟨hd, hhd, -⟩
        exact absurd (List.getElem?_eq_some_iff.1 hhd).1 (by omega)
      have hsame : (w.addHandle (.fresh name)).places = w.places := rfl
      rw [hsame, hnone]
      split <;> omega
    · have hsame : (w.addHandle (.fresh name)).places = w.places := rfl
      simpa [hsame, hp] using hone
  awaited := by
    intro place hp
    rcases List.mem_cons.1 hp with rfl | hp
    · refine ⟨.fresh name, ?_, Handle.waits_fresh name⟩
      simp [Workbench.addHandle]
    · exact (h.addHandle (.fresh name)).awaited place hp

theorem wrap (h : Tended [] w) (name done : String) {link : Chain → Chain} {l : Link}
    (hlink : ∀ target links, link (chain target links) = chain target (l :: links)) :
    (w.wrap name done link).2.Sound := by
  unfold Workbench.wrap
  cases hc : w.slots.lookup done with
  | none => exact h.sound
  | some c =>
      rcases h.slots _ (mem_of_lookup hc) with ⟨target, links, heq⟩
      dsimp only at heq ⊢
      subst heq
      have htaken := h.takeSlot hc
      rw [place?_chain] at htaken
      rw [hlink]
      exact htaken.store name (l :: links)

theorem finish (h : Tended [] w) (name : String) (result : Except Error String) :
    (w.finish name result).2.Sound := by
  unfold Workbench.finish
  cases hc : w.slots.lookup name with
  | none => exact h.sound
  | some c =>
      refine ⟨h.takeSlot hc, fun c' result' hhand => ?_⟩
      cases hhand
      exact .inl (h.slots _ (mem_of_lookup hc))

theorem finishParked (h : Tended [] w) (name : String) (result : Except Error String) :
    (w.finishParked name result).2.Sound := by
  unfold Workbench.finishParked
  cases hc : w.parked.lookup name with
  | none => exact h.sound
  | some c =>
      refine ⟨h.takeParked hc, fun c' result' hhand => ?_⟩
      cases hhand
      exact .inr (h.parked _ (mem_of_lookup hc))

/-- A handle that is asked waits if it waited before. -/
theorem ask (h : Tended [] w) (name : String)
    {question : Handle String → Option (Except Error String) × Handle String}
    (hwaits : ∀ hd : Handle String, hd.Waits → (question hd).2.Waits) :
    Tended [] (w.ask name question).2 := by
  unfold Workbench.ask
  split
  · exact h
  · rename_i place _
    cases hh : w.handles[place]? with
    | none => exact h
    | some hd =>
        have hset : Tended [] { w with handles := w.handles.set place (question hd).2 } := by
          refine h.handles fun other hd' hd'' hw => ?_
          by_cases hp : place = other
          · subst hp
            cases hh.symm.trans hd''
            exact ⟨_, by simp [(List.getElem?_eq_some_iff.1 hh).1], hwaits hd hw⟩
          · exact ⟨hd', by simpa [hp] using hd'', hw⟩
        dsimp only
        split <;> exact hset

theorem dropHandle (h : Tended [] w) (name : String) : Tended [] (w.dropHandle name).2 := by
  unfold Workbench.dropHandle
  split
  · exact h
  · rename_i place _
    refine h.handles fun other hd hhd hw => ?_
    by_cases hp : place = other
    · subst hp
      exact ⟨hd.drop, by simp [hhd], Handle.waits_drop hd⟩
    · exact ⟨hd, by simp [hp, hhd], hw⟩

theorem start (h : Tended [] w) (step : Step) : (w.start step).2.Sound := by
  cases step with
  | pending name =>
      have hnew : Tended (Sink.handle w.handles.length).place?.toList
          (w.addHandle (.fresh (some name))) := h.pending (some name)
      exact hnew.store name []
  | callback name =>
      have hnew : Tended (Sink.callback name).place?.toList w := h
      exact hnew.store name []
  | ignore name =>
      have hnew : Tended Sink.ignored.place?.toList w := h
      exact hnew.store name []
  | onCompletion name done =>
      exact h.wrap name done (l := .finalizer name) fun _ _ => rfl
  | fallback name done behaviour =>
      exact h.wrap name done (l := .fallback ⟨name, behaviour⟩) fun _ _ => rfl
  | complete name result => exact h.finish name result
  | drop name => exact h.finish name _
  | completeSecondary name result => exact h.finishParked name result
  | dropSecondary name => exact h.finishParked name _
  | describe name =>
      unfold Workbench.start
      dsimp only
      split <;> exact h.sound
  | ready name result => exact (h.addHandle _).sound
  | take name => exact (h.ask name fun _ hw => hw.take).sound
  | poll name => exact (h.ask name fun _ hw => hw.poll).sound
  | dropHandle name => exact (h.dropHandle name).sound

end Tended

/-! ## Moves -/

namespace Moment

variable {m m' : Moment} {target : Sink} {links : List Link} {result : Except Error String}
  {e : Error}

theorem fired_chain (h : m.hand = some (chain target links, result)) :
    m.fired = passOn m.bench target links result := by
  unfold fired
  rw [h]
  exact fire_chain m.bench target links result

theorem fired_resume (h : m.hand = some (.resume e (chain target links), result)) :
    m.fired = passOn m.bench target links (.error e) := by
  unfold fired
  rw [h]
  exact fire_resume m.bench target links result e

theorem Sound.tended_chain (hs : m.Sound) (h : m.hand = some (chain target links, result)) :
    Tended target.place?.toList m.bench := by
  have htended := hs.tended
  rwa [inHand, h, Option.bind_some, place?_chain] at htended

theorem Sound.tended_resume (hs : m.Sound)
    (h : m.hand = some (.resume e (chain target links), result)) :
    Tended target.place?.toList m.bench := by
  have htended := hs.tended
  rwa [inHand, h, Option.bind_some, place?_resume] at htended

theorem Sound.next (h : m.Sound) (hn : Next m m') : m'.Sound := by
  cases hn with
  | step w s => exact h.tended.start s
  | fire w c result =>
      rcases h.whole c result rfl with ⟨target, links, rfl⟩ | ⟨e, target, links, rfl⟩
      · rw [fire_chain]
        exact (h.tended_chain rfl).passOn links result
      · rw [fire_resume]
        exact (h.tended_resume rfl).passOn links (.error e)

theorem Sound.reaches (h : m.Sound) (hr : Reaches m m') : m'.Sound := by
  induction hr with
  | refl => exact h
  | tail _ hn ih => exact ih.next hn

theorem sound_start : Sound {} := by
  refine Tended.sound ⟨by simp, by simp, ?_, ?_⟩ <;> simp [places, placesOf]

end Moment

end Workbench

end ClientTransaction
