import ClientTransaction.Proofs.Scenario.Filing

/-!
# Scenario.Streams — the results of statements do not mix

When a RUN has told the columns of a result, the cursor holds the rows that its own PULL_ALL has
brought so far, in their order and under these columns, and the outcome of this PULL_ALL. So a
statement has the same results in every run in which it gets the same two replies, whatever else is
under way on the connection.
-/

namespace ClientTransaction

/-! ## Rows -/

namespace Record

/-- A value is that at the first place where its column is named. -/
theorem get?_of_first {r : Record} {key : String} {i : Nat} (hi : r.keys[i]? = some key)
    (hfirst : key ∉ r.keys.take i) : r.get? key = r.values[i]? := by
  have hplace : r.keys.findIdx? (fun k => k = key) = some i := by
    rcases List.getElem?_eq_some_iff.1 hi with ⟨hlt, hkey⟩
    refine List.findIdx?_eq_some_iff_getElem.2 ⟨hlt, by simpa using hkey, fun j hj hfound => ?_⟩
    have hbound : j < r.keys.length := Nat.lt_trans hj hlt
    have hearlier : r.keys[j] = key := by simpa using hfound
    exact hfirst (List.mem_take_iff_getElem.2 ⟨j, by omega, hearlier⟩)
  rw [get?, hplace, Option.bind_some]

/-- There is no value under a name that no column has. -/
theorem get?_of_absent {r : Record} {key : String} (h : key ∉ r.keys) : r.get? key = none := by
  have hnone : r.keys.findIdx? (fun k => k = key) = none := by
    refine List.findIdx?_eq_none_iff.2 fun k hk => ?_
    simpa using fun heq : k = key => h (heq ▸ hk)
  rw [get?, hnone, Option.bind_none]

end Record

theorem Message.fields_of_strings {metadata : Params} {columns : List String}
    (h : metadata.get? "fields" = some (.list (columns.map Value.string))) :
    Message.fields metadata = columns := by
  have hstrings : ∀ columns : List String,
      (columns.map Value.string).filterMap Value.asString? = columns := by
    intro columns
    rw [List.filterMap_map]
    exact List.filterMap_some
  simp only [Message.fields, h, hstrings]

namespace Scenario

/-! ## What a cursor holds -/

/-- The rows among what has come for a statement. -/
def rowsOf (received : List (Part × Reply)) : List (List Value) :=
  received.flatMap fun
    | (.pullAll, reply) => reply.records
    | (.run, _) => []

/-- A cursor whose columns are known holds the rows that have come for its statement, and how they
ended. -/
structure Listed (received : List (Part × Reply)) (columns : List String) (c : Cursor) : Prop where
  keys : c.keys = columns
  records : c.records = (rowsOf received).map (Record.mk columns)
  /-- A value is found under the first column of its name; a row may be too short for it. -/
  value : ∀ r ∈ c.records, ∀ key i, columns[i]? = some key → key ∉ columns.take i →
    r.get? key = r.values[i]?
  absent : ∀ r ∈ c.records, ∀ key, key ∉ columns → r.get? key = none
  /-- Until the PULL_ALL is answered there is no outcome, and rows are added one by one. -/
  coming : (∀ entry ∈ received, entry.1 = .run) → c.outcome = none ∧
    ∀ rows : List (List Value), (rows.foldl Cursor.push c).keys = columns ∧
      (rows.foldl Cursor.push c).records = rows.map (Record.mk columns)
  succeeded : ∀ rows metadata, (.pullAll, ⟨rows, .success metadata⟩) ∈ received →
    c.summary? = some metadata ∧ c.error? = none
  failed : ∀ rows e, (.pullAll, ⟨rows, .failure e⟩) ∈ received →
    c.error? = some e ∧ c.summary? = none
  dropped : ∀ rows, (.pullAll, ⟨rows, .dropped⟩) ∈ received → c.outcome = none

namespace Listed

variable {received : List (Part × Reply)} {columns : List String} {c : Cursor}

/-- Values are looked up in records that have all columns. -/
theorem of_outcome (hkeys : c.keys = columns)
    (hrecords : c.records = (rowsOf received).map (Record.mk columns))
    (hcoming : (∀ entry ∈ received, entry.1 = .run) → c.outcome = none)
    (houtcome : ∀ reply, (.pullAll, reply) ∈ received → c.outcome =
      match reply.outcome with
      | .success metadata => some (.ok metadata)
      | .failure e => some (.error e)
      | .dropped => none) : Listed received columns c := by
  have hcolumns : ∀ r ∈ c.records, r.keys = columns := by
    intro r hr
    rw [hrecords] at hr
    rcases List.mem_map.1 hr with ⟨row, -, rfl⟩
    rfl
  refine ⟨hkeys, hrecords, ?_, ?_, ?_, ?_, ?_, ?_⟩
  · intro r hr key i hi hfirst
    rw [← hcolumns r hr] at hi hfirst
    exact Record.get?_of_first hi hfirst
  · intro r hr key hkey
    rw [← hcolumns r hr] at hkey
    exact Record.get?_of_absent hkey
  · intro hrun
    have hnone : rowsOf received = [] := by
      refine List.flatMap_eq_nil_iff.2 fun entry hentry => ?_
      rcases entry with ⟨part, reply⟩
      cases hrun _ hentry
      rfl
    refine ⟨hcoming hrun, fun rows => ⟨?_, ?_⟩⟩
    · rw [Cursor.keys_pushAll, hkeys]
    · rw [Cursor.records_pushAll, hkeys, hrecords, hnone]
      rfl
  · intro rows metadata hreply
    simp [Cursor.summary?, Cursor.error?, houtcome _ hreply]
  · intro rows e hreply
    simp [Cursor.summary?, Cursor.error?, houtcome _ hreply]
  · intro rows hreply
    exact houtcome _ hreply

/-- The RUN has told the columns, and then the PULL_ALL may have been answered. -/
theorem of_fields (horder : received.map Prod.fst <+: [.run, .pullAll])
    (hown : c.bare = received.foldl Cursor.enter c.blank) {rows : List (List Value)}
    {metadata : Params} (hrun : (.run, ⟨rows, .success metadata⟩) ∈ received)
    (hcolumns : Message.fields metadata = columns) : Listed received columns c := by
  have hkeys : c.blank.enter (.run, ⟨rows, .success metadata⟩) = c.blank.setKeys columns := by
    rw [← hcolumns]
    rfl
  rcases cases_of_parts horder with rfl | ⟨run, rfl⟩ | ⟨run, ⟨given, outcome⟩, rfl⟩
  · exact absurd hrun List.not_mem_nil
  · -- Only the RUN has been answered.
    obtain rfl : ⟨rows, .success metadata⟩ = run := by simpa using hrun
    rw [List.foldl_cons, hkeys] at hown
    refine .of_outcome (congrArg Cursor.keys hown) (congrArg Cursor.records hown)
      (fun _ => congrArg Cursor.outcome hown) fun reply hreply => ?_
    simp at hreply
  · obtain rfl : ⟨rows, .success metadata⟩ = run := by simpa using hrun
    rw [List.foldl_cons, hkeys] at hown
    have hrows : rowsOf [(.run, ⟨rows, .success metadata⟩), (.pullAll, ⟨given, outcome⟩)] =
        given := by simp [rowsOf]
    cases outcome with
    | success summary =>
        rcases Cursor.of_told hown with ⟨hk, hr, ho⟩
        exact .of_outcome hk (by rwa [hrows]) (by simp) (by simpa using ho)
    | failure e =>
        rcases Cursor.of_told hown with ⟨hk, hr, ho⟩
        exact .of_outcome hk (by rwa [hrows]) (by simp) (by simpa using ho)
    | dropped =>
        -- The rows have come, and nothing else.
        have hk : c.keys = columns :=
          (congrArg Cursor.keys hown).trans (Cursor.keys_pushAll given _)
        have hr : c.records = given.map (Record.mk columns) :=
          (congrArg Cursor.records hown).trans (Cursor.records_pushAll given _)
        have ho : c.outcome = none :=
          (congrArg Cursor.outcome hown).trans (Cursor.outcome_pushAll given _)
        exact .of_outcome hk (by rwa [hrows]) (by simp) (by simpa using ho)

/-- The same where each entry for a column is its name. -/
theorem of_entered (horder : received.map Prod.fst <+: [.run, .pullAll])
    (hown : c.bare = received.foldl Cursor.enter c.blank) {rows : List (List Value)}
    {metadata : Params} (hrun : (.run, ⟨rows, .success metadata⟩) ∈ received)
    (hcolumns : metadata.get? "fields" = some (.list (columns.map Value.string))) :
    Listed received columns c :=
  of_fields horder hown hrun (Message.fields_of_strings hcolumns)

end Listed

/-- Two cursors hold the same, whatever their statements are. -/
structure Matches (c c' : Cursor) : Prop where
  keys : c'.keys = c.keys
  records : c'.records = c.records
  outcome : c'.outcome = c.outcome

theorem Matches.enter {c c' : Cursor} (h : Matches c c') (entry : Part × Reply) :
    Matches (c.enter entry) (c'.enter entry) := by
  rcases h with ⟨hk, hr, ho⟩
  rcases entry with ⟨part, ⟨rows, outcome⟩⟩
  cases part with
  | run =>
      cases outcome with
      | success metadata => exact ⟨rfl, hr, ho⟩
      | failure e =>
          constructor <;>
            simp only [Cursor.enter, Cursor.keys_settle, Cursor.records_settle,
              Cursor.outcome_settle_eq, hk, hr, ho]
      | dropped => exact ⟨hk, hr, ho⟩
  | pullAll =>
      cases outcome <;> constructor <;>
        simp only [Cursor.enter, Cursor.keys_settle, Cursor.records_settle, Cursor.outcome_settle_eq,
          Cursor.keys_pushAll, Cursor.records_pushAll, Cursor.outcome_pushAll, hk, hr, ho]

/-- What replies bring does not depend on whose they are. -/
theorem Matches.entered {c c' : Cursor} (h : Matches c c') (received : List (Part × Reply)) :
    Matches (received.foldl Cursor.enter c) (received.foldl Cursor.enter c') := by
  induction received generalizing c c' with
  | nil => exact h
  | cons entry rest ih => exact ih (h.enter entry)

/-- The cursor of a statement has what the replies to its own RUN and PULL_ALL have brought. -/
structure Unmixed (s : Client) (cursor : Nat) (c : Cursor) : Prop where
  /-- The PULL_ALL is not answered before the RUN, and neither is answered twice. -/
  order : (entries s cursor).map Prod.fst <+: [.run, .pullAll]
  /-- In whatever run the same replies come to a statement, it has the same results. -/
  determined : ∀ (flavor : Flavor) (steps : List Step) (other : Nat) (c' : Cursor),
    (after flavor {} steps).cursors[other]? = some c' →
    entries (after flavor {} steps) other = entries s cursor → Matches c c'
  listed : ∀ rows metadata columns, (.run, ⟨rows, .success metadata⟩) ∈ entries s cursor →
    metadata.get? "fields" = some (.list (columns.map Value.string)) →
      Listed (entries s cursor) columns c

/-- Statements do not mix in any run, whether calls wait or not. -/
theorem unmixed_after (flavor : Flavor) (steps : List Step) {cursor : Nat} {c : Cursor}
    (hc : (after flavor {} steps).cursors[cursor]? = some c) :
    Unmixed (after flavor {} steps) cursor c := by
  have hfiled := filed_after flavor steps
  have hown : c.bare = (entries (after flavor {} steps) cursor).foldl Cursor.enter c.blank :=
    hfiled.own hc
  have horder : (entries (after flavor {} steps) cursor).map Prod.fst <+: [.run, .pullAll] := by
    have hparts : (entries (after flavor {} steps) cursor).map Prod.fst =
        ((after flavor {} steps).replies cursor).map Receipt.part := by
      simp [entries, Receipt.entry, Function.comp_def]
    rw [hparts]
    exact (List.prefix_append _ _).trans (hfiled.order cursor)
  refine ⟨horder, fun flavor' steps' other c' hc' hsame => ?_, fun rows metadata columns => ?_⟩
  · have hother : c'.bare = (entries (after flavor {} steps) cursor).foldl Cursor.enter c'.blank :=
      hsame ▸ (filed_after flavor' steps').own hc'
    have hblank : Matches c.blank c'.blank := ⟨rfl, rfl, rfl⟩
    have hentered := hblank.entered (entries (after flavor {} steps) cursor)
    rw [← hown, ← hother] at hentered
    exact ⟨hentered.keys, hentered.records, hentered.outcome⟩
  · exact .of_entered horder hown

/-- Two transactions have sent three statements before any reply came. The RUN of the last one has
been answered, and its PULL_ALL has not. -/
def crowded : List Step :=
  [.script ⟨"A", some { outcome := .success [("fields", .list [.string "x", .string "y"])] },
      some { records := [[.int 1, .int 2], [.int 3]], outcome := .success [("type", .string "r")] }⟩,
    .script ⟨"B", some { outcome := .success [("fields", .list [.string "x", .string "x"])] },
      some { records := [[.int 4, .int 5], [.int 6, .int 7]], outcome := .success [] }⟩,
    .hold true,
    .begin { tx := "t", config := .settings [], reported := true, bookmarkOf := none
             handle := "b" },
    .begin { tx := "u", config := .settings [], reported := true, bookmarkOf := none
             handle := "c" },
    .take "b", .take "c",
    .run "t" "A" [] (some "first"), .run "u" "B" [] (some "second"),
    .run "t" "B" [] (some "third"), .deliver (some 9)]

/-- Each row has come to its own statement, and the last result waits for its rows. -/
theorem unmixed_after_crowded :
    (∃ first second third : Cursor,
      (after .nonblocking {} crowded).cursors = [first, second, third] ∧
        Unmixed (after .nonblocking {} crowded) 0 first ∧
        Unmixed (after .nonblocking {} crowded) 1 second ∧
        Unmixed (after .nonblocking {} crowded) 2 third ∧
        first.records = [⟨["x", "y"], [.int 1, .int 2]⟩, ⟨["x", "y"], [.int 3]⟩] ∧
        second.records = [⟨["x", "x"], [.int 4, .int 5]⟩, ⟨["x", "x"], [.int 6, .int 7]⟩] ∧
        third.keys = ["x", "x"] ∧ third.records = []) :=
  ⟨_, _, _, rfl, unmixed_after .nonblocking crowded rfl, unmixed_after .nonblocking crowded rfl,
    unmixed_after .nonblocking crowded rfl, rfl, rfl, rfl, rfl⟩

end Scenario

end ClientTransaction
