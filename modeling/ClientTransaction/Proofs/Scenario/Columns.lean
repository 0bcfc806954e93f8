import ClientTransaction.Proofs.Scenario.Streams

/-!
# Scenario.Columns — under which name a value is found

The reply to a RUN lists the columns of a result, and an entry of this list need not be a name. A
record keeps the names without the other entries, but it keeps all values of its row. So a value is
looked up as many places too early as there are entries without a name before its column, and it is
found under its own name in every row exactly if there are none.
-/

namespace ClientTransaction

/-! ## Places -/

namespace Message

/-- The place of a column: that of the first entry with its name. -/
def columnOf? (fs : List Value) (key : String) : Option Nat :=
  fs.findIdx? fun f => f.asString? = some key

/-- How many entries before a place are not names. -/
def unnamedBefore (fs : List Value) (i : Nat) : Nat :=
  (fs.take i).countP fun f => f.asString? = none

/-- The value that a row has in a column. -/
def columnValue? (fs row : List Value) (key : String) : Option Value :=
  (columnOf? fs key).bind fun i => row[i]?

theorem fields_of_list {metadata : Params} {fs : List Value}
    (h : metadata.get? "fields" = some (.list fs)) :
    fields metadata = fs.filterMap Value.asString? := by
  simp only [fields, h]

variable {f : Value} {fs : List Value} {key name : String} {i : Nat}

theorem unnamedBefore_le (fs : List Value) (i : Nat) : unnamedBefore fs i ≤ i :=
  Nat.le_trans List.countP_le_length (List.length_take_le i fs)

theorem unnamedBefore_cons_of_none (hf : f.asString? = none) :
    unnamedBefore (f :: fs) (i + 1) = unnamedBefore fs i + 1 := by
  simp [unnamedBefore, hf]

theorem unnamedBefore_cons_of_some (hf : f.asString? = some name) :
    unnamedBefore (f :: fs) (i + 1) = unnamedBefore fs i := by
  simp [unnamedBefore, hf]

theorem columnOf?_cons_of_ne (hf : f.asString? ≠ some key) :
    columnOf? (f :: fs) key = (columnOf? fs key).map (· + 1) := by
  simp [columnOf?, List.findIdx?_cons, hf]

/-- Among the names alone, a column stands as much earlier as entries before it are not names. -/
theorem findIdx?_names (fs : List Value) (key : String) :
    (fs.filterMap Value.asString?).findIdx? (fun k => k = key) =
      (columnOf? fs key).map fun i => i - unnamedBefore fs i := by
  -- A name in front moves both places on, and any other entry the one in the whole list only.
  induction fs with
  | nil => rfl
  | cons f fs ih =>
      cases hf : f.asString? with
      | none =>
          rw [List.filterMap_cons_none hf, ih, columnOf?_cons_of_ne (by simp [hf]), Option.map_map]
          refine congrArg (Option.map · _) (funext fun i => ?_)
          have hcount : unnamedBefore (f :: fs) (i + 1) = unnamedBefore fs i + 1 :=
            unnamedBefore_cons_of_none hf
          simp only [Function.comp_apply, hcount]
          omega
      | some name =>
          by_cases hname : name = key
          · simp [columnOf?, hf, hname, List.findIdx?_cons]
          · have hother : f.asString? ≠ some key := by simpa [hf] using hname
            rw [List.filterMap_cons_some hf, List.findIdx?_cons, ih, columnOf?_cons_of_ne hother]
            simp only [hname, decide_false, Option.map_map]
            refine congrArg (Option.map · _) (funext fun i => ?_)
            have hcount : unnamedBefore (f :: fs) (i + 1) = unnamedBefore fs i :=
              unnamedBefore_cons_of_some hf
            have hle := unnamedBefore_le fs i
            simp only [Function.comp_apply, hcount]
            omega

/-- Before a column there are names only. -/
def NamedUpTo (fs : List Value) (key : String) : Prop :=
  ∀ i, columnOf? fs key = some i → unnamedBefore fs i = 0

end Message

/-! ## Rows under the names alone -/

namespace Record

open Message (columnOf? unnamedBefore columnValue? NamedUpTo)

variable {fs row : List Value} {key : String} {i : Nat}

/-- A value is looked up too early by the entries before its column that are not names. -/
theorem get?_of_names (fs row : List Value) (key : String) :
    (Record.mk (fs.filterMap Value.asString?) row).get? key =
      (columnOf? fs key).bind fun i => row[i - unnamedBefore fs i]? := by
  rw [get?, Message.findIdx?_names, Option.bind_map]
  rfl

theorem get?_of_namedUpTo (h : NamedUpTo fs key) :
    (Record.mk (fs.filterMap Value.asString?) row).get? key = columnValue? fs row key := by
  rw [get?_of_names, columnValue?]
  refine Option.bind_congr fun i hi => ?_
  rw [h i hi, Nat.sub_zero]

/-- Behind an entry that is not a name, the value of an earlier place is found. -/
theorem get?_of_unnamed (row : List Value) (hi : columnOf? fs key = some i)
    (hunnamed : unnamedBefore fs i ≠ 0) :
    ∃ j < i, (∀ f, fs[j]? = some f → f.asString? ≠ some key) ∧
      (Record.mk (fs.filterMap Value.asString?) row).get? key = row[j]? := by
  have hle := Message.unnamedBefore_le fs i
  refine ⟨i - unnamedBefore fs i, by omega, fun f hf => ?_, ?_⟩
  · -- The column is at the first entry with its name, and this place comes before it.
    rcases List.getElem?_eq_some_iff.1 hf with ⟨hlt, rfl⟩
    rcases List.findIdx?_eq_some_iff_getElem.1 hi with ⟨_, _, hfirst⟩
    simpa using hfirst (i - unnamedBefore fs i) (by omega)
  · rw [get?_of_names, hi, Option.bind_some]

/-- All rows are read right exactly if there are names only before the column. A row that ends just
before the column tells the difference. -/
theorem get?_eq_columnValue?_iff :
    (∀ row, (Record.mk (fs.filterMap Value.asString?) row).get? key = columnValue? fs row key) ↔
      NamedUpTo fs key := by
  refine ⟨fun h i hi => ?_, fun h row => get?_of_namedUpTo h⟩
  by_contra hunnamed
  -- This row has values at the places before the column and none at its own.
  obtain ⟨j, hj, -, hget⟩ := get?_of_unnamed (List.replicate i .null) hi hunnamed
  rw [h, columnValue?, hi, Option.bind_some] at hget
  simp [hj] at hget

end Record

/-! ## Statements -/

namespace Scenario

open Message (columnOf? unnamedBefore columnValue? NamedUpTo)

/-- The RUN of a statement has been answered with this list of columns. -/
def ToldColumns (s : Client) (cursor : Nat) (fs : List Value) : Prop :=
  ∃ rows metadata, (.run, ⟨rows, .success metadata⟩) ∈ entries s cursor ∧
    metadata.get? "fields" = some (.list fs)

/-- How the rows of a statement are read by the names of its columns. -/
structure ReadByName (rows : List (List Value)) (fs : List Value) (c : Cursor) : Prop where
  records : c.records = rows.map (Record.mk (fs.filterMap Value.asString?))
  /-- Every entry that is not a name makes the columns behind it be read one place too early. -/
  value : ∀ r ∈ c.records, ∀ key,
    r.get? key = (columnOf? fs key).bind fun i => r.values[i - unnamedBefore fs i]?
  found : ∀ r ∈ c.records, ∀ key, NamedUpTo fs key →
    r.get? key = columnValue? fs r.values key
  /-- Otherwise the value belongs to an earlier place, at which the name does not stand. -/
  misread : ∀ r ∈ c.records, ∀ key i, columnOf? fs key = some i → unnamedBefore fs i ≠ 0 →
    ∃ j < i, (∀ f, fs[j]? = some f → f.asString? ≠ some key) ∧ r.get? key = r.values[j]?

theorem ReadByName.of_records {rows : List (List Value)} {fs : List Value} {c : Cursor}
    (h : c.records = rows.map (Record.mk (fs.filterMap Value.asString?))) :
    ReadByName rows fs c := by
  have hrows : ∀ r ∈ c.records, r = ⟨fs.filterMap Value.asString?, r.values⟩ := by
    intro r hr
    rw [h] at hr
    rcases List.mem_map.1 hr with ⟨row, -, rfl⟩
    rfl
  refine ⟨h, fun r hr key => ?_, fun r hr key hnamed => ?_, fun r hr key i hi hunnamed => ?_⟩
  · rw [hrows r hr]
    exact Record.get?_of_names fs r.values key
  · rw [hrows r hr]
    exact Record.get?_of_namedUpTo hnamed
  · rw [hrows r hr]
    exact Record.get?_of_unnamed r.values hi hunnamed

/-- The rows of a statement are read so in every run, whether calls wait or not. -/
theorem readByName_after (flavor : Flavor) (steps : List Step) {cursor : Nat} {c : Cursor}
    {fs : List Value} (hc : (after flavor {} steps).cursors[cursor]? = some c)
    (htold : ToldColumns (after flavor {} steps) cursor fs) :
    ReadByName (rowsOf (entries (after flavor {} steps) cursor)) fs c := by
  have hfiled := filed_after flavor steps
  obtain ⟨rows, metadata, hrun, hfields⟩ := htold
  have hlisted : Listed (entries (after flavor {} steps) cursor) (fs.filterMap Value.asString?) c :=
    .of_fields (hfiled.parts cursor) (hfiled.own hc) hrun (Message.fields_of_list hfields)
  exact .of_records hlisted.records

/-- A statement is run whose columns are these and whose only row is this. -/
def oneRow (fs row : List Value) : List Step :=
  [.begin { tx := "t", config := .settings [], reported := true, bookmarkOf := none
            handle := "b" },
    .take "b",
    .script ⟨"S", some { outcome := .success [("fields", .list fs)] },
      some { records := [row], outcome := .success [] }⟩,
    .run "t" "S" [] (some "r"), .deliver none]

/-- BEGIN and the statement are answered whether calls wait or not. -/
theorem receipts_oneRow (flavor : Flavor) (fs row : List Value) :
    (after flavor {} (oneRow fs row)).receipts =
      [⟨0, .begin, .run, {}⟩, ⟨0, .begin, .pullAll, {}⟩,
        ⟨0, .statement 0, .run, { outcome := .success [("fields", .list fs)] }⟩,
        ⟨0, .statement 0, .pullAll, { records := [row] }⟩] := by
  cases flavor <;> rfl

theorem entries_oneRow (flavor : Flavor) (fs row : List Value) :
    entries (after flavor {} (oneRow fs row)) 0 =
      [(.run, ⟨[], .success [("fields", .list fs)]⟩), (.pullAll, ⟨[row], .success []⟩)] := by
  rw [entries, Client.replies, receipts_oneRow]
  rfl

/-- So a row of any values can come under any list of columns. -/
theorem exists_record (flavor : Flavor) (fs row : List Value) :
    ∃ c, (after flavor {} (oneRow fs row)).cursors[0]? = some c ∧
      ToldColumns (after flavor {} (oneRow fs row)) 0 fs ∧
      c.records = [⟨fs.filterMap Value.asString?, row⟩] := by
  have hentries := entries_oneRow flavor fs row
  have htold : ToldColumns (after flavor {} (oneRow fs row)) 0 fs :=
    ⟨[], [("fields", .list fs)], by rw [hentries]; exact .head _, rfl⟩
  cases hc : (after flavor {} (oneRow fs row)).cursors[0]? with
  | none =>
      -- Nothing comes for a statement that was never run.
      have hnone := (filed_after flavor (oneRow fs row)).entries_eq_nil
        (List.getElem?_eq_none_iff.1 hc)
      exact absurd (hentries.symm.trans hnone) (List.cons_ne_nil _ _)
  | some c =>
      refine ⟨c, rfl, htold, (readByName_after flavor _ hc htold).records.trans ?_⟩
      simp [hentries, rowsOf]

/-- A row is read by the names among the entries that the RUN has told, whatever these entries are:
a value is found under the name of its column if there are names only before it, and under a name
behind another entry the value of an earlier column is found. So a name is safe in all runs exactly
if it stands behind names only. -/
theorem read_by_name (flavor : Flavor) (fs : List Value) :
    (∀ steps cursor c, (after flavor {} steps).cursors[cursor]? = some c →
      ToldColumns (after flavor {} steps) cursor fs →
        ReadByName (rowsOf (entries (after flavor {} steps) cursor)) fs c) ∧
      ∀ key,
        (∀ steps cursor c, (after flavor {} steps).cursors[cursor]? = some c →
          ToldColumns (after flavor {} steps) cursor fs →
            ∀ r ∈ c.records, r.get? key = columnValue? fs r.values key) ↔
          NamedUpTo fs key := by
  refine ⟨fun steps _ _ => readByName_after flavor steps, fun key => ⟨?_, ?_⟩⟩
  · intro hall
    refine Record.get?_eq_columnValue?_iff.1 fun row => ?_
    -- Each row can be the only one of a statement.
    obtain ⟨c, hc, htold, hrecords⟩ := exists_record flavor fs row
    exact hall (oneRow fs row) 0 c hc htold _ (by simp [hrecords])
  · intro hnamed steps cursor c hc htold r hr
    exact (readByName_after flavor steps hc htold).found r hr key hnamed

/-- The column between `n` and `m` has no name. -/
def halfNamed : List Value :=
  [.string "n", .int 1, .string "m"]

def threeValues : List Value :=
  [.string "x", .string "y", .string "z"]

/-- Under the name behind it, the value of the column without a name is found. -/
theorem exists_misread :
    ¬ ∀ flavor steps cursor c fs, (after flavor {} steps).cursors[cursor]? = some c →
      ToldColumns (after flavor {} steps) cursor fs →
        ∀ r ∈ c.records, ∀ key, r.get? key = columnValue? fs r.values key := by
  intro hall
  obtain ⟨c, hc, htold, hrecords⟩ := exists_record .blocking halfNamed threeValues
  have hmem : ⟨["n", "m"], threeValues⟩ ∈ c.records := hrecords ▸ List.mem_singleton_self _
  have hsame : some (Value.string "y") = some (Value.string "z") :=
    hall .blocking _ 0 c halfNamed hc htold _ hmem "m"
  simp at hsame

theorem namedUpTo_halfNamed : NamedUpTo halfNamed "n" := by
  intro i hi
  obtain rfl : 0 = i := Option.some.inj hi
  rfl

/-- The name before that column is read right, and the one behind it is not. -/
theorem read_by_name_of_halfNamed :
    (∃ c, (after .nonblocking {} (oneRow halfNamed threeValues)).cursors[0]? = some c ∧
      ReadByName [threeValues] halfNamed c ∧
      ∀ r ∈ c.records, r.get? "n" = some (.string "x") ∧ r.get? "m" = some (.string "y")) ∧
      ∃ steps cursor c, (after .blocking {} steps).cursors[cursor]? = some c ∧
        ToldColumns (after .blocking {} steps) cursor halfNamed ∧
          ∃ r ∈ c.records, r.get? "m" ≠ columnValue? halfNamed r.values "m" := by
  obtain ⟨hread, -⟩ := read_by_name .nonblocking halfNamed
  obtain ⟨-, hexact⟩ := read_by_name .blocking halfNamed
  obtain ⟨c, hc, htold, hrecords⟩ := exists_record .nonblocking halfNamed threeValues
  have hrows := hread _ 0 c hc htold
  rw [entries_oneRow] at hrows
  refine ⟨⟨c, hc, hrows, fun r hr => ?_⟩, ?_⟩
  · have hn := hrows.found r hr "n" namedUpTo_halfNamed
    have hm := hrows.value r hr "m"
    obtain rfl : r = ⟨["n", "m"], threeValues⟩ := List.mem_singleton.1 (hrecords ▸ hr)
    exact ⟨hn, hm⟩
  · by_contra hnone
    push Not at hnone
    have hnamed : NamedUpTo halfNamed "m" := (hexact "m").1 hnone
    exact absurd (hnamed 2 rfl) (by decide)

end Scenario

end ClientTransaction
