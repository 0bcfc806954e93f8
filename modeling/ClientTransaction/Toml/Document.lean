import ClientTransaction.Toml.Reader

/-!
# Toml.Document — tables and the lines that fill them

A document is read line by line. A header closes the table that was being filled, puts it into the
document and starts the next one; an entry goes into the table that is being filled.
-/

namespace ClientTransaction.Toml

/-- A table with its origin. -/
structure Table where
  origin : Origin
  entries : Entries
  deriving Repr

namespace Table

def fresh : Table :=
  ⟨.written, []⟩

/-- Puts a table in the place of one under a key. -/
def set (t : Table) (key : String) (item : Item) : Table :=
  if (t.entries.lookup key).isSome then { t with entries := Entries.replace t.entries key item }
  else { t with entries := t.entries ++ [(key, item)] }

/-- Acts on the table that lies at the end of a path. Tables that are missing on the way are made. A
path that goes on as a dotted key may not pass through a table that was written out. Of tables that
share a header the last one is meant. -/
def within {α : Type} (dotted : Bool) (act : Table → Option (Table × α)) :
    List String → Table → Option (Table × α)
  | [], t => act t
  | key :: rest, t =>
      match t.entries.lookup key with
      | none => do
          let (inner, a) ← within dotted act rest ⟨if dotted then .dotted else .implied, []⟩
          return (t.set key (.table inner.origin inner.entries), a)
      | some (.table origin entries) => do
          -- What has a header of its own is not reopened by a dotted key.
          if dotted && origin == .written then none
          else
            let (inner, a) ← within dotted act rest ⟨origin, entries⟩
            return (t.set key (.table inner.origin inner.entries), a)
      | some (.tables tables) =>
          match tables.getLast? with
          | none => none
          | some entries => do
              let (inner, a) ← within dotted act rest ⟨.written, entries⟩
              return (t.set key (.tables (tables.dropLast ++ [inner.entries])), a)
      | some _ => none

/-- Adds an entry under a key of several parts. The last part must be new, and its table must have
been made by dotted keys exactly when there are parts before it. -/
def addEntry (t : Table) (path : List String) (key : String) (item : Item) : Option Table :=
  let add (inner : Table) : Option (Table × Unit) :=
    if (inner.origin == .dotted) == path.isEmpty then none
    else if (inner.entries.lookup key).isSome then none
    else some ({ inner with entries := inner.entries ++ [(key, item)] }, ())
  (within true add path t).map Prod.fst

/-- Takes the table at the end of a path out of the document, to be filled under a header of its
own. It must be new or have stood on the way only. -/
def takeOut (t : Table) (path : List String) (key : String) : Option (Table × Entries) :=
  let take (parent : Table) : Option (Table × Entries) :=
    match parent.entries.lookup key with
    | none => some (parent, [])
    | some (.table .implied entries) =>
        some ({ parent with entries := parent.entries.filter fun entry => entry.1 ≠ key }, entries)
    | some _ => none
  within false take path t

/-- Puts a table under a header. -/
def putBack (t : Table) (path : List String) (key : String) (filled : Entries) : Option Table :=
  let put (parent : Table) : Option (Table × Unit) :=
    match parent.entries.lookup key with
    | none | some (.table .implied _) | some (.table .dotted _) =>
        some (parent.set key (.table .written filled), ())
    | some _ => none
  (within false put path t).map Prod.fst

/-- Makes room for tables that share a header. -/
def openTables (t : Table) (path : List String) (key : String) : Option Table :=
  let reserve (parent : Table) : Option (Table × Unit) :=
    match parent.entries.lookup key with
    | none => some (parent.set key (.tables []), ())
    | some (.tables _) => some (parent, ())
    | some _ => none
  (within false reserve path t).map Prod.fst

/-- Puts a table behind those that share its header. -/
def appendTo (t : Table) (path : List String) (key : String) (filled : Entries) : Option Table :=
  let append (parent : Table) : Option (Table × Unit) :=
    match parent.entries.lookup key with
    | none => some (parent.set key (.tables [filled]), ())
    | some (.tables tables) => some (parent.set key (.tables (tables ++ [filled])), ())
    | some _ => none
  (within false append path t).map Prod.fst

end Table

/-! ## Filling -/

/-- The header under which a table is being filled. -/
inductive Heading
  | root
  | single (path : List String) (key : String)
  | shared (path : List String) (key : String)
  deriving Repr

/-- A document that is being read: what is finished, and the table that is being filled. -/
structure Draft where
  document : Table := Table.fresh
  heading : Heading := .root
  current : Table := Table.fresh

namespace Draft

/-- Puts the table that is being filled into the document. -/
def close (d : Draft) : Option Table :=
  match d.heading with
  | .root => some d.current
  | .single path key => d.document.putBack path key d.current.entries
  | .shared path key => d.document.appendTo path key d.current.entries

/-- The parts of a key before the last one, and the last one. -/
def splitKey (key : List String) : Option (List String × String) :=
  key.getLast?.map fun last => (key.dropLast, last)

def startSingle (d : Draft) (key : List String) : Option Draft := do
  let (path, last) ← splitKey key
  let document ← d.close
  let (document, entries) ← document.takeOut path last
  return { document := document, heading := .single path last, current := ⟨.written, entries⟩ }

def startShared (d : Draft) (key : List String) : Option Draft := do
  let (path, last) ← splitKey key
  let document ← d.close
  let document ← document.openTables path last
  return { document := document, heading := .shared path last, current := Table.fresh }

def add (d : Draft) (key : List String) (item : Item) : Option Draft := do
  let (path, last) ← splitKey key
  let current ← d.current.addEntry path last item
  return { d with current := current }

/-! ## Lines -/

/-- A line with something on it: a header, an entry or a comment. -/
def readLine (d : Draft) (cs : List Char) : Option (Draft × List Char) := do
  match cs with
  | '#' :: _ => return (d, ← lineEnd? cs)
  | '[' :: '[' :: rest =>
      match ← readKey rest with
      | (key, ']' :: ']' :: rest) =>
          let rest ← lineEnd? rest
          return (← d.startShared key, rest)
      | _ => none
  | '[' :: rest =>
      match ← readKey rest with
      | (key, ']' :: rest) =>
          let rest ← lineEnd? rest
          return (← d.startSingle key, rest)
      | _ => none
  | cs =>
      match ← readKey cs with
      | (key, '=' :: rest) =>
          let (item, rest) ← readValue (skipBlanks rest)
          let rest ← lineEnd? rest
          return (← d.add key item, rest)
      | _ => none

/-- The remaining lines; `fuel` bounds their number. -/
def readLines : Nat → Draft → List Char → Option Draft
  | 0, _, _ => none
  | fuel + 1, d, cs =>
      match skipBlanks cs with
      | [] => some d
      | cs =>
          match newline? cs with
          | some rest => readLines fuel d rest
          | none =>
              match readLine d cs with
              | some (d, rest) => readLines fuel d rest
              | none => none

end Draft

/-- The document that a text holds. A byte order mark before it does not count. -/
def read? (text : String) : Option Entries :=
  let cs := match text.toList with
    | '\ufeff' :: rest => rest
    | cs => cs
  ((Draft.readLines (cs.length + 1) {} cs).bind Draft.close).map Table.entries

end ClientTransaction.Toml
