import ClientTransaction.Toml.Scalar

/-!
# Toml.Reader — values

Arrays may stretch over lines and hold comments; tables in braces stand on one line. Both count into
the depth of nesting, which is limited. The readers carry a bound on their remaining calls, computed
from the text, that is never reached.
-/

namespace ClientTransaction.Toml

/-! ## Tables in braces -/

/-- Puts an item under a key of several parts into a table in braces. A part on the way may be a
table that dotted keys have made; the last part must be new, and its table must have been made by
dotted keys exactly when there are parts before it. -/
def insertInline (entries : Entries) (item : Item) : List String → Option Entries
  | [] => none
  | [key] =>
      if (entries.lookup key).isNone then some (entries ++ [(key, item)]) else none
  | key :: rest =>
      match entries.lookup key with
      | none =>
          (insertInline [] item rest).map fun inner =>
            entries ++ [(key, .inlineTable .dotted inner)]
      | some (.inlineTable .dotted inner) =>
          (insertInline inner item rest).map fun inner =>
            Entries.replace entries key (.inlineTable .dotted inner)
      | some _ => none

mutual

/-- A value; `room` is the number of arrays and tables that may still be entered. -/
def readItem : Nat → Nat → List Char → Read Item
  | 0, _, _ => none
  | fuel + 1, room, cs =>
      match cs with
      | '"' :: _ | '\'' :: _ => (readString cs).map fun (s, rest) => (.string s, rest)
      | '[' :: rest =>
          match room with
          | 0 => none
          | room + 1 =>
              match skipInArray false rest with
              | ']' :: rest => some (.array [], rest)
              | rest => readItems fuel room [] rest
      | '\x7b' :: rest =>
          match room with
          | 0 => none
          | room + 1 =>
              match skipBlanks rest with
              | '\x7d' :: rest => some (.inlineTable .written [], rest)
              | rest => readEntries fuel room [] rest
      | cs => (readScalar cs).map fun (s, rest) => (.scalar s, rest)

/-- The items of an array from the next one on; those before it are in `items`, in reverse. -/
def readItems : Nat → Nat → List Item → List Char → Read Item
  | 0, _, _, _ => none
  | fuel + 1, room, items, cs =>
      match readItem fuel room cs with
      | none => none
      | some (item, rest) =>
          match skipInArray false rest with
          | ',' :: rest =>
              -- The last item may be followed by a comma.
              match skipInArray false rest with
              | ']' :: rest => some (.array (item :: items).reverse, rest)
              | rest => readItems fuel room (item :: items) rest
          | ']' :: rest => some (.array (item :: items).reverse, rest)
          | _ => none

/-- The entries of a table in braces from the next one on. -/
def readEntries : Nat → Nat → Entries → List Char → Read Item
  | 0, _, _, _ => none
  | fuel + 1, room, entries, cs =>
      match readKey cs with
      | some (key, '=' :: rest) =>
          match readItem fuel room (skipBlanks rest) with
          | none => none
          | some (item, rest) =>
              match insertInline entries item key with
              | none => none
              | some entries =>
                  match skipBlanks rest with
                  | ',' :: rest => readEntries fuel room entries rest
                  | '\x7d' :: rest => some (.inlineTable .written entries, rest)
                  | _ => none
      | _ => none

end

/-- A value. -/
def readValue (cs : List Char) : Read Item :=
  readItem (2 * cs.length + 2) depthLimit cs

end ClientTransaction.Toml
