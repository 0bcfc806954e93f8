import ClientTransaction.Config
import ClientTransaction.Toml.Document

/-!
# Config.Toml — configurations as TOML

The entries of the document are the settings; unknown ones are skipped. The mode of access is a
string, or a table that names the mode and has nothing under it.
-/

namespace ClientTransaction

namespace Bookmark

/-- The strings of an array of strings. -/
def stringsOfItems? : List Toml.Item → Option (List String)
  | [] => some []
  | .string s :: rest => (stringsOfItems? rest).map (s :: ·)
  | _ :: _ => none

def ofItem? : Toml.Item → Option Bookmark
  | .array items => (stringsOfItems? items).map Bookmark.mk
  | _ => none

end Bookmark

namespace AccessMode

/-- Whether an item has nothing in it, as the content of a choice without content must. -/
def isUnit : Toml.Item → Bool
  | .array items => items.isEmpty
  | .inlineTable _ entries | .table _ entries => entries.isEmpty
  | .tables tables => tables.isEmpty
  | .string _ | .scalar _ => false

/-- A table in braces names one mode; of a table with a header the first entry counts. -/
def ofItem? : Toml.Item → Option AccessMode
  | .string tag => ofTag? tag
  | .inlineTable _ [(tag, content)] => if isUnit content then ofTag? tag else none
  | .table _ ((tag, content) :: _) => if isUnit content then ofTag? tag else none
  | _ => none

end AccessMode

namespace Config

def ofEntries? (entries : Toml.Entries) : Option Config := do
  let bookmark ← match entries.lookup "bookmark" with
    | none => some Bookmark.empty
    | some item => Bookmark.ofItem? item
  let mode ← match entries.lookup "access_mode" with
    | none => some .readWrite
    | some item => AccessMode.ofItem? item
  return { bookmark := bookmark, accessMode := mode }

def ofToml? (text : String) : Option Config :=
  (Toml.read? text).bind ofEntries?

end Config

end ClientTransaction
