import ClientTransaction.Config
import ClientTransaction.Bookmark.Encoding
import ClientTransaction.Lifecycle.Encoding

/-!
# Config.Json — configurations as JSON

A configuration is written as an object. It may be read from an object, where unknown entries are
skipped and known ones must not be repeated, or from an array of the two settings in order, of which
the last ones may be absent.
-/

namespace ClientTransaction

namespace AccessMode

def ofJson? (json : Json) : Option AccessMode :=
  json.unitTag?.bind ofTag?

end AccessMode

namespace Config

def toJson (c : Config) : String :=
  Json.writeObject
    [("bookmark", c.bookmark.toJson), ("access_mode", Json.writeString c.accessMode.tag)]

/-- The settings met so far in an object. -/
structure Found where
  bookmark : Option Bookmark := none
  accessMode : Option AccessMode := none

/-- The settings of an object. A key must be meaningful even when its entry is skipped. -/
def foundInEntries? (found : Found) : List (Option String × Json) → Option Found
  | [] => some found
  | (none, _) :: _ => none
  | (some "bookmark", json) :: rest =>
      match found.bookmark, Bookmark.ofJson? json with
      | none, some bookmark => foundInEntries? { found with bookmark := some bookmark } rest
      | _, _ => none
  | (some "access_mode", json) :: rest =>
      match found.accessMode, AccessMode.ofJson? json with
      | none, some mode => foundInEntries? { found with accessMode := some mode } rest
      | _, _ => none
  | (some _, _) :: rest => foundInEntries? found rest

def ofJson? : Json → Option Config
  | .object entries =>
      (foundInEntries? {} entries).map fun found =>
        { bookmark := found.bookmark.getD Bookmark.empty
          accessMode := found.accessMode.getD .readWrite }
  | .array [] => some {}
  | .array [bookmark] => (Bookmark.ofJson? bookmark).map fun b => { bookmark := b }
  | .array [bookmark, mode] =>
      match Bookmark.ofJson? bookmark, AccessMode.ofJson? mode with
      | some b, some m => some { bookmark := b, accessMode := m }
      | _, _ => none
  | _ => none

def decode? (text : String) : Option Config :=
  (Json.read? text).bind ofJson?

end Config

end ClientTransaction
