import ClientTransaction.Bookmark
import ClientTransaction.Json.Text
import ClientTransaction.Json.Reader
import ClientTransaction.Text.Quoted

/-!
# Bookmark.Encoding — bookmarks as text

In JSON a bookmark is the list of its values. A list that is read becomes a bookmark as it stands,
so a value may then be empty. The text shown to a user is the quoted list.
-/

namespace ClientTransaction.Bookmark

/-- The text shown to a user. -/
def display (b : Bookmark) : String :=
  "Bookmark" ++ Text.quotedList b.values

def toJson (b : Bookmark) : String :=
  Json.writeArray (b.values.map Json.writeString)

/-- The texts of an array of texts. -/
def textsOfJson? : List Json → Option (List String)
  | [] => some []
  | .string (some text) :: rest => (textsOfJson? rest).map (text :: ·)
  | _ :: _ => none

def ofJson? : Json → Option Bookmark
  | .array items => (textsOfJson? items).map Bookmark.mk
  | _ => none

def decode? (text : String) : Option Bookmark :=
  (Json.read? text).bind ofJson?

/-! ## Ways to name a bookmark -/

inductive Source
  | empty
  | value (value : String)
  | values (values : List String)
  | json (text : String)
  deriving Repr

/-- The bookmark that is named, unless it is a text that cannot be read. -/
def ofSource? : Source → Option Bookmark
  | .empty => some Bookmark.empty
  | .value value => some (Bookmark.ofString value)
  | .values values => some (Bookmark.ofValues values)
  | .json text => decode? text

end ClientTransaction.Bookmark
