import ClientTransaction.Bookmark

/-!
# Message — requests and the metadata of replies

A transaction is opened and ended by statements of its own. The metadata of a reply holds the
columns of a result, or the bookmark after a commit.
-/

namespace ClientTransaction.Message

def begin : String :=
  "BEGIN"

def commit : String :=
  "COMMIT"

def rollback : String :=
  "ROLLBACK"

/-- The bookmark in a reply; a missing entry or one of another type is the empty bookmark. -/
def bookmark (metadata : Params) : Bookmark :=
  match metadata.get? "bookmark" with
  | some (.string value) => Bookmark.ofString value
  | _ => Bookmark.empty

/-- The names of the columns in a reply. Entries of other types are left out. -/
def fields (metadata : Params) : List String :=
  match metadata.get? "fields" with
  | some (.list items) => items.filterMap Value.asString?
  | _ => []

end ClientTransaction.Message
