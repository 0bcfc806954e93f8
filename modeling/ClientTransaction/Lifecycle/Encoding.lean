import ClientTransaction.Json.Text
import ClientTransaction.Json.Reader
import ClientTransaction.Lifecycle

/-!
# Lifecycle.Encoding — states as JSON

A state is written as its tag. It may be read also from an object with one entry, from the tag to
null.
-/

namespace ClientTransaction

namespace Json

/-- The tag of a choice that has no content. -/
def unitTag? : Json → Option String
  | .string text => text
  | .object [(key, .null)] => key
  | _ => none

end Json

namespace State

def toJson (s : State) : String :=
  Json.writeString s.tag

def decode? (text : String) : Option State :=
  (Json.read? text).bind fun json => json.unitTag?.bind ofTag?

end State

end ClientTransaction
