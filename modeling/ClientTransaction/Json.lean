/-!
# Json — documents before they are given a type

A reader of typed data decides what a number or a text means, and it may skip a part of a document
without giving it a meaning at all. So the tree keeps numbers as they are spelled, entries of an
object in their order with repetitions, and marks a text that has no meaning.
-/

namespace ClientTransaction

/-- A syntactically valid document. -/
inductive Json
  | null
  | bool (b : Bool)
  /-- A number by its spelling. -/
  | number (spelling : List Char)
  /-- A text; `none` when an escape in it names half of a surrogate pair. -/
  | string (text : Option String)
  | array (items : List Json)
  | object (entries : List (Option String × Json))
  deriving Repr, Inhabited

namespace Json

/-- How many arrays and objects may stand inside one another where they are given a type. -/
def depthLimit : Nat :=
  127

end Json

end ClientTransaction
