import ClientTransaction.Bookmark

/-!
# Config — how a transaction begins

A configuration names the bookmark to wait for and the mode of access.
-/

namespace ClientTransaction

inductive AccessMode
  | readWrite
  | readOnly
  deriving DecidableEq, Repr, Inhabited

namespace AccessMode

/-- The name in stored data. -/
def tag : AccessMode → String
  | .readWrite => "read_write"
  | .readOnly => "read_only"

def ofTag? (tag : String) : Option AccessMode :=
  [readWrite, readOnly].find? fun mode => mode.tag = tag

end AccessMode

structure Config where
  bookmark : Bookmark := Bookmark.empty
  accessMode : AccessMode := .readWrite
  deriving DecidableEq, Repr, Inhabited

namespace Config

/-- What BEGIN is told: the bookmark, and the mode when it is not the usual one. -/
def beginParameters (c : Config) : Params :=
  match c.accessMode with
  | .readOnly => c.bookmark.beginParameters.insert "mode" (.string "r")
  | .readWrite => c.bookmark.beginParameters

/-! ## Building -/

/-- One setting of a configuration. -/
inductive Setting
  | accessMode (mode : AccessMode)
  | bookmark (bookmark : Bookmark)
  deriving Repr

def set (c : Config) : Setting → Config
  | .accessMode mode => { c with accessMode := mode }
  | .bookmark bookmark => { c with bookmark := bookmark }

/-- The default configuration with these settings, a later one overriding an earlier one. -/
def build (settings : List Setting) : Config :=
  settings.foldl set {}

end Config

end ClientTransaction
