import ClientTransaction.Config.Json
import ClientTransaction.Config.Toml

/-!
# Config.Source — ways to name a configuration

A configuration is read from a text or built from settings. What cannot be read is reported by the
format of the text.
-/

namespace ClientTransaction.Config

/-- A text that cannot be read, by its format. -/
inductive Unreadable
  | json
  | toml
  deriving DecidableEq, Repr

inductive SettingSource
  | accessMode (mode : AccessMode)
  | bookmark (source : Bookmark.Source)
  deriving Repr

inductive Source
  | json (text : String)
  | toml (text : String)
  | settings (settings : List SettingSource)
  deriving Repr

def settingOfSource : SettingSource → Except Unreadable Setting
  | .accessMode mode => .ok (.accessMode mode)
  | .bookmark source =>
      match Bookmark.ofSource? source with
      | some b => .ok (.bookmark b)
      | none => .error .json

/-- The settings that are named, up to the first that cannot be read. -/
def settingsOfSources : List SettingSource → Except Unreadable (List Setting)
  | [] => .ok []
  | source :: rest =>
      match settingOfSource source, settingsOfSources rest with
      | .ok setting, .ok settings => .ok (setting :: settings)
      | .error e, _ => .error e
      | _, .error e => .error e

def ofSource : Source → Except Unreadable Config
  | .json text => (decode? text).elim (.error .json) .ok
  | .toml text => (ofToml? text).elim (.error .toml) .ok
  | .settings sources => (settingsOfSources sources).map build

end ClientTransaction.Config
