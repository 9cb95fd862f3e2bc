import NanHost.Config
import NanHost.Toml.Document

/-!
# A configuration in TOML

The settings of the engine are looked for in the table `engine`, under their names. What is not
there stays as it is by default, and what else is there is passed over. In the place of the table
there may be a list that starts with the values of all settings in order. A date counts as a table
without settings.
-/

namespace NanHost.EngineConfig

/-- The value of a setting: an integer that is not negative. -/
def tomlValue? : Toml → Option UInt64
  | .integer value => if 0 ≤ value then some (UInt64.ofNat value.toNat) else none
  | _ => none

/-- The settings in a table. -/
def tomlSettings? (entries : Toml.Entries) : Option (List (EngineSetting × UInt64)) :=
  (entries.filterMap fun entry =>
    (EngineSetting.ofKey? entry.1).map fun setting => (setting, entry.2)).mapM fun entry =>
      (tomlValue? entry.2).map fun value => (entry.1, value)

/-- The settings in the value of `engine`. -/
def tomlEngine? : Toml → Option (List (EngineSetting × UInt64))
  | .table _ entries => tomlSettings? entries
  | .dateTime => some []
  | .list items =>
    if items.length < EngineSetting.all.length then none
    else ((items.take EngineSetting.all.length).mapM tomlValue?).map EngineSetting.all.zip
  | _ => none

/-- The settings in a document. -/
def tomlDocument? (entries : Toml.Entries) : Option (List (EngineSetting × UInt64)) :=
  match entries.lookup "engine" with
  | some value => tomlEngine? value
  | none => some []

/-- The configuration that a TOML text describes, if it makes sense. -/
def ofToml (text : String) : Except ConfigError EngineConfig :=
  match (Toml.read? text).bind tomlDocument? with
  | some settings => (standard.setAll settings).validate
  | none => .error (.malformed "not a description of an engine in TOML")

end NanHost.EngineConfig
