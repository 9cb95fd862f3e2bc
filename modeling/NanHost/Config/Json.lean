import NanHost.Config
import NanHost.Json.Grammar

/-!
# A configuration in JSON

A configuration of the engine is an object with the settings under their names, or a list of their
values in order. Settings not given stay as they are by default. An object may hold other members,
which are passed over, but no setting twice; a list may not hold more values than there are
settings.
-/

namespace NanHost.EngineConfig

open Scanner

/-- The value of a setting. -/
def jsonValue : Scanner UInt64 := do
  let value ← Json.Grammar.natural
  ensure (value < UInt64.size)
  pure (UInt64.ofNat value)

/-- A member: a setting with its value, or something else. -/
def jsonMember : Scanner (Option (EngineSetting × UInt64)) :=
  Json.Grammar.memberOf Json.Grammar.text fun key =>
    match EngineSetting.ofKey? key with
    | some setting => (fun value => some (setting, value)) <$> jsonValue
    | none => (fun _ => none) <$> Json.Grammar.skipValue

/-- The settings in an object, each given once at most. -/
def jsonObject : Scanner (List (EngineSetting × UInt64)) := do
  let members ← Json.Grammar.bracketed '\x7b' '\x7d' jsonMember
  let settings := members.filterMap id
  ensure (settings.map (·.1)).Nodup
  pure settings

/-- The settings in a list. -/
def jsonList : Scanner (List (EngineSetting × UInt64)) := do
  let values ← Json.Grammar.bracketed '[' ']' jsonValue
  ensure (values.length ≤ EngineSetting.all.length)
  pure (EngineSetting.all.zip values)

/-- The configuration that a JSON text describes; whether it makes sense is not asked. -/
def ofJson? (text : String) : Option EngineConfig :=
  (readAll? (do
    Json.Grammar.blanks
    let settings ← jsonObject <|> jsonList
    Json.Grammar.blanks
    pure settings) text).map standard.setAll

end NanHost.EngineConfig
