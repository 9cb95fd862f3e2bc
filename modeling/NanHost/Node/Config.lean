import NanHost.Config.Toml
import NanHost.FileTree
import NanHost.Telemetry
import NanHost.Text.Blank

/-!
# Configuration of a node

A node takes the settings of its engine from a file, if a variable names one, and two of them from
variables of their own, which win over the file. What results has to make sense as a whole.
-/

namespace NanHost

/-- What a node runs with. -/
structure NodeConfig where
  engine : EngineConfig
  telemetry : Telemetry
  /-- The file from which the settings of the engine were taken. -/
  path : Option String
  deriving DecidableEq

/-- Why a node cannot be configured. -/
inductive NodeConfigError where
  | engine (error : ConfigError)
  /-- A variable that should give a time does not. -/
  | invalidTime (name value : String)
  deriving DecidableEq

/-- An error of configuring a node in words. -/
def NodeConfigError.message : NodeConfigError → String
  | engine error => error.message
  | invalidTime name value => s!"{name}={value} is not a valid millisecond value"

namespace NodeConfig

/-- The number that digits spell, after a plus sign or none, if it fits into sixty-four bits. -/
def millis? (text : List Char) : Option UInt64 :=
  let digits := match text with
    | '+' :: rest => rest
    | _ => text
  if digits.isEmpty || !digits.all Char.isDigit then none
  else
    let value := digits.foldl (fun value digit => value * 10 + (digit.toNat - '0'.toNat)) 0
    if value < UInt64.size then some (UInt64.ofNat value) else none

/-- The engine with one setting taken from a variable, if there is such a variable. White space
around its value does not count. -/
def override (env : Variables) (name : String) (setting : EngineSetting)
    (engine : EngineConfig) : Except NodeConfigError EngineConfig :=
  match env name with
  | none => .ok engine
  | some value =>
    match millis? (Text.trim value.toList) with
    | some millis => .ok (engine.set setting millis)
    | none => .error (.invalidTime name value)

/-- The settings in the file at a path. -/
def engineAt (files : FileView) (path : String) : Except ConfigError EngineConfig :=
  match files.read path with
  | .ok content => EngineConfig.ofToml content
  | .error error => .error (.unreadable path error.message)

/-- What the variables and the files say. Telemetry is left as it is by default. -/
def load (env : Variables) (files : FileView) : Except NodeConfigError NodeConfig := do
  let path := (env "AWARE_CONFIG").filter (· ≠ "")
  let given ← match path with
    | some path => (engineAt files path).mapError NodeConfigError.engine
    | none => .ok .standard
  let timed ← override env "AWARE_TXN_TIMEOUT_MS" .transactionTimeoutMs given
  let engine ← override env "AWARE_RESPONSE_GRACE_MS" .responseGraceMs timed
  let valid ← engine.validate.mapError NodeConfigError.engine
  pure ⟨valid, .standard, path⟩

/-- What the variables and the files say, telemetry included. -/
def loadAll (env : Variables) (files : FileView) : Except NodeConfigError NodeConfig :=
  (load env files).map fun config =>
    { config with telemetry := .ofVariables env }

end NodeConfig

end NanHost
