/-!
# Configuration of the engine

How long the firmware and the peers may take to answer, how many commands may be out at once, how
often deadlines are looked after, and how long the queues to the engine are.
-/

namespace NanHost

/-- What can be set for an engine. -/
structure EngineConfig where
  transactionTimeoutMs : UInt64
  responseGraceMs : UInt64
  maxPendingTransactions : UInt64
  tickIntervalMs : UInt64
  commandQueueCapacity : UInt64
  eventQueueCapacity : UInt64
  deriving DecidableEq

/-- One of the settings of an engine. -/
inductive EngineSetting where
  | transactionTimeoutMs
  | responseGraceMs
  | maxPendingTransactions
  | tickIntervalMs
  | commandQueueCapacity
  | eventQueueCapacity
  deriving DecidableEq

namespace EngineSetting

/-- The name under which a setting is written down. -/
def key : EngineSetting → String
  | transactionTimeoutMs => "transaction_timeout_ms"
  | responseGraceMs => "response_grace_ms"
  | maxPendingTransactions => "max_pending_transactions"
  | tickIntervalMs => "tick_interval_ms"
  | commandQueueCapacity => "command_queue_capacity"
  | eventQueueCapacity => "event_queue_capacity"

/-- Every setting, in the order in which a list of values gives them. -/
def all : List EngineSetting :=
  [transactionTimeoutMs, responseGraceMs, maxPendingTransactions, tickIntervalMs,
    commandQueueCapacity, eventQueueCapacity]

/-- The setting of a given name, if there is one. -/
def ofKey? (text : String) : Option EngineSetting := all.find? fun setting => setting.key == text

end EngineSetting

/-- Why a configuration cannot be used. -/
inductive ConfigError where
  /-- The file that should hold it cannot be read. -/
  | unreadable (path reason : String)
  /-- The text that should describe it is malformed. -/
  | malformed (reason : String)
  /-- What it says makes no sense. -/
  | invalid (reason : String)
  deriving DecidableEq

/-- An error about a configuration in words. -/
def ConfigError.message : ConfigError → String
  | unreadable path reason => s!"failed to read {path}: {reason}"
  | malformed reason => "failed to parse config: " ++ reason
  | invalid reason => "invalid config: " ++ reason

namespace EngineConfig

/-- What an engine runs with unless told otherwise. -/
def standard : EngineConfig where
  transactionTimeoutMs := 5000
  responseGraceMs := 10000
  maxPendingTransactions := 65535
  tickIntervalMs := 250
  commandQueueCapacity := 256
  eventQueueCapacity := 1024

/-- Short times and short queues, for trying an engine out. -/
def brisk : EngineConfig where
  transactionTimeoutMs := 100
  responseGraceMs := 200
  maxPendingTransactions := 64
  tickIntervalMs := 10
  commandQueueCapacity := 16
  eventQueueCapacity := 64

instance : Inhabited EngineConfig := ⟨standard⟩

/-- The configuration with one setting changed. -/
def set (config : EngineConfig) (setting : EngineSetting) (value : UInt64) : EngineConfig :=
  match setting with
  | .transactionTimeoutMs => { config with transactionTimeoutMs := value }
  | .responseGraceMs => { config with responseGraceMs := value }
  | .maxPendingTransactions => { config with maxPendingTransactions := value }
  | .tickIntervalMs => { config with tickIntervalMs := value }
  | .commandQueueCapacity => { config with commandQueueCapacity := value }
  | .eventQueueCapacity => { config with eventQueueCapacity := value }

/-- The configuration with settings changed one after the other. -/
def setAll (config : EngineConfig) (values : List (EngineSetting × UInt64)) : EngineConfig :=
  values.foldl (fun config entry => config.set entry.1 entry.2) config

/-- The first thing that makes no sense in the configuration, if there is one. -/
def fault? (config : EngineConfig) : Option String :=
  if config.transactionTimeoutMs = 0 then some "transaction_timeout_ms must be positive"
  else if config.responseGraceMs = 0 then some "response_grace_ms must be positive"
  else if config.maxPendingTransactions = 0 ∨ 65535 < config.maxPendingTransactions then
    some "max_pending_transactions must be 1..=65535"
  else if config.tickIntervalMs = 0 then some "tick_interval_ms must be positive"
  else if config.commandQueueCapacity = 0 ∨ config.eventQueueCapacity = 0 then
    some "queue capacities must be positive"
  else none

/-- The configuration, if it makes sense. -/
def validate (config : EngineConfig) : Except ConfigError EngineConfig :=
  match config.fault? with
  | some reason => .error (.invalid reason)
  | none => .ok config

end EngineConfig

end NanHost
