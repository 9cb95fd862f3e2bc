import NanHost.Config
import NanHost.DataInterface
import NanHost.DataPath.Table
import NanHost.Interface
import NanHost.Ledger
import NanHost.Session.Registry

/-!
# The engine

The state from which every decision is taken: the commands that are out with the firmware, what the
firmware can do, and the stages of the interface, the data interfaces, the sessions and the data
paths. Nothing else is remembered; the clock, the way to the firmware and the caller's ears are
outside.
-/

namespace NanHost

/-- The state of an engine. -/
structure Engine where
  config : EngineConfig
  ledger : Ledger
  capabilities : CapabilityCache
  interface : Interface
  dataInterfaces : DataInterfaceTable
  sessions : SessionRegistry
  paths : DataPathTable
  deriving DecidableEq

namespace Engine

/-- An engine that has not been asked for anything. -/
def new (config : EngineConfig) : Engine where
  config := config
  ledger := .new config.maxPendingTransactions config.transactionTimeoutMs
  capabilities := .empty
  interface := .down
  dataInterfaces := .empty
  sessions := .empty
  paths := .new config.responseGraceMs

end Engine

end NanHost
