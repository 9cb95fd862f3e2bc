import NanHost.Command
import NanHost.Engine

/-!
# Admission of requests

A request is admitted in three steps. `vet` decides on the engine's state alone whether it can go
ahead, and if so what to hand to the firmware; it changes nothing. The command is then filed and
handed over. Only when that has gone well does `stage` enter the request into the tables, so that a
request refused at any point has left no trace.
-/

namespace NanHost

/-- A command that is ready to be handed over, with what it is about. -/
structure Dispatch where
  command : Command
  context : PendingContext
  deriving DecidableEq

namespace Engine

/-- Whether a session can be started or updated. -/
def vetDiscovery (engine : Engine) (id : SessionId) (config : DiscoveryConfig) :
    Except Rejection Dispatch := do
  engine.interface.requireEnabled config.role.startKind
  config.validate engine.capabilities.snapshot
  if id.isAssigned then
    engine.sessions.checkUpdate id config.role
    pure ⟨.ofDiscovery id config, .session id⟩
  else
    engine.sessions.checkCapacity config.role engine.capabilities.snapshot
    pure ⟨.ofDiscovery id config, .newSession config.role⟩

/-- Whether a message can be sent; if so, its command carries the peer's latest address. -/
def vetMessage (engine : Engine) (id : SessionId) (peer : PeerId) (payload : ByteArray) :
    Except Rejection Dispatch := do
  engine.interface.requireEnabled .sendMessage
  let address ← engine.sessions.checkMessage id peer payload.size.toUInt64
    engine.capabilities.snapshot
  pure ⟨.sendMessage id peer address payload, .session id⟩

/-- Whether a session of a role can be stopped. -/
def vetStop (engine : Engine) (id : SessionId) (role : SessionRole) (command : Command) :
    Except Rejection Dispatch := do
  engine.interface.requireEnabled role.stopKind
  engine.sessions.checkStop id role
  pure ⟨command, .session id⟩

/-- Whether a data interface can be created. -/
def vetCreate (engine : Engine) (name : String) : Except Rejection Dispatch := do
  checkInterfaceName name
  engine.interface.requireQuiescent .createInterface
  engine.dataInterfaces.checkCreate name engine.capabilities.snapshot
  pure ⟨.createInterface name, .dataInterface name⟩

/-- Whether a data interface can be deleted: no path may run over it. -/
def vetDelete (engine : Engine) (name : String) : Except Rejection Dispatch := do
  engine.interface.requireQuiescent .deleteInterface
  engine.dataInterfaces.checkDelete name
  require (!engine.paths.usesInterface name) (.invalidState .deleteInterface (.interfaceInUse name))
  pure ⟨.deleteInterface name, .dataInterface name⟩

/-- Whether a peer can be asked for a data path. -/
def vetInitiate (engine : Engine) (request : InitiateRequest) : Except Rejection Dispatch := do
  request.validate
  engine.interface.requireEnabled .initiateDataPath
  require (request.isOutOfBand ∨ engine.sessions.knowsPeer request.peerId)
    (.unknownPeer request.peerId)
  engine.dataInterfaces.requireReady request.interfaceName
  request.security.checkSupported engine.capabilities.snapshot
  engine.paths.checkInitiate request.appInfo.size.toUInt64 engine.capabilities.snapshot
  pure ⟨.initiateDataPath request engine.capabilities.snapshot, .newDataPath⟩

/-- Whether an acceptance can be carried out here: over its interface, and secured as it says. -/
def checkAcceptance (engine : Engine) (request : RespondRequest) : Verdict := do
  engine.dataInterfaces.requireReady request.interfaceName
  request.security.checkSupported engine.capabilities.snapshot

/-- Whether a peer's request for a data path can be answered. -/
def vetRespond (engine : Engine) (request : RespondRequest) : Except Rejection Dispatch := do
  request.validate
  engine.interface.requireEnabled .respondDataPath
  engine.paths.checkRespond request engine.capabilities.snapshot
  if request.accept then engine.checkAcceptance request
  pure ⟨.respondDataPath request engine.capabilities.snapshot, .dataPath request.pathId⟩

/-- Whether a request can go ahead, and if so what to hand to the firmware. -/
def vet (engine : Engine) : Request → Except Rejection Dispatch
  | .getCapabilities => pure ⟨.getCapabilities, .interface⟩
  | .enable request => do
    let initial ← engine.interface.checkEnable
    request.validate engine.capabilities.snapshot
    pure ⟨.enable request initial, .interface⟩
  | .disable => do
    engine.interface.checkDisable
    pure ⟨.disable, .interface⟩
  | .publish id config => engine.vetDiscovery id (.publish config)
  | .subscribe id config => engine.vetDiscovery id (.subscribe config)
  | .sendMessage id peer payload => engine.vetMessage id peer payload
  | .stopPublish id => engine.vetStop id .publisher (.stopPublish id)
  | .stopSubscribe id => engine.vetStop id .subscriber (.stopSubscribe id)
  | .createInterface name => engine.vetCreate name
  | .deleteInterface name => engine.vetDelete name
  | .initiateDataPath request => engine.vetInitiate request
  | .respondDataPath request => engine.vetRespond request
  | .endDataPath id => do
    engine.interface.requireEnabled .endDataPath
    engine.paths.checkEnd id
    pure ⟨.endDataPath id, .dataPath id⟩

/-- Enters a start or an update into the registry. -/
def stageDiscovery (engine : Engine) (txn : TransactionId) (id : SessionId)
    (config : DiscoveryConfig) : Engine :=
  { engine with
    sessions :=
      if id.isAssigned then engine.sessions.beginUpdate id txn config
      else engine.sessions.beginNew txn config }

/-- Enters a request into the tables once its command is with the firmware. -/
def stage (engine : Engine) (txn : TransactionId) : Request → Engine
  | .getCapabilities => engine
  | .enable request => { engine with interface := engine.interface.beginEnable request }
  | .disable => { engine with interface := engine.interface.beginDisable }
  | .publish id config => engine.stageDiscovery txn id (.publish config)
  | .subscribe id config => engine.stageDiscovery txn id (.subscribe config)
  | .sendMessage id _ _ => { engine with sessions := engine.sessions.attach id txn }
  | .stopPublish id | .stopSubscribe id =>
    { engine with sessions := engine.sessions.beginStop id txn }
  | .createInterface name =>
    { engine with dataInterfaces := engine.dataInterfaces.beginCreate name txn }
  | .deleteInterface name =>
    { engine with dataInterfaces := engine.dataInterfaces.beginDelete name txn }
  | .initiateDataPath request => { engine with paths := engine.paths.beginInitiate txn request }
  | .respondDataPath request => { engine with paths := engine.paths.beginRespond txn request }
  | .endDataPath id => { engine with paths := engine.paths.beginEnd id txn }

end Engine

end NanHost
