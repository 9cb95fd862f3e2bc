import NanHost.Configuration
import NanHost.DataPath.Request
import NanHost.Discovery

/-!
# Requests

Everything a caller can ask of the engine.
-/

namespace NanHost

/-- A request of a caller. A session number of zero on `publish` and `subscribe` asks for a new
session; any other number asks to update the session of that number. -/
inductive Request where
  | getCapabilities
  | enable (request : EnableRequest)
  | disable
  | publish (sessionId : SessionId) (config : PublishConfig)
  | subscribe (sessionId : SessionId) (config : SubscribeConfig)
  | sendMessage (sessionId : SessionId) (peer : PeerId) (payload : ByteArray)
  | stopPublish (sessionId : SessionId)
  | stopSubscribe (sessionId : SessionId)
  | createInterface (name : String)
  | deleteInterface (name : String)
  | initiateDataPath (request : InitiateRequest)
  | respondDataPath (request : RespondRequest)
  | endDataPath (pathId : DataPathId)
  deriving DecidableEq

/-- The kind of command that carries the request to the firmware. -/
def Request.kind : Request → CommandKind
  | getCapabilities => .capabilities
  | enable _ => .configure
  | disable => .disable
  | publish .. => .publish
  | subscribe .. => .subscribe
  | sendMessage .. => .sendMessage
  | stopPublish _ => .stopPublish
  | stopSubscribe _ => .stopSubscribe
  | createInterface _ => .createInterface
  | deleteInterface _ => .deleteInterface
  | initiateDataPath _ => .initiateDataPath
  | respondDataPath _ => .respondDataPath
  | endDataPath _ => .endDataPath

end NanHost
