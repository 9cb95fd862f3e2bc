import NanHost.Request

/-!
# Commands

What the engine hands to the firmware. A command carries all that the firmware needs: besides the
caller's request, the address of a message's receiver, or the capabilities under which a data path
was checked.
-/

namespace NanHost

/-- A command to the firmware. -/
inductive Command where
  | getCapabilities
  | enable (request : EnableRequest) (initialConfiguration : Bool)
  | disable
  | publish (sessionId : SessionId) (config : PublishConfig)
  | subscribe (sessionId : SessionId) (config : SubscribeConfig)
  | sendMessage (sessionId : SessionId) (peer : PeerId) (peerAddress : MacAddress)
      (payload : ByteArray)
  | stopPublish (sessionId : SessionId)
  | stopSubscribe (sessionId : SessionId)
  | createInterface (name : String)
  | deleteInterface (name : String)
  | initiateDataPath (request : InitiateRequest) (capabilities : Option Capabilities)
  | respondDataPath (request : RespondRequest) (capabilities : Option Capabilities)
  | endDataPath (pathId : DataPathId)
  deriving DecidableEq

namespace Command

/-- The command that starts or updates a session about the given service. -/
def ofDiscovery (sessionId : SessionId) : DiscoveryConfig → Command
  | .publish config => publish sessionId config
  | .subscribe config => subscribe sessionId config

/-- The kind of a command. -/
def kind : Command → CommandKind
  | getCapabilities => .capabilities
  | enable .. => .configure
  | disable => .disable
  | publish .. => .publish
  | subscribe .. => .subscribe
  | sendMessage .. => .sendMessage
  | stopPublish _ => .stopPublish
  | stopSubscribe _ => .stopSubscribe
  | createInterface _ => .createInterface
  | deleteInterface _ => .deleteInterface
  | initiateDataPath .. => .initiateDataPath
  | respondDataPath .. => .respondDataPath
  | endDataPath _ => .endDataPath

end Command

end NanHost
