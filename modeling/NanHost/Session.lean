import NanHost.Discovery
import NanHost.MacAddress
import NanHost.Timestamp

/-!
# Discovery sessions

A service that is being published or sought under a number of the firmware's. A session knows the
peers it has met, the commands about it that are unanswered, and the configuration it will take on
if the update under way succeeds. A terminated session stays on record as long as a command about it
is unanswered, so that its number cannot be taken for that of a newer session.
-/

namespace NanHost

/-- A peer that a session has met, as it was seen last. -/
structure PeerRecord where
  peer : PeerId
  address : MacAddress
  serviceSpecificInfo : ByteArray
  matchFilter : ByteArray
  lastSeen : Timestamp
  deriving DecidableEq

/-- A discovery session that the firmware has numbered. -/
structure Session where
  id : SessionId
  role : SessionRole
  config : DiscoveryConfig
  state : SessionState
  peers : Std.ExtTreeMap PeerId PeerRecord
  /-- The commands about this session that are unanswered. -/
  inFlight : Std.ExtTreeSet TransactionId
  /-- The configuration under way, and the command that carries it. -/
  pendingUpdate : Option (TransactionId × DiscoveryConfig)
  deriving DecidableEq

namespace Session

/-- A session that the firmware has just numbered. -/
def started (id : SessionId) (config : DiscoveryConfig) : Session :=
  ⟨id, config.role, config, .active, ∅, ∅, none⟩

/-- Whether the session can be used. -/
def isActive (session : Session) : Bool := session.state = .active

/-- Whether the session is not terminated yet. -/
def isLive (session : Session) : Bool := session.state ≠ .terminated

/-- Whether nothing is left to keep the session on record for. -/
def isDone (session : Session) : Bool := session.state = .terminated && session.inFlight.isEmpty

/-- Whether an update is under way. -/
def hasPendingUpdate (session : Session) : Bool := session.pendingUpdate.isSome

/-- Notes a command about this session. -/
def attach (session : Session) (id : TransactionId) : Session :=
  { session with inFlight := session.inFlight.insert id }

/-- Strikes a command about this session off. -/
def detach (session : Session) (id : TransactionId) : Session :=
  { session with inFlight := session.inFlight.erase id }

/-- The session after a match: all that is known of the peer is replaced. -/
def recordMatch (session : Session) (peer : PeerId) (address : MacAddress)
    (serviceSpecificInfo matchFilter : ByteArray) (now : Timestamp) : Session :=
  { session with
    peers := session.peers.insert peer ⟨peer, address, serviceSpecificInfo, matchFilter, now⟩ }

/-- The session after a message: the peer's address and the time are replaced, and what a match told
of it before is kept. -/
def recordMessage (session : Session) (peer : PeerId) (address : MacAddress) (now : Timestamp) :
    Session :=
  let known := session.peers[peer]?
  { session with
    peers := session.peers.insert peer
      ⟨peer, address, (known.map (·.serviceSpecificInfo)).getD .empty,
        (known.map (·.matchFilter)).getD .empty, now⟩ }

/-- Takes on the configuration that the command carried, if the session still waits for it. -/
def adoptUpdate (session : Session) (id : TransactionId) : Session :=
  match session.pendingUpdate with
  | some (carrier, config) => if carrier = id then { session with config := config } else session
  | none => session

/-- Forgets the configuration that the command carried. -/
def dropUpdate (session : Session) (id : TransactionId) : Session :=
  match session.pendingUpdate with
  | some (carrier, _) => if carrier = id then { session with pendingUpdate := none } else session
  | none => session

end Session

end NanHost
