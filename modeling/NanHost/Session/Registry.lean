import NanHost.Failure
import NanHost.Session

/-!
# The registry of discovery sessions

The sessions by number, and the starts that the firmware has not answered yet by the command that
carries them. Every operation about a command comes in two halves: `begin…` when the command has
been handed to the firmware, `resolve…` when it has ended. What a session may be asked for is
decided before, by the `check…` of the operation.
-/

namespace NanHost

/-- The discovery sessions and the starts under way. -/
structure SessionRegistry where
  sessions : Std.ExtTreeMap SessionId Session
  starting : Std.ExtTreeMap TransactionId DiscoveryConfig
  deriving DecidableEq

/-- What the firmware's report that a session ended amounts to. -/
inductive SessionEnd where
  /-- The caller has not asked for it, and has to be told. -/
  | unasked (role : SessionRole)
  /-- The caller has asked for it. -/
  | asked
  /-- There is no such session. -/
  | unknown
  deriving DecidableEq

namespace SessionRegistry

/-- No session. -/
def empty : SessionRegistry := ⟨∅, ∅⟩

/-- The session of a number. -/
def get? (registry : SessionRegistry) (id : SessionId) : Option Session := registry.sessions[id]?

/-- The sessions in the order of their numbers. -/
def toList (registry : SessionRegistry) : List Session := registry.sessions.toList.map (·.2)

/-- How many sessions are active. -/
def activeCount (registry : SessionRegistry) : Nat := registry.toList.countP (·.isActive)

/-- How many starts are under way. -/
def startingCount (registry : SessionRegistry) : Nat := registry.starting.size

/-- Whether there is neither a session nor a start under way. -/
def isEmpty (registry : SessionRegistry) : Bool :=
  registry.sessions.isEmpty && registry.starting.isEmpty

/-- How many sessions of a role are live or being started. -/
def liveCount (registry : SessionRegistry) (role : SessionRole) : Nat :=
  registry.toList.countP (fun session => session.role = role && session.isLive) +
    registry.starting.toList.countP (fun row => row.2.role = role)

/-- Removes the session if nothing is left to keep it on record for. -/
def purge (registry : SessionRegistry) (id : SessionId) : SessionRegistry :=
  match registry.get? id with
  | some session =>
    if session.isDone then { registry with sessions := registry.sessions.erase id } else registry
  | none => registry

/-- Puts a session's new state in the place of its old one. -/
def put (registry : SessionRegistry) (id : SessionId) (session : Session) : SessionRegistry :=
  { registry with sessions := registry.sessions.insert id session }

/-- Changes the session of a number, if there is one. -/
def update (registry : SessionRegistry) (id : SessionId) (change : Session → Session) :
    SessionRegistry :=
  { registry with sessions := registry.sessions.modify id change }

/-! ## Checks -/

/-- The session of a number, unless it is terminated. -/
def live (registry : SessionRegistry) (id : SessionId) : Except Rejection Session :=
  match registry.get? id with
  | some session => if session.isLive then .ok session else .error (.unknownSession id)
  | none => .error (.unknownSession id)

/-- Whether a session has the role that the operation is for. -/
def checkRole (session : Session) (role : SessionRole) : Verdict :=
  require (session.role = role) (.roleMismatch session.id role)

/-- Whether the firmware, as far as it is known, carries one more session of the role. -/
def checkCapacity (registry : SessionRegistry) (role : SessionRole)
    (capabilities : Option Capabilities) : Verdict :=
  capabilities.forM fun known =>
    match role with
    | .publisher =>
      require (registry.liveCount role < known.maxPublishes.toNat)
        (.limitExceeded .publishSession known.maxPublishes)
    | .subscriber =>
      require (registry.liveCount role < known.maxSubscribes.toNat)
        (.limitExceeded .subscribeSession known.maxSubscribes)

/-- Whether a session can be given a new configuration. -/
def checkUpdate (registry : SessionRegistry) (id : SessionId) (role : SessionRole) : Verdict := do
  let session ← registry.live id
  checkRole session role
  require (session.state ≠ .terminating) (.invalidState role.startKind (.sessionTerminating id))
  require (!session.hasPendingUpdate) (.invalidState role.startKind (.updatePending id))

/-- Whether a session can be stopped. -/
def checkStop (registry : SessionRegistry) (id : SessionId) (role : SessionRole) : Verdict := do
  let session ← registry.live id
  checkRole session role
  require (session.state ≠ .terminating) (.invalidState role.stopKind (.sessionTerminating id))

/-- Whether a message can be sent, and to which address: the session has to be active, to have met
the peer, and the firmware, as far as it is known, to take so many bytes. -/
def checkMessage (registry : SessionRegistry) (id : SessionId) (peer : PeerId)
    (payloadSize : UInt64) (capabilities : Option Capabilities) : Except Rejection MacAddress :=
  match registry.get? id with
  | none => .error (.unknownSession id)
  | some session =>
    if session.isActive then
      match session.peers[peer]? with
      | none => .error (.unknownPeer peer)
      | some known => do
        capabilities.forM fun limits =>
          require (payloadSize ≤ limits.maxServiceSpecificInfoLen)
            (.invalidArgument (.tooLong .message limits.maxServiceSpecificInfoLen))
        pure known.address
    else .error (.unknownSession id)

/-- Whether some active session has met the peer. -/
def knowsPeer (registry : SessionRegistry) (peer : PeerId) : Bool :=
  registry.toList.any fun session => session.isActive && session.peers.contains peer

/-! ## Starts -/

/-- Enters a start that was sent to the firmware. -/
def beginNew (registry : SessionRegistry) (id : TransactionId) (config : DiscoveryConfig) :
    SessionRegistry :=
  { registry with starting := registry.starting.insert id config }

/-- Ends a start. It becomes a session if the firmware gave it a number that is neither zero nor
taken; otherwise nothing is left of it. -/
def resolveNew (registry : SessionRegistry) (id : TransactionId)
    (assigned : Except Failure SessionId) :
    Except Failure (SessionId × SessionRole) × SessionRegistry :=
  match registry.starting[id]? with
  | none => (.error .aborted, registry)
  | some config =>
    let rest := { registry with starting := registry.starting.erase id }
    match assigned with
    | .error failure => (.error failure, rest)
    | .ok session =>
      if !session.isAssigned then (.error (.invalidAnswer .sessionIdZero), rest)
      else if rest.sessions.contains session then
        (.error (.invalidAnswer .duplicateSessionId), rest)
      else (.ok (session, config.role), rest.put session (.started session config))

/-! ## Updates -/

/-- Enters an update that was sent to the firmware. -/
def beginUpdate (registry : SessionRegistry) (session : SessionId) (id : TransactionId)
    (config : DiscoveryConfig) : SessionRegistry :=
  registry.update session fun entry =>
    { entry.attach id with pendingUpdate := some (id, config) }

/-- Ends an update. The session takes the new configuration on if the firmware agreed and the
session is still active. -/
def resolveUpdate (registry : SessionRegistry) (session : SessionId) (id : TransactionId)
    (outcome : Except Failure Unit) : Except Failure Unit × SessionRegistry :=
  match registry.get? session with
  | none => (.error .aborted, registry)
  | some entry =>
    let settled := (entry.detach id).dropUpdate id
    if entry.isActive then
      match outcome with
      | .ok () =>
        let agreed := { settled with config := (entry.adoptUpdate id).config }
        (.ok (), (registry.put session agreed).purge session)
      | .error failure => (.error failure, (registry.put session settled).purge session)
    else (.error .aborted, (registry.put session settled).purge session)

/-! ## Messages and other commands about a session -/

/-- Notes a command about the session. -/
def attach (registry : SessionRegistry) (session : SessionId) (id : TransactionId) :
    SessionRegistry :=
  registry.update session (·.attach id)

/-- Strikes a command about the session off, and tells whether the session is active. -/
def detach (registry : SessionRegistry) (session : SessionId) (id : TransactionId) :
    Bool × SessionRegistry :=
  ((registry.get? session).any (·.isActive), (registry.update session (·.detach id)).purge session)

/-! ## Stops -/

/-- Marks a session whose stop was sent to the firmware. -/
def beginStop (registry : SessionRegistry) (session : SessionId) (id : TransactionId) :
    SessionRegistry :=
  registry.update session fun entry => { entry.attach id with state := .terminating }

/-- Ends a stop: the session is terminated, whatever the firmware answered. Tells whether there was
such a session. -/
def resolveStop (registry : SessionRegistry) (session : SessionId) (id : TransactionId) :
    Bool × SessionRegistry :=
  ((registry.get? session).isSome,
    (registry.update session fun entry => { entry.detach id with state := .terminated }).purge
      session)

/-! ## Reports of the firmware -/

/-- Notes a match, and tells whether there is an active session for it. -/
def onMatch (registry : SessionRegistry) (session : SessionId) (peer : PeerId)
    (address : MacAddress) (serviceSpecificInfo matchFilter : ByteArray) (now : Timestamp) :
    Bool × SessionRegistry :=
  match registry.get? session with
  | some entry =>
    if entry.isActive then
      (true, registry.put session
        (entry.recordMatch peer address serviceSpecificInfo matchFilter now))
    else (false, registry)
  | none => (false, registry)

/-- Notes who sent a message, and tells whether there is an active session for it. -/
def onMessage (registry : SessionRegistry) (session : SessionId) (peer : PeerId)
    (address : MacAddress) (now : Timestamp) : Bool × SessionRegistry :=
  match registry.get? session with
  | some entry =>
    if entry.isActive then (true, registry.put session (entry.recordMessage peer address now))
    else (false, registry)
  | none => (false, registry)

/-- Notes that the firmware ended a session, and tells what that amounts to. -/
def onTerminated (registry : SessionRegistry) (session : SessionId) :
    SessionEnd × SessionRegistry :=
  match registry.get? session with
  | none => (.unknown, registry)
  | some entry =>
    let terminated := { entry with state := .terminated, peers := ∅ }
    let ended := (registry.put session terminated).purge session
    match entry.state with
    | .active => (.unasked entry.role, ended)
    | .terminating => (.asked, ended)
    | .terminated => (.unknown, registry)

/-- Removes everything, and lists the sessions that were not terminated yet. -/
def terminateAll (registry : SessionRegistry) : List (SessionId × SessionRole) × SessionRegistry :=
  ((registry.toList.filter (·.isLive)).map fun session => (session.id, session.role), empty)

end SessionRegistry

end NanHost
