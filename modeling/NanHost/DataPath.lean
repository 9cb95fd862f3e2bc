import NanHost.DataPath.Request
import NanHost.Timestamp

/-!
# Data paths

A connection to a peer over a data interface, under a number of the firmware's. A path asked for
from here is confirmed by the peer; a path asked for by a peer has to be accepted here first, within
a grace period. A terminated path stays on record as long as a command about it is unanswered, so
that its number cannot be taken for that of a newer path.
-/

namespace NanHost

/-- A data path that the firmware has numbered. -/
structure DataPath where
  id : DataPathId
  origin : DataPathOrigin
  peerId : PeerId
  peerAddress : MacAddress
  interfaceName : Option String
  channelRequestType : ChannelRequestType
  channelMHz : Option UInt32
  security : DataPathSecurity
  appInfo : ByteArray
  state : DataPathState
  /-- The peer's end of the path, once it is confirmed. -/
  peerInterface : Option MacAddress
  /-- Until when the peer's request has to be answered, while it has not been. -/
  responseDeadline : Option Timestamp
  /-- The answer given to the peer's request: accepted or refused. -/
  response : Option Bool
  /-- Whether the caller has asked to end the path. -/
  endPending : Bool
  /-- The commands about this path that are unanswered. -/
  inFlight : Std.ExtTreeSet TransactionId
  deriving DecidableEq

namespace DataPath

/-- A path asked for from here, as the firmware has just numbered it. -/
def initiated (id : DataPathId) (request : InitiateRequest) : DataPath where
  id := id
  origin := .here
  peerId := request.peerId
  peerAddress := request.peerAddress
  interfaceName := some request.interfaceName
  channelRequestType := request.channelRequestType
  channelMHz := request.channelMHz
  security := request.security
  appInfo := request.appInfo
  state := .requested
  peerInterface := none
  responseDeadline := none
  response := none
  endPending := false
  inFlight := ∅

/-- A path that a peer asks for, to be answered by the deadline. -/
def requestedByPeer (id : DataPathId) (peerId : PeerId) (peerAddress : MacAddress)
    (appInfo : ByteArray) (deadline : Timestamp) : DataPath where
  id := id
  origin := .peer
  peerId := peerId
  peerAddress := peerAddress
  interfaceName := none
  channelRequestType := .available
  channelMHz := none
  security := .unsecured
  appInfo := appInfo
  state := .awaitingLocalResponse
  peerInterface := none
  responseDeadline := some deadline
  response := none
  endPending := false
  inFlight := ∅

/-- Whether the path is not terminated yet. -/
def isLive (path : DataPath) : Bool := path.state ≠ .terminated

/-- Whether the path is up. -/
def isConfirmed (path : DataPath) : Bool := path.state = .confirmed

/-- Whether nothing is left to keep the path on record for. -/
def isDone (path : DataPath) : Bool := path.state = .terminated && path.inFlight.isEmpty

/-- Whether the path's request by the peer is still open: not answered, and no end asked for. -/
def awaitsAnswer (path : DataPath) : Bool :=
  path.state = .awaitingLocalResponse && path.response.isNone && !path.endPending

/-- Whether a confirmation can be for this path: it was asked for from here, or it was accepted
here. -/
def isConfirmable (path : DataPath) : Bool :=
  match path.state with
  | .requested => true
  | .awaitingLocalResponse => path.response = some true
  | .confirmed | .terminated => false

/-- Whether the peer's request has gone unanswered past its deadline. -/
def isOverdue (path : DataPath) (now : Timestamp) : Bool :=
  path.state = .awaitingLocalResponse && path.responseDeadline.any fun deadline => deadline ≤ now

/-- Notes a command about this path. -/
def attach (path : DataPath) (id : TransactionId) : DataPath :=
  { path with inFlight := path.inFlight.insert id }

/-- Strikes a command about this path off. -/
def detach (path : DataPath) (id : TransactionId) : DataPath :=
  { path with inFlight := path.inFlight.erase id }

/-- The path, down. -/
def terminated (path : DataPath) : DataPath := { path with state := .terminated }

/-- The path, no longer waiting to be answered. -/
def withoutDeadline (path : DataPath) : DataPath := { path with responseDeadline := none }

/-- The path, up, with what the peer said when it confirmed. -/
def confirmed (path : DataPath) (peerInterface : MacAddress) (appInfo : ByteArray) : DataPath :=
  { path with state := .confirmed, peerInterface := some peerInterface, appInfo := appInfo }

/-- The path after the answer to the peer was sent. A refused path is down at once, and carries no
interface any more. -/
def answered (path : DataPath) (request : RespondRequest) : DataPath :=
  let settled := { path with response := some request.accept, responseDeadline := none }
  if request.accept then
    { settled with
      interfaceName := some request.interfaceName
      security := request.security
      appInfo := request.appInfo }
  else { settled with state := .terminated, interfaceName := none }

end DataPath

end NanHost
