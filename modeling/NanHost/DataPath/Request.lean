import NanHost.MacAddress
import NanHost.Security

/-!
# Requests about data paths

A data path is asked for from here (`InitiateRequest`), or asked for by a peer and answered from
here (`RespondRequest`). Either way it runs over a named data interface.
-/

namespace NanHost

/-- How binding the channel of a data path is. -/
inductive ChannelRequestType where
  | available
  | requested
  | forced
  deriving DecidableEq

/-- The word for how binding the channel is. -/
def ChannelRequestType.label : ChannelRequestType → String
  | available => "available"
  | requested => "requested"
  | forced => "forced"

/-- The most bytes the name of a data interface may have. -/
def maxInterfaceNameSize : Nat := 15

/-- Whether a name may hold the character: a visible ASCII character other than the slash. -/
def isInterfaceNameChar (c : Char) : Bool :=
  0x21 ≤ c.toNat && c.toNat ≤ 0x7e && c ≠ '/'

/-- Whether a data interface may be called so. -/
def checkInterfaceName (name : String) : Verdict := do
  require (name ≠ "" ∧ name.utf8ByteSize ≤ maxInterfaceNameSize)
    (.invalidArgument .interfaceNameLength)
  require (name.toList.all isInterfaceNameChar) (.invalidArgument (.interfaceNameCharacters name))

/-- A data path to ask a peer for. -/
structure InitiateRequest where
  peerId : PeerId
  peerAddress : MacAddress
  channelRequestType : ChannelRequestType
  channelMHz : Option UInt32
  interfaceName : String
  appInfo : ByteArray
  security : DataPathSecurity
  deriving DecidableEq

namespace InitiateRequest

/-- Whether the peer is known by its address alone, and not through a discovery session. -/
def isOutOfBand (request : InitiateRequest) : Bool := !request.peerId.isAssociated

/-- Whether the request makes sense by itself. -/
def validate (request : InitiateRequest) : Verdict := do
  request.security.validate
  checkInterfaceName request.interfaceName
  require (request.channelRequestType ≠ .forced ∨ request.channelMHz.isSome)
    (.invalidArgument .forcedWithoutChannel)

end InitiateRequest

/-- The answer to a data path that a peer asks for. -/
structure RespondRequest where
  pathId : DataPathId
  accept : Bool
  interfaceName : String
  appInfo : ByteArray
  security : DataPathSecurity
  deriving DecidableEq

namespace RespondRequest

/-- A refusal, which needs no more than the number of the path. -/
def refusal (pathId : DataPathId) : RespondRequest :=
  ⟨pathId, false, "", .empty, .unsecured⟩

/-- Whether the answer makes sense by itself; a refusal always does. -/
def validate (request : RespondRequest) : Verdict :=
  if request.accept then do
    request.security.validate
    checkInterfaceName request.interfaceName
  else .ok ()

end RespondRequest

end NanHost
