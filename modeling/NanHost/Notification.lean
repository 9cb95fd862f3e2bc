import NanHost.Bytes
import NanHost.Capabilities
import NanHost.CommandKind
import NanHost.Failure
import NanHost.Lifecycle
import NanHost.MacAddress
import NanHost.Outcome

/-!
# Notifications

What the engine tells its caller after a request was accepted: how each command ended, and what
happened to sessions and data paths without the caller asking for it.
-/

namespace NanHost

/-- What a command achieved. -/
inductive CompletionDetail where
  | capabilities (capabilities : Capabilities)
  | enabled (initial : Bool)
  | disabled
  | sessionStarted (sessionId : SessionId) (role : SessionRole)
  | sessionUpdated (sessionId : SessionId)
  | messageSent
  | sessionStopped (sessionId : SessionId)
  | interfaceCreated (name : String)
  | interfaceDeleted (name : String)
  | dataPathInitiated (pathId : DataPathId)
  | dataPathResponded (pathId : DataPathId) (accepted : Bool)
  | dataPathEnded (pathId : DataPathId)
  deriving DecidableEq

/-- The end of an accepted command. -/
structure Completion where
  id : TransactionId
  kind : CommandKind
  result : Except Failure CompletionDetail
  deriving DecidableEq

namespace Completion

/-- Whether the command succeeded. -/
def isSuccess (completion : Completion) : Bool := completion.result.isOk

/-- The label under which completions of one outcome are counted. -/
def outcomeLabel (completion : Completion) : String :=
  match completion.result with
  | .ok _ => "success"
  | .error failure => failure.label

end Completion

/-- Why a session or a data path ended without its caller asking for it. -/
inductive TerminationReason where
  | firmware (status : FirmwareStatus)
  | interfaceDisabled
  | interfaceDown
  | responseTimeout
  | rejected (status : FirmwareStatus)
  | setupFailed
  deriving DecidableEq

/-- The label of a reason. -/
def TerminationReason.label : TerminationReason → String
  | firmware _ => "firmware"
  | interfaceDisabled => "interface_disabled"
  | interfaceDown => "interface_down"
  | responseTimeout => "response_timeout"
  | rejected _ => "rejected"
  | setupFailed => "setup_failed"

/-- What the engine tells its caller. -/
inductive Notification where
  | completed (completion : Completion)
  | matchFound (sessionId : SessionId) (peer : PeerId) (peerAddress : MacAddress)
      (serviceSpecificInfo : ByteArray)
  | messageReceived (sessionId : SessionId) (peer : PeerId) (payload : ByteArray)
  | sessionTerminated (sessionId : SessionId) (role : SessionRole) (reason : TerminationReason)
  | dataPathRequested (pathId : DataPathId) (peer : PeerId) (peerAddress : MacAddress)
      (appInfo : ByteArray)
  | dataPathConfirmed (pathId : DataPathId) (peerInterface : MacAddress) (appInfo : ByteArray)
  | dataPathTerminated (pathId : DataPathId) (reason : TerminationReason)
  | identityChanged (address : MacAddress)
  | interfaceDown (status : FirmwareStatus)
  deriving DecidableEq

namespace Notification

/-- The completion that a notification reports, if it reports one. -/
def completion? : Notification → Option Completion
  | completed completion => some completion
  | _ => none

/-- Whether a notification reports a completion. -/
def isCompletion (notification : Notification) : Bool := notification.completion?.isSome

end Notification

end NanHost
