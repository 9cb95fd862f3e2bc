import NanHost.Bytes
import NanHost.Capabilities
import NanHost.MacAddress
import NanHost.Outcome

/-!
# Firmware events

What the firmware reports: the answers to commands, and what happens on the air of its own accord.
-/

namespace NanHost

/-- What a positive answer brings. -/
inductive AnswerPayload where
  | empty
  | capabilities (capabilities : Capabilities)
  | sessionId (id : SessionId)
  | pathId (id : DataPathId)
  deriving DecidableEq

/-- A report of the firmware. -/
inductive FirmwareEvent where
  | commandCompleted (id : TransactionId) (outcome : Except FirmwareStatus AnswerPayload)
  | sessionMatched (sessionId : SessionId) (peer : PeerId) (peerAddress : MacAddress)
      (serviceSpecificInfo matchFilter : ByteArray)
  | messageReceived (sessionId : SessionId) (peer : PeerId) (peerAddress : MacAddress)
      (payload : ByteArray)
  | sessionTerminated (sessionId : SessionId) (status : FirmwareStatus)
  | dataPathRequested (pathId : DataPathId) (peer : PeerId) (peerAddress : MacAddress)
      (appInfo : ByteArray)
  | dataPathConfirmed (pathId : DataPathId) (accepted : Bool) (peerInterface : MacAddress)
      (appInfo : ByteArray) (status : FirmwareStatus)
  | dataPathTerminated (pathId : DataPathId) (status : FirmwareStatus)
  | identityChanged (address : MacAddress)
  | interfaceDown (status : FirmwareStatus)
  deriving DecidableEq

/-- The name of an event. -/
def FirmwareEvent.name : FirmwareEvent → String
  | commandCompleted .. => "command_completed"
  | sessionMatched .. => "session_matched"
  | messageReceived .. => "message_received"
  | sessionTerminated .. => "session_terminated"
  | dataPathRequested .. => "data_path_requested"
  | dataPathConfirmed .. => "data_path_confirmed"
  | dataPathTerminated .. => "data_path_terminated"
  | identityChanged _ => "identity_changed"
  | interfaceDown _ => "interface_down"

end NanHost
