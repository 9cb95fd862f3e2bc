import NanHost.Event
import NanHost.Notification
import NanHost.Report

/-!
# Reports on events and notifications

What the firmware told the host, and what the host told its caller.
-/

namespace NanHost

/-! ## Firmware events -/

/-- What a positive answer brings. -/
def AnswerPayload.content : AnswerPayload → List (String × Json)
  | empty => [member "payload" "empty"]
  | capabilities known => [member "payload" "capabilities", member "capabilities" known]
  | sessionId session => [member "payload" "session_id", member "session_id" session]
  | pathId path => [member "payload" "ndp_id", member "ndp_id" path]

/-- What an event tells. -/
def FirmwareEvent.content : FirmwareEvent → List (String × Json)
  | commandCompleted id (.error status) => [member "txn" id, member "fail" status]
  | commandCompleted id (.ok payload) => member "txn" id :: payload.content
  | sessionMatched session peer address info filter =>
    [member "session_id" session, member "peer" peer, member "peer_address" address,
      member "service_specific_info" info, member "match_filter" filter]
  | messageReceived session peer address payload =>
    [member "session_id" session, member "peer" peer, member "peer_address" address,
      member "payload" payload]
  | sessionTerminated session status => [member "session_id" session, member "status" status]
  | dataPathRequested path peer address info =>
    [member "ndp_id" path, member "peer_id" peer, member "peer_address" address,
      member "app_info" info]
  | dataPathConfirmed path accepted peerInterface info status =>
    [member "ndp_id" path, member "accepted" accepted, member "peer_ndi" peerInterface,
      member "app_info" info, member "status" status]
  | dataPathTerminated path status => [member "ndp_id" path, member "status" status]
  | identityChanged address => [member "address" address]
  | interfaceDown status => [member "status" status]

instance : Reported FirmwareEvent :=
  ⟨fun event => .object (member "event" event.name :: event.content)⟩

/-! ## Notifications -/

/-- What is said of a failure. -/
def Failure.content (failure : Failure) : List (String × Json) :=
  [member "error" failure.label, member "message" failure.message]

instance : Reported Failure := ⟨fun failure => .object failure.content⟩

/-- What is said of the reason why a session or a data path ended. -/
def TerminationReason.content (reason : TerminationReason) : List (String × Json) :=
  member "reason" reason.label :: match reason with
    | firmware status | rejected status => [member "status" status]
    | interfaceDisabled | interfaceDown | responseTimeout | setupFailed => []

/-- What is said of the achievement of a command. -/
def CompletionDetail.content : CompletionDetail → List (String × Json)
  | capabilities known => [member "detail" "capabilities", member "capabilities" known]
  | enabled initial => [member "detail" "enabled", member "initial" initial]
  | disabled => [member "detail" "disabled"]
  | sessionStarted session role =>
    [member "detail" "session_started", member "session_id" session, member "role" role]
  | sessionUpdated session => [member "detail" "session_updated", member "session_id" session]
  | messageSent => [member "detail" "message_sent"]
  | sessionStopped session => [member "detail" "session_stopped", member "session_id" session]
  | interfaceCreated name => [member "detail" "interface_created", member "name" name]
  | interfaceDeleted name => [member "detail" "interface_deleted", member "name" name]
  | dataPathInitiated path => [member "detail" "data_path_initiated", member "ndp_id" path]
  | dataPathResponded path accepted =>
    [member "detail" "data_path_responded", member "ndp_id" path, member "accepted" accepted]
  | dataPathEnded path => [member "detail" "data_path_ended", member "ndp_id" path]

/-- What is said of the end of a command. -/
def Completion.content (completion : Completion) : List (String × Json) :=
  member "txn" completion.id :: member "kind" completion.kind :: match completion.result with
    | .ok detail => detail.content
    | .error failure => failure.content

/-- What a notification says. -/
def Notification.content : Notification → List (String × Json)
  | completed completion => member "note" "completed" :: completion.content
  | matchFound session peer address info =>
    [member "note" "match_found", member "session_id" session, member "peer" peer,
      member "peer_address" address, member "service_specific_info" info]
  | messageReceived session peer payload =>
    [member "note" "message_received", member "session_id" session, member "peer" peer,
      member "payload" payload]
  | sessionTerminated session role reason =>
    member "note" "session_terminated" :: member "session_id" session :: member "role" role ::
      reason.content
  | dataPathRequested path peer address info =>
    [member "note" "data_path_requested", member "ndp_id" path, member "peer_id" peer,
      member "peer_address" address, member "app_info" info]
  | dataPathConfirmed path peerInterface info =>
    [member "note" "data_path_confirmed", member "ndp_id" path,
      member "peer_ndi" peerInterface, member "app_info" info]
  | dataPathTerminated path reason =>
    member "note" "data_path_terminated" :: member "ndp_id" path :: reason.content
  | identityChanged address => [member "note" "identity_changed", member "address" address]
  | interfaceDown status => [member "note" "interface_down", member "status" status]

instance : Reported Notification := ⟨fun notification => .object notification.content⟩

end NanHost
