import NanHost.CommandKind

/-!
# Life cycles

The stages through which the radio interface, a discovery session and a data path go, and the two
roles a session can have. The stages are declared apart from the tables that move through them,
since the reason for a refusal names them too.
-/

namespace NanHost

/-- The stage of the radio interface. The three `…ing` stages last as long as the command that
caused them is unanswered. -/
inductive InterfacePhase where
  | disabled
  | enabling
  | enabled
  | reconfiguring
  | disabling
  deriving DecidableEq

/-- The word for a stage of the interface. -/
def InterfacePhase.label : InterfacePhase → String
  | disabled => "disabled"
  | enabling => "enabling"
  | enabled => "enabled"
  | reconfiguring => "reconfiguring"
  | disabling => "disabling"

/-- Which side of a service a discovery session is on. -/
inductive SessionRole where
  | publisher
  | subscriber
  deriving DecidableEq

namespace SessionRole

/-- The word for a role, which is what its session does. -/
def label : SessionRole → String
  | publisher => "publish"
  | subscriber => "subscribe"

/-- The command that starts or updates a session of this role. -/
def startKind : SessionRole → CommandKind
  | publisher => .publish
  | subscriber => .subscribe

/-- The command that stops a session of this role. -/
def stopKind : SessionRole → CommandKind
  | publisher => .stopPublish
  | subscriber => .stopSubscribe

end SessionRole

/-- The stage of a discovery session that the firmware has numbered. -/
inductive SessionState where
  | active
  | terminating
  | terminated
  deriving DecidableEq

/-- The word for a stage of a session. -/
def SessionState.label : SessionState → String
  | active => "active"
  | terminating => "terminating"
  | terminated => "terminated"

/-- The stage of a data path that the firmware has numbered. -/
inductive DataPathState where
  /-- Asked for from here; the peer has not answered. -/
  | requested
  /-- Asked for by the peer; the way is not up yet. -/
  | awaitingLocalResponse
  | confirmed
  | terminated
  deriving DecidableEq

/-- The word for a stage of a data path. -/
def DataPathState.label : DataPathState → String
  | requested => "requested"
  | awaitingLocalResponse => "awaiting_local_response"
  | confirmed => "confirmed"
  | terminated => "terminated"

/-- The name of a stage of a data path, as diagnostics write it. -/
def DataPathState.name : DataPathState → String
  | requested => "Requested"
  | awaitingLocalResponse => "AwaitingLocalResponse"
  | confirmed => "Confirmed"
  | terminated => "Terminated"

/-- Who asked for a data path. -/
inductive DataPathOrigin where
  | here
  | peer
  deriving DecidableEq

end NanHost
