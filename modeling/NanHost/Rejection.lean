import NanHost.CipherSuite
import NanHost.Identifier
import NanHost.Lifecycle
import NanHost.Text.Quoted

/-!
# Rejections

Why a request is refused before anything is asked of the firmware. A rejection names its cause; the
words for it are chosen here and nowhere else. Each family of causes has a case `stated`, for a
reason that another layer gives in words of its own.
-/

namespace NanHost

/-! ## Causes -/

/-- What stands in the way of an operation that would otherwise be possible. -/
inductive Obstacle where
  | interface (phase : InterfacePhase)
  | sessionTerminating (session : SessionId)
  | updatePending (session : SessionId)
  | notAwaitingResponse (path : DataPathId)
  | dataPath (path : DataPathId) (state : DataPathState)
  | interfaceBeingDeleted (name : String)
  | interfaceInUse (name : String)
  | stated (text : String)
  deriving DecidableEq

/-- The words for an obstacle. -/
def Obstacle.text : Obstacle → String
  | interface phase => "interface " ++ phase.label
  | sessionTerminating session => s!"session {session} terminating"
  | updatePending session => s!"session {session} update pending"
  | notAwaitingResponse path => s!"data path {path} not awaiting a response"
  | dataPath path state => s!"data path {path} " ++ state.name
  | interfaceBeingDeleted name => "interface " ++ Text.Quoted.encode name ++ " being deleted"
  | interfaceInUse name => "interface " ++ Text.Quoted.encode name ++ " carries a data path"
  | stated text => text

/-- What is wrong with the security settings of a data path, whatever the firmware. -/
inductive SecurityFault where
  | pmkAndPassphrase
  | pmkLength (size : Nat)
  | passphraseForm
  | pmkidOnOpenPath
  | pmkidLength (size : Nat)
  | stated (text : String)
  deriving DecidableEq

/-- The words for a fault in security settings. -/
def SecurityFault.text : SecurityFault → String
  | pmkAndPassphrase => "both PMK and passphrase set"
  | pmkLength size => s!"PMK must be 32 bytes, got {size}"
  | passphraseForm => "passphrase must be 8..=63 ASCII characters"
  | pmkidOnOpenPath => "PMKID set on an open path"
  | pmkidLength size => s!"PMKID must be 16 bytes, got {size}"
  | stated text => text

/-- Why this firmware cannot secure a data path as asked. -/
inductive SecurityGap where
  | capabilitiesUnknown
  | suiteMissing (suite : CipherSuite)
  | stated (text : String)
  deriving DecidableEq

/-- The words for what the firmware lacks. -/
def SecurityGap.text : SecurityGap → String
  | capabilitiesUnknown => "firmware capabilities not yet known"
  | suiteMissing suite => "cipher suite " ++ suite.name ++ " not supported"
  | stated text => text

/-- A field whose length the firmware bounds. -/
inductive BoundedField where
  | serviceName
  | serviceSpecificInfo
  | matchFilter
  | message
  | appInfo
  deriving DecidableEq

/-- The name of a bounded field. -/
def BoundedField.label : BoundedField → String
  | serviceName => "service name"
  | serviceSpecificInfo => "service specific info"
  | matchFilter => "match filter"
  | message => "message"
  | appInfo => "app info"

/-- What is wrong with an argument. -/
inductive ArgumentFault where
  | emptyClusterRange (low high : UInt16)
  | instantChannelZero
  | instantModeUnsupported
  | emptyServiceName
  | tooLong (field : BoundedField) (limit : UInt64)
  | distancesCrossed (least most : UInt32)
  | interfaceNameLength
  | interfaceNameCharacters (name : String)
  | forcedWithoutChannel
  | stated (text : String)
  deriving DecidableEq

/-- The words for a fault in an argument. -/
def ArgumentFault.text : ArgumentFault → String
  | emptyClusterRange low high => s!"cluster range {low.toNat}..{high.toNat} is empty"
  | instantChannelZero => "instant mode channel must be non-zero"
  | instantModeUnsupported => "instant communication mode not supported"
  | emptyServiceName => "service name must not be empty"
  | tooLong field limit => field.label ++ s!" exceeds {limit.toNat} bytes"
  | distancesCrossed least most =>
    s!"min distance {least.toNat}mm exceeds max distance {most.toNat}mm"
  | interfaceNameLength => "interface name must be 1..=15 bytes"
  | interfaceNameCharacters name =>
    "interface name " ++ Text.Quoted.encode name ++ " contains invalid characters"
  | forcedWithoutChannel => "forced channel request without a channel"
  | stated text => text

/-- Something the firmware offers in limited number. -/
inductive Resource where
  | publishSession
  | subscribeSession
  | dataInterface
  | dataPath
  | stated (text : String)
  deriving DecidableEq

/-- The name of a limited resource. -/
def Resource.text : Resource → String
  | publishSession => "publish session"
  | subscribeSession => "subscribe session"
  | dataInterface => "data interface"
  | dataPath => "data path"
  | stated text => text

/-! ## Rejections -/

/-- Why a request is refused. -/
inductive Rejection where
  | invalidState (operation : CommandKind) (obstacle : Obstacle)
  | exhaustedIdSpace (pending : Nat)
  | unknownSession (session : SessionId)
  | unknownPeer (peer : PeerId)
  | unknownDataPath (path : DataPathId)
  | unknownInterface (name : String)
  | interfaceExists (name : String)
  | roleMismatch (session : SessionId) (expected : SessionRole)
  | invalidSecurity (fault : SecurityFault)
  | unsupportedSecurity (gap : SecurityGap)
  | invalidArgument (fault : ArgumentFault)
  | limitExceeded (resource : Resource) (limit : UInt32)
  /-- The way to the firmware refused the command; the reason is in its words. -/
  | transportRejected (kind : CommandKind) (reason : String)
  | engineStopped
  deriving DecidableEq

namespace Rejection

/-- The label under which rejections of one cause are counted. -/
def label : Rejection → String
  | invalidState .. => "invalid_state"
  | exhaustedIdSpace _ => "exhausted_id_space"
  | unknownSession _ => "unknown_session"
  | unknownPeer _ => "unknown_peer"
  | unknownDataPath _ => "unknown_data_path"
  | unknownInterface _ => "unknown_interface"
  | interfaceExists _ => "interface_exists"
  | roleMismatch .. => "role_mismatch"
  | invalidSecurity _ => "invalid_security_config"
  | unsupportedSecurity _ => "unsupported_security_config"
  | invalidArgument _ => "invalid_argument"
  | limitExceeded .. => "limit_exceeded"
  | transportRejected .. => "transport_rejected"
  | engineStopped => "engine_stopped"

/-- The rejection in words. -/
def message : Rejection → String
  | invalidState operation obstacle => s!"cannot {operation} while " ++ obstacle.text
  | exhaustedIdSpace pending => s!"transaction id space exhausted ({pending} pending)"
  | unknownSession session => s!"unknown discovery session {session}"
  | unknownPeer peer => s!"unknown peer instance {peer}"
  | unknownDataPath path => s!"unknown data path {path}"
  | unknownInterface name => "unknown data interface " ++ Text.Quoted.encode name
  | interfaceExists name => "data interface " ++ Text.Quoted.encode name ++ " already exists"
  | roleMismatch session expected => s!"session {session} is not a {expected.label} session"
  | invalidSecurity fault => "invalid security configuration: " ++ fault.text
  | unsupportedSecurity gap => "unsupported security configuration: " ++ gap.text
  | invalidArgument fault => "invalid argument: " ++ fault.text
  | limitExceeded resource limit => resource.text ++ s!" limit reached ({limit.toNat})"
  | transportRejected kind reason => s!"transport rejected {kind} command: " ++ reason
  | engineStopped => "engine stopped"

end Rejection

/-! ## Checks -/

/-- The verdict of a check: nothing, or the reason against. -/
abbrev Verdict := Except Rejection Unit

/-- A check that passes exactly when the condition holds. -/
def require (condition : Prop) [Decidable condition] (otherwise : Rejection) : Verdict :=
  if condition then .ok () else .error otherwise

@[simp] theorem require_eq_ok_iff {condition : Prop} [Decidable condition]
    {otherwise : Rejection} : require condition otherwise = .ok () ↔ condition := by
  unfold require; split <;> simp_all

@[simp] theorem require_eq_error_iff {condition : Prop} [Decidable condition]
    {otherwise rejection : Rejection} :
    require condition otherwise = .error rejection ↔ ¬ condition ∧ otherwise = rejection := by
  unfold require; split <;> simp_all

end NanHost
