import NanHost.Configuration

/-!
# The radio interface

The interface is down, up, or on its way between the two while a command about it is unanswered.
A configuration is *staged* when it is sent and *applied* when the firmware confirms it; a failed
change leaves the applied one as it was. The firmware can take the interface down at any time.
-/

namespace NanHost

/-- The radio interface: its stage, the configuration in force, and the one on its way. -/
structure Interface where
  phase : InterfacePhase
  applied : Option EnableRequest
  staged : Option EnableRequest
  deriving DecidableEq

namespace Interface

/-- The interface before it is first enabled. -/
def down : Interface := ⟨.disabled, none, none⟩

/-- Whether the interface is up and no command about it is unanswered. -/
def isEnabled (interface : Interface) : Bool := interface.phase = .enabled

/-- Whether no command about the interface is unanswered. -/
def isQuiescent (interface : Interface) : Bool :=
  interface.phase = .enabled ∨ interface.phase = .disabled

/-- The clusters and bands in force. -/
def config (interface : Interface) : Option ClusterConfig := interface.applied.map (·.config)

/-- Whether the caller wants to hear of changes of the discovery address. -/
def identityChangeNotify (interface : Interface) : Bool :=
  interface.applied.any (·.notifyIdentityChange)

/-- Whether ranging is on. -/
def rangingEnabled (interface : Interface) : Bool := interface.applied.any (·.rangingEnabled)

/-- The channel of the instant communication mode, if the mode is on. -/
def instantModeChannel (interface : Interface) : Option UInt32 :=
  interface.applied.bind (·.instantChannelMHz)

/-- How often the discovery address changes; zero if the interface is not configured. -/
def macRandomizationIntervalSec (interface : Interface) : UInt32 :=
  (interface.applied.map (·.macRandomizationIntervalSec)).getD 0

/-- The refusal of an operation on account of the stage of the interface. -/
def invalid (interface : Interface) (operation : CommandKind) : Rejection :=
  .invalidState operation (.interface interface.phase)

/-- Whether an operation that needs the interface up can go ahead. -/
def requireEnabled (interface : Interface) (operation : CommandKind) : Verdict :=
  require interface.isEnabled (interface.invalid operation)

/-- Whether an operation that needs the interface at rest can go ahead. -/
def requireQuiescent (interface : Interface) (operation : CommandKind) : Verdict :=
  require interface.isQuiescent (interface.invalid operation)

/-- Whether the interface can be configured now, and if so whether for the first time since it was
down. -/
def checkEnable (interface : Interface) : Except Rejection Bool :=
  match interface.phase with
  | .disabled => .ok true
  | .enabled => .ok false
  | _ => .error (interface.invalid .configure)

/-- Stages a configuration that was sent to the firmware. -/
def beginEnable (interface : Interface) (request : EnableRequest) : Interface :=
  { interface with
    phase := if interface.phase = .disabled then .enabling else .reconfiguring
    staged := some request }

/-- Ends a configuration that was under way, and tells whether it was the first since the interface
was down; tells nothing if none was under way. -/
def completeEnable (interface : Interface) (success : Bool) : Option Bool × Interface :=
  match interface.phase with
  | .enabling =>
    (some true,
      if success then ⟨.enabled, interface.staged, none⟩
      else ⟨.disabled, interface.applied, none⟩)
  | .reconfiguring =>
    (some false,
      if success then ⟨.enabled, interface.staged, none⟩
      else ⟨.enabled, interface.applied, none⟩)
  | _ => (none, interface)

/-- Whether the interface can be disabled now. -/
def checkDisable (interface : Interface) : Verdict := interface.requireEnabled .disable

/-- Marks that the firmware was asked to take the interface down. -/
def beginDisable (interface : Interface) : Interface := { interface with phase := .disabling }

/-- Ends a disabling that was under way, and tells whether the interface is down because of it. -/
def completeDisable (interface : Interface) (success : Bool) : Bool × Interface :=
  if interface.phase = .disabling then
    if success then (true, { interface with phase := .disabled, applied := none })
    else (false, { interface with phase := .enabled })
  else (false, interface)

/-- Takes the interface down at once, and tells whether it was anything but down before. -/
def forceDown (interface : Interface) : Bool × Interface :=
  (interface.phase ≠ .disabled, down)

end Interface

end NanHost
