import NanHost.Bytes
import NanHost.Capabilities
import NanHost.Rejection

/-!
# What is published and sought

The two sides of service discovery: a service published, and a service subscribed to. Both carry a
name, information for the other side and a match filter, whose lengths the firmware bounds.
-/

namespace NanHost

/-- How a service makes itself known. -/
inductive PublishType where
  | unsolicited
  | solicited
  | both
  deriving DecidableEq

/-- The word for a way to make a service known. -/
def PublishType.label : PublishType → String
  | unsolicited => "unsolicited"
  | solicited => "solicited"
  | both => "both"

/-- How a service is sought. -/
inductive SubscribeType where
  | passive
  | active
  deriving DecidableEq

/-- The word for a way to seek a service. -/
def SubscribeType.label : SubscribeType → String
  | passive => "passive"
  | active => "active"

/-- A service to publish. -/
structure PublishConfig where
  serviceName : String
  serviceSpecificInfo : ByteArray
  matchFilter : ByteArray
  publishType : PublishType
  ttlSec : UInt32
  terminationNotification : Bool
  rangingEnabled : Bool
  deriving DecidableEq

/-- A service to subscribe to. -/
structure SubscribeConfig where
  serviceName : String
  serviceSpecificInfo : ByteArray
  matchFilter : ByteArray
  subscribeType : SubscribeType
  ttlSec : UInt32
  terminationNotification : Bool
  minDistanceMm : Option UInt32
  maxDistanceMm : Option UInt32
  deriving DecidableEq

/-- Whether the fields common to both sides are in order: a name there must be, and the lengths
must stay within the firmware's limits once those are known. Lengths are counted in bytes. -/
def checkDiscoveryFields (serviceName : String) (serviceSpecificInfo matchFilter : ByteArray)
    (capabilities : Option Capabilities) : Verdict := do
  require (serviceName ≠ "") (.invalidArgument .emptyServiceName)
  capabilities.forM fun known => do
    require (serviceName.utf8ByteSize ≤ known.maxServiceNameLen.toNat)
      (.invalidArgument (.tooLong .serviceName known.maxServiceNameLen))
    require (serviceSpecificInfo.size ≤ known.maxServiceSpecificInfoLen.toNat)
      (.invalidArgument (.tooLong .serviceSpecificInfo known.maxServiceSpecificInfoLen))
    require (matchFilter.size ≤ known.maxMatchFilterLen.toNat)
      (.invalidArgument (.tooLong .matchFilter known.maxMatchFilterLen))

namespace PublishConfig

/-- Nothing set. -/
def blank : PublishConfig := ⟨"", .empty, .empty, .unsolicited, 0, false, false⟩

/-- A service of the given name that reports its termination. -/
def named (serviceName : String) : PublishConfig :=
  { blank with serviceName := serviceName, terminationNotification := true }

/-- Whether the service can be published. -/
def validate (config : PublishConfig) (capabilities : Option Capabilities) : Verdict :=
  checkDiscoveryFields config.serviceName config.serviceSpecificInfo config.matchFilter
    capabilities

end PublishConfig

namespace SubscribeConfig

/-- Nothing set. -/
def blank : SubscribeConfig := ⟨"", .empty, .empty, .passive, 0, false, none, none⟩

/-- A service of the given name whose end is reported. -/
def named (serviceName : String) : SubscribeConfig :=
  { blank with serviceName := serviceName, terminationNotification := true }

/-- Whether the bounds on the distance, if both are given, leave a distance between them. -/
def checkDistances (config : SubscribeConfig) : Verdict :=
  match config.minDistanceMm, config.maxDistanceMm with
  | some least, some most =>
    require (least ≤ most) (.invalidArgument (.distancesCrossed least most))
  | _, _ => .ok ()

/-- Whether the service can be subscribed to. -/
def validate (config : SubscribeConfig) (capabilities : Option Capabilities) : Verdict := do
  checkDiscoveryFields config.serviceName config.serviceSpecificInfo config.matchFilter
    capabilities
  config.checkDistances

end SubscribeConfig

/-- What a discovery session is about. -/
inductive DiscoveryConfig where
  | publish (config : PublishConfig)
  | subscribe (config : SubscribeConfig)
  deriving DecidableEq

namespace DiscoveryConfig

/-- The side of discovery the session is on. -/
def role : DiscoveryConfig → SessionRole
  | publish _ => .publisher
  | subscribe _ => .subscriber

/-- The name of the service. -/
def serviceName : DiscoveryConfig → String
  | publish config => config.serviceName
  | subscribe config => config.serviceName

/-- Whether a session can be about this. -/
def validate (config : DiscoveryConfig) (capabilities : Option Capabilities) : Verdict :=
  match config with
  | publish config => config.validate capabilities
  | subscribe config => config.validate capabilities

end DiscoveryConfig

end NanHost
