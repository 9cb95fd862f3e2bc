import NanHost.CipherSuite

/-!
# Capabilities

What the firmware says it can do: how many sessions and paths it carries at once, how long names
and payloads may be, which cipher suites it knows. The engine keeps the latest report; until the
first one arrives no limit is enforced, and no secured path is opened.
-/

namespace NanHost

/-- The limits and features that the firmware reports. -/
structure Capabilities where
  maxConcurrentClusters : UInt32
  maxPublishes : UInt32
  maxSubscribes : UInt32
  maxServiceNameLen : UInt64
  maxMatchFilterLen : UInt64
  maxServiceSpecificInfoLen : UInt64
  maxDataInterfaces : UInt32
  maxDataPaths : UInt32
  maxAppInfoLen : UInt64
  maxQueuedTransmitMessages : UInt32
  supportedCipherSuites : CipherSuites
  instantCommunicationSupported : Bool
  deriving DecidableEq

/-- The report of a modest chip, which stands in where none is given. -/
def Capabilities.standard : Capabilities where
  maxConcurrentClusters := 1
  maxPublishes := 8
  maxSubscribes := 8
  maxServiceNameLen := 255
  maxMatchFilterLen := 255
  maxServiceSpecificInfoLen := 255
  maxDataInterfaces := 1
  maxDataPaths := 8
  maxAppInfoLen := 255
  maxQueuedTransmitMessages := 6
  supportedCipherSuites := CipherSuites.ofList [.sharedKey128, .sharedKey256]
  instantCommunicationSupported := false

instance : Inhabited Capabilities := ⟨Capabilities.standard⟩

/-- The latest report, if one has arrived. -/
structure CapabilityCache where
  snapshot : Option Capabilities
  deriving DecidableEq

namespace CapabilityCache

/-- A cache to which nothing has been reported. -/
def empty : CapabilityCache := ⟨none⟩

/-- The cache after a report; an earlier one is forgotten. -/
def store (_ : CapabilityCache) (report : Capabilities) : CapabilityCache := ⟨some report⟩

/-- Whether a report has arrived. -/
def isPopulated (cache : CapabilityCache) : Bool := cache.snapshot.isSome

end CapabilityCache

end NanHost
