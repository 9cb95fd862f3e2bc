import NanHost.Capabilities
import NanHost.Rejection

/-!
# Configuration of the radio interface

What a caller may set when it enables the interface or changes it while it is up: bands, the range
of clusters to join, discovery windows, power, ranging, the instant communication mode.
-/

namespace NanHost

/-- Bands, master preference, clusters and discovery windows. -/
structure ClusterConfig where
  support5GHz : Bool
  support6GHz : Bool
  masterPreference : UInt8
  clusterLow : UInt16
  clusterHigh : UInt16
  discoveryWindow24GHz : Option UInt8
  discoveryWindow5GHz : Option UInt8
  deriving DecidableEq

namespace ClusterConfig

/-- Both lower bands, the lowest preference, any cluster. -/
def standard : ClusterConfig where
  support5GHz := true
  support6GHz := false
  masterPreference := 0
  clusterLow := 0
  clusterHigh := 0xffff
  discoveryWindow24GHz := none
  discoveryWindow5GHz := none

/-- Whether some cluster can be joined at all. -/
def validate (config : ClusterConfig) : Verdict :=
  require (config.clusterLow ≤ config.clusterHigh)
    (.invalidArgument (.emptyClusterRange config.clusterLow config.clusterHigh))

end ClusterConfig

/-- How often the radio wakes, and how it listens. -/
structure PowerParameters where
  discoveryWindow24GHz : UInt32
  discoveryWindow5GHz : UInt32
  discoveryWindow6GHz : UInt32
  discoveryBeaconIntervalMs : UInt32
  spatialStreamsInDiscovery : UInt32
  earlyDiscoveryWindowTermination : Bool
  deriving DecidableEq

/-- Everything left to the firmware. -/
def PowerParameters.standard : PowerParameters := ⟨0, 0, 0, 0, 0, false⟩

/-- A request to enable the interface, or to change its configuration while it is enabled. -/
structure EnableRequest where
  config : ClusterConfig
  notifyIdentityChange : Bool
  rangingEnabled : Bool
  /-- The channel of the instant communication mode, in MHz; absent when the mode is off. -/
  instantChannelMHz : Option UInt32
  macRandomizationIntervalSec : UInt32
  power : PowerParameters
  deriving DecidableEq

namespace EnableRequest

/-- The plainest request. -/
def standard : EnableRequest := ⟨.standard, false, false, none, 0, .standard⟩

instance : Inhabited EnableRequest := ⟨standard⟩

/-- Whether the request makes sense, and the firmware, as far as it is known, offers the instant
communication mode if it is asked for. -/
def validate (request : EnableRequest) (capabilities : Option Capabilities) : Verdict := do
  request.config.validate
  request.instantChannelMHz.forM fun channel => do
    require (channel ≠ 0) (.invalidArgument .instantChannelZero)
    capabilities.forM fun known =>
      require known.instantCommunicationSupported (.invalidArgument .instantModeUnsupported)

end EnableRequest

end NanHost
