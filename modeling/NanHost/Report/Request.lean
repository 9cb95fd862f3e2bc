import NanHost.Command
import NanHost.Report

/-!
# Reports on requests and commands

The settings of the interface, of services and of data paths, and the commands that carry them to
the firmware.
-/

namespace NanHost.Reported

instance : Reported ClusterConfig := ⟨fun config => .object [
  member "support_5ghz" config.support5GHz,
  member "support_6ghz" config.support6GHz,
  member "master_preference" config.masterPreference,
  member "cluster_low" config.clusterLow,
  member "cluster_high" config.clusterHigh,
  member "discovery_window_24ghz" config.discoveryWindow24GHz,
  member "discovery_window_5ghz" config.discoveryWindow5GHz]⟩

instance : Reported PowerParameters := ⟨fun power => .object [
  member "discovery_window_24ghz" power.discoveryWindow24GHz,
  member "discovery_window_5ghz" power.discoveryWindow5GHz,
  member "discovery_window_6ghz" power.discoveryWindow6GHz,
  member "discovery_beacon_interval_ms" power.discoveryBeaconIntervalMs,
  member "spatial_streams_in_discovery" power.spatialStreamsInDiscovery,
  member "early_discovery_window_termination" power.earlyDiscoveryWindowTermination]⟩

instance : Reported EnableRequest := ⟨fun request => .object [
  member "config" request.config,
  member "notify_identity_change" request.notifyIdentityChange,
  member "ranging_enabled" request.rangingEnabled,
  member "instant_channel_mhz" request.instantChannelMHz,
  member "mac_randomization_interval_sec" request.macRandomizationIntervalSec,
  member "power" request.power]⟩

instance : Reported PublishType := ⟨reportAs PublishType.label⟩
instance : Reported SubscribeType := ⟨reportAs SubscribeType.label⟩
instance : Reported ChannelRequestType := ⟨reportAs ChannelRequestType.label⟩

instance : Reported PublishConfig := ⟨fun config => .object [
  member "service_name" config.serviceName,
  member "service_specific_info" config.serviceSpecificInfo,
  member "match_filter" config.matchFilter,
  member "publish_type" config.publishType,
  member "ttl_sec" config.ttlSec,
  member "termination_notification" config.terminationNotification,
  member "ranging_enabled" config.rangingEnabled]⟩

instance : Reported SubscribeConfig := ⟨fun config => .object [
  member "service_name" config.serviceName,
  member "service_specific_info" config.serviceSpecificInfo,
  member "match_filter" config.matchFilter,
  member "subscribe_type" config.subscribeType,
  member "ttl_sec" config.ttlSec,
  member "termination_notification" config.terminationNotification,
  member "min_distance_mm" config.minDistanceMm,
  member "max_distance_mm" config.maxDistanceMm]⟩

instance : Reported DiscoveryConfig := ⟨fun
  | .publish config => report config
  | .subscribe config => report config⟩

/-- Settings of security are reported in full; diagnostics that must not show secrets use
`DataPathSecurity.debugText`. -/
instance : Reported DataPathSecurity := ⟨fun security => .object [
  member "cipher_suite" security.cipherSuite,
  member "pmk" security.pmk,
  member "passphrase" security.passphrase,
  member "pmkid" security.pmkid]⟩

instance : Reported InitiateRequest := ⟨fun request => .object [
  member "peer_id" request.peerId,
  member "peer_address" request.peerAddress,
  member "channel_request_type" request.channelRequestType,
  member "channel_mhz" request.channelMHz,
  member "interface_name" request.interfaceName,
  member "app_info" request.appInfo,
  member "security" request.security]⟩

instance : Reported RespondRequest := ⟨fun request => .object [
  member "ndp_id" request.pathId,
  member "accept" request.accept,
  member "interface_name" request.interfaceName,
  member "app_info" request.appInfo,
  member "security" request.security]⟩

end NanHost.Reported

namespace NanHost.Command

/-- What a command carries. -/
def content : Command → List (String × Json)
  | getCapabilities | disable => []
  | enable request initial =>
    [member "request" request, member "initial_configuration" initial]
  | publish session config => [member "session_id" session, member "config" config]
  | subscribe session config => [member "session_id" session, member "config" config]
  | sendMessage session peer address payload =>
    [member "session_id" session, member "peer" peer, member "peer_address" address,
      member "payload" payload]
  | stopPublish session | stopSubscribe session => [member "session_id" session]
  | createInterface name | deleteInterface name => [member "name" name]
  | initiateDataPath request known =>
    [member "request" request, member "capabilities" known]
  | respondDataPath request known => [member "request" request, member "capabilities" known]
  | endDataPath path => [member "ndp_id" path]

instance : Reported Command :=
  ⟨fun command => .object (member "kind" command.kind :: command.content)⟩

/-- A command with the number under which it was issued. -/
def reportIssued (id : TransactionId) (command : Command) : Json :=
  .object (member "txn" id :: member "kind" command.kind :: command.content)

end NanHost.Command
