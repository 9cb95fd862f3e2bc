import NanHost.Engine
import NanHost.Metrics
import NanHost.Report.Config
import NanHost.Report.Request

/-!
# Reports on the state of an engine

The rows of the tables, each in full and, where there are many, in one line; the engine as a whole;
and the figures of a meter.
-/

namespace NanHost

/-! ## Rows -/

namespace Reported

instance : Reported PendingContext := ⟨fun
  | .interface => .text "interface"
  | .newSession role => .object [member "new_session" role]
  | .session session => .object [member "session" session]
  | .dataInterface name => .object [member "data_interface" name]
  | .newDataPath => .text "new_data_path"
  | .dataPath path => .object [member "data_path" path]⟩

instance : Reported Origin := ⟨fun
  | .caller => .text "caller"
  | .engine => .text "internal"⟩

instance : Reported TransactionRecord := ⟨fun record => .object [
  member "id" record.id,
  member "kind" record.kind,
  member "issued_at" record.issuedAt,
  member "deadline" record.deadline,
  member "awaiting_completion" record.awaitingCompletion,
  member "sequence" record.sequence,
  member "context" record.context,
  member "origin" record.origin]⟩

instance : Reported PeerRecord := ⟨fun record => .object [
  member "peer" record.peer,
  member "peer_address" record.address,
  member "service_specific_info" record.serviceSpecificInfo,
  member "match_filter" record.matchFilter,
  member "last_seen" record.lastSeen]⟩

instance : Reported Session := ⟨fun session => .object [
  member "id" session.id,
  member "role" session.role,
  member "state" session.state,
  member "config" session.config,
  member "in_flight" session.inFlight.toList,
  member "has_pending_update" session.hasPendingUpdate,
  member "peers" (session.peers.toList.map (·.2))]⟩

instance : Reported DataPathOrigin := ⟨fun
  | .here => .text "local"
  | .peer => .text "peer"⟩

instance : Reported DataPath := ⟨fun path => .object [
  member "id" path.id,
  member "origin" path.origin,
  member "peer_id" path.peerId,
  member "peer_address" path.peerAddress,
  member "interface_name" path.interfaceName,
  member "channel_request_type" path.channelRequestType,
  member "channel_mhz" path.channelMHz,
  member "security" path.security,
  member "app_info" path.appInfo,
  member "state" path.state,
  member "peer_ndi" path.peerInterface,
  member "response_deadline" path.responseDeadline,
  member "response" path.response,
  member "is_ending" path.endPending,
  member "is_live" path.isLive]⟩

instance : Reported HeldEvent := ⟨fun
  | .confirmed accepted peerInterface info status => .object [
    member "confirmed" accepted, member "peer_ndi" peerInterface, member "app_info" info,
    member "status" status]
  | .terminated status => .object [member "terminated" status]⟩

instance : Reported DataInterfaceState := ⟨fun
  | .creating id => .object [member "creating" id]
  | .ready => .text "ready"
  | .deleting id => .object [member "deleting" id]⟩

instance : Reported Interface := ⟨fun interface => .object [
  member "phase" interface.phase,
  member "is_enabled" interface.isEnabled,
  member "is_quiescent" interface.isQuiescent,
  member "config" interface.config,
  member "applied" interface.applied,
  member "identity_change_notify" interface.identityChangeNotify,
  member "ranging_enabled" interface.rangingEnabled,
  member "instant_mode_channel" interface.instantModeChannel,
  member "mac_randomization_interval_sec" interface.macRandomizationIntervalSec]⟩

end Reported

/-- A record in one line. -/
def TransactionRecord.brief (record : TransactionRecord) : Json :=
  .list [report record.id, report record.kind, report record.deadline]

/-- A session in one line. -/
def Session.brief (session : Session) : Json :=
  .list [report session.id, report session.role, report session.state,
    report session.config.serviceName, report session.inFlight.toList,
    report session.hasPendingUpdate, report (session.peers.toList.map (·.1))]

/-- A data path in one line. -/
def DataPath.brief (path : DataPath) : Json :=
  .list [report path.id, report path.state, report path.interfaceName, report path.response,
    report path.endPending, report path.responseDeadline]

/-! ## The whole -/

/-- A list, or only how long it is if it is longer than the limit. -/
def reportUpTo {α : Type} [Reported α] (limit : Nat) (items : List α) : Json :=
  if limit < items.length then .object [member "count" items.length] else report items

/-- Everything an engine holds. -/
def Engine.dump (limit : Nat) (engine : Engine) : Json := .object [
  member "config" engine.config,
  member "interface" engine.interface,
  member "pending" (reportUpTo limit engine.ledger.records),
  member "sessions" engine.sessions.toList,
  member "paths" engine.paths.toList,
  member "interfaces" engine.dataInterfaces.readyNames,
  member "capabilities" engine.capabilities.snapshot,
  member "cache_populated" engine.capabilities.isPopulated]

/-- An engine at a glance. -/
def Host.summary {σ : Type} (limit : Nat) (host : Host σ) : Json := .object [
  member "now" host.now,
  member "phase" host.engine.interface.phase,
  member "pending" (reportUpTo limit (host.engine.ledger.records.map (·.brief))),
  member "sessions" (host.engine.sessions.toList.map (·.brief)),
  member "paths" (host.engine.paths.toList.map (·.brief)),
  member "interfaces" host.engine.dataInterfaces.readyNames]

instance : Reported Metrics := ⟨fun metrics => .object [
  member "sessions" metrics.sessions.size,
  member "data_paths" metrics.paths.size,
  member "session_gauge" metrics.sessionGauge,
  member "data_path_gauge" metrics.pathGauge,
  member "matches" metrics.matchCount]⟩

end NanHost
