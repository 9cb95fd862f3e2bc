import NanHost.Capabilities
import NanHost.CommandKind
import NanHost.Json
import NanHost.Lifecycle
import NanHost.MacAddress
import NanHost.Timestamp

/-!
# Reports

What the host holds, as JSON values for logs and diagnostics. An absent value is null, bytes are
hexadecimal, an identifier is its number, a kind or a stage is its label. An outcome is an object
with the value under `ok`, or the report of what went wrong.
-/

namespace NanHost

/-- A type whose values can be reported. -/
class Reported (α : Type) where
  report : α → Json

export Reported (report)

/-- A member of an object. -/
def member {α : Type} [Reported α] (key : String) (value : α) : String × Json :=
  (key, report value)

/-- Reports a value as another one. -/
def reportAs {α β : Type} [Reported β] (view : α → β) (value : α) : Json := report (view value)

/-- Bytes as pairs of lower-case hexadecimal digits. -/
def hexText (bytes : ByteArray) : String := String.join (bytes.toList.map MacAddress.octetText)

namespace Reported

instance : Reported Json := ⟨id⟩
instance : Reported Unit := ⟨fun _ => .null⟩
instance : Reported Bool := ⟨.bool⟩
instance : Reported Nat := ⟨.number⟩
instance : Reported String := ⟨.text⟩
instance : Reported UInt8 := ⟨reportAs UInt8.toNat⟩
instance : Reported UInt16 := ⟨reportAs UInt16.toNat⟩
instance : Reported UInt32 := ⟨reportAs UInt32.toNat⟩
instance : Reported UInt64 := ⟨reportAs UInt64.toNat⟩
instance : Reported ByteArray := ⟨reportAs hexText⟩

instance {α : Type} [Reported α] : Reported (Option α) := ⟨fun value => value.elim .null report⟩
instance {α : Type} [Reported α] : Reported (List α) := ⟨fun items => .list (items.map report)⟩
instance {α : Type} [Reported α] : Reported (Array α) := ⟨reportAs Array.toList⟩

instance {α β : Type} [Reported α] [Reported β] : Reported (α × β) :=
  ⟨fun pair => .list [report pair.1, report pair.2]⟩

instance {ε α : Type} [Reported ε] [Reported α] : Reported (Except ε α) := ⟨fun
  | .ok value => .object [member "ok" value]
  | .error error => report error⟩

/-! ## Identifiers, labels, capabilities -/

instance : Reported TransactionId := ⟨reportAs TransactionId.raw⟩
instance : Reported SessionId := ⟨reportAs SessionId.raw⟩
instance : Reported DataPathId := ⟨reportAs DataPathId.raw⟩
instance : Reported PeerId := ⟨reportAs PeerId.raw⟩
instance : Reported FirmwareStatus := ⟨reportAs FirmwareStatus.code⟩
instance : Reported Timestamp := ⟨reportAs Timestamp.millis⟩
instance : Reported MacAddress := ⟨reportAs MacAddress.text⟩
instance : Reported CommandKind := ⟨reportAs CommandKind.label⟩
instance : Reported SessionRole := ⟨reportAs SessionRole.label⟩
instance : Reported SessionState := ⟨reportAs SessionState.label⟩
instance : Reported DataPathState := ⟨reportAs DataPathState.label⟩
instance : Reported InterfacePhase := ⟨reportAs InterfacePhase.label⟩
instance : Reported CipherSuite := ⟨reportAs CipherSuite.name⟩

instance : Reported CipherSuites :=
  ⟨fun set => .object [member "bits" set.bits, member "suites" set.toList]⟩

instance : Reported Capabilities := ⟨fun known => .object [
  member "max_concurrent_clusters" known.maxConcurrentClusters,
  member "max_publishes" known.maxPublishes,
  member "max_subscribes" known.maxSubscribes,
  member "max_service_name_len" known.maxServiceNameLen,
  member "max_match_filter_len" known.maxMatchFilterLen,
  member "max_service_specific_info_len" known.maxServiceSpecificInfoLen,
  member "max_ndi_interfaces" known.maxDataInterfaces,
  member "max_ndp_sessions" known.maxDataPaths,
  member "max_app_info_len" known.maxAppInfoLen,
  member "max_queued_transmit_messages" known.maxQueuedTransmitMessages,
  member "supported_cipher_suites" known.supportedCipherSuites,
  member "instant_communication_supported" known.instantCommunicationSupported]⟩

end Reported

end NanHost
