import NanHost.Metrics
import NanHost.Owner

/-!
# A node

An engine at work on a simulated firmware, with a meter on everything that comes of it.
-/

namespace NanHost

/-- A node. -/
structure Node where
  owner : Owner Simulator
  metrics : Metrics

/-- Why a node could not be brought up: which of the two requests was refused, and why. -/
inductive BootstrapError where
  | capabilitiesRejected (cause : Rejection)
  | enableRejected (cause : Rejection)
  deriving DecidableEq

/-- An error of bringing a node up in words. -/
def BootstrapError.message : BootstrapError → String
  | capabilitiesRejected cause => "capability query rejected: " ++ cause.message
  | enableRejected cause => "enable rejected: " ++ cause.message

namespace Node

/-- Lets the meter look at what has come of the host since it looked last. -/
def meter (node : Node) : Node :=
  let (effects, host) := node.owner.host.takeEffects
  { owner := { node.owner with host := host }, metrics := node.metrics.observeAll effects }

/-- A node that has just been started. -/
def start (config : EngineConfig) : Node :=
  let firmware := Simulator.new config.eventQueueCapacity.toNat .standard true
  { owner := .start (.new config firmware ⟨0⟩), metrics := .empty : Node }.meter

/-- Does something to the owner of the engine. -/
def onOwner (node : Node) (change : Owner Simulator → Owner Simulator) : Node :=
  { node with owner := change node.owner }.meter

/-- Does something to the firmware, and lets the engine do all there is to do. -/
def onFirmware (node : Node) (change : Simulator → Simulator) : Node :=
  node.onOwner fun owner =>
    { owner with host := { owner.host with transport := change owner.host.transport } }.settle

/-- Takes a request. -/
def submit (node : Node) (request : Request) : Except Rejection TransactionId × Node :=
  let (result, owner) := node.owner.submit request
  (result, { node with owner := owner }.meter)

/-- Takes a request; if it is refused, the refusal is counted. -/
def submitCounted (node : Node) (request : Request) : Except Rejection TransactionId × Node :=
  match node.submit request with
  | (.error rejection, next) =>
    (.error rejection, { next with metrics := next.metrics.reject rejection })
  | accepted => accepted

/-- Brings a node up: asks for the firmware's capabilities, then enables the interface. -/
def bootstrap (node : Node) (request : EnableRequest) :
    Except BootstrapError (TransactionId × TransactionId) × Node :=
  match node.submitCounted .getCapabilities with
  | (.error cause, next) => (.error (.capabilitiesRejected cause), next)
  | (.ok first, next) =>
    match next.submitCounted (.enable request) with
    | (.error cause, last) => (.error (.enableRejected cause), last)
    | (.ok second, last) => (.ok (first, second), last)

/-- Reports an event that no command asked for. -/
def inject (node : Node) (event : FirmwareEvent) : Except TransportError Unit × Node :=
  let (verdict, firmware) := node.owner.host.transport.inject event
  (verdict, node.onFirmware fun _ => firmware)

/-- Stops the engine. -/
def shutdown (node : Node) : Node := node.onOwner Owner.shutdown

end Node

end NanHost
