import NanHost.Host
import NanHost.Metrics.Family

/-!
# Metrics

What a meter makes of the effects of a host. Between the engine and the firmware it counts the
commands handed over; between the engine and its caller it counts how they ended, and keeps the sets
of sessions and data paths that the caller has been told of. A stop and an end are reported by their
completion alone, so the meter remembers of each command which session or path its completion will
take away.

The two gauges are set when the caller is told something, and only then.
-/

namespace NanHost

/-- What the meter remembers of a command until its completion. -/
structure MeteredCommand where
  kind : CommandKind
  /-- The session that the command stops. -/
  stops : Option SessionId
  /-- The data path that the command ends. -/
  ends : Option DataPathId
  deriving DecidableEq

/-- What the meter remembers of a command. -/
def MeteredCommand.ofCommand (command : Command) : MeteredCommand :=
  match command with
  | .stopPublish session | .stopSubscribe session => ⟨command.kind, some session, none⟩
  | .endDataPath path => ⟨command.kind, none, some path⟩
  | _ => ⟨command.kind, none, none⟩

/-- The state of a meter. -/
structure Metrics where
  inFlight : Std.ExtTreeMap TransactionId MeteredCommand
  sessions : Std.ExtTreeSet SessionId
  paths : Std.ExtTreeSet DataPathId
  issued : Tally
  completed : Tally
  rejected : Tally
  latencySamples : Tally
  matchCount : Nat
  sessionGauge : Nat
  pathGauge : Nat
  deriving DecidableEq

namespace Metrics

/-- A meter that has seen nothing. -/
def empty : Metrics := ⟨∅, ∅, ∅, ∅, ∅, ∅, ∅, 0, 0, 0⟩

/-- Notes that a command is being handed over. -/
def file (metrics : Metrics) (id : TransactionId) (command : Command) : Metrics :=
  { metrics with inFlight := metrics.inFlight.insert id (.ofCommand command) }

/-- Forgets a command. -/
def forget (metrics : Metrics) (id : TransactionId) : Metrics :=
  { metrics with inFlight := metrics.inFlight.erase id }

/-- Closes the account of a command that has completed: its latency is measured, and what it took
away is taken away. -/
def close (metrics : Metrics) (command : MeteredCommand) : Metrics :=
  { metrics with
    latencySamples := metrics.latencySamples.bump [command.kind.label]
    sessions := command.stops.elim metrics.sessions metrics.sessions.erase
    paths := command.ends.elim metrics.paths metrics.paths.erase }

/-- Takes on what a successful command brought about. -/
def achieve (metrics : Metrics) : Except Failure CompletionDetail → Metrics
  | .ok (.sessionStarted session _) =>
    { metrics with sessions := metrics.sessions.insert session }
  | .ok .disabled => { metrics with sessions := ∅, paths := ∅ }
  | _ => metrics

/-- Counts a completion. A number that was taken for a command of another kind is forgotten without
being measured. -/
def complete (metrics : Metrics) (completion : Completion) : Metrics :=
  let counted := { metrics with
    completed := metrics.completed.bump [completion.kind.label, completion.outcomeLabel] }
  let closed := match metrics.inFlight[completion.id]? with
    | some command => if command.kind = completion.kind then counted.close command else counted
    | none => counted
  (closed.forget completion.id).achieve completion.result

/-- Sets the gauges to the sizes of the sets. -/
def setGauges (metrics : Metrics) : Metrics :=
  { metrics with sessionGauge := metrics.sessions.size, pathGauge := metrics.paths.size }

/-- Takes on what the caller is told. -/
def notice (metrics : Metrics) : Notification → Metrics
  | .completed completion => metrics.complete completion
  | .matchFound .. => { metrics with matchCount := metrics.matchCount + 1 }
  | .sessionTerminated session _ _ =>
    { metrics with sessions := metrics.sessions.erase session }
  | .dataPathConfirmed path _ _ => { metrics with paths := metrics.paths.insert path }
  | .dataPathTerminated path _ => { metrics with paths := metrics.paths.erase path }
  | .messageReceived .. | .dataPathRequested .. | .identityChanged _ | .interfaceDown _ => metrics

/-- Takes on one effect of a host. -/
def observe (metrics : Metrics) : Effect → Metrics
  | .told notification => (metrics.notice notification).setGauges
  | .issued id command =>
    let filed := metrics.file id command
    { filed with issued := filed.issued.bump [command.kind.label] }
  | .refused id command _ => (metrics.file id command).forget id

/-- Takes on effects in the order in which they came. -/
def observeAll (metrics : Metrics) (effects : Array Effect) : Metrics :=
  effects.foldl observe metrics

/-- Counts a request that was refused. -/
def reject (metrics : Metrics) (rejection : Rejection) : Metrics :=
  { metrics with rejected := metrics.rejected.bump [rejection.label] }

/-- All families, in the order of their names. -/
def families (metrics : Metrics) : List Family := [
  .single "aware_data_paths_active" "Data paths currently confirmed" .gauge metrics.pathGauge,
  .single "aware_discovery_sessions_active" "Discovery sessions currently active" .gauge
    metrics.sessionGauge,
  .single "aware_matches_total" "Discovery matches reported by the firmware" .counter
    metrics.matchCount,
  ⟨"aware_submissions_rejected_total", "Requests rejected at submission", .counter, ["reason"],
    metrics.rejected⟩,
  ⟨"aware_transaction_latency_seconds", "Time from issuing a command to its resolution",
    .histogram, ["kind"], metrics.latencySamples⟩,
  ⟨"aware_transactions_completed_total", "Resolved transactions", .counter, ["kind", "outcome"],
    metrics.completed⟩,
  ⟨"aware_transactions_issued_total", "Commands handed to the firmware", .counter, ["kind"],
    metrics.issued⟩]

/-- The metrics in the text format that collectors read. -/
def exposition (metrics : Metrics) : List String := metrics.families.flatMap (·.lines)

end Metrics

end NanHost
