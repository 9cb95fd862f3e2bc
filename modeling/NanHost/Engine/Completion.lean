import NanHost.Engine.Reaction
import NanHost.Event

/-!
# Completion of commands

What the end of a command does. A record that has left the ledger is *settled*: the tables take on
the outcome, and the caller who asked for the command is told once how it ended. Settling an
initiation that went well also replays the events that had come ahead of its path's number.

A command about a session or a data path is settled by itself. A command that takes the interface
down pulls all those with it, so it is settled on top of them: `teardown` gives up the commands
about sessions and paths, then ends the sessions and the paths themselves.
-/

namespace NanHost

/-- What the firmware, or its silence, made of a command. -/
abbrev Outcome := Except Failure AnswerPayload

namespace Outcome

/-- The session number that an answer should bring. -/
def sessionId (outcome : Outcome) : Except Failure SessionId :=
  match outcome with
  | .ok (.sessionId id) => .ok id
  | .ok _ => .error (.invalidAnswer .expectedSessionId)
  | .error failure => .error failure

/-- The data path number that an answer should bring. -/
def pathId (outcome : Outcome) : Except Failure DataPathId :=
  match outcome with
  | .ok (.pathId id) => .ok id
  | .ok _ => .error (.invalidAnswer .expectedPathId)
  | .error failure => .error failure

/-- The outcome of a command whose answer brings nothing. -/
def plain (outcome : Outcome) : Except Failure Unit :=
  match outcome with
  | .ok _ => .ok ()
  | .error failure => .error failure

/-- The outcome of a command that achieves the given, if it went well. -/
def achieving (outcome : Outcome) (detail : CompletionDetail) : Except Failure CompletionDetail :=
  match outcome with
  | .ok _ => .ok detail
  | .error failure => .error failure

end Outcome

/-- What settling a command came to: its result, the engine after it, and what the caller has to be
told before hearing of the result. -/
structure Settlement where
  result : Except Failure CompletionDetail
  engine : Engine
  notices : List Notification
  deriving DecidableEq

namespace Engine

/-! ## Events on data paths -/

/-- Reacts to a confirmation of a data path. -/
def onPathConfirmed (engine : Engine) (id : DataPathId) (accepted : Bool)
    (peerInterface : MacAddress) (appInfo : ByteArray) (status : FirmwareStatus) : Reaction :=
  let (outcome, paths) := engine.paths.onConfirmed id accepted peerInterface appInfo status
  ({ engine with paths := paths },
    match outcome with
    | .confirmed => [.dataPathConfirmed id peerInterface appInfo]
    | .rejected status => [.dataPathTerminated id (.rejected status)]
    | .held | .ignored => [])

/-- Reacts to the end of a data path. -/
def onPathTerminated (engine : Engine) (id : DataPathId) (status : FirmwareStatus) : Reaction :=
  let (outcome, paths) := engine.paths.onTerminated id status
  ({ engine with paths := paths },
    match outcome with
    | .unasked => [.dataPathTerminated id (.firmware status)]
    | .asked | .held | .ignored => [])

/-- Reacts to an event that was held back, now that its path has a number. -/
def replay (engine : Engine) (id : DataPathId) : HeldEvent → Reaction
  | .confirmed accepted peerInterface appInfo status =>
    engine.onPathConfirmed id accepted peerInterface appInfo status
  | .terminated status => engine.onPathTerminated id status

/-- Replays what was held back for a path. -/
def replayHeld (engine : Engine) (id : DataPathId) : Reaction :=
  let (events, paths) := engine.paths.takeHeld id
  { engine with paths := paths }.sweep events fun engine event => engine.replay id event

/-! ## Settling -/

/-- Settles a query for the firmware's capabilities. -/
def settleCapabilities (engine : Engine) (outcome : Outcome) : Settlement :=
  match outcome with
  | .ok (.capabilities report) =>
    ⟨.ok (.capabilities report),
      { engine with capabilities := engine.capabilities.store report }, []⟩
  | .ok _ => ⟨.error (.invalidAnswer .expectedCapabilities), engine, []⟩
  | .error failure => ⟨.error failure, engine, []⟩

/-- Settles a configuration of the interface. -/
def settleConfigure (engine : Engine) (outcome : Outcome) : Settlement :=
  match engine.interface.completeEnable outcome.isOk with
  | (some initial, interface) =>
    ⟨outcome.achieving (.enabled initial), { engine with interface := interface }, []⟩
  | (none, _) => ⟨.error .aborted, engine, []⟩

/-- Settles the start of a session. -/
def settleStart (engine : Engine) (txn : TransactionId) (outcome : Outcome) : Settlement :=
  let (result, sessions) := engine.sessions.resolveNew txn outcome.sessionId
  ⟨result.map fun started => .sessionStarted started.1 started.2,
    { engine with sessions := sessions }, []⟩

/-- Settles the update of a session. -/
def settleUpdate (engine : Engine) (txn : TransactionId) (session : SessionId)
    (outcome : Outcome) : Settlement :=
  let (result, sessions) := engine.sessions.resolveUpdate session txn outcome.plain
  ⟨result.map fun _ => .sessionUpdated session, { engine with sessions := sessions }, []⟩

/-- Settles a message. -/
def settleMessage (engine : Engine) (txn : TransactionId) (session : SessionId)
    (outcome : Outcome) : Settlement :=
  ⟨outcome.achieving .messageSent,
    { engine with sessions := (engine.sessions.detach session txn).2 }, []⟩

/-- Settles the stop of a session. -/
def settleStop (engine : Engine) (txn : TransactionId) (session : SessionId)
    (outcome : Outcome) : Settlement :=
  ⟨outcome.achieving (.sessionStopped session),
    { engine with sessions := (engine.sessions.resolveStop session txn).2 }, []⟩

/-- Settles the creation of a data interface. -/
def settleCreate (engine : Engine) (name : String) (outcome : Outcome) : Settlement :=
  ⟨outcome.achieving (.interfaceCreated name),
    { engine with dataInterfaces := engine.dataInterfaces.resolveCreate name outcome.isOk }, []⟩

/-- Settles the deletion of a data interface. -/
def settleDelete (engine : Engine) (name : String) (outcome : Outcome) : Settlement :=
  ⟨outcome.achieving (.interfaceDeleted name),
    { engine with dataInterfaces := engine.dataInterfaces.resolveDelete name outcome.isOk }, []⟩

/-- Settles the initiation of a data path. -/
def settleInitiate (engine : Engine) (txn : TransactionId) (outcome : Outcome) : Settlement :=
  let (result, paths) := engine.paths.resolveInitiate txn outcome.pathId
  ⟨result.map .dataPathInitiated, { engine with paths := paths }, []⟩

/-- Settles the answer to a peer. If it failed and took down a path that was up already, the caller
has to be told of the path as well. -/
def settleRespond (engine : Engine) (txn : TransactionId) (path : DataPathId)
    (outcome : Outcome) : Settlement :=
  let wasUp := (engine.paths.get? path).any (·.isConfirmed)
  let (result, paths) := engine.paths.resolveRespond path txn outcome.plain
  let isDown := !(paths.get? path).any (·.isLive)
  ⟨result.map fun accepted => .dataPathResponded path accepted,
    { engine with paths := paths },
    if !result.isOk && wasUp && isDown then [.dataPathTerminated path .setupFailed] else []⟩

/-- Settles the end of a data path. -/
def settleEnd (engine : Engine) (txn : TransactionId) (path : DataPathId)
    (outcome : Outcome) : Settlement :=
  ⟨outcome.achieving (.dataPathEnded path),
    { engine with paths := (engine.paths.resolveEnd path txn).2 }, []⟩

/-- Settles a command that leaves the interface up. Every kind of command is issued in a context of
its own; a record that puts a kind into another context cannot be settled. -/
def settleByItself (engine : Engine) (record : TransactionRecord) (outcome : Outcome) :
    Settlement :=
  match record.kind, record.context with
  | .capabilities, _ => engine.settleCapabilities outcome
  | .configure, _ => engine.settleConfigure outcome
  | .publish, .newSession _ | .subscribe, .newSession _ => engine.settleStart record.id outcome
  | .publish, .session session | .subscribe, .session session =>
    engine.settleUpdate record.id session outcome
  | .sendMessage, .session session => engine.settleMessage record.id session outcome
  | .stopPublish, .session session | .stopSubscribe, .session session =>
    engine.settleStop record.id session outcome
  | .createInterface, .dataInterface name => engine.settleCreate name outcome
  | .deleteInterface, .dataInterface name => engine.settleDelete name outcome
  | .initiateDataPath, .newDataPath => engine.settleInitiate record.id outcome
  | .respondDataPath, .dataPath path => engine.settleRespond record.id path outcome
  | .endDataPath, .dataPath path => engine.settleEnd record.id path outcome
  | _, _ => ⟨.error (.invalidAnswer .contextMismatch), engine, []⟩

/-! ## Concluding -/

/-- Tells the caller how its command ended, and replays what an initiation had to wait for. -/
def announce (record : TransactionRecord) (settlement : Settlement) : Reaction :=
  let replayed := match settlement.result with
    | .ok (.dataPathInitiated path) => settlement.engine.replayHeld path
    | _ => settlement.engine.quiet
  (replayed.1, settlement.notices ++
    .completed ⟨record.id, record.kind, settlement.result⟩ :: replayed.2)

/-- Strikes off a command that the engine issued of its own accord. Nobody is told. -/
def strikeOff (engine : Engine) (record : TransactionRecord) : Reaction :=
  match record.context with
  | .dataPath path => { engine with paths := engine.paths.detach path record.id }.quiet
  | _ => engine.quiet

/-- Concludes a command that leaves the interface up. -/
def concludeByItself (engine : Engine) (record : TransactionRecord) (outcome : Outcome) :
    Reaction :=
  match record.origin with
  | .engine => engine.strikeOff record
  | .caller => announce record (engine.settleByItself record outcome)

/-- Ends everything that cannot outlive the interface being up: the commands about sessions and
data paths are given up, then the sessions and the paths that are left are ended. -/
def teardown (engine : Engine) (reason : TerminationReason) : Reaction :=
  let (abandoned, ledger) := engine.ledger.drainWhere (·.context.isSessionOrPath)
  let (settled, completions) := { engine with ledger := ledger }.sweep abandoned
    fun engine record => engine.concludeByItself record (.error .aborted)
  let (ended, sessions) := settled.sessions.terminateAll
  let (broken, paths) := settled.paths.terminateAll
  ({ settled with sessions := sessions, paths := paths },
    completions ++ ended.map (fun entry => .sessionTerminated entry.1 entry.2 reason) ++
      broken.map fun path => .dataPathTerminated path reason)

/-- Settles a disabling of the interface. When the interface goes down, everything that depends on
it goes first. -/
def settleDisable (engine : Engine) (outcome : Outcome) : Settlement :=
  match engine.interface.completeDisable outcome.isOk with
  | (true, interface) =>
    let (settled, notices) := { engine with interface := interface }.teardown .interfaceDisabled
    ⟨.ok .disabled, settled, notices⟩
  | (false, interface) =>
    ⟨match outcome with
      | .ok _ => .error .aborted
      | .error failure => .error failure,
      { engine with interface := interface }, []⟩

/-- Settles a command. -/
def settle (engine : Engine) (record : TransactionRecord) (outcome : Outcome) : Settlement :=
  if record.kind = .disable then engine.settleDisable outcome
  else engine.settleByItself record outcome

/-- Concludes a command whose record has left the ledger. -/
def conclude (engine : Engine) (record : TransactionRecord) (outcome : Outcome) : Reaction :=
  match record.origin with
  | .engine => engine.strikeOff record
  | .caller => announce record (engine.settle record outcome)

/-- Concludes commands with one and the same failure, in the order given. -/
def abandon (engine : Engine) (records : List TransactionRecord) (failure : Failure) : Reaction :=
  engine.sweep records fun engine record => engine.conclude record (.error failure)

end Engine

end NanHost
