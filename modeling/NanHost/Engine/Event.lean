import NanHost.Engine.Completion

/-!
# Reactions to the firmware and to the passing of time

What each report of the firmware does, what happens to commands that were not answered in time, and
how an engine is shut down. None of it needs the way to the firmware. The one reaction that does,
the refusal of peers that waited too long, is with the host.
-/

namespace NanHost

namespace Engine

/-- Reacts to the answer to a command; an answer to no command on file is ignored. -/
def onCompleted (engine : Engine) (id : TransactionId)
    (outcome : Except FirmwareStatus AnswerPayload) : Reaction :=
  match engine.ledger.resolve id with
  | .ok (record, ledger) =>
    { engine with ledger := ledger }.conclude record (outcome.mapError .firmware)
  | .error _ => engine.quiet

/-- Reacts to a match on a session. -/
def onMatched (engine : Engine) (session : SessionId) (peer : PeerId) (address : MacAddress)
    (serviceSpecificInfo matchFilter : ByteArray) (now : Timestamp) : Reaction :=
  let (noted, sessions) :=
    engine.sessions.onMatch session peer address serviceSpecificInfo matchFilter now
  ({ engine with sessions := sessions },
    if noted then [.matchFound session peer address serviceSpecificInfo] else [])

/-- Reacts to a message on a session. -/
def onMessage (engine : Engine) (session : SessionId) (peer : PeerId) (address : MacAddress)
    (payload : ByteArray) (now : Timestamp) : Reaction :=
  let (noted, sessions) := engine.sessions.onMessage session peer address now
  ({ engine with sessions := sessions },
    if noted then [.messageReceived session peer payload] else [])

/-- Reacts to the end of a session. -/
def onSessionTerminated (engine : Engine) (session : SessionId) (status : FirmwareStatus) :
    Reaction :=
  let (outcome, sessions) := engine.sessions.onTerminated session
  ({ engine with sessions := sessions },
    match outcome with
    | .unasked role => [.sessionTerminated session role (.firmware status)]
    | .asked | .unknown => [])

/-- Reacts to a peer that asks for a data path; nobody is listened to unless the interface is
enabled. -/
def onPathRequested (engine : Engine) (path : DataPathId) (peer : PeerId) (address : MacAddress)
    (appInfo : ByteArray) (now : Timestamp) : Reaction :=
  if engine.interface.isEnabled then
    let (noted, paths) := engine.paths.onRequest path peer address appInfo now
    ({ engine with paths := paths },
      if noted then [.dataPathRequested path peer address appInfo] else [])
  else engine.quiet

/-- Reacts to the interface going down by itself. Commands about the interface are given up first,
then everything that depends on it. -/
def onInterfaceDown (engine : Engine) (status : FirmwareStatus) : Reaction :=
  match engine.interface.forceDown with
  | (false, interface) => { engine with interface := interface }.quiet
  | (true, interface) =>
    let (superseded, ledger) := engine.ledger.drainWhere fun record =>
      record.kind = .configure ∨ record.kind = .disable
    let (settled, completions) :=
      { engine with interface := interface, ledger := ledger }.abandon superseded .aborted
    let (last, notices) := settled.teardown .interfaceDown
    (last, completions ++ notices ++ [.interfaceDown status])

/-- Reacts to a report of the firmware. -/
def handle (engine : Engine) (now : Timestamp) : FirmwareEvent → Reaction
  | .commandCompleted id outcome => engine.onCompleted id outcome
  | .sessionMatched session peer address serviceSpecificInfo matchFilter =>
    engine.onMatched session peer address serviceSpecificInfo matchFilter now
  | .messageReceived session peer address payload =>
    engine.onMessage session peer address payload now
  | .sessionTerminated session status => engine.onSessionTerminated session status
  | .dataPathRequested path peer address appInfo =>
    engine.onPathRequested path peer address appInfo now
  | .dataPathConfirmed path accepted peerInterface appInfo status =>
    engine.onPathConfirmed path accepted peerInterface appInfo status
  | .dataPathTerminated path status => engine.onPathTerminated path status
  | .identityChanged address =>
    (engine, if engine.interface.identityChangeNotify then [.identityChanged address] else [])
  | .interfaceDown status => engine.onInterfaceDown status

/-- Gives up every command whose deadline has come, and counts them. -/
def expireTransactions (engine : Engine) (now : Timestamp) : Nat × Reaction :=
  let (expired, ledger) := engine.ledger.expire now
  (expired.length, { engine with ledger := ledger }.abandon expired .timeout)

/-- Gives up every command that is out. -/
def shutdown (engine : Engine) : Reaction :=
  let (pending, ledger) := engine.ledger.drainAll
  { engine with ledger := ledger }.abandon pending .aborted

end Engine

end NanHost
