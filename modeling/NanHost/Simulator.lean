import NanHost.Channel
import NanHost.Event
import NanHost.Transport

/-!
# A simulated firmware

A stand-in for the firmware that answers every command at once, into a bounded channel from which
the engine is fed. It numbers sessions and data paths, confirms data paths if it is told to, and can
be told to fail or to ignore commands of a kind.

An answer is queued whole or not at all: a command is refused unless there is room for two events,
which is the most that one command brings about.
-/

namespace NanHost

/-- How the simulated firmware takes commands of a kind. -/
inductive Mood where
  /-- It carries them out. -/
  | willing
  /-- It answers that they failed. -/
  | failing (status : FirmwareStatus)
  /-- It does not answer. -/
  | silent
  deriving DecidableEq

/-- A simulated firmware. -/
structure Simulator where
  /-- What it reports that it can do. -/
  capabilities : Capabilities
  /-- Whether data paths come up without further ado. -/
  autoConfirm : Bool
  mood : CommandKind → Mood
  /-- The number of the next session. -/
  nextSession : UInt8
  /-- The number of the next data path. -/
  nextPath : UInt32
  /-- The commands it took last, the oldest first. -/
  history : Array (TransactionId × CommandKind)
  events : Channel FirmwareEvent

namespace Simulator

/-- How many commands the history goes back. -/
def historySize : Nat := 1024

/-- The firmware's own end of the data paths that it confirms to a peer. -/
def localInterface : MacAddress := ⟨#v[0x02, 0xa5, 0x00, 0x00, 0x00, 0x01]⟩

/-- A simulated firmware that carries out every command. -/
def new (capacity : Nat) (capabilities : Capabilities) (autoConfirm : Bool) : Simulator :=
  ⟨capabilities, autoConfirm, fun _ => .willing, 1, 1, #[], .new capacity⟩

/-- Sets how commands of a kind are taken from now on. -/
def setMood (simulator : Simulator) (kind : CommandKind) (mood : Mood) : Simulator :=
  { simulator with mood := fun other => if other = kind then mood else simulator.mood other }

/-- Adds a command to the history; the oldest one makes room if need be. -/
def record (simulator : Simulator) (id : TransactionId) (kind : CommandKind) : Simulator :=
  let kept :=
    if simulator.history.size = historySize then simulator.history.extract 1 historySize
    else simulator.history
  { simulator with history := kept.push (id, kind) }

/-- Queues an event. -/
def queue (simulator : Simulator) (event : FirmwareEvent) : Simulator :=
  match simulator.events.send event with
  | .ok events => { simulator with events := events }
  | .error _ => simulator

/-- Reports an event that no command asked for. -/
def inject (simulator : Simulator) (event : FirmwareEvent) :
    Except TransportError Unit × Simulator :=
  match simulator.events.send event with
  | .ok events => (.ok (), { simulator with events := events })
  | .error _ => (.error .unavailable, simulator)

/-- Numbers a session. After the last number the first one comes again. -/
def numberSession (simulator : Simulator) : SessionId × Simulator :=
  (⟨simulator.nextSession⟩, { simulator with
    nextSession := if simulator.nextSession + 1 = 0 then 1 else simulator.nextSession + 1 })

/-- Numbers a data path. After the last number the first one comes again. -/
def numberPath (simulator : Simulator) : DataPathId × Simulator :=
  (⟨simulator.nextPath⟩, { simulator with
    nextPath := if simulator.nextPath + 1 = 0 then 1 else simulator.nextPath + 1 })

/-- The confirmation of a data path. -/
def confirmation (path : DataPathId) (peerInterface : MacAddress) : FirmwareEvent :=
  .dataPathConfirmed path true peerInterface .empty .success

/-- The start of a session, or the update of one that has a number. -/
def answerDiscovery (simulator : Simulator) (session : SessionId) :
    (AnswerPayload × Option FirmwareEvent) × Simulator :=
  if session.isAssigned then ((.empty, none), simulator)
  else
    let (number, next) := simulator.numberSession
    ((.sessionId number, none), next)

/-- What a command brings: the payload of its answer, and the event that follows, if one does. -/
def answer (simulator : Simulator) (command : Command) :
    (AnswerPayload × Option FirmwareEvent) × Simulator :=
  match command with
  | .getCapabilities => ((.capabilities simulator.capabilities, none), simulator)
  | .publish session _ | .subscribe session _ => simulator.answerDiscovery session
  | .initiateDataPath request _ =>
    let (path, next) := simulator.numberPath
    ((.pathId path,
      if simulator.autoConfirm then some (confirmation path request.peerAddress) else none), next)
  | .respondDataPath request _ =>
    ((.empty,
      if simulator.autoConfirm && request.accept then
        some (confirmation request.pathId localInterface)
      else none), simulator)
  | .endDataPath path => ((.empty, some (.dataPathTerminated path .success)), simulator)
  | .enable .. | .disable | .sendMessage .. | .stopPublish _ | .stopSubscribe _
  | .createInterface _ | .deleteInterface _ => ((.empty, none), simulator)

/-- Takes a command. -/
def send (simulator : Simulator) (id : TransactionId) (command : Command) :
    Except TransportError Unit × Simulator :=
  let kind := command.kind
  if simulator.events.free < 2 then (.error .unavailable, simulator)
  else match simulator.mood kind with
    | .silent => (.ok (), simulator.record id kind)
    | .failing status =>
      if simulator.events.closed then (.error .unavailable, simulator)
      else (.ok (), (simulator.record id kind).queue (.commandCompleted id (.error status)))
    | .willing =>
      if simulator.events.closed then (.error .unavailable, simulator)
      else
        let ((payload, followUp), next) := simulator.answer command
        let answered := (next.record id kind).queue (.commandCompleted id (.ok payload))
        (.ok (), followUp.elim answered answered.queue)

instance : Transport Simulator := ⟨send⟩

/-- Takes up to `count` events out of the channel. -/
def take (simulator : Simulator) (count : Nat) : Array FirmwareEvent × Simulator :=
  let (taken, events) := simulator.events.take count
  (taken, { simulator with events := events })

/-- Takes every event out of the channel. -/
def takeAll (simulator : Simulator) : Array FirmwareEvent × Simulator :=
  simulator.take simulator.events.waiting.size

/-- The simulated firmware after its receiver has gone. -/
def close (simulator : Simulator) : Simulator :=
  { simulator with events := simulator.events.close }

end Simulator

end NanHost
