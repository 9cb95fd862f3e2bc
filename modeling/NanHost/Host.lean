import NanHost.Engine.Admission
import NanHost.Engine.Event
import NanHost.Transport

/-!
# The host

An engine in its surroundings: the way to the firmware, the clock, and a record of all that came of
what was done. The record holds in one sequence what the caller was told and what was handed to the
firmware, accepted or refused, since an observer such as a meter sees both.

`Host.step` does one thing to a host; a run is any number of steps. The surroundings move on their
own: `Act.advance` moves the clock, and `Act.replaceTransport` stands for whatever happens to the
transport between steps.
-/

namespace NanHost

/-- Something that came out of a host. -/
inductive Effect where
  /-- The caller was told something. -/
  | told (notification : Notification)
  /-- A command was handed to the firmware. -/
  | issued (id : TransactionId) (command : Command)
  /-- The transport refused a command. -/
  | refused (id : TransactionId) (command : Command) (error : TransportError)
  deriving DecidableEq

namespace Effect

/-- What the caller was told, if that is what the effect is. -/
def notification? : Effect → Option Notification
  | told notification => some notification
  | _ => none

/-- The command that was handed over, if that is what the effect is. -/
def issued? : Effect → Option (TransactionId × Command)
  | issued id command => some (id, command)
  | _ => none

end Effect

/-- An engine in its surroundings. -/
structure Host (σ : Type) where
  engine : Engine
  transport : σ
  now : Timestamp
  /-- What has come out, the oldest first. -/
  effects : Array Effect

namespace Host

variable {σ : Type}

/-- A host with a fresh engine. -/
def new (config : EngineConfig) (transport : σ) (now : Timestamp) : Host σ :=
  ⟨.new config, transport, now, #[]⟩

/-- What the caller has been told, the oldest first. -/
def notifications (host : Host σ) : Array Notification :=
  host.effects.filterMap (·.notification?)

/-- The commands that have been handed to the firmware, the oldest first. -/
def issued (host : Host σ) : Array (TransactionId × Command) := host.effects.filterMap (·.issued?)

/-- Tells the caller something. -/
def tell (host : Host σ) (notification : Notification) : Host σ :=
  { host with effects := host.effects.push (.told notification) }

/-- Takes on a reaction of the engine. -/
def react (host : Host σ) (reaction : Reaction) : Host σ :=
  reaction.2.foldl tell { host with engine := reaction.1 }

/-- Files a command and hands it to the firmware. If the transport refuses it, it is taken off the
ledger again. -/
def issue [Transport σ] (host : Host σ) (dispatch : Dispatch) (origin : Origin) :
    Except Rejection TransactionId × Host σ :=
  let { command, context } := dispatch
  match host.engine.ledger.allocate command.kind context origin host.now with
  | .error rejection => (.error rejection, host)
  | .ok (id, ledger) =>
    match Transport.send host.transport id command with
    | (.ok (), transport) =>
      (.ok id, { host with
        engine := { host.engine with ledger := ledger }
        transport := transport
        effects := host.effects.push (.issued id command) })
    | (.error error, transport) =>
      (.error (.transportRejected command.kind error.message), { host with
        engine := { host.engine with ledger := ledger.rollback id }
        transport := transport
        effects := host.effects.push (.refused id command error) })

/-- Takes a request. The answer is the number under which its end will be reported, or the reason
why it is refused. -/
def submit [Transport σ] (host : Host σ) (request : Request) :
    Except Rejection TransactionId × Host σ :=
  match host.engine.vet request with
  | .error rejection => (.error rejection, host)
  | .ok dispatch =>
    match host.issue dispatch .caller with
    | (.error rejection, refused) => (.error rejection, refused)
    | (.ok id, issued) => (.ok id, { issued with engine := issued.engine.stage id request })

/-- Takes a report of the firmware. -/
def handle (host : Host σ) (event : FirmwareEvent) : Host σ :=
  host.react (host.engine.handle host.now event)

/-- Gives up every command whose deadline has come, and counts them. -/
def expireTransactions (host : Host σ) : Nat × Host σ :=
  let (count, reaction) := host.engine.expireTransactions host.now
  (count, host.react reaction)

/-- Refuses a peer that has waited too long: the caller is told that the path is gone, and the
firmware is asked to refuse the peer. If it cannot be asked, the path is forgotten at once. -/
def refuseOverdue [Transport σ] (host : Host σ) (path : DataPathId) : Host σ :=
  let told := host.tell (.dataPathTerminated path .responseTimeout)
  let refusal : Dispatch :=
    ⟨.respondDataPath (.refusal path) told.engine.capabilities.snapshot, .dataPath path⟩
  match told.issue refusal .engine with
  | (.ok id, next) =>
    { next with engine := { next.engine with paths := next.engine.paths.attach path id } }
  | (.error _, next) =>
    { next with engine := { next.engine with paths := next.engine.paths.purge path } }

/-- Refuses every peer that has waited too long, and counts them. -/
def expireResponses [Transport σ] (host : Host σ) : Nat × Host σ :=
  let (overdue, paths) := host.engine.paths.expireResponses host.now
  (overdue.length,
    overdue.foldl refuseOverdue { host with engine := { host.engine with paths := paths } })

/-- Looks after all deadlines. -/
def tick [Transport σ] (host : Host σ) : Host σ := host.expireTransactions.2.expireResponses.2

/-- Gives up every command that is out. -/
def shutdown (host : Host σ) : Host σ := host.react host.engine.shutdown

/-- Moves the clock. It starts again from zero after its last reading. -/
def advance (host : Host σ) (millis : UInt64) : Host σ :=
  { host with now := ⟨host.now.millis + millis⟩ }

/-- Empties the record, and gives what was in it. -/
def takeEffects (host : Host σ) : Array Effect × Host σ :=
  (host.effects, { host with effects := #[] })

end Host

/-! ## Runs -/

/-- One thing that can be done to a host. -/
inductive Act (σ : Type) where
  | submit (request : Request)
  | handle (event : FirmwareEvent)
  | expireTransactions
  | expireResponses
  | tick
  | shutdown
  | advance (millis : UInt64)
  | replaceTransport (transport : σ)

namespace Host

variable {σ : Type} [Transport σ]

/-- The host after one thing was done to it. -/
def step (host : Host σ) : Act σ → Host σ
  | .submit request => (host.submit request).2
  | .handle event => host.handle event
  | .expireTransactions => host.expireTransactions.2
  | .expireResponses => host.expireResponses.2
  | .tick => host.tick
  | .shutdown => host.shutdown
  | .advance millis => host.advance millis
  | .replaceTransport transport => { host with transport := transport }

/-- The host after a number of things were done to it, one after the other. -/
def run (host : Host σ) (acts : List (Act σ)) : Host σ := acts.foldl step host

/-- The states in which a host can be found. -/
inductive Reachable : Host σ → Prop where
  | new (config : EngineConfig) (transport : σ) (now : Timestamp) :
    Reachable (.new config transport now)
  | step {host : Host σ} (act : Act σ) : Reachable host → Reachable (host.step act)

/-- A run from a state in which a host can be found ends in such a state. -/
theorem Reachable.run {host : Host σ} (reachable : Reachable host) (acts : List (Act σ)) :
    Reachable (host.run acts) := by
  induction acts generalizing host with
  | nil => exact reachable
  | cons act rest ih => exact ih (reachable.step act)

end Host

end NanHost
