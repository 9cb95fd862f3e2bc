import NanHost.Host
import NanHost.Simulator

/-!
# The owner of an engine

An engine belongs to one task. Others write to it: the firmware puts events into a channel, callers
post letters that the owner answers. Whenever the owner has a choice it takes an event before a
letter, and a letter before a tick of the clock. It stops when it is told to, when no more events
can come, or when nobody is left to post a letter; then it gives up every command that is out, and
letters not taken yet are answered by saying that the engine has stopped.

The time by which ticks are due is the owner's own. The first is due at once. After a tick that was
on time the next is due one period after the last was due; after one that was late by more than the
tolerance, one period from now.
-/

namespace NanHost

/-- A way to the firmware together with the channel by which the firmware reports. -/
class FirmwareLink (σ : Type) extends Transport σ where
  /-- Takes the oldest event out of the channel. -/
  receive? : σ → Option (FirmwareEvent × σ)
  /-- How many events are waiting in the channel. -/
  waiting : σ → Nat
  /-- How many events the channel can hold. -/
  room : σ → Nat
  /-- Whether no more events can come. -/
  isSilenced : σ → Bool
  /-- The link after the receiver of the events has gone. -/
  hangUp : σ → σ

instance : FirmwareLink Simulator where
  receive? simulator :=
    simulator.events.receive?.map fun received =>
      (received.1, { simulator with events := received.2 })
  waiting simulator := simulator.events.waiting.size
  room simulator := simulator.events.capacity
  isSilenced _ := false
  hangUp := Simulator.close

/-- A recorder with a channel of events that anyone may fill. -/
structure Bench where
  recorder : Recorder
  events : Channel FirmwareEvent
  /-- Whether the sender of the events has gone. -/
  senderGone : Bool
  deriving DecidableEq

namespace Bench

/-- A bench whose channel has the given capacity. -/
def new (capacity : Nat) : Bench := ⟨.new, .new capacity, false⟩

instance : FirmwareLink Bench where
  send bench id command :=
    let (verdict, recorder) := Transport.send bench.recorder id command
    (verdict, { bench with recorder := recorder })
  receive? bench :=
    bench.events.receive?.map fun received => (received.1, { bench with events := received.2 })
  waiting bench := bench.events.waiting.size
  room bench := bench.events.capacity
  isSilenced bench := bench.senderGone
  hangUp bench := { bench with events := bench.events.close }

/-- Puts an event into the channel. -/
def push (bench : Bench) (event : FirmwareEvent) : Except ChannelError Unit × Bench :=
  if bench.senderGone then (.error .closed, bench)
  else match bench.events.send event with
    | .ok events => (.ok (), { bench with events := events })
    | .error error => (.error error, bench)

end Bench

/-- What a caller can write to the owner. -/
inductive Letter where
  | submit (ticket : Nat) (request : Request)
  | shutdown
  deriving DecidableEq

/-- An answer, with the ticket of the letter that it is for. -/
structure Answer where
  ticket : Nat
  result : Except Rejection TransactionId
  deriving DecidableEq

/-- The owner of an engine. -/
structure Owner (σ : Type) where
  host : Host σ
  /-- The letters that have not been taken yet, the oldest first. -/
  inbox : List Letter
  /-- The answers given, the oldest first. -/
  answers : Array Answer
  nextTicket : Nat
  /-- Whether anybody can still post a letter. -/
  reachable : Bool
  running : Bool
  /-- The milliseconds since the owner started. -/
  clock : Nat
  /-- When the next tick is due. -/
  due : Nat
  /-- The time from tick to tick. -/
  period : Nat

namespace Owner

variable {σ : Type}

/-- How late a tick may be without putting the later ones off. -/
def tolerance : Nat := 5

/-- An owner that has not done anything. -/
def new (host : Host σ) : Owner σ where
  host := host
  inbox := []
  answers := #[]
  nextTicket := 0
  reachable := true
  running := true
  clock := 0
  due := 0
  period := max 1 host.engine.config.tickIntervalMs.toNat

/-- Answers a letter. -/
def answer (owner : Owner σ) (ticket : Nat) (result : Except Rejection TransactionId) : Owner σ :=
  { owner with answers := owner.answers.push ⟨ticket, result⟩ }

/-- Answers a letter that will not be looked at. -/
def returnLetter (owner : Owner σ) : Letter → Owner σ
  | .submit ticket _ => owner.answer ticket (.error .engineStopped)
  | .shutdown => owner

/-- Posts a letter. An owner that has stopped answers at once. -/
def post (owner : Owner σ) (letter : Letter) : Owner σ :=
  if owner.running then { owner with inbox := owner.inbox ++ [letter] }
  else owner.returnLetter letter

/-- Posts a request under a ticket of its own. -/
def request (owner : Owner σ) (request : Request) : Owner σ :=
  { owner with nextTicket := owner.nextTicket + 1 }.post (.submit owner.nextTicket request)

/-- The answer to the letter of a ticket. -/
def answer? (owner : Owner σ) (ticket : Nat) : Option (Except Rejection TransactionId) :=
  (owner.answers.find? fun answer => answer.ticket = ticket).map (·.result)

/-- What the owner has at hand, in the order in which it chooses. -/
inductive Choice (σ : Type) where
  | event (event : FirmwareEvent) (link : σ)
  | noMoreEvents
  | letter (letter : Letter) (rest : List Letter)
  | noMoreLetters
  | tick

variable [FirmwareLink σ]

/-- What the owner takes next, if there is anything to take. -/
def choice? (owner : Owner σ) : Option (Choice σ) :=
  if owner.running then
    match FirmwareLink.receive? owner.host.transport with
    | some (event, link) => some (.event event link)
    | none =>
      if FirmwareLink.isSilenced owner.host.transport then some .noMoreEvents
      else match owner.inbox with
        | letter :: rest => some (.letter letter rest)
        | [] =>
          if !owner.reachable then some .noMoreLetters
          else if owner.due ≤ owner.clock then some .tick
          else none
  else none

/-- Stops: every command that is out is given up, no more events are received, and the letters not
taken yet are returned. -/
def stop (owner : Owner σ) : Owner σ :=
  let given := owner.host.shutdown
  let stopped := { owner with
    host := { given with transport := FirmwareLink.hangUp given.transport }
    running := false
    inbox := [] }
  owner.inbox.foldl returnLetter stopped

/-- When the tick after the present one is due. -/
def nextDue (owner : Owner σ) : Nat :=
  if owner.due + tolerance < owner.clock then owner.clock + owner.period
  else owner.due + owner.period

/-- Does what was chosen. -/
def carryOut (owner : Owner σ) : Choice σ → Owner σ
  | .event event link => { owner with host := { owner.host with transport := link }.handle event }
  | .letter (.submit ticket request) rest =>
    let (result, host) := owner.host.submit request
    { owner with host := host, inbox := rest }.answer ticket result
  | .letter .shutdown rest => { owner with inbox := rest }.stop
  | .noMoreEvents | .noMoreLetters => owner.stop
  | .tick => { owner with host := owner.host.tick, due := owner.nextDue }

/-- One turn of the owner; none if there is nothing to do. -/
def turn? (owner : Owner σ) : Option (Owner σ) := owner.choice?.map owner.carryOut

/-- Up to `count` turns, as long as there is something to do. -/
def turns : Nat → Owner σ → Owner σ
  | 0, owner => owner
  | count + 1, owner =>
    match owner.turn? with
    | some next => turns count next
    | none => owner

/-- A bound on the turns until there is nothing to do: a letter brings about two events at most, and
a tick, of which no more than the tolerance allows are due at once, no more than the channel holds;
the last turn is the stop. -/
def turnBound (owner : Owner σ) : Nat :=
  FirmwareLink.waiting owner.host.transport + 3 * owner.inbox.length +
    (tolerance + 2) * (FirmwareLink.room owner.host.transport + 1) + 1

/-- Lets the owner do all there is to do. -/
def settle (owner : Owner σ) : Owner σ := owner.turns owner.turnBound

/-- An owner at work: the first tick, due at once, has been done. -/
def start (host : Host σ) : Owner σ := (Owner.new host).settle

/-- Lets time pass, on the owner's clock and on the host's. -/
def advance (owner : Owner σ) (millis : UInt64) : Owner σ :=
  { owner with clock := owner.clock + millis.toNat, host := owner.host.advance millis }.settle

/-- Posts a request and waits for the answer. -/
def submit (owner : Owner σ) (request : Request) : Except Rejection TransactionId × Owner σ :=
  let settled := (owner.request request).settle
  ((settled.answer? owner.nextTicket).getD (.error .engineStopped), settled)

/-- Tells the owner to stop. -/
def shutdown (owner : Owner σ) : Owner σ := (owner.post .shutdown).settle

/-- Takes the last way of posting letters away. -/
def abandon (owner : Owner σ) : Owner σ := { owner with reachable := false }.settle

end Owner

end NanHost
