import NanHost.Proofs.Host.Calm
import NanHost.Proofs.Host.Order
import NanHost.Proofs.Simulation.Replies

/-!
# Closed loops — a host, a simulated firmware, and nobody else

In a closed loop the host hands its commands to a simulated firmware, and all that is reported to the
host comes from the firmware's channel, in order. Somebody takes events out of the channel and, at a
later time, hands them to the host; in between they are *in hand*. Requests, deadlines, shutdowns and
the clock come in at any moment, and at any moment the firmware may be told to fail or to ignore
commands of a kind, and to take them again.

## What is proved

- `reachable_run`: what a stimulus does to the host is one step of it at most, so a run of the loop is a
  run of the host.
- `onTheWay_take`: taking events out of the channel changes nothing in the events that are on their way.
- `step_deliver_cons`, `step_expireResponses`, `step_tick`: what handing over an event comes to, and what
  looking after the deadlines does when nobody waits for an answer from here.
-/

namespace NanHost

/-- A host whose firmware is simulated, with the events that were taken out of the channel and not
handed to the host yet, the oldest first. -/
@[ext] structure Loop where
  host : Host Simulator
  hand : List FirmwareEvent

/-- What can happen in a closed loop. -/
inductive Stimulus where
  | submit (request : Request)
  /-- Up to `count` events are taken out of the channel. -/
  | take (count : Nat)
  /-- The oldest event in hand is handed to the host. -/
  | deliver
  | expireTransactions
  | expireResponses
  | tick
  | shutdown
  | advance (millis : UInt64)
  /-- The firmware is told how to take commands of a kind from now on. -/
  | setMood (kind : CommandKind) (mood : Mood)

namespace Loop

/-- A closed loop before anything has happened. -/
def new (config : EngineConfig) (simulator : Simulator) (now : Timestamp) : Loop :=
  ⟨.new config simulator now, []⟩

/-- The simulated firmware. -/
def simulator (loop : Loop) : Simulator := loop.host.transport

/-- The events that the host has not been handed yet, the oldest first. -/
def onTheWay (loop : Loop) : List FirmwareEvent :=
  loop.hand ++ loop.simulator.events.waiting.toList

/-- What a stimulus does to the host, if anything. -/
def act? (loop : Loop) : Stimulus → Option (Act Simulator)
  | .submit request => some (.submit request)
  | .take count => some (.replaceTransport (loop.simulator.take count).2)
  | .deliver => loop.hand.head?.map .handle
  | .expireTransactions => some .expireTransactions
  | .expireResponses => some .expireResponses
  | .tick => some .tick
  | .shutdown => some .shutdown
  | .advance millis => some (.advance millis)
  | .setMood kind mood => some (.replaceTransport (loop.simulator.setMood kind mood))

/-- The events that are in hand after a stimulus. -/
def handAfter (loop : Loop) : Stimulus → List FirmwareEvent
  | .take count => loop.hand ++ (loop.simulator.take count).1.toList
  | .deliver => loop.hand.tail
  | _ => loop.hand

/-- The loop after something happened in it. -/
def step (loop : Loop) (stimulus : Stimulus) : Loop :=
  ⟨loop.host.run (loop.act? stimulus).toList, loop.handAfter stimulus⟩

/-- The loop after a number of things happened in it. -/
def run (loop : Loop) (stimuli : List Stimulus) : Loop := stimuli.foldl step loop

/-- How many numbers the firmware has taken from a counter between two states that are one stimulus
apart: one command at most was given a number. -/
def drawn (loop : Loop) (counter : Simulator → Nat) (next : Loop) : Nat :=
  if counter next.simulator = counter loop.simulator then 0 else 1

/-- How many numbers the firmware takes from a counter in a run. -/
def given (loop : Loop) (counter : Simulator → Nat) : List Stimulus → Nat
  | [] => 0
  | stimulus :: rest =>
    loop.drawn counter (loop.step stimulus) + (loop.step stimulus).given counter rest

/-- There were numbers for all commands, for all sessions and for all paths: not more than there are
were used. -/
structure Within (loop : Loop) (sessions paths : Nat) : Prop where
  filings : loop.host.filings ≤ Ledger.idCount
  sessions : sessions ≤ 255
  paths : paths < UInt32.size

variable {loop : Loop}

theorem run_append (loop : Loop) (first second : List Stimulus) :
    loop.run (first ++ second) = (loop.run first).run second := List.foldl_append

theorem reachable_step (reachable : loop.host.Reachable) (stimulus : Stimulus) :
    (loop.step stimulus).host.Reachable := reachable.run _

/-- **A run of the loop is a run of the host.** -/
theorem reachable_run (reachable : loop.host.Reachable) (stimuli : List Stimulus) :
    (loop.run stimuli).host.Reachable := by
  induction stimuli generalizing loop with
  | nil => exact reachable
  | cons stimulus rest ih => exact ih (reachable_step reachable stimulus)

/-- Commands that were filed stay filed. -/
theorem filings_step (reachable : loop.host.Reachable) (stimulus : Stimulus) :
    loop.host.filings ≤ (loop.step stimulus).host.filings := by
  unfold Host.filings
  rw [step, reachable.effects_run, List.countP_append]
  exact Nat.le_add_right _ _

theorem filings_run (reachable : loop.host.Reachable) (stimuli : List Stimulus) :
    loop.host.filings ≤ (loop.run stimuli).host.filings := by
  induction stimuli generalizing loop with
  | nil => exact Nat.le_refl _
  | cons stimulus rest ih =>
    exact Nat.le_trans (filings_step reachable stimulus) (ih (reachable_step reachable stimulus))

theorem given_append (loop : Loop) (counter : Simulator → Nat) (first second : List Stimulus) :
    loop.given counter (first ++ second) =
      loop.given counter first + (loop.run first).given counter second := by
  induction first generalizing loop with
  | nil => exact (Nat.zero_add _).symm
  | cons stimulus rest ih =>
    rw [List.cons_append, given, given, ih, Nat.add_assoc]
    rfl

/-- If there were numbers up to the end of a run, there were before. -/
theorem Within.of_run (reachable : loop.host.Reachable) {sessions paths moreSessions morePaths : Nat}
    (stimuli : List Stimulus)
    (within : (loop.run stimuli).Within (sessions + moreSessions) (paths + morePaths)) :
    loop.Within sessions paths where
  filings := Nat.le_trans (filings_run reachable stimuli) within.filings
  sessions := Nat.le_trans (Nat.le_add_right _ _) within.sessions
  paths := Nat.lt_of_le_of_lt (Nat.le_add_right _ _) within.paths

/-- **Taking events out of the channel** leaves those that are on their way as they are. -/
theorem onTheWay_take (loop : Loop) (count : Nat) :
    (loop.step (.take count)).onTheWay = loop.onTheWay := by
  have split : (loop.simulator.take count).1.toList ++
      (loop.simulator.take count).2.events.waiting.toList =
        loop.simulator.events.waiting.toList := by
    simp [Simulator.take, Channel.take, List.take_of_length_le]
  show (loop.hand ++ _) ++ _ = loop.hand ++ _
  rw [List.append_assoc]
  exact congrArg _ split

/-! ## What a stimulus comes down to -/

theorem transport_react (host : Host Simulator) (reaction : Reaction) :
    (host.react reaction).transport = host.transport := by
  rw [Host.react_eq]

/-- There may be nothing in hand to deliver. -/
theorem step_deliver_nil (hand : loop.hand = []) : loop.step .deliver = loop := by
  refine Loop.ext ?_ ?_
  · rw [step, act?, hand]
    rfl
  · rw [step, handAfter, hand]
    rfl

/-- What the delivery of an event comes to. -/
structure Delivers (loop : Loop) (event : FirmwareEvent) (rest : List FirmwareEvent) (next : Loop) :
    Prop where
  way : loop.onTheWay = event :: rest
  host : next.host = loop.host.handle event
  simulator : next.simulator = loop.simulator
  left : next.onTheWay = rest

theorem step_deliver_cons {event : FirmwareEvent} {rest : List FirmwareEvent}
    (hand : loop.hand = event :: rest) :
    loop.Delivers event (rest ++ loop.simulator.events.waiting.toList) (loop.step .deliver) := by
  have host : (loop.step .deliver).host = loop.host.handle event := by
    rw [step, act?, hand]
    rfl
  have simulator : (loop.step .deliver).simulator = loop.simulator := by
    unfold Loop.simulator
    rw [host]
    exact transport_react _ _
  refine ⟨?_, host, simulator, ?_⟩
  · rw [onTheWay, hand]
    rfl
  · rw [onTheWay, simulator, step, handAfter, hand]
    rfl

/-- Nobody waits for an answer from here. -/
theorem step_expireResponses (calm : loop.host.engine.Calm) : loop.step .expireResponses = loop :=
  Loop.ext (congrArg Prod.snd (Host.expireResponses_of_calm calm)) rfl

/-- So a tick gives up the commands whose time is over, and that is all. -/
theorem step_tick (calm : (loop.step .expireTransactions).host.engine.Calm) :
    loop.step .tick = loop.step .expireTransactions := by
  have quiet : (loop.step .expireTransactions).host.expireResponses.2 =
      (loop.step .expireTransactions).host := by rw [Host.expireResponses_of_calm calm]
  exact Loop.ext quiet rfl

end Loop

end NanHost
