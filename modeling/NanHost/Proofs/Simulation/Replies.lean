import NanHost.Proofs.Host.Progress
import NanHost.Simulator

/-!
# Replies — what a simulated firmware makes of a command

A simulated firmware takes a command or refuses it. If it takes it, it puts what it has to say into
its channel at once: nothing, that the command has failed, or its answer, which what follows from the
command comes behind. On the way it may give out the next number of a session or of a path.

## What is proved

- `answering`, `follows_iff`: what its answer brings and what follows the answer, by the command.
- `send_eq`: when a command is refused, and what becomes of the firmware otherwise (`Simulator.taken`).
- `takes_of_send`: what it has to say (`Simulator.replies`) is behind what was in the channel before,
  whole. There is always room for it, since a command is refused otherwise.
- `eq_of_refused`: a firmware that refuses a command is as it was.
- `Takes.sessions`, `Takes.paths`: a number that is given out is the next one, and it is named in the
  answer; if no answer names one, none was given out (`Draws`).
-/

namespace NanHost

/-- The number that an event gives to a session. -/
def FirmwareEvent.sessionNumber? : FirmwareEvent → Option Nat
  | commandCompleted _ (.ok (.sessionId id)) => some id.raw.toNat
  | _ => none

/-- The number that an event gives to a data path. -/
def FirmwareEvent.pathNumber? : FirmwareEvent → Option Nat
  | commandCompleted _ (.ok (.pathId id)) => some id.raw.toNat
  | _ => none

/-- A step draws a number from a counter, which goes on to the next one as long as it is below the
limit, or it draws none. -/
inductive Draws (limit : Nat) : Nat → Nat → List Nat → Prop
  | none (counter : Nat) : Draws limit counter counter []
  | one {counter next : Nat} (moves : next ≠ counter)
    (follows : counter < limit → next = counter + 1) : Draws limit counter next [counter]

/-- The number after a given one; after the last number comes the first. -/
def following (last number : Nat) : Nat := if number = last then 1 else number + 1

/-- A counter of a word that skips zero goes on to the following number. -/
theorem following_eq {size number : Nat} (below : number < size) :
    following (size - 1) number =
      if (number + 1) % size = 0 then 1 else (number + 1) % size := by
  unfold following
  by_cases last : number = size - 1
  · have full : number + 1 = size := by omega
    rw [if_pos last, full, Nat.mod_self, if_pos rfl]
  · have room : number + 1 < size := by omega
    rw [if_neg last, Nat.mod_eq_of_lt room, if_neg (Nat.succ_ne_zero number)]

/-- A counter that goes on to the following number gives its own out. -/
theorem draws_following {limit : Nat} (more : 1 < limit) (counter : Nat) :
    Draws limit counter (following limit counter) [counter] := by
  unfold following
  refine .one ?_ fun room => ?_
  · split <;> omega
  · rw [if_neg (Nat.ne_of_lt room)]

/-- Whether a command starts a session: it is about a service, and does not name a session. -/
def Command.starts : Command → Bool
  | publish session _ | subscribe session _ => !session.isAssigned
  | _ => false

theorem Command.starts_ofDiscovery (session : SessionId) (config : DiscoveryConfig) :
    (ofDiscovery session config).starts = !session.isAssigned := by
  cases config <;> rfl

/-- No command starts a session and initiates a path at once. -/
theorem Command.not_initiate_of_starts {command : Command} (starts : command.starts = true) :
    command.kind ≠ .initiateDataPath := by
  cases command with
  | initiateDataPath => cases starts
  | _ => nofun

namespace Simulator

variable {simulator next : Simulator} {id : TransactionId} {command : Command}

/-- The number that the next session is given. -/
def sessionCounter (simulator : Simulator) : Nat := simulator.nextSession.toNat

/-- The number that the next data path is given. -/
def pathCounter (simulator : Simulator) : Nat := simulator.nextPath.toNat

/-- What a simulated firmware has to say to a command that it takes. -/
def replies (simulator : Simulator) (id : TransactionId) (command : Command) :
    List FirmwareEvent :=
  match simulator.mood command.kind with
  | .silent => []
  | .failing status => [.commandCompleted id (.error status)]
  | .willing =>
    .commandCompleted id (.ok (simulator.answer command).1.1) ::
      (simulator.answer command).1.2.toList

/-- A simulated firmware after it has taken a command. -/
structure Takes (simulator : Simulator) (id : TransactionId) (command : Command)
    (next : Simulator) : Prop where
  events : next.events.waiting.toList =
    simulator.events.waiting.toList ++ simulator.replies id command
  mood : next.mood = simulator.mood
  sessions : Draws 255 simulator.sessionCounter next.sessionCounter
    ((simulator.replies id command).filterMap (·.sessionNumber?))
  paths : Draws (UInt32.size - 1) simulator.pathCounter next.pathCounter
    ((simulator.replies id command).filterMap (·.pathNumber?))

/-- An event for which there is room is put behind the others. -/
theorem queue_eq (isOpen : simulator.events.closed = false) (room : 0 < simulator.events.free)
    (event : FirmwareEvent) :
    simulator.queue event = { simulator with
      events := { simulator.events with waiting := simulator.events.waiting.push event } } := by
  unfold queue Channel.send
  simp only [isOpen, Bool.false_eq_true, if_false, if_neg (Nat.pos_iff_ne_zero.mp room)]

/-- So is its follow-up, if there is room for both. -/
theorem queue_all (isOpen : simulator.events.closed = false) (room : 2 ≤ simulator.events.free)
    (event : FirmwareEvent) (followUp : Option FirmwareEvent) :
    followUp.elim (simulator.queue event) (simulator.queue event).queue = { simulator with
      events := { simulator.events with
        waiting := simulator.events.waiting ++ (event :: followUp.toList).toArray } } := by
  have first := queue_eq isOpen (Nat.lt_of_lt_of_le (by decide) room) event
  cases followUp with
  | none => simp [first]
  | some follows =>
    have second := (simulator.queue event).queue_eq (by rw [first]; exact isOpen)
      (by
        rw [first]
        simp only [Channel.free, Array.size_push] at room ⊢
        omega) follows
    have both : (simulator.events.waiting.push event).push follows =
        simulator.events.waiting ++ #[event, follows] := Array.ext' (by simp)
    rw [Option.elim_some, second, first]
    simp [both]

theorem replies_willing (simulator : Simulator) {command : Command}
    (willing : simulator.mood command.kind = .willing) (id : TransactionId) :
    simulator.replies id command = .commandCompleted id (.ok (simulator.answer command).1.1) ::
      (simulator.answer command).1.2.toList := by
  rw [replies, willing]

/-- What a willing firmware answers to a command, and what it is after it has given out the number that
the answer names. -/
inductive Answering (simulator : Simulator) : Command → AnswerPayload → Simulator → Prop
  /-- It says what it can do, if it is asked. -/
  | report : Answering simulator .getCapabilities (.capabilities simulator.capabilities) simulator
  /-- A session that starts is given the next number. -/
  | session {command : Command} (starts : command.starts = true) :
    Answering simulator command (.sessionId ⟨simulator.nextSession⟩) simulator.numberSession.2
  /-- So is a path that is initiated. -/
  | path (request : InitiateRequest) (known : Option Capabilities) :
    Answering simulator (.initiateDataPath request known) (.pathId ⟨simulator.nextPath⟩)
      simulator.numberPath.2
  /-- There is nothing else to say but that a command was carried out. -/
  | empty {command : Command} (notAsked : command ≠ .getCapabilities)
    (noStart : command.starts = false) (notInitiated : command.kind ≠ .initiateDataPath) :
    Answering simulator command .empty simulator

theorem answering (simulator : Simulator) (command : Command) :
    simulator.Answering command (simulator.answer command).1.1 (simulator.answer command).2 := by
  have discovery {command : Command} {session : SessionId}
      (starts : command.starts = !session.isAssigned) (notAsked : command ≠ .getCapabilities)
      (notInitiated : command.kind ≠ .initiateDataPath) :
      simulator.Answering command (simulator.answerDiscovery session).1.1
        (simulator.answerDiscovery session).2 := by
    unfold answerDiscovery
    cases assigned : session.isAssigned with
    | true => exact .empty notAsked (by rw [starts, assigned]; rfl) notInitiated
    | false => exact .session (by rw [starts, assigned]; rfl)
  cases command with
  | getCapabilities => exact .report
  | publish | subscribe => exact discovery rfl nofun nofun
  | initiateDataPath request known => exact .path request known
  | _ => exact .empty nofun rfl nofun

namespace Answering

variable {payload : AnswerPayload}

theorem of_query (answering : simulator.Answering .getCapabilities payload next) :
    payload = .capabilities simulator.capabilities := by
  cases answering with
  | report => rfl
  | session starts => cases starts
  | empty notAsked => exact absurd rfl notAsked

theorem of_start (answering : simulator.Answering command payload next)
    (starts : command.starts = true) : payload = .sessionId ⟨simulator.nextSession⟩ := by
  cases answering with
  | report | path => cases starts
  | session => rfl
  | empty _ noStart =>
    rw [noStart] at starts
    cases starts

theorem of_initiate (answering : simulator.Answering command payload next)
    (initiates : command.kind = .initiateDataPath) : payload = .pathId ⟨simulator.nextPath⟩ := by
  cases answering with
  | report => cases initiates
  | session starts => exact absurd initiates (Command.not_initiate_of_starts starts)
  | path => rfl
  | empty _ _ notInitiated => exact absurd initiates notInitiated

theorem of_other (answering : simulator.Answering command payload next)
    (notAsked : command ≠ .getCapabilities) (noStart : command.starts = false)
    (notInitiated : command.kind ≠ .initiateDataPath) : payload = .empty := by
  cases answering with
  | report => exact absurd rfl notAsked
  | session starts =>
    rw [noStart] at starts
    cases starts
  | path => exact absurd rfl notInitiated
  | empty => rfl

/-- Giving a number out changes nothing but the counters. -/
theorem counters (answering : simulator.Answering command payload next) :
    next = { simulator with nextSession := next.nextSession, nextPath := next.nextPath } := by
  cases answering <;> rfl

end Answering

/-- What follows the answer to a command: a report about the path that the command names, or that the
answer gives a number. -/
inductive Follows (simulator : Simulator) : Command → FirmwareEvent → Prop
  /-- A path of one's own comes up, if paths come up without further ado. -/
  | initiated (confirms : simulator.autoConfirm = true) (request : InitiateRequest)
    (known : Option Capabilities) :
    Follows simulator (.initiateDataPath request known)
      (.dataPathConfirmed ⟨simulator.nextPath⟩ true request.peerAddress .empty .success)
  /-- So does the path of a peer who is accepted. -/
  | accepted (confirms : simulator.autoConfirm = true) (request : RespondRequest)
    (known : Option Capabilities) (accept : request.accept = true) :
    Follows simulator (.respondDataPath request known)
      (.dataPathConfirmed request.pathId true localInterface .empty .success)
  /-- A path that is ended goes down. -/
  | ended (path : DataPathId) :
    Follows simulator (.endDataPath path) (.dataPathTerminated path .success)

theorem follows_iff {event : FirmwareEvent} :
    (simulator.answer command).1.2 = some event ↔ simulator.Follows command event := by
  constructor
  · intro follows
    cases command with
    | initiateDataPath request known =>
      obtain ⟨confirms, here⟩ := Option.ite_none_right_eq_some.mp follows
      obtain rfl := Option.some.inj here
      exact .initiated confirms request known
    | respondDataPath request known =>
      obtain ⟨both, here⟩ := Option.ite_none_right_eq_some.mp follows
      obtain rfl := Option.some.inj here
      obtain ⟨confirms, accept⟩ := Bool.and_eq_true_iff.mp both
      exact .accepted confirms request known accept
    | endDataPath path =>
      obtain rfl := Option.some.inj follows
      exact .ended path
    | publish session config | subscribe session config =>
      simp only [answer, answerDiscovery] at follows
      split at follows <;> cases follows
    | _ => cases follows
  · intro follows
    cases follows with
    | initiated confirms => exact if_pos confirms
    | accepted confirms request known accept => exact if_pos (by rw [confirms, accept]; rfl)
    | ended => rfl

/-- What follows an answer is about a path. -/
theorem pathReport_of_follows {event : FirmwareEvent}
    (follows : (simulator.answer command).1.2 = some event) : event.pathReport?.isSome = true := by
  cases follows_iff.mp follows <;> rfl

/-- The session after a session is given the following number. -/
theorem sessionCounter_numberSession (simulator : Simulator) :
    simulator.numberSession.2.sessionCounter = following 255 simulator.sessionCounter := by
  show (if simulator.nextSession + 1 = 0 then (1 : UInt8) else simulator.nextSession + 1).toNat =
    following (2 ^ 8 - 1) simulator.nextSession.toNat
  rw [following_eq simulator.nextSession.toNat_lt, apply_ite UInt8.toNat]
  simp only [← UInt8.toNat_inj, UInt8.toNat_add, UInt8.toNat_one, UInt8.toNat_zero]

/-- So is the path after a path. -/
theorem pathCounter_numberPath (simulator : Simulator) :
    simulator.numberPath.2.pathCounter = following (UInt32.size - 1) simulator.pathCounter := by
  show (if simulator.nextPath + 1 = 0 then (1 : UInt32) else simulator.nextPath + 1).toNat =
    following (2 ^ 32 - 1) simulator.nextPath.toNat
  rw [following_eq simulator.nextPath.toNat_lt, apply_ite UInt32.toNat]
  simp only [← UInt32.toNat_inj, UInt32.toNat_add, UInt32.toNat_one, UInt32.toNat_zero]

/-! ## Commands that are taken and refused -/

/-- An event about a path gives no number. -/
theorem numberless_of_pathReport {event : FirmwareEvent} (about : event.pathReport?.isSome = true) :
    event.sessionNumber? = none ∧ event.pathNumber? = none := by
  cases event with
  | dataPathConfirmed | dataPathTerminated => exact ⟨rfl, rfl⟩
  | _ => cases about

/-- The numbers that a willing firmware gives out are those that its answer names. -/
theorem draws_answer (simulator : Simulator) (id : TransactionId) (command : Command) :
    Draws 255 simulator.sessionCounter (simulator.answer command).2.sessionCounter
        ((FirmwareEvent.commandCompleted id (.ok (simulator.answer command).1.1) ::
          (simulator.answer command).1.2.toList).filterMap (·.sessionNumber?)) ∧
      Draws (UInt32.size - 1) simulator.pathCounter (simulator.answer command).2.pathCounter
        ((FirmwareEvent.commandCompleted id (.ok (simulator.answer command).1.1) ::
          (simulator.answer command).1.2.toList).filterMap (·.pathNumber?)) := by
  have numberless : (simulator.answer command).1.2.toList.filterMap (·.sessionNumber?) = [] ∧
      (simulator.answer command).1.2.toList.filterMap (·.pathNumber?) = [] := by
    cases follows : (simulator.answer command).1.2 with
    | none => exact ⟨rfl, rfl⟩
    | some event =>
      obtain ⟨noSession, noPath⟩ := numberless_of_pathReport (pathReport_of_follows follows)
      simp [noSession, noPath]
  rw [List.filterMap_cons, List.filterMap_cons, numberless.1, numberless.2]
  have answering := simulator.answering command
  generalize (simulator.answer command).1.1 = payload, (simulator.answer command).2 = next
    at answering
  cases answering with
  | report | empty => exact ⟨.none _, .none _⟩
  | session starts =>
    rw [sessionCounter_numberSession]
    exact ⟨draws_following (by decide) _, .none _⟩
  | path request known =>
    rw [pathCounter_numberPath]
    exact ⟨.none _, draws_following (by decide) _⟩

/-- The firmware after it has given out the number that a command asks for, if it carries it out. -/
def numbering (simulator : Simulator) (command : Command) : Simulator :=
  match simulator.mood command.kind with
  | .willing => (simulator.answer command).2
  | .silent | .failing _ => simulator

/-- The firmware after it has taken a command: it has given out what number there was to give out, the
command is in its history, and what it has to say is in the channel. -/
def taken (simulator : Simulator) (id : TransactionId) (command : Command) : Simulator :=
  { simulator.numbering command with
    history := (simulator.record id command.kind).history
    events := { simulator.events with
      waiting := simulator.events.waiting ++ (simulator.replies id command).toArray } }

theorem numbering_counters (simulator : Simulator) (command : Command) :
    simulator.numbering command = { simulator with
      nextSession := (simulator.numbering command).nextSession
      nextPath := (simulator.numbering command).nextPath } := by
  unfold numbering
  split
  · exact (simulator.answering command).counters
  · rfl
  · rfl

/-- Giving a number out and writing the history commute, and neither touches the channel. -/
theorem record_answer (simulator : Simulator) (id : TransactionId) (command : Command) :
    (simulator.answer command).2.record id command.kind =
      { (simulator.answer command).2 with
        history := (simulator.record id command.kind).history
        events := simulator.events } := by
  rw [(simulator.answering command).counters]
  rfl

/-- **What becomes of a command.** It is refused if there is no room for two events, or if the receiver
has gone and there is something to say to it. -/
theorem send_eq (simulator : Simulator) (id : TransactionId) (command : Command) :
    simulator.send id command =
      if simulator.events.free < 2 ∨
          simulator.events.closed = true ∧ simulator.mood command.kind ≠ .silent then
        (.error .unavailable, simulator)
      else (.ok (), simulator.taken id command) := by
  unfold send
  dsimp only
  by_cases full : simulator.events.free < 2
  · rw [if_pos full, if_pos (.inl full)]
  · have room := Nat.not_lt.mp full
    rw [if_neg full]
    unfold taken numbering replies
    cases simulator.mood command.kind with
    | silent => simp [full, record]
    | failing status =>
      cases isOpen : simulator.events.closed with
      | true => simp
      | false =>
        have queued := (simulator.record id command.kind).queue_eq isOpen
          (by exact Nat.lt_of_lt_of_le (by decide) room) (.commandCompleted id (.error status))
        dsimp only
        rw [queued]
        simp [full, isOpen, record]
    | willing =>
      cases isOpen : simulator.events.closed with
      | true => simp
      | false =>
        have recorded := simulator.record_answer id command
        have queued := ((simulator.answer command).2.record id command.kind).queue_all
          (by rw [recorded]; exact isOpen) (by rw [recorded]; exact room)
          (.commandCompleted id (.ok (simulator.answer command).1.1)) (simulator.answer command).1.2
        dsimp only
        rw [queued, recorded]
        simp [full, isOpen]

/-- What a firmware has given out and put into its channel once it has taken a command. -/
theorem takes_taken (simulator : Simulator) (id : TransactionId) (command : Command) :
    simulator.Takes id command (simulator.taken id command) where
  events := Array.toList_append
  mood := by
    unfold taken
    rw [numbering_counters]
  sessions := by
    show Draws 255 _ (simulator.numbering command).sessionCounter _
    unfold numbering replies
    cases simulator.mood command.kind with
    | silent | failing status => exact .none _
    | willing => exact (simulator.draws_answer id command).1
  paths := by
    show Draws (UInt32.size - 1) _ (simulator.numbering command).pathCounter _
    unfold numbering replies
    cases simulator.mood command.kind with
    | silent | failing status => exact .none _
    | willing => exact (simulator.draws_answer id command).2

/-- **A command that is taken brings what there is to say to it.** -/
theorem takes_of_send (sent : simulator.send id command = (.ok (), next)) :
    simulator.Takes id command next := by
  rw [send_eq] at sent
  split at sent
  · cases sent
  · obtain rfl := (Prod.mk.inj sent).2
    exact simulator.takes_taken id command

/-- **A firmware that refuses a command is as it was.** -/
theorem eq_of_refused {error : TransportError} (sent : simulator.send id command = (.error error, next)) :
    next = simulator := by
  rw [send_eq] at sent
  split at sent
  · exact (Prod.mk.inj sent).2.symm
  · cases sent

end Simulator

end NanHost
