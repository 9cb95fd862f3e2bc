import NanHost.Owner
import NanHost.Proofs.Host.Reachable

/-!
# The office of an owner — what each party does, and what comes of it

An owner is reached through handles. Whoever has a handle may copy it, post requests and the word to
stop by it, and drop it; a handle whose request has not been answered is in use, and is not dropped.
The firmware and the link to it move on their own: events are sent, the channel is closed, the way
to the firmware is blocked and opened again. Time passes. The owner takes a turn when it is
scheduled. A schedule is any sequence of such deeds; one that is not possible does nothing.

## What is proved

- `chosen_of_choice?`: what the owner takes, and what it has found missing before it takes that.
- `stop_eq`: what stopping comes to.
- `host_step`, `host_run`: the host of the owner undergoes a run of its own, and nothing else.

## What is not

Calls that are cancelled. Whoever stops waiting for the answer to a request may drop the handle while
the request is still in the queue, and nobody hears what becomes of it. That is the only way in which a
handle can go before its request is answered, and there is no such deed here: `Deed.drop` does nothing
to a handle that is in use.
-/

namespace NanHost

/-- The ticket of a letter that waits for an answer. -/
def Letter.ticket? : Letter → Option Nat
  | submit ticket _ => some ticket
  | shutdown => none

/-- The answer to a letter that was not looked at. -/
def Answer.unheard (ticket : Nat) : Answer := ⟨ticket, .error .engineStopped⟩

namespace Owner

variable {σ : Type}

/-- The tickets of the letters that have not been taken yet. -/
def waiting (owner : Owner σ) : List Nat := owner.inbox.filterMap (·.ticket?)

/-- The tickets of the letters that were answered, the oldest answer first. -/
def answered (owner : Owner σ) : List Nat := owner.answers.toList.map (·.ticket)

/-- Letters that are returned are answered, and nothing else happens. -/
theorem foldl_returnLetter (owner : Owner σ) (letters : List Letter) :
    letters.foldl returnLetter owner =
      { owner with
        answers := owner.answers ++ ((letters.filterMap (·.ticket?)).map Answer.unheard).toArray } := by
  induction letters generalizing owner with
  | nil => simp
  | cons letter rest ih =>
    rw [List.foldl_cons, ih]
    cases letter <;> simp [returnLetter, answer, Letter.ticket?, Answer.unheard]

theorem answer?_eq_none_iff {owner : Owner σ} {ticket : Nat} :
    owner.answer? ticket = none ↔ ticket ∉ owner.answered := by
  simp [answer?, answered]

/-- Posting a letter does not stop an owner. -/
theorem running_post (owner : Owner σ) (letter : Letter) :
    (owner.post letter).running = owner.running := by
  rw [post]
  split
  · rfl
  · cases letter <;> rfl

/-- Nor does it do anything to the host. -/
theorem host_post (owner : Owner σ) (letter : Letter) : (owner.post letter).host = owner.host := by
  rw [post]
  split
  · rfl
  · cases letter <;> rfl

variable [FirmwareLink σ] {owner : Owner σ}

/-- What the owner takes: an event if there is one; if there is none and none can come, it stops; else
a letter; if there is none and none can come, it stops; else a tick that is due. -/
inductive Chosen (owner : Owner σ) : Choice σ → Prop
  | event {event : FirmwareEvent} {link : σ}
    (received : FirmwareLink.receive? owner.host.transport = some (event, link)) :
    Chosen owner (.event event link)
  | noMoreEvents (quiet : FirmwareLink.receive? owner.host.transport = none)
    (silenced : FirmwareLink.isSilenced owner.host.transport = true) : Chosen owner .noMoreEvents
  | letter {letter : Letter} {rest : List Letter}
    (quiet : FirmwareLink.receive? owner.host.transport = none)
    (sounding : FirmwareLink.isSilenced owner.host.transport = false)
    (next : owner.inbox = letter :: rest) : Chosen owner (.letter letter rest)
  | noMoreLetters (quiet : FirmwareLink.receive? owner.host.transport = none)
    (empty : owner.inbox = []) (unreachable : owner.reachable = false) :
    Chosen owner .noMoreLetters
  | tick (quiet : FirmwareLink.receive? owner.host.transport = none) (empty : owner.inbox = [])
    (due : owner.due ≤ owner.clock) : Chosen owner .tick

/-- **An owner takes what comes first in its order.** -/
theorem chosen_of_choice? {choice : Choice σ} (chosen : owner.choice? = some choice) :
    owner.running = true ∧ owner.Chosen choice := by
  unfold choice? at chosen
  split at chosen
  case isFalse => cases chosen
  case isTrue running =>
    refine ⟨running, ?_⟩
    split at chosen
    next event link received =>
      cases chosen
      exact .event received
    next quiet =>
      split at chosen
      next silenced =>
        cases chosen
        exact .noMoreEvents quiet silenced
      next sounding =>
        have sounding := Bool.eq_false_iff.mpr sounding
        split at chosen
        next letter rest next =>
          cases chosen
          exact .letter quiet sounding next
        next empty =>
          split at chosen
          next unreachable =>
            cases chosen
            exact .noMoreLetters quiet empty (by simpa using unreachable)
          next =>
            split at chosen
            next due =>
              cases chosen
              exact .tick quiet empty due
            next => cases chosen

/-- An owner that is running and has no event takes something if a letter is waiting. -/
theorem exists_choice? (running : owner.running = true)
    (quiet : FirmwareLink.receive? owner.host.transport = none) {letter : Letter}
    {rest : List Letter} (next : owner.inbox = letter :: rest) :
    owner.choice? = some .noMoreEvents ∨ owner.choice? = some (.letter letter rest) := by
  unfold choice?
  rw [if_pos running, quiet, next]
  cases FirmwareLink.isSilenced owner.host.transport
  · exact .inr rfl
  · exact .inl rfl

/-- **An owner that stops** gives up the commands that are out, hangs up, and returns its letters. -/
theorem stop_eq (owner : Owner σ) : owner.stop = { owner with
    host := { owner.host.shutdown with transport := FirmwareLink.hangUp owner.host.shutdown.transport }
    running := false
    inbox := []
    answers := owner.answers ++ (owner.waiting.map Answer.unheard).toArray } :=
  foldl_returnLetter _ owner.inbox

/-- What the owner does to its host when it takes something. -/
def Choice.acts (host : Host σ) : Choice σ → List (Act σ)
  | .event report link => [.replaceTransport link, .handle report]
  | .letter (.submit _ request) _ => [.submit request]
  | .tick => [.tick]
  | .letter .shutdown _ | .noMoreEvents | .noMoreLetters =>
    [.shutdown, .replaceTransport (FirmwareLink.hangUp host.shutdown.transport)]

theorem host_carryOut (owner : Owner σ) (choice : Choice σ) :
    (owner.carryOut choice).host = owner.host.run (choice.acts owner.host) := by
  cases choice with
  | event event link => rfl
  | letter letter rest =>
    cases letter with
    | submit ticket request => rfl
    | shutdown => rw [carryOut, stop_eq]; rfl
  | noMoreEvents | noMoreLetters => rw [carryOut, stop_eq]; rfl
  | tick => rfl

end Owner

/-- An owner, and those who write to it. -/
structure Office (σ : Type) where
  owner : Owner σ
  /-- The handles that there are. -/
  handles : List Nat
  /-- The requests that were posted, each with the handle by which it was. The ticket of a request
  is its place. -/
  calls : List (Nat × Request)

/-- What a party can do. -/
inductive Deed (σ : Type) where
  /-- A handle is copied. -/
  | copy (handle another : Nat)
  /-- A handle is dropped. -/
  | drop (handle : Nat)
  /-- A request is posted. -/
  | request (handle : Nat) (request : Request)
  /-- The owner is told to stop. -/
  | shutdown (handle : Nat)
  /-- The firmware and the link to it move on. -/
  | move (link : σ)
  /-- Time passes. -/
  | wait (millis : UInt64)
  /-- The owner takes a turn. -/
  | turn

/-- A request that was put to an engine, and the host to which it was. -/
structure Execution (σ : Type) where
  ticket : Nat
  request : Request
  host : Host σ

/-- What the request was answered. -/
def Execution.answer {σ : Type} [Transport σ] (execution : Execution σ) : Answer :=
  ⟨execution.ticket, (execution.host.submit execution.request).1⟩

namespace Office

variable {σ : Type}

/-- An owner that has just been started, and the first handle. -/
def opened (host : Host σ) : Office σ := ⟨.new host, [0], []⟩

/-- Whether a request that was posted by the handle has not been answered. -/
def inUse (office : Office σ) (handle : Nat) : Bool :=
  office.calls.zipIdx.any fun entry =>
    entry.1.1 = handle && (office.owner.answer? entry.2).isNone

variable [FirmwareLink σ]

/-- The office after a deed. -/
def step (office : Office σ) : Deed σ → Office σ
  | .copy handle another =>
    if handle ∈ office.handles then { office with handles := office.handles ++ [another] } else office
  | .drop handle =>
    if office.inUse handle then office
    else
      let handles := office.handles.filter (· ≠ handle)
      { office with
        handles := handles
        owner := { office.owner with reachable := !handles.isEmpty } }
  | .request handle request =>
    if handle ∈ office.handles then
      { office with
        owner := office.owner.request request
        calls := office.calls ++ [(handle, request)] }
    else office
  | .shutdown handle =>
    if handle ∈ office.handles then { office with owner := office.owner.post .shutdown } else office
  | .move link =>
    { office with owner := { office.owner with host := { office.owner.host with transport := link } } }
  | .wait millis =>
    { office with owner := { office.owner with
      clock := office.owner.clock + millis.toNat
      host := office.owner.host.advance millis } }
  | .turn => { office with owner := office.owner.turn?.getD office.owner }

/-- The office after a schedule. -/
def run (office : Office σ) (deeds : List (Deed σ)) : Office σ := deeds.foldl step office

/-- What a deed does to the owner's host. -/
def actsOf (office : Office σ) : Deed σ → List (Act σ)
  | .move link => [.replaceTransport link]
  | .wait millis => [.advance millis]
  | .turn => (office.owner.choice?.map (·.acts office.owner.host)).getD []
  | _ => []

/-- What a schedule does to the owner's host. -/
def acts (office : Office σ) : List (Deed σ) → List (Act σ)
  | [] => []
  | deed :: rest => office.actsOf deed ++ (office.step deed).acts rest

/-- The request that is put to the engine by a deed. -/
def executed (office : Office σ) : Deed σ → List (Execution σ)
  | .turn =>
    match office.owner.choice? with
    | some (.letter (.submit ticket request) _) => [⟨ticket, request, office.owner.host⟩]
    | _ => []
  | _ => []

/-- The requests that are put to the engine in a schedule, in order. -/
def executions (office : Office σ) : List (Deed σ) → List (Execution σ)
  | [] => []
  | deed :: rest => office.executed deed ++ (office.step deed).executions rest

variable {office : Office σ}

theorem run_append (first second : List (Deed σ)) :
    office.run (first ++ second) = (office.run first).run second := List.foldl_append

/-! ## The host of the owner -/

theorem host_step (deed : Deed σ) :
    (office.step deed).owner.host = office.owner.host.run (office.actsOf deed) := by
  cases deed with
  | copy | drop =>
    rw [step]
    split <;> rfl
  | request | shutdown =>
    rw [step]
    split
    · exact Owner.host_post _ _
    · rfl
  | move | wait => rfl
  | turn =>
    rw [step, actsOf, Owner.turn?]
    cases office.owner.choice? with
    | none => rfl
    | some choice => exact Owner.host_carryOut office.owner choice

/-- **The host undergoes a run**, and nothing else. -/
theorem host_run (deeds : List (Deed σ)) :
    (office.run deeds).owner.host = office.owner.host.run (office.acts deeds) := by
  induction deeds generalizing office with
  | nil => rfl
  | cons deed rest ih =>
    rw [acts, Host.run, List.foldl_append, ← Host.run, ← Host.run, ← host_step]
    exact ih

end Office

end NanHost
