import NanHost.Proofs.Agreement.Rosters
import NanHost.Proofs.Course

/-!
# Moves of a session

A session is used and updated while it is active. It is stopped by the caller, or ended by the
firmware, or it goes down with the interface. `Session.Move` lists what can become of one session,
with what comes out about it.

Most of what becomes of a session is that it is used, or that a command about it has ended, one way
or another. These moves are set apart (`Session.Endures`): nothing comes out with them, and they end
no session that is active.

## What is proved

- `Move.place`: what comes out with a move is about the session that moves.
- `Move.mayBecome`: no move takes a session back to an earlier stage.
- `active_of_enduring`: a session that is active stays so while it is used and while commands about
  it end.
-/

namespace NanHost

/-- The stages that a session may have reached after it was in a given one. -/
def SessionState.mayBecome (before after : SessionState) : Prop :=
  after = before ∨ after = .terminated ∨ before = .active ∧ after = .terminating

theorem SessionState.mayBecome_trans {first second third : SessionState}
    (before : first.mayBecome second) (after : second.mayBecome third) : first.mayBecome third := by
  unfold mayBecome at before after ⊢
  rcases before with rfl | rfl | ⟨rfl, rfl⟩
  · exact after
  · rcases after with rfl | rfl | ⟨active, _⟩
    · exact .inr (.inl rfl)
    · exact .inr (.inl rfl)
    · cases active
  · rcases after with rfl | rfl | ⟨active, _⟩
    · exact .inr (.inr ⟨rfl, rfl⟩)
    · exact .inr (.inl rfl)
    · cases active

namespace Session

/-- What is left on record of a session: the session itself, unless nothing is left to keep it
for. -/
def kept (session : Session) : Option Session := (some session).filter (!·.isDone)

theorem kept_eq_none {session : Session} : session.kept = none ↔ session.isDone = true := by
  simp [kept, Option.filter_eq_none_iff]

theorem kept_eq_some {session next : Session} :
    session.kept = some next ↔ next = session ∧ session.isDone = false := by
  rw [kept, Option.filter_eq_some_iff, Option.some.injEq, Bool.not_eq_true']
  constructor
  · rintro ⟨rfl, busy⟩
    exact ⟨rfl, busy⟩
  · rintro ⟨rfl, busy⟩
    exact ⟨rfl, busy⟩

/-- How the session of a number comes into being: the firmware answers a start. -/
inductive Entry (id : SessionId) : FirmwareEvent → List Effect → Session → Prop
  | started (txn : TransactionId) (kind : CommandKind) (config : DiscoveryConfig) :
    Entry id (.commandCompleted txn (.ok (.sessionId id)))
      [.told (.completed ⟨txn, kind, .ok (.sessionStarted id config.role)⟩)] (.started id config)

/-- What can become of a session without anybody ending it. -/
inductive Endures (session : Session) : Option Session → Prop
  /-- A command about the session was sent, or the session met a peer. -/
  | used (next : Session) (stage : next.state = session.state) (busy : next.isDone = false) :
    Endures session (some next)
  /-- An update or a message has ended. -/
  | settled (next : Session) (stage : next.state = session.state) : Endures session next.kept
  /-- A stop has ended. -/
  | stopped (next : Session) (stopping : session.state ≠ .active)
    (gone : next.state = .terminated) : Endures session next.kept

/-- The same, as a move with which nothing comes out. -/
def Enduring (session : Session) (effects : List Effect) (entry : Option Session) : Prop :=
  effects = [] ∧ session.Endures entry

/-- **What can become of the session of a number**, and what comes out about it. -/
inductive Move (id : SessionId) (session : Session) : List Effect → Option Session → Prop
  /-- Nobody ends it. -/
  | endures {entry : Option Session} (endures : session.Endures entry) : Move id session [] entry
  /-- The caller asks for the end. -/
  | stopAsked (txn : TransactionId) (command : Command)
    (about : command = .stopPublish id ∨ command = .stopSubscribe id)
    (active : session.state = .active) :
    Move id session [.issued txn command]
      (some { session.attach txn with state := .terminating })
  /-- The firmware ends the session. -/
  | ended (status : FirmwareStatus) (live : session.isLive = true) :
    Move id session
      (if session.isActive then
        [.told (.sessionTerminated id session.role (.firmware status))] else [])
      (kept { session with state := .terminated, peers := ∅ })
  /-- The interface goes down, and the session with it. -/
  | fell (reason : TerminationReason) :
    Move id session
      (if session.isActive then [.told (.sessionTerminated id session.role reason)] else []) none

theorem Entry.place {id : SessionId} {event : FirmwareEvent} {effects : List Effect}
    {session : Session} (entry : Entry id event effects session) :
    ∀ effect ∈ effects, effect.place? = some (.session id) := by
  cases entry
  simp [Effect.place?, Notification.place?]

namespace Move

variable {id : SessionId} {session : Session} {effects : List Effect}

/-- What comes out with a move is about the session that moves. -/
theorem place {entry : Option Session} (move : Move id session effects entry) :
    ∀ effect ∈ effects, effect.place? = some (.session id) := by
  cases move with
  | endures => simp
  | stopAsked txn command about =>
    rcases about with rfl | rfl <;> simp [Effect.place?, Command.place?]
  | ended | fell => split <;> simp [Effect.place?, Notification.place?]

/-- A move with which nothing comes out. -/
theorem of_enduring {entry : Option Session} (enduring : session.Enduring effects entry) :
    Move id session effects entry := by
  obtain ⟨rfl, endures⟩ := enduring
  exact .endures endures

/-- **No move takes a session back to an earlier stage.** -/
theorem mayBecome {next : Session} (move : Move id session effects (some next)) :
    session.state.mayBecome next.state := by
  generalize result : some next = entry at move
  cases move with
  | endures endures =>
    cases endures with
    | used last stage =>
      obtain rfl := Option.some.inj result
      exact .inl stage
    | settled last stage =>
      obtain ⟨rfl, _⟩ := kept_eq_some.mp result.symm
      exact .inl stage
    | stopped last _ gone =>
      obtain ⟨rfl, _⟩ := kept_eq_some.mp result.symm
      exact .inr (.inl gone)
  | stopAsked txn command about active =>
    obtain rfl := Option.some.inj result
    exact .inr (.inr ⟨active, rfl⟩)
  | ended =>
    obtain ⟨rfl, _⟩ := kept_eq_some.mp result.symm
    exact .inr (.inl rfl)
  | fell => cases result

end Move

variable {id : SessionId} {session : Session} {effects : List Effect}

/-- What becomes of a session is at no earlier stage. -/
theorem mayBecome_of_course {next : Session}
    (course : Course (.session id) (Move id) (some session) effects (some next)) :
    session.state.mayBecome next.state :=
  course.relates (fun before after => before.state.mayBecome after.state) (fun _ => .inl rfl)
    SessionState.mayBecome_trans Move.mayBecome

/-- **A session that is active stays so as long as nobody ends it.** -/
theorem active_of_enduring {entry : Option Session} (active : session.state = .active)
    (course : Course (.session id) Enduring (some session) effects entry) :
    ∃ next, entry = some next ∧ next.state = .active := by
  refine course.keeps
    (fun (entry : Option Session) _ => ∃ next : Session, entry = some next ∧ next.state = .active)
    (fun _ here => here) ?_ [] ⟨session, rfl, active⟩
  rintro before _ _ _ ⟨_, endures⟩ ⟨_, here, active⟩
  obtain rfl := Option.some.inj here
  cases endures with
  | used next stage => exact ⟨next, rfl, stage.trans active⟩
  | settled next stage =>
    have still : next.state = .active := stage.trans active
    exact ⟨next, kept_eq_some.mpr ⟨rfl, by simp [isDone, still]⟩, still⟩
  | stopped _ stopping => exact absurd active stopping

end Session

end NanHost
