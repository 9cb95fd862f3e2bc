import NanHost.Proofs.Agreement.Rosters
import NanHost.Proofs.Course

/-!
# Moves of a data path

Three parties act on a data path: the caller answers a peer or asks for the end, the firmware
confirms and ends paths and answers commands, and time runs out. `DataPath.Move` lists what any of
them can make of one path, with what comes out about it. Each move says what it found, so that what
holds of a path along its whole life can be shown move by move.

## What is proved

- `Move.place`: what comes out with a move is about the path that moves.
- `Move.follows`: no move takes a path back to an earlier stage, makes it another party's, or takes
  an answer back.
- `Move.up`: a path comes up by the firmware's confirmation alone.
-/

namespace NanHost

/-- The stages that a path may have reached after it was in a given one. -/
def DataPathState.mayBecome (before after : DataPathState) : Prop :=
  after = before ∨ after = .terminated ∨ after = .confirmed ∧ before ≠ .terminated

theorem DataPathState.mayBecome_trans {first second third : DataPathState}
    (before : first.mayBecome second) (after : second.mayBecome third) : first.mayBecome third := by
  unfold mayBecome at before after ⊢
  rcases before with rfl | rfl | ⟨rfl, live⟩
  · exact after
  · rcases after with rfl | rfl | ⟨_, live⟩
    · exact .inr (.inl rfl)
    · exact .inr (.inl rfl)
    · exact absurd rfl live
  · rcases after with rfl | rfl | ⟨rfl, _⟩
    · exact .inr (.inr ⟨rfl, live⟩)
    · exact .inr (.inl rfl)
    · exact .inr (.inr ⟨rfl, live⟩)

namespace DataPath

/-- What is left on record of a path: the path itself, unless nothing is left to keep it for. -/
def kept (path : DataPath) : Option DataPath := (some path).filter (!·.isDone)

theorem kept_eq_none {path : DataPath} : path.kept = none ↔ path.isDone = true := by
  simp [kept, Option.filter_eq_none_iff]

theorem kept_eq_some {path next : DataPath} :
    path.kept = some next ↔ next = path ∧ path.isDone = false := by
  rw [kept, Option.filter_eq_some_iff, Option.some.injEq, Bool.not_eq_true']
  constructor
  · rintro ⟨rfl, busy⟩
    exact ⟨rfl, busy⟩
  · rintro ⟨rfl, busy⟩
    exact ⟨rfl, busy⟩

/-- How the path of a number comes into being, by what the firmware reports: it answers an
initiation, or it passes on the request of a peer. -/
inductive Entry (id : DataPathId) (now : Timestamp) (graceMs : UInt64) :
    FirmwareEvent → List Effect → DataPath → Prop
  | numbered (txn : TransactionId) (kind : CommandKind) (request : InitiateRequest) :
    Entry id now graceMs (.commandCompleted txn (.ok (.pathId id)))
      [.told (.completed ⟨txn, kind, .ok (.dataPathInitiated id)⟩)]
      (.initiated id request)
  | requested (peer : PeerId) (address : MacAddress) (appInfo : ByteArray) :
    Entry id now graceMs (.dataPathRequested id peer address appInfo)
      [.told (.dataPathRequested id peer address appInfo)]
      (.requestedByPeer id peer address appInfo (now.addMillis graceMs))

/-- **What can become of the path of a number**, and what comes out about it. -/
inductive Move (id : DataPathId) (now : Timestamp) (path : DataPath) :
    List Effect → Option DataPath → Prop
  /-- The caller answers the peer. -/
  | answered (txn : TransactionId) (request : RespondRequest) (known : Option Capabilities)
    (about : request.pathId = id) (awaits : path.awaitsAnswer = true) :
    Move id now path [.issued txn (.respondDataPath request known)]
      (some ((path.attach txn).answered request))
  /-- The caller asks for the end. -/
  | endAsked (txn : TransactionId)
    (stage : path.state = .confirmed ∨ path.state = .awaitingLocalResponse)
    (notAsked : path.endPending = false) :
    Move id now path [.issued txn (.endDataPath id)]
      (some { (path.attach txn).withoutDeadline with endPending := true })
  /-- The firmware confirms the path. -/
  | confirmed (peerInterface : MacAddress) (appInfo : ByteArray)
    (confirmable : path.isConfirmable = true) :
    Move id now path [.told (.dataPathConfirmed id peerInterface appInfo)]
      (some (path.confirmed peerInterface appInfo))
  /-- The firmware reports that the path was not confirmed. -/
  | rejected (status : FirmwareStatus) (confirmable : path.isConfirmable = true) :
    Move id now path [.told (.dataPathTerminated id (.rejected status))] path.terminated.kept
  /-- The firmware ends the path. -/
  | ended (status : FirmwareStatus) (live : path.isLive = true) :
    Move id now path
      (if path.endPending then [] else [.told (.dataPathTerminated id (.firmware status))])
      path.terminated.withoutDeadline.kept
  /-- An answer has ended, and takes nothing down. -/
  | struck (txn : TransactionId) : Move id now path [] (path.detach txn).kept
  /-- An answer has failed, and takes the path down. -/
  | failed (txn : TransactionId) (given : path.response.isSome = true) :
    Move id now path
      (if path.isConfirmed then [.told (.dataPathTerminated id .setupFailed)] else [])
      (path.detach txn).terminated.kept
  /-- An end has ended. -/
  | endSettled (txn : TransactionId) (asked : path.endPending = true ∨ path.state = .terminated) :
    Move id now path [] (DataPath.kept { (path.detach txn).terminated with endPending := false })
  /-- The grace period is over, and the peer cannot be refused. -/
  | lapsed (overdue : path.isOverdue now = true) :
    Move id now path [.told (.dataPathTerminated id .responseTimeout)]
      path.terminated.withoutDeadline.kept
  /-- The grace period is over, and the peer is refused. -/
  | refused (txn : TransactionId) (known : Option Capabilities)
    (overdue : path.isOverdue now = true) :
    Move id now path
      [.told (.dataPathTerminated id .responseTimeout),
        .issued txn (.respondDataPath (.refusal id) known)]
      (some (path.terminated.withoutDeadline.attach txn))
  /-- The interface goes down, and the path with it. -/
  | fell (reason : TerminationReason) :
    Move id now path (if path.isOpen then [.told (.dataPathTerminated id reason)] else []) none

namespace Entry

variable {id : DataPathId} {now : Timestamp} {graceMs : UInt64} {event : FirmwareEvent}
  {effects : List Effect} {path : DataPath}

theorem place (entry : Entry id now graceMs event effects path) :
    ∀ effect ∈ effects, effect.place? = some (.path id) := by
  cases entry <;> simp [Effect.place?, Notification.place?]

end Entry

namespace Move

variable {id : DataPathId} {now : Timestamp} {path : DataPath} {effects : List Effect}
  {entry : Option DataPath}

/-- What comes out with a move is about the path that moves. -/
theorem place (move : Move id now path effects entry) :
    ∀ effect ∈ effects, effect.place? = some (.path id) := by
  cases move with
  | answered txn request known about => simp [Effect.place?, Command.place?, about]
  | endAsked => simp [Effect.place?, Command.place?]
  | confirmed | rejected | lapsed => simp [Effect.place?, Notification.place?]
  | refused => simp [Effect.place?, Notification.place?, Command.place?, RespondRequest.refusal]
  | ended | failed | fell => split <;> simp [Effect.place?, Notification.place?]
  | struck | endSettled => simp

end Move

/-- What holds between a path and what has become of it. -/
structure Follows (path next : DataPath) : Prop where
  /-- The path is at no earlier stage. -/
  stage : path.state.mayBecome next.state
  /-- The same party has asked for it. -/
  origin : next.origin = path.origin
  /-- An answer that was given stands. -/
  answer : ∀ accepted, path.response = some accepted → next.response = some accepted

namespace Follows

variable {path next : DataPath}

theorem refl (path : DataPath) : path.Follows path := ⟨.inl rfl, rfl, fun _ same => same⟩

theorem trans {first second third : DataPath} (before : first.Follows second)
    (after : second.Follows third) : first.Follows third where
  stage := DataPathState.mayBecome_trans before.stage after.stage
  origin := after.origin.trans before.origin
  answer accepted given := after.answer accepted (before.answer accepted given)

/-- A path that is what remains of one that follows. -/
theorem of_kept (follows : path.Follows next) {last : DataPath} (left : next.kept = some last) :
    path.Follows last := by
  obtain ⟨rfl, _⟩ := kept_eq_some.mp left
  exact follows

/-- A path that has gone down follows. -/
theorem down (origin : next.origin = path.origin) (response : next.response = path.response)
    (gone : next.state = .terminated) : path.Follows next where
  stage := .inr (.inl gone)
  origin := origin
  answer _ given := response.trans given

end Follows

/-- **No move takes a path back to an earlier stage**, makes it another party's, or takes an answer
back. -/
theorem Move.follows {id : DataPathId} {now : Timestamp} {path next : DataPath}
    {effects : List Effect} (move : Move id now path effects (some next)) : path.Follows next := by
  generalize result : some next = entry at move
  cases move with
  | answered txn request known about awaits =>
    obtain rfl := Option.some.inj result
    have unanswered : path.response = none := by simp_all [awaitsAnswer]
    unfold DataPath.answered
    split
    · exact ⟨.inl rfl, rfl, fun accepted given => by simp [unanswered] at given⟩
    · exact ⟨.inr (.inl rfl), rfl, fun accepted given => by simp [unanswered] at given⟩
  | endAsked =>
    obtain rfl := Option.some.inj result
    exact ⟨.inl rfl, rfl, fun _ given => given⟩
  | confirmed peerInterface appInfo confirmable =>
    obtain rfl := Option.some.inj result
    have live : path.state ≠ .terminated := by
      intro gone
      simp [isConfirmable, gone] at confirmable
    exact ⟨.inr (.inr ⟨rfl, live⟩), rfl, fun _ given => given⟩
  | struck txn =>
    have same : path.Follows (path.detach txn) := ⟨.inl rfl, rfl, fun _ given => given⟩
    exact same.of_kept result.symm
  | rejected | ended | failed | endSettled | lapsed =>
    refine Follows.of_kept (.down ?_ ?_ ?_) result.symm <;> rfl
  | refused =>
    obtain rfl := Option.some.inj result
    refine .down ?_ ?_ ?_ <;> rfl
  | fell => cases result

/-- A path that is up after a move was up before, or the move is that it comes up. -/
theorem Move.up {id : DataPathId} {now : Timestamp} {path next : DataPath} {effects : List Effect}
    (move : Move id now path effects (some next)) (up : next.state = .confirmed) :
    path.state = .confirmed ∨
      ∃ peerInterface appInfo, .told (.dataPathConfirmed id peerInterface appInfo) ∈ effects := by
  have notDown {last : DataPath} (down : last.state = .terminated) : some next ≠ last.kept := by
    intro left
    obtain ⟨rfl, _⟩ := kept_eq_some.mp left.symm
    rw [down] at up
    cases up
  generalize result : some next = entry at move
  cases move with
  | answered txn request known about awaits =>
    obtain rfl := Option.some.inj result
    unfold DataPath.answered at up
    split at up
    · exact .inl up
    · cases up
  | endAsked =>
    obtain rfl := Option.some.inj result
    exact .inl up
  | confirmed peerInterface appInfo =>
    exact .inr ⟨peerInterface, appInfo, List.mem_singleton_self _⟩
  | struck txn =>
    obtain ⟨rfl, _⟩ := kept_eq_some.mp result.symm
    exact .inl up
  | rejected | ended | failed | endSettled | lapsed => exact absurd result (notDown rfl)
  | refused =>
    obtain rfl := Option.some.inj result
    cases up
  | fell => cases result

/-- What has become of a path follows it. -/
theorem follows_of_course {id : DataPathId} {now : Timestamp} {path next : DataPath}
    {effects : List Effect} (course : Course (.path id) (Move id now) (some path) effects (some next)) :
    path.Follows next :=
  course.relates Follows Follows.refl Follows.trans Move.follows

end DataPath

end NanHost
