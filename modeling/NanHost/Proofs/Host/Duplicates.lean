import NanHost.Proofs.Engine.Remainder
import NanHost.Proofs.Host.Reuse
import NanHost.Proofs.Overtaking

/-!
# Duplicates — a report that is delivered twice does no harm

The way from the firmware may deliver a report again. The first delivery may end a session or a
path, leave one on record that is terminated, take the interface down, or replay what was held back;
each of the states that it leaves has to absorb the second.

## What is proved

`run_duplicates`: after any run, a report that was just handled changes nothing when it is handled
once more. Nothing is told, either, but for the reports that say what is seen and not what has
become of something (`FirmwareEvent.recurs`): these are told again, word for word.

The one exception is a report about a path that is not on record while an initiation is under way,
which is held back as often as it comes. `Engine.Coherent.handle_again` says that there is no other:
a second delivery meets one of three fates (`Engine.Again`).
-/

namespace NanHost

/-- Whether an event says what is seen, so that it may be told as often as it comes. -/
def FirmwareEvent.recurs : FirmwareEvent → Bool
  | sessionMatched .. | messageReceived .. | identityChanged _ => true
  | _ => false

/-- What has become of a path is told once. -/
theorem FirmwareEvent.recurs_of_isPathReport {event : FirmwareEvent} {id : DataPathId}
    (about : event.isPathReport id = true) : event.recurs = false := by
  cases event with
  | dataPathConfirmed | dataPathTerminated => rfl
  | _ => cases about

/-- A report is about one path at most. -/
theorem FirmwareEvent.isPathReport_unique {event : FirmwareEvent} {id other : DataPathId}
    (about : event.isPathReport id = true) (about' : event.isPathReport other = true) :
    id = other := by
  cases event with
  | dataPathConfirmed path | dataPathTerminated path =>
    exact (of_decide_eq_true about).symm.trans (of_decide_eq_true about')
  | _ => cases about

/-! ## The tables -/

/-- What a session learns from a message that it hears again it has learnt already. -/
theorem Session.heard_sight (session : Session) (peer : PeerId) (address : MacAddress)
    (now : Timestamp) :
    (session.sight (session.heard peer address now)).heard peer address now =
      session.heard peer address now := by
  simp [sight, heard]

namespace SessionRegistry

variable {registry : SessionRegistry} {session : SessionId}

/-- A sighting that is repeated changes nothing, as long as what it teaches is not changed by what it
has taught. -/
theorem sight_sight (registry : SessionRegistry) (id : SessionId) {learn : Session → PeerRecord}
    (same : ∀ session, learn (session.sight (learn session)) = learn session) :
    (registry.sight id learn).2.sight id learn = registry.sight id learn := by
  rcases registry.sight_cases id learn with ⟨ignored, _⟩ | ⟨session, found, active, noted⟩
  · rw [ignored, ignored]
  · let seen := session.sight (learn session)
    have there : (registry.put id seen).get? id = some seen := by rw [get?_put, if_pos rfl]
    have stays : seen.isActive = true := active
    have again : seen.sight (learn seen) = seen := by
      rw [same]
      simp only [seen, Session.sight, Tables.insert_insert]
    have replaced : (registry.put id seen).put id seen = registry.put id seen := by
      simp only [put, Tables.insert_insert]
    rw [noted]
    show (registry.put id seen).sight id learn = (true, registry.put id seen)
    unfold sight
    simp only [there, stays, again, replaced, if_true]

/-- The end of a session that has ended is passed over. -/
theorem onTerminated_of_ended
    (ended : ∀ entry, registry.get? session = some entry → entry.state = .terminated) :
    registry.onTerminated session = (.unknown, registry) := by
  unfold onTerminated
  cases found : registry.get? session with
  | none => rfl
  | some entry =>
    dsimp only
    rw [ended entry found]

/-- A session that has ended is gone, or on record as terminated. -/
theorem ended_onTerminated {entry : Session}
    (left : (registry.onTerminated session).2.get? session = some entry) :
    entry.state = .terminated := by
  unfold onTerminated at left
  cases found : registry.get? session with
  | none =>
    simp only [found] at left
    cases left
  | some before =>
    simp only [found] at left
    cases stage : before.state with
    | active | terminating =>
      simp only [stage] at left
      rw [eq_of_get?_put_purge left]
    | terminated =>
      simp only [stage] at left
      obtain rfl := Option.some.inj (found.symm.trans left)
      exact stage

end SessionRegistry

/-- Whether a report about a path on record changes nothing. -/
def HeldEvent.passesOver (path : DataPath) : HeldEvent → Bool
  | confirmed .. => !path.isConfirmable
  | terminated _ => !path.isLive

namespace Engine

variable {engine : Engine} {id : DataPathId}

/-! ## Reports about sessions -/

/-- Nor does the engine tell anything else. -/
theorem sight_again (engine : Engine) (id : SessionId) {learn : Session → PeerRecord}
    (same : ∀ session, learn (session.sight (learn session)) = learn session)
    (notice : Notification) :
    (engine.sight id learn notice).1.sight id learn notice = engine.sight id learn notice := by
  unfold sight
  dsimp only
  rw [SessionRegistry.sight_sight _ id same]

/-- A session that has ended is not ended again. -/
theorem onSessionTerminated_again (engine : Engine) (session : SessionId)
    (status : FirmwareStatus) :
    (engine.onSessionTerminated session status).1.onSessionTerminated session status =
      (engine.onSessionTerminated session status).1.quiet := by
  have ended : (engine.sessions.onTerminated session).2.onTerminated session = _ :=
    SessionRegistry.onTerminated_of_ended fun _ left => SessionRegistry.ended_onTerminated left
  unfold onSessionTerminated
  dsimp only
  rw [ended]
  rfl

/-! ## Reports about paths -/

/-- The request that a peer makes again finds the path on record. -/
theorem onPathRequested_again (engine : Engine) (path : DataPathId) (peer : PeerId)
    (address : MacAddress) (appInfo : ByteArray) (now : Timestamp) :
    (engine.onPathRequested path peer address appInfo now).1.onPathRequested path peer address
        appInfo now =
      (engine.onPathRequested path peer address appInfo now).1.quiet := by
  have ignored (same : engine.onPathRequested path peer address appInfo now = engine.quiet) :
      (engine.onPathRequested path peer address appInfo now).1.onPathRequested path peer address
          appInfo now = (engine.onPathRequested path peer address appInfo now).1.quiet := by
    rw [same]
    exact same
  cases enabled : engine.interface.isEnabled with
  | false => exact ignored (by simp [onPathRequested, enabled])
  | true =>
    rcases engine.paths.onRequest_cases path peer address appInfo now with
      taken | ⟨free, entered⟩
    · exact ignored (by simp [onPathRequested, enabled, taken, quiet])
    · refine onPathRequested_taken ?_ peer address appInfo now
      simp [holds, onPathRequested, enabled, entered, DataPathTable.get?_put]

theorem replay_of_passedOver {path : DataPath} {event : HeldEvent}
    (found : engine.paths.get? id = some path) (deaf : event.passesOver path = true) :
    engine.replay id event = engine.quiet := by
  cases event with
  | confirmed =>
    have deaf : (!path.isConfirmable) = true := deaf
    simp only [replay, onPathConfirmed, DataPathTable.onConfirmed, found, deaf, if_true]
    rfl
  | terminated =>
    have deaf : (!path.isLive) = true := deaf
    simp only [replay, onPathTerminated, DataPathTable.onTerminated, found, deaf, if_true]
    rfl

/-- A path that is on record after a report has nothing more to learn from it. -/
theorem passesOver_replay {path : DataPath} {event : HeldEvent}
    (left : (engine.replay id event).1.paths.get? id = some path) :
    event.passesOver path = true := by
  cases found : engine.paths.get? id with
  | none =>
    rw [replay_of_absent found] at left
    have left : engine.paths.get? id = some path := by
      split at left <;> exact left
    simp [found] at left
  | some before =>
    cases known : event.passesOver before with
    | true =>
      rw [replay_of_passedOver found known] at left
      obtain rfl := Option.some.inj (found.symm.trans left)
      exact known
    | false =>
      cases event with
      | confirmed accepted =>
        have heard : (!before.isConfirmable) = false := known
        simp only [replay, onPathConfirmed, DataPathTable.onConfirmed, found, heard] at left
        cases accepted with
        | true =>
          have left : (engine.paths.put id (before.confirmed _ _)).get? id = some path := left
          rw [DataPathTable.get?_put, if_pos rfl] at left
          rw [← Option.some.inj left]
          rfl
        | false =>
          rw [DataPathTable.eq_of_get?_put_purge left]
          rfl
      | terminated =>
        have heard : (!before.isLive) = false := known
        simp only [replay, onPathTerminated, DataPathTable.onTerminated, found, heard] at left
        rw [DataPathTable.eq_of_get?_put_purge left]
        rfl

/-- A report that is replayed again is held back if its path is not on record and an initiation is
under way, and passed over otherwise. -/
theorem replay_again (engine : Engine) (id : DataPathId) (event : HeldEvent) :
    (engine.replay id event).1.replay id event =
      if (engine.replay id event).1.paths.get? id = none ∧ engine.paths.initiating ≠ ∅ then
        ((engine.replay id event).1.hold id event).quiet
      else (engine.replay id event).1.quiet := by
  have initiating := (engine.spares_replay id event).initiating
  cases left : (engine.replay id event).1.paths.get? id with
  | none =>
    rw [replay_of_absent left, initiating]
    by_cases idle : engine.paths.initiating = ∅
    · simp [idle]
    · simp [idle, Std.ExtTreeMap.isEmpty_iff]
  | some path =>
    rw [replay_of_passedOver left (passesOver_replay left)]
    simp

/-! ## Answers and the interface going down -/

namespace Coherent

/-- A command that was answered is not on file. -/
theorem onCompleted_again (coherent : engine.Coherent) (txn : TransactionId)
    (outcome : Except FirmwareStatus AnswerPayload) :
    (engine.onCompleted txn outcome).1.onCompleted txn outcome =
      (engine.onCompleted txn outcome).1.quiet :=
  onCompleted_of_absent (coherent.get?_onCompleted txn outcome) outcome

/-- An interface that went down is down. -/
theorem onInterfaceDown_again (coherent : engine.Coherent) (status : FirmwareStatus) :
    (engine.onInterfaceDown status).1.onInterfaceDown status =
      (engine.onInterfaceDown status).1.quiet := by
  refine (coherent.onInterfaceDown status).onInterfaceDown_of_down ?_ status
  by_cases down : engine.interface.phase = .disabled
  · rw [coherent.onInterfaceDown_of_down down]
    exact down
  · rw [coherent.onInterfaceDown_exact down]
    rfl

end Coherent

/-! ## All reports -/

/-- An event that is held back leaves its trace. -/
theorem hold_ne (engine : Engine) (id : DataPathId) (event : HeldEvent) :
    engine.hold id event ≠ engine := by
  intro same
  have held : (engine.paths.hold id event).held[id]? = engine.paths.held[id]? :=
    congrArg (fun engine : Engine => engine.paths.held[id]?) same
  rw [DataPathTable.getElem?_held_hold, if_pos rfl] at held
  cases before : engine.paths.held[id]? <;> simp [before] at held

/-- What the reaction to a second delivery is, given the reaction to the first. -/
inductive Again (engine : Engine) (event : FirmwareEvent) (first second : Reaction) : Prop
  /-- What is seen is told again. -/
  | recurs (sight : event.recurs = true) (again : second = first)
  /-- What has become of something is known already. -/
  | absorbed (fact : event.recurs = false)
    (known : ∀ id, event.isPathReport id = true → first.1.paths.get? id = none →
      engine.paths.initiating = ∅)
    (again : second = first.1.quiet)
  /-- What may yet find its path is held back once more. -/
  | heldBack (id : DataPathId) (held : HeldEvent) (about : event.isPathReport id = true)
    (absent : first.1.paths.get? id = none) (underWay : engine.paths.initiating ≠ ∅)
    (again : second = (first.1.hold id held).quiet)

/-- What is no report about a path is not held back. -/
theorem Again.absorbs {event : FirmwareEvent} {first second : Reaction}
    (fact : event.recurs = false) (elsewhere : ∀ id, event.isPathReport id = false)
    (again : second = first.1.quiet) : Again engine event first second := by
  refine .absorbed fact (fun id about _ => ?_) again
  rw [elsewhere] at about
  cases about

/-- So a report about a path that is delivered again meets one of two. -/
theorem again_of_isPathReport (engine : Engine) (now : Timestamp) {event : FirmwareEvent}
    (about : event.isPathReport id = true) :
    Again engine event (engine.handle now event)
      ((engine.handle now event).1.handle now event) := by
  obtain ⟨held, replayed⟩ := FirmwareEvent.exists_replay about
  rw [replayed, replayed]
  have again := engine.replay_again id held
  split at again
  next unknown => exact .heldBack id held about unknown.1 unknown.2 again
  next known =>
    refine .absorbed (FirmwareEvent.recurs_of_isPathReport about) ?_ again
    intro other about' absent
    obtain rfl := FirmwareEvent.isPathReport_unique about about'
    by_contra underWay
    exact known ⟨absent, underWay⟩

/-- **A second delivery** meets one of three fates. -/
theorem Coherent.handle_again (coherent : engine.Coherent) (now : Timestamp)
    (event : FirmwareEvent) :
    Again engine event (engine.handle now event)
      ((engine.handle now event).1.handle now event) := by
  cases event with
  | commandCompleted txn outcome =>
    exact .absorbs rfl (fun _ => rfl) (coherent.onCompleted_again txn outcome)
  | sessionMatched session peer address serviceSpecificInfo matchFilter =>
    simp only [Engine.handle, onMatched_eq]
    exact .recurs rfl (engine.sight_again session (fun _ => rfl) _)
  | messageReceived session peer address payload =>
    simp only [Engine.handle, onMessage_eq]
    exact .recurs rfl (engine.sight_again session (Session.heard_sight · peer address now) _)
  | sessionTerminated session status =>
    exact .absorbs rfl (fun _ => rfl) (engine.onSessionTerminated_again session status)
  | dataPathRequested path peer address appInfo =>
    exact .absorbs rfl (fun _ => rfl) (engine.onPathRequested_again path peer address appInfo now)
  | dataPathConfirmed path | dataPathTerminated path =>
    exact again_of_isPathReport engine now (decide_eq_true (rfl : path = path))
  | identityChanged address => exact .recurs rfl rfl
  | interfaceDown status => exact .absorbs rfl (fun _ => rfl) (coherent.onInterfaceDown_again status)

end Engine

/-! ## Runs -/

namespace Host

variable {σ : Type} {host : Host σ}

/-- The second delivery of a report, to a host. -/
theorem handle_again (coherent : host.engine.Coherent) (event : FirmwareEvent) :
    host.engine.Again event (host.engine.handle host.now event)
      ((host.handle event).engine.handle (host.handle event).now event) := by
  have handled : host.handle event = _ := react_eq host _
  rw [handled]
  exact coherent.handle_again host.now event

variable [Transport σ]

/-- A report that is delivered twice does no harm. -/
structure HarmlessDuplicates (start : Host σ) : Prop where
  /-- A report that was just handled changes nothing when it is handled once more. For a report
  about a path no initiation may be under way. -/
  state : ∀ acts event,
    ((∃ id, event.isPathReport id = true) → (start.run acts).engine.paths.initiating = ∅) →
    (start.run (acts ++ [.handle event, .handle event])).engine =
      (start.run (acts ++ [.handle event])).engine
  /-- Whatever is under way, the second time nothing comes out, but for what may be told as often as
  it is seen. That comes out again as it did before. -/
  out : ∀ acts event, (start.run (acts ++ [.handle event])).emitted [.handle event] =
    if event.recurs then (start.run acts).emitted [.handle event] else []
  /-- While an initiation is under way, a report about a path that is not on record is held back
  each time that it comes. -/
  heldBack : ∀ acts event id, event.isPathReport id = true →
    (start.run acts).engine.paths.initiating ≠ ∅ →
    (start.run (acts ++ [.handle event])).engine.paths.get? id = none →
    (start.run (acts ++ [.handle event, .handle event])).engine ≠
      (start.run (acts ++ [.handle event])).engine

/-- **A report that is delivered twice does no harm**, after any run. -/
theorem run_duplicates (config : EngineConfig) (transport : σ) (now : Timestamp) :
    (Host.new config transport now).HarmlessDuplicates := by
  have reachable := Reachable.new config transport now
  generalize Host.new config transport now = start at reachable
  have once (acts : List (Act σ)) (event : FirmwareEvent) :
      start.run (acts ++ [.handle event]) = (start.run acts).handle event := run_append _ _ _
  have twice (acts : List (Act σ)) (event : FirmwareEvent) :
      start.run (acts ++ [.handle event, .handle event]) =
        ((start.run acts).handle event).handle event := run_append _ _ _
  have again (acts : List (Act σ)) (event : FirmwareEvent) :=
    handle_again (reachable.run acts).coherent event
  constructor
  case state =>
    intro acts event idle
    rw [once, twice, engine_handle]
    cases again acts event with
    | recurs sight again => rw [again, engine_handle]
    | absorbed fact known again => rw [again, engine_handle, Engine.quiet]
    | heldBack id held about absent underWay again => exact absurd (idle ⟨id, about⟩) underWay
  case out =>
    intro acts event
    rw [once, emitted_handle, emitted_handle]
    cases again acts event with
    | recurs sight again => rw [again, if_pos sight]
    | absorbed fact known again =>
      rw [again, fact]
      rfl
    | heldBack id held about absent underWay again =>
      rw [again, FirmwareEvent.recurs_of_isPathReport about]
      rfl
  case heldBack =>
    intro acts event id about underWay absent
    rw [once, engine_handle] at absent
    rw [once, twice, engine_handle]
    cases again acts event with
    | recurs sight again =>
      rw [FirmwareEvent.recurs_of_isPathReport about] at sight
      cases sight
    | absorbed fact known again => exact absurd (known id about absent) underWay
    | heldBack other held _ _ _ again =>
      rw [again, engine_handle]
      exact Engine.hold_ne _ other held

end Host

end NanHost
