import NanHost.Proofs.Agreement.Arrivals
import NanHost.Proofs.Course.Paths
import NanHost.Proofs.Course.Sessions
import NanHost.Proofs.Engine.Remainder

/-!
# Courses of a reaction — what a reaction makes of every session and every path

A reaction of the engine may conclude many commands. Here the conclusion of a command is taken
apart, once for all properties of sessions and paths: seen from any number it is a course of the
moves of one entry (`Engine.Courses`).

## What is proved

- `Coherent.settled`: a command that is settled by itself moves entries that are there, or one comes
  into being.
- `Coherent.courses_giveUpAll`: a batch of commands that is given up moves entries that are there, and
  ends no session that is active.

An answer that fails takes its path down. That this cannot happen to a path that was never answered
is not in its table but in the ledger, and is kept along (`Engine.Answered`).
-/

namespace NanHost

namespace Engine

variable {engine next : Engine} {record : TransactionRecord}

/-! ## Courses -/

/-- What becomes of all entries of both tables, given how sessions can move. -/
structure Courses (engine : Engine)
    (move : SessionId → Session → List Effect → Option Session → Prop) (now : Timestamp)
    (effects : List Effect) (next : Engine) : Prop where
  session : ∀ id, Course (.session id) (move id) (engine.sessions.get? id) effects
    (next.sessions.get? id)
  path : ∀ id, Course (.path id) (DataPath.Move id now) (engine.paths.get? id) effects
    (next.paths.get? id)
  graceMs : next.paths.graceMs = engine.paths.graceMs

/-- The moves of sessions that nobody ends. -/
def enduring (_ : SessionId) : Session → List Effect → Option Session → Prop := Session.Enduring

namespace Courses

variable {move move' : SessionId → Session → List Effect → Option Session → Prop}
  {now : Timestamp} {effects effects' : List Effect}

/-- Nothing becomes of any entry. -/
theorem still (quiet : ∀ place, Quiet place effects)
    (sessions : next.sessions.sessions = engine.sessions.sessions)
    (paths : next.paths.paths = engine.paths.paths)
    (graceMs : next.paths.graceMs = engine.paths.graceMs) :
    engine.Courses move now effects next where
  session id := by
    have same : next.sessions.get? id = engine.sessions.get? id := by
      unfold SessionRegistry.get?
      rw [sessions]
    rw [same]
    exact .still (quiet _)
  path id := by
    have same : next.paths.get? id = engine.paths.get? id := by
      unfold DataPathTable.get?
      rw [paths]
    rw [same]
    exact .still (quiet _)
  graceMs := graceMs

theorem append {last : Engine} (before : engine.Courses move now effects next)
    (after : next.Courses move now effects' last) :
    engine.Courses move now (effects ++ effects') last where
  session id := (before.session id).append (after.session id)
  path id := (before.path id).append (after.path id)
  graceMs := after.graceMs.trans before.graceMs

theorem mono (courses : engine.Courses move now effects next)
    (more : ∀ {id session effects entry}, move id session effects entry →
      move' id session effects entry) : engine.Courses move' now effects next where
  session id := (courses.session id).mono more
  path := courses.path
  graceMs := courses.graceMs

/-- Courses in which nobody ends a session are courses. -/
theorem of_enduring (courses : engine.Courses enduring now effects next) :
    engine.Courses Session.Move now effects next :=
  courses.mono Session.Move.of_enduring

/-! ### One entry moves -/

/-- One path moves, and stays on record. -/
theorem put_path {id : DataPathId} {path entry : DataPath}
    (found : engine.paths.get? id = some path)
    (moved : DataPath.Move id now path effects (some entry)) (ledger : Ledger) :
    engine.Courses move now effects
      { engine with ledger := ledger, paths := engine.paths.put id entry } where
  session other := .still (.of_place (by simp) moved.place)
  path other := by
    dsimp only
    rw [DataPathTable.get?_put]
    by_cases here : other = id
    · rw [if_pos here, here, found]
      exact .move moved
    · rw [if_neg here]
      exact .still (.of_place (by simpa using here) moved.place)
  graceMs := rfl

/-- One path moves, and is forgotten if that was its end. -/
theorem purge_path {id : DataPathId} {path entry : DataPath}
    (found : engine.paths.get? id = some path)
    (moved : DataPath.Move id now path effects entry.kept) (ledger : Ledger) :
    engine.Courses move now effects
      { engine with ledger := ledger, paths := (engine.paths.put id entry).purge id } where
  session other := .still (.of_place (by simp) moved.place)
  path other := by
    dsimp only
    rw [DataPathTable.get?_purge]
    by_cases here : other = id
    · rw [if_pos here, here, found, DataPathTable.get?_put, if_pos rfl]
      exact .move moved
    · rw [if_neg here, DataPathTable.get?_put, if_neg here]
      exact .still (.of_place (by simpa using here) moved.place)
  graceMs := DataPathTable.graceMs_purge _ _

/-- One session moves, and stays on record. -/
theorem put_session {id : SessionId} {session entry : Session}
    (found : engine.sessions.get? id = some session) (moved : move id session effects (some entry))
    (about : ∀ effect ∈ effects, effect.place? = some (.session id)) (ledger : Ledger) :
    engine.Courses move now effects
      { engine with ledger := ledger, sessions := engine.sessions.put id entry } where
  session other := by
    dsimp only
    rw [SessionRegistry.get?_put]
    by_cases here : other = id
    · rw [if_pos here, here, found]
      exact .move moved
    · rw [if_neg here]
      exact .still (.of_place (by simpa using here) about)
  path other := .still (.of_place (by simp) about)
  graceMs := rfl

/-- One session moves, and is forgotten if that was its end. -/
theorem purge_session {id : SessionId} {session entry : Session}
    (found : engine.sessions.get? id = some session) (moved : move id session effects entry.kept)
    (about : ∀ effect ∈ effects, effect.place? = some (.session id)) (ledger : Ledger) :
    engine.Courses move now effects
      { engine with ledger := ledger, sessions := (engine.sessions.put id entry).purge id } where
  session other := by
    dsimp only
    rw [SessionRegistry.get?_purge]
    by_cases here : other = id
    · rw [if_pos here, here, found, SessionRegistry.get?_put, if_pos rfl]
      exact .move moved
    · rw [if_neg here, SessionRegistry.get?_put, if_neg here]
      exact .still (.of_place (by simpa using here) about)
  path other := .still (.of_place (by simp) about)
  graceMs := rfl

/-- A session is used. -/
theorem use_session {id : SessionId} {session entry : Session}
    (found : engine.sessions.get? id = some session) (stage : entry.state = session.state)
    (busy : entry.isDone = false) (ledger : Ledger) :
    engine.Courses enduring now []
      { engine with ledger := ledger, sessions := engine.sessions.put id entry } := by
  have moved : enduring id session [] (some entry) := ⟨rfl, .used entry stage busy⟩
  exact put_session found moved (by simp) ledger

/-- A command about a session has ended. -/
theorem settle_session {id : SessionId} {session entry : Session}
    (found : engine.sessions.get? id = some session) (endures : session.Endures entry.kept)
    (ledger : Ledger) :
    engine.Courses enduring now []
      { engine with ledger := ledger, sessions := (engine.sessions.put id entry).purge id } := by
  have moved : enduring id session [] entry.kept := ⟨rfl, endures⟩
  exact purge_session found moved (by simp) ledger

end Courses

/-! ## Reports about paths -/

section

variable {move : SessionId → Session → List Effect → Option Session → Prop} {now : Timestamp}

theorem courses_onPathConfirmed (engine : Engine) (id : DataPathId) (accepted : Bool)
    (peerInterface : MacAddress) (appInfo : ByteArray) (status : FirmwareStatus) :
    engine.Courses move now
      ((engine.onPathConfirmed id accepted peerInterface appInfo status).2.map .told)
      (engine.onPathConfirmed id accepted peerInterface appInfo status).1 := by
  unfold onPathConfirmed DataPathTable.onConfirmed
  cases found : engine.paths.get? id with
  | none =>
    cases engine.paths.initiating.isEmpty <;>
      exact .still (fun place => .nil place) rfl rfl rfl
  | some path =>
    dsimp only
    cases confirmable : path.isConfirmable with
    | false => exact .still (fun place => .nil place) rfl rfl rfl
    | true =>
      cases accepted with
      | true => exact .put_path found (.confirmed peerInterface appInfo confirmable) engine.ledger
      | false => exact .purge_path found (.rejected status confirmable) engine.ledger

theorem courses_onPathTerminated (engine : Engine) (id : DataPathId) (status : FirmwareStatus) :
    engine.Courses move now ((engine.onPathTerminated id status).2.map .told)
      (engine.onPathTerminated id status).1 := by
  unfold onPathTerminated DataPathTable.onTerminated
  cases found : engine.paths.get? id with
  | none =>
    cases engine.paths.initiating.isEmpty <;>
      exact .still (fun place => .nil place) rfl rfl rfl
  | some path =>
    dsimp only
    cases live : path.isLive with
    | false => exact .still (fun place => .nil place) rfl rfl rfl
    | true =>
      have ended : DataPath.Move id now path _ path.terminated.withoutDeadline.kept :=
        .ended status live
      have told : engine.Courses move now _ _ := .purge_path found ended engine.ledger
      cases asked : path.endPending <;> simpa [asked] using told

theorem courses_replay (engine : Engine) (id : DataPathId) (event : HeldEvent) :
    engine.Courses move now ((engine.replay id event).2.map .told) (engine.replay id event).1 := by
  cases event with
  | confirmed accepted peerInterface appInfo status =>
    exact engine.courses_onPathConfirmed id accepted peerInterface appInfo status
  | terminated status => exact engine.courses_onPathTerminated id status

theorem courses_replayHeld (engine : Engine) (id : DataPathId) :
    engine.Courses move now ((engine.replayHeld id).2.map .told) (engine.replayHeld id).1 := by
  have taken : engine.Courses move now []
      { engine with paths := (engine.paths.takeHeld id).2 } :=
    .still (fun place => .nil place) rfl rfl rfl
  refine sweep_keeps (fun next told => engine.Courses move now (told.map .told) next) ?_ _ _ [] taken
  intro next told event courses
  rw [List.map_append]
  exact courses.append (next.courses_replay id event)

end

/-! ## Answers to peers -/

/-- An answer that a caller has given, and that is still out, is on record with its path. -/
def Answered (engine : Engine) : Prop :=
  ∀ txn record id path, engine.ledger.get? txn = some record → record.kind = .respondDataPath →
    record.context = .dataPath id → record.origin = .caller → engine.paths.get? id = some path →
      path.response.isSome = true

theorem answered_new (config : EngineConfig) : (Engine.new config).Answered := by
  intro txn record id path onFile
  simp [Engine.new] at onFile

/-- A path that answers are out about is there, so what follows it has its answer. -/
theorem Answered.of_follows (answered : engine.Answered) (coherent : engine.Coherent)
    (nothingNew : engine.ledger.NothingNew next.ledger)
    (follows : ∀ {id path last}, engine.paths.get? id = some path →
      next.paths.get? id = some last → path.Follows last) : next.Answered := by
  intro txn record id last onFile kind about origin here
  have paths : engine.paths.Agrees _ := coherent.agrees .paths
  have before := nothingNew txn record onFile origin
  obtain ⟨path, found, _⟩ := paths.path_of_out
    (Ledger.docket_eq_some.mpr ⟨before, by rw [about]; rfl⟩) about
  obtain ⟨accepted, given⟩ :=
    Option.isSome_iff_exists.mp (answered _ _ _ _ before kind about origin found)
  rw [(follows found here).answer accepted given]
  rfl

namespace Courses

variable {move : SessionId → Session → List Effect → Option Session → Prop} {now : Timestamp}
  {effects : List Effect}

theorem follows (courses : engine.Courses move now effects next) {id : DataPathId}
    {path last : DataPath} (found : engine.paths.get? id = some path)
    (here : next.paths.get? id = some last) : path.Follows last := by
  have course := courses.path id
  rw [found, here] at course
  exact DataPath.follows_of_course course

end Courses

/-! ## Settling -/

variable {now : Timestamp}

/-- **An update that ends leaves its session in its stage.** -/
theorem courses_resolveUpdate {id : SessionId} {session : Session}
    (found : engine.sessions.get? id = some session) (txn : TransactionId)
    (outcome : Except Failure Unit) (ledger : Ledger) :
    engine.Courses enduring now []
      { engine with
        ledger := ledger, sessions := (engine.sessions.resolveUpdate id txn outcome).2 } := by
  have settled (config : DiscoveryConfig) :
      session.Endures (Session.kept { (session.detach txn).dropUpdate txn with config := config }) := by
    refine .settled _ ?_
    rw [Session.dropUpdate_eq]
    rfl
  have dropped : session.Endures (Session.kept ((session.detach txn).dropUpdate txn)) := by
    refine .settled _ ?_
    rw [Session.dropUpdate_eq]
    rfl
  unfold SessionRegistry.resolveUpdate
  rw [found]
  dsimp only
  split
  · cases outcome with
    | ok => exact .settle_session found (settled _) ledger
    | error failure => exact .settle_session found dropped ledger
  · exact .settle_session found dropped ledger

/-- **An answer that fails takes its path down**, unless the engine gave it up. -/
theorem courses_settleRespond {id : DataPathId} {path : DataPath}
    (found : engine.paths.get? id = some path) (given : path.response.isSome = true)
    (txn : TransactionId) (outcome : Outcome) (ledger : Ledger) :
    engine.Courses enduring now
      (((engine.upon ledger).settleRespond txn id outcome).notices.map .told)
      ((engine.upon ledger).settleRespond txn id outcome).engine := by
  have found' : (engine.upon ledger).paths.get? id = some path := found
  have struck : engine.Courses enduring now []
      { engine with
        ledger := ledger, paths := (engine.paths.put id (path.detach txn)).purge id } :=
    .purge_path found (.struck txn) ledger
  cases outcome with
  | ok payload =>
    -- An answer that went well is not reported beside: a path that is up is live.
    have quiet : ((engine.upon ledger).settleRespond txn id (.ok payload)).notices = [] := by
      have live (up : path.isConfirmed = true) : path.isLive = true := by
        simp_all [DataPath.isConfirmed, DataPath.isLive]
      unfold settleRespond DataPathTable.resolveRespond
      simp only [Outcome.plain, found']
      cases up : path.isConfirmed <;> simp_all [Except.isOk, Except.toBool]
    rw [quiet]
    unfold settleRespond DataPathTable.resolveRespond
    simp only [Outcome.plain, found']
    exact struck
  | error failure =>
    by_cases aborted : failure = .aborted
    · rw [aborted, settleRespond_aborted found']
      exact struck
    · have resolved : (engine.upon ledger).paths.resolveRespond id txn (.error failure) =
          (.error failure, (engine.paths.put id (path.detach txn).terminated).purge id) := by
        unfold DataPathTable.resolveRespond
        rw [found']
        cases failure <;> first | rfl | exact absurd rfl aborted
      have isDown : (((engine.paths.put id (path.detach txn).terminated).purge id).get? id).any
          (·.isLive) = false := by
        rw [DataPathTable.get?_purge, if_pos rfl, DataPathTable.get?_put, if_pos rfl]
        cases done : (path.detach txn).terminated.isDone <;>
          simp [DataPath.isLive, DataPath.terminated]
      have failed : engine.Courses enduring now _ _ :=
        .purge_path found (.failed txn given) ledger
      unfold settleRespond
      simp only [Outcome.plain, found', resolved]
      cases up : path.isConfirmed <;> simpa [up, upon, isDown, Except.isOk, Except.toBool] using failed

/-! ## Concluding -/

/-- A result with which no entry comes into being. -/
def IsPlain (result : Except Failure CompletionDetail) : Prop :=
  ∀ id kind, (Notification.completed ⟨id, kind, result⟩).place? = none

theorem isPlain_error (failure : Failure) : IsPlain (.error failure) := fun _ _ => rfl

theorem isPlain_achieving (outcome : Outcome) {detail : CompletionDetail}
    (plain : IsPlain (.ok detail)) : IsPlain (outcome.achieving detail) := by
  cases outcome with
  | ok payload => exact plain
  | error failure => exact isPlain_error failure

theorem isPlain_map {α : Type} {detail : α → CompletionDetail}
    (plain : ∀ value, IsPlain (.ok (detail value))) (result : Except Failure α) :
    IsPlain (result.map detail) := by
  cases result with
  | ok value => exact plain value
  | error failure => exact isPlain_error failure

/-- Announcing a plain result adds nothing about any entry. -/
theorem courses_announce {move : SessionId → Session → List Effect → Option Session → Prop}
    {settlement : Settlement}
    (courses : engine.Courses move now (settlement.notices.map .told) settlement.engine)
    (plain : IsPlain settlement.result) (record : TransactionRecord) :
    engine.Courses move now ((announce record settlement).2.map .told)
      (announce record settlement).1 := by
  have notInitiated : ∀ path, settlement.result ≠ .ok (.dataPathInitiated path) := by
    intro path initiated
    have place := plain record.id record.kind
    simp [Notification.place?, initiated] at place
  have quiet : settlement.engine.Courses move now
      [.told (.completed ⟨record.id, record.kind, settlement.result⟩)] settlement.engine := by
    refine .still (fun place effect member => ?_) rfl rfl rfl
    obtain rfl := List.mem_singleton.mp member
    rw [Effect.place?, plain]
    exact Option.some_ne_none place |>.symm
  rw [announce_of_ne record notInitiated, List.map_append]
  exact courses.append quiet

namespace Coherent

/-- **A command about an entry that is there** is settled by moves of that entry, or of none. -/
theorem courses_settleByItself (coherent : engine.Coherent) (answered : engine.Answered)
    (onFile : engine.ledger.get? record.id = some record) (origin : record.origin = .caller)
    (notDisable : record.kind ≠ .disable)
    (notStart : ∀ role, record.context ≠ .newSession role)
    (notInitiate : record.context ≠ .newDataPath) (outcome : Outcome) :
    ∃ settled, (engine.upon (engine.ledger.rollback record.id)).settleByItself record outcome =
        settled ∧
      engine.Courses enduring now (settled.notices.map .told) settled.engine ∧
        IsPlain settled.result := by
  have commission : Commission record.kind record.context record.origin :=
    coherent.commissioned onFile
  have out {subject : Subject} (about : record.context.subject = subject) :
      engine.ledger.docket subject record.id = some record :=
    Ledger.docket_eq_some.mpr ⟨onFile, about⟩
  have sessions : engine.sessions.Agrees _ := coherent.agrees .sessions
  have paths : engine.paths.Agrees _ := coherent.agrees .paths
  have still {after : Engine} (sessions : after.sessions = engine.sessions)
      (paths : after.paths = engine.paths) : engine.Courses enduring now [] after :=
    .still (fun place => .nil place) (by rw [sessions]) (by rw [paths]) (by rw [paths])
  generalize kind : record.kind = kind', context : record.context = context',
    origin' : record.origin = origin'' at commission
  refine ⟨_, rfl, ?_⟩
  cases commission with
  | disable => exact absurd kind notDisable
  | start role => exact absurd context (notStart role)
  | initiate => exact absurd context notInitiate
  | capabilities =>
    rw [settleByItself_capabilities kind]
    unfold settleCapabilities
    split
    · exact ⟨still rfl rfl, fun _ _ => rfl⟩
    · exact ⟨still rfl rfl, isPlain_error _⟩
    · exact ⟨still rfl rfl, isPlain_error _⟩
  | configure =>
    rw [settleByItself_configure kind]
    unfold settleConfigure
    split
    · exact ⟨still rfl rfl, isPlain_achieving outcome fun _ _ => rfl⟩
    · exact ⟨still rfl rfl, isPlain_error _⟩
  | create name =>
    rw [settleByItself_create kind context]
    exact ⟨still rfl rfl, isPlain_achieving outcome fun _ _ => rfl⟩
  | delete name =>
    rw [settleByItself_delete kind context]
    exact ⟨still rfl rfl, isPlain_achieving outcome fun _ _ => rfl⟩
  | update role session =>
    rw [settleByItself_update kind context]
    obtain ⟨entry, found, _⟩ := sessions.session_of_out (out (by rw [context]; rfl)) context
    exact ⟨courses_resolveUpdate found record.id outcome.plain _,
      isPlain_map (fun _ _ _ => rfl) _⟩
  | message session =>
    rw [settleByItself_message kind context]
    obtain ⟨entry, found, _⟩ := sessions.session_of_out (out (by rw [context]; rfl)) context
    refine ⟨?_, isPlain_achieving outcome fun _ _ => rfl⟩
    unfold settleMessage SessionRegistry.detach
    dsimp only [upon]
    rw [SessionRegistry.update_eq_put found]
    exact .settle_session found (.settled (entry.detach record.id) rfl) _
  | stop role session =>
    rw [settleByItself_stop kind context]
    obtain ⟨entry, found, local', _⟩ := sessions.session_of_out (out (by rw [context]; rfl)) context
    have stopping := local'.stopping (out (by rw [context]; rfl)) context kind
    refine ⟨?_, isPlain_achieving outcome fun _ _ => rfl⟩
    unfold settleStop SessionRegistry.resolveStop
    dsimp only [upon]
    rw [SessionRegistry.update_eq_put found]
    exact .settle_session found (.stopped _ stopping rfl) _
  | respond path issuer =>
    rw [settleByItself_respond kind context]
    obtain ⟨entry, found, _⟩ := paths.path_of_out (out (by rw [context]; rfl)) context
    have given := answered _ _ _ _ onFile kind context origin found
    exact ⟨courses_settleRespond found given record.id outcome _,
      isPlain_map (fun _ _ _ => rfl) _⟩
  | close path =>
    rw [settleByItself_close kind context]
    obtain ⟨entry, found, local'⟩ := paths.path_of_out (out (by rw [context]; rfl)) context
    have asked := local'.ending (out (by rw [context]; rfl)) context kind
    refine ⟨?_, isPlain_achieving outcome fun _ _ => rfl⟩
    unfold settleEnd DataPathTable.resolveEnd
    dsimp only [upon]
    rw [DataPathTable.update_eq_put found]
    exact .purge_path found (.endSettled record.id asked) _

end Coherent

/-- What settling a command by itself can come to, as to the entries of both tables. -/
inductive Settled (engine : Engine) (now : Timestamp) (outcome : Outcome) : Settlement → Prop
  /-- No entry comes into being. -/
  | plain {settled : Settlement}
    (courses : engine.Courses enduring now (settled.notices.map .told) settled.engine)
    (plain : IsPlain settled.result) : Settled engine now outcome settled
  /-- A session comes into being. -/
  | started {after : Engine} (id : SessionId) (config : DiscoveryConfig)
    (given : outcome = .ok (.sessionId id)) (free : engine.sessions.get? id = none)
    (entered : ∀ other, after.sessions.get? other =
      if other = id then some (.started id config) else engine.sessions.get? other)
    (paths : after.paths = engine.paths) :
    Settled engine now outcome ⟨.ok (.sessionStarted id config.role), after, []⟩
  /-- A path comes into being. -/
  | initiated {after : Engine} (id : DataPathId) (request : InitiateRequest)
    (given : outcome = .ok (.pathId id)) (free : engine.paths.get? id = none)
    (entered : ∀ other, after.paths.get? other =
      if other = id then some (.initiated id request) else engine.paths.get? other)
    (sessions : after.sessions = engine.sessions)
    (graceMs : after.paths.graceMs = engine.paths.graceMs) :
    Settled engine now outcome ⟨.ok (.dataPathInitiated id), after, []⟩

/-- A start that is settled enters a session or none. -/
theorem settled_start (engine : Engine) (txn : TransactionId) (outcome : Outcome)
    (ledger : Ledger) :
    engine.Settled now outcome ((engine.upon ledger).settleStart txn outcome) := by
  rcases engine.sessions.resolveNew_cases txn outcome.sessionId with
    ⟨failure, failed, same⟩ | ⟨id, config, given, _, _, free, entered⟩
  · refine .plain (.still (fun place => .nil place) same rfl rfl) ?_
    unfold settleStart
    dsimp only [upon]
    rw [failed]
    exact isPlain_error failure
  · unfold settleStart
    dsimp only [upon]
    rw [entered]
    exact .started id config (Outcome.of_sessionId given) free
      (fun other => SessionRegistry.get?_put _ id other _) rfl

/-- An initiation that is settled enters a path or none. -/
theorem settled_initiate (engine : Engine) (txn : TransactionId) (outcome : Outcome)
    (ledger : Ledger) :
    engine.Settled now outcome ((engine.upon ledger).settleInitiate txn outcome) := by
  have graceMs := engine.paths.graceMs_resolveInitiate txn outcome.pathId
  rcases engine.paths.resolveInitiate_cases txn outcome.pathId with
    ⟨failure, failed, same⟩ | ⟨id, request, given, free, result, entered⟩
  · refine .plain (.still (fun place => .nil place) rfl same graceMs) ?_
    unfold settleInitiate
    dsimp only [upon]
    rw [failed]
    exact isPlain_error failure
  · unfold settleInitiate
    dsimp only [upon]
    rw [result]
    exact .initiated id request (Outcome.of_pathId given) free entered rfl graceMs

namespace Coherent

/-- **A command that is settled by itself** moves entries that are there, or one comes into being. -/
theorem settled (coherent : engine.Coherent) (answered : engine.Answered)
    (onFile : engine.ledger.get? record.id = some record) (origin : record.origin = .caller)
    (notDisable : record.kind ≠ .disable) (outcome : Outcome) :
    engine.Settled now outcome
      ((engine.upon (engine.ledger.rollback record.id)).settleByItself record outcome) := by
  cases context : record.context with
  | newSession role =>
    rw [coherent.settleByItself_newSession onFile context]
    exact engine.settled_start record.id outcome _
  | newDataPath =>
    rw [coherent.settleByItself_newDataPath onFile context]
    exact engine.settled_initiate record.id outcome _
  | _ =>
    obtain ⟨_, rfl, courses, plain⟩ := coherent.courses_settleByItself answered onFile origin
      notDisable (by simp [context]) (by simp [context]) outcome
    exact .plain courses plain

/-! ## Giving up -/

/-- A command of the engine's own is struck off its path. -/
theorem courses_strikeOff (coherent : engine.Coherent)
    (onFile : engine.ledger.get? record.id = some record) :
    engine.Courses enduring now
      (((engine.upon (engine.ledger.rollback record.id)).strikeOff record).2.map .told)
      ((engine.upon (engine.ledger.rollback record.id)).strikeOff record).1 := by
  unfold Engine.strikeOff
  cases context : record.context with
  | dataPath path =>
    have paths : engine.paths.Agrees _ := coherent.agrees .paths
    obtain ⟨entry, found, _⟩ :=
      paths.path_of_out (Ledger.docket_eq_some.mpr ⟨onFile, by rw [context]; rfl⟩) context
    dsimp only [upon, quiet, DataPathTable.detach]
    rw [DataPathTable.update_eq_put found]
    exact .purge_path found (.struck record.id) _
  | _ => exact .still (fun place => .nil place) rfl rfl rfl

/-- A command that is given up moves the entry that it was about, if any. -/
theorem courses_giveUp (coherent : engine.Coherent) (answered : engine.Answered)
    (onFile : engine.ledger.get? record.id = some record) (failure : Failure) :
    engine.Courses enduring now ((engine.giveUp record failure).2.map .told)
      (engine.giveUp record failure).1 := by
  unfold Engine.giveUp
  cases origin : record.origin with
  | engine =>
    rw [conclude_engine origin]
    exact coherent.courses_strikeOff onFile
  | caller =>
    rw [conclude_caller origin]
    by_cases disable : record.kind = .disable
    · rw [settle_disable disable, settleDisable_failed]
      refine courses_announce ?_ (isPlain_error failure) record
      exact .still (fun place => .nil place) rfl rfl rfl
    · rw [settle_eq_settleByItself disable]
      have settled : engine.Settled now _ _ :=
        coherent.settled answered onFile origin disable (.error failure)
      generalize Engine.settleByItself _ _ _ = settlement at settled
      cases settled with
      | plain courses plain => exact courses_announce courses plain record
      | started id config given => cases given
      | initiated id request given => cases given

/-- **A batch that is given up** moves the entries that its commands were about, and ends no session
that is active. -/
theorem courses_giveUpAll {records : List TransactionRecord} (coherent : engine.Coherent)
    (answered : engine.Answered) (onFile : engine.ledger.OnFile records) (failure : Failure) :
    engine.Courses enduring now ((engine.giveUpAll records failure).2.map .told)
      (engine.giveUpAll records failure).1 := by
  refine (kept_giveUpAll (fun next told => next.Coherent ∧ next.Answered ∧
    engine.Courses enduring now (told.map .told) next) [] onFile
    ⟨coherent, answered, .still (fun place => .nil place) rfl rfl rfl⟩ ?_).2.2
  rintro given told record _ onFile ⟨coherent, answered, before⟩
  have courses : given.Courses enduring now _ _ := coherent.courses_giveUp answered onFile failure
  refine ⟨coherent.giveUp onFile failure, ?_, ?_⟩
  · refine answered.of_follows coherent (.of_keeps ⟨(·.id ≠ record.id), ?_⟩) courses.follows
    rw [ledger_giveUp, coherent.filed.rollback_eq_keep]
  · rw [List.map_append]
    exact before.append courses

end Coherent

end Engine

end NanHost
