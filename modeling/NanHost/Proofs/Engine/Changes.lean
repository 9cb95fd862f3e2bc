import NanHost.Proofs.Agreement.Arrivals
import NanHost.Proofs.Engine.Events

/-!
# Changes — what an engine does when the firmware grants it nothing

Much of what an engine reacts to makes it do several things, one after the other: commands end one
by one, events that were held back are replayed, everything falls with the interface. Each of these
things is a change of one table, together with what the caller is told of it. They are listed here
once. What all of them keep, every reaction keeps, and whoever wants to know it has one case to look
at for each.

An answer that grants something is left out: a session that comes into being, a configuration that a
session takes on, or a report of what the firmware can do. So are the reports on peers and paths. In
each of these an engine does one thing, which is said in full.

## What is proved

- `Engine.Change` lists the changes, and `Engine.Changes` puts them in sequence.
- `conclude_changes`: the end of a command that grants nothing is a sequence of changes; so are a
  batch of commands that is given up, the fall of the interface, a deadline and a shutdown.
- `Coherent.onCompleted_granted`: the answer to a command is a sequence of changes, or it grants one
  of three things (`Engine.Granted`).
-/

namespace NanHost

/-! ## Changes of one table -/

/-- What becomes of the sessions when none comes into being, none takes on a configuration, none
gives one up and none meets a peer. -/
inductive SessionRegistry.Change (registry : SessionRegistry) : SessionRegistry → Prop
  /-- A start has failed. -/
  | startFailed (txn : TransactionId) (assigned : Except Failure SessionId) (failure : Failure)
    (failed : (registry.resolveNew txn assigned).1 = .error failure) :
    Change registry (registry.resolveNew txn assigned).2
  /-- A message has ended. -/
  | messageEnded (id : SessionId) (txn : TransactionId) :
    Change registry (registry.detach id txn).2
  /-- A stop has ended. -/
  | stopEnded (id : SessionId) (txn : TransactionId) :
    Change registry (registry.resolveStop id txn).2
  /-- The firmware has ended a session. -/
  | ended (id : SessionId) : Change registry (registry.onTerminated id).2
  /-- All sessions have fallen with the interface. -/
  | fell : Change registry .empty

/-- What becomes of the data interfaces when the caller asks for nothing. -/
inductive DataInterfaceTable.Change (table : DataInterfaceTable) : DataInterfaceTable → Prop
  | creationEnded (name : String) (success : Bool) : Change table (table.resolveCreate name success)
  | deletionEnded (name : String) (success : Bool) : Change table (table.resolveDelete name success)

/-- What becomes of the data paths when the caller asks for nothing and the firmware does not report
that a path was confirmed or has ended. -/
inductive DataPathTable.Change (table : DataPathTable) : DataPathTable → Prop
  | initiationEnded (txn : TransactionId) (assigned : Except Failure DataPathId) :
    Change table (table.resolveInitiate txn assigned).2
  | answerEnded (id : DataPathId) (txn : TransactionId) (outcome : Except Failure Unit) :
    Change table (table.resolveRespond id txn outcome).2
  | endEnded (id : DataPathId) (txn : TransactionId) : Change table (table.resolveEnd id txn).2
  /-- A command of the engine's own has ended. -/
  | struckOff (id : DataPathId) (txn : TransactionId) : Change table (table.detach id txn)
  /-- A peer asks for a path. -/
  | requested (id : DataPathId) (peer : PeerId) (address : MacAddress) (appInfo : ByteArray)
    (now : Timestamp) : Change table (table.onRequest id peer address appInfo now).2
  /-- The peers that have waited too long are given up. -/
  | lapsed (now : Timestamp) : Change table (table.expireResponses now).2
  /-- The refusal of such a peer was sent. -/
  | refused (id : DataPathId) (txn : TransactionId) : Change table (table.attach id txn)
  /-- The refusal could not be sent. -/
  | forgotten (id : DataPathId) : Change table (table.purge id)
  /-- All paths have fallen with the interface. -/
  | fell : Change table (.new table.graceMs)

/-! ## Changes of an engine -/

/-- Whether the firmware has granted something with the end of a command: a session, a new
configuration of one, or a report of what it can do. -/
def CompletionDetail.grants : CompletionDetail → Bool
  | capabilities _ | sessionStarted .. | sessionUpdated _ => true
  | _ => false

/-- Whether the end of a command has granted something. -/
def grants : Except Failure CompletionDetail → Bool
  | .ok detail => detail.grants
  | .error _ => false

/-- Whether the caller is told that the firmware has granted something. -/
def Notification.grants : Notification → Bool
  | completed completion => NanHost.grants completion.result
  | _ => false

namespace Engine

/-- **One thing that an engine does when the firmware grants it nothing**, and what the caller is
told of it. -/
inductive Change (engine : Engine) : List Notification → Engine → Prop
  /-- What changes is not in the tables of sessions, paths and data interfaces. -/
  | aside (ledger : Ledger) (interface : Interface) :
    Change engine [] { engine with ledger := ledger, interface := interface }
  /-- The caller is told something. -/
  | told (notice : Notification) (plain : notice.grants = false) : Change engine [notice] engine
  | sessions {sessions : SessionRegistry} (change : engine.sessions.Change sessions) :
    Change engine [] { engine with sessions := sessions }
  /-- An update has failed, and is reported. -/
  | updateFailed (id : SessionId) (txn : TransactionId) (kind : CommandKind)
    (outcome : Except Failure Unit) (failure : Failure)
    (failed : (engine.sessions.resolveUpdate id txn outcome).1 = .error failure) :
    Change engine [.completed ⟨txn, kind, .error failure⟩]
      { engine with sessions := (engine.sessions.resolveUpdate id txn outcome).2 }
  | dataInterfaces {table : DataInterfaceTable} (change : engine.dataInterfaces.Change table) :
    Change engine [] { engine with dataInterfaces := table }
  | paths {table : DataPathTable} (change : engine.paths.Change table) :
    Change engine [] { engine with paths := table }
  /-- What was held back for a path is replayed. -/
  | replayed (id : DataPathId) : Change engine (engine.replayHeld id).2 (engine.replayHeld id).1

/-- A sequence of changes. -/
inductive Changes : Engine → List Notification → Engine → Prop
  | nil (engine : Engine) : Changes engine [] engine
  | cons {first second third : Engine} {notices notices' : List Notification}
    (change : first.Change notices second) (rest : Changes second notices' third) :
    Changes first (notices ++ notices') third

variable {engine next last : Engine} {notices notices' : List Notification}
  {record : TransactionRecord}

namespace Changes

theorem append (before : engine.Changes notices next) (after : next.Changes notices' last) :
    engine.Changes (notices ++ notices') last := by
  induction before with
  | nil => exact after
  | cons change rest ih =>
    rw [List.append_assoc]
    exact .cons change (ih after)

theorem of_change (change : engine.Change notices next) : engine.Changes notices next := by
  have single := Changes.cons change (.nil next)
  rwa [List.append_nil] at single

/-- A change with which nothing is told, before others. -/
theorem after (change : engine.Change [] next) (rest : next.Changes notices last) :
    engine.Changes notices last := .cons change rest

theorem aside (engine : Engine) (ledger : Ledger) (interface : Interface) :
    engine.Changes [] { engine with ledger := ledger, interface := interface } :=
  of_change (.aside ledger interface)

/-- The caller is told things. -/
theorem tells (engine : Engine) (plain : ∀ notice ∈ notices, notice.grants = false) :
    engine.Changes notices engine := by
  induction notices with
  | nil => exact .nil engine
  | cons notice rest ih =>
    exact .cons (.told notice (plain notice (by simp)))
      (ih fun other member => plain other (List.mem_cons_of_mem _ member))

/-- The caller is told one thing, or nothing. -/
theorem tells_if (engine : Engine) {notice : Notification} (plain : notice.grants = false)
    (condition : Bool) : engine.Changes (if condition then [notice] else []) engine := by
  cases condition with
  | false => exact .nil engine
  | true => exact of_change (.told notice plain)

/-- The paths change, and nothing is told. -/
theorem of_paths {table : DataPathTable} (change : engine.paths.Change table) :
    engine.Changes [] { engine with paths := table } := of_change (.paths change)

theorem of_sessions {sessions : SessionRegistry} (change : engine.sessions.Change sessions) :
    engine.Changes [] { engine with sessions := sessions } := of_change (.sessions change)

theorem of_dataInterfaces {table : DataInterfaceTable}
    (change : engine.dataInterfaces.Change table) :
    engine.Changes [] { engine with dataInterfaces := table } := of_change (.dataInterfaces change)

/-- A sweep of changes. -/
theorem sweep {α : Type} {react : Engine → α → Reaction}
    (changes : ∀ engine item, Changes engine (react engine item).2 (react engine item).1)
    (items : List α) (engine : Engine) :
    engine.Changes (engine.sweep items react).2 (engine.sweep items react).1 := by
  exact sweep_keeps (fun next told => engine.Changes told next)
    (fun item before => before.append (changes _ item)) items engine [] (.nil engine)

end Changes

/-! ## Commands that end -/

/-- The result of a command is told after what it makes of the engine. -/
theorem announce_changes {settlement : Settlement}
    (changes : engine.Changes settlement.notices settlement.engine)
    (plain : grants settlement.result = false) (record : TransactionRecord) :
    engine.Changes (announce record settlement).2 (announce record settlement).1 := by
  have completed : settlement.engine.Changes
      [.completed ⟨record.id, record.kind, settlement.result⟩] settlement.engine :=
    .of_change (.told _ plain)
  unfold announce
  split
  next path _ => exact changes.append (completed.append (.of_change (.replayed path)))
  next => exact changes.append (completed.append (.nil _))

theorem strikeOff_changes (engine : Engine) (record : TransactionRecord) :
    engine.Changes (engine.strikeOff record).2 (engine.strikeOff record).1 := by
  unfold strikeOff
  split
  next path _ => exact .of_paths (.struckOff path record.id)
  next => exact .nil engine

/-- An update that has failed is told together with what becomes of the session. -/
theorem announce_settleUpdate_changes (engine : Engine) (record : TransactionRecord)
    (id : SessionId) (outcome : Outcome)
    (plain : grants (engine.settleUpdate record.id id outcome).result = false) :
    engine.Changes (announce record (engine.settleUpdate record.id id outcome)).2
      (announce record (engine.settleUpdate record.id id outcome)).1 := by
  cases failed : (engine.sessions.resolveUpdate id record.id outcome.plain).1 with
  | ok done =>
    simp only [settleUpdate, failed] at plain
    cases plain
  | error failure =>
    have told : announce record (engine.settleUpdate record.id id outcome) =
        ({ engine with
            sessions := (engine.sessions.resolveUpdate id record.id outcome.plain).2 },
          [.completed ⟨record.id, record.kind, .error failure⟩]) := by
      simp only [announce, settleUpdate, failed]
      rfl
    rw [told]
    exact .of_change (.updateFailed id record.id record.kind outcome.plain failure failed)

/-- **A command that ends by itself and grants nothing** is a sequence of changes. -/
theorem announce_settleByItself_changes (engine : Engine) (record : TransactionRecord)
    (outcome : Outcome) (plain : grants (engine.settleByItself record outcome).result = false) :
    engine.Changes (announce record (engine.settleByItself record outcome)).2
      (announce record (engine.settleByItself record outcome)).1 := by
  have start (plain : grants (engine.settleStart record.id outcome).result = false) :
      engine.Changes (announce record (engine.settleStart record.id outcome)).2
        (announce record (engine.settleStart record.id outcome)).1 := by
    cases failed : (engine.sessions.resolveNew record.id outcome.sessionId).1 with
    | ok started =>
      simp only [settleStart, failed] at plain
      cases plain
    | error failure =>
      exact announce_changes (.of_sessions (.startFailed _ _ failure failed)) plain record
  have update (id : SessionId) (plain : _) :=
    engine.announce_settleUpdate_changes record id outcome plain
  have stop (id : SessionId) (plain : grants (engine.settleStop record.id id outcome).result = false) :
      engine.Changes (announce record (engine.settleStop record.id id outcome)).2
        (announce record (engine.settleStop record.id id outcome)).1 :=
    announce_changes (.of_sessions (.stopEnded id record.id)) plain record
  generalize settled : engine.settleByItself record outcome = settlement at plain
  unfold settleByItself at settled
  split at settled
  all_goals subst settled
  next =>
    refine announce_changes ?_ plain record
    unfold settleCapabilities at plain ⊢
    split at plain
    · cases plain
    · exact .nil engine
    · exact .nil engine
  next =>
    refine announce_changes ?_ plain record
    rw [engine_settleConfigure]
    unfold settleConfigure
    split
    all_goals exact .aside engine engine.ledger _
  next => exact start plain
  next => exact start plain
  next id _ _ => exact update id plain
  next id _ _ => exact update id plain
  next id _ _ => exact announce_changes (.of_sessions (.messageEnded id record.id)) plain record
  next id _ _ => exact stop id plain
  next id _ _ => exact stop id plain
  next name _ _ => exact announce_changes (.of_dataInterfaces (.creationEnded name _)) plain record
  next name _ _ => exact announce_changes (.of_dataInterfaces (.deletionEnded name _)) plain record
  next => exact announce_changes (.of_paths (.initiationEnded record.id _)) plain record
  next path _ _ =>
    refine announce_changes ?_ plain record
    exact .after (.paths (.answerEnded path record.id outcome.plain)) (.tells_if _ rfl _)
  next path _ _ => exact announce_changes (.of_paths (.endEnded path record.id)) plain record
  next => exact announce_changes (.nil engine) plain record

/-- A command that failed has granted nothing. -/
theorem grants_settleByItself_failed (engine : Engine) (record : TransactionRecord)
    (failure : Failure) :
    grants (engine.settleByItself record (.error failure)).result = false := by
  obtain ⟨reason, failed⟩ := engine.result_settleByItself_failed record failure
  rw [failed]
  rfl

theorem concludeByItself_failed_changes (engine : Engine) (record : TransactionRecord)
    (failure : Failure) :
    engine.Changes (engine.concludeByItself record (.error failure)).2
      (engine.concludeByItself record (.error failure)).1 := by
  unfold concludeByItself
  split
  · exact engine.strikeOff_changes record
  · exact engine.announce_settleByItself_changes record _
      (engine.grants_settleByItself_failed record failure)

/-- **A teardown is a sequence of changes.** -/
theorem teardown_changes (engine : Engine) (reason : TerminationReason) :
    engine.Changes (engine.teardown reason).2 (engine.teardown reason).1 := by
  let drained := engine.ledger.drainWhere (·.context.isSessionOrPath)
  have abandoned := Changes.sweep
    (fun engine record => engine.concludeByItself_failed_changes record .aborted)
    drained.1 (engine.upon drained.2)
  let settled := (engine.upon drained.2).sweep drained.1
    fun engine record => engine.concludeByItself record (.error .aborted)
  have fell : settled.1.Changes []
      { settled.1 with sessions := .empty, paths := .new settled.1.paths.graceMs } :=
    .after (.sessions .fell) (.of_paths .fell)
  let notices : List Notification :=
    settled.1.sessions.terminateAll.1.map (fun entry => .sessionTerminated entry.1 entry.2 reason) ++
      settled.1.paths.terminateAll.1.map fun path => .dataPathTerminated path reason
  have plain : ∀ notice ∈ notices, notice.grants = false := by
    intro notice member
    rcases List.mem_append.mp member with listed | listed
    · obtain ⟨entry, _, rfl⟩ := List.mem_map.mp listed
      rfl
    · obtain ⟨path, _, rfl⟩ := List.mem_map.mp listed
      rfl
  have ended := Changes.tells
    { settled.1 with sessions := .empty, paths := .new settled.1.paths.graceMs } plain
  have torn := (Changes.aside engine drained.2 engine.interface).append
    (abandoned.append (fell.append ended))
  simp only [List.nil_append, notices, ← List.append_assoc] at torn
  exact torn

/-- **A command that ends and grants nothing is a sequence of changes.** -/
theorem conclude_changes (engine : Engine) (record : TransactionRecord) (outcome : Outcome)
    (plain : record.origin = .caller → grants (engine.settle record outcome).result = false) :
    engine.Changes (engine.conclude record outcome).2 (engine.conclude record outcome).1 := by
  unfold conclude
  split
  next => exact engine.strikeOff_changes record
  next origin =>
    have plain := plain origin
    unfold settle at plain ⊢
    split at plain
    next disable =>
      rw [if_pos disable]
      refine announce_changes ?_ plain record
      unfold settleDisable
      split
      next interface _ =>
        exact (Changes.aside engine engine.ledger interface).append
          (teardown_changes _ .interfaceDisabled)
      next interface _ => exact .aside engine engine.ledger interface
    next notDisable =>
      rw [if_neg notDisable]
      exact engine.announce_settleByItself_changes record outcome plain

theorem conclude_failed_changes (engine : Engine) (record : TransactionRecord)
    (failure : Failure) :
    engine.Changes (engine.conclude record (.error failure)).2
      (engine.conclude record (.error failure)).1 := by
  refine engine.conclude_changes record _ fun _ => ?_
  unfold settle
  split
  · rw [settleDisable_failed]
    rfl
  · exact engine.grants_settleByItself_failed record failure

theorem abandon_changes (engine : Engine) (records : List TransactionRecord) (failure : Failure) :
    engine.Changes (engine.abandon records failure).2 (engine.abandon records failure).1 :=
  .sweep (fun engine record => engine.conclude_failed_changes record failure) records engine

/-! ## Reactions -/

theorem expireTransactions_changes (engine : Engine) (now : Timestamp) :
    engine.Changes (engine.expireTransactions now).2.2 (engine.expireTransactions now).2.1 :=
  (Changes.aside engine _ engine.interface).append (abandon_changes _ _ .timeout)

theorem shutdown_changes (engine : Engine) : engine.Changes engine.shutdown.2 engine.shutdown.1 :=
  (Changes.aside engine _ engine.interface).append (abandon_changes _ _ .aborted)

theorem onInterfaceDown_changes (engine : Engine) (status : FirmwareStatus) :
    engine.Changes (engine.onInterfaceDown status).2 (engine.onInterfaceDown status).1 := by
  unfold onInterfaceDown
  split
  next interface _ => exact .aside engine engine.ledger interface
  next interface _ =>
    let superseded := engine.ledger.drainWhere fun record =>
      record.kind = .configure ∨ record.kind = .disable
    have abandoned := (Changes.aside engine superseded.2 interface).append
      (abandon_changes _ superseded.1 .aborted)
    have last (engine : Engine) : engine.Changes [.interfaceDown status] engine :=
      .of_change (.told _ rfl)
    exact (abandoned.append (teardown_changes _ .interfaceDown)).append (last _)

theorem onSessionTerminated_changes (engine : Engine) (id : SessionId) (status : FirmwareStatus) :
    engine.Changes (engine.onSessionTerminated id status).2
      (engine.onSessionTerminated id status).1 := by
  refine .after (.sessions (.ended id)) (.tells _ fun notice member => ?_)
  unfold onSessionTerminated at member
  dsimp only at member
  split at member
  · obtain rfl := List.mem_singleton.mp member
    rfl
  · cases member
  · cases member

theorem onPathRequested_changes (engine : Engine) (path : DataPathId) (peer : PeerId)
    (address : MacAddress) (appInfo : ByteArray) (now : Timestamp) :
    engine.Changes (engine.onPathRequested path peer address appInfo now).2
      (engine.onPathRequested path peer address appInfo now).1 := by
  unfold onPathRequested
  split
  · exact .after (.paths (.requested path peer address appInfo now)) (.tells_if _ rfl _)
  · exact .nil engine

end Engine

/-! ## Answers that grant something -/

namespace SessionRegistry

variable {registry : SessionRegistry} {txn : TransactionId} {id : SessionId}

/-- A start that goes well enters a session under a number that was free. -/
theorem resolveNew_ok {assigned : Except Failure SessionId} {started : SessionId × SessionRole}
    (well : (registry.resolveNew txn assigned).1 = .ok started) :
    ∃ id config, assigned = .ok id ∧ registry.starting[txn]? = some config ∧
      id.isAssigned = true ∧ registry.get? id = none ∧
      registry.resolveNew txn assigned = (.ok (id, config.role),
        { registry with starting := registry.starting.erase txn }.put id (.started id config)) := by
  rcases registry.resolveNew_cases txn assigned with ⟨_, failed, _⟩ | ⟨id, config, entered⟩
  · rw [failed] at well
    cases well
  · exact ⟨id, config, entered⟩

/-- A start that fails enters none. -/
theorem resolveNew_failed {assigned : Except Failure SessionId} {failure : Failure}
    (failed : (registry.resolveNew txn assigned).1 = .error failure) :
    (registry.resolveNew txn assigned).2.sessions = registry.sessions := by
  rcases registry.resolveNew_cases txn assigned with ⟨_, _, same⟩ | ⟨_, _, _, _, _, _, went⟩
  · exact same
  · rw [went] at failed
    cases failed

/-- An update that goes well finds its session active, and leaves it so. -/
theorem resolveUpdate_ok {outcome : Except Failure Unit}
    (well : (registry.resolveUpdate id txn outcome).1 = .ok ()) :
    ∃ session, registry.get? id = some session ∧ session.state = .active ∧ outcome = .ok () ∧
      registry.resolveUpdate id txn outcome = (.ok (),
        registry.put id { (session.detach txn).dropUpdate txn with
          config := (session.adoptUpdate txn).config }) := by
  unfold resolveUpdate at well ⊢
  cases found : registry.get? id with
  | none => simp [found] at well
  | some session =>
    simp only [found] at well ⊢
    cases active : session.isActive with
    | false => simp [active] at well
    | true =>
      have stage : session.state = .active := by simpa [Session.isActive] using active
      cases outcome with
      | error failure => simp [active] at well
      | ok =>
        refine ⟨session, rfl, stage, rfl, ?_⟩
        -- A session that is active is not done with, so it is not purged.
        have busy : Session.isDone { (session.detach txn).dropUpdate txn with
            config := (session.adoptUpdate txn).config } = false := by
          rw [Session.dropUpdate_eq]
          simp [Session.isDone, Session.detach, stage]
        simp only [if_true, purge, get?_put, busy, Bool.false_eq_true, if_false]

end SessionRegistry

namespace Engine

variable {engine : Engine} {record : TransactionRecord}
  {outcome : Except FirmwareStatus AnswerPayload}

/-- **What the firmware grants by its answer to a command**: a report of what it can do, a session
under a number that is free, or the configuration that a session was to take on. -/
inductive Granted (engine : Engine) (txn : TransactionId) :
    Except FirmwareStatus AnswerPayload → Reaction → Prop
  | surveyed (report : Capabilities) :
    Granted engine txn (.ok (.capabilities report))
      ({ engine with
          ledger := engine.ledger.rollback txn
          capabilities := engine.capabilities.store report },
        [.completed ⟨txn, .capabilities, .ok (.capabilities report)⟩])
  | started (id : SessionId) (config : DiscoveryConfig) (record : TransactionRecord)
    (onFile : engine.ledger.get? txn = some record)
    (about : record.context = .newSession config.role)
    (underWay : engine.sessions.starting[txn]? = some config)
    (assigned : id.isAssigned = true) (free : engine.sessions.get? id = none) :
    Granted engine txn (.ok (.sessionId id))
      ({ engine with
          ledger := engine.ledger.rollback txn
          sessions := { engine.sessions with
            starting := engine.sessions.starting.erase txn }.put id (.started id config) },
        [.completed ⟨txn, config.role.startKind, .ok (.sessionStarted id config.role)⟩])
  | updated (id : SessionId) (session : Session) (record : TransactionRecord)
    (payload : AnswerPayload) (onFile : engine.ledger.get? txn = some record)
    (about : record.context = .session id)
    (kind : ∃ role : SessionRole, record.kind = role.startKind)
    (found : engine.sessions.get? id = some session) (active : session.state = .active) :
    Granted engine txn (.ok payload)
      ({ engine with
          ledger := engine.ledger.rollback txn
          sessions := engine.sessions.put id { (session.detach txn).dropUpdate txn with
            config := (session.adoptUpdate txn).config } },
        [.completed ⟨txn, record.kind, .ok (.sessionUpdated id)⟩])

namespace Coherent

variable (coherent : engine.Coherent) (onFile : engine.ledger.get? record.id = some record)

include coherent onFile

/-- A start that goes well. -/
theorem granted_start {role : SessionRole} (kind : record.kind = role.startKind)
    (about : record.context = .newSession role)
    (granted : grants ((engine.upon (engine.ledger.rollback record.id)).settleStart record.id
      (outcome.mapError .firmware)).result = true) :
    engine.Granted record.id outcome (Engine.announce record
      ((engine.upon (engine.ledger.rollback record.id)).settleStart record.id
        (outcome.mapError .firmware))) := by
  have sessions : engine.sessions.Agrees _ := coherent.agrees .sessions
  obtain ⟨config, carried, rfl⟩ := sessions.starting_of_out
    (Ledger.docket_eq_some.mpr ⟨onFile, by rw [about]; rfl⟩) about
  cases resolved : (engine.sessions.resolveNew record.id
      (Outcome.sessionId (outcome.mapError .firmware))).1 with
  | error failure =>
    simp only [settleStart, upon, resolved] at granted
    cases granted
  | ok started =>
    obtain ⟨id, config', given, underWay, assigned, free, same⟩ :=
      SessionRegistry.resolveNew_ok resolved
    obtain rfl := Option.some.inj (carried.symm.trans underWay)
    have answer : outcome = .ok (.sessionId id) := by
      cases outcome with
      | error status => cases given
      | ok payload => exact congrArg Except.ok (Except.ok.inj (Outcome.of_sessionId given))
    have entered : engine.Granted record.id (.ok (.sessionId id)) _ :=
      .started id config record onFile about underWay assigned free
    rw [← kind] at entered
    subst answer
    simp only [settleStart, upon, same]
    exact entered

omit coherent in
/-- An update that goes well. -/
theorem granted_update {role : SessionRole} {id : SessionId} (kind : record.kind = role.startKind)
    (about : record.context = .session id)
    (granted : grants ((engine.upon (engine.ledger.rollback record.id)).settleUpdate record.id id
      (outcome.mapError .firmware)).result = true) :
    engine.Granted record.id outcome (Engine.announce record
      ((engine.upon (engine.ledger.rollback record.id)).settleUpdate record.id id
        (outcome.mapError .firmware))) := by
  cases resolved : (engine.sessions.resolveUpdate id record.id
      (Outcome.plain (outcome.mapError .firmware))).1 with
  | error failure =>
    simp only [settleUpdate, upon, resolved] at granted
    cases granted
  | ok done =>
    obtain ⟨session, found, active, given, same⟩ := SessionRegistry.resolveUpdate_ok resolved
    cases outcome with
    | error status => cases given
    | ok payload =>
      have adopted : engine.Granted record.id (.ok payload) _ :=
        .updated id session record payload onFile about ⟨role, kind⟩ found active
      simp only [settleUpdate, upon, same]
      exact adopted

end Coherent

/-- The end of a command that is to achieve something else grants nothing. -/
theorem grants_achieving {detail : CompletionDetail} (plain : detail.grants = false)
    (outcome : Outcome) : grants (outcome.achieving detail) = false := by
  cases outcome with
  | ok payload => exact plain
  | error failure => rfl

/-- **A command grants something only if it asks what the firmware can do, starts a session or
updates one.** -/
theorem kind_of_grants (commission : Commission record.kind record.context record.origin)
    {outcome : Outcome} (granted : grants (engine.settle record outcome).result = true) :
    record.kind = .capabilities ∨ ∃ role : SessionRole, record.kind = role.startKind ∧
      (record.context = .newSession role ∨ ∃ id, record.context = .session id) := by
  generalize kind : record.kind = kind', context : record.context = context',
    origin : record.origin = origin' at commission
  by_cases disable : kind' = .disable
  · rw [settle_disable (kind.trans disable)] at granted
    unfold settleDisable at granted
    split at granted
    · cases granted
    · cases outcome <;> cases granted
  · rw [settle_eq_settleByItself (kind ▸ disable)] at granted
    have achieves {detail : CompletionDetail} (plain : detail.grants = false) :
        grants (outcome.achieving detail) ≠ true :=
      Bool.eq_false_iff.mp (grants_achieving plain outcome)
    cases commission with
    | capabilities => exact .inl rfl
    | start role => exact .inr ⟨role, rfl, .inl rfl⟩
    | update role id => exact .inr ⟨role, rfl, .inr ⟨id, rfl⟩⟩
    | disable => exact absurd rfl disable
    | configure =>
      rw [settleByItself_configure kind] at granted
      unfold settleConfigure at granted
      split at granted
      · exact absurd granted (achieves rfl)
      · cases granted
    | message id =>
      rw [settleByItself_message kind context] at granted
      exact absurd granted (achieves rfl)
    | stop role id =>
      rw [settleByItself_stop kind context] at granted
      exact absurd granted (achieves rfl)
    | create name =>
      rw [settleByItself_create kind context] at granted
      exact absurd granted (achieves rfl)
    | delete name =>
      rw [settleByItself_delete kind context] at granted
      exact absurd granted (achieves rfl)
    | initiate =>
      rw [settleByItself_initiate kind context] at granted
      unfold settleInitiate at granted
      cases resolved : (engine.paths.resolveInitiate record.id outcome.pathId).1 <;>
        simp [resolved, grants, Except.map, CompletionDetail.grants] at granted
    | respond path =>
      rw [settleByItself_respond kind context] at granted
      unfold settleRespond at granted
      cases resolved : (engine.paths.resolveRespond path record.id outcome.plain).1 <;>
        simp [resolved, grants, Except.map, CompletionDetail.grants] at granted
    | close path =>
      rw [settleByItself_close kind context] at granted
      exact absurd granted (achieves rfl)

/-- **The answer to a command is a sequence of changes, or it grants something.** -/
theorem Coherent.onCompleted_granted (coherent : engine.Coherent) (txn : TransactionId)
    (outcome : Except FirmwareStatus AnswerPayload) :
    engine.Changes (engine.onCompleted txn outcome).2 (engine.onCompleted txn outcome).1 ∨
      engine.Granted txn outcome (engine.onCompleted txn outcome) := by
  cases onFile : engine.ledger.get? txn with
  | none =>
    rw [onCompleted_of_absent onFile]
    exact .inl (.nil engine)
  | some record =>
    obtain rfl := coherent.filed.own onFile
    rw [onCompleted_of_onFile onFile]
    by_cases granted : record.origin = .caller ∧ grants ((engine.upon
      (engine.ledger.rollback record.id)).settle record (outcome.mapError .firmware)).result = true
    · obtain ⟨origin, granted⟩ := granted
      have plain (role : SessionRole) : role.startKind ≠ .disable := by cases role <;> decide
      refine .inr ?_
      rw [conclude_caller origin]
      rcases kind_of_grants (coherent.commissioned onFile) granted with
        kind | ⟨role, kind, about | ⟨id, about⟩⟩
      · rw [settle_eq_settleByItself (by simp [kind]), settleByItself_capabilities kind] at granted ⊢
        cases outcome with
        | error status => cases granted
        | ok payload =>
          cases payload with
          | capabilities report =>
            have surveyed : engine.Granted record.id _ _ := .surveyed report
            rw [← kind] at surveyed
            exact surveyed
          | _ => cases granted
      · rw [settle_eq_settleByItself (kind ▸ plain role), settleByItself_start kind about] at granted ⊢
        exact coherent.granted_start onFile kind about granted
      · rw [settle_eq_settleByItself (kind ▸ plain role), settleByItself_update kind about]
          at granted ⊢
        exact granted_update onFile kind about granted
    · refine .inl ((Changes.aside engine (engine.ledger.rollback record.id) engine.interface).append
        (conclude_changes _ record _ fun origin => ?_))
      exact Bool.eq_false_iff.mpr fun grants => granted ⟨origin, grants⟩

end Engine

end NanHost
